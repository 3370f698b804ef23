import RustdocIndex.Link.Page
import RustdocIndex.Payload.Decode

/-! Decoded crates with the identities that their links are built for. -/
namespace RustdocIndex

structure CrateLinks where
  crate : Crate
  identity : CrateIdentity
  deriving DecidableEq

/-- No crate has the name that a path begins with. -/
structure NoCrate where
  name : Text
  present : List Text

def NoCrate.message (e : NoCrate) : String :=
  let names := ", ".intercalate (e.present.map Text.quoted)
  s!"crate {e.name.quoted} not found among [{names}]"

namespace CrateLinks

def name (l : CrateLinks) : Text := l.crate.name

def index (l : CrateLinks) : Index := l.crate.index

/-- The crate on one line. -/
def summary (l : CrateLinks) : String :=
  s!"CrateLinks(name={l.name.quoted}, version={quote l.identity.version.text}, " ++
    s!"items={l.index.items.length})"

def resolve (l : CrateLinks) (path : SimplePath) : Outcome := l.index.resolve path

/-- The address of what a path leads to. -/
def findLink (sites : Sites) (l : CrateLinks) (path : SimplePath) : Option Text :=
  (l.resolve path).url? sites l.identity

/-- The address of every path. -/
def mapping (sites : Sites) (l : CrateLinks) : Fields Text Text :=
  l.index.mapping.map fun (path, page) => (path, baseUrl sites l.identity ++ slash :: page)

/-- The version that decoded crates are recorded under. -/
def recordedVersion : Version → Option Text
  | .latest => none
  | v => some (Text.ofString v.text)

/-- The crates of a payload. Those that the identity does not name get one with their own names. -/
def load (p : Payload) (id : CrateIdentity) : Except Payload.Failure (List CrateLinks) := do
  let found ← p.decode none (recordedVersion id.version)
  pure (found.map fun c =>
    let named := c.name = id.name ∨ c.name = id.name.replace '-' '_'
    ⟨c, if named then id else { id with name := c.name }⟩)

/-- The crate of a name, in which underscores stand for hyphens. -/
def pick (links : List CrateLinks) (name : Text) : Except NoCrate CrateLinks :=
  match links.find? (·.name == name.replace '-' '_') with
  | some l => .ok l
  | none => .error ⟨name, links.map (·.name)⟩

end CrateLinks

end RustdocIndex
