import RustdocIndex.Link.Crates
import RustdocIndex.Path.Parser
import RustdocIndex.Schema.Identity
import RustdocIndex.Web.Fetch

/-! Links of crates whose indexes are downloaded. -/
namespace RustdocIndex

/-- Why no link was looked up. -/
inductive LookupError
  | path (e : PathError)
  | identity (e : IdentityFault)
  | web (e : WebError)
  | payload (f : Payload.Failure)
  | noCrate (e : NoCrate)

abbrev Lookup := ExceptT LookupError (StateM (List String))

namespace Lookup

def ofWeb {α : Type} (x : Web α) : Lookup α := ExceptT.adapt LookupError.web x

end Lookup

namespace Network

/-- The name of a crate in the addresses of the registry's site. -/
def urlName (name : Text) : String := name.toString?.getD name.quoted

/-- The crates of the index of a crate on the registry's site. -/
def search (net : Network) (name : Text) (version : Option Text) :
    Lookup (List CrateLinks) := do
  let id ← (CrateIdentity.make name version .registry).mapError LookupError.identity
  let (found, payload) ← Lookup.ofWeb (net.fetchCrate (urlName name) id.version.text)
  (CrateLinks.load (.bytes payload) { id with version := found }).mapError LookupError.payload

/-- The crates of the standard library, linked on the channel that they are fetched from. -/
def stdlib (net : Network) : Lookup (List CrateLinks) := do
  let (version, payload) ← Lookup.ofWeb net.fetchStdlib
  let found ← ((Payload.bytes payload).decode none (some (Text.ofString version.text))).mapError
    LookupError.payload
  pure (found.map fun c => ⟨c, ⟨c.name, .channel stdlibRoot, .stdlib⟩⟩)

/-- What a path leads to among crates, and its address. -/
def lookIn (net : Network) (links : List CrateLinks) (path : SimplePath) :
    Except LookupError (Outcome × Option Text) := do
  let l ← (CrateLinks.pick links path.crateName).mapError .noCrate
  pure (l.resolve path, l.findLink net.sites path)

/-- What a path leads to, and its address. The standard library has one version only. -/
def findLink (net : Network) (path : SimplePath) (version : Option Text) :
    Lookup (Outcome × Option Text) := do
  let links ← if path.isStd then net.stdlib else net.search path.crateName version
  net.lookIn links path

end Network

end RustdocIndex
