import RustdocIndex.Payload.Field

/-! The layout with one row for each item: kind, name, module path, description and parent. -/
namespace RustdocIndex.Payload

variable {α : Type} [Document α]

/-- A text that may be null or left out. -/
def optionalText (x : Option α) : Option (Option Text) :=
  match x.map Document.shape with
  | none | some .null => some none
  | some (.text t) => some (some t)
  | _ => none

/-- An integer that may be null or left out. -/
def optionalInt (x : Option α) : Option (Option Int) :=
  match x.map Document.shape with
  | none | some .null => some none
  | some (.int n) => some (some n)
  | _ => none

def shownIn (x : Option α) : Tree := (x.map Document.picture).getD .null

/-- The item of a row. What stands after the parent is left out. -/
def rowEntry (row : α) : Except ItemProblem Entry :=
  match Document.shape row with
  | .array (code :: name :: more) => do
    let name ← itemName name
    let path ← (optionalText more[0]?).elim (.error (.invalidPath (shownIn more[0]?))) pure
    let desc ← (optionalText more[1]?).elim (.error (.invalidDescription (shownIn more[1]?))) pure
    let parent ← (optionalInt more[2]?).elim (.error (.invalidParent (shownIn more[2]?))) pure
    let kind ← (ItemKind.ofCode code).mapError .invalidCode
    pure ⟨kind, name, path, desc, parent⟩
  | _ => .error (.notARow (Document.picture row))

def rowEntries (g : Generation) (xs : List α) : Except CrateError (List Entry) :=
  xs.zipIdx.mapM fun (x, position) => (rowEntry x).mapError (.item g position)

/-- A crate in rows, which two generations have. -/
def rowDraft (g : Generation) (name : Text) (data : α) : Except CrateError Draft := do
  let items ← listField g data "i"
  let entries ← listField g data "p"
  let doc ← docField g data
  let rows ← rowsOf g (← rowEntries g items)
  let paths ← pathEntries g entries
  pure ⟨name, doc, rows, paths⟩

/-- Whether the items of a crate are lists; in columns, none is. -/
def inRows (data : α) : Bool :=
  match (field? data "i").map Document.shape with
  | some (.array xs) => xs.all fun x => (Document.shape x).isArray
  | _ => false

end RustdocIndex.Payload
