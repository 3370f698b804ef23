import RustdocIndex.Payload.Build

/-! The fields of a crate's data that the layouts share. Each is read for a generation, in whose name
it is refused. -/
namespace RustdocIndex.Payload

variable {α : Type} [Document α]

/-- The fields of a crate's data. -/
def fieldsOf (g : Generation) (data : α) : Except CrateError (Fields Text α) :=
  match Document.shape data with
  | .object fields => .ok fields
  | _ => .error ⟨g, .notAnObject⟩

/-- The value of a field that must be there. -/
def field (g : Generation) (data : α) (key : String) : Except CrateError α := do
  let fields ← fieldsOf g data
  match Fields.get? (Text.ofString key) fields with
  | some x => pure x
  | none => .error ⟨g, .missingField key⟩

def wrongType {β : Type} (g : Generation) (key : String) (x : Shape α) : Except CrateError β :=
  .error ⟨g, .fieldType key x.typeName⟩

/-- The elements of a field that must be a list. -/
def listField (g : Generation) (data : α) (key : String) : Except CrateError (List α) := do
  match Document.shape (← field g data key) with
  | .array xs => pure xs
  | x => wrongType g key x

/-- A field that may be left out. -/
def field? (data : α) (key : String) : Option α :=
  match Document.shape data with
  | .object fields => Fields.get? (Text.ofString key) fields
  | _ => none

/-- The summary of a crate; whatever is empty stands for none. -/
def docField (g : Generation) (data : α) : Except CrateError Text :=
  match (field? data "doc").map Document.shape with
  | none => .ok []
  | some (.text t) => .ok t
  | some x => if x.isEmpty then .ok [] else .error ⟨g, .docNotText⟩

/-- A name that is a text and not empty. -/
def itemName (x : α) : Except ItemProblem Text :=
  match Document.shape x with
  | .text (c :: t) => .ok (c :: t)
  | _ => .error (.invalidName (Document.picture x))

/-- One entry of the paths table, of which all but the kind and the name is left out. -/
def pathEntry (g : Generation) (position : Nat) (x : α) : Except CrateError PathEntry :=
  match Document.shape x with
  | .array (code :: name :: _) =>
    match Document.shape name with
    | .text t =>
      match ItemKind.ofCode code with
      | .ok kind => .ok ⟨kind, t⟩
      | .error p => .error ⟨g, .entryCode position p⟩
    | _ => .error ⟨g, .invalidEntry position (Document.picture x)⟩
  | _ => .error ⟨g, .invalidEntry position (Document.picture x)⟩

def pathEntries (g : Generation) (xs : List α) : Except CrateError (List PathEntry) :=
  xs.zipIdx.mapM fun (x, position) => pathEntry g position x

end RustdocIndex.Payload
