import RustdocIndex.Schema.Scalar

/-! Checks of lists and of objects with named fields. -/
namespace RustdocIndex.Schema

variable {α : Type}

/-- A value for the field `name`. -/
def Checked.field (name : String) (a : Checked α) : Checked α := a.under (.field name)

/-- A field that must be there. -/
def required (name : String) (check : Json → Checked α) (fields : Fields Text Json) : Checked α :=
  match Fields.get? (Text.ofString name) fields with
  | none => (Checked.problem .missing).field name
  | some x => (check x).field name

/-- A field that may be left out. -/
def optional (name : String) (absent : α) (check : Json → Checked α) (fields : Fields Text Json) :
    Checked α :=
  match Fields.get? (Text.ofString name) fields with
  | none => .valid absent
  | some x => (check x).field name

/-- Fields of other names are not allowed. -/
def noOthers (names : List String) (fields : Fields Text Json) : Checked Unit :=
  match fields.filter fun (k, _) => !(names.map Text.ofString).contains k with
  | [] => .valid ()
  | others => .invalid (others.map fun (k, _) => ⟨[.field k], .unexpected⟩)

/-- An object of a model, of which every field is known. -/
def model (source : Source) (title : String) (names : List String)
    (check : Fields Text Json → Checked α) : Json → Checked α
  | .object fields => Function.const Unit <$> check fields <*> noOthers names fields
  | _ => .problem (.notModel source title)

/-- A list whose elements are all checked. -/
def elements (check : Json → Checked α) (xs : List Json) : List (Checked α) :=
  xs.zipIdx.map fun (x, i) => (check x).under (.position i)

def list (source : Source) (check : Json → Checked α) : Json → Checked (List α)
  | .array xs => .all (elements check xs)
  | _ => .problem (.notArray source)

/-- A list with a valid element or more. -/
def nonemptyList (source : Source) (check : Json → Checked α) : Json → Checked (List α)
  | .array xs =>
    let found := elements check xs
    if found.any (·.isValid) then .all found
    else .apply (Function.const (List α) <$> .all found) (.problem .tooFewElements)
  | _ => .problem (.notArray source)

end RustdocIndex.Schema
