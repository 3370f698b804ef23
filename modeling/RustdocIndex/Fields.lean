/-! Keys with values, in the order in which the keys first came. -/
namespace RustdocIndex

abbrev Fields (κ α : Type) := List (κ × α)

namespace Fields

variable {κ α : Type} [DecidableEq κ]

def get? (k : κ) : Fields κ α → Option α
  | [] => none
  | (k', v) :: more => if k' = k then some v else get? k more

/-- A key that is there keeps its place and takes the new value; a new one comes last. -/
def put (k : κ) (v : α) : Fields κ α → Fields κ α
  | [] => [(k, v)]
  | (k', v') :: more => if k' = k then (k, v) :: more else (k', v') :: put k v more

/-- A key that is there keeps its value. -/
def putNew (k : κ) (v : α) (fields : Fields κ α) : Fields κ α :=
  match get? k fields with
  | some _ => fields
  | none => fields ++ [(k, v)]

end Fields

end RustdocIndex
