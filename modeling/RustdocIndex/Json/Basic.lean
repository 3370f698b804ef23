import RustdocIndex.Document.Shape

/-! JSON values. Objects keep the order of their keys, and integers differ from other numbers. -/
namespace RustdocIndex

inductive Json
  | null
  | bool (b : Bool)
  | int (n : Int)
  | float (x : Binary64)
  | text (t : Text)
  | array (xs : List Json)
  | object (fields : List (Text × Json))

namespace Json

def shape : Json → Shape Json
  | null => .null
  | bool b => .bool b
  | int n => .int n
  | float x => .float x
  | text t => .text t
  | array xs => .array xs
  | object fields => .object fields

mutual

def picture : Json → Tree
  | null => .null
  | bool b => .bool b
  | int n => .int n
  | float x => .float x
  | text t => .text t
  | array xs => .array (pictures xs)
  | object fields => .object (fieldPictures fields)

def pictures : List Json → List Tree
  | [] => []
  | x :: xs => picture x :: pictures xs

def fieldPictures : List (Text × Json) → List (Text × Tree)
  | [] => []
  | (k, x) :: fields => (k, picture x) :: fieldPictures fields

end

instance : Document Json := ⟨shape, picture⟩

mutual

/-- Values are told apart by their pictures. -/
theorem picture_inj (x y : Json) : picture x = picture y ↔ x = y := by
  cases x with
  | array xs => cases y <;> simp [picture, pictures_inj xs]
  | object fields => cases y <;> simp [picture, fieldPictures_inj fields]
  | null | bool _ | int _ | float _ | text _ => cases y <;> simp [picture]

theorem pictures_inj (xs ys : List Json) : pictures xs = pictures ys ↔ xs = ys := by
  cases xs with
  | nil => cases ys <;> simp [pictures]
  | cons x xs => cases ys <;> simp [pictures, picture_inj x, pictures_inj xs]

theorem fieldPictures_inj (fields others : List (Text × Json)) :
    fieldPictures fields = fieldPictures others ↔ fields = others := by
  cases fields with
  | nil => cases others <;> simp [fieldPictures]
  | cons f fields =>
    cases others <;> simp [fieldPictures, picture_inj f.2, fieldPictures_inj fields, Prod.ext_iff]

end

instance : DecidableEq Json := fun x y => decidable_of_iff _ (picture_inj x y)

end Json

end RustdocIndex
