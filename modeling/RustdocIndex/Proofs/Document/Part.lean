import RustdocIndex.Document.Shape

/-! The parts of a document. -/
namespace RustdocIndex.Document

variable {α : Type} [Document α]

/-- What a value holds, at whatever depth, and the value itself. -/
inductive Part : α → α → Prop
  | refl (a : α) : Part a a
  | element {a : α} {xs : List α} {b c : α} (h : shape a = .array xs) (hb : b ∈ xs)
      (hc : Part b c) : Part a c
  | field {a : α} {fields : Fields Text α} {k : Text} {b c : α} (h : shape a = .object fields)
      (hb : (k, b) ∈ fields) (hc : Part b c) : Part a c

/-- A part of a part is a part, as a crate's data is of a document and a cell is of that. -/
theorem Part.trans {a b c : α} (hab : Part a b) (hbc : Part b c) : Part a c := by
  induction hab with
  | refl => exact hbc
  | element h hb _ ih => exact .element h hb (ih hbc)
  | field h hb _ ih => exact .field h hb (ih hbc)

theorem Part.of_element {a b : α} {xs : List α} (h : shape a = .array xs) (hb : b ∈ xs) :
    Part a b := .element h hb (.refl b)

end RustdocIndex.Document
