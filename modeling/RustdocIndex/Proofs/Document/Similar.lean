import Mathlib.Data.List.Forall2
import RustdocIndex.Document.Shape
import RustdocIndex.Proofs.Fields

/-! Documents in different notations that look the same. -/
namespace RustdocIndex

variable {α β : Type}

/-- Shapes that are the same but for their parts, which are related. -/
inductive Shape.Similar (R : α → β → Prop) : Shape α → Shape β → Prop
  | null : Similar R .null .null
  | bool (b : Bool) : Similar R (.bool b) (.bool b)
  | int (n : Int) : Similar R (.int n) (.int n)
  | float (x : Binary64) : Similar R (.float x) (.float x)
  | text (t : Text) : Similar R (.text t) (.text t)
  | array {xs ys} (h : List.Forall₂ R xs ys) : Similar R (.array xs) (.array ys)
  | object {fs gs} (h : List.Forall₂ (fun f g => f.1 = g.1 ∧ R f.2 g.2) fs gs) :
      Similar R (.object fs) (.object gs)

namespace Document

variable [Document α] [Document β] {R : α → β → Prop} {a : α} {b : β}

/-- Related values look the same at every level. -/
def Similar (R : α → β → Prop) : Prop := ∀ a b, R a b → Shape.Similar R (shape a) (shape b)

theorem Similar.null (h : Similar R) (hr : R a b) (hb : shape b = .null) : shape a = .null := by
  have hs := h a b hr
  rw [hb] at hs
  generalize shape a = s at hs ⊢
  cases hs
  rfl

theorem Similar.int {n : Int} (h : Similar R) (hr : R a b) (hb : shape b = .int n) :
    shape a = .int n := by
  have hs := h a b hr
  rw [hb] at hs
  generalize shape a = s at hs ⊢
  cases hs
  rfl

/-- A text is the same in every notation; only lists and objects are alike part by part. -/
theorem Similar.text {t : Text} (h : Similar R) (hr : R a b) (hb : shape b = .text t) :
    shape a = .text t := by
  have hs := h a b hr
  rw [hb] at hs
  generalize shape a = s at hs ⊢
  cases hs
  rfl

theorem Similar.array {ys : List β} (h : Similar R) (hr : R a b) (hb : shape b = .array ys) :
    ∃ xs, shape a = .array xs ∧ List.Forall₂ R xs ys := by
  have hs := h a b hr
  rw [hb] at hs
  generalize shape a = s at hs ⊢
  cases hs with
  | array h => exact ⟨_, rfl, h⟩

/-- The fields are alike in their order, under the same names. -/
theorem Similar.object {gs : Fields Text β} (h : Similar R) (hr : R a b)
    (hb : shape b = .object gs) : ∃ fs, shape a = .object fs ∧
      List.Forall₂ (fun f g => f.1 = g.1 ∧ R f.2 g.2) fs gs := by
  have hs := h a b hr
  rw [hb] at hs
  generalize shape a = s at hs ⊢
  cases hs with
  | object h => exact ⟨_, rfl, h⟩

end Document

end RustdocIndex
