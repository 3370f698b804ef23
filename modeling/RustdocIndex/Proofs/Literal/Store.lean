import Mathlib.Data.List.Forall2
import RustdocIndex.Json.Basic
import RustdocIndex.Literal.Store
import RustdocIndex.Proofs.Document.Similar
import RustdocIndex.Proofs.Fields

/-! Stores that hold JSON values. What a store holds is not lost when cells are added to it. -/
namespace RustdocIndex.Literal

variable {base : Nat} {store old new : Store} {v : Value} {x : Json}

/-- The new store has every cell of the old one, and the same in those from `base` on. -/
structure Extends (base : Nat) (old new : Store) : Prop where
  size : old.size ≤ new.size
  cell {i : Nat} : base ≤ i → i < old.size → new[i]? = old[i]?

theorem Extends.refl (store : Store) : Extends base store store := ⟨Nat.le_refl _, fun _ _ => rfl⟩

/-- Cells that each step leaves alone are left alone by both. -/
theorem Extends.trans {first middle last : Store} (h : Extends base first middle)
    (h' : Extends base middle last) : Extends base first last where
  size := Nat.le_trans h.size h'.size
  cell hb hi := (h'.cell hb (Nat.lt_of_lt_of_le hi h.size)).trans (h.cell hb hi)

theorem Extends.mono {base' : Nat} (h : Extends base old new) (hb : base ≤ base') :
    Extends base' old new :=
  ⟨h.size, fun hi => h.cell (Nat.le_trans hb hi)⟩

theorem extends_push (store : Store) (c : Cell) : Extends base store (store.push c) where
  size := by simp
  cell {i} _ hi := by rw [Array.getElem?_push, if_neg (by omega)]

/-- Changing a cell below the base touches nothing that was allocated since. -/
theorem extends_set {i : Nat} (hi : i < base) (store : Store) (c : Cell) :
    Extends base store (store.setIfInBounds i c) where
  size := by simp
  cell {j} hj _ := by rw [Array.getElem?_setIfInBounds_ne (by omega)]

/-- A value stands for a JSON value, with cells from `base` on. -/
inductive Holds (base : Nat) (store : Store) : Value → Json → Prop
  | null : Holds base store .null .null
  | bool (b : Bool) : Holds base store (.bool b) (.bool b)
  | int (n : Int) : Holds base store (.int n) (.int n)
  | text (t : Text) : Holds base store (.text t) (.text t)
  | array {cell vs xs} (hb : base ≤ cell) (hc : store[cell]? = some (.array vs))
      (hlen : vs.length = xs.length) (h : ∀ v x, (v, x) ∈ vs.zip xs → Holds base store v x) :
      Holds base store (.ref cell) (.array xs)
  | object {cell fs ys} (hb : base ≤ cell) (hc : store[cell]? = some (.object fs))
      (hlen : fs.length = ys.length) (hkeys : ∀ f y, (f, y) ∈ fs.zip ys → f.1 = y.1)
      (h : ∀ f y, (f, y) ∈ fs.zip ys → Holds base store f.2 y.2) :
      Holds base store (.ref cell) (.object ys)

/-- A value is held as long as its own cells are left alone. -/
theorem Holds.extend (he : Extends base old new) (h : Holds base old v x) : Holds base new v x := by
  have hcell {cell : Nat} {c : Cell} (hb : base ≤ cell) (hc : old[cell]? = some c) :
      new[cell]? = some c := by
    rw [he.cell hb (Array.getElem?_eq_some_iff.mp hc).1, hc]
  induction h with
  | null => exact .null
  | bool b => exact .bool b
  | int n => exact .int n
  | text t => exact .text t
  | array hb hc hlen _ ih => exact .array hb (hcell hb hc) hlen ih
  | object hb hc hlen hkeys _ ih => exact .object hb (hcell hb hc) hlen hkeys ih

/-- Fields that stand for fields of JSON values. -/
def HoldsField (base : Nat) (store : Store) (f : Text × Value) (y : Text × Json) : Prop :=
  f.1 = y.1 ∧ Holds base store f.2 y.2

theorem holds_array {cell : Nat} {vs : List Value} {xs : List Json} (hb : base ≤ cell)
    (hc : store[cell]? = some (.array vs)) (h : List.Forall₂ (Holds base store) vs xs) :
    Holds base store (.ref cell) (.array xs) := by
  obtain ⟨hlen, h⟩ := List.forall₂_iff_zip.mp h
  exact .array hb hc hlen fun _ _ => h

theorem holds_object {cell : Nat} {fs : Fields Text Value} {ys : Fields Text Json}
    (hb : base ≤ cell) (hc : store[cell]? = some (.object fs))
    (h : List.Forall₂ (HoldsField base store) fs ys) :
    Holds base store (.ref cell) (.object ys) := by
  obtain ⟨hlen, h⟩ := List.forall₂_iff_zip.mp h
  exact .object hb hc hlen (fun _ _ hm => (h hm).1) fun _ _ hm => (h hm).2

theorem Holds.extendAll {vs : List Value} {xs : List Json} (he : Extends base old new)
    (h : List.Forall₂ (Holds base old) vs xs) : List.Forall₂ (Holds base new) vs xs :=
  h.imp fun _ _ => Holds.extend he

theorem Holds.extendFields {fs : Fields Text Value} {ys : Fields Text Json}
    (he : Extends base old new) (h : List.Forall₂ (HoldsField base old) fs ys) :
    List.Forall₂ (HoldsField base new) fs ys :=
  h.imp fun _ _ hf => ⟨hf.1, hf.2.extend he⟩

/-- Putting a field replaces or adds it on both sides. -/
theorem holdsField_put {fs : Fields Text Value} {ys : Fields Text Json} {key : Text}
    (h : List.Forall₂ (HoldsField base store) fs ys) (hx : Holds base store v x) :
    List.Forall₂ (HoldsField base store) (fs.put key v) (ys.put key x) :=
  Fields.put_forall₂ h hx

/-- A new cell does not disturb what a store holds. -/
theorem holds_alloc_array {vs : List Value} {xs : List Json} (hb : base ≤ store.size)
    (h : List.Forall₂ (Holds base store) vs xs) :
    Holds base (store.push (.array vs)) (.ref store.size) (.array xs) :=
  holds_array hb Array.getElem?_push_size (Holds.extendAll (extends_push store _) h)

theorem holds_alloc_object {fs : Fields Text Value} {ys : Fields Text Json}
    (hb : base ≤ store.size) (h : List.Forall₂ (HoldsField base store) fs ys) :
    Holds base (store.push (.object fs)) (.ref store.size) (.object ys) :=
  holds_object hb Array.getElem?_push_size (Holds.extendFields (extends_push store _) h)

/-- What stands for a JSON value looks like it. -/
theorem similar_holds (base : Nat) :
    Document.Similar fun (n : Node) (x : Json) => Holds base n.store n.value x := by
  rintro ⟨store, v⟩ x h
  cases h with
  | null => exact .null
  | bool b => exact .bool b
  | int n => exact .int n
  | text t => exact .text t
  | @array cell vs xs hb hc hlen h =>
    have hs : Document.shape (⟨store, .ref cell⟩ : Node) = .array (vs.map (⟨store, ·⟩)) := by
      simp [Document.shape, Node.shape, hc]
    rw [hs]
    refine .array (List.forall₂_map_left_iff.mpr (List.forall₂_iff_zip.mpr ⟨hlen, ?_⟩))
    exact fun hm => h _ _ hm
  | @object cell fs ys hb hc hlen hkeys h =>
    have hs : Document.shape (⟨store, .ref cell⟩ : Node) =
        .object (fs.map fun f => (f.1, ⟨store, f.2⟩)) := by
      simp [Document.shape, Node.shape, hc]
    rw [hs]
    refine .object (List.forall₂_map_left_iff.mpr (List.forall₂_iff_zip.mpr ⟨hlen, ?_⟩))
    exact fun hm => ⟨hkeys _ _ hm, h _ _ hm⟩

end RustdocIndex.Literal
