import Mathlib.Data.List.Perm.Subperm
import RustdocIndex.Proofs.Literal.Store

/-! Pictures of values that stand for JSON values. -/
namespace RustdocIndex

theorem Json.pictures_eq_map (xs : List Json) : pictures xs = xs.map picture := by
  induction xs with
  | nil => rfl
  | cons x xs ih => rw [pictures, ih, List.map_cons]

theorem Json.fieldPictures_eq_map (fields : List (Text × Json)) :
    fieldPictures fields = fields.map fun (k, x) => (k, picture x) := by
  induction fields with
  | nil => rfl
  | cons f fields ih => rw [fieldPictures, ih, List.map_cons]

namespace Literal

variable {base : Nat} {store : Store} {v : Value} {x y : Json} {path : List Nat} {cell : Nat}

theorem eq_of_zip {α β : Type} {vs : List α} {xs ys : List β} (hx : vs.length = xs.length)
    (hy : vs.length = ys.length)
    (h : ∀ v x, (v, x) ∈ vs.zip xs → ∀ y, (v, y) ∈ vs.zip ys → x = y) : xs = ys := by
  refine List.ext_getElem (hx.symm.trans hy) fun i hi hi' => ?_
  have hv : i < vs.length := hx ▸ hi
  have mem {zs : List β} (hz : i < zs.length) : (vs[i], zs[i]) ∈ vs.zip zs :=
    List.mem_iff_getElem.mpr ⟨i, by rw [List.length_zip]; omega, List.getElem_zip⟩
  exact h _ _ (mem hi) _ (mem hi')

theorem map_eq_of_forall₂ {α β γ : Type} {f : α → γ} {g : β → γ} {xs : List α} {ys : List β}
    (h : List.Forall₂ (fun x y => f x = g y) xs ys) : xs.map f = ys.map g := by
  induction h with
  | nil => rfl
  | cons hxy _ ih => rw [List.map_cons, List.map_cons, hxy, ih]

/-- A value stands for one JSON value only. -/
theorem Holds.unique (hx : Holds base store v x) (hy : Holds base store v y) : x = y := by
  induction hx generalizing y with
  | null => cases hy; rfl
  | bool b => cases hy; rfl
  | int n => cases hy; rfl
  | text t => cases hy; rfl
  | array _ hc hlen _ ih =>
    cases hy with
    | array _ hc' hlen' h' =>
      cases hc.symm.trans hc'
      rw [eq_of_zip hlen hlen' fun v x hm y hm' => ih v x hm (h' v y hm')]
    | object _ hc' => cases hc.symm.trans hc'
  | object _ hc hlen hkeys _ ih =>
    cases hy with
    | array _ hc' => cases hc.symm.trans hc'
    | object _ hc' hlen' hkeys' h' =>
      cases hc.symm.trans hc'
      rw [eq_of_zip hlen hlen' fun f x hm y hm' => Prod.ext
        ((hkeys f x hm).symm.trans (hkeys' f y hm')) (ih f x hm (h' f y hm'))]

theorem levelsUp?_of_notMem (h : cell ∉ path) : levelsUp? cell path = none := by
  induction path with
  | nil => rfl
  | cons a path ih =>
    rw [List.mem_cons, not_or] at h
    rw [levelsUp?, if_neg (Ne.symm h.1), ih h.2]
    rfl

/-- A way down to a value for `x`, through cells that all stand for something bigger. -/
structure Leads (base : Nat) (store : Store) (path : List Nat) (x : Json) : Prop where
  nodup : path.Nodup
  above {cell : Nat} : cell ∈ path → ∃ y, Holds base store (.ref cell) y ∧ sizeOf x < sizeOf y

theorem leads_nil (base : Nat) (store : Store) (x : Json) : Leads base store [] x :=
  ⟨.nil, nofun⟩

theorem Holds.lt_size (h : Holds base store (.ref cell) x) : cell < store.size := by
  cases h with
  | array _ hc | object _ hc => exact (Array.getElem?_eq_some_iff.mp hc).1

theorem Leads.length_le (h : Leads base store path x) : path.length ≤ store.size := by
  have hsub : path ⊆ List.range store.size := fun cell hm => by
    obtain ⟨y, hy, -⟩ := h.above hm
    exact List.mem_range.mpr hy.lt_size
  simpa using (List.subperm_of_subset h.nodup hsub).length_le

theorem Leads.notMem (h : Leads base store path x) (hx : Holds base store (.ref cell) x) :
    cell ∉ path := by
  intro hm
  obtain ⟨y, hy, hlt⟩ := h.above hm
  rw [hx.unique hy] at hlt
  exact Nat.lt_irrefl _ hlt

theorem Leads.cons (h : Leads base store path x) (hx : Holds base store (.ref cell) x)
    (hy : sizeOf y < sizeOf x) : Leads base store (cell :: path) y where
  nodup := List.nodup_cons.mpr ⟨h.notMem hx, h.nodup⟩
  above {c} hm := by
    rcases List.mem_cons.mp hm with rfl | hm
    · exact ⟨x, hx, hy⟩
    · obtain ⟨z, hz, hlt⟩ := h.above hm
      exact ⟨z, hz, Nat.lt_trans hy hlt⟩

/-- A level is left at every cell on the way, since no cell comes twice. -/
theorem Leads.exists_level {levels : Nat} (h : Leads base store path x)
    (hx : Holds base store (.ref cell) x) (hl : store.size < levels + path.length) :
    ∃ left, levels = left + 1 ∧ store.size < left + (cell :: path).length := by
  have hnodup : (cell :: path).Nodup := List.nodup_cons.mpr ⟨h.notMem hx, h.nodup⟩
  have hle := h.length_le
  obtain ⟨left, rfl⟩ := Nat.exists_eq_add_one_of_ne_zero (show levels ≠ 0 by omega)
  exact ⟨left, rfl, by rw [List.length_cons]; omega⟩

theorem sizeOf_lt_array {xs : List Json} (h : x ∈ xs) : sizeOf x < sizeOf (Json.array xs) := by
  have := List.sizeOf_lt_of_mem h
  simp only [Json.array.sizeOf_spec]
  omega

theorem sizeOf_lt_object {k : Text} {fields : List (Text × Json)} (h : (k, x) ∈ fields) :
    sizeOf x < sizeOf (Json.object fields) := by
  have := List.sizeOf_lt_of_mem h
  simp only [Json.object.sizeOf_spec, Prod.mk.sizeOf_spec] at this ⊢
  omega

/-- The induction is on what the value stands for. The way down to it never comes back to a cell,
so nothing is drawn as a repetition, and a level is left for each cell. -/
theorem draw_of_holds (h : Holds base store v x) {levels : Nat} (hp : Leads base store path x)
    (hl : store.size < levels + path.length) : draw store levels path v = x.picture := by
  induction h generalizing levels path with
  | null => rw [draw.eq_def]; rfl
  | bool b => rw [draw.eq_def]; rfl
  | int n => rw [draw.eq_def]; rfl
  | text t => rw [draw.eq_def]; rfl
  | @array cell vs xs hb hc hlen h ih =>
    have hx : Holds base store (.ref cell) (.array xs) := .array hb hc hlen h
    obtain ⟨left, rfl, hleft⟩ := hp.exists_level hx hl
    have hall : List.Forall₂ (fun v x => draw store left (cell :: path) v = x.picture) vs xs :=
      List.forall₂_iff_zip.mpr ⟨hlen, fun hm =>
        ih _ _ hm (hp.cons hx (sizeOf_lt_array (List.of_mem_zip hm).2)) hleft⟩
    rw [draw, hc, levelsUp?_of_notMem (hp.notMem hx), Json.picture, Json.pictures_eq_map]
    exact congrArg Tree.array (map_eq_of_forall₂ hall)
  | @object cell fs ys hb hc hlen hkeys h ih =>
    have hx : Holds base store (.ref cell) (.object ys) := .object hb hc hlen hkeys h
    obtain ⟨left, rfl, hleft⟩ := hp.exists_level hx hl
    have hall : List.Forall₂ (fun f y => (f.1, draw store left (cell :: path) f.2) =
        (y.1, Json.picture y.2)) fs ys :=
      List.forall₂_iff_zip.mpr ⟨hlen, fun hm => Prod.ext (hkeys _ _ hm)
        (ih _ _ hm (hp.cons hx (sizeOf_lt_object (List.of_mem_zip hm).2)) hleft)⟩
    rw [draw, hc, levelsUp?_of_notMem (hp.notMem hx), Json.picture, Json.fieldPictures_eq_map]
    exact congrArg Tree.object (map_eq_of_forall₂ hall)

/-- What stands for a JSON value is drawn as that value. -/
theorem picture_of_holds (h : Holds base store v x) :
    Document.picture (⟨store, v⟩ : Node) = Document.picture x :=
  draw_of_holds h (leads_nil base store x) (by simp)

end Literal

end RustdocIndex
