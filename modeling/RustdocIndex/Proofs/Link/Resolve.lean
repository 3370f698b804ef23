import RustdocIndex.Link.Outcome
import RustdocIndex.Proofs.Crate.Path

/-! Looking a path up finds the first item that has the path. -/
namespace RustdocIndex.Index

variable {index : Index} {item : Item} {names : List Text} {p q : SimplePath} {i : Nat}

/-- Comparing the last segment first passes over no item that has the path. -/
theorem find?_eq (index : Index) (names : List Text) : index.find? names =
    index.items.zipIdx.find? fun (item, _) => index.qualified? item == some names := by
  rw [find?]
  congr 1
  funext ⟨item, position⟩
  have hlast : index.qualified? item = some names → names.getLast? = some item.name :=
    getLast?_of_qualified?
  rw [Bool.eq_iff_iff]
  simpa using hlast

theorem find?_eq_some : index.find? names = some (item, i) ↔
    index.items[i]? = some item ∧ index.qualified? item = some names ∧
      ∀ j < i, ∀ other, index.items[j]? = some other → index.qualified? other ≠ some names := by
  rw [find?_eq, List.find?_eq_some_iff_getElem]
  simp only [List.length_zipIdx, List.getElem_zipIdx, Nat.zero_add, Prod.mk.injEq, beq_iff_eq,
    Bool.not_eq_true', beq_eq_false_iff_ne]
  constructor
  · rintro ⟨hq, _, hi, ⟨rfl, rfl⟩, hfirst⟩
    refine ⟨List.getElem?_eq_getElem hi, hq, ?_⟩
    intro j hj other hother
    obtain ⟨_, rfl⟩ := List.getElem?_eq_some_iff.mp hother
    exact hfirst j hj
  · rintro ⟨hitem, hq, hfirst⟩
    obtain ⟨hi, rfl⟩ := List.getElem?_eq_some_iff.mp hitem
    refine ⟨hq, i, hi, ⟨rfl, rfl⟩, ?_⟩
    intro j hj
    exact hfirst j hj _ (List.getElem?_eq_getElem (Nat.lt_trans hj hi))

theorem find?_eq_none_iff : index.find? names = none ↔
    ∀ item ∈ index.items, index.qualified? item ≠ some names := by
  rw [find?_eq, List.find?_eq_none]
  constructor
  · intro h item hitem
    obtain ⟨i, hi⟩ := List.mem_iff_getElem?.mp hitem
    simpa using h (item, i) (List.mem_zipIdx_iff_getElem?.mpr hi)
  · rintro h ⟨item, i⟩ hm
    simpa using h item (List.fst_mem_of_mem_zipIdx hm)

/-- What a path leads to: nothing in another crate, the crate itself, or the first item that has
the path. -/
inductive LeadsTo (index : Index) (p : SimplePath) : Outcome → Prop
  | otherCrate (hcrate : p.crateName ≠ index.crateName) : LeadsTo index p (.notFound p.text)
  | crateRoot (hcrate : p.crateName = index.crateName) (hone : p.segments.length = 1) :
      LeadsTo index p (.crateRoot index.crateName)
  | found {item : Item} {i : Nat} (hcrate : p.crateName = index.crateName)
      (hmore : 1 < p.segments.length) (hitem : index.items[i]? = some item)
      (hpath : index.qualified? item = some p.names)
      (hfirst : ∀ j < i, ∀ other, index.items[j]? = some other →
        index.qualified? other ≠ some p.names) :
      LeadsTo index p (.found ⟨i, item, Text.joinColons p.names, index.owner? item⟩)
  | missing (hcrate : p.crateName = index.crateName) (hmore : 1 < p.segments.length)
      (hnone : ∀ item ∈ index.items, index.qualified? item ≠ some p.names) :
      LeadsTo index p (.notFound p.text)

theorem isCrateOnly_iff : p.isCrateOnly ↔ p.segments.length = 1 := by
  simp [SimplePath.isCrateOnly, SimplePath.segments]

theorem not_isCrateOnly_iff : ¬ p.isCrateOnly ↔ 1 < p.segments.length := by
  have hpos : 0 < p.segments.length := Nat.succ_pos _
  rw [isCrateOnly_iff]
  omega

theorem leadsTo_resolve (index : Index) (p : SimplePath) : index.LeadsTo p (index.resolve p) := by
  unfold resolve
  split
  · next hcrate => exact .otherCrate hcrate
  · next hcrate =>
    have hcrate : p.crateName = index.crateName := not_not.mp hcrate
    split
    · next hone => exact .crateRoot hcrate (isCrateOnly_iff.mp hone)
    · next hmore =>
      have hmore : 1 < p.segments.length := not_isCrateOnly_iff.mp hmore
      split
      · next item i hfind =>
        obtain ⟨hitem, hpath, hfirst⟩ := find?_eq_some.mp hfind
        exact .found hcrate hmore hitem hpath hfirst
      · next hfind => exact .missing hcrate hmore (find?_eq_none_iff.mp hfind)

theorem resolve_of_leadsTo {o : Outcome} (h : index.LeadsTo p o) : index.resolve p = o := by
  cases h with
  | otherCrate hcrate => rw [resolve, if_pos hcrate]
  | crateRoot hcrate hone =>
    rw [resolve, if_neg (not_not.mpr hcrate), if_pos (isCrateOnly_iff.mpr hone)]
  | found hcrate hmore hitem hpath hfirst =>
    rw [resolve, if_neg (not_not.mpr hcrate), if_neg (not_isCrateOnly_iff.mpr hmore),
      find?_eq_some.mpr ⟨hitem, hpath, hfirst⟩]
  | missing hcrate hmore hnone =>
    rw [resolve, if_neg (not_not.mpr hcrate), if_neg (not_isCrateOnly_iff.mpr hmore),
      find?_eq_none_iff.mpr hnone]

/-- Of paths with the same names, only the text tells which segments are raw. -/
theorem resolve_of_names_eq (index : Index) (h : q.names = p.names) :
    index.resolve q = index.resolve p ∨
      (index.resolve q = .notFound q.text ∧ index.resolve p = .notFound p.text) := by
  have hcrateName : q.crateName = p.crateName := (List.cons.inj h).1
  have hlength : q.segments.length = p.segments.length := by
    simpa [SimplePath.names] using congrArg List.length h
  have hp := leadsTo_resolve index p
  generalize index.resolve p = o at hp ⊢
  cases hp with
  | otherCrate hcrate =>
    exact .inr ⟨resolve_of_leadsTo (.otherCrate (hcrateName ▸ hcrate)), rfl⟩
  | crateRoot hcrate hone =>
    exact .inl (resolve_of_leadsTo (.crateRoot (hcrateName.trans hcrate) (hlength.trans hone)))
  | found hcrate hmore hitem hpath hfirst =>
    rw [← h] at hpath hfirst ⊢
    exact .inl (resolve_of_leadsTo
      (.found (hcrateName.trans hcrate) (hlength ▸ hmore) hitem hpath hfirst))
  | missing hcrate hmore hnone =>
    rw [← h] at hnone
    have hq := resolve_of_leadsTo (.missing (hcrateName.trans hcrate) (hlength ▸ hmore) hnone)
    exact .inr ⟨hq, rfl⟩

/-- A path leads to one outcome. Writing its segments raw or not changes nothing but the text of a
path that is not found. -/
theorem resolve_eq_iff (index : Index) (p : SimplePath) :
    (∀ o, index.resolve p = o ↔ index.LeadsTo p o) ∧
      ∀ q : SimplePath, q.names = p.names → index.resolve q = index.resolve p ∨
        (index.resolve q = .notFound q.text ∧ index.resolve p = .notFound p.text) := by
  refine ⟨fun o => ⟨?_, resolve_of_leadsTo⟩, fun q h => resolve_of_names_eq index h⟩
  rintro rfl
  exact leadsTo_resolve index p

end RustdocIndex.Index
