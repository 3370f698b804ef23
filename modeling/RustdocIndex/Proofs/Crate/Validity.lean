import RustdocIndex.Proofs.Crate.Path
import RustdocIndex.Proofs.Payload.Build

/-! Validation accepts the indexes whose parent references lead somewhere. On these, the path of an
item is found in one step, and goes through its owner. -/
namespace RustdocIndex.Index

open Schema (Source list nonempty noOthers optional required)
open Schema.Checked (andThen_eq_valid map_eq_valid seq_eq_valid)

variable {index other : Index} {item : Item}

theorem problemOf?_eq_none (child : Nat) :
    index.problemOf? child item = none ↔ ∀ parent ∈ item.parent, index.Resolves parent := by
  unfold problemOf?
  cases item.parent with
  | none => simp
  | some parent =>
    simp only [Option.mem_some, forall_eq']
    cases parent with
    | own i =>
      cases hi : index.items[i]? with
      | none => simp [Resolves, hi]
      | some target => simp [Resolves, hi]
    | foreign k => simp [Resolves]

theorem problem?_eq_none : index.problem? = none ↔ index.Valid := by
  rw [problem?, List.findSome?_eq_none_iff]
  constructor
  · intro h item hitem
    obtain ⟨child, hchild⟩ := List.mem_iff_getElem?.mp hitem
    exact (problemOf?_eq_none child).mp (h (item, child) (List.mem_zipIdx_iff_getElem?.mpr hchild))
  · rintro h ⟨item, child⟩ hm
    exact (problemOf?_eq_none child).mpr (h item (List.fst_mem_of_mem_zipIdx hm))

theorem ensure_eq_valid : index.ensure = .valid other ↔ other = index ∧ index.Valid := by
  rw [← problem?_eq_none, ensure]
  cases index.problem? with
  | none => simp [eq_comm]
  | some p => simp [Schema.Checked.problem]

/-- An object gives an index by valid fields, and has no others. -/
structure GivenBy (source : Source) (fields : Fields Text Json) (index : Index) : Prop where
  crateName : required "crate_name" nonempty fields = .valid index.crateName
  items : optional "items" [] (list source (Item.check source)) fields = .valid index.items
  paths : optional "paths" [] (list source (PathEntry.check source)) fields = .valid index.paths
  others : noOthers ["crate_name", "items", "paths"] fields = .valid ()

theorem check_eq_valid {source : Source} {x : Json} : check source x = .valid index ↔
    ∃ fields, x = .object fields ∧ GivenBy source fields index ∧ index.Valid := by
  rw [check, andThen_eq_valid]
  constructor
  · rintro ⟨_, hmodel, h⟩
    obtain ⟨rfl, hvalid⟩ := ensure_eq_valid.mp h
    obtain ⟨fields, rfl, hfields, hothers⟩ := Schema.model_eq_valid.mp hmodel
    obtain ⟨_, paths, hwithItems, hpaths, rfl⟩ := seq_eq_valid.mp hfields
    obtain ⟨_, items, hwithName, hitems, rfl⟩ := seq_eq_valid.mp hwithItems
    obtain ⟨name, hname, rfl⟩ := map_eq_valid.mp hwithName
    exact ⟨fields, rfl, ⟨hname, hitems, hpaths, hothers⟩, hvalid⟩
  · rintro ⟨fields, rfl, h, hvalid⟩
    refine ⟨index, Schema.model_eq_valid.mpr ⟨fields, rfl, ?_, h.others⟩,
      ensure_eq_valid.mpr ⟨rfl, hvalid⟩⟩
    exact seq_eq_valid.mpr ⟨_, _, seq_eq_valid.mpr ⟨_, _, map_eq_valid.mpr ⟨_, h.crateName, rfl⟩,
      h.items, rfl⟩, h.paths, rfl⟩

/-- The path of an item as its owner tells it. -/
def pathThroughOwner (index : Index) (item : Item) : List Text :=
  match index.owner? item with
  | some o => o.modulePath.splitColons ++ [o.name, item.name]
  | none => item.moduleSegments ++ [item.name]

theorem isSome_owner? (h : ∀ parent ∈ item.parent, index.Resolves parent) :
    (index.owner? item).isSome = item.parent.isSome := by
  unfold owner?
  cases hp : item.parent with
  | none => rfl
  | some parent =>
    have hparent := h parent hp
    cases parent with
    | own i =>
      obtain ⟨target, hi, -⟩ := hparent
      simp [hi]
    | foreign k => simp [List.getElem?_eq_getElem hparent]

/-- A parent that resolves has no parent, so it is the only one on the way. -/
theorem climbs_pathThroughOwner (h : ∀ parent ∈ item.parent, index.Resolves parent) :
    ∃ n ≤ 1, index.Climbs n item (index.pathThroughOwner item) := by
  unfold pathThroughOwner owner?
  cases hp : item.parent with
  | none => exact ⟨0, Nat.zero_le 1, .root hp⟩
  | some parent =>
    have hparent := h parent hp
    cases parent with
    | own i =>
      obtain ⟨target, hi, hroot⟩ := hparent
      have hclimbs := Climbs.own hp hi (.root hroot)
      rw [List.append_assoc] at hclimbs
      simp only [hi, Option.map_some]
      exact ⟨1, Nat.le_refl 1, hclimbs⟩
    | foreign k =>
      have hk : index.paths[k]? = some index.paths[k] := List.getElem?_eq_getElem hparent
      simp only [hk, Option.map_some]
      exact ⟨0, Nat.zero_le 1, .foreign hp hk⟩

/-- Indexes are accepted, as values or as data, if their fields are valid and every parent
reference leads to a parentless item or into the paths table. In an accepted index every item that
gives a parent has an owner, and a path through it that is found in one step at most. -/
theorem valid_path_owner :
    (∀ name items paths index, Payload.checkedIndex name items paths = .valid index ↔
      Schema.nonemptyText name = .valid name ∧ index = ⟨name, items, paths⟩ ∧ index.Valid) ∧
    (∀ source x index, check source x = .valid index ↔
      ∃ fields, x = .object fields ∧ GivenBy source fields index ∧ index.Valid) ∧
    ∀ index : Index, index.Valid → ∀ item ∈ index.items,
      (index.owner? item).isSome = item.parent.isSome ∧
      (∃ n ≤ 1, index.Climbs n item (index.pathThroughOwner item)) ∧
      index.qualified? item = some (index.pathThroughOwner item) := by
  refine ⟨fun name items paths index => ?_, fun source x index => check_eq_valid, ?_⟩
  · rw [← problem?_eq_none]
    exact Payload.checkedIndex_eq_valid
  · intro index hvalid item hitem
    have hparent := hvalid item hitem
    obtain ⟨n, hn, hclimbs⟩ := climbs_pathThroughOwner hparent
    exact ⟨isSome_owner? hparent, ⟨n, hn, hclimbs⟩, qualified?_eq_some.mpr ⟨n, hclimbs⟩⟩

end RustdocIndex.Index
