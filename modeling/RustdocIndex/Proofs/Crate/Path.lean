import Mathlib.Data.List.Perm.Subperm
import RustdocIndex.Crate.Path

/-! The paths of items. Going from parent to parent ends at a parentless item or in the paths
table, unless it runs in a circle or out of the index; the bound of `qualified?` cuts no other way
short. -/
namespace RustdocIndex.Index

variable {index : Index} {item target : Item} {names : List Text} {entry : PathEntry}
  {i k m n steps : Nat}

theorem climb?_none (h : item.parent = none) (steps : Nat) :
    index.climb? steps item = some (item.moduleSegments ++ [item.name]) := by
  unfold climb?
  rw [h]

theorem climb?_foreign (h : item.parent = some (.foreign k)) (he : index.paths[k]? = some entry)
    (steps : Nat) :
    index.climb? steps item = some (item.moduleSegments ++ [entry.name, item.name]) := by
  unfold climb?
  rw [h]
  simp only [he, Option.map_some]

theorem climb?_own (h : item.parent = some (.own i)) (hi : index.items[i]? = some target)
    (steps : Nat) :
    index.climb? (steps + 1) item = (index.climb? steps target).map (· ++ [item.name]) := by
  rw [climb?, h]
  simp only [hi]

/-- The path of an item, to which one goes from parent to parent `n` times. Whatever is read on the
way exists. -/
inductive Climbs (index : Index) : Nat → Item → List Text → Prop
  | root {item : Item} (h : item.parent = none) :
      Climbs index 0 item (item.moduleSegments ++ [item.name])
  | foreign {item : Item} {k : Nat} {entry : PathEntry} (h : item.parent = some (.foreign k))
      (he : index.paths[k]? = some entry) :
      Climbs index 0 item (item.moduleSegments ++ [entry.name, item.name])
  | own {item target : Item} {i n : Nat} {names : List Text} (h : item.parent = some (.own i))
      (hi : index.items[i]? = some target) (ht : Climbs index n target names) :
      Climbs index (n + 1) item (names ++ [item.name])

theorem Climbs.climb? (h : index.Climbs n item names) (hn : n ≤ steps) :
    index.climb? steps item = some names := by
  induction h generalizing steps with
  | root h => exact climb?_none h steps
  | foreign h he => exact climb?_foreign h he steps
  | own h hi _ ih =>
    obtain ⟨steps, rfl⟩ := Nat.exists_eq_add_of_le' hn
    rw [← Nat.add_assoc, climb?_own h hi, ih (by omega), Option.map_some]

theorem climbs_of_climb? (h : index.climb? steps item = some names) :
    ∃ n ≤ steps, index.Climbs n item names := by
  fun_induction index.climb? steps item generalizing names with
  | case1 steps item hp =>
    cases h
    exact ⟨0, Nat.zero_le _, .root hp⟩
  | case2 steps item k hp =>
    obtain ⟨entry, he, rfl⟩ := Option.map_eq_some_iff.mp h
    exact ⟨0, Nat.zero_le _, .foreign hp he⟩
  | case3 item i hp steps target hi ih =>
    obtain ⟨above, habove, rfl⟩ := Option.map_eq_some_iff.mp h
    obtain ⟨n, hn, hclimbs⟩ := ih habove
    exact ⟨n + 1, Nat.succ_le_succ hn, .own hp hi hclimbs⟩
  | case4 => cases h

/-- The number of steps and the path depend on the item alone. -/
theorem Climbs.unique (h : index.Climbs n item names) {others : List Text}
    (h' : index.Climbs m item others) : n = m ∧ names = others := by
  induction h generalizing m others with
  | root h =>
    cases h' with
    | root => exact ⟨rfl, rfl⟩
    | foreign h' | own h' => cases h.symm.trans h'
  | foreign h he =>
    cases h' with
    | foreign h' he' =>
      cases h.symm.trans h'
      cases he.symm.trans he'
      exact ⟨rfl, rfl⟩
    | root h' | own h' => cases h.symm.trans h'
  | own h hi _ ih =>
    cases h' with
    | root h' | foreign h' => cases h.symm.trans h'
    | own h' hi' ht' =>
      cases h.symm.trans h'
      cases hi.symm.trans hi'
      obtain ⟨rfl, rfl⟩ := ih ht'
      exact ⟨rfl, rfl⟩

/-- No position comes twice on the way, since from each the number of steps left is another. -/
theorem Climbs.exists_way (h : index.Climbs n item names) :
    ∃ way : List Nat, way.length = n ∧ way.Nodup ∧ ∀ i ∈ way, ∃ target m names,
      index.items[i]? = some target ∧ index.Climbs m target names ∧ m < n := by
  induction h with
  | root => exact ⟨[], rfl, .nil, nofun⟩
  | foreign => exact ⟨[], rfl, .nil, nofun⟩
  | @own item target i n names h hi ht ih =>
    obtain ⟨way, hlen, hnodup, hway⟩ := ih
    have hnew : i ∉ way := by
      intro hmem
      obtain ⟨target', m, names', hi', ht', hlt⟩ := hway i hmem
      cases hi.symm.trans hi'
      have := (ht.unique ht').1
      omega
    refine ⟨i :: way, congrArg (· + 1) hlen, List.nodup_cons.mpr ⟨hnew, hnodup⟩, ?_⟩
    intro j hj
    rcases List.mem_cons.mp hj with rfl | hj
    · exact ⟨target, n, names, hi, ht, Nat.lt_succ_self n⟩
    · obtain ⟨target', m, names', hi', ht', hlt⟩ := hway j hj
      exact ⟨target', m, names', hi', ht', Nat.lt_succ_of_lt hlt⟩

theorem Climbs.le_length (h : index.Climbs n item names) : n ≤ index.items.length := by
  obtain ⟨way, rfl, hnodup, hway⟩ := h.exists_way
  have hsub : way ⊆ List.range index.items.length := by
    intro i hi
    obtain ⟨target, -, -, htarget, -, -⟩ := hway i hi
    exact List.mem_range.mpr (List.getElem?_eq_some_iff.mp htarget).1
  simpa using (List.subperm_of_subset hnodup hsub).length_le

/-- An item has a path unless its parents run in a circle or out of the index. -/
theorem qualified?_eq_some : index.qualified? item = some names ↔
    ∃ n, index.Climbs n item names := by
  constructor
  · intro h
    obtain ⟨n, -, hclimbs⟩ := climbs_of_climb? h
    exact ⟨n, hclimbs⟩
  · rintro ⟨n, h⟩
    exact h.climb? h.le_length

theorem qualified?_own (h : item.parent = some (.own i)) (hi : index.items[i]? = some target)
    (ht : target.parent = none) :
    index.qualified? item = some (target.moduleSegments ++ [target.name, item.name]) := by
  have hclimbs := Climbs.own h hi (.root ht)
  rw [List.append_assoc] at hclimbs
  exact qualified?_eq_some.mpr ⟨_, hclimbs⟩

/-- The last segment of an item's path is its name. -/
theorem getLast?_of_qualified? (h : index.qualified? item = some names) :
    names.getLast? = some item.name := by
  obtain ⟨n, hclimbs⟩ := qualified?_eq_some.mp h
  cases hclimbs <;> simp

end RustdocIndex.Index
