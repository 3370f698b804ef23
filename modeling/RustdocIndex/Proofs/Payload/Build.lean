import Mathlib.Order.Bounds.Basic
import RustdocIndex.Payload.Build
import RustdocIndex.Proofs.Result
import RustdocIndex.Proofs.Schema.Checked

/-! What crates are built to from rows. -/
namespace RustdocIndex

variable {item : Item} {items : List Item} {paths : List PathEntry} {i : Nat}

/-- The item at a position has no parent, and is what an entry of the paths table names in a
module. -/
def Index.Documents (index : Index) (entry : PathEntry) (modulePath : Text) (i : Nat) : Prop :=
  ∃ item, index.items[i]? = some item ∧ item.parent = none ∧ item.kind = entry.kind ∧
    item.modulePath = modulePath ∧ item.name = entry.name

/-- The parent of an item in a module that is given as an entry of the paths table: the first item
that the entry names there, or the entry itself if it names none. -/
def Index.RefersTo (index : Index) (modulePath : Text) (n : Nat) (h : n < index.paths.length)
    (parent : ParentRef) : Prop :=
  (∃ j, parent = .own j ∧ IsLeast {j | index.Documents index.paths[n] modulePath j} j) ∨
    (parent = .foreign n ∧ ∀ j, ¬ index.Documents index.paths[n] modulePath j)

namespace Payload

open Schema.Checked (andThen_eq_valid map_eq_valid seq_eq_valid toExcept_eq_ok under_eq_valid)

variable {g : Generation} {rows : List Row} {row : Row} {version : Option Text} {d : Draft}
  {c : Crate}

/-! ### What the generation has no part in -/

section

variable (g h : Generation)

theorem rowParent_toOption (rows : List Row) (paths : List PathEntry) (position : Nat) (row : Row) :
    (rowParent g rows paths position row).toOption =
      (rowParent h rows paths position row).toOption := by
  unfold rowParent
  split
  · rfl
  · split <;> rfl

theorem rowItems_toOption (rows : List Row) (paths : List PathEntry) :
    (rowItems g rows paths).toOption = (rowItems h rows paths).toOption := by
  simp only [rowItems, toOption_mapM, rowItem, toOption_bind, toOption_mapError,
    rowParent_toOption g h]

/-- The generation of a draft matters to the errors of building only. -/
theorem build_toOption (version : Option Text) (d : Draft) :
    (d.build g version).toOption = (d.build h version).toOption := by
  simp only [Draft.build, toOption_bind, toOption_mapError, rowItems_toOption g h]

theorem rowsOf_toOption (entries : List Entry) :
    (rowsOf g entries).toOption = (rowsOf h entries).toOption := by
  rw [rowsOf, rowsOf, toOption_bind, toOption_bind]
  unfold modulePaths
  split <;> rfl

end

/-- The item that a row is made to, among some rows and entries of the paths table. -/
structure MakesItem (rows : List Row) (paths : List PathEntry) (row : Row) (item : Item) : Prop where
  kind : item.kind = row.kind
  name : item.name = row.name
  modulePath : item.modulePath = row.modulePath
  description : item.description = descriptionOf row
  name_ne : item.name ≠ []
  modulePath_ne : item.modulePath ≠ []
  parent_none : row.parent = none → item.parent = none
  parent_some {k : Int} : row.parent = some k → ∃ (n : Nat) (h : n < paths.length), k = n ∧
    item.parent = some (parentRef rows row.modulePath paths[n] n)

theorem rowParent_eq_ok {parent : Option ParentRef}
    (h : rowParent g rows paths i row = .ok parent) :
    (row.parent = none → parent = none) ∧
      ∀ k, row.parent = some k → ∃ (n : Nat) (h : n < paths.length), k = n ∧
        parent = some (parentRef rows row.modulePath paths[n] n) := by
  unfold rowParent at h
  split at h
  · next hnone =>
    cases h
    refine ⟨fun _ => rfl, fun k hk => ?_⟩
    rw [hnone] at hk
    cases hk
  · next n hn =>
    split at h
    · next entry he =>
      cases h
      refine ⟨fun hnone => ?_, fun k hk => ?_⟩
      · rw [hn] at hnone
        cases hnone
      cases hn.symm.trans hk
      by_cases hpos : 0 ≤ n
      · rw [if_pos hpos] at he
        obtain ⟨hlt, rfl⟩ := List.getElem?_eq_some_iff.mp he
        exact ⟨n.toNat, hlt, (Int.toNat_of_nonneg hpos).symm, rfl⟩
      · rw [if_neg hpos] at he
        cases he
    · cases h

/-- A row is made to an item if its parent is in range, and its name and module path are texts that
the item may have. -/
theorem rowItem_checked (h : rowItem g rows paths i row = .ok item) :
    ∃ parent, rowParent g rows paths i row = .ok parent ∧
      Schema.nonemptyText row.name = .valid row.name ∧
      Schema.nonemptyText row.modulePath = .valid row.modulePath ∧
      item = ⟨row.kind, row.name, row.modulePath, descriptionOf row, parent⟩ := by
  obtain ⟨parent, hparent, h⟩ := bind_eq_ok.mp h
  have hvalid := toExcept_eq_ok.mp (mapError_eq_ok.mp h)
  obtain ⟨_, _, hdescription, hp, rfl⟩ := seq_eq_valid.mp hvalid
  obtain ⟨_, _, hpath, hd, rfl⟩ := seq_eq_valid.mp hdescription
  obtain ⟨_, modulePath, hkind, hm, rfl⟩ := seq_eq_valid.mp hpath
  obtain ⟨name, hn, rfl⟩ := map_eq_valid.mp hkind
  cases hp
  cases hd
  have hn := under_eq_valid.mp hn
  have hm := under_eq_valid.mp hm
  obtain ⟨rfl, -⟩ := Schema.nonemptyText_eq_valid hn
  obtain ⟨rfl, -⟩ := Schema.nonemptyText_eq_valid hm
  exact ⟨parent, hparent, hn, hm, rfl⟩

theorem rowItem_eq_ok (h : rowItem g rows paths i row = .ok item) :
    MakesItem rows paths row item := by
  obtain ⟨parent, hparent, hname, hmodule, rfl⟩ := rowItem_checked h
  obtain ⟨hnone, hsome⟩ := rowParent_eq_ok hparent
  exact ⟨rfl, rfl, rfl, rfl, (Schema.nonemptyText_eq_valid hname).2,
    (Schema.nonemptyText_eq_valid hmodule).2, hnone, hsome _⟩

/-- There is one item for each row, in their order. -/
theorem rowItems_eq_ok (h : rowItems g rows paths = .ok items) :
    List.Forall₂ (MakesItem rows paths) rows items :=
  forall₂_of_mapM_zipIdx h fun _ _ _ => rowItem_eq_ok

theorem MakesItem.parent_eq_none_iff (h : MakesItem rows paths row item) :
    item.parent = none ↔ row.parent = none := by
  refine ⟨fun hnone => ?_, h.parent_none⟩
  cases hp : row.parent with
  | none => rfl
  | some k =>
    obtain ⟨n, hn, -, hsome⟩ := h.parent_some hp
    rw [hsome] at hnone
    cases hnone

/-- The parentless rows of a kind, module and name are the items that an entry names. -/
theorem documents_iff {name : Text} (h : List.Forall₂ (MakesItem rows paths) rows items)
    (entry : PathEntry) (modulePath : Text) :
    Index.Documents ⟨name, items, paths⟩ entry modulePath i ↔ ∃ row, rows[i]? = some row ∧
      row.parent = none ∧ row.kind = entry.kind ∧ row.modulePath = modulePath ∧
        row.name = entry.name := by
  constructor
  · rintro ⟨item, hi, hnone, hkind, hmodule, hname⟩
    obtain ⟨row, hr, hmade⟩ := getElem?_of_forall₂ h hi
    exact ⟨row, hr, hmade.parent_eq_none_iff.mp hnone, hmade.kind ▸ hkind,
      hmade.modulePath ▸ hmodule, hmade.name ▸ hname⟩
  · rintro ⟨row, hr, hnone, hkind, hmodule, hname⟩
    obtain ⟨item, hi, hmade⟩ := getElem?_of_forall₂ h.flip hr
    exact ⟨item, hi, hmade.parent_none hnone, hmade.kind.trans hkind,
      hmade.modulePath.trans hmodule, hmade.name.trans hname⟩

theorem documented?_eq_some {kind : ItemKind} {modulePath name : Text} :
    documented? rows kind modulePath name = some i ↔
      IsLeast {j | ∃ row, rows[j]? = some row ∧ row.parent = none ∧ row.kind = kind ∧
        row.modulePath = modulePath ∧ row.name = name} i := by
  rw [documented?, List.findIdx?_eq_some_iff_getElem]
  constructor
  · rintro ⟨hlt, hi, hfirst⟩
    simp only [Bool.and_eq_true, Option.isNone_iff_eq_none, beq_iff_eq] at hi
    refine ⟨⟨rows[i], List.getElem?_eq_getElem hlt, by tauto⟩, ?_⟩
    rintro j ⟨row, hj, hrow⟩
    obtain ⟨hjlt, rfl⟩ := List.getElem?_eq_some_iff.mp hj
    by_contra hji
    have hnot := hfirst j (Nat.not_le.mp hji)
    simp only [Bool.and_eq_true, Option.isNone_iff_eq_none, beq_iff_eq] at hnot
    tauto
  · rintro ⟨⟨row, hi, hrow⟩, hleast⟩
    obtain ⟨hlt, rfl⟩ := List.getElem?_eq_some_iff.mp hi
    refine ⟨hlt, ?_, fun j hj hdocumented => ?_⟩
    · simp only [Bool.and_eq_true, Option.isNone_iff_eq_none, beq_iff_eq]
      tauto
    · simp only [Bool.and_eq_true, Option.isNone_iff_eq_none, beq_iff_eq] at hdocumented
      have hle : i ≤ j := hleast ⟨_, List.getElem?_eq_getElem (Nat.lt_trans hj hlt), by tauto⟩
      omega

theorem documented?_eq_none {kind : ItemKind} {modulePath name : Text}
    (h : documented? rows kind modulePath name = none) (i : Nat) :
    ¬ ∃ row, rows[i]? = some row ∧ row.parent = none ∧ row.kind = kind ∧
      row.modulePath = modulePath ∧ row.name = name := by
  rintro ⟨row, hi, hrow⟩
  have hnot := List.findIdx?_eq_none_iff.mp h row (List.mem_of_getElem? hi)
  simp only [Bool.and_eq_false_iff, Option.isNone_eq_false_iff, beq_eq_false_iff_ne] at hnot
  simp only [hrow, Option.isSome_none, Bool.false_eq_true, ne_eq, not_true, or_self] at hnot

theorem refersTo_parentRef {name : Text} (h : List.Forall₂ (MakesItem rows paths) rows items)
    (modulePath : Text) {n : Nat} (hn : n < paths.length) :
    Index.RefersTo ⟨name, items, paths⟩ modulePath n hn
      (parentRef rows modulePath paths[n] n) := by
  unfold parentRef
  cases hd : documented? rows paths[n].kind modulePath paths[n].name with
  | none =>
    refine .inr ⟨rfl, fun j hj => ?_⟩
    exact documented?_eq_none hd j ((documents_iff h _ _).mp hj)
  | some j =>
    refine .inl ⟨j, rfl, ?_⟩
    simp only [documents_iff h]
    exact documented?_eq_some.mp hd

theorem checkedIndex_eq_valid {name : Text} {index : Index} :
    checkedIndex name items paths = .valid index ↔ Schema.nonemptyText name = .valid name ∧
      index = ⟨name, items, paths⟩ ∧ index.problem? = none := by
  rw [checkedIndex, andThen_eq_valid]
  constructor
  · rintro ⟨_, hmake, h⟩
    obtain ⟨_, hname, rfl⟩ := map_eq_valid.mp hmake
    have hname := under_eq_valid.mp hname
    obtain ⟨rfl, -⟩ := Schema.nonemptyText_eq_valid hname
    unfold Index.ensure at h
    split at h
    · next hp =>
      cases h
      exact ⟨hname, rfl, hp⟩
    · cases h
  · rintro ⟨hname, rfl, hp⟩
    refine ⟨_, map_eq_valid.mpr ⟨name, under_eq_valid.mpr hname, rfl⟩, ?_⟩
    rw [Index.ensure, hp]

/-- The texts that addresses are made of are checked in every item. -/
theorem checked_of_rowItems (h : rowItems g rows paths = .ok items) : ∀ item ∈ items,
    Schema.nonemptyText item.name = .valid item.name ∧
      Schema.nonemptyText item.modulePath = .valid item.modulePath := by
  intro item hitem
  obtain ⟨⟨row, position⟩, -, hrow⟩ := exists_of_mem_mapM h hitem
  obtain ⟨parent, -, hname, hmodule, rfl⟩ := rowItem_checked hrow
  exact ⟨hname, hmodule⟩

/-- A draft is built from the items of all its rows, under its own name. -/
theorem items_of_build (h : d.build g version = .ok c) : ∃ items, d.name ≠ [] ∧
    rowItems g d.rows d.paths = .ok items ∧ checkedIndex d.name items d.paths = .valid c.index ∧
    c = ⟨d.name, version, d.doc, ⟨d.name, items, d.paths⟩⟩ := by
  obtain ⟨items, hitems, h⟩ := bind_eq_ok.mp h
  obtain ⟨index, hindex, h⟩ := bind_eq_ok.mp h
  have hindex := toExcept_eq_ok.mp (mapError_eq_ok.mp hindex)
  obtain ⟨-, rfl, -⟩ := checkedIndex_eq_valid.mp hindex
  obtain ⟨name, hname, rfl⟩ := map_eq_valid.mp (toExcept_eq_ok.mp (mapError_eq_ok.mp h))
  obtain ⟨rfl, hne⟩ := Schema.nonemptyText_eq_valid (under_eq_valid.mp hname)
  exact ⟨items, hne, hitems, hindex, rfl⟩

theorem checked_of_build (h : d.build g version = .ok c) : ∀ item ∈ c.index.items,
    Schema.nonemptyText item.name = .valid item.name ∧
      Schema.nonemptyText item.modulePath = .valid item.modulePath := by
  obtain ⟨items, -, hitems, -, rfl⟩ := items_of_build h
  exact checked_of_rowItems hitems

/-- A draft that is built gives one valid item for each row, under its own name. -/
theorem build_eq_ok (h : d.build g version = .ok c) : ∃ items, d.name ≠ [] ∧
    List.Forall₂ (MakesItem d.rows d.paths) d.rows items ∧
    checkedIndex d.name items d.paths = .valid c.index ∧
    c = ⟨d.name, version, d.doc, ⟨d.name, items, d.paths⟩⟩ := by
  obtain ⟨items, hne, hitems, hindex, hc⟩ := items_of_build h
  exact ⟨items, hne, rowItems_eq_ok hitems, hindex, hc⟩

end Payload

end RustdocIndex
