import RustdocIndex.Payload.Decode
import RustdocIndex.Proofs.Crate.Validity
import RustdocIndex.Proofs.Payload.Build
import RustdocIndex.Proofs.Payload.Shown
import RustdocIndex.Proofs.Text.WellFormed

/-! Which drafts are built to crates: those with a name whose rows give parents that the paths table
has. The index of a draft is never refused for a reference. -/
namespace RustdocIndex.Payload

/-- The parent of a row is an entry of a paths table, if it gives one. -/
def Row.InRange (paths : List PathEntry) (row : Row) : Prop :=
  ∀ k ∈ row.parent, 0 ≤ k ∧ k < paths.length

instance (paths : List PathEntry) (row : Row) : Decidable (row.InRange paths) :=
  inferInstanceAs (Decidable (∀ k ∈ row.parent, 0 ≤ k ∧ k < paths.length))

/-- A row with a name and a module path, as every layout gives it. -/
structure Row.IsClean (row : Row) : Prop where
  name_ne : row.name ≠ []
  name : row.name.IsWellFormed
  modulePath_ne : row.modulePath ≠ []
  modulePath : row.modulePath.IsWellFormed

/-- A draft without lone surrogates, and with names and module paths in all of its rows. -/
structure Draft.IsClean (d : Draft) : Prop where
  name : d.name.IsWellFormed
  row : ∀ row ∈ d.rows, row.IsClean

variable {g : Generation} {rows before after : List Row} {row : Row} {paths : List PathEntry}
  {items : List Item} {d : Draft} {version : Option Text} {k : Int}

theorem rowParent_of_inRange (h : row.InRange paths) (g : Generation) (rows : List Row)
    (position : Nat) : ∃ parent, rowParent g rows paths position row = .ok parent := by
  unfold rowParent
  cases hp : row.parent with
  | none => exact ⟨none, rfl⟩
  | some k =>
    obtain ⟨hpos, hlt⟩ := h k hp
    have hentry : paths[k.toNat]? = some paths[k.toNat] := List.getElem?_eq_getElem (by omega)
    simp only [if_pos hpos, hentry]
    exact ⟨_, rfl⟩

theorem rowParent_of_not_inRange (hk : row.parent = some k) (h : ¬ row.InRange paths)
    (g : Generation) (rows : List Row) (position : Nat) : rowParent g rows paths position row =
      .error ⟨g, .parentOutOfRange position row.name k paths.length⟩ := by
  have hnone : (if 0 ≤ k then paths[k.toNat]? else none) = none := by
    split
    · next hpos =>
      refine List.getElem?_eq_none (Nat.le_of_not_lt fun hlt => h fun k' hk' => ?_)
      cases hk.symm.trans hk'
      exact ⟨hpos, by omega⟩
    · rfl
  rw [rowParent, hk]
  simp only [hnone]

/-- Only its parent can keep a clean row from being made to an item. -/
theorem Row.IsClean.rowItem (h : row.IsClean) (g : Generation) (rows : List Row)
    (paths : List PathEntry) (position : Nat) : rowItem g rows paths position row =
      (rowParent g rows paths position row).map fun parent =>
        ⟨row.kind, row.name, row.modulePath, descriptionOf row, parent⟩ := by
  have hname := Schema.nonemptyText_self.mpr ⟨h.name_ne, h.name⟩
  have hmodule := Schema.nonemptyText_self.mpr ⟨h.modulePath_ne, h.modulePath⟩
  rw [Payload.rowItem, hname, hmodule]
  cases rowParent g rows paths position row <;> rfl

/-- The parents that rows are given refer to parentless items or to entries of the paths table. -/
theorem valid_of_makesItem (h : List.Forall₂ (MakesItem rows paths) rows items) (name : Text) :
    Index.Valid ⟨name, items, paths⟩ := by
  intro item hitem parent hparent
  obtain ⟨row, -, hmade⟩ := exists_of_forall₂ h hitem
  cases hp : row.parent with
  | none =>
    rw [hmade.parent_none hp] at hparent
    cases hparent
  | some k =>
    obtain ⟨n, hn, -, hsome⟩ := hmade.parent_some hp
    cases hsome.symm.trans hparent
    have href : Index.RefersTo ⟨name, items, paths⟩ row.modulePath n hn _ :=
      refersTo_parentRef h row.modulePath hn
    rcases href with ⟨j, hown, ⟨⟨target, hj, hnone, -⟩, -⟩⟩ | ⟨hforeign, -⟩
    · rw [hown]
      exact ⟨target, hj, hnone⟩
    · rw [hforeign]
      exact hn

theorem problem?_of_rowItems (h : rowItems g rows paths = .ok items) (name : Text) :
    Index.problem? ⟨name, items, paths⟩ = none :=
  Index.problem?_eq_none.mpr (valid_of_makesItem (rowItems_eq_ok h) name)

theorem exists_rowItems (hclean : ∀ row ∈ rows, row.IsClean)
    (h : ∀ row ∈ rows, row.InRange paths) : ∃ items, rowItems g rows paths = .ok items := by
  cases hr : rowItems g rows paths with
  | ok items => exact ⟨items, rfl⟩
  | error p =>
    obtain ⟨before, ⟨row, position⟩, after, hsplit, -, hp⟩ := mapM_eq_error.mp hr
    have hmem : row ∈ rows := List.fst_mem_of_mem_zipIdx (hsplit ▸ by simp : (row, position) ∈ rows.zipIdx)
    obtain ⟨parent, hparent⟩ := rowParent_of_inRange (h row hmem) g rows position
    have hitem := (hclean row hmem).rowItem g rows paths position
    rw [hparent] at hitem
    cases hp.symm.trans hitem

/-- The first row whose parent is out of range is told. -/
theorem rowItems_of_not_inRange (hclean : ∀ r ∈ before ++ row :: after, r.IsClean)
    (hbefore : ∀ r ∈ before, r.InRange paths) (hk : row.parent = some k)
    (h : ¬ row.InRange paths) (g : Generation) : rowItems g (before ++ row :: after) paths =
      .error ⟨g, .parentOutOfRange before.length row.name k paths.length⟩ := by
  refine mapM_eq_error.mpr ⟨before.zipIdx, (row, before.length), after.zipIdx (before.length + 1),
    by simp [List.zipIdx_append], ?_, ?_⟩
  · rintro ⟨r, position⟩ hr
    have hmem : r ∈ before := List.fst_mem_of_mem_zipIdx hr
    obtain ⟨parent, hparent⟩ :=
      rowParent_of_inRange (hbefore r hmem) g (before ++ row :: after) position
    have hitem := (hclean r (by simp [hmem])).rowItem g (before ++ row :: after) paths position
    rw [hparent] at hitem
    exact ⟨_, hitem⟩
  · simp only
    rw [(hclean row (by simp)).rowItem, rowParent_of_not_inRange hk h]
    rfl

theorem exists_build (hclean : d.IsClean) (hname : d.name ≠ [])
    (h : ∀ row ∈ d.rows, row.InRange d.paths) : ∃ c, d.build g version = .ok c := by
  obtain ⟨items, hitems⟩ := exists_rowItems hclean.row h
  have hvalid := Schema.nonemptyText_self.mpr ⟨hname, hclean.name⟩
  have hindex : checkedIndex d.name items d.paths = .valid ⟨d.name, items, d.paths⟩ :=
    checkedIndex_eq_valid.mpr ⟨hvalid, rfl, problem?_of_rowItems hitems d.name⟩
  refine ⟨⟨d.name, version, d.doc, ⟨d.name, items, d.paths⟩⟩, ?_⟩
  rw [Draft.build, hitems]
  refine bind_eq_ok.mpr ⟨items, rfl, bind_eq_ok.mpr ⟨⟨d.name, items, d.paths⟩, ?_, ?_⟩⟩
  · rw [hindex]
    rfl
  · rw [hvalid]
    rfl

/-- No problem of building is too deep for its message, so it is a refusal. -/
theorem crateStop_of_build {e : CrateError} (h : d.build g version = .error e) :
    crateStop d.name e = .refused ⟨some g, none, .crate d.name e.problem⟩ := by
  obtain ⟨hg, hshown⟩ := build_shown? g version d e h
  rw [crateStop, CrateProblem.isTooDeepToShow, hshown, hg]
  rfl

/-- The message of a refusal for a parent that is out of range. -/
theorem message_parentOutOfRange (render : Schema.Report → String) (g : Generation)
    (crate row : Text) (position : Nat) (k : Int) (count : Nat) :
    Refusal.message render ⟨some g, none, .crate crate (.parentOutOfRange position row k count)⟩ =
      Text.ofString s!"[{g.name}] crate {crate.quoted} item {position} (" ++ row ++
        Text.ofString s!"): parent index {k} out of range for {count} paths" := by
  have hfront : s!"[{g.name}] crate {crate.quoted} item {position} (" =
      s!"[{g.name}] " ++ ("crate " ++ crate.quoted) ++ s!" item {position} (" := by
    have hcrate : ("] crate " : String) = "] " ++ "crate " := rfl
    simp only [toString, hcrate, String.append_assoc]
  rw [hfront, Text.ofString_append, Text.ofString_append]
  simp only [Refusal.message, Cause.message, CrateProblem.message, List.append_assoc]
  rw [show Text.ofString "" = [] from rfl, List.append_nil]

/-- A clean draft is built exactly if it has a name and all of its parents are in range. Otherwise it
is refused in the name of its generation, and of the parents that are out of range the first is told.
The reference check of the index has no problem with any draft whose rows are made to items. The
parents are any integers, also those too long to be written in a message, which no layout hands
over. -/
theorem build_iff_inRange (g : Generation) (version : Option Text) (h : d.IsClean) :
    ((∃ c, d.build g version = .ok c) ↔ d.name ≠ [] ∧ ∀ row ∈ d.rows, row.InRange d.paths) ∧
    (∀ e, d.build g version = .error e →
      crateStop d.name e = .refused ⟨some g, none, .crate d.name e.problem⟩) ∧
    (∀ before row after k, d.rows = before ++ row :: after → (∀ r ∈ before, r.InRange d.paths) →
      row.parent = some k → ¬ row.InRange d.paths → ∃ r,
        (d.build g version).mapError (crateStop d.name) = .error (.refused r) ∧
        ∀ render, r.message render =
          Text.ofString s!"[{g.name}] crate {d.name.quoted} item {before.length} (" ++ row.name ++
            Text.ofString s!"): parent index {k} out of range for {d.paths.length} paths") ∧
    ∀ items, rowItems g d.rows d.paths = .ok items →
      Index.problem? ⟨d.name, items, d.paths⟩ = none := by
  refine ⟨⟨?_, fun ⟨hname, hrange⟩ => exists_build h hname hrange⟩,
    fun e he => crateStop_of_build he, ?_, fun items hi => problem?_of_rowItems hi d.name⟩
  · rintro ⟨c, hc⟩
    obtain ⟨items, hname, hall, -, -⟩ := build_eq_ok hc
    refine ⟨hname, fun row hrow k hk => ?_⟩
    obtain ⟨item, -, hmade⟩ := exists_of_forall₂ hall.flip hrow
    obtain ⟨n, hn, rfl, -⟩ := hmade.parent_some hk
    omega
  · intro before row after k hrows hbefore hk hout
    have hclean : ∀ r ∈ before ++ row :: after, r.IsClean := hrows ▸ h.row
    have hitems := rowItems_of_not_inRange hclean hbefore hk hout g
    have hbuild : d.build g version =
        .error ⟨g, .parentOutOfRange before.length row.name k d.paths.length⟩ := by
      rw [Draft.build, hrows, hitems]
      rfl
    refine ⟨_, ?_, fun render => message_parentOutOfRange render g _ _ _ _ _⟩
    rw [hbuild]
    exact congrArg Except.error (crateStop_of_build hbuild)

/-- A method of a struct, and two whose parents are not in the paths table. -/
def strayDraft : Draft where
  name := "a"
  doc := []
  rows := [⟨.struct, "S", "m", none, none⟩, ⟨.method, "f", "m", none, some 0⟩,
    ⟨.method, "g", "m", none, some (-1)⟩, ⟨.method, "h", "m", none, some 1⟩]
  paths := [⟨.struct, "S"⟩]

theorem isClean_strayDraft : strayDraft.IsClean := by
  have hrows : ∀ row ∈ strayDraft.rows, row.name ≠ [] ∧ row.name.IsWellFormed ∧
      row.modulePath ≠ [] ∧ row.modulePath.IsWellFormed := by decide
  refine ⟨by decide, fun row hrow => ?_⟩
  obtain ⟨hname, hwell, hmodule, hmwell⟩ := hrows row hrow
  exact ⟨hname, hwell, hmodule, hmwell⟩

theorem build_iff_inRange_stray : strayDraft.IsClean ∧
    ∃ r, (strayDraft.build .v1 none).mapError (crateStop strayDraft.name) = .error (.refused r) ∧
      ∀ render, r.message render =
        "[v1] crate 'a' item 2 (g): parent index -1 out of range for 1 paths" := by
  obtain ⟨-, -, hfirst, -⟩ := build_iff_inRange .v1 none isClean_strayDraft
  have hbefore : ∀ row ∈ strayDraft.rows.take 2, row.InRange strayDraft.paths := by decide
  have hout : ¬ Row.InRange strayDraft.paths ⟨.method, "g", "m", none, some (-1)⟩ := by decide
  obtain ⟨r, hr, hmessage⟩ := hfirst (strayDraft.rows.take 2) _ _ (-1) rfl hbefore rfl hout
  refine ⟨isClean_strayDraft, r, hr, fun render => ?_⟩
  rw [hmessage render]
  decide +kernel

end RustdocIndex.Payload
