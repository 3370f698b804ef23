import RustdocIndex.Proofs.Payload.Footer
import RustdocIndex.Proofs.Payload.Table

/-! Tables of crates in columns. The columns may leave out what is empty, and that makes no
difference to the crate. -/
namespace RustdocIndex.Payload

open Document (shape)

/-- A text that is not empty, or nothing. -/
def plain (t : Option Text) : Option Text := t.filter (!·.isEmpty)

def Entry.plain (e : Entry) : Entry :=
  { e with path := Payload.plain e.path, description := Payload.plain e.description }

def Row.plain (r : Row) : Row := { r with description := Payload.plain r.description }

@[simp]
theorem plain_none : plain none = none := rfl

@[simp]
theorem plain_nil : plain (some []) = none := rfl

@[simp]
theorem plain_cons (c : CodePoint) (t : Text) : plain (some (c :: t)) = some (c :: t) := rfl

theorem plain_plain (t : Option Text) : plain (plain t) = plain t := by
  rcases t with _ | _ | ⟨c, t⟩ <;> rfl

/-- An empty path is inherited like one that is left out. -/
theorem foldPaths_plain (last : Text) (given : List (Option Text)) :
    foldPaths last (given.map plain) = foldPaths last given := by
  induction given generalizing last with
  | nil => rfl
  | cons path given ih =>
    rcases path with _ | _ | ⟨c, t⟩ <;> simp [foldPaths, ih]

section

variable (g : Generation)

theorem modulePaths_plain (given : List (Option Text)) :
    modulePaths g (given.map plain) = modulePaths g given := by
  rw [modulePaths, modulePaths, foldPaths_plain]

/-- Leaving out what is empty changes no row but for descriptions. -/
theorem rowsOf_plain (entries : List Entry) :
    rowsOf g (entries.map Entry.plain) = (rowsOf g entries).map (List.map Row.plain) := by
  have hpaths : (entries.map Entry.plain).map (·.path) = (entries.map (·.path)).map plain := by
    simp [Entry.plain]
  have hzip (paths : List Text) : List.zipWith Entry.row (entries.map Entry.plain) paths =
      (List.zipWith Entry.row entries paths).map Row.plain := by
    rw [List.zipWith_map_left, List.map_zipWith]
    rfl
  rw [rowsOf, rowsOf, hpaths, modulePaths_plain]
  cases modulePaths g (entries.map (·.path)) with
  | error p => rfl
  | ok paths => exact congrArg Except.ok (hzip paths)

theorem documented?_plain (rows : List Row) (kind : ItemKind) (modulePath name : Text) :
    documented? (rows.map Row.plain) kind modulePath name = documented? rows kind modulePath name := by
  simp only [documented?, List.findIdx?_map]
  rfl

/-- An empty description counts as none, so the items are the same. -/
theorem rowItem_plain (rows : List Row) (paths : List PathEntry) (position : Nat) (row : Row) :
    rowItem g (rows.map Row.plain) paths position row.plain = rowItem g rows paths position row := by
  have href (entry : PathEntry) (k : Nat) : parentRef (rows.map Row.plain) row.modulePath entry k =
      parentRef rows row.modulePath entry k := by
    rw [parentRef, parentRef, documented?_plain]
  have hparent : rowParent g (rows.map Row.plain) paths position row.plain =
      rowParent g rows paths position row := by
    simp only [rowParent, Row.plain, href]
  have hdesc : descriptionOf row.plain = descriptionOf row := plain_plain row.description
  rw [rowItem, rowItem, hparent, hdesc]
  rfl

theorem rowItems_plain (rows : List Row) (paths : List PathEntry) :
    rowItems g (rows.map Row.plain) paths = rowItems g rows paths := by
  rw [rowItems, rowItems, List.zipIdx_map, List.mapM_map]
  refine congrArg (fun f => List.mapM f rows.zipIdx) (funext fun p => ?_)
  exact rowItem_plain g rows paths p.2 p.1

end

/-- What is empty or left out makes no difference to a crate. -/
theorem crateOf?_plain (version : Option Text) (t : Table) (entries : List Entry) :
    crateOf? version t (entries.map Entry.plain) = crateOf? version t entries := by
  have hbuild (rows : List Row) (paths : List PathEntry) :
      (Draft.mk t.name t.doc (rows.map Row.plain) paths).build .v1 version =
        (Draft.mk t.name t.doc rows paths).build .v1 version := by
    simp only [Draft.build, rowItems_plain]
  rw [crateOf?, crateOf?, rowsOf_plain]
  cases rowsOf .v1 entries with
  | error e => rfl
  | ok rows => simp only [Except.map, Except.toOption, bind, Option.bind_some, hbuild]

section

variable {α : Type} [Document α] {data x : α} {xs : List α} {t : Table}

theorem code_lt (kind : ItemKind) : kind.code < 26 := by
  cases kind <;> decide

/-- The letter of a kind. -/
def letter (kind : ItemKind) : CodePoint where
  val := 'A'.toNat + kind.code
  val_lt := by
    have h := code_lt kind
    have ha : 'A'.toNat = 65 := rfl
    omega

/-- A description as it stands in a column: what is empty may be null. -/
def IsDescription (x : α) (desc : Option Text) : Prop :=
  (shape x = .null ∧ plain desc = none) ∨ ∃ t, IsText x t ∧ plain (some t) = plain desc

/-- One pair of a position and a path for each row that has a path, in any order. -/
structure IsSparse (rows : List TableRow) (pairs : List (Int × Text)) : Prop where
  nodup : (pairs.map (·.1)).Nodup
  mem_iff {p} : p ∈ pairs ↔ ∃ (i : Nat) (r : TableRow), rows[i]? = some r ∧ r.path ≠ [] ∧
    p = ((i : Int), r.path)

/-- Zero for no parent, and otherwise one more than its position. -/
def parentCode (r : TableRow) : Int := r.parent.elim 0 fun k => k + 1

/-- The data of a crate has its table in columns. -/
structure Table.InColumns (t : Table) (data : α) : Prop where
  doc : ∃ x, HasField data "doc" x ∧ IsText x t.doc
  kinds : (∃ x, HasField data "t" x ∧ IsText x (t.rows.map fun r => letter r.kind)) ∨
    HasList data "t" IsInt (t.rows.map fun r => (r.kind.code : Int))
  names : HasList data "n" IsText (t.rows.map (·.name))
  modulePaths : HasList data "q" IsText (t.rows.map (·.path)) ∨
    ∃ pairs, IsSparse t.rows pairs ∧ HasList data "q" IsPair pairs
  descriptions : HasList data "d" IsDescription (t.rows.map (·.description)) ∨
    field? data "d" = none ∧ ∀ r ∈ t.rows, plain r.description = none
  parents : HasList data "i" IsInt (t.rows.map parentCode)
  paths : HasList data "p" IsPair t.paths

/-- Every kind has its own letter. -/
theorem letterKind_letter (kind : ItemKind) : letterKind (letter kind) = .ok kind := by
  cases kind <;> rfl

/-- Kinds are read from letters and from numbers alike. -/
theorem kindColumn_of_inColumns (h : t.InColumns data) :
    kindColumn data = .ok (t.rows.map (·.kind)) := by
  rcases h.kinds with ⟨x, hf, hx⟩ | ⟨x, xs, hf, hx, hall⟩
  · simp only [kindColumn, field_eq_ok_iff_hasField.mpr hf, bind, Except.bind]
    rw [hx]
    refine mapM_zipIdx_of_forall₂ ?_ 0
    rw [List.forall₂_map_left_iff, List.forall₂_same]
    intro r _ i
    simp only [letterKind_letter]
    rfl
  · simp only [kindColumn, field_eq_ok_iff_hasField.mpr hf, bind, Except.bind, hx]
    rw [List.forall₂_map_right_iff] at hall
    refine mapM_zipIdx_of_forall₂ (hall.imp fun x r hx i => ?_) 0
    simp only [ofCode_of_isInt hx, ofInt_code]
    rfl

theorem nameColumn_of_isText {rows : List TableRow}
    (h : List.Forall₂ IsText xs (rows.map (·.name))) :
    nameColumn xs = .ok (rows.map (·.name)) := by
  rw [List.forall₂_map_right_iff] at h
  refine mapM_zipIdx_of_forall₂ (h.imp fun x r hx i => ?_) 0
  simp only [itemName_of_isText hx r.name_ne]
  rfl

/-- Counting from one and taking one off again gives the position. -/
theorem parentEntry_of_isInt {r : TableRow} (h : IsInt x (parentCode r)) :
    parentEntry x = .ok (r.parent.map (Int.ofNat ·)) := by
  rw [parentEntry, h]
  cases hp : r.parent with
  | none => simp [parentCode, hp]
  | some k =>
    have hn : ¬ (k : Int) + 1 < 0 := by omega
    have hz : (k : Int) + 1 ≠ 0 := by omega
    simp [parentCode, hp, hn, hz]

theorem parentColumn_of_isInt {rows : List TableRow}
    (h : List.Forall₂ IsInt xs (rows.map parentCode)) :
    parentColumn rows.length xs = .ok (rows.map fun r => r.parent.map (Int.ofNat ·)) := by
  have hread : (xs.zipIdx.mapM fun p =>
      (parentEntry p.1).mapError (CrateError.item .v3 p.2)) =
        .ok (rows.map fun r => r.parent.map (Int.ofNat ·)) := by
    rw [List.forall₂_map_right_iff] at h
    refine mapM_zipIdx_of_forall₂ (h.imp fun x r hx i => ?_) 0
    simp only [parentEntry_of_isInt hx]
    rfl
  have hlen : checkLength "i" rows.length (rows.map fun r => r.parent.map (Int.ofNat ·)) = .ok () :=
    checkLength_eq_ok.mpr (List.length_map _)
  simp only [parentColumn, hread, bind, Except.bind, hlen]
  rfl

/-- By induction on the column, up to descriptions that are empty. -/
theorem exists_descriptions {rows : List TableRow}
    (h : List.Forall₂ (fun x r => IsDescription x r.description) xs rows) : ∃ descs,
      xs.mapM descriptionEntry? = some descs ∧
        descs.map plain = rows.map fun r => plain r.description := by
  induction h with
  | nil => exact ⟨[], rfl, rfl⟩
  | @cons x r xs rows hx _ ih =>
    obtain ⟨descs, hread, hdescs⟩ := ih
    obtain ⟨d, hd, hplain⟩ : ∃ d, descriptionEntry? x = some d ∧ plain d = plain r.description := by
      rcases hx with ⟨hs, hp⟩ | ⟨t, hs, hp⟩
      · exact ⟨none, by rw [ descriptionEntry?, hs], hp.symm⟩
      · exact ⟨some t, by rw [ descriptionEntry?, hs], hp⟩
    exact ⟨d :: descs, by simp [hd, hread], by simp [hplain, hdescs]⟩

/-- Descriptions are read up to those that are empty. -/
theorem descriptionColumn_of_inColumns (h : t.InColumns data) : ∃ descs,
    descriptionColumn t.rows.length (field? data "d") = .ok descs ∧
      descs.map plain = t.rows.map fun r => plain r.description := by
  rcases h.descriptions with ⟨x, xs, hf, hx, hall⟩ | ⟨hnone, hall⟩
  · rw [List.forall₂_map_right_iff] at hall
    obtain ⟨descs, hread, hdescs⟩ := exists_descriptions hall
    have hlen : checkLength "d" t.rows.length descs = .ok () := by
      apply checkLength_eq_ok.mpr
      simpa using congrArg List.length hdescs
    refine ⟨descs, ?_, hdescs⟩
    simp only [descriptionColumn, field?_of_hasField hf, Option.map_some, hx, hread, bind,
      Except.bind, hlen]
    rfl
  · refine ⟨List.replicate t.rows.length none, by rw [descriptionColumn, hnone]; rfl, ?_⟩
    rw [List.map_replicate, plain_none, eq_comm, List.eq_replicate_iff]
    refine ⟨List.length_map _, fun d hd => ?_⟩
    obtain ⟨r, hr, rfl⟩ := List.mem_map.mp hd
    exact hall r hr

end

section

variable {column : List (Option Text)} {pairs : List (Int × Text)} {i : Nat}

/-- Puts each path in its place. -/
def place (column : List (Option Text)) (pairs : List (Int × Text)) : List (Option Text) :=
  pairs.foldl (fun column p => column.set p.1.toNat (some p.2)) column

theorem length_place : (place column pairs).length = column.length := by
  induction pairs generalizing column with
  | nil => rfl
  | cons p pairs ih =>
    rw [place, List.foldl_cons, ← place, ih, List.length_set]

theorem getElem?_place_of_notMem (hpos : ∀ p ∈ pairs, 0 ≤ p.1)
    (h : (i : Int) ∉ pairs.map (·.1)) : (place column pairs)[i]? = column[i]? := by
  induction pairs generalizing column with
  | nil => rfl
  | cons p pairs ih =>
    simp only [List.map_cons, List.mem_cons, not_or] at h
    have hp := hpos p (by simp)
    rw [place, List.foldl_cons, ← place, ih (fun q hq => hpos q (by simp [hq])) h.2]
    exact List.getElem?_set_ne (by omega)

/-- With one pair for each position, the pair for it settles the entry. -/
theorem getElem?_place_of_mem (hpos : ∀ p ∈ pairs, 0 ≤ p.1) (hn : (pairs.map (·.1)).Nodup)
    (hi : i < column.length) {path : Text} (h : ((i : Int), path) ∈ pairs) :
    (place column pairs)[i]? = some (some path) := by
  induction pairs generalizing column with
  | nil => cases h
  | cons p pairs ih =>
    rw [List.map_cons, List.nodup_cons] at hn
    have hpos' : ∀ q ∈ pairs, 0 ≤ q.1 := fun q hq => hpos q (by simp [hq])
    rw [place, List.foldl_cons, ← place]
    rcases List.mem_cons.mp h with rfl | h
    · rw [getElem?_place_of_notMem hpos' hn.1]
      exact List.getElem?_set_self (by simpa using hi)
    · exact ih hpos' hn.2 (by simpa using hi) h

/-- Pairs within range are put in their places one after the other. -/
theorem spread_of_isPair {α : Type} [Document α] {xs : List α} {items : Nat}
    (h : List.Forall₂ IsPair xs pairs) (hpos : ∀ p ∈ pairs, 0 ≤ p.1 ∧ p.1 < items) :
    spread items column xs = .ok (place column pairs) := by
  induction h generalizing column with
  | nil => rfl
  | @cons x p xs pairs hx _ ih =>
    obtain ⟨n, t, hs, hn, ht⟩ := hx
    have hpair : pathPair x = .ok p := by
      rw [pathPair, hs]
      simp only
      rw [hn, ht]
    simp only [spread, hpair, bind, Except.bind]
    rw [if_pos (hpos p (by simp)), ih fun q hq => hpos q (by simp [hq])]
    rfl

end

section

variable {α : Type} [Document α] {data : α} {xs : List α} {t : Table}

/-- Paths are read up to those that are empty. -/
def ReadsPaths (rows : List TableRow) (r : Except CrateError (List (Option Text))) : Prop :=
  ∃ given, r = .ok given ∧ given.map plain = rows.map fun r => plain (some r.path)

/-- Pairs that give all paths but the empty ones give the column up to these. -/
theorem place_isSparse {rows : List TableRow} {pairs : List (Int × Text)}
    (h : IsSparse rows pairs) : (place (List.replicate rows.length none) pairs).map plain =
      rows.map fun r => plain (some r.path) := by
  have hpos : ∀ p ∈ pairs, 0 ≤ p.1 := by
    intro p hp
    obtain ⟨i, r, -, -, rfl⟩ := h.mem_iff.mp hp
    exact Int.natCast_nonneg i
  apply List.ext_getElem?
  intro i
  rw [List.getElem?_map, List.getElem?_map]
  cases hr : rows[i]? with
  | none =>
    have hlen : rows.length ≤ i := List.getElem?_eq_none_iff.mp hr
    rw [List.getElem?_eq_none_iff.mpr (by simpa [length_place] using hlen)]
    rfl
  | some r =>
    have hi : i < (List.replicate rows.length (none : Option Text)).length := by
      rw [List.length_replicate]
      exact (List.getElem?_eq_some_iff.mp hr).1
    by_cases hpath : r.path = []
    · have hnot : (i : Int) ∉ pairs.map (·.1) := by
        intro hm
        obtain ⟨p, hp, hpi⟩ := List.mem_map.mp hm
        obtain ⟨j, r', hr', hne, rfl⟩ := h.mem_iff.mp hp
        obtain rfl : j = i := Int.ofNat_inj.mp hpi
        rw [hr] at hr'
        cases hr'
        exact hne hpath
      rw [getElem?_place_of_notMem hpos hnot, List.getElem?_replicate_of_lt (by simpa using hi)]
      simp [hpath]
    · have hm : ((i : Int), r.path) ∈ pairs := h.mem_iff.mpr ⟨i, r, hr, hpath, rfl⟩
      rw [getElem?_place_of_mem hpos h.nodup hi hm]
      rfl

/-- A table whose first row has no path is refused, in whatever layout. -/
theorem rowsOf_firstEmpty {r : TableRow} (hr : r.path = []) (rows : List TableRow) :
    (rowsOf .v1 ((r :: rows).map TableRow.entry)).toOption = none := by
  simp [rowsOf, modulePaths, foldPaths, TableRow.entry, hr]
  rfl

theorem pathColumn_of_isText {rows : List TableRow}
    (h : List.Forall₂ IsText xs (rows.map (·.path))) :
    ReadsPaths rows (pathColumn rows.length xs) := by
  refine ⟨rows.map fun r => some r.path, ?_, by simp⟩
  have hread : xs.mapM textOf? = some (rows.map (·.path)) := by
    refine mapM_eq_some.mpr (h.imp fun x path hx => ?_)
    rw [textOf?, hx]
  have hlen : checkLength "q" rows.length (rows.map (·.path)) = .ok () :=
    checkLength_eq_ok.mpr (List.length_map _)
  simp only [pathColumn, hread, hlen, bind, Except.bind, List.map_map]
  rfl

/-- Only a column without any path is not read, and then there is no first path. -/
theorem pathColumn_of_isSparse {rows : List TableRow} {pairs : List (Int × Text)}
    (hsparse : IsSparse rows pairs) (h : List.Forall₂ IsPair xs pairs) :
    ReadsPaths rows (pathColumn rows.length xs) ∨
      (∃ e, pathColumn rows.length xs = .error e) ∧
        (rowsOf .v1 (rows.map TableRow.entry)).toOption = none := by
  cases h with
  | nil =>
    cases rows with
    | nil => exact .inl ⟨[], rfl, rfl⟩
    | cons r rows =>
      have hr : r.path = [] := by
        by_contra hne
        have hm := hsparse.mem_iff.mpr ⟨0, r, by simp, hne, rfl⟩
        cases hm
      exact .inr ⟨⟨_, rfl⟩, rowsOf_firstEmpty hr rows⟩
  | @cons x p xs pairs hx hall =>
    left
    have hnone : (x :: xs).mapM textOf? = none := by
      obtain ⟨n, path, hs, -, -⟩ := hx
      have htext : textOf? x = none := by rw [textOf?, hs]
      rw [List.mapM_cons, htext]
      rfl
    refine ⟨_, ?_, place_isSparse hsparse⟩
    rw [pathColumn, hnone]
    refine spread_of_isPair (.cons hx hall) fun q hq => ?_
    obtain ⟨i, r, hr, -, rfl⟩ := hsparse.mem_iff.mp hq
    have hi := (List.getElem?_eq_some_iff.mp hr).1
    exact ⟨Int.natCast_nonneg i, by simpa using hi⟩

theorem pathColumn_of_inColumns (h : t.InColumns data) : ∃ qs, listField .v3 data "q" = .ok qs ∧
    (ReadsPaths t.rows (pathColumn t.rows.length qs) ∨
      (∃ e, pathColumn t.rows.length qs = .error e) ∧
        (rowsOf .v1 (t.rows.map TableRow.entry)).toOption = none) := by
  rcases h.modulePaths with h | ⟨pairs, hsparse, h⟩
  · obtain ⟨qs, hqs, -, hall⟩ := exists_listField h .v3
    exact ⟨qs, hqs, .inl (pathColumn_of_isText hall)⟩
  · obtain ⟨qs, hqs, -, hall⟩ := exists_listField h .v3
    exact ⟨qs, hqs, pathColumn_of_isSparse hsparse hall⟩

/-- Columns that agree with the table entry by entry zip to its rows, up to what is empty. -/
theorem zipColumns_plain {rows : List TableRow} {given descs : List (Option Text)}
    (hgiven : given.map plain = rows.map fun r => plain (some r.path))
    (hdescs : descs.map plain = rows.map fun r => plain r.description) :
    (zipColumns (rows.map (·.kind)) (rows.map (·.name)) given descs
      (rows.map fun r => r.parent.map (Int.ofNat ·))).map Entry.plain =
      (rows.map TableRow.entry).map Entry.plain := by
  induction rows generalizing given descs with
  | nil => rfl
  | cons r rows ih =>
    obtain ⟨path, given, rfl⟩ := List.exists_cons_of_ne_nil (l := given) (by rintro rfl; cases hgiven)
    obtain ⟨desc, descs, rfl⟩ := List.exists_cons_of_ne_nil (l := descs) (by rintro rfl; cases hdescs)
    simp only [List.map_cons, List.cons.injEq] at hgiven hdescs
    simp only [List.map_cons, zipColumns, ih hgiven.2 hdescs.2, List.cons.injEq, and_true]
    simp only [Entry.plain, TableRow.entry, hgiven.1, hdescs.1]

/-- Columns make the crate of their table. -/
theorem crate?_of_inColumns (h : t.InColumns data) (version : Option Text) :
    ((columnDraft t.name data).bind (·.build .v3 version)).toOption = t.crate? version := by
  obtain ⟨doc, hdoc, htext⟩ := h.doc
  obtain ⟨names, hnames, -, hnamesAll⟩ := exists_listField h.names .v3
  obtain ⟨qs, hqs, hpathColumn⟩ := pathColumn_of_inColumns h
  obtain ⟨descs, hdescs, hplain⟩ := descriptionColumn_of_inColumns h
  obtain ⟨parents, hparents, -, hparentsAll⟩ := exists_listField h.parents .v3
  obtain ⟨entries, hentries, -, hpaths⟩ := exists_listField h.paths .v3
  have hcount : names.length = t.rows.length := by simpa using hnamesAll.length_eq
  have hkinds : checkLength "t" t.rows.length (t.rows.map (·.kind)) = .ok () :=
    checkLength_eq_ok.mpr (List.length_map _)
  have hpaths := pathEntries_of_isPair (g := .v3) hpaths
  have hdraft : columnDraft t.name data = pathColumn t.rows.length qs >>= fun given =>
      pathEntries .v3 entries >>= fun paths => rowsOf .v3 (zipColumns (t.rows.map (·.kind))
        (t.rows.map (·.name)) given descs (t.rows.map fun r => r.parent.map (Int.ofNat ·))) >>=
          fun rows => Except.ok (Draft.mk t.name t.doc rows paths) := by
    simp only [columnDraft, bind, Except.bind, kindColumn_of_inColumns h, hnames, hcount, hkinds,
      nameColumn_of_isText hnamesAll, hqs, hdescs, hparents, parentColumn_of_isInt hparentsAll,
      hentries, docField_of_isText hdoc htext]
    rfl
  change (columnDraft t.name data >>= (·.build .v3 version)).toOption = _
  rw [hdraft, Table.crate?]
  rcases hpathColumn with ⟨given, hread, hgiven⟩ | ⟨⟨e, hread⟩, hnone⟩
  · have hplain := zipColumns_plain hgiven hplain
    rw [← crateOf?_plain, ← hplain, crateOf?_plain, ← toOption_build .v3 version t _ hpaths, hread]
    refine toOption_bind.trans (Eq.trans ?_ toOption_bind.symm)
    exact congrArg (fun d => Option.bind d _) (toOption_bind_comm (x := pathEntries .v3 entries))
  · rw [hread, crateOf?, hnone]
    rfl

end

end RustdocIndex.Payload
