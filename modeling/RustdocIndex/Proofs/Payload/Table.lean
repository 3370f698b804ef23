import RustdocIndex.Payload.Decode
import RustdocIndex.Proofs.Document.Similar
import RustdocIndex.Proofs.Payload.Build
import RustdocIndex.Proofs.Payload.Shown

/-! Tables of crates, and how they are laid out in rows. -/
namespace RustdocIndex.Payload

open Document (Similar shape)

/-- A row of the table of a crate. -/
structure TableRow where
  kind : ItemKind
  name : Text
  name_ne : name ≠ []
  /-- The module path, or nothing if it is the one of the row before. -/
  path : Text
  description : Option Text
  /-- A position in the paths table. -/
  parent : Option Nat

/-- What a payload tells of one crate, in whatever layout. -/
structure Table where
  name : Text
  doc : Text
  rows : List TableRow
  /-- Codes and names, as they were given. -/
  paths : List (Int × Text)

def TableRow.entry (r : TableRow) : Entry :=
  ⟨r.kind, r.name, some r.path, r.description, r.parent.map (Int.ofNat ·)⟩

def pathEntry? (p : Int × Text) : Option PathEntry :=
  (ItemKind.ofInt p.1).toOption.map fun kind => ⟨kind, p.2⟩

/-- The crate of entries, if they make one. The generation that makes it is seen in its errors alone,
so this is the crate of every generation. -/
def crateOf? (version : Option Text) (t : Table) (entries : List Entry) : Option Crate := do
  let rows ← (rowsOf .v1 entries).toOption
  let paths ← t.paths.mapM pathEntry?
  ((Draft.mk t.name t.doc rows paths).build .v1 version).toOption

/-- The crate of a table, if it makes one. -/
def Table.crate? (version : Option Text) (t : Table) : Option Crate :=
  crateOf? version t (t.rows.map TableRow.entry)

section

variable {α β γ : Type} [Document α] [Document β] {data x : α} {key : String} {g : Generation}

def IsText (x : α) (t : Text) : Prop := shape x = .text t

def IsInt (x : α) (n : Int) : Prop := shape x = .int n

/-- Nothing is shown as null. -/
def IsOptional (shows : α → γ → Prop) (x : α) : Option γ → Prop
  | none => shape x = .null
  | some b => shows x b

/-- A pair of an integer and a text. -/
def IsPair (x : α) (p : Int × Text) : Prop :=
  ∃ n t, shape x = .array [n, t] ∧ IsInt n p.1 ∧ IsText t p.2

def IsRow (x : α) (r : TableRow) : Prop :=
  ∃ code name path desc parent, shape x = .array [code, name, path, desc, parent] ∧
    IsInt code r.kind.code ∧ IsText name r.name ∧ IsText path r.path ∧
    IsOptional IsText desc r.description ∧ IsOptional IsInt parent (r.parent.map (Int.ofNat ·))

def HasField (data : α) (key : String) (x : α) : Prop :=
  ∃ fields, shape data = .object fields ∧ Fields.get? (Text.ofString key) fields = some x

/-- A field is a list that shows some values one by one. -/
def HasList (data : α) (key : String) (shows : α → γ → Prop) (ys : List γ) : Prop :=
  ∃ x xs, HasField data key x ∧ shape x = .array xs ∧ List.Forall₂ shows xs ys

/-- The data of a crate has its table in rows. -/
structure Table.InRows (t : Table) (data : α) : Prop where
  doc : ∃ x, HasField data "doc" x ∧ IsText x t.doc
  rows : HasList data "i" IsRow t.rows
  paths : HasList data "p" IsPair t.paths

theorem field?_of_hasField (h : HasField data key x) : field? data key = some x := by
  obtain ⟨fields, hs, hx⟩ := h
  simp only [field?, hs, hx]

theorem field_eq_ok_iff_hasField : field g data key = .ok x ↔ HasField data key x := field_eq_ok

/-- The elements of a list are read in the order of what they show. -/
theorem exists_listField {shows : α → γ → Prop} {ys : List γ} (h : HasList data key shows ys)
    (g : Generation) : ∃ xs, listField g data key = .ok xs ∧ (field? data key).map shape = some (.array xs) ∧
      List.Forall₂ shows xs ys := by
  obtain ⟨x, xs, hf, hs, hall⟩ := h
  exact ⟨xs, listField_eq_ok.mpr ⟨x, field_eq_ok_iff_hasField.mpr hf, hs⟩,
    by simp [field?_of_hasField hf, hs], hall⟩

theorem docField_of_isText {t : Text} (hf : HasField data "doc" x) (hx : IsText x t) :
    docField g data = .ok t := by
  rw [docField, field?_of_hasField hf, Option.map_some, hx]

theorem itemName_of_isText {t : Text} (hx : IsText x t) (ht : t ≠ []) : itemName x = .ok t := by
  obtain ⟨c, u, rfl⟩ := List.exists_cons_of_ne_nil ht
  rw [itemName, hx]

/-- Every kind has its own code. -/
theorem ofInt_code (kind : ItemKind) : ItemKind.ofInt kind.code = .ok kind := by
  cases kind <;> rfl

theorem ofCode_of_isInt {n : Int} (h : IsInt x n) : ItemKind.ofCode x = ItemKind.ofInt n := by
  rw [ItemKind.ofCode, h]

theorem optionalText_of_isOptional {t : Option Text} (h : IsOptional IsText x t) :
    optionalText (some x) = some t := by
  cases t with
  | none => simp only [optionalText, Option.map_some, show shape x = .null from h]
  | some t => simp only [optionalText, Option.map_some, show shape x = .text t from h]

theorem optionalInt_of_isOptional {n : Option Int} (h : IsOptional IsInt x n) :
    optionalInt (some x) = some n := by
  cases n with
  | none => simp only [optionalInt, Option.map_some, show shape x = .null from h]
  | some n => simp only [optionalInt, Option.map_some, show shape x = .int n from h]

/-- A full row is read as its row of the table, with the module path as it is written. -/
theorem rowEntry_of_isRow {r : TableRow} (h : IsRow x r) : rowEntry x = .ok r.entry := by
  obtain ⟨code, name, path, desc, parent, hs, hcode, hname, hpath, hdesc, hparent⟩ := h
  have hp : optionalText (some path) = some (some r.path) := optionalText_of_isOptional hpath
  have hd := optionalText_of_isOptional hdesc
  have hi := optionalInt_of_isOptional hparent
  rw [rowEntry, hs]
  simp only [itemName_of_isText hname r.name_ne, bind, Except.bind, List.getElem?_cons_zero,
    List.getElem?_cons_succ, hp, hd, hi, Option.elim, pure, Except.pure, ofCode_of_isInt hcode,
    ofInt_code]
  rfl

theorem rowEntries_of_isRow {xs : List α} {rows : List TableRow} (h : List.Forall₂ IsRow xs rows) :
    rowEntries g xs = .ok (rows.map TableRow.entry) := by
  refine mapM_zipIdx_of_forall₂ (h.imp fun x r hx i => ?_) 0
  simp only [rowEntry_of_isRow hx]
  rfl

/-- An entry of the paths table fails for its code alone. -/
theorem pathEntry_of_isPair {p : Int × Text} (h : IsPair x p) (i : Nat) :
    pathEntry g i x = match ItemKind.ofInt p.1 with
      | .ok kind => .ok ⟨kind, p.2⟩
      | .error problem => .error ⟨g, .entryCode i problem⟩ := by
  obtain ⟨n, t, hs, hn, ht⟩ := h
  rw [pathEntry, hs]
  simp only
  rw [ht]
  cases hk : ItemKind.ofInt p.1 <;> simp only [ofCode_of_isInt hn, hk]

theorem pathEntries_of_isPair {xs : List α} {paths : List (Int × Text)}
    (h : List.Forall₂ IsPair xs paths) : (pathEntries g xs).toOption = paths.mapM pathEntry? := by
  rw [pathEntries]
  refine toOption_mapM_zipIdx (h.imp fun x p hx i => ?_) 0
  simp only [pathEntry_of_isPair hx, pathEntry?]
  cases ItemKind.ofInt p.1 <;> rfl

/-- A draft of entries makes the crate of the entries. -/
theorem toOption_build (g : Generation) (version : Option Text) (t : Table) (entries : List Entry)
    {paths : Except CrateError (List PathEntry)} (hp : paths.toOption = t.paths.mapM pathEntry?) :
    ((rowsOf g entries >>= fun rows => paths >>= fun paths =>
      Except.ok (Draft.mk t.name t.doc rows paths)) >>= (·.build g version)).toOption =
      crateOf? version t entries := by
  rw [crateOf?, toOption_bind, toOption_bind, ← hp, rowsOf_toOption g .v1]
  cases rowsOf .v1 entries with
  | error e => rfl
  | ok rows =>
    simp only [Except.toOption, Option.bind_some]
    cases paths with
    | error e => rfl
    | ok paths => exact build_toOption g .v1 version _

/-- In data with the table in rows, only module paths and codes of the paths table can be wrong. -/
theorem rowDraft_of_inRows {t : Table} (h : t.InRows data) (g : Generation) :
    ∃ entries : List α, List.Forall₂ IsPair entries t.paths ∧ rowDraft g t.name data =
      rowsOf g (t.rows.map TableRow.entry) >>= fun rows => pathEntries g entries >>= fun paths =>
        Except.ok (Draft.mk t.name t.doc rows paths) := by
  obtain ⟨doc, hdoc, htext⟩ := h.doc
  obtain ⟨items, hitems, -, hrows⟩ := exists_listField h.rows g
  obtain ⟨entries, hentries, -, hpaths⟩ := exists_listField h.paths g
  refine ⟨entries, hpaths, ?_⟩
  simp only [rowDraft, bind, Except.bind, hitems, hentries, docField_of_isText hdoc htext,
    rowEntries_of_isRow hrows]
  rfl

/-- Rows make the crate of their table. -/
theorem crate?_of_inRows {t : Table} (h : t.InRows data) (g : Generation)
    (version : Option Text) :
    ((rowDraft g t.name data).bind (·.build g version)).toOption = t.crate? version := by
  obtain ⟨entries, hpaths, hdraft⟩ := rowDraft_of_inRows h g
  rw [hdraft]
  exact toOption_build g version t _ (pathEntries_of_isPair hpaths)

/-- What can be wrong with a table in rows is told without the data. -/
theorem shown?_of_inRows {t : Table} (h : t.InRows data) (g : Generation)
    (version : Option Text) : FailsOnly (fun e => e.problem.shown? = none)
      ((rowDraft g t.name data).bind (·.build g version)) := by
  obtain ⟨entries, hpaths, hdraft⟩ := rowDraft_of_inRows h g
  rw [hdraft]
  refine FailsOnly.bind ?_ fun d _ => (build_shown? g version d).imp fun _ he => he.2
  refine FailsOnly.bind ?_ fun rows _ => FailsOnly.bind ?_ fun paths _ => .ok _
  · refine FailsOnly.bind ?_ fun _ _ => .ok _
    unfold modulePaths
    split
    · exact .error rfl
    · exact .ok _
  · apply FailsOnly.mapM
    rintro ⟨x, i⟩ hm
    obtain ⟨p, -, hp⟩ := exists_of_forall₂ hpaths.flip (List.fst_mem_of_mem_zipIdx hm)
    simp only [pathEntry_of_isPair hp]
    cases hk : ItemKind.ofInt p.1 with
    | ok kind => exact .ok _
    | error problem =>
      unfold ItemKind.ofInt at hk
      split at hk <;> cases hk
      exact .error rfl

/-- Items in rows are lists, by which rows are told from columns. -/
theorem inRows_of_table {t : Table} (h : t.InRows data) : inRows data := by
  obtain ⟨items, -, hitems, hrows⟩ := exists_listField h.rows .v1
  rw [inRows, hitems]
  simp only [List.all_eq_true]
  intro x hx
  obtain ⟨r, -, hr⟩ := exists_of_forall₂ hrows.flip hx
  obtain ⟨code, name, path, desc, parent, hs, -⟩ := hr
  rw [hs]
  rfl

/-! What is shown in one notation is shown in every one that looks the same. -/

variable {R : α → β → Prop} {a : α} {b : β}

theorem IsOptional.of_similar {shows : α → γ → Prop} {shows' : β → γ → Prop} (h : Similar R)
    (hr : R a b) {c : Option γ} (hshows : ∀ c, shows' b c → shows a c)
    (hb : IsOptional shows' b c) : IsOptional shows a c := by
  cases c with
  | none => exact h.null hr hb
  | some c => exact hshows c hb

theorem IsPair.of_similar (h : Similar R) {p : Int × Text} (hr : R a b) (hb : IsPair b p) :
    IsPair a p := by
  obtain ⟨n, t, hs, hn, ht⟩ := hb
  obtain ⟨xs, hxs, hall⟩ := h.array hr hs
  cases hall with
  | cons hn' hall =>
    cases hall with
    | cons ht' hall =>
      cases hall
      exact ⟨_, _, hxs, h.int hn' hn, h.text ht' ht⟩

/-- A row is taken apart cell by cell, and each is compared with its own. -/
theorem IsRow.of_similar (h : Similar R) {r : TableRow} (hr : R a b) (hb : IsRow b r) :
    IsRow a r := by
  obtain ⟨code, name, path, desc, parent, hs, hcode, hname, hpath, hdesc, hparent⟩ := hb
  obtain ⟨xs, hxs, hall⟩ := h.array hr hs
  rcases hall with _ | ⟨h1, hall⟩
  rcases hall with _ | ⟨h2, hall⟩
  rcases hall with _ | ⟨h3, hall⟩
  rcases hall with _ | ⟨h4, hall⟩
  rcases hall with _ | ⟨h5, hall⟩
  cases hall
  refine ⟨_, _, _, _, _, hxs, h.int h1 hcode, h.text h2 hname, h.text h3 hpath, ?_, ?_⟩
  · exact hdesc.of_similar h h4 fun _ => h.text h4
  · exact hparent.of_similar h h5 fun _ => h.int h5

theorem HasField.of_similar (h : Similar R) {y : β} (hr : R a b) (hb : HasField b key y) :
    ∃ x, HasField a key x ∧ R x y := by
  obtain ⟨fields, hs, hy⟩ := hb
  obtain ⟨fs, hfs, hall⟩ := h.object hr hs
  obtain ⟨x, hx, hxy⟩ := Fields.get?_of_forall₂ hall hy
  exact ⟨x, ⟨fs, hfs, hx⟩, hxy⟩

/-- By induction on the two lists, which are alike element by element. -/
theorem HasList.of_similar {shows : α → γ → Prop} {shows' : β → γ → Prop} (h : Similar R)
    (hr : R a b) {cs : List γ} (hshows : ∀ x y c, R x y → shows' y c → shows x c)
    (hb : HasList b key shows' cs) : HasList a key shows cs := by
  obtain ⟨y, ys, hf, hs, hall⟩ := hb
  obtain ⟨x, hx, hxy⟩ := hf.of_similar h hr
  obtain ⟨xs, hxs, hsim⟩ := h.array hxy hs
  refine ⟨x, xs, hx, hxs, ?_⟩
  clear hxs hs
  induction hsim generalizing cs with
  | nil =>
    cases hall
    exact .nil
  | cons hx _ ih =>
    cases hall with
    | cons hc hall => exact .cons (hshows _ _ _ hx hc) (ih hall)

/-- A table is in rows in every notation that looks the same, so what is proved for JSON holds for
programs. -/
theorem Table.InRows.of_similar {t : Table} (h : Similar R) (hr : R a b) (hb : t.InRows b) :
    t.InRows a where
  doc := by
    obtain ⟨y, hy, ht⟩ := hb.doc
    obtain ⟨x, hx, hxy⟩ := hy.of_similar h hr
    exact ⟨x, hx, h.text hxy ht⟩
  rows := hb.rows.of_similar h hr fun _ _ _ hxy => IsRow.of_similar h hxy
  paths := hb.paths.of_similar h hr fun _ _ _ hxy => IsPair.of_similar h hxy

end

end RustdocIndex.Payload
