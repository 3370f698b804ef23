import RustdocIndex.Proofs.Payload.Build
import RustdocIndex.Proofs.Payload.TableColumns

/-! What payloads declare, item by item, and what becomes of it. -/
namespace RustdocIndex.Payload

open Document (shape)

/-- What is declared of an item besides its texts. The parent is a position in the paths table. -/
structure RawItem where
  kind : ItemKind
  name : Text
  parent : Option Int

def Entry.raw (e : Entry) : RawItem := ⟨e.kind, e.name, e.parent⟩

def Row.raw (r : Row) : RawItem := ⟨r.kind, r.name, r.parent⟩

section

variable {α : Type} [Document α] {data x : α} {xs : List α} {key : String} {name : Text} {d : Draft}
  {g : Generation}

/-- A cell of a row that may be null or left out. -/
def IsOptionalCell {γ : Type} (shows : α → γ → Prop) (cell : Option α) (c : Option γ) : Prop :=
  (cell = none ∧ c = none) ∨ ∃ x, cell = some x ∧ IsOptional shows x c

/-- A row begins with a code and a name, and its fifth cell gives the parent. -/
def IsRawRow (x : α) (r : RawItem) : Prop :=
  ∃ code name more, shape x = .array (code :: name :: more) ∧ IsInt code r.kind.code ∧
    IsText name r.name ∧ IsOptionalCell IsInt more[2]? r.parent

/-- A column counts parents from one, and zero stands for none. -/
def IsRawParent (x : α) (parent : Option Int) : Prop :=
  ∃ n : Int, IsInt x n ∧ 0 ≤ n ∧ parent = if n = 0 then none else some (n - 1)

/-- An entry of the paths table begins with a code and a name. -/
def IsRawPath (x : α) (entry : PathEntry) : Prop :=
  ∃ code name more, shape x = .array (code :: name :: more) ∧ IsInt code entry.kind.code ∧
    IsText name entry.name

/-- The data of a crate declares items in rows. -/
structure DeclaresRows (data : α) (declared : List RawItem) (paths : List PathEntry) : Prop where
  rows : HasList data "i" IsRawRow declared
  paths : HasList data "p" IsRawPath paths

/-- The data of a crate declares items in columns. -/
structure DeclaresColumns (data : α) (declared : List RawItem) (paths : List PathEntry) :
    Prop where
  kinds : (∃ x, HasField data "t" x ∧ IsText x (declared.map fun r => letter r.kind)) ∨
    HasList data "t" IsInt (declared.map fun r => (r.kind.code : Int))
  names : HasList data "n" IsText (declared.map (·.name))
  parents : HasList data "i" IsRawParent (declared.map (·.parent))
  paths : HasList data "p" IsRawPath paths

theorem hasList_of_listField {γ : Type} {shows : α → γ → Prop} {ys : List γ}
    (h : listField g data key = .ok xs) (hall : List.Forall₂ shows xs ys) :
    HasList data key shows ys := by
  obtain ⟨x, hx, hs⟩ := listField_eq_ok.mp h
  exact ⟨x, xs, field_eq_ok_iff_hasField.mp hx, hs, hall⟩

/-- A kind is read from its own code only. -/
theorem code_of_ofInt {n : Int} {kind : ItemKind} (h : ItemKind.ofInt n = .ok kind) :
    n = kind.code := by
  unfold ItemKind.ofInt at h
  split at h
  · next k hk =>
    cases h
    split at hk
    · next hn =>
      obtain ⟨hlt, rfl⟩ := List.getElem?_eq_some_iff.mp hk
      have hnodup : ItemKind.all.Nodup := by decide
      rw [ItemKind.code, hnodup.idxOf_getElem]
      omega
    · cases hk
  · cases h

theorem isInt_of_ofCode {kind : ItemKind} (h : ItemKind.ofCode x = .ok kind) :
    IsInt x kind.code := by
  unfold ItemKind.ofCode at h
  split at h
  · next n hs => exact hs.trans (congrArg Shape.int (code_of_ofInt h))
  · cases h

theorem isText_of_itemName (h : itemName x = .ok name) : IsText x name := by
  unfold itemName at h
  split at h
  · next hs =>
    cases h
    exact hs
  · cases h

theorem isOptionalCell_of_optionalInt {cell : Option α} {n : Option Int}
    (h : optionalInt cell = some n) : IsOptionalCell IsInt cell n := by
  cases cell with
  | none =>
    cases h
    exact .inl ⟨rfl, rfl⟩
  | some x =>
    refine .inr ⟨x, rfl, ?_⟩
    simp only [optionalInt, Option.map_some] at h
    split at h
    · next hs => cases hs
    · next hs =>
      cases h
      exact Option.some.inj hs
    · next hs =>
      cases h
      exact Option.some.inj hs
    · cases h

/-- What is read from a row stands in it. Its texts are left out here, since they may be inherited
or dropped. -/
theorem isRawRow_of_rowEntry {e : Entry} (h : rowEntry x = .ok e) : IsRawRow x e.raw := by
  unfold rowEntry at h
  split at h
  · next code nameCell more hs =>
    obtain ⟨name, hname, h⟩ := bind_eq_ok.mp h
    obtain ⟨path, -, h⟩ := bind_eq_ok.mp h
    obtain ⟨desc, -, h⟩ := bind_eq_ok.mp h
    obtain ⟨parent, hparent, h⟩ := bind_eq_ok.mp h
    obtain ⟨kind, hkind, h⟩ := bind_eq_ok.mp h
    cases h
    refine ⟨code, nameCell, more, hs, isInt_of_ofCode (mapError_eq_ok.mp hkind),
      isText_of_itemName hname, ?_⟩
    cases ho : optionalInt more[2]? with
    | none =>
      rw [ho] at hparent
      cases hparent
    | some n =>
      rw [ho] at hparent
      cases hparent
      exact isOptionalCell_of_optionalInt ho
  · cases h

/-- An entry of the paths table has a kind and a name, and more cells are left out. -/
theorem isRawPath_of_pathEntry {i : Nat} {entry : PathEntry}
    (h : pathEntry g i x = .ok entry) : IsRawPath x entry := by
  unfold pathEntry at h
  split at h
  · next code nameCell more hs =>
    split at h
    · next name hname =>
      split at h
      · next kind hkind =>
        cases h
        exact ⟨code, nameCell, more, hs, isInt_of_ofCode hkind, hname⟩
      · cases h
    · cases h
  · cases h

theorem isRawParent_of_parentEntry {parent : Option Int} (h : parentEntry x = .ok parent) :
    IsRawParent x parent := by
  unfold parentEntry at h
  split at h
  · next n hs =>
    split at h
    · cases h
    · next hn =>
      cases h
      exact ⟨n, hs, Int.not_lt.mp hn, rfl⟩
  · cases h

theorem hasList_of_pathEntries {paths : List PathEntry} (hxs : listField g data "p" = .ok xs)
    (h : pathEntries g xs = .ok paths) : HasList data "p" IsRawPath paths :=
  hasList_of_listField hxs (forall₂_of_mapM_zipIdx h fun _ _ _ => isRawPath_of_pathEntry)

theorem length_foldPaths (last : Text) (given : List (Option Text)) :
    (foldPaths last given).length = given.length := by
  induction given generalizing last with
  | nil => rfl
  | cons path given ih => simp only [foldPaths, List.length_cons, ih]

/-- Filling in module paths changes nothing else. -/
theorem raw_of_rowsOf {entries : List Entry} {rows : List Row}
    (h : rowsOf g entries = .ok rows) : rows.map Row.raw = entries.map Entry.raw := by
  obtain ⟨paths, hpaths, hzip⟩ := bind_eq_ok.mp h
  cases hzip
  have hlen : entries.length ≤ paths.length := by
    unfold modulePaths at hpaths
    split at hpaths
    · cases hpaths
    · cases hpaths
      rw [length_foldPaths, List.length_map]
  clear hpaths h
  induction entries generalizing paths with
  | nil => rfl
  | cons e entries ih =>
    obtain ⟨path, paths, rfl⟩ := List.exists_cons_of_ne_nil (List.ne_nil_of_length_pos
      (Nat.lt_of_lt_of_le (Nat.succ_pos _) hlen))
    rw [List.zipWith_cons_cons, List.map_cons, List.map_cons, ih paths (Nat.le_of_succ_le_succ hlen)]
    rfl

/-- A draft of rows has what the data declares, step by step as it is read. -/
theorem declaresRows_of_rowDraft (h : rowDraft g name data = .ok d) :
    d.name = name ∧ DeclaresRows data (d.rows.map Row.raw) d.paths := by
  obtain ⟨items, hitems, h⟩ := bind_eq_ok.mp h
  obtain ⟨table, htable, h⟩ := bind_eq_ok.mp h
  obtain ⟨doc, -, h⟩ := bind_eq_ok.mp h
  obtain ⟨entries, hentries, h⟩ := bind_eq_ok.mp h
  obtain ⟨rows, hrows, h⟩ := bind_eq_ok.mp h
  obtain ⟨paths, hpaths, h⟩ := bind_eq_ok.mp h
  cases h
  refine ⟨rfl, ?_, hasList_of_pathEntries htable hpaths⟩
  rw [raw_of_rowsOf hrows]
  refine hasList_of_listField hitems (List.forall₂_map_right_iff.mpr ?_)
  exact forall₂_of_mapM_zipIdx hentries fun x i e he => isRawRow_of_rowEntry (mapError_eq_ok.mp he)

theorem eq_letter_of_letterKind {c : CodePoint} {kind : ItemKind} (h : letterKind c = .ok kind) :
    c = letter kind := by
  unfold letterKind at h
  split at h
  · next hc =>
    have hcode := code_of_ofInt (mapError_eq_ok.mp h)
    have ha : 'A'.toNat = 65 := rfl
    obtain ⟨val, hval⟩ := c
    simp only [letter, CodePoint.mk.injEq] at hc hcode ⊢
    omega
  · cases h

/-- The column of kinds is a text of letters or a list of codes. -/
theorem declared_of_kindColumn {kinds : List ItemKind} (h : kindColumn data = .ok kinds) :
    (∃ x, HasField data "t" x ∧ IsText x (kinds.map letter)) ∨
      HasList data "t" IsInt (kinds.map fun k => (k.code : Int)) := by
  obtain ⟨x, hx, h⟩ := bind_eq_ok.mp h
  have hfield := field_eq_ok_iff_hasField.mp hx
  split at h
  · next t hs =>
    have hall : List.Forall₂ (fun c k => c = letter k) t kinds :=
      forall₂_of_mapM_zipIdx h fun c i k hk => eq_letter_of_letterKind (mapError_eq_ok.mp hk)
    have heq : t = kinds.map letter := by
      rw [← List.forall₂_map_right_iff] at hall
      exact List.forall₂_eq_eq_eq ▸ hall
    exact .inl ⟨x, hfield, heq ▸ hs⟩
  · next xs hs =>
    refine .inr ⟨x, xs, hfield, hs, List.forall₂_map_right_iff.mpr ?_⟩
    exact forall₂_of_mapM_zipIdx h fun y i k hk => isInt_of_ofCode (mapError_eq_ok.mp hk)
  · cases h

theorem length_spread {items : Nat} {column given : List (Option Text)}
    (h : spread items column xs = .ok given) : given.length = column.length := by
  induction xs generalizing column with
  | nil =>
    cases h
    rfl
  | cons x xs ih =>
    obtain ⟨⟨n, path⟩, -, h⟩ := bind_eq_ok.mp h
    simp only at h
    split at h
    · rw [ih h, List.length_set]
    · cases h

/-- However a column of paths is written, it has one entry for each item once it is read. -/
theorem length_pathColumn {items : Nat} {given : List (Option Text)}
    (h : pathColumn items xs = .ok given) : given.length = items := by
  unfold pathColumn at h
  split at h
  · obtain ⟨_, hlen, h⟩ := bind_eq_ok.mp h
    cases h
    rw [List.length_map]
    exact checkLength_eq_ok.mp hlen
  · rw [length_spread h, List.length_replicate]

theorem length_descriptionColumn {items : Nat} {column : Option α} {descs : List (Option Text)}
    (h : descriptionColumn items column = .ok descs) : descs.length = items := by
  unfold descriptionColumn at h
  split at h
  · cases h
    exact List.length_replicate
  · cases h
    exact List.length_replicate
  · split at h
    · obtain ⟨_, hlen, h⟩ := bind_eq_ok.mp h
      cases h
      exact checkLength_eq_ok.mp hlen
    · cases h
  · cases h

theorem isRawParent_of_parentColumn {items : Nat} {parents : List (Option Int)}
    (h : parentColumn items xs = .ok parents) :
    parents.length = items ∧ List.Forall₂ IsRawParent xs parents := by
  obtain ⟨found, hread, h⟩ := bind_eq_ok.mp h
  obtain ⟨_, hlen, h⟩ := bind_eq_ok.mp h
  cases h
  exact ⟨checkLength_eq_ok.mp hlen, forall₂_of_mapM_zipIdx hread
    fun x i p hp => isRawParent_of_parentEntry (mapError_eq_ok.mp hp)⟩

/-- Columns of one length lose nothing when they are zipped. -/
theorem map_zipColumns {kinds : List ItemKind} {names : List Text} {given descs : List (Option Text)}
    {parents : List (Option Int)} (hk : kinds.length = names.length)
    (hg : given.length = names.length) (hd : descs.length = names.length)
    (hp : parents.length = names.length) :
    (zipColumns kinds names given descs parents).map (·.kind) = kinds ∧
      (zipColumns kinds names given descs parents).map (·.name) = names ∧
      (zipColumns kinds names given descs parents).map (·.parent) = parents := by
  induction names generalizing kinds given descs parents with
  | nil =>
    cases List.eq_nil_of_length_eq_zero hk
    cases List.eq_nil_of_length_eq_zero hp
    exact ⟨rfl, rfl, rfl⟩
  | cons name names ih =>
    obtain ⟨kind, kinds, rfl⟩ := List.exists_cons_of_length_eq_add_one hk
    obtain ⟨path, given, rfl⟩ := List.exists_cons_of_length_eq_add_one hg
    obtain ⟨desc, descs, rfl⟩ := List.exists_cons_of_length_eq_add_one hd
    obtain ⟨parent, parents, rfl⟩ := List.exists_cons_of_length_eq_add_one hp
    simp only [List.length_cons, Nat.add_right_cancel_iff] at hk hg hd hp
    obtain ⟨hkinds, hnames, hparents⟩ := ih hk hg hd hp
    simp only [zipColumns, List.map_cons, hkinds, hnames, hparents, and_self]

/-- A draft of columns has what the data declares, since all columns have the length of the names.
-/
theorem declaresColumns_of_columnDraft (h : columnDraft name data = .ok d) :
    d.name = name ∧ DeclaresColumns data (d.rows.map Row.raw) d.paths := by
  obtain ⟨kinds, hkinds, h⟩ := bind_eq_ok.mp h
  obtain ⟨cells, hcells, h⟩ := bind_eq_ok.mp h
  obtain ⟨_, hk, h⟩ := bind_eq_ok.mp h
  obtain ⟨names, hnames, h⟩ := bind_eq_ok.mp h
  obtain ⟨qs, -, h⟩ := bind_eq_ok.mp h
  obtain ⟨given, hgiven, h⟩ := bind_eq_ok.mp h
  obtain ⟨descs, hdescs, h⟩ := bind_eq_ok.mp h
  obtain ⟨is, his, h⟩ := bind_eq_ok.mp h
  obtain ⟨parents, hparents, h⟩ := bind_eq_ok.mp h
  obtain ⟨table, htable, h⟩ := bind_eq_ok.mp h
  obtain ⟨paths, hpaths, h⟩ := bind_eq_ok.mp h
  obtain ⟨doc, -, h⟩ := bind_eq_ok.mp h
  obtain ⟨rows, hrows, h⟩ := bind_eq_ok.mp h
  cases h
  have hcount := nameColumn_length hnames
  obtain ⟨hp, hparents⟩ := isRawParent_of_parentColumn hparents
  obtain ⟨hkindMap, hnameMap, hparentMap⟩ := map_zipColumns
    ((checkLength_eq_ok.mp hk).trans hcount.symm) ((length_pathColumn hgiven).trans hcount.symm)
    ((length_descriptionColumn hdescs).trans hcount.symm) (hp.trans hcount.symm)
  have hmap {γ : Type} (f : RawItem → γ) : (rows.map Row.raw).map f =
      (zipColumns kinds names given descs parents).map (f ∘ Entry.raw) := by
    rw [raw_of_rowsOf hrows, List.map_map]
  have hkind : (rows.map Row.raw).map (·.kind) = kinds := (hmap (·.kind)).trans hkindMap
  have hname : (rows.map Row.raw).map (·.name) = names := (hmap (·.name)).trans hnameMap
  have hparent : (rows.map Row.raw).map (·.parent) = parents :=
    (hmap (·.parent)).trans hparentMap
  refine ⟨rfl, ?_, ?_, ?_, hasList_of_pathEntries htable hpaths⟩
  · have hletters : (rows.map Row.raw).map (fun r => letter r.kind) = kinds.map letter := by
      rw [← hkind]
      simp only [List.map_map]
      rfl
    have hcodes : (rows.map Row.raw).map (fun r => (r.kind.code : Int)) =
        kinds.map fun k => (k.code : Int) := by
      rw [← hkind]
      simp only [List.map_map]
      rfl
    simp only
    rw [hletters, hcodes]
    exact declared_of_kindColumn hkinds
  · simp only
    rw [hname]
    exact hasList_of_listField hcells (forall₂_of_mapM_zipIdx hnames
      fun x i t ht => isText_of_itemName (mapError_eq_ok.mp ht))
  · simp only
    rw [hparent]
    exact hasList_of_listField his hparents

end

/-- What becomes of an item that is declared. -/
structure DecodesItem (index : Index) (raw : RawItem) (item : Item) : Prop where
  kind : item.kind = raw.kind
  name : item.name = raw.name
  name_ne : item.name ≠ []
  modulePath_ne : item.modulePath ≠ []
  description_ne : item.description ≠ some []
  parent_none : item.parent = none ↔ raw.parent = none
  parent_some {k : Int} : raw.parent = some k → ∃ (n : Nat) (h : n < index.paths.length)
    (parent : ParentRef), k = n ∧ item.parent = some parent ∧
      index.RefersTo item.modulePath n h parent

/-- What becomes of a crate: one item for each one that its data declares, in their order. -/
structure DecodesCrate {α : Type} (declares : α → List RawItem → List PathEntry → Prop)
    (version : Option Text) (e : Text × α) (c : Crate) : Prop where
  name : c.name = e.1
  name_ne : c.name ≠ []
  crateName : c.index.crateName = c.name
  version : c.version = version
  items : ∃ declared, declares e.2 declared c.index.paths ∧
    List.Forall₂ (DecodesItem c.index) declared c.index.items

/-- What becomes of the text of a payload, in the layout of a generation. -/
def DecodesText (version : Option Text) (s : List Char) (found : List Crate) : Generation → Prop
  | .v1 => ∃ entries, programEntries s = .ok entries ∧
    List.Forall₂ (DecodesCrate DeclaresRows version) entries found
  | .v2 => ∃ x entries, document .v2 s = .ok x ∧ crateEntries .v2 x = .ok entries ∧
    List.Forall₂ (DecodesCrate DeclaresRows version) entries found
  | .v3 => ∃ x entries, document .v3 s = .ok x ∧ crateEntries .v3 x = .ok entries ∧
    List.Forall₂ (DecodesCrate DeclaresColumns version) entries found

section

variable {version : Option Text} {s : List Char} {found : List Crate} {c : Crate} {g : Generation}

theorem decodesItem_of_makesItem {rows : List Row} {paths : List PathEntry} {row : Row} {item : Item}
    {items : List Item} {name : Text} (h : List.Forall₂ (MakesItem rows paths) rows items)
    (hitem : MakesItem rows paths row item) : DecodesItem ⟨name, items, paths⟩ row.raw item where
  kind := hitem.kind
  name := hitem.name
  name_ne := hitem.name_ne
  modulePath_ne := hitem.modulePath_ne
  description_ne hd := by
    have hsome := hitem.description.symm.trans hd
    simp [descriptionOf, Option.filter_eq_some_iff] at hsome
  parent_none := hitem.parent_eq_none_iff
  parent_some {k} hk := by
    obtain ⟨n, hn, hkn, hparent⟩ := hitem.parent_some hk
    refine ⟨n, hn, _, hkn, hparent, ?_⟩
    rw [hitem.modulePath]
    exact refersTo_parentRef h row.modulePath hn

/-- A draft is built to its rows. -/
theorem decodesCrate_of_build {α : Type} {declares : α → List RawItem → List PathEntry → Prop}
    {name : Text} {data : α} {d : Draft} (hname : d.name = name)
    (hd : declares data (d.rows.map Row.raw) d.paths) (h : d.build g version = .ok c) :
    DecodesCrate declares version (name, data) c := by
  obtain ⟨items, hne, hall, -, rfl⟩ := build_eq_ok h
  refine ⟨hname, hne, rfl, rfl, _, hd, List.forall₂_map_left_iff.mpr ?_⟩
  exact hall.imp fun _ _ => decodesItem_of_makesItem hall

theorem decodes_of_buildAll {α : Type} {draft : Text → α → Except CrateError Draft}
    {declares : α → List RawItem → List PathEntry → Prop} {entries : List (Text × α)}
    (hdraft : ∀ name data d, draft name data = .ok d →
      d.name = name ∧ declares data (d.rows.map Row.raw) d.paths)
    (h : buildAll g draft version entries = .ok found) :
    List.Forall₂ (DecodesCrate declares version) entries found := by
  refine (mapM_eq_ok.mp h).imp ?_
  rintro ⟨name, data⟩ c hc
  obtain ⟨d, hd, hb⟩ := bind_eq_ok.mp (mapError_eq_ok.mp hc)
  obtain ⟨hname, hdeclared⟩ := hdraft name data d hd
  exact decodesCrate_of_build hname hdeclared hb

/-- Each generation decodes what it declares, in rows or in columns. -/
theorem decodesText_of_crates (h : crates g version s = .ok found) :
    DecodesText version s found g := by
  cases g with
  | v1 =>
    obtain ⟨entries, he, h⟩ := bind_eq_ok.mp h
    exact ⟨entries, he, decodes_of_buildAll (fun _ _ _ => declaresRows_of_rowDraft) h⟩
  | v2 =>
    obtain ⟨x, hx, h⟩ := bind_eq_ok.mp h
    obtain ⟨entries, he, h⟩ := bind_eq_ok.mp h
    refine ⟨x, entries, hx, he, decodes_of_buildAll (fun name data d hd => ?_) h⟩
    unfold jsonRowDraft at hd
    split at hd
    · exact declaresRows_of_rowDraft hd
    · cases hd
  | v3 =>
    obtain ⟨x, hx, h⟩ := bind_eq_ok.mp h
    obtain ⟨entries, he, h⟩ := bind_eq_ok.mp h
    exact ⟨x, entries, hx, he,
      decodes_of_buildAll (fun _ _ _ => declaresColumns_of_columnDraft) h⟩

/-- Every crate of a payload that is decoded has the items that the payload declares. Their parents
are the first owners documented in the same module, or entries of the paths table. -/
theorem decode_declared {hint : Option String} {p : Payload}
    (h : decode hint version p = .ok found) : ∃ s g, p.chars = .ok s ∧
      (∀ name, hint = some name → Generation.ofName? name = some g) ∧
      DecodesText version s found g := by
  obtain ⟨s, hs, h⟩ := bind_eq_ok.mp h
  cases hint with
  | none =>
    obtain ⟨before, g, after, -, -, hg⟩ := firstOf_eq_ok.mp h
    exact ⟨s, g, hs, nofun, decodesText_of_crates hg⟩
  | some name =>
    rw [decodeText_hint] at h
    split at h
    · cases h
    · next g hg =>
      refine ⟨s, g, hs, fun other hother => ?_, decodesText_of_crates (mapError_eq_ok.mp h)⟩
      cases hother
      exact hg

/-- A method in front of its struct, and one of a trait that is documented elsewhere. -/
def ownedPayload : List Char :=
  ("JSON.parse('[[\"a\",\x7b\"t\":\"LDL\",\"n\":[\"f\",\"S\",\"g\"],\"q\":[\"m\",\"\",\"\"]," ++
    "\"i\":[1,0,2],\"p\":[[3,\"S\"],[8,\"T\"]]\x7d]]')").toList

def ownedCrate : Crate where
  name := "a"
  version := none
  doc := []
  index := {
    crateName := "a"
    items := [⟨.method, "f", "m", none, some (.own 1)⟩, ⟨.struct, "S", "m", none, none⟩,
      ⟨.method, "g", "m", none, some (.foreign 1)⟩]
    paths := [⟨.struct, "S"⟩, ⟨.trait, "T"⟩] }

theorem decode_declared_owned :
    decode (some "v3") none (.text ownedPayload) = .ok [ownedCrate] ∧
      DecodesText none ownedPayload [ownedCrate] .v3 := by
  have hdecode : decode (some "v3") none (.text ownedPayload) = .ok [ownedCrate] :=
    toOption_eq_some.mp (by decide +kernel)
  obtain ⟨s, g, hs, hg, h⟩ := decode_declared hdecode
  cases hs
  cases hg "v3" rfl
  exact ⟨hdecode, h⟩

end

end RustdocIndex.Payload
