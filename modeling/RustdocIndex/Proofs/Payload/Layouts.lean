import RustdocIndex.Proofs.Json.Bare
import RustdocIndex.Proofs.Payload.Containment
import RustdocIndex.Proofs.Payload.Printed
import RustdocIndex.Proofs.Payload.TableColumns

/-! Payloads of all generations for the same tables. -/
namespace RustdocIndex.Payload

variable {g : Generation} {version : Option Text} {tables : List Table} {s : List Char}

/-- What a generation makes of tables: all their crates, or a refusal for the first that makes none. -/
def Makes (g : Generation) (version : Option Text) (tables : List Table)
    (r : Except Stop (List Crate)) : Prop :=
  match tables.find? fun t => (t.crate? version).isNone with
  | none => r = .ok (tables.filterMap (·.crate? version))
  | some t => ∃ p, r = .error (.refused ⟨some g, none, .crate t.name p⟩)

/-- The first table that makes no crate decides, whatever comes behind it. -/
theorem makes_cons_none {t : Table} (ht : t.crate? version = none) {p : CrateProblem}
    (tables : List Table) :
    Makes g version (t :: tables) (.error (.refused ⟨some g, none, .crate t.name p⟩)) := by
  rw [Makes, List.find?_cons_of_pos (by simp [ht])]
  exact ⟨p, rfl⟩

theorem makes_cons_some {t : Table} {c : Crate} (ht : t.crate? version = some c)
    {r : Except Stop (List Crate)} (h : Makes g version tables r) :
    Makes g version (t :: tables) (r >>= fun found => .ok (c :: found)) := by
  rw [Makes] at h ⊢
  rw [List.find?_cons_of_neg (by simp [ht])]
  split at h
  · next hnone =>
    rw [h, List.filterMap_cons_some ht]
    rfl
  · obtain ⟨p, hp⟩ := h
    exact ⟨p, by rw [hp]; rfl⟩

theorem crateStop_of_isRefusal {name : Text} {e : CrateError} (h : (crateStop name e).IsRefusal) :
    crateStop name e = .refused ⟨some e.generation, none, .crate name e.problem⟩ := by
  rw [crateStop_isRefusal] at h
  simp [crateStop, h]

/-- By induction on the tables. That every stop is a refusal is known beforehand, for all of them at
once. -/
theorem makes_buildAll {α : Type} [Document α] {draft : Text → α → Except CrateError Draft}
    (hdraft : ∀ name data, FailsShowing g data (draft name data)) {entries : List (Text × α)}
    (h : AreLaidOut (fun t data =>
      ((draft t.name data).bind (·.build g version)).toOption = t.crate? version) entries tables)
    (hfails : FailsOnly Stop.IsRefusal (buildAll g draft version entries)) :
    Makes g version tables (buildAll g draft version entries) := by
  induction h with
  | nil => rfl
  | @cons e t entries tables he _ ih =>
    obtain ⟨name, data⟩ := e
    obtain ⟨rfl, hcrate⟩ := he
    have hcons : buildAll g draft version ((t.name, data) :: entries) =
        ((draft t.name data).bind (·.build g version)).mapError (crateStop t.name) >>= fun c =>
          buildAll g draft version entries >>= fun found => .ok (c :: found) := List.mapM_cons
    rw [hcons] at hfails ⊢
    cases hr : (draft t.name data).bind (·.build g version) with
    | error e =>
      have hg : e.generation = g := ((hdraft t.name data).build version e hr).generation
      rw [hr] at hcrate hfails
      have hstop := hfails (crateStop t.name e) rfl
      rw [show (Except.error e : Except CrateError Crate).mapError (crateStop t.name) =
        .error (crateStop t.name e) from rfl, crateStop_of_isRefusal hstop, hg]
      exact makes_cons_none hcrate.symm tables
    | ok c =>
      rw [hr] at hcrate hfails
      refine makes_cons_some hcrate.symm (ih fun stop hstop => hfails stop ?_)
      exact bind_eq_error.mpr (.inr ⟨c, rfl, bind_eq_error.mpr (.inl hstop)⟩)

/-- The two forms of a document give the same crates. -/
theorem crateEntries_of_isDocument {x : Json} {entries : List (Text × Json)} (hne : entries ≠ [])
    (h : IsDocument x entries) : crateEntries g x = .ok entries := by
  rcases h with rfl | rfl
  · simp only [crateEntries, Document.shape, Json.shape]
  · have hread : (entries.map fun e => Json.array [.text e.1, e.2]).mapM crateEntry? =
        some entries := by
      rw [mapM_eq_some, List.forall₂_map_left_iff, List.forall₂_same]
      exact fun e _ => rfl
    simp only [crateEntries, Document.shape, Json.shape, hread]

theorem AreLaidOut.ne_nil {α : Type} {layout : Table → α → Prop} {entries : List (Text × α)}
    (hne : tables ≠ []) (h : AreLaidOut layout entries tables) : entries ≠ [] := by
  rintro rfl
  cases h
  exact hne rfl

/-- A layout goes over from one notation to another that looks the same. -/
theorem AreLaidOut.of_forall₂ {α β : Type} {layout : Table → α → Prop} {layout' : Table → β → Prop}
    {R : α → β → Prop} (hR : ∀ t a b, R a b → layout' t b → layout t a)
    {fs : List (Text × α)} {gs : List (Text × β)}
    (h : List.Forall₂ (fun f g => f.1 = g.1 ∧ R f.2 g.2) fs gs)
    (hg : AreLaidOut layout' gs tables) : AreLaidOut layout fs tables := by
  induction h generalizing tables with
  | nil =>
    cases hg
    exact .nil
  | cons hf _ ih =>
    cases hg with
    | cons hg hgs => exact .cons ⟨hf.1.trans hg.1, hR _ _ _ hf.2 hg.2⟩ (ih hgs)

/-- A layout of a generation with JSON documents makes the tables. -/
theorem makes_crates (hg : g ≠ .v1) {layout : Table → Json → Prop}
    (hlayout : ∀ t data, layout t data →
      ((jsonDraft g t.name data).bind (·.build g version)).toOption = t.crate? version)
    (hne : tables ≠ []) (h : IsPayload layout tables s) :
    Makes g version tables (crates g version s) := by
  obtain ⟨text, x, entries, tail, rfl, hparse, hx, hall⟩ := h
  have hdocument : document g (embed (escapeQuotes text) tail) = .ok x :=
    document_eq_ok.mpr ⟨_, text, findOpening?_embed _ _,
      unquote?_of_renders (renders_escapeQuotes text) [] _, hparse⟩
  have hentries : crateEntries g x = .ok entries :=
    crateEntries_of_isDocument (hall.ne_nil hne) hx
  have hcrates : crates g version (embed (escapeQuotes text) tail) =
      buildAll g (jsonDraft g) version entries := by
    rw [crates_eq hg, hdocument]
    exact congrArg (· >>= _) hentries
  have hfails : FailsOnly Stop.IsRefusal (crates g version (embed (escapeQuotes text) tail)) :=
    crates_fails hg hdocument
  rw [hcrates] at hfails ⊢
  refine makes_buildAll (fun _ _ => jsonDraft_failsShowing hg _ _) ?_ hfails
  exact hall.imp fun e t h => ⟨h.1, hlayout t e.2 h.2⟩

/-- Rows make their tables, since they are told from columns by their lists. -/
theorem makes_rows (hne : tables ≠ []) (h : IsPayload Table.InRows tables s) :
    Makes .v2 version tables (crates .v2 version s) := by
  refine makes_crates (by simp) (fun t data hdata => ?_) hne h
  rw [jsonDraft, jsonRowDraft, if_pos (inRows_of_table hdata)]
  · exact crate?_of_inRows hdata .v2 version
  · simp

theorem makes_columns (hne : tables ≠ []) (h : IsPayload Table.InColumns tables s) :
    Makes .v3 version tables (crates .v3 version s) :=
  makes_crates (by simp) (fun _ _ hdata => crate?_of_inColumns hdata version) hne h

/-- A literal program makes its tables. -/
theorem makes_program (hne : tables ≠ []) (hnames : (tables.map (·.name)).Nodup)
    (h : IsProgram tables s) : Makes .v1 version tables (crates .v1 version s) := by
  obtain ⟨texts, entries, rfl, htexts, hall⟩ := h
  have hkeys : entries.map (·.1) = tables.map (·.name) := by
    clear htexts hnames hne
    induction hall with
    | nil => rfl
    | cons he _ ih => rw [List.map_cons, List.map_cons, he.1, ih]
  have hn : Literal.IsName "searchIndex" := ⟨'s', "earchIndex".toList, rfl, rfl, rfl⟩
  obtain ⟨st, hrun, hfilled⟩ :=
    Literal.evaluate_objectProgram hn (by decide) (hkeys ▸ hnames) htexts
  obtain ⟨nodes, hshape, hnodes⟩ := hfilled.shape
  have hlaid : AreLaidOut Table.InRows nodes tables := by
    refine AreLaidOut.of_forall₂
      (R := fun (n : Literal.Node) (x : Json) => Literal.Holds 1 n.store n.value x)
      (fun t n x hx hdata => ?_) hnodes hall
    exact Table.InRows.of_similar (Literal.similar_holds 1) hx hdata
  have hprogram : programEntries (Literal.objectProgram "searchIndex" texts) = .ok nodes := by
    obtain ⟨node, more, rfl⟩ := List.exists_cons_of_ne_nil (hlaid.ne_nil hne)
    simp only [programEntries, hrun, hshape]
  have hcrates : crates .v1 version (Literal.objectProgram "searchIndex" texts) =
      buildAll .v1 (rowDraft .v1) version nodes := by
    rw [crates_v1, hprogram]
    rfl
  rw [hcrates]
  refine makes_buildAll (rowDraft_failsShowing .v1)
    (hlaid.imp fun e t h => ⟨h.1, crate?_of_inRows h.2 .v1 version⟩) ?_
  apply FailsOnly.mapM
  rintro ⟨name, node⟩ hm
  obtain ⟨t, -, hname, ht⟩ := exists_of_forall₂ hlaid.flip hm
  apply FailsOnly.mapError
  intro p hp
  rw [crateStop_isRefusal, CrateProblem.isTooDeepToShow]
  simp only at hname
  rw [hname] at hp
  rw [shown?_of_inRows ht .v1 version p hp]
  rfl

/-- However tables are laid out, all three generations decode them to the same crates, or refuse
them for the same crate. -/
theorem decode_layouts {program rows columns : List Char} (hne : tables ≠ [])
    (hnames : (tables.map (·.name)).Nodup) (h1 : IsProgram tables program)
    (h2 : IsPayload Table.InRows tables rows) (h3 : IsPayload Table.InColumns tables columns)
    (version : Option Text) :
    (∃ found, decode (some "v1") version (.text program) = .ok found ∧
      decode (some "v2") version (.text rows) = .ok found ∧
      decode (some "v3") version (.text columns) = .ok found) ∨
    ∃ name p₁ p₂ p₃,
      decode (some "v1") version (.text program) =
        .error (.refused ⟨some .v1, none, .crate name p₁⟩) ∧
      decode (some "v2") version (.text rows) =
        .error (.refused ⟨some .v2, none, .crate name p₂⟩) ∧
      decode (some "v3") version (.text columns) =
        .error (.refused ⟨some .v3, none, .crate name p₃⟩) := by
  have hmade1 : Makes .v1 version tables (crates .v1 version program) := makes_program hne hnames h1
  have hmade2 : Makes .v2 version tables (crates .v2 version rows) := makes_rows hne h2
  have hmade3 : Makes .v3 version tables (crates .v3 version columns) := makes_columns hne h3
  have hd1 : decode (some "v1") version (.text program) =
      (crates .v1 version program).mapError Stop.failure := decode_name .v1 version program
  have hd2 : decode (some "v2") version (.text rows) =
      (crates .v2 version rows).mapError Stop.failure := decode_name .v2 version rows
  have hd3 : decode (some "v3") version (.text columns) =
      (crates .v3 version columns).mapError Stop.failure := decode_name .v3 version columns
  rw [hd1, hd2, hd3]
  unfold Makes at hmade1 hmade2 hmade3
  cases hfind : tables.find? fun t => (t.crate? version).isNone with
  | none =>
    simp only [hfind] at hmade1 hmade2 hmade3
    rw [hmade1, hmade2, hmade3]
    exact .inl ⟨_, rfl, rfl, rfl⟩
  | some t =>
    simp only [hfind] at hmade1 hmade2 hmade3
    obtain ⟨p₁, hp₁⟩ := hmade1
    obtain ⟨p₂, hp₂⟩ := hmade2
    obtain ⟨p₃, hp₃⟩ := hmade3
    rw [hp₁, hp₂, hp₃]
    exact .inr ⟨t.name, p₁, p₂, p₃, rfl, rfl, rfl⟩

theorem makes_singleton {t : Table} {c : Crate} (ht : t.crate? version = some c)
    {r : Except Stop (List Crate)} (h : Makes g version [t] r) : r = .ok [c] := by
  rw [Makes, List.find?_cons_of_neg (by simp [ht]), List.find?_nil] at h
  rw [h, List.filterMap_cons_some ht, List.filterMap_nil]

/-- A struct, and a method of it in the same module. -/
def methodTable : Table where
  name := "a"
  doc := "it's"
  rows := [⟨.struct, "S", by decide, "m", none, none⟩, ⟨.method, "f", by decide, "", none, some 0⟩]
  paths := [(3, "S")]

def methodCrate : Crate where
  name := "a"
  version := none
  doc := "it's"
  index := {
    crateName := "a"
    items := [⟨.struct, "S", "m", none, none⟩, ⟨.method, "f", "m", none, some (.own 0)⟩]
    paths := [⟨.struct, "S"⟩] }

theorem isWhole_methodTable : methodTable.IsWhole := by
  constructor <;> simp [methodTable, Text.isWellFormed_ofString]

theorem isPrintable_methodTable :
    Json.IsPrintable 3 methodTable.jsonRows ∧ Json.IsPrintable 3 methodTable.jsonColumns := by
  have hcodes : ∀ p ∈ methodTable.paths, Json.IsShort p.1 :=
    List.forall_mem_singleton.mpr (Json.isShort_of_lt_hundred (by decide))
  have hshort (k : Int) (hk : k.natAbs < 100) : Json.IsShort k := Json.isShort_of_lt_hundred hk
  constructor
  · refine isPrintable_jsonRows isWhole_methodTable hcodes ?_
    simp [methodTable, hshort 0]
  · refine isPrintable_jsonColumns isWhole_methodTable hcodes ?_
    simp [methodTable, parentCode, hshort 0, hshort 1]

theorem decode_layouts_method :
    IsProgram [methodTable] (printedProgram [methodTable]) ∧
      IsPayload Table.InRows [methodTable] (printedPayload Table.jsonRows [methodTable] []) ∧
      IsPayload Table.InColumns [methodTable] (printedPayload Table.jsonColumns [methodTable] []) ∧
      decode (some "v1") none (.text (printedProgram [methodTable])) = .ok [methodCrate] ∧
      decode (some "v2") none (.text (printedPayload Table.jsonRows [methodTable] [])) =
        .ok [methodCrate] ∧
      decode (some "v3") none (.text (printedPayload Table.jsonColumns [methodTable] [])) =
        .ok [methodCrate] := by
  obtain ⟨hrows, hcolumns⟩ := isPrintable_methodTable
  have hwhole := List.forall_mem_singleton.mpr isWhole_methodTable
  have h1 := isProgram_printed hwhole (List.forall_mem_singleton.mpr hrows)
  have h2 := isPayload_printed inRows_jsonRows (by simp) hwhole
    (List.forall_mem_singleton.mpr hrows) []
  have h3 := isPayload_printed inColumns_jsonColumns (by simp) hwhole
    (List.forall_mem_singleton.mpr hcolumns) []
  refine ⟨h1, h2, h3, ?_⟩
  have hcrate : methodTable.crate? none = some methodCrate := by decide +kernel
  have hmade : crates .v3 none (printedPayload Table.jsonColumns [methodTable] []) =
      .ok [methodCrate] := makes_singleton hcrate (makes_columns (by simp) h3)
  have hdecode : decode (some "v3") none
      (.text (printedPayload Table.jsonColumns [methodTable] [])) = .ok [methodCrate] :=
    (decode_name .v3 none _).trans (congrArg (Except.mapError Stop.failure) hmade)
  rcases decode_layouts (by simp) (by simp) h1 h2 h3 none with
    ⟨found, h1, h2, h3⟩ | ⟨name, p₁, p₂, p₃, h1, h2, h3⟩
  · cases h3.symm.trans hdecode
    exact ⟨h1, h2, h3⟩
  · cases h3.symm.trans hdecode

/-- A function whose parent is the given position in an empty table. -/
def strayTable (parent : Nat) : Table where
  name := "a"
  doc := ""
  rows := [⟨.function, "f", by decide, "m", none, some parent⟩]
  paths := []

theorem isWhole_strayTable (parent : Nat) : (strayTable parent).IsWhole := by
  constructor <;> simp [strayTable, Text.isWellFormed_ofString]

theorem crate?_strayTable (parent : Nat) : (strayTable parent).crate? version = none := rfl

theorem isPrintable_strayTable {parent : Nat} (h : Json.IsShort parent) :
    Json.IsPrintable 3 (strayTable parent).jsonRows := by
  refine isPrintable_jsonRows (isWhole_strayTable parent) (List.forall_mem_nil _) ?_
  refine List.forall_mem_singleton.mpr fun k hk => ?_
  cases hk
  exact h

/-- What is printed before and behind the number of the parent, in the columns of a stray table. -/
def strayFront : List Char :=
  ("\x7b\"a\":\x7b\"doc\":\"\",\"t\":\"F\",\"n\":[\"f\"],\"q\":[\"m\"],\"d\":[null]," ++
    "\"i\":[").toList

def strayBack : List Char := "],\"p\":[]\x7d\x7d".toList

theorem print_strayTable (parent : Nat) :
    (Json.print (.object (named Table.jsonColumns [strayTable parent]))).toList =
      strayFront ++ ((Json.print (.int (parent + 1))).toList ++ strayBack) := by
  simp only [named, strayTable, Table.jsonColumns, Table.jsonPaths, List.map_cons, List.map_nil,
    parentCode, Option.elim, jsonText?, Json.print, Json.printFields, Json.printAll,
    String.intercalate_cons_cons, String.intercalate_singleton, String.intercalate_nil,
    String.toList_append, List.append_assoc]
  rfl

/-- In columns the parser meets the number behind all that is printed before it. -/
theorem meetsLong_strayTable {parent : Nat} (h : ¬ Json.IsShort (parent + 1)) (tail : List Char) :
    DocumentMeetsLongInteger (printedPayload Table.jsonColumns [strayTable parent] tail) := by
  have hends : Json.EndsNumber strayBack := Json.endsNumber_cons (by decide) _
  have hfront : Json.parse strayFront = .error (.problem .expectedValue []) := by decide +kernel
  have hlong := Json.beginsLong_print h hends
  have hprint := print_strayTable parent
  rw [printedPayload]
  generalize (Json.print (.object (named Table.jsonColumns [strayTable parent]))).toList = text
    at hprint ⊢
  exact ⟨_, text, strayFront, _, _, findOpening?_embed _ tail,
    unquote?_of_renders (renders_escapeQuotes text) [] _, hprint, hlong, hfront⟩

theorem refused_of_makes {t : Table} (g : Generation) (ht : t.crate? version = none)
    (h : Makes g version [t] (crates g version s)) :
    ∃ p, decode (some g.name) version (.text s) =
      .error (.refused ⟨some g, none, .crate t.name p⟩) := by
  rw [Makes, List.find?_cons_of_pos (by simp [ht])] at h
  obtain ⟨p, hp⟩ := h
  refine ⟨p, ?_⟩
  rw [decode_name, hp]
  rfl

/-- Where a parent is short and its number in columns is not, the rows of a stray table are refused,
and its columns stop decoding. -/
theorem decode_strayTable {parent : Nat} (hshort : Json.IsShort parent)
    (hlong : ¬ Json.IsShort (parent + 1)) :
    (∃ p, decode (some "v1") none (.text (printedProgram [strayTable parent])) =
        .error (.refused ⟨some .v1, none, .crate "a" p⟩)) ∧
      (∃ p, decode (some "v2") none
        (.text (printedPayload Table.jsonRows [strayTable parent] [])) =
          .error (.refused ⟨some .v2, none, .crate "a" p⟩)) ∧
      ∃ digits, decode (some "v3") none
        (.text (printedPayload Table.jsonColumns [strayTable parent] [])) =
          .error (.integerTooLong digits) := by
  have hwhole := List.forall_mem_singleton.mpr (isWhole_strayTable parent)
  have hprintable : ∀ t ∈ [strayTable parent], Json.IsPrintable 3 t.jsonRows :=
    List.forall_mem_singleton.mpr (isPrintable_strayTable hshort)
  have hprogram := isProgram_printed hwhole hprintable
  have hrows := isPayload_printed inRows_jsonRows (by simp) hwhole hprintable []
  obtain ⟨n, hcolumns⟩ := document_integerTooLong.mpr (meetsLong_strayTable hlong [])
  have hcrates : crates .v3 none (printedPayload Table.jsonColumns [strayTable parent] []) =
      .error (.integerTooLong n) := bind_eq_error.mpr (.inl hcolumns)
  refine ⟨?_, ?_, n, ?_⟩
  · exact refused_of_makes .v1 (crate?_strayTable _) (makes_program (by simp) (by simp) hprogram)
  · exact refused_of_makes .v2 (crate?_strayTable _) (makes_rows (by simp) hrows)
  · exact (decode_name .v3 none _).trans (congrArg (Except.mapError Stop.failure) hcrates)

/-- The last position whose number can be read. -/
@[irreducible] def lastParent : Nat := Nat.pow 10 maxIntegerDigits - 1

theorem isShort_natCast {n : Nat} : Json.IsShort n ↔ n ≤ lastParent := by
  have hpos (digits : Nat) : 0 < Nat.pow 10 digits := Nat.pow_pos (by decide)
  unfold Json.IsShort lastParent
  generalize hbound : Nat.pow 10 maxIntegerDigits = bound
  have := hbound ▸ hpos maxIntegerDigits
  omega

/-- The number of a parent may be one digit longer in columns than in rows. A table that is refused
in rows, since its parent is out of range, stops decoding in columns. -/
theorem decode_layouts_lastParent :
    (∃ p, decode (some "v1") none (.text (printedProgram [strayTable lastParent])) =
        .error (.refused ⟨some .v1, none, .crate "a" p⟩)) ∧
      (∃ p, decode (some "v2") none
        (.text (printedPayload Table.jsonRows [strayTable lastParent] [])) =
          .error (.refused ⟨some .v2, none, .crate "a" p⟩)) ∧
      ∃ digits, decode (some "v3") none
        (.text (printedPayload Table.jsonColumns [strayTable lastParent] [])) =
          .error (.integerTooLong digits) := by
  refine decode_strayTable (isShort_natCast.mpr (Nat.le_refl _)) fun h => ?_
  exact Nat.not_succ_le_self _ (isShort_natCast.mp h)

end RustdocIndex.Payload
