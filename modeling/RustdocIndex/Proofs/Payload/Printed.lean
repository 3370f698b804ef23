import RustdocIndex.Proofs.Json.Printing
import RustdocIndex.Proofs.Literal.Assignment
import RustdocIndex.Proofs.Payload.Quoting
import RustdocIndex.Proofs.Payload.TableColumns

/-! Payloads that have some tables, and how they come about by printing. What is printed can be
read as long as no integer has too many digits. -/
namespace RustdocIndex

namespace Json

variable {n : Nat} {x : Json} {xs : List Json} {fields : List (Text × Json)}

/-- A value that can be printed and read again. -/
def IsPrintable (n : Nat) (x : Json) : Prop := IsPlain n x ∧ x.isWellFormed = true

theorem isPrintable_null : IsPrintable n null := ⟨.null, rfl⟩

theorem isPrintable_int {i : Int} (h : IsShort i) : IsPrintable n (int i) := ⟨.int h, rfl⟩

theorem isPrintable_text {t : Text} (h : t.IsWellFormed) : IsPrintable n (text t) :=
  ⟨.text t, isWellFormed_text.mpr h⟩

theorem isPrintable_array (h : ∀ x ∈ xs, IsPrintable n x) : IsPrintable (n + 1) (array xs) :=
  ⟨.array fun x hx => (h x hx).1, isWellFormed_array.mpr fun x hx => (h x hx).2⟩

theorem isPrintable_object (hkeys : (fields.map (·.1)).Nodup)
    (h : ∀ f ∈ fields, f.1.IsWellFormed ∧ IsPrintable n f.2) :
    IsPrintable (n + 1) (object fields) :=
  ⟨.object hkeys fun f hf => (h f hf).2.1,
    isWellFormed_object.mpr fun f hf => ⟨(h f hf).1, (h f hf).2.2⟩⟩

/-- What is printed is read back, and by programs as well as in documents. -/
theorem IsPrintable.plainText (h : IsPrintable n x) : PlainText n (print x).toList x :=
  h.1.plainText_print h.2

end Json

namespace Payload

open Json (IsShort IsPrintable isPrintable_null isPrintable_int isPrintable_text isPrintable_array
  isPrintable_object)
open Text (isWellFormed_ofString)

variable {tables : List Table} {t : Table}

/-- A text as it stands in a single-quoted string. -/
def escapeQuotes (text : List Char) : List Char :=
  text.flatMap fun c => if c = '\\' ∨ c = '\'' then ['\\', c] else [c]

/-- Escaping backslashes and single quotes is enough to put a text between single quotes. -/
theorem renders_escapeQuotes (text : List Char) : Renders text (escapeQuotes text) := by
  induction text with
  | nil => exact .nil
  | cons c text ih =>
    rw [escapeQuotes, List.flatMap_cons, ← escapeQuotes]
    by_cases hc : c = '\\' ∨ c = '\''
    · rw [if_pos hc]
      refine .escaped ?_ ih
      rcases hc with rfl | rfl <;> decide
    · rw [if_neg hc]
      exact .plain (by tauto) ih

/-- A document has some crates, by name in an object or in a list of pairs. -/
def IsDocument (x : Json) (entries : List (Text × Json)) : Prop :=
  x = .object entries ∨ x = .array (entries.map fun e => .array [.text e.1, e.2])

/-- The data of each table, with its name. -/
def AreLaidOut {α : Type} (layout : Table → α → Prop) (entries : List (Text × α))
    (tables : List Table) : Prop :=
  List.Forall₂ (fun e t => e.1 = t.name ∧ layout t e.2) entries tables

/-- A payload with a JSON document that has the tables in a layout. -/
def IsPayload (layout : Table → Json → Prop) (tables : List Table) (s : List Char) : Prop :=
  ∃ text x entries tail, s = embed (escapeQuotes text) tail ∧ Json.parse text = .ok x ∧
    IsDocument x entries ∧ AreLaidOut layout entries tables

/-- A literal program that declares `searchIndex` and puts the tables into it, in rows. Names and
data are any JSON texts that literal programs can read. -/
def IsProgram (tables : List Table) (s : List Char) : Prop :=
  ∃ texts entries, s = Literal.objectProgram "searchIndex" texts ∧
    List.Forall₂ (fun t e => Json.PlainText Literal.maxDepth t.1 (.text e.1) ∧
      Json.PlainText Literal.maxDepth t.2 e.2) texts entries ∧
    AreLaidOut Table.InRows entries tables

/-! ### Printing -/

def jsonText? (t : Option Text) : Json := t.elim .null .text

def jsonInt? (n : Option Int) : Json := n.elim .null .int

/-- The entries of the paths table. -/
def Table.jsonPaths (t : Table) : Json := .array (t.paths.map fun p => .array [.int p.1, .text p.2])

def TableRow.json (r : TableRow) : Json := .array [.int r.kind.code, .text r.name, .text r.path,
  jsonText? r.description, jsonInt? (r.parent.map (Int.ofNat ·))]

/-- A table in rows. -/
def Table.jsonRows (t : Table) : Json := .object
  [("doc", .text t.doc), ("i", .array (t.rows.map TableRow.json)), ("p", t.jsonPaths)]

/-- A table in columns, with letters for the kinds and a path and a description for each item. -/
def Table.jsonColumns (t : Table) : Json := .object
  [("doc", .text t.doc), ("t", .text (t.rows.map fun r => letter r.kind)),
    ("n", .array (t.rows.map fun r => .text r.name)),
    ("q", .array (t.rows.map fun r => .text r.path)),
    ("d", .array (t.rows.map fun r => jsonText? r.description)),
    ("i", .array (t.rows.map fun r => .int (parentCode r))), ("p", t.jsonPaths)]

/-- No text of the table holds half of a surrogate pair. -/
structure Table.IsWhole (t : Table) : Prop where
  name : t.name.IsWellFormed
  doc : t.doc.IsWellFormed
  rowName : ∀ r ∈ t.rows, r.name.IsWellFormed
  path : ∀ r ∈ t.rows, r.path.IsWellFormed
  description : ∀ r ∈ t.rows, ∀ d ∈ r.description, d.IsWellFormed
  pathName : ∀ p ∈ t.paths, p.2.IsWellFormed

theorem isOptional_jsonText? (d : Option Text) : IsOptional IsText (jsonText? d) d := by
  cases d <;> rfl

theorem isOptional_jsonInt? (n : Option Int) : IsOptional IsInt (jsonInt? n) n := by
  cases n <;> rfl

/-- A column that is made entry by entry shows what each entry is made from. -/
theorem hasList_map {α β γ : Type} [Document α] {data : α} {key : String} {shows : α → γ → Prop}
    {as : List β} {f : β → α} {g : β → γ} {x : α} (hx : HasField data key x)
    (hs : Document.shape x = .array (as.map f)) (h : ∀ a ∈ as, shows (f a) (g a)) :
    HasList data key shows (as.map g) := by
  refine ⟨x, as.map f, hx, hs, ?_⟩
  rw [List.forall₂_map_left_iff, List.forall₂_map_right_iff, List.forall₂_same]
  exact h

theorem isRow_json (r : TableRow) : IsRow r.json r :=
  ⟨_, _, _, _, _, rfl, rfl, rfl, rfl, isOptional_jsonText? _, isOptional_jsonInt? _⟩

theorem isDescription_jsonText? (d : Option Text) : IsDescription (jsonText? d) d := by
  cases d with
  | none => exact .inl ⟨rfl, rfl⟩
  | some d => exact .inr ⟨d, rfl, rfl⟩

theorem hasList_jsonPaths {data : Json} (h : HasField data "p" t.jsonPaths) :
    HasList data "p" IsPair t.paths := by
  rw [← List.map_id t.paths]
  exact hasList_map h rfl fun p _ => ⟨_, _, rfl, rfl, rfl⟩

/-- The data that is made in rows has the table in rows. -/
theorem inRows_jsonRows (t : Table) : t.InRows t.jsonRows where
  doc := ⟨_, ⟨_, rfl, rfl⟩, rfl⟩
  rows := by
    rw [← List.map_id t.rows]
    exact hasList_map ⟨_, rfl, rfl⟩ rfl fun r _ => isRow_json r
  paths := hasList_jsonPaths ⟨_, rfl, rfl⟩

/-- The data that is made in columns has the table in columns, with one letter for each kind and one
path for each row. -/
theorem inColumns_jsonColumns (t : Table) : t.InColumns t.jsonColumns where
  doc := ⟨_, ⟨_, rfl, rfl⟩, rfl⟩
  kinds := .inl ⟨_, ⟨_, rfl, rfl⟩, rfl⟩
  names := hasList_map ⟨_, rfl, rfl⟩ rfl fun _ _ => rfl
  modulePaths := .inl (hasList_map ⟨_, rfl, rfl⟩ rfl fun _ _ => rfl)
  descriptions := .inl (hasList_map ⟨_, rfl, rfl⟩ rfl fun r _ => isDescription_jsonText? r.description)
  parents := hasList_map ⟨_, rfl, rfl⟩ rfl fun _ _ => rfl
  paths := hasList_jsonPaths ⟨_, rfl, rfl⟩

/-! ### What is printed is read -/

theorem isPrintable_jsonText? {n : Nat} {d : Option Text} (h : ∀ t ∈ d, t.IsWellFormed) :
    IsPrintable n (jsonText? d) := by
  cases d with
  | none => exact isPrintable_null
  | some d => exact isPrintable_text (h d rfl)

theorem isPrintable_column {n : Nat} {β : Type} {as : List β} {f : β → Json}
    (h : ∀ a ∈ as, IsPrintable n (f a)) : IsPrintable (n + 1) (.array (as.map f)) :=
  isPrintable_array (List.forall_mem_map.mpr h)

theorem isPrintable_jsonPaths (ht : t.IsWhole) (h : ∀ p ∈ t.paths, IsShort p.1) :
    IsPrintable 2 t.jsonPaths := by
  refine isPrintable_column fun p hp => isPrintable_array ?_
  simp only [List.forall_mem_cons]
  exact ⟨isPrintable_int (h p hp), isPrintable_text (ht.pathName p hp), List.forall_mem_nil _⟩

/-- The codes of kinds are small, so they can always be written. -/
theorem isShort_code (kind : ItemKind) : IsShort kind.code :=
  Json.isShort_of_lt_hundred (Nat.lt_of_lt_of_le (code_lt kind) (by decide))

theorem isSurrogate_letter (kind : ItemKind) : (letter kind).isSurrogate = false := by
  cases kind <;> rfl

/-- The parent is the only integer of a row that may be too long. -/
theorem isPrintable_json {r : TableRow} (hname : r.name.IsWellFormed) (hpath : r.path.IsWellFormed)
    (hdesc : ∀ d ∈ r.description, d.IsWellFormed) (hparent : ∀ k ∈ r.parent, IsShort k) :
    IsPrintable 1 r.json := by
  have hint : IsPrintable 0 (jsonInt? (r.parent.map (Int.ofNat ·))) := by
    cases hp : r.parent with
    | none => exact isPrintable_null
    | some k => exact isPrintable_int (hparent k hp)
  refine isPrintable_array ?_
  simp only [List.forall_mem_cons]
  exact ⟨isPrintable_int (isShort_code r.kind), isPrintable_text hname, isPrintable_text hpath,
    isPrintable_jsonText? hdesc, hint, List.forall_mem_nil _⟩

/-- Rows are printed as long as the codes of their paths table and their parents are short. -/
theorem isPrintable_jsonRows (ht : t.IsWhole) (hcodes : ∀ p ∈ t.paths, IsShort p.1)
    (hparents : ∀ r ∈ t.rows, ∀ k ∈ r.parent, IsShort k) : IsPrintable 3 t.jsonRows := by
  have hkeys : (["doc", "i", "p"].map Text.ofString).Nodup := by decide
  have hrow (r : TableRow) (hr : r ∈ t.rows) : IsPrintable 1 r.json :=
    isPrintable_json (ht.rowName r hr) (ht.path r hr) (ht.description r hr) (hparents r hr)
  refine isPrintable_object hkeys ?_
  simp only [List.forall_mem_cons, isWellFormed_ofString, true_and]
  exact ⟨isPrintable_text ht.doc, isPrintable_column hrow, isPrintable_jsonPaths ht hcodes,
    List.forall_mem_nil _⟩

/-- Columns are printed under the same conditions but for the parents, which are counted from one
there. -/
theorem isPrintable_jsonColumns (ht : t.IsWhole) (hcodes : ∀ p ∈ t.paths, IsShort p.1)
    (hparents : ∀ r ∈ t.rows, IsShort (parentCode r)) : IsPrintable 3 t.jsonColumns := by
  have hkeys : (["doc", "t", "n", "q", "d", "i", "p"].map Text.ofString).Nodup := by decide
  have hletters : Text.IsWellFormed (t.rows.map fun r => letter r.kind) :=
    List.forall_mem_map.mpr fun r _ => isSurrogate_letter r.kind
  refine isPrintable_object hkeys ?_
  simp only [List.forall_mem_cons, isWellFormed_ofString, true_and]
  exact ⟨isPrintable_text ht.doc, isPrintable_text hletters,
    isPrintable_column fun r hr => isPrintable_text (ht.rowName r hr),
    isPrintable_column fun r hr => isPrintable_text (ht.path r hr),
    isPrintable_column fun r hr => isPrintable_jsonText? (ht.description r hr),
    isPrintable_column fun r hr => isPrintable_int (hparents r hr),
    isPrintable_jsonPaths ht hcodes, List.forall_mem_nil _⟩

/-- Tables under their names, each as a JSON value. -/
def named (json : Table → Json) (tables : List Table) : List (Text × Json) :=
  tables.map fun t => (t.name, json t)

/-- The crates are laid out under their own names, in their order. -/
theorem areLaidOut_named {layout : Table → Json → Prop} {json : Table → Json}
    (h : ∀ t, layout t (json t)) (tables : List Table) :
    AreLaidOut layout (named json tables) tables := by
  rw [AreLaidOut, named, List.forall₂_map_left_iff, List.forall₂_same]
  exact fun t _ => ⟨rfl, h t⟩

/-- The payload with the printed document of some tables. -/
def printedPayload (json : Table → Json) (tables : List Table) (tail : List Char) : List Char :=
  embed (escapeQuotes (Json.print (.object (named json tables))).toList) tail

/-- The program that assigns the printed rows of some tables. -/
def printedProgram (tables : List Table) : List Char :=
  Literal.objectProgram "searchIndex" ((named Table.jsonRows tables).map fun e =>
    ((Json.printText e.1).toList, (Json.print e.2).toList))

theorem isPrintable_named {n : Nat} {json : Table → Json} (hnames : (tables.map (·.name)).Nodup)
    (hname : ∀ t ∈ tables, t.name.IsWellFormed) (h : ∀ t ∈ tables, IsPrintable n (json t)) :
    IsPrintable (n + 1) (.object (named json tables)) := by
  refine isPrintable_object ?_ (List.forall_mem_map.mpr fun t ht => ⟨hname t ht, h t ht⟩)
  rw [named, List.map_map]
  exact hnames

/-- Tables in a layout are a payload once they are printed. -/
theorem isPayload_printed {layout : Table → Json → Prop} {json : Table → Json}
    (hlayout : ∀ t, layout t (json t)) (hnames : (tables.map (·.name)).Nodup)
    (hwhole : ∀ t ∈ tables, t.IsWhole) (h : ∀ t ∈ tables, IsPrintable 3 (json t))
    (tail : List Char) : IsPayload layout tables (printedPayload json tables tail) := by
  have hdocument := isPrintable_named hnames (fun t ht => (hwhole t ht).name) h
  exact ⟨_, _, named json tables, tail, rfl, hdocument.plainText.parse (by decide), .inl rfl,
    areLaidOut_named hlayout tables⟩

/-- Tables are a program once their rows are printed. -/
theorem isProgram_printed (hwhole : ∀ t ∈ tables, t.IsWhole)
    (h : ∀ t ∈ tables, IsPrintable 3 t.jsonRows) : IsProgram tables (printedProgram tables) := by
  refine ⟨_, named Table.jsonRows tables, rfl, ?_, areLaidOut_named inRows_jsonRows tables⟩
  rw [List.forall₂_map_left_iff, List.forall₂_same]
  refine List.forall_mem_map.mpr fun t ht => ?_
  have hname : IsPrintable 0 (.text t.name) := isPrintable_text (hwhole t ht).name
  dsimp only
  exact ⟨hname.plainText.mono (by decide), (h t ht).plainText.mono (by decide)⟩

end Payload

end RustdocIndex
