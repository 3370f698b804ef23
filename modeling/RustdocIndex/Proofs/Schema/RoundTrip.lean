import RustdocIndex.Proofs.Schema.Dump

/-! Indexes, crates and identities are stored as JSON text and read back. -/
namespace RustdocIndex

open Json (IsPlain)
open Schema (Source)
open Text (isWellFormed_ofString)

theorem isWellFormed_of_nonemptyText {t : Text} (h : Schema.nonemptyText t = .valid t) :
    t.IsWellFormed := (Schema.nonemptyText_self.mp h).2

section

variable {α : Type} {fields : List (String × Json)} {dump : α → Json} {o : Option α}
  {as : List α} {n : Nat}

/-- The dump of a model takes one level more than its fields. -/
theorem isPlain_jsonObject (hkeys : (fields.map (·.1)).Nodup)
    (h : fields.Forall fun f => IsPlain n f.2) : IsPlain (n + 1) (jsonObject fields) := by
  refine .object ?_ (List.forall_mem_map.mpr (List.forall_iff_forall_mem.mp h))
  have hnames : (namedFields fields).map (·.1) = (fields.map (·.1)).map Text.ofString := by
    rw [namedFields, List.map_map, List.map_map]
    rfl
  rw [← namedFields, hnames]
  exact List.Pairwise.map _ (fun _ _ hne heq => hne (Text.ofString_inj.mp heq)) hkeys

/-- The keys of a model are plain, so that only its fields can keep a dump from being encoded. -/
theorem isWellFormed_jsonObject : (jsonObject fields).isWellFormed = true ↔
    fields.Forall fun f => f.2.isWellFormed = true := by
  rw [jsonObject, Json.isWellFormed_object, List.forall_mem_map, List.forall_iff_forall_mem]
  simp only [isWellFormed_ofString, true_and]

theorem isPlain_nullOr (h : ∀ a ∈ o, IsPlain n (dump a)) : IsPlain n (nullOr dump o) := by
  cases o with
  | none => exact .null
  | some a => exact h a rfl

/-- A field without a value is dumped as null, which can be encoded. -/
theorem isWellFormed_nullOr : (nullOr dump o).isWellFormed = true ↔
    ∀ a ∈ o, (dump a).isWellFormed = true := by
  cases o with
  | none => simp [nullOr, Json.isWellFormed]
  | some a => simp [nullOr]

theorem isPlain_dumps (h : ∀ a ∈ as, IsPlain n (dump a)) :
    IsPlain (n + 1) (.array (as.map dump)) := .array (List.forall_mem_map.mpr h)

theorem isWellFormed_dumps : (Json.array (as.map dump)).isWellFormed = true ↔
    ∀ a ∈ as, (dump a).isWellFormed = true := by
  rw [Json.isWellFormed_array, List.forall_mem_map]

end

/-! ### What dumps hold -/

variable {n : Nat}

theorem ItemKind.isWellFormed_toJson (k : ItemKind) : k.toJson.isWellFormed = true :=
  Json.isWellFormed_text.mpr (isWellFormed_ofString _)

theorem Hosting.isWellFormed_toJson (h : Hosting) : h.toJson.isWellFormed = true :=
  Json.isWellFormed_text.mpr (isWellFormed_ofString _)

/-- The position of a reference is short. -/
def ParentRef.IsShort : ParentRef → Prop
  | .own i | .foreign i => Json.IsShort i

namespace ParentRef

/-- Of all that is dumped, only the position of a parent can be too long to be read back. -/
theorem isPlain_toJson {r : ParentRef} (h : r.IsShort) : IsPlain (n + 1) r.toJson := by
  cases r with
  | own i | foreign i => exact isPlain_jsonObject (by simp) ⟨.text _, .int h⟩

theorem isWellFormed_toJson (r : ParentRef) : r.toJson.isWellFormed = true := by
  cases r with
  | own i | foreign i =>
    exact isWellFormed_jsonObject.mpr
      ⟨Json.isWellFormed_text.mpr (isWellFormed_ofString _), rfl⟩

end ParentRef

namespace PathEntry

theorem isPlain_toJson (e : PathEntry) : IsPlain (n + 1) e.toJson :=
  isPlain_jsonObject (by simp) ⟨.text _, .text _⟩

theorem isWellFormed_toJson (e : PathEntry) :
    e.toJson.isWellFormed = true ↔ e.name.IsWellFormed := by
  rw [toJson, isWellFormed_jsonObject]
  simp only [List.Forall, ItemKind.isWellFormed_toJson, Json.isWellFormed_text, true_and]

end PathEntry

namespace Item

variable {item : Item}

theorem isPlain_toJson (h : ∀ r ∈ item.parent, r.IsShort) : IsPlain (n + 2) item.toJson :=
  isPlain_jsonObject (by simp) ⟨.text _, .text _, .text _, isPlain_nullOr fun d _ => .text d,
    isPlain_nullOr fun r hr => ParentRef.isPlain_toJson (h r hr)⟩

/-- The name and the module path of an item are checked when it is made, but its description is not,
which alone may hold half of a surrogate pair. -/
theorem isWellFormed_toJson (h : item.IsAccepted) : item.toJson.isWellFormed = true ↔
    ∀ d ∈ item.description, d.IsWellFormed := by
  have hname := isWellFormed_of_nonemptyText h.name
  have hmodule := isWellFormed_of_nonemptyText h.modulePath
  rw [toJson, isWellFormed_jsonObject]
  simp only [List.Forall, ItemKind.isWellFormed_toJson, ParentRef.isWellFormed_toJson,
    isWellFormed_nullOr, Json.isWellFormed_text, hname, hmodule, true_and, implies_true, and_true]

end Item

namespace Index

variable {index : Index}

/-- No description and no name in the paths table holds half of a surrogate pair. The other texts
of an index are checked. -/
def HasWholeTexts (index : Index) : Prop :=
  (∀ item ∈ index.items, ∀ d ∈ item.description, d.IsWellFormed) ∧
    ∀ e ∈ index.paths, e.name.IsWellFormed

/-- The positions of items and of entries of the paths table have no more digits than an integer
may have. -/
def IsCountable (index : Index) : Prop :=
  index.items.length ≤ Nat.pow 10 maxIntegerDigits ∧
    index.paths.length ≤ Nat.pow 10 maxIntegerDigits

/-- In a valid index a parent is the position of an item or of an entry of the paths table, and so
it is short wherever the lengths of both are. -/
theorem isShort_parent (hvalid : index.Valid) (hcount : index.IsCountable) :
    ∀ item ∈ index.items, ∀ r ∈ item.parent, r.IsShort := by
  intro item hitem r hr
  have hresolves := hvalid item hitem r hr
  cases r with
  | own i =>
    obtain ⟨target, hi, -⟩ := hresolves
    exact Nat.lt_of_lt_of_le (List.getElem?_eq_some_iff.mp hi).1 hcount.1
  | foreign k => exact Nat.lt_of_lt_of_le hresolves hcount.2

/-- An index takes four levels: itself, its lists, their members, and the parents of these. -/
theorem isPlain_toJson (hvalid : index.Valid) (hcount : index.IsCountable) :
    IsPlain 4 index.toJson := by
  have hshort := isShort_parent hvalid hcount
  have hitems : IsPlain 3 (.array (index.items.map Item.toJson)) :=
    isPlain_dumps fun item hitem => Item.isPlain_toJson (hshort item hitem)
  have hpaths : IsPlain 3 (.array (index.paths.map PathEntry.toJson)) :=
    isPlain_dumps fun e _ => PathEntry.isPlain_toJson e
  exact isPlain_jsonObject (by simp) ⟨.text _, hitems, hpaths⟩

/-- The index can be encoded exactly if all texts that nothing checks are whole. -/
theorem isWellFormed_toJson (h : index.IsAccepted) :
    index.toJson.isWellFormed = true ↔ index.HasWholeTexts := by
  have hname := isWellFormed_of_nonemptyText h.crateName
  have hitems : (∀ item ∈ index.items, item.toJson.isWellFormed = true) ↔
      ∀ item ∈ index.items, ∀ d ∈ item.description, d.IsWellFormed :=
    forall₂_congr fun item hitem => Item.isWellFormed_toJson (h.items item hitem)
  rw [toJson, isWellFormed_jsonObject]
  simp only [List.Forall, isWellFormed_dumps, hitems, PathEntry.isWellFormed_toJson,
    Json.isWellFormed_text, hname, true_and]
  rfl

end Index

namespace Crate

variable {c : Crate}

/-- Neither the recorded version nor the documentation holds half of a surrogate pair, and no
unchecked text of the index does. -/
def HasWholeTexts (c : Crate) : Prop :=
  (∀ v ∈ c.version, v.IsWellFormed) ∧ c.doc.IsWellFormed ∧ c.index.HasWholeTexts

theorem isPlain_toJson (hvalid : c.index.Valid) (hcount : c.index.IsCountable) :
    IsPlain 5 c.toJson :=
  isPlain_jsonObject (by simp) ⟨.text _, isPlain_nullOr fun v _ => .text v, .text _,
    Index.isPlain_toJson hvalid hcount⟩

theorem isWellFormed_toJson (h : c.IsAccepted) :
    c.toJson.isWellFormed = true ↔ c.HasWholeTexts := by
  have hname := isWellFormed_of_nonemptyText h.name
  rw [toJson, isWellFormed_jsonObject]
  simp only [List.Forall, isWellFormed_nullOr, Index.isWellFormed_toJson h.index,
    Json.isWellFormed_text, hname, true_and]
  rfl

end Crate

namespace CrateIdentity

variable {id : CrateIdentity}

theorem isPlain_toJson (id : CrateIdentity) : IsPlain 1 id.toJson :=
  isPlain_jsonObject (by simp) ⟨.text _, .text _, .text _⟩

theorem isWellFormed_toJson (h : id.IsAccepted) : id.toJson.isWellFormed = true := by
  have hname := isWellFormed_of_nonemptyText (isAccepted_iff.mp h).1
  rw [toJson, isWellFormed_jsonObject]
  simp only [List.Forall, Hosting.isWellFormed_toJson, Json.isWellFormed_text, hname,
    isWellFormed_ofString, and_true]

end CrateIdentity

/-! ### Round trips -/

/-- A value is given by its own dump, as values and as JSON. It is stored as a text if its texts
are whole, and the text gives it too if its lists are countable. -/
structure RoundTrips (gives : Source → Json → Prop) (dump : Json) (whole countable : Prop) :
    Prop where
  given : ∀ source, gives source dump
  encodes : (∃ text, dump.encode? = some text) ↔ whole
  stored : countable → ∀ text, dump.encode? = some text →
    ∃ x, Json.parse text.toList = .ok x ∧ gives .json x

/-- What all three models share: the dump gives the value back, and it is written and read as text
where its texts are whole and its positions short. -/
theorem roundTrips_of_isPlain {gives : Source → Json → Prop} {dump : Json}
    {whole countable : Prop} (hgives : ∀ source, gives source dump)
    (hwell : dump.isWellFormed = true ↔ whole) (hplain : countable → IsPlain n dump)
    (hn : n ≤ Json.maxDepth) : RoundTrips gives dump whole countable where
  given := hgives
  encodes := by
    rw [← hwell]
    exact ⟨fun ⟨text, ht⟩ => (Json.encode?_eq_some.mp ht).1,
      fun h => ⟨_, Json.encode?_eq_some.mpr ⟨h, rfl⟩⟩⟩
  stored := by
    intro hcount text ht
    obtain ⟨hdump, rfl⟩ := Json.encode?_eq_some.mp ht
    exact ⟨dump, (hplain hcount).parse_print hn hdump, hgives .json⟩

def Index.RoundTrips (index : Index) : Prop :=
  RustdocIndex.RoundTrips (fun source x => Index.check source x = .valid index) index.toJson
    index.HasWholeTexts index.IsCountable

def Crate.RoundTrips (c : Crate) : Prop :=
  RustdocIndex.RoundTrips (fun source x => Crate.check source x = .valid c) c.toJson
    c.HasWholeTexts c.index.IsCountable

def CrateIdentity.RoundTrips (id : CrateIdentity) : Prop :=
  RustdocIndex.RoundTrips (fun source x => CrateIdentity.check source x = .ok id) id.toJson
    True True

/-- Whatever accepted the index, its dump is accepted again and gives the same index. -/
theorem Index.IsAccepted.roundTrips {index : Index} (h : index.IsAccepted) : index.RoundTrips :=
  roundTrips_of_isPlain (fun _ => Index.check_toJson.mpr h) (Index.isWellFormed_toJson h)
    (Index.isPlain_toJson h.valid) (by decide)

theorem Crate.IsAccepted.roundTrips {c : Crate} (h : c.IsAccepted) : c.RoundTrips :=
  roundTrips_of_isPlain (fun _ => Crate.check_toJson.mpr h) (Crate.isWellFormed_toJson h)
    (Crate.isPlain_toJson h.index.valid) (by decide)

theorem CrateIdentity.IsAccepted.roundTrips {id : CrateIdentity} (h : id.IsAccepted) :
    id.RoundTrips :=
  roundTrips_of_isPlain (fun _ => CrateIdentity.check_toJson.mpr h)
    (iff_of_true (CrateIdentity.isWellFormed_toJson h) trivial)
    (fun _ => CrateIdentity.isPlain_toJson id) (by decide)

/-- Indexes, crates and identities that are validated, and those that are decoded or made, come
back from their dumps. In the dump of an index the parent references are checked again, and reading
the text of a version changes nothing. -/
theorem roundTrips_of_validated (source : Source) (x : Json) (hint : Option String)
    (recorded : Option Text) (p : Payload) (requested : Option Text) :
    (∀ index, Index.check source x = .valid index → index.RoundTrips) ∧
    (∀ c, Crate.check source x = .valid c → c.RoundTrips) ∧
    (∀ id, CrateIdentity.check source x = .ok id → id.RoundTrips) ∧
    (∀ name hosting id, CrateIdentity.make name requested hosting = .ok id → id.RoundTrips) ∧
    (∀ found, p.decode hint recorded = .ok found →
      ∀ c ∈ found, c.RoundTrips ∧ c.index.RoundTrips) ∧
    (∀ index : Index, Index.check source index.toJson = .valid index ↔ index.IsAccepted) ∧
    ∀ v, Version.parseOption requested = .ok v → Version.parseOption (some v.text) = .ok v := by
  refine ⟨?_, ?_, ?_, ?_, ?_, fun index => Index.check_toJson, fun v h => ?_⟩
  · intro index h
    exact (Index.isAccepted_of_check h).roundTrips
  · intro c h
    exact (Crate.isAccepted_of_check h).roundTrips
  · intro id h
    exact (CrateIdentity.isAccepted_of_check h).roundTrips
  · intro name hosting id h
    exact (CrateIdentity.isAccepted_of_make h).roundTrips
  · intro found h c hc
    obtain ⟨g, d, hd⟩ := Payload.exists_build_of_decode h hc
    have haccepted := Crate.isAccepted_of_build hd
    exact ⟨haccepted.roundTrips, haccepted.index.roundTrips⟩
  · exact (Version.parseOption_ofString v.text).trans (Version.parseOption_text h)

/-- An index with a position that is given as a text, and without the fields that may be left
out. -/
def laxIndex : Json := jsonObject [("crate_name", .text "a"),
  ("items", .array [jsonObject [("kind", .text "fn"), ("name", .text "f"),
    ("module_path", .text "a"),
    ("parent", jsonObject [("space", .text "foreign"), ("index", .text " 0.0")])]]),
  ("paths", .array [jsonObject [("kind", .text "struct"), ("name", .text "S")]])]

def laxCrate : Json := jsonObject [("name", .text "a"), ("index", laxIndex)]

/-- The crate that is given so. -/
def givenCrate : Crate :=
  ⟨"a", none, "", ⟨"a", [⟨.function, "f", "a", none, some (.foreign 0)⟩], [⟨.struct, "S"⟩]⟩⟩

/-- A payload of the same crate. -/
def givenPayload : List Char :=
  "var searchIndex=\x7b\"a\":\x7b\"i\":[[5,\"f\",\"a\",\"\",0]],\"p\":[[3,\"S\"]]\x7d\x7d;".toList

def laxIdentity : Json := jsonObject [("name", .text "a"), ("version", .text " 1.0.0 ")]

def givenVersion : Version := .semantic ⟨1, 0, 0, [], []⟩

theorem roundTrips_givenCrate :
    (Index.check .values laxIndex = .valid givenCrate.index ∧
      ∃ text x, givenCrate.index.toJson.encode? = some text ∧ Json.parse text.toList = .ok x ∧
        Index.check .json x = .valid givenCrate.index) ∧
    (Crate.check .values laxCrate = .valid givenCrate ∧ givenCrate.RoundTrips) ∧
    (CrateIdentity.check .values laxIdentity = .ok ⟨"a", givenVersion, .registry⟩ ∧
      CrateIdentity.RoundTrips ⟨"a", givenVersion, .registry⟩) ∧
    (CrateIdentity.make "a" (some " 1.0.0 ") .registry = .ok ⟨"a", givenVersion, .registry⟩ ∧
      CrateIdentity.RoundTrips ⟨"a", givenVersion, .registry⟩) ∧
    (Payload.decode (some "v1") none (.text givenPayload) = .ok [givenCrate] ∧
      givenCrate.RoundTrips) ∧
    (Version.parseOption (some " 1.0.0 ") = .ok givenVersion ∧
      Version.parseOption (some givenVersion.text) = .ok givenVersion) := by
  have hindex : Index.check .values laxIndex = .valid givenCrate.index := by rfl
  have hcrate : Crate.check .values laxCrate = .valid givenCrate := by rfl
  have hidentity : CrateIdentity.check .values laxIdentity =
      .ok ⟨"a", givenVersion, .registry⟩ := by rfl
  have hmake : CrateIdentity.make "a" (some " 1.0.0 ") .registry =
      .ok ⟨"a", givenVersion, .registry⟩ := by rfl
  have hdecode : Payload.decode (some "v1") none (.text givenPayload) = .ok [givenCrate] :=
    toOption_eq_some.mp (by decide +kernel)
  have hversion : Version.parseOption (some " 1.0.0 ") = .ok givenVersion := by rfl
  obtain ⟨indexes, -, -, made, decoded, -, versions⟩ := roundTrips_of_validated .values laxIndex
    (some "v1") none (.text givenPayload) (some " 1.0.0 ")
  obtain ⟨-, crates, -⟩ := roundTrips_of_validated .values laxCrate none none (.text []) none
  obtain ⟨-, -, identities, -⟩ :=
    roundTrips_of_validated .values laxIdentity none none (.text []) none
  have htrip := indexes _ hindex
  have hwhole : givenCrate.index.HasWholeTexts := by
    simp [Index.HasWholeTexts, givenCrate, isWellFormed_ofString]
  have hone (k : Nat) : 1 ≤ Nat.pow 10 k := Nat.pow_pos (by decide)
  have hcount : givenCrate.index.IsCountable := ⟨hone _, hone _⟩
  obtain ⟨text, htext⟩ := htrip.encodes.mpr hwhole
  obtain ⟨x, hparse, hx⟩ := htrip.stored hcount text htext
  exact ⟨⟨hindex, text, x, htext, hparse, hx⟩, ⟨hcrate, crates _ hcrate⟩,
    ⟨hidentity, identities _ hidentity⟩, ⟨hmake, made _ _ _ hmake⟩,
    ⟨hdecode, (decoded _ hdecode _ (by simp)).1⟩, hversion, versions _ hversion⟩

/-- A payload with half of a surrogate pair for a description. -/
def halfPairPayload : List Char :=
  ("var searchIndex=\x7b\"a\":\x7b\"doc\":\"\"," ++
    "\"i\":[[5,\"f\",\"a\",\"\\ud800\"]],\"p\":[]\x7d\x7d;").toList

theorem encode?_halfPairPayload : ∃ c, Payload.decode (some "v1") none (.text halfPairPayload) =
    .ok [c] ∧ c.index.toJson.encode? = none := by
  refine ⟨⟨"a", none, "", ⟨"a", [⟨.function, "f", "a", some [⟨0xD800, by decide⟩], none⟩], []⟩⟩,
    toOption_eq_some.mp (by decide +kernel), by decide +kernel⟩

end RustdocIndex
