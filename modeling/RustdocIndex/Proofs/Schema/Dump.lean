import RustdocIndex.Proofs.Crate.Validity
import RustdocIndex.Proofs.Json.Printing
import RustdocIndex.Proofs.Link.Identity

/-! What validation gives comes back from its dump. -/
namespace RustdocIndex

open Schema
open Schema.Checked (andThen_eq_valid map_eq_valid seq_eq_valid toExcept_eq_ok under_eq_valid)

/-! ### Objects of named fields -/

/-- Fields under the names of a model. -/
def namedFields (fields : List (String × Json)) : Fields Text Json :=
  fields.map fun (name, x) => (Text.ofString name, x)

section NamedFields

variable {α : Type} {source : Source} {title name : String} {fields : List (String × Json)}
  {check : Json → Checked α} {x : Json} {a absent : α}

/-- Names in the code are plain, so different ones stay different as keys. -/
theorem get?_namedFields (name : String) (fields : List (String × Json)) :
    Fields.get? (Text.ofString name) (namedFields fields) = fields.lookup name := by
  induction fields with
  | nil => rfl
  | cons f fields ih =>
    simp only [namedFields, List.map_cons, Fields.get?, Text.ofString_inj] at ih ⊢
    rw [List.lookup_cons]
    by_cases h : f.1 = name
    · simp [h]
    · rw [if_neg h, ih, beq_false_of_ne (Ne.symm h)]

theorem required_namedFields (h : fields.lookup name = some x) (hx : check x = .valid a) :
    required name check (namedFields fields) = .valid a := by
  rw [required, get?_namedFields, h]
  exact under_eq_valid.mpr hx

theorem optional_namedFields (h : fields.lookup name = some x) (hx : check x = .valid a) :
    Schema.optional name absent check (namedFields fields) = .valid a := by
  rw [Schema.optional, get?_namedFields, h]
  exact under_eq_valid.mpr hx

theorem noOthers_namedFields {names : List String} (hnames : fields.map (·.1) = names) :
    noOthers names (namedFields fields) = .valid () := by
  rw [noOthers, List.filter_eq_nil_iff.mpr]
  intro g hg
  obtain ⟨f, hf, rfl⟩ := List.mem_map.mp hg
  have hname : Text.ofString f.1 ∈ names.map Text.ofString :=
    List.mem_map_of_mem (hnames ▸ List.mem_map_of_mem hf)
  simp only [List.contains_iff_mem.mpr hname, Bool.not_true, Bool.false_eq_true,
    not_false_eq_true]

/-- A dump with just the fields of the model passes if its fields do, from either source. -/
theorem model_jsonObject {check : Fields Text Json → Checked α} {dump : Json}
    {names : List String} (hdump : dump = jsonObject fields) (hnames : fields.map (·.1) = names)
    (h : check (namedFields fields) = .valid a) : model source title names check dump = .valid a :=
  model_eq_valid.mpr ⟨namedFields fields, hdump, h, noOthers_namedFields hnames⟩

theorem exists_of_required {fields : Fields Text Json}
    (h : required name check fields = .valid a) : ∃ x, check x = .valid a := by
  unfold required at h
  split at h
  · cases h
  · next x _ => exact ⟨x, under_eq_valid.mp h⟩

/-- An optional field is what it counts as without a value, or it passed its check. -/
theorem exists_of_optional {fields : Fields Text Json}
    (h : Schema.optional name absent check fields = .valid a) :
    a = absent ∨ ∃ x, check x = .valid a := by
  unfold Schema.optional at h
  split at h
  · cases h
    exact .inl rfl
  · next x _ => exact .inr ⟨x, under_eq_valid.mp h⟩

/-- A text that was accepted once is accepted again. -/
theorem nonempty_eq_valid {t : Text} (h : nonempty x = .valid t) : nonemptyText t = .valid t := by
  obtain ⟨u, -, hu⟩ := andThen_eq_valid.mp h
  obtain ⟨rfl, -⟩ := nonemptyText_eq_valid hu
  exact hu

/-- Null is told apart from every dump, and so a value that may be null comes back. -/
theorem nullable_nullOr {dump : α → Json} {o : Option α} (hne : ∀ a, dump a ≠ .null)
    (h : ∀ a ∈ o, check (dump a) = .valid a) : nullable check (nullOr dump o) = .valid o := by
  cases o with
  | none => rfl
  | some a =>
    rw [nullOr, nullable]
    · rw [h a rfl]
      rfl
    · exact hne a

theorem all_eq_valid {as : List α} {xs : List Json} (k : Nat) :
    Checked.all ((xs.zipIdx k).map fun (x, i) => (check x).under (.position i)) = .valid as ↔
      List.Forall₂ (fun x a => check x = .valid a) xs as := by
  induction xs generalizing k as with
  | nil => simp [Checked.all, eq_comm]
  | cons x xs ih =>
    rw [List.forall₂_cons_left_iff]
    constructor
    · intro h
      obtain ⟨_, more, hx, hmore, rfl⟩ := seq_eq_valid.mp h
      obtain ⟨a, ha, rfl⟩ := map_eq_valid.mp hx
      exact ⟨a, more, under_eq_valid.mp ha, (ih (k + 1)).mp hmore, rfl⟩
    · rintro ⟨a, more, ha, hmore, rfl⟩
      exact seq_eq_valid.mpr ⟨_, more, map_eq_valid.mpr ⟨a, under_eq_valid.mpr ha, rfl⟩,
        (ih (k + 1)).mpr hmore, rfl⟩

/-- A list is valid if it has valid elements. -/
theorem list_eq_valid {as : List α} : list source check x = .valid as ↔
    ∃ xs, x = .array xs ∧ List.Forall₂ (fun x a => check x = .valid a) xs as := by
  constructor
  · intro h
    cases x with
    | array xs => exact ⟨xs, rfl, (all_eq_valid 0).mp h⟩
    | _ => cases h
  · rintro ⟨xs, rfl, h⟩
    exact (all_eq_valid 0).mpr h

/-- A list comes back element by element. -/
theorem list_dump {dump : α → Json} {as : List α} (h : ∀ a ∈ as, check (dump a) = .valid a) :
    list source check (.array (as.map dump)) = .valid as := by
  refine list_eq_valid.mpr ⟨_, rfl, ?_⟩
  rw [List.forall₂_map_left_iff, List.forall₂_same]
  exact h

end NamedFields

/-! ### Checks of what they gave -/

variable {source : Source} {x : Json}

theorem ItemKind.check_toJson (k : ItemKind) : check k.toJson = .valid k := by
  have hfind : ofTag? k.tag = some k := by cases k <;> decide
  simp only [check, toJson, oneOf, Text.toString?_ofString, Option.bind_some, hfind]

theorem Hosting.check_toJson (h : Hosting) : check h.toJson = .valid h := by
  have hfind : ofName? h.name = some h := by cases h <;> decide
  simp only [check, toJson, oneOf, Text.toString?_ofString, Option.bind_some, hfind]

namespace ParentRef

theorem checkFields_namedFields (space : String) (make : Nat → ParentRef) (t : Json) (i : Nat) :
    checkFields space make (namedFields [("space", t), ("index", .int i)]) = .valid (make i) := by
  have hindex : required "index" natural (namedFields [("space", t), ("index", .int i)]) =
      .valid i := required_namedFields rfl rfl
  have hothers : noOthers ["space", "index"] (namedFields [("space", t), ("index", .int i)]) =
      .valid () := noOthers_namedFields rfl
  rw [checkFields, hindex, hothers]
  rfl

/-- The tag of the space is dumped with the position, and by it the reference comes back. -/
theorem check_toJson (source : Source) (r : ParentRef) : check source r.toJson = .valid r := by
  cases r with
  | own i => exact checkFields_namedFields "self" .own (.text "self") i
  | foreign k => exact checkFields_namedFields "foreign" .foreign (.text "foreign") k

end ParentRef

theorem PathEntry.check_toJson (source : Source) (e : PathEntry) :
    check source e.toJson = .valid e :=
  model_jsonObject rfl rfl (seq_eq_valid.mpr ⟨_, _,
    map_eq_valid.mpr ⟨_, required_namedFields rfl (ItemKind.check_toJson _), rfl⟩,
    required_namedFields rfl rfl, rfl⟩)

/-- The texts that addresses are made of are not empty and without halves of surrogate pairs. -/
structure Item.IsAccepted (item : Item) : Prop where
  name : nonemptyText item.name = .valid item.name
  modulePath : nonemptyText item.modulePath = .valid item.modulePath

namespace Item

variable {item : Item}

/-- Only the name and the module path of an item have a condition that it keeps. -/
theorem isAccepted_of_check (h : check source x = .valid item) : item.IsAccepted := by
  obtain ⟨fields, -, hfields, -⟩ := model_eq_valid.mp h
  obtain ⟨_, _, hdescribed, -, rfl⟩ := seq_eq_valid.mp hfields
  obtain ⟨_, _, hplaced, -, rfl⟩ := seq_eq_valid.mp hdescribed
  obtain ⟨_, _, hnamed, hmodule, rfl⟩ := seq_eq_valid.mp hplaced
  obtain ⟨_, _, hkind, hname, rfl⟩ := seq_eq_valid.mp hnamed
  obtain ⟨_, -, rfl⟩ := map_eq_valid.mp hkind
  obtain ⟨_, hname⟩ := exists_of_required hname
  obtain ⟨_, hmodule⟩ := exists_of_required hmodule
  exact ⟨nonempty_eq_valid hname, nonempty_eq_valid hmodule⟩

theorem check_toJson (h : item.IsAccepted) (source : Source) :
    check source item.toJson = .valid item := by
  have hdescription : nullable text (nullOr .text item.description) = .valid item.description :=
    nullable_nullOr nofun fun _ _ => rfl
  have hparent : nullable (ParentRef.check source) (nullOr ParentRef.toJson item.parent) =
      .valid item.parent := by
    refine nullable_nullOr (fun r => ?_) fun r _ => ParentRef.check_toJson source r
    cases r <;> nofun
  refine model_jsonObject rfl rfl (seq_eq_valid.mpr ⟨Item.mk item.kind item.name item.modulePath
    item.description, _, ?_, optional_namedFields rfl hparent, rfl⟩)
  refine seq_eq_valid.mpr ⟨_, _, ?_, optional_namedFields rfl hdescription, rfl⟩
  refine seq_eq_valid.mpr ⟨_, _, ?_, required_namedFields rfl h.modulePath, rfl⟩
  refine seq_eq_valid.mpr ⟨_, _, ?_, required_namedFields rfl h.name, rfl⟩
  exact map_eq_valid.mpr ⟨_, required_namedFields rfl (ItemKind.check_toJson _), rfl⟩

end Item

/-- What validation asks of an index: its own name, the texts of its items, and parent references
that lead somewhere. -/
structure Index.IsAccepted (index : Index) : Prop where
  crateName : nonemptyText index.crateName = .valid index.crateName
  items : ∀ item ∈ index.items, item.IsAccepted
  valid : index.Valid

namespace Index

variable {index : Index}

/-- What the check of an index leaves true of it: its texts, its items, and the references between
them. -/
theorem isAccepted_of_check (h : check source x = .valid index) : index.IsAccepted := by
  obtain ⟨fields, -, hgiven, hvalid⟩ := check_eq_valid.mp h
  obtain ⟨_, hname⟩ := exists_of_required hgiven.crateName
  refine ⟨nonempty_eq_valid hname, fun item hitem => ?_, hvalid⟩
  rcases exists_of_optional hgiven.items with hnone | ⟨_, hitems⟩
  · simp [hnone] at hitem
  · obtain ⟨xs, -, hitems⟩ := list_eq_valid.mp hitems
    obtain ⟨_, -, hchecked⟩ := exists_of_forall₂ hitems hitem
    exact Item.isAccepted_of_check hchecked

/-- The dump of an index is validated as that index if it would be accepted, its parent references
included. -/
theorem check_toJson : check source index.toJson = .valid index ↔ index.IsAccepted := by
  refine ⟨isAccepted_of_check, fun h => check_eq_valid.mpr ⟨_, rfl, ?_, h.valid⟩⟩
  exact {
    crateName := required_namedFields rfl h.crateName
    items := optional_namedFields rfl
      (list_dump fun item hitem => Item.check_toJson (h.items item hitem) source)
    paths := optional_namedFields rfl
      (list_dump fun e _ => PathEntry.check_toJson source e)
    others := noOthers_namedFields rfl }

end Index

structure Crate.IsAccepted (c : Crate) : Prop where
  name : nonemptyText c.name = .valid c.name
  index : c.index.IsAccepted

namespace Crate

variable {c : Crate}

/-- A crate has a name of its own beside the one of its index, and both are checked. -/
theorem isAccepted_of_check (h : check source x = .valid c) : c.IsAccepted := by
  obtain ⟨fields, -, hfields, -⟩ := model_eq_valid.mp h
  obtain ⟨_, _, hdocumented, hindex, rfl⟩ := seq_eq_valid.mp hfields
  obtain ⟨_, _, hrecorded, -, rfl⟩ := seq_eq_valid.mp hdocumented
  obtain ⟨_, _, hnamed, -, rfl⟩ := seq_eq_valid.mp hrecorded
  obtain ⟨_, hname, rfl⟩ := map_eq_valid.mp hnamed
  obtain ⟨_, hname⟩ := exists_of_required hname
  obtain ⟨_, hindex⟩ := exists_of_required hindex
  exact ⟨nonempty_eq_valid hname, Index.isAccepted_of_check hindex⟩

theorem check_toJson : check source c.toJson = .valid c ↔ c.IsAccepted := by
  refine ⟨isAccepted_of_check, fun h => model_jsonObject rfl rfl (seq_eq_valid.mpr
    ⟨Crate.mk c.name c.version c.doc, _, ?_,
      required_namedFields rfl (Index.check_toJson.mpr h.index), rfl⟩)⟩
  have hversion : nullable text (nullOr .text c.version) = .valid c.version :=
    nullable_nullOr nofun fun _ _ => rfl
  refine seq_eq_valid.mpr ⟨_, _, ?_, optional_namedFields rfl rfl, rfl⟩
  refine seq_eq_valid.mpr ⟨_, _, ?_, optional_namedFields rfl hversion, rfl⟩
  exact map_eq_valid.mpr ⟨_, required_namedFields rfl h.name, rfl⟩

/-- Whatever is decoded would be accepted. -/
theorem isAccepted_of_build {g : Generation} {d : Payload.Draft} {version : Option Text}
    (h : d.build g version = .ok c) : c.IsAccepted := by
  have hchecked := Payload.checked_of_build h
  obtain ⟨items, -, -, hindex, rfl⟩ := Payload.build_eq_ok h
  obtain ⟨hname, -, hproblem⟩ := Payload.checkedIndex_eq_valid.mp hindex
  refine ⟨hname, hname, fun item hitem => ?_, Index.problem?_eq_none.mp hproblem⟩
  exact ⟨(hchecked item hitem).1, (hchecked item hitem).2⟩

end Crate

namespace CrateIdentity

variable {id : CrateIdentity}

/-- However the version was given, its own text gives it again. -/
theorem version_of_readVersion {fields : Fields Text Json} {v : Version}
    (h : readVersion fields = .ok v) : Version.parse v.text = .ok v := by
  unfold readVersion at h
  split at h
  · cases h
    rfl
  · cases h
    rfl
  · obtain ⟨s, -, hs⟩ := Version.parseText_eq_ok.mp (mapError_eq_ok.mp h)
    exact Version.parse_text hs
  · cases h

theorem readVersion_namedFields {fields : List (String × Json)} {s : String}
    (h : fields.lookup "version" = some (.text s)) :
    readVersion (namedFields fields) = (Version.parse s).mapError .version := by
  rw [readVersion, get?_namedFields, h]
  exact congrArg (·.mapError IdentityFault.version) (Version.parseText_ofString s)

/-- The identity was accepted with the version as it was read, and that is what its dump has. -/
theorem isAccepted_of_check (h : check source x = .ok id) : id.IsAccepted := by
  cases x with
  | object fields =>
    obtain ⟨v, hv, h⟩ := bind_eq_ok.mp h
    obtain ⟨made, hmake, hensure⟩ :=
      andThen_eq_valid.mp (toExcept_eq_ok.mp (mapError_eq_ok.mp h))
    obtain ⟨_, -, hmake, -⟩ := model_eq_valid.mp hmake
    obtain ⟨_, _, hnamed, -, rfl⟩ := seq_eq_valid.mp hmake
    obtain ⟨_, hname, rfl⟩ := map_eq_valid.mp hnamed
    obtain ⟨rfl, hc⟩ := ensure_eq_valid.mp hensure
    obtain ⟨_, hname⟩ := exists_of_required hname
    exact isAccepted_iff.mpr ⟨nonempty_eq_valid hname, version_of_readVersion hv, hc⟩
  | _ => cases h

theorem check_toJson : check source id.toJson = .ok id ↔ id.IsAccepted := by
  refine ⟨isAccepted_of_check, fun h => ?_⟩
  obtain ⟨hname, hversion, hc⟩ := isAccepted_iff.mp h
  refine bind_eq_ok.mpr ⟨id.version, ?_, mapError_eq_ok.mpr (toExcept_eq_ok.mpr ?_)⟩
  · exact (readVersion_namedFields rfl).trans (mapError_eq_ok.mpr hversion)
  · refine andThen_eq_valid.mpr ⟨_, model_jsonObject rfl rfl (seq_eq_valid.mpr ⟨_, _,
      map_eq_valid.mpr ⟨_, required_namedFields rfl hname, rfl⟩,
      optional_namedFields rfl (Hosting.check_toJson _), rfl⟩), ensure_eq_valid.mpr ⟨rfl, hc⟩⟩

end CrateIdentity

end RustdocIndex
