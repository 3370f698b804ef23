import RustdocIndex.Proofs.Fields
import RustdocIndex.Proofs.Result
import RustdocIndex.Proofs.Version.Reading
import RustdocIndex.Schema.Identity
import RustdocIndex.Schema.Path
import RustdocIndex.Schema.Response

/-! What validation reports of data: issues with parts that the data has, or with fields that its
parts lack. -/
namespace RustdocIndex

namespace Schema

/-- An issue lies where its location leads. The tag of a parent reference is a step to the
reference itself, as messages show it. -/
inductive Concerns : Json → Issue → Prop
  | here {x : Json} {p : Problem} (hp : p ≠ .missing) : Concerns x ⟨[], p⟩
  | lacks {name : Text} {fields : Fields Text Json} (h : Fields.get? name fields = none) :
    Concerns (.object fields) ⟨[.field name], .missing⟩
  | field {name : Text} {fields : Fields Text Json} {y : Json} {path : List Step} {p : Problem}
    (hy : Fields.get? name fields = some y) (h : Concerns y ⟨path, p⟩) :
    Concerns (.object fields) ⟨.field name :: path, p⟩
  | position {i : Nat} {xs : List Json} {y : Json} {path : List Step} {p : Problem}
    (hy : xs[i]? = some y) (h : Concerns y ⟨path, p⟩) : Concerns (.array xs) ⟨.position i :: path, p⟩
  | tag {fields : Fields Text Json} {y : Json} {path : List Step} {p : Problem}
    (hy : Fields.get? (Text.ofString "space") fields = some y)
    (h : Concerns (.object fields) ⟨path, p⟩) :
    Concerns (.object fields) ⟨.field (Text.ofString (ParentRef.shownTag y)) :: path, p⟩

/-- A value, or issues with the data, one at least. -/
def Explained {α : Type} (x : Json) : Checked α → Prop
  | .valid _ => True
  | .invalid issues => issues ≠ [] ∧ ∀ i ∈ issues, Concerns x i

namespace Explained

variable {α β : Type} {x y : Json} {a : Checked α} {fields : Fields Text Json}

theorem valid (v : α) : Explained x (.valid v) := trivial

theorem problem {p : Problem} (hp : p ≠ .missing) : Explained x (.problem p : Checked α) :=
  ⟨by simp, List.forall_mem_singleton.mpr (.here hp)⟩

/-- Changing a valid value brings no issues. -/
theorem map {f : α → β} (ha : Explained x a) : Explained x (f <$> a) := by
  cases a with
  | valid v => exact valid _
  | invalid issues => exact ha

/-- The issues of both parts count. -/
theorem seq {f : Checked (α → β)} (hf : Explained x f) (ha : Explained x a) :
    Explained x (f <*> a) := by
  cases f with
  | valid g =>
    cases a with
    | valid v => exact valid _
    | invalid issues => exact ha
  | invalid before =>
    cases a with
    | valid v => exact hf
    | invalid after =>
      refine ⟨List.append_ne_nil_of_left_ne_nil hf.1 after, fun i hi => ?_⟩
      exact (List.mem_append.mp hi).elim (hf.2 i) (ha.2 i)

/-- The second check is about the same value, and only made if the first found nothing. -/
theorem andThen {f : α → Checked β} (ha : Explained x a) (hf : ∀ v, Explained x (f v)) :
    Explained x (a.andThen f) := by
  cases a with
  | valid v => exact hf v
  | invalid issues => exact ha

/-- The issues of a part are issues of the whole, one step further in. -/
theorem under {step : Step} (ha : Explained y a)
    (hstep : ∀ path p, Concerns y ⟨path, p⟩ → Concerns x ⟨step :: path, p⟩) :
    Explained x (a.under step) := by
  cases a with
  | valid v => exact valid v
  | invalid issues =>
    refine ⟨by simpa using ha.1, fun i hi => ?_⟩
    obtain ⟨j, hj, rfl⟩ := List.mem_map.mp hi
    exact hstep _ _ (ha.2 j hj)

theorem field {name : String} (hy : Fields.get? (Text.ofString name) fields = some y)
    (ha : Explained y a) : Explained (.object fields) (a.field name) :=
  ha.under fun _ _ h => .field hy h

/-- A field that is missing is told by its name; it is the one issue about something that is not
there. -/
theorem required {name : String} {check : Json → Checked α} (h : ∀ y, Explained y (check y)) :
    Explained (.object fields) (required name check fields) := by
  unfold Schema.required
  split
  · next hnone => exact ⟨List.cons_ne_nil _ _, List.forall_mem_singleton.mpr (.lacks hnone)⟩
  · next y hy => exact field hy (h y)

theorem optional {name : String} {absent : α} {check : Json → Checked α}
    (h : ∀ y, Explained y (check y)) :
    Explained (.object fields) (optional name absent check fields) := by
  unfold Schema.optional
  split
  · exact valid absent
  · next y hy => exact field hy (h y)

/-- Every issue is about a field that the object has and the model does not. -/
theorem noOthers (names : List String) (fields : Fields Text Json) :
    Explained (.object fields) (noOthers names fields) := by
  unfold Schema.noOthers
  split
  · exact valid ()
  · next hne =>
    refine ⟨fun hnil => hne (List.map_eq_nil_iff.mp hnil), List.forall_mem_map.mpr fun f hf => ?_⟩
    obtain ⟨y, hy⟩ := Fields.exists_get? (List.mem_filter.mp hf).1
    exact .field hy (.here nofun)

/-- An object is checked field by field, and then for other fields; anything else is no object. -/
theorem model {source : Source} {title : String} {names : List String}
    {check : Fields Text Json → Checked α}
    (h : ∀ fields, Explained (.object fields) (check fields)) (x : Json) :
    Explained x (model source title names check x) := by
  cases x with
  | object fields => exact (h fields).map.seq (noOthers names fields)
  | _ => exact problem nofun

/-- The issues of all elements are told, and each is one of theirs. -/
theorem all {as : List (Checked α)} (h : ∀ a ∈ as, Explained x a) : Explained x (.all as) := by
  induction as with
  | nil => exact valid []
  | cons a as ih =>
    have ih := ih fun b hb => h b (List.mem_cons_of_mem a hb)
    exact ((h a List.mem_cons_self).map (f := List.cons)).seq ih

theorem elements {check : Json → Checked α} (h : ∀ y, Explained y (check y)) (xs : List Json) :
    ∀ a ∈ elements check xs, Explained (.array xs) a := by
  intro a ha
  obtain ⟨⟨y, i⟩, hy, rfl⟩ := List.mem_map.mp ha
  exact (h y).under fun _ _ hc => .position (List.mem_zipIdx_iff_getElem?.mp hy) hc

/-- The elements are checked under their positions. -/
theorem list {source : Source} {check : Json → Checked α} (h : ∀ y, Explained y (check y))
    (x : Json) : Explained x (list source check x) := by
  cases x with
  | array xs => exact all (elements h xs)
  | _ => exact problem nofun

/-- That no element is valid is told of the list itself, beside what is wrong with its elements. -/
theorem nonemptyList {source : Source} {check : Json → Checked α}
    (h : ∀ y, Explained y (check y)) (x : Json) : Explained x (nonemptyList source check x) := by
  cases x with
  | array xs =>
    have hall := all (elements h xs)
    unfold Schema.nonemptyList
    dsimp only
    split
    · exact hall
    · exact hall.map.seq (problem nofun)
  | _ => exact problem nofun

theorem nullable {check : Json → Checked α} (h : ∀ y, Explained y (check y)) (x : Json) :
    Explained x (nullable check x) := by
  cases x with
  | null => exact valid none
  | _ => exact (h _).map

theorem oneOf {p : Problem} (hp : p ≠ .missing) (meaning? : String → Option α) (x : Json) :
    Explained x (oneOf p meaning? x) := by
  unfold Schema.oneOf
  split
  · split
    · exact valid _
    · exact problem hp
  · exact problem hp

theorem text (x : Json) : Explained x (text x) := by
  unfold Schema.text
  split
  · exact valid _
  · exact problem nofun

theorem nonemptyText (x : Json) (t : Text) : Explained x (nonemptyText t) := by
  unfold Schema.nonemptyText
  split
  · exact problem nofun
  · split
    · exact problem nofun
    · exact valid t

theorem nonempty (x : Json) : Explained x (nonempty x) := (text x).andThen (nonemptyText x)

/-- Whatever keeps a float from standing for an integer is told of the float itself. -/
theorem wholeFloat (x : Json) (b : Binary64) : Explained x (wholeFloat b) := by
  unfold Schema.wholeFloat
  split
  · exact problem nofun
  · exact problem nofun
  · split
    · exact problem nofun
    · split
      · exact valid _
      · exact problem nofun

/-- Integers are also taken from truth values, floats and texts, each with issues of its own. -/
theorem integer (x : Json) : Explained x (integer x) := by
  unfold Schema.integer
  split
  · exact valid _
  · exact valid _
  · exact wholeFloat _ _
  · split
    · exact problem nofun
    · unfold integerOfText
      split
      · exact problem nofun
      · split
        · exact valid _
        · exact problem nofun
  · exact problem nofun

theorem natural (x : Json) : Explained x (natural x) := by
  refine (integer x).andThen fun n => ?_
  split
  · exact problem nofun
  · exact valid _

theorem truth (x : Json) (n : Int) : Explained x (truth n) := by
  unfold Schema.truth
  split
  · exact valid _
  · split
    · exact valid _
    · exact problem nofun

theorem boolean (x : Json) : Explained x (boolean x) := by
  unfold Schema.boolean
  split
  · exact valid _
  · split
    · exact truth _ _
    · exact problem nofun
  · split
    · exact truth _ _
    · exact problem nofun
  · split
    · exact valid _
    · exact problem nofun
  · exact problem nofun

end Explained

end Schema

open Schema (Checked Concerns Explained Report Source)

variable {source : Source}

/-! ### The models and their parts -/

theorem explained_kind (x : Json) : Explained x (ItemKind.check x) :=
  .oneOf (by nofun) ItemKind.ofTag? x

/-- Issues inside a reference are told under its tag, which is the text of one of its fields. -/
theorem explained_checkFields {x : Json} {fields : Fields Text Json} {space : String}
    (make : Nat → ParentRef) (hx : Fields.get? (Text.ofString "space") fields = some x)
    (hspace : ParentRef.shownTag x = space) :
    Explained (.object fields) (ParentRef.checkFields space make fields) := by
  subst hspace
  refine Explained.under ?_ fun _ _ h => .tag hx h
  exact (Explained.required .natural).map.map.seq (.noOthers ["space", "index"] fields)

/-- A reference is refused for its tag, or for its index under the tag. -/
theorem explained_parent (x : Json) : Explained x (ParentRef.check source x) := by
  cases x with
  | object fields =>
    unfold ParentRef.check
    dsimp only
    split
    · exact .problem nofun
    · next x hx =>
      split
      · next hshown => exact explained_checkFields .own hx hshown
      · next hshown => exact explained_checkFields .foreign hx hshown
      · exact .problem nofun
  | _ => exact .problem nofun

theorem explained_pathEntry (x : Json) : Explained x (PathEntry.check source x) :=
  .model (fun _ => (Explained.required explained_kind).map.seq (.required .text)) x

theorem explained_item (x : Json) : Explained x (Item.check source x) :=
  .model (fun _ => ((((Explained.required explained_kind).map.seq (.required .nonempty)).seq
    (.required .nonempty)).seq (.optional (.nullable .text))).seq
      (.optional (.nullable explained_parent))) x

/-- The last check of an index is about its references and is told of the index itself. -/
theorem explained_index (x : Json) : Explained x (Index.check source x) := by
  refine .andThen (.model (fun _ => ((Explained.required .nonempty).map.seq
    (.optional (.list explained_item))).seq (.optional (.list explained_pathEntry))) x) fun index => ?_
  unfold Index.ensure
  split
  · exact .valid index
  · exact .problem nofun

theorem explained_crate (x : Json) : Explained x (Crate.check source x) :=
  .model (fun _ => (((Explained.required .nonempty).map.seq (.optional (.nullable .text))).seq
    (.optional .text)).seq (.required explained_index)) x

theorem explained_owner (x : Json) : Explained x (Owner.check source x) :=
  .model (fun _ => (((Explained.required explained_kind).map.seq (.required .text)).seq
    (.required .text)).seq (.optional (.nullable .integer))) x

theorem explained_linkTarget (x : Json) : Explained x (LinkTarget.check x) :=
  .oneOf (by nofun) LinkTarget.ofName? x

theorem explained_linkResponse (x : Json) : Explained x (LinkResponse.check source x) :=
  .model (fun _ => (((Explained.required .text).map.seq (.required explained_linkTarget)).seq
    (.optional (.nullable explained_kind))).seq (.required .text)) x

theorem explained_errorResponse (x : Json) : Explained x (ErrorResponse.check source x) :=
  .model (fun _ => ((Explained.required .text).map.seq (.optional (.nullable .text))).seq
    (.optional (.nullable .text))) x

theorem explained_segment (x : Json) : Explained x (Segment.check source x) :=
  .model (fun _ => (Explained.required .nonempty).map.seq (.optional .boolean)) x

theorem explained_simplePath (x : Json) : Explained x (SimplePath.check source x) := by
  refine .model (fun _ => .required fun y => (Explained.nonemptyList explained_segment y).andThen
    fun segments => ?_) x
  cases segments with
  | nil => exact .problem nofun
  | cons first more => exact .valid _

theorem explained_hosting (x : Json) : Explained x (Hosting.check x) :=
  .oneOf (by nofun) Hosting.ofName? x

/-- The models that data is validated as. -/
inductive Model
  | crate
  | crateIdentity
  | errorResponse
  | index
  | item
  | linkResponse
  | owner
  | pathEntry
  | simplePath

namespace Model

def title : Model → String
  | crate => "Crate"
  | crateIdentity => "CrateIdentity"
  | errorResponse => "ErrorResponse"
  | index => "Index"
  | item => "Item"
  | linkResponse => "LinkResponse"
  | owner => "Owner"
  | pathEntry => "PathEntry"
  | simplePath => "SimplePath"

def Value : Model → Type
  | crate => Crate
  | crateIdentity => CrateIdentity
  | errorResponse => ErrorResponse
  | index => Index
  | item => Item
  | linkResponse => LinkResponse
  | owner => Owner
  | pathEntry => PathEntry
  | simplePath => SimplePath

/-- A value, or the report on the data. -/
def reported {α : Type} (m : Model) (a : Checked α) : Except IdentityFault α :=
  (a.toExcept m.title).mapError .invalid

/-- Only an identity has faults of its own. -/
def validate (m : Model) (source : Source) (x : Json) : Except IdentityFault m.Value :=
  match m with
  | crate => crate.reported (Crate.check source x)
  | crateIdentity => CrateIdentity.check source x
  | errorResponse => errorResponse.reported (ErrorResponse.check source x)
  | index => index.reported (Index.check source x)
  | item => item.reported (Item.check source x)
  | linkResponse => linkResponse.reported (LinkResponse.check source x)
  | owner => owner.reported (Owner.check source x)
  | pathEntry => pathEntry.reported (PathEntry.check source x)
  | simplePath => simplePath.reported (SimplePath.check source x)

/-- The fields hold a text as version that is none. -/
def HasMalformedVersion (x : Json) : Prop :=
  ∃ fields t, x = .object fields ∧ Fields.get? (Text.ofString "version") fields = some (.text t) ∧
    ∀ s v, t.toString? = some s → Version.parse s ≠ .ok v

/-- The fields hold a version that is neither a text nor null. -/
def HasOtherVersion (x : Json) : Prop :=
  ∃ fields y, x = .object fields ∧ Fields.get? (Text.ofString "version") fields = some y ∧
    y ≠ .null ∧ ∀ t, y ≠ .text t

/-- How validation may end: with a value, with a report of issues with the data, or, where the
version of an identity is malformed, with that. -/
def Promised {α : Type} (m : Model) (x : Json) : Except IdentityFault α → Prop
  | .ok _ => True
  | .error (.invalid report) =>
    report.title = m.title ∧ report.issues ≠ [] ∧ ∀ i ∈ report.issues, Concerns x i
  | .error (.version _) => m = crateIdentity ∧ HasMalformedVersion x
  | .error (.versionType _) => False

variable {m : Model} {x : Json} {α : Type}

/-- A model without a reader of its own keeps the promise with its report. -/
theorem promised_reported {a : Checked α} (h : Explained x a) : m.Promised x (m.reported a) := by
  cases a with
  | valid v => trivial
  | invalid issues => exact ⟨rfl, h⟩

/-- The check for a channel comes after the fields and is told of the identity itself. -/
theorem explained_identity (fields : Fields Text Json) (version : Version) :
    Explained (.object fields) ((Schema.model source "CrateIdentity" ["name", "version", "hosting"]
      (fun fields => (fun name hosting => CrateIdentity.mk name version hosting)
        <$> Schema.required "name" Schema.nonempty fields
        <*> Schema.optional "hosting" .registry Hosting.check fields) (.object fields)).andThen
          CrateIdentity.ensure) := by
  refine .andThen (.model (fun _ => (Explained.required .nonempty).map.seq
    (.optional explained_hosting)) _) fun id => ?_
  unfold CrateIdentity.ensure
  split
  · exact .valid id
  · exact .problem nofun

theorem hasOtherVersion_object {fields : Fields Text Json} : HasOtherVersion (.object fields) ↔
    ∃ y, Fields.get? (Text.ofString "version") fields = some y ∧ y ≠ .null ∧ ∀ t, y ≠ .text t := by
  constructor
  · rintro ⟨_, y, ⟨⟩, h⟩
    exact ⟨y, h⟩
  · rintro ⟨y, h⟩
    exact ⟨fields, y, rfl, h⟩

/-- What a version is read to: one or none, where it is a text or null, and else a fault. -/
theorem readVersion_cases (fields : Fields Text Json) :
    (∃ v, CrateIdentity.readVersion fields = .ok v ∧ ¬ HasOtherVersion (.object fields)) ∨
    (∃ e, CrateIdentity.readVersion fields = .error (.version e) ∧
      HasMalformedVersion (.object fields) ∧ ¬ HasOtherVersion (.object fields)) ∨
    ∃ name, CrateIdentity.readVersion fields = .error (.versionType name) ∧
      HasOtherVersion (.object fields) := by
  rw [hasOtherVersion_object, CrateIdentity.readVersion]
  cases hy : Fields.get? (Text.ofString "version") fields with
  | none => exact .inl ⟨.latest, rfl, by simp⟩
  | some y =>
    cases y with
    | null => exact .inl ⟨.latest, rfl, by simp⟩
    | text t =>
      cases ht : Version.parseText t with
      | ok v => exact .inl ⟨v, by simp only [ht, Except.mapError], by simp⟩
      | error e =>
        refine .inr (.inl ⟨e, by simp only [ht, Except.mapError], ⟨fields, t, rfl, hy, ?_⟩, by simp⟩)
        rintro s v hs hv
        cases ht.symm.trans (Version.parseText_eq_ok.mpr ⟨s, hs, hv⟩)
    | _ => exact .inr (.inr ⟨_, rfl, _, rfl, nofun, nofun⟩)

/-- The version of an identity is read before all else. -/
theorem promised_identity_iff (source : Source) (x : Json) :
    crateIdentity.Promised x (CrateIdentity.check source x) ↔ ¬ HasOtherVersion x := by
  cases x with
  | object fields =>
    rw [CrateIdentity.check]
    rcases readVersion_cases fields with ⟨v, hv, hother⟩ | ⟨e, he, hmalformed, hother⟩ |
      ⟨name, hname, hother⟩
    · rw [hv]
      exact iff_of_true (promised_reported (explained_identity fields v)) hother
    · rw [he]
      exact iff_of_true ⟨rfl, hmalformed⟩ hother
    · rw [hname]
      exact iff_of_false id (not_not_intro hother)
  | _ =>
    refine iff_of_true (promised_reported (.problem nofun)) ?_
    rintro ⟨_, _, ⟨⟩, _⟩

/-- Whatever the data is, validation ends as promised, unless it is to be an identity and has a
version that is neither a text nor null. -/
theorem promised_iff (m : Model) (source : Source) (x : Json) :
    m.Promised x (m.validate source x) ↔ ¬ (m = crateIdentity ∧ HasOtherVersion x) := by
  cases m with
  | crateIdentity => exact (promised_identity_iff source x).trans (by simp)
  | crate => exact iff_of_true (promised_reported (explained_crate x)) nofun
  | errorResponse => exact iff_of_true (promised_reported (explained_errorResponse x)) nofun
  | index => exact iff_of_true (promised_reported (explained_index x)) nofun
  | item => exact iff_of_true (promised_reported (explained_item x)) nofun
  | linkResponse => exact iff_of_true (promised_reported (explained_linkResponse x)) nofun
  | owner => exact iff_of_true (promised_reported (explained_owner x)) nofun
  | pathEntry => exact iff_of_true (promised_reported (explained_pathEntry x)) nofun
  | simplePath => exact iff_of_true (promised_reported (explained_simplePath x)) nofun

/-- A version may be given as a number, and the attempt to strip it of white space fails. -/
theorem not_promised_numberVersion :
    let x : Json := jsonObject [("name", .text "a"), ("version", .int 1)]
    crateIdentity.validate .values x = .error (.versionType "int") ∧
      ¬ crateIdentity.Promised x (crateIdentity.validate .values x) :=
  ⟨rfl, id⟩

end Model

end RustdocIndex
