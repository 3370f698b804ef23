import RustdocIndex.Payload.Decode
import RustdocIndex.Proofs.Document.Part
import RustdocIndex.Proofs.Fields
import RustdocIndex.Proofs.Result

/-! The messages about a crate show parts of its data and nothing else, and what is refused is
refused in the name of the generation that reads. -/
namespace RustdocIndex

open Document (Part)

namespace Payload

variable {α : Type} [Document α] {data x : α} {xs : List α} {g : Generation}

/-- A problem whose message shows a part of the data, if it shows anything. -/
def ShowsPart (data : α) (shown? : Option Tree) : Prop :=
  ∀ shown ∈ shown?, ∃ x, Part data x ∧ Document.picture x = shown

theorem ShowsPart.none : ShowsPart data none := by
  intro _ h
  cases h

theorem ShowsPart.some (h : Part data x) : ShowsPart data (some (Document.picture x)) := by
  intro _ ht
  cases ht
  exact ⟨x, h, rfl⟩

/-- What shows a part of a part shows a part of the whole. -/
theorem ShowsPart.mono {shown? : Option Tree} (hx : Part data x) (h : ShowsPart x shown?) :
    ShowsPart data shown? := by
  intro t ht
  obtain ⟨y, hy, rfl⟩ := h t ht
  exact ⟨y, hx.trans hy, rfl⟩

/-- An error of the generation that reads, whose message shows a part of the data, if anything. -/
structure IsOf (g : Generation) (data : α) (e : CrateError) : Prop where
  generation : e.generation = g
  shows : ShowsPart data e.problem.shown?

/-- A problem that shows nothing is told as the generation's own. -/
theorem IsOf.none {p : CrateProblem} (h : p.shown? = none) : IsOf g data ⟨g, p⟩ :=
  ⟨rfl, h ▸ .none⟩

theorem IsOf.mono {e : CrateError} (hx : Part data x) (h : IsOf g x e) : IsOf g data e :=
  ⟨h.generation, h.shows.mono hx⟩

abbrev FailsShowing {β : Type} (g : Generation) (data : α) (r : Except CrateError β) : Prop :=
  FailsOnly (IsOf g data) r

abbrev ItemFailsShowing {β : Type} (data : α) (r : Except ItemProblem β) : Prop :=
  FailsOnly (fun p => ShowsPart data p.shown?) r

theorem fieldsOf_failsShowing (g : Generation) (data : α) :
    FailsShowing g data (fieldsOf g data) := by
  unfold fieldsOf
  split
  · exact .ok _
  · exact .error (.none rfl)

/-- A missing field is told by its name, and nothing is shown. -/
theorem field_failsShowing (g : Generation) (data : α) (key : String) :
    FailsShowing g data (field g data key) := by
  refine (fieldsOf_failsShowing g data).bind fun fields _ => ?_
  split
  · exact .ok _
  · exact .error (.none rfl)

theorem field_eq_ok {key : String} : field g data key = .ok x ↔
    ∃ fields, Document.shape data = .object fields ∧
      Fields.get? (Text.ofString key) fields = some x := by
  constructor
  · intro h
    obtain ⟨fields, hf, h⟩ := bind_eq_ok.mp h
    unfold fieldsOf at hf
    split at hf
    · next hs =>
      cases hf
      split at h
      · next hx =>
        cases h
        exact ⟨fields, hs, hx⟩
      · cases h
    · cases hf
  · rintro ⟨fields, hs, hx⟩
    simp only [field, fieldsOf, hs, bind, Except.bind, hx]
    rfl

theorem part_of_field {key : String} (h : field g data key = .ok x) : Part data x := by
  obtain ⟨fields, hs, hx⟩ := field_eq_ok.mp h
  exact .field hs (Fields.mem_of_get? hx) (.refl x)

theorem listField_failsShowing (g : Generation) (data : α) (key : String) :
    FailsShowing g data (listField g data key) := by
  refine (field_failsShowing g data key).bind fun x _ => ?_
  split
  · exact .ok _
  · exact .error (.none rfl)

theorem listField_eq_ok {key : String} : listField g data key = .ok xs ↔
    ∃ x, field g data key = .ok x ∧ Document.shape x = .array xs := by
  constructor
  · intro h
    obtain ⟨x, hx, h⟩ := bind_eq_ok.mp h
    split at h
    · next hs =>
      cases h
      exact ⟨x, hx, hs⟩
    · cases h
  · rintro ⟨x, hx, hs⟩
    simp only [listField, hx, bind, Except.bind, hs]
    rfl

/-- The elements of a field are parts of the data, which their messages may show. -/
theorem part_of_listField {key : String} (h : listField g data key = .ok xs) (hx : x ∈ xs) :
    Part data x := by
  obtain ⟨y, hy, hs⟩ := listField_eq_ok.mp h
  exact (part_of_field hy).trans (.of_element hs hx)

theorem docField_failsShowing (g : Generation) (data : α) :
    FailsShowing g data (docField g data) := by
  unfold docField
  split
  · exact .ok _
  · exact .ok _
  · split
    · exact .ok _
    · exact .error (.none rfl)

theorem itemName_failsShowing (x : α) : ItemFailsShowing x (itemName x) := by
  unfold itemName
  split
  · exact .ok _
  · exact .error (.some (.refl x))

theorem ofCode_failsShowing (x : α) :
    ItemFailsShowing x ((ItemKind.ofCode x).mapError ItemProblem.invalidCode) := by
  apply FailsOnly.mapError
  unfold ItemKind.ofCode
  split
  · unfold ItemKind.ofInt
    split
    · exact .ok _
    · exact .error .none
  · exact .error (.some (.refl x))

/-- Problems of the items of a list are problems of the whole. -/
theorem items_failsShowing {β : Type} {f : α → Except ItemProblem β}
    (hf : ∀ x ∈ xs, ItemFailsShowing x (f x)) (hx : ∀ x ∈ xs, Part data x) :
    FailsShowing g data
      (xs.zipIdx.mapM fun (x, position) => (f x).mapError (CrateError.item g position)) := by
  apply FailsOnly.mapM
  rintro ⟨x, position⟩ hm
  have hm := List.fst_mem_of_mem_zipIdx hm
  apply FailsOnly.mapError
  exact fun p hp => ⟨rfl, .mono (hx x hm) (hf x hm p hp)⟩

/-- An entry of the paths table is shown with its position, or its code is. -/
theorem pathEntries_failsShowing (g : Generation) (hx : ∀ x ∈ xs, Part data x) :
    FailsShowing g data (pathEntries g xs) := by
  apply FailsOnly.mapM
  rintro ⟨x, position⟩ hm
  have hx := hx x (List.fst_mem_of_mem_zipIdx hm)
  simp only [pathEntry]
  split
  · next code name more hs =>
    split
    · split
      · exact .ok _
      · next p hp =>
        refine .error ⟨rfl, ?_⟩
        have hc : Part data code := hx.trans (.of_element hs (by simp))
        have hp := ofCode_failsShowing code (.invalidCode p) (by rw [hp]; rfl)
        cases p with
        | notInteger shown => exact .mono hc hp
        | unknown n => exact .none
    · exact .error ⟨rfl, .some hx⟩
  · exact .error ⟨rfl, .some hx⟩

/-- Each cell that may be left out is shown by its own problem. -/
theorem optional_failsShowing {β γ : Type} {row : α} {more : List α} {i : Nat}
    {read : Option α → Option β} {problem : Tree → ItemProblem} {f : β → Except ItemProblem γ}
    (hread : (read none).isSome) (hproblem : ∀ t, (problem t).shown? = some t)
    (hmore : ∀ x ∈ more, Part row x) (hf : ∀ b, ItemFailsShowing row (f b)) :
    ItemFailsShowing row
      ((read more[i]?).elim (.error (problem (shownIn more[i]?))) pure >>= f) := by
  refine FailsOnly.bind ?_ fun b _ => hf b
  cases hr : read more[i]? with
  | some b => exact .ok _
  | none =>
    refine .error ?_
    cases hm : more[i]? with
    | none => simp [hm ▸ hr] at hread
    | some x =>
      rw [hproblem]
      exact .some (hmore x (List.mem_of_getElem? hm))

/-- Of a row, the cell that is wrong is shown, or the whole row if it is none. -/
theorem rowEntry_failsShowing (row : α) : ItemFailsShowing row (rowEntry row) := by
  unfold rowEntry
  split
  · next code name more hs =>
    have hpart : ∀ x ∈ code :: name :: more, Part row x := fun x hx => .of_element hs hx
    have hmore : ∀ x ∈ more, Part row x := fun x hx => hpart x (by simp [hx])
    refine FailsOnly.bind ?_ fun _ _ => ?_
    · exact fun p hp => .mono (hpart name (by simp)) (itemName_failsShowing name p hp)
    refine optional_failsShowing rfl (fun _ => rfl) hmore fun _ => ?_
    refine optional_failsShowing rfl (fun _ => rfl) hmore fun _ => ?_
    refine optional_failsShowing rfl (fun _ => rfl) hmore fun _ => ?_
    refine FailsOnly.bind ?_ fun _ _ => .ok _
    exact fun p hp => .mono (hpart code (by simp)) (ofCode_failsShowing code p hp)
  · exact .error (.some (.refl row))

theorem rowsOf_failsShowing (g : Generation) (data : α) (entries : List Entry) :
    FailsShowing g data (rowsOf g entries) := by
  refine FailsOnly.bind ?_ fun _ _ => .ok _
  unfold modulePaths
  split
  · exact .error (.none rfl)
  · exact .ok _

/-- A crate in rows fails in the name of the generation that reads it, with messages that show parts
of it. -/
theorem rowDraft_failsShowing (g : Generation) (name : Text) (data : α) :
    FailsShowing g data (rowDraft g name data) := by
  refine (listField_failsShowing g data "i").bind fun items hi => ?_
  refine (listField_failsShowing g data "p").bind fun entries he => ?_
  refine (docField_failsShowing g data).bind fun doc _ => ?_
  refine FailsOnly.bind ?_ fun found _ => ?_
  · exact items_failsShowing (fun x _ => rowEntry_failsShowing x) fun x hx => part_of_listField hi hx
  refine (rowsOf_failsShowing g data found).bind fun rows _ => ?_
  refine FailsOnly.bind ?_ fun paths _ => .ok _
  exact pathEntries_failsShowing g fun x hx => part_of_listField he hx

theorem jsonRowDraft_failsShowing (name : Text) (data : Json) :
    FailsShowing .v2 data (jsonRowDraft name data) := by
  unfold jsonRowDraft
  split
  · exact rowDraft_failsShowing .v2 name data
  · exact .error (.none rfl)

theorem kindColumn_failsShowing (data : α) : FailsShowing .v3 data (kindColumn data) := by
  refine (field_failsShowing .v3 data "t").bind fun x hx => ?_
  split
  · apply FailsOnly.mapM
    rintro ⟨c, position⟩ -
    apply FailsOnly.mapError
    unfold letterKind
    split
    · apply FailsOnly.mapError
      unfold ItemKind.ofInt
      split
      · exact .ok _
      · exact .error (.none rfl)
    · exact .error (.none rfl)
  · next xs hs =>
    have hxs : ∀ y ∈ xs, Part data y := fun y hy => (part_of_field hx).trans (.of_element hs hy)
    apply FailsOnly.mapM
    rintro ⟨y, position⟩ hm
    have hm := List.fst_mem_of_mem_zipIdx hm
    intro p hp
    obtain ⟨q, hq, rfl⟩ := mapError_eq_error.mp hp
    exact ⟨rfl, .mono (hxs y hm) (ofCode_failsShowing y (.invalidCode q) (by rw [hq]; rfl))⟩
  · exact .error (.none rfl)

theorem checkLength_failsShowing {β : Type} (data : α) (key : String) (items : Nat)
    (column : List β) : FailsShowing .v3 data (checkLength key items column) := by
  unfold checkLength
  split
  · exact .ok _
  · exact .error (.none rfl)

/-- A pair that is none is shown; one out of range is told by its numbers. -/
theorem spread_failsShowing {items : Nat} (hx : ∀ x ∈ xs, Part data x)
    (column : List (Option Text)) : FailsShowing .v3 data (spread items column xs) := by
  induction xs generalizing column with
  | nil => exact .ok _
  | cons x xs ih =>
    have hp : Part data x := hx x (by simp)
    refine FailsOnly.bind ?_ fun pair _ => ?_
    · unfold pathPair
      split
      · split
        · exact .ok _
        · exact .error ⟨rfl, .some hp⟩
      · exact .error ⟨rfl, .some hp⟩
    · obtain ⟨n, path⟩ := pair
      simp only
      split
      · exact ih (fun y hy => hx y (List.mem_cons_of_mem _ hy)) _
      · exact .error (.none rfl)

theorem pathColumn_failsShowing {items : Nat} (hx : ∀ x ∈ xs, Part data x) :
    FailsShowing .v3 data (pathColumn items xs) := by
  unfold pathColumn
  split
  · exact (checkLength_failsShowing data _ _ _).bind fun _ _ => .ok _
  · exact spread_failsShowing hx _

theorem descriptionColumn_failsShowing (data : α) (items : Nat) (column : Option α) :
    FailsShowing .v3 data (descriptionColumn items column) := by
  unfold descriptionColumn
  split
  · exact .ok _
  · exact .ok _
  · split
    · exact (checkLength_failsShowing data _ _ _).bind fun _ _ => .ok _
    · exact .error (.none rfl)
  · exact .error (.none rfl)

theorem parentColumn_failsShowing {items : Nat} (hx : ∀ x ∈ xs, Part data x) :
    FailsShowing .v3 data (parentColumn items xs) := by
  refine FailsOnly.bind ?_ fun parents _ => (checkLength_failsShowing data _ _ _).bind fun _ _ => .ok _
  refine items_failsShowing (fun x _ => ?_) hx
  unfold parentEntry
  split
  · split
    · exact .error (.some (.refl x))
    · exact .ok _
  · exact .error (.some (.refl x))

/-- A crate in columns fails in the name of their generation, with messages that show parts of it. -/
theorem columnDraft_failsShowing (name : Text) (data : α) :
    FailsShowing .v3 data (columnDraft name data) := by
  refine (kindColumn_failsShowing data).bind fun kinds _ => ?_
  refine (listField_failsShowing .v3 data "n").bind fun names hn => ?_
  refine (checkLength_failsShowing data _ _ _).bind fun _ _ => ?_
  refine FailsOnly.bind ?_ fun _ _ => ?_
  · exact items_failsShowing (fun x _ => itemName_failsShowing x) fun x hx => part_of_listField hn hx
  refine (listField_failsShowing .v3 data "q").bind fun given hg => ?_
  refine (pathColumn_failsShowing fun x hx => part_of_listField hg hx).bind fun _ _ => ?_
  refine (descriptionColumn_failsShowing data _ _).bind fun _ _ => ?_
  refine (listField_failsShowing .v3 data "i").bind fun parents hp => ?_
  refine (parentColumn_failsShowing fun x hx => part_of_listField hp hx).bind fun _ _ => ?_
  refine (listField_failsShowing .v3 data "p").bind fun entries he => ?_
  refine (pathEntries_failsShowing .v3 fun x hx => part_of_listField he hx).bind fun _ _ => ?_
  refine (docField_failsShowing .v3 data).bind fun _ _ => ?_
  exact (rowsOf_failsShowing .v3 data _).bind fun _ _ => .ok _

/-- Building shows no data at all, and fails in the name of the generation that the draft is of. -/
theorem build_shown? (g : Generation) (version : Option Text) (d : Draft) :
    FailsOnly (fun e => e.generation = g ∧ e.problem.shown? = none) (d.build g version) := by
  have report {β : Type} (title : String) (c : Schema.Checked β) :
      FailsOnly (fun e => e.generation = g ∧ e.problem.shown? = none)
        ((c.toExcept title).mapError (CrateError.invalid g)) :=
    FailsOnly.mapError fun _ _ => ⟨rfl, rfl⟩
  refine FailsOnly.bind ?_ fun _ _ => (report _ _).bind fun _ _ => report _ _
  apply FailsOnly.mapM
  rintro ⟨row, position⟩ -
  refine FailsOnly.bind ?_ fun _ _ => report _ _
  unfold rowParent
  split
  · exact .ok _
  · split
    · exact .ok _
    · exact .error ⟨rfl, rfl⟩

theorem build_failsShowing (g : Generation) (data : α) (version : Option Text) (d : Draft) :
    FailsShowing g data (d.build g version) := by
  intro e he
  obtain ⟨hg, hshown⟩ := build_shown? g version d e he
  exact ⟨hg, hshown ▸ .none⟩

/-- What holds of the errors of a draft holds of those of the crate that is built from it. -/
theorem FailsShowing.build {made : Except CrateError Draft} (h : FailsShowing g data made)
    (version : Option Text) : FailsShowing g data (made.bind (·.build g version)) :=
  FailsOnly.bind h fun d _ => build_failsShowing g data version d

end Payload

end RustdocIndex
