import RustdocIndex.Proofs.Json.Depth
import RustdocIndex.Proofs.Payload.Dispatch

/-! The two generations that are decoded from a JSON document. -/
namespace RustdocIndex

open Document (Part)

namespace Payload

variable {α : Type} [Document α] {version : Option Text} {s : List Char} {x : Json}
  {g : Generation} {draft : Text → α → Except CrateError Draft} {entries : List (Text × α)}

theorem document_eq_ok : document g s = .ok x ↔ ∃ body text,
    findOpening? s = some body ∧ unquote? [] body = some text ∧ Json.parse text = .ok x := by
  unfold document
  constructor
  · intro h
    split at h
    · cases h
    · next body hb =>
      split at h
      · cases h
      · next text ht =>
        split at h <;> cases h
        next hp => exact ⟨body, text, hb, ht, hp⟩
  · rintro ⟨body, text, hb, ht, hp⟩
    simp only [hb, ht, hp]

/-- A stop that leaves the text to the other generations. -/
def Stop.IsRefusal (stop : Stop) : Prop := ∃ r, stop = .refused r

theorem refuses_iff : Refuses version s g ↔ ∃ stop : Stop,
    crates g version s = .error stop ∧ stop.IsRefusal := by
  constructor
  · rintro ⟨r, h⟩
    exact ⟨_, h, r, rfl⟩
  · rintro ⟨_, h, r, rfl⟩
    exact ⟨r, h⟩

theorem document_fails (g : Generation) (s : List Char) :
    FailsOnly (fun stop => stop.IsRefusal ∨ ∃ digits, stop = .integerTooLong digits)
      (document g s) := by
  refine (document_refuses g s).imp fun stop h => ?_
  cases h with
  | missing | unclosed | invalid | tooDeep => exact .inl ⟨_, rfl⟩
  | tooLong => exact .inr ⟨_, rfl⟩

theorem crateEntry?_eq_some {e : Text × α} {x : α} (h : crateEntry? x = some e) :
    Part x e.2 := by
  unfold crateEntry? at h
  split at h
  · next hs =>
    split at h <;> cases h
    exact .of_element hs (by simp)
  · cases h

/-- The data of every crate is a part of the document. -/
theorem part_of_crateEntries {x : α} (h : crateEntries g x = .ok entries) :
    ∀ e ∈ entries, Part x e.2 := by
  simp only [crateEntries] at h
  split at h
  · cases h
  · cases h
  · next hf =>
    cases h
    rintro e he
    split at hf
    · next hs =>
      cases hf
      exact .field hs he (.refl _)
    · next xs hs =>
      obtain ⟨y, hy, hfy⟩ := exists_of_forall₂ (mapM_eq_some.mp hf) he
      exact (Part.of_element hs hy).trans (crateEntry?_eq_some hfy)
    · cases hf

theorem crateEntries_fails (g : Generation) (x : α) :
    FailsOnly Stop.IsRefusal (crateEntries g x) := by
  simp only [crateEntries]
  split
  · exact .error ⟨_, rfl⟩
  · exact .error ⟨_, rfl⟩
  · exact .ok _

theorem ShowsPart.not_isTooDeep {data : α} {p : CrateProblem} (hp : ShowsPart data p.shown?)
    (hd : ∀ x, Part data x → (Document.picture x).depth ≤ Tree.maxShownDepth) :
    p.isTooDeepToShow = false := by
  cases hs : p.shown? with
  | none => simp [CrateProblem.isTooDeepToShow, hs]
  | some shown =>
    obtain ⟨x, hx, rfl⟩ := hp shown hs
    simpa [CrateProblem.isTooDeepToShow, hs, Tree.isTooDeep] using hd x hx

/-- Crates without deep parts are built or refused. -/
theorem buildAll_fails
    (hdraft : ∀ e ∈ entries, FailsShowing g e.2 (draft e.1 e.2))
    (hd : ∀ e ∈ entries, ∀ x, Part e.2 x → (Document.picture x).depth ≤ Tree.maxShownDepth) :
    FailsOnly Stop.IsRefusal (buildAll g draft version entries) := by
  apply FailsOnly.mapM
  rintro ⟨name, data⟩ he
  apply FailsOnly.mapError
  intro e he'
  have hdeep := ShowsPart.not_isTooDeep ((hdraft _ he).build version e he').shows (hd _ he)
  exact ⟨⟨some e.generation, none, .crate name e.problem⟩, by simp [crateStop, hdeep]⟩

/-- The layout of a generation that is decoded from JSON. -/
def jsonDraft : Generation → Text → Json → Except CrateError Draft
  | .v3 => columnDraft
  | _ => jsonRowDraft

theorem jsonDraft_failsShowing (hg : g ≠ .v1) (name : Text) (data : Json) :
    FailsShowing g data (jsonDraft g name data) := by
  cases g with
  | v1 => exact absurd rfl hg
  | v2 => exact jsonRowDraft_failsShowing name data
  | v3 => exact columnDraft_failsShowing name data

theorem crates_eq (hg : g ≠ .v1) (version : Option Text) (s : List Char) :
    crates g version s =
      document g s >>= fun x => crateEntries g x >>= buildAll g (jsonDraft g) version := by
  cases g with
  | v1 => exact absurd rfl hg
  | v2 => rfl
  | v3 => rfl

/-- No value of a document is too deep for a message. -/
theorem crates_fails (hg : g ≠ .v1) (hx : document g s = .ok x) :
    FailsOnly Stop.IsRefusal (crates g version s) := by
  obtain ⟨body, text, -, -, hp⟩ := document_eq_ok.mp hx
  rw [crates_eq hg, hx]
  refine (crateEntries_fails g x).bind fun entries he => ?_
  refine buildAll_fails (fun e _ => jsonDraft_failsShowing hg e.1 e.2) fun e hm y hy => ?_
  have hpart := (part_of_crateEntries he e hm).trans hy
  exact Nat.le_trans (Json.depth_le_of_part hpart) (Json.depth_le_of_parse hp)

theorem refused_or_ok_of_document (hg : g ≠ .v1) (hx : document g s = .ok x) :
    Refuses version s g ∨ ∃ found, crates g version s = .ok found := by
  cases hc : crates g version s with
  | ok found => exact .inr ⟨found, rfl⟩
  | error stop => exact .inl (refuses_iff.mpr ⟨stop, hc, crates_fails hg hx stop hc⟩)

end Payload

end RustdocIndex
