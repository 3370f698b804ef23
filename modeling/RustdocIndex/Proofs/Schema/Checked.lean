import RustdocIndex.Schema.Model

/-! Which values are valid. -/
namespace RustdocIndex.Schema

namespace Checked

variable {α β : Type} {a : Checked α} {x : α} {y : β}

theorem map_eq_valid {f : α → β} : f <$> a = .valid y ↔ ∃ x, a = .valid x ∧ f x = y := by
  cases a with
  | valid x => exact ⟨fun h => ⟨x, rfl, valid.inj h⟩, fun ⟨_, hx, h⟩ => by cases hx; exact congrArg valid h⟩
  | invalid issues => exact ⟨nofun, nofun⟩

/-- Both sides are checked, and the result is valid if both are. -/
theorem seq_eq_valid {f : Checked (α → β)} :
    f <*> a = .valid y ↔ ∃ g x, f = .valid g ∧ a = .valid x ∧ g x = y := by
  constructor
  · intro h
    cases f with
    | valid g =>
      cases a with
      | valid x => exact ⟨g, x, rfl, rfl, valid.inj h⟩
      | invalid issues => cases h
    | invalid issues => cases a <;> cases h
  · rintro ⟨g, x, rfl, rfl, rfl⟩
    rfl

theorem andThen_eq_valid {f : α → Checked β} :
    a.andThen f = .valid y ↔ ∃ x, a = .valid x ∧ f x = .valid y := by
  cases a with
  | valid x => exact ⟨fun h => ⟨x, rfl, h⟩, fun ⟨_, hx, h⟩ => by cases hx; exact h⟩
  | invalid issues => exact ⟨nofun, nofun⟩

/-- Where a value stands matters to its issues alone. -/
theorem under_eq_valid {step : Step} : a.under step = .valid x ↔ a = .valid x := by
  cases a <;> simp [under]

theorem toExcept_eq_ok {title : String} : a.toExcept title = .ok x ↔ a = .valid x := by
  cases a <;> simp [toExcept]

end Checked

/-- A value of a model is an object with valid fields and no others. -/
theorem model_eq_valid {α : Type} {source : Source} {title : String} {names : List String}
    {check : Fields Text Json → Checked α} {x : Json} {a : α} :
    model source title names check x = .valid a ↔
      ∃ fields, x = .object fields ∧ check fields = .valid a ∧
        noOthers names fields = .valid () := by
  constructor
  · intro h
    cases x with
    | object fields =>
      obtain ⟨_, _, hmake, hothers, rfl⟩ := Checked.seq_eq_valid.mp h
      obtain ⟨_, hcheck, rfl⟩ := Checked.map_eq_valid.mp hmake
      exact ⟨fields, rfl, hcheck, hothers⟩
    | _ => cases h
  · rintro ⟨fields, rfl, hcheck, hothers⟩
    exact Checked.seq_eq_valid.mpr
      ⟨_, (), Checked.map_eq_valid.mpr ⟨a, hcheck, rfl⟩, hothers, rfl⟩

theorem nonemptyText_eq_valid {t u : Text} (h : nonemptyText t = .valid u) : u = t ∧ t ≠ [] := by
  unfold nonemptyText at h
  split at h
  · cases h
  · split at h
    · cases h
    · next hne =>
      cases h
      exact ⟨rfl, by simpa using hne⟩

/-- A text passes unchanged if it is not empty and has no half of a surrogate pair. -/
theorem nonemptyText_self {t : Text} :
    nonemptyText t = .valid t ↔ t ≠ [] ∧ ∀ c ∈ t, c.isSurrogate = false := by
  unfold nonemptyText
  split
  · next h =>
    simp only [List.any_eq_true] at h
    obtain ⟨c, hc, hs⟩ := h
    exact ⟨nofun, fun h => by simp [h.2 c hc] at hs⟩
  · next h =>
    have hall : ∀ c ∈ t, c.isSurrogate = false := by simpa using h
    split
    · next he => exact ⟨nofun, fun h => absurd (List.isEmpty_iff.mp he) h.1⟩
    · next he => exact ⟨fun _ => ⟨by simpa using he, hall⟩, fun _ => rfl⟩

end RustdocIndex.Schema
