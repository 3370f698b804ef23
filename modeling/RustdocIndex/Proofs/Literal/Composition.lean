import RustdocIndex.Proofs.Literal.Place
import RustdocIndex.Proofs.Literal.Variables
import RustdocIndex.Proofs.Text.Ascii

/-! Programs compose: what a program does is done alike where a semicolon and another program stand
behind it, and that one goes on with the variables as they are then. -/
namespace RustdocIndex.Literal

variable {d c mark : Char} {q s t start start' after after' : List Char} {vars : Variables}
  {store : Store} {st : State}

/-- A character that stands behind a value and is none of it. -/
def Separates (d : Char) : Prop := d = ',' ∨ d = ')' ∨ d = ';'

instance : Decidable (Separates d) := inferInstanceAs (Decidable (_ ∨ _))

theorem Separates.ne (hd : Separates d) (hc : ¬ Separates c) : c ≠ d := by
  rintro rfl
  exact hc hd

/-- A separator is part of no token. -/
theorem Separates.plain (hd : Separates d) :
    isSpace d = false ∧ isNameContinue d = false ∧ d.isDigit = false := by
  rcases hd with rfl | rfl | rfl <;> decide

/-- Whatever is found first is found second too, with `u` behind what is left. -/
def Carries {ρ : Type} [Leaves ρ] (u : List Char) (x y : Except Stop ρ) : Prop :=
  ∀ r, x = .ok r → y = .ok (withRest r (rest r ++ u))

section

variable {ρ σ : Type} [Leaves ρ] [Leaves σ] {u : List Char}

theorem Carries.ok (r : ρ) : Carries u (.ok r) (.ok (withRest r (rest r ++ u))) := by
  intro r' h
  cases h
  rfl

theorem Carries.error (e : Stop) (y : Except Stop ρ) : Carries u (.error e) y := by
  intro r h
  cases h

/-- What each of two steps carries over, they carry over together. -/
theorem Carries.bind {x y : Except Stop ρ} {g g' : ρ → Except Stop σ} (h : Carries u x y)
    (hg : ∀ r, Carries u (g r) (g' (withRest r (rest r ++ u)))) :
    Carries u (x >>= g) (y >>= g') := by
  intro r h'
  obtain ⟨r₁, hx, hr⟩ := bind_eq_ok.mp h'
  exact bind_eq_ok.mpr ⟨_, h r₁ hx, hg r₁ r hr⟩

/-- Where the text is over, the character behind it is next: it must not be the one that is looked
for, or nothing is found there. -/
theorem Carries.onNext {yes no yes' no' : Reader Stop ρ} (hd : isSpace d = false)
    (hc : c ≠ d ∨ ∀ r, no [] ≠ .ok r) (hyes : ∀ t, Carries (d :: q) (yes t) (yes' (t ++ d :: q)))
    (hno : ∀ t, Carries (d :: q) (no t) (no' (t ++ d :: q))) (s : List Char) :
    Carries (d :: q) (onNext c yes no s) (onNext c yes' no' (s ++ d :: q)) := by
  by_cases hs : skipSpace s = []
  · have hbehind : skipSpace (s ++ d :: q) = d :: q := skipSpace_blank_cons hs hd q
    rw [onNext_no (by simp [hs]), hs]
    rcases hc with hc | hc
    · rw [onNext_no (by simp [hbehind, Ne.symm hc]), hbehind]
      exact hno []
    · exact fun r h => absurd h (hc r)
  · have hbehind := skipSpace_append hs (d :: q)
    rcases onNext_cases c yes no s with ⟨t, ht, h⟩ | ⟨hne, h⟩
    · rw [h, onNext_yes (t := t ++ d :: q) (by rw [hbehind, ht]; rfl)]
      exact hyes t
    · have hne' : ∀ t, skipSpace (s ++ d :: q) ≠ c :: t := by
        intro t ht
        obtain ⟨e, x, hx⟩ := List.exists_cons_of_ne_nil hs
        rw [hbehind, hx] at ht
        cases ht
        exact hne x hx
      rw [h, onNext_no hne', hbehind]
      exact hno _

end

/-- The text of one value, with white space around it. -/
def IsArgument (st : State) (a : List Char) : Prop :=
  ∃ x store w, readValue st.bindings st.store a = .ok (x, store, w) ∧ skipSpace w = []

/-- The arguments of a call and the parenthesis behind them. A comma may follow the last one. -/
inductive IsArguments (st : State) : List Char → Prop
  | close {w : List Char} (hw : skipSpace w = []) : IsArguments st (w ++ [')'])
  | last {a : List Char} (ha : IsArgument st a) : IsArguments st (a ++ [')'])
  | more {a t : List Char} (ha : IsArgument st a) (ht : IsArguments st t) :
      IsArguments st (a ++ ',' :: t)

/-- What follows the first name of a call: names behind points, then arguments in parentheses. -/
inductive IsCallTail (st : State) : List Char → Prop
  | arguments {w t : List Char} (hw : skipSpace w = []) (ht : IsArguments st t) :
      IsCallTail st (w ++ '(' :: t)
  | name {w v t : List Char} {name : String} (hw : skipSpace w = []) (hv : skipSpace v = [])
      (hn : IsName name) (ht : IsCallTail st t) :
      IsCallTail st (w ++ '.' :: (v ++ (name.toList ++ t)))

/-- An argument does not begin with the parenthesis that would end the list. -/
theorem IsArgument.head {a : List Char} (h : IsArgument st a) (u : List Char) :
    ∀ t, skipSpace (a ++ u) ≠ ')' :: t := by
  obtain ⟨x, store, w, hx, -⟩ := h
  have hread (s : List Char) : readValue st.bindings st.store s =
      value st.bindings (2 * s.length + 2) maxDepth st.store s := rfl
  intro t ht
  rw [hread, value_eq] at hx
  cases hs : skipSpace a with
  | nil =>
    rw [onNext, hs] at hx
    cases hx
  | cons c b =>
    rw [skipSpace_append (by simp [hs]), hs] at ht
    cases ht
    have hb : skipSpace (')' :: b) = ')' :: b := rfl
    simp only [onNext, hs, hb] at hx
    cases hx

theorem IsCallTail.head (h : IsCallTail st s) (u : List Char) :
    ∃ w c t, skipSpace w = [] ∧ (c = '(' ∨ c = '.') ∧ s ++ u = w ++ c :: t := by
  cases h with
  | arguments hw ht => exact ⟨_, '(', _, hw, .inl rfl, List.append_assoc ..⟩
  | name hw hv hn ht => exact ⟨_, '.', _, hw, .inr rfl, List.append_assoc ..⟩

end RustdocIndex.Literal
