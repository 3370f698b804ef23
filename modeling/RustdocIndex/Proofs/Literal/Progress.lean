import RustdocIndex.Proofs.Literal.Locality

/-! Every part of a program takes something from the text, or fails there. -/
namespace RustdocIndex.Literal

variable {c mark : Char} {s t start : List Char} {vars : Variables} {store : Store} {st : State}
  {seen : Text}

/-- Where the reader succeeds, less is left than there was. -/
def Advances {ρ : Type} [Leaves ρ] (f : Reader Stop ρ) : Prop :=
  ∀ s r, f s = .ok r → (rest r).length < s.length

section

variable {ρ σ : Type} [Leaves ρ] [Leaves σ] {free : Prop} {f yes no : Reader Stop ρ}

/-- Behind the character something has been taken already, so the reader there need not advance. -/
theorem Advances.onNext (hyes : Stable free yes) (hno : Advances no) :
    Advances (onNext c yes no) := by
  intro s r h
  rcases onNext_cases c yes no s with ⟨t, ht, hnext⟩ | ⟨-, hnext⟩
  · have hle := hyes.length_le (hnext.symm.trans h)
    have hlt := length_of_skipSpace ht
    omega
  · have hlt := hno _ r (hnext.symm.trans h)
    have hle := length_skipSpace_le s
    omega

theorem Advances.error (e : List Char → Stop) : Advances fun s => (.error (e s) : Except Stop ρ) :=
  fun _ _ h => nomatch h

/-- What comes behind may take nothing. -/
theorem Advances.bind {g : ρ → Except Stop σ} (hf : Advances f)
    (hg : ∀ r q, g r = .ok q → (rest q).length ≤ (rest r).length) :
    Advances fun s => f s >>= g := by
  intro s q h
  obtain ⟨r, hr, h⟩ := bind_eq_ok.mp h
  have hlt := hf s r hr
  have hle := hg r q h
  omega

/-- Passing on a result changes nothing about what is left. -/
theorem Advances.thenOk {g : ρ → σ} (hf : Advances f) (hg : ∀ r, rest (g r) = rest r) :
    Advances fun s => f s >>= fun r => .ok (g r) :=
  hf.bind fun r q h => by
    cases h
    rw [hg]

end

theorem stable_rest : Stable False fun t => (.ok t : Except Stop (List Char)) := .ok [] fun _ => rfl

theorem advances_expect (c : Char) : Advances (expect c) := by
  rw [expect_eq_onNext]
  exact .onNext stable_rest (.error _)

theorem advances_scanName : Advances scanName := fun _ _ h => length_name h

theorem advances_scanInteger : Advances scanInteger := by
  intro s r h
  obtain ⟨w, sign, digits, rfl, -, hi, -⟩ := exists_written h
  have hpos := List.length_pos_of_ne_nil hi.digits_ne
  simp only [Leaves.rest, List.length_append]
  omega

theorem advances_scanString (start : List Char) (mark : Char) (seen : Text) :
    Advances (scanString start mark seen) := by
  intro s r h
  obtain ⟨c, rfl, hc⟩ := scanString_consumes h
  have hne : c ≠ [] := by
    rintro rfl
    have hnone := hc start []
    rw [List.append_nil, scanString] at hnone
    cases hnone
  have hpos := List.length_pos_of_ne_nil hne
  simp only [Leaves.rest, List.length_append]
  omega

theorem advances_scanKey : Advances scanKey := by
  have hstring (mark : Char) : Stable False fun t => scanString (mark :: t) mark [] t :=
    stable_scanString mark
  rw [scanKey_eq_onNext]
  refine .onNext (hstring _) (.onNext (hstring _) ?_)
  exact advances_scanName.thenOk fun _ => rfl

theorem advances_reference : Advances (reference vars store) := by
  rw [reference_eq]
  intro s r h
  obtain ⟨n, hn, h⟩ := bind_eq_ok.mp h
  have hlt := length_name hn
  have hle := (stable_named s n.1).length_le h
  exact Nat.lt_of_le_of_lt hle hlt

theorem advances_scalar : Advances fun s => scalar vars store (skipSpace s).head? s := by
  intro s r h
  have hle := length_skipSpace_le s
  have hint := advances_scanInteger.thenOk (g := fun r => (Value.int r.1, store, r.2)) fun _ => rfl
  have href : Advances fun s => reference vars store s >>= fun r => .ok (r.1, store, r.2) :=
    advances_reference.thenOk fun _ => rfl
  change scalar vars store (skipSpace s).head? s = .ok r at h
  cases hs : (skipSpace s).head? with
  | none =>
    rw [hs] at h
    cases h
  | some c =>
    rw [hs, scalar] at h
    split at h
    · exact Nat.lt_of_lt_of_le (hint _ r h) hle
    · split at h
      · exact Nat.lt_of_lt_of_le (href _ r h) hle
      · cases h

/-- A value has at least one character, whatever its budget and depth. -/
theorem advances_value (vars : Variables) (budget depth : Nat) (store : Store) :
    Advances (value vars budget depth store) := by
  cases budget with
  | zero => exact .error _
  | succ budget =>
    have h := stable_values vars budget
    rw [value_eq]
    refine .onNext (stable_string _) (.onNext (stable_string _) ?_)
    refine .onNext (stable_bracket (fun depth => h.elements depth store []) depth) ?_
    exact .onNext (stable_bracket (fun depth => h.members depth store []) depth) advances_scalar

/-- Even an empty array takes its closing bracket. -/
theorem advances_elements (vars : Variables) (budget depth : Nat) (store : Store)
    (seen : List Value) : Advances (elements vars budget depth store seen) := by
  cases budget with
  | zero => exact .error _
  | succ budget =>
    have h := stable_values vars budget
    rw [elements_eq]
    refine .onNext (stable_allocated store _) ((advances_value vars budget depth store).bind ?_)
    exact fun r q => (stable_afterElement (h.elements depth r.2.1 (r.1 :: seen))).length_le

theorem advances_members (vars : Variables) (budget depth : Nat) (store : Store)
    (seen : Fields Text Value) : Advances (members vars budget depth store seen) := by
  cases budget with
  | zero => exact .error _
  | succ budget =>
    have h := stable_values vars budget
    rw [members_eq]
    refine .onNext (stable_allocated store _) (advances_scanKey.bind fun k q hq => ?_)
    obtain ⟨t, ht, hq⟩ := bind_eq_ok.mp hq
    obtain ⟨r, hr, hq⟩ := bind_eq_ok.mp hq
    have hcolon := advances_expect ':' _ t ht
    have hvalue := advances_value vars budget depth store _ r hr
    have hmore := (stable_afterMember (h.members depth r.2.1 (seen.put k.1 r.1))).length_le hq
    simp only [Leaves.rest] at *
    omega

theorem advances_readValue : Advances (readValue vars store) :=
  fun s => advances_value vars (2 * s.length + 2) maxDepth store s

/-- Each declaration takes its name at least, so that the declarations come to an end. -/
theorem advances_declarations (budget : Nat) (st : State) : Advances (declarations budget st) := by
  cases budget with
  | zero => exact .error _
  | succ budget =>
    rw [declarations_eq]
    refine advances_scanName.bind fun n q hq => ?_
    obtain ⟨t, ht, hq⟩ := bind_eq_ok.mp hq
    obtain ⟨r, hr, hq⟩ := bind_eq_ok.mp hq
    have hequals := advances_expect '=' _ t ht
    have hvalue := advances_readValue _ r hr
    have hmore := (Stable.onNext (by decide) (stable_declarations budget _)
      (.ok (_, []) fun _ => rfl) False.elim : Stable False (afterDeclaration budget _)).length_le hq
    simp only [Leaves.rest] at *
    omega

theorem advances_arguments (budget : Nat) (st : State) : Advances (arguments budget st) := by
  cases budget with
  | zero => exact .error _
  | succ budget =>
    rw [arguments_eq]
    refine .onNext stable_rest (advances_readValue.bind fun r q => ?_)
    exact (Stable.onNext (by decide) (stable_arguments st budget) (stable_expect False (by decide))
      False.elim).length_le

/-- A call ends with a parenthesis. -/
theorem advances_call (budget : Nat) (st : State) : Advances (call budget st) := by
  cases budget with
  | zero => exact .error _
  | succ budget =>
    have hname : Stable False fun t => scanName t >>= fun n => call budget st n.2 :=
      stable_scanName.bind (fun _ => (stable_call st budget).1)
        fun _ => wants_linked (stable_call st budget).2
    rw [call_eq]
    refine .onNext hname ((advances_expect '(').bind fun t q hq => ?_)
    exact (stable_readArguments st).length_le hq

theorem advances_assignment (st : State) (name : String) (start : List Char) :
    Advances (assignment st name start) := by
  intro s q hq
  rw [assignment_eq] at hq
  split at hq
  · cases hq
  · next target _ =>
    obtain ⟨k, hk, hq⟩ := bind_eq_ok.mp hq
    have hkey := advances_readValue _ k hk
    have hmore := (stable_afterKey st name start target k).length_le (s := rest k) (r := q)
      (by rw [Leaves.withRest_rest]; exact hq)
    exact Nat.lt_of_le_of_lt hmore hkey

end RustdocIndex.Literal
