import RustdocIndex.Json.Parser
import RustdocIndex.Proofs.Text.Scan
import RustdocIndex.Proofs.Text.Split

/-! Literal names, and the parts of JSON numbers. -/
namespace RustdocIndex.Json

variable {sign digits rest s t : List Char}

theorem scanLiteral?_cases {x : Json} (h : scanLiteral? s = some (x, rest)) : ∃ name : String,
    s = name.toList ++ rest ∧ (name = "null" ∧ x = .null ∨ name = "true" ∧ x = .bool true ∨
      name = "false" ∧ x = .bool false ∨ name = "NaN" ∧ x = .float .nan ∨
      name = "Infinity" ∧ x = .float (.infinite false) ∨
      name = "-Infinity" ∧ x = .float (.infinite true)) := by
  obtain ⟨⟨name, y⟩, hm, h⟩ := List.exists_of_findSome?_eq_some h
  obtain ⟨r, hr, h⟩ := Option.map_eq_some_iff.mp h
  cases h
  simp only [literals, List.mem_cons, Prod.mk.injEq, List.not_mem_nil, or_false] at hm
  exact ⟨name, after?_eq_some.mp hr, hm⟩

/-- Digits that a number may have before its point: a zero comes alone. -/
def IsWhole (digits rest : List Char) : Prop :=
  digits = ['0'] ∨ digits.head? ≠ some '0' ∧ EndsInteger rest

/-- A zero is read alone, and other digits up to the first character that is none. -/
theorem scanWhole_append (hi : IsInteger sign digits) (hw : IsWhole digits rest) :
    scanWhole (digits ++ rest) = some (digits.map (·.toNat - 48), rest) := by
  rcases hw with rfl | ⟨hne, hr⟩
  · rfl
  · have hscan := scanDigits_append hi.isDigit hr
    obtain ⟨d, ds, rfl⟩ := List.exists_cons_of_ne_nil hi.digits_ne
    have hd : d ≠ '0' := by simpa using hne
    have hdigit : d.isDigit := hi.isDigit d (by simp)
    rw [List.cons_append] at hscan ⊢
    simp [scanWhole, hd, hdigit, hscan]

/-- What a number is, given its whole digits as numbers. -/
def finish (negative : Bool) (s : List Char) : Option (List Nat × List Char) →
    Except Stop (Json × List Char)
  | none => .error (.problem .expectedValue s)
  | some (whole, t) =>
    let (fraction, t) := scanFraction t
    let (exponent, t) := scanExponent t
    if fraction.isEmpty ∧ exponent.isNone then
      if maxIntegerDigits < whole.length then .error (.integerTooLong whole.length)
      else .ok (.int (if negative then -(ofDigits whole : Int) else ofDigits whole), t)
    else
      .ok (.float (.ofDecimal negative (ofDigits (whole ++ fraction))
        (exponent.getD 0 - fraction.length)), t)

theorem scanNumber_plain (h : ∀ t, s ≠ '-' :: t) : scanNumber s = finish false s (scanWhole s) := by
  unfold scanNumber
  split
  next negative t hs =>
    split at hs
    · next t' => exact absurd rfl (h t')
    · cases hs
      cases scanWhole s <;> rfl

theorem scanNumber_minus (t : List Char) :
    scanNumber ('-' :: t) = finish true ('-' :: t) (scanWhole t) := by
  unfold scanNumber
  split
  next negative u hu =>
    obtain ⟨rfl, rfl⟩ : true = negative ∧ t = u := by simpa using hu
    cases scanWhole t <;> rfl

/-- A number goes on from its whole digits with a fraction and an exponent, if it has them. -/
theorem scanNumber_append (hi : IsInteger sign digits) (hw : IsWhole digits rest) :
    scanNumber (sign ++ (digits ++ rest)) =
      finish (sign == ['-']) (sign ++ (digits ++ rest)) (some (digits.map (·.toNat - 48), rest)) := by
  have hwhole := scanWhole_append hi hw
  rcases hi.sign with rfl | rfl
  · rw [scanNumber_plain, List.nil_append, hwhole]
    · rfl
    · intro t ht
      obtain ⟨d, ds, rfl⟩ := List.exists_cons_of_ne_nil hi.digits_ne
      cases ht
      exact absurd (hi.isDigit '-' (by simp)) (by decide)
  · rw [List.singleton_append, scanNumber_minus, hwhole]
    rfl

/-- A text without whole digits at its front, or one cut behind them. -/
theorem exists_whole (s : List Char) : scanWhole s = none ∨ ∃ digits rest, s = digits ++ rest ∧
    digits ≠ [] ∧ (∀ c ∈ digits, c.isDigit) ∧ IsWhole digits rest := by
  cases s with
  | nil => exact .inl rfl
  | cons c t =>
    by_cases hzero : c = '0'
    · subst hzero
      exact .inr ⟨['0'], t, rfl, by simp, by simp, .inl rfl⟩
    · by_cases hc : c.isDigit
      · obtain ⟨digits, rest, hs, hall, hr⟩ := exists_digits (c :: t)
        have hne : digits ≠ [] := by
          rintro rfl
          rw [List.nil_append] at hs
          have := hr c (by simp [← hs])
          simp [hc] at this
        refine .inr ⟨digits, rest, hs, hne, hall, .inr ⟨?_, hr⟩⟩
        obtain ⟨d, ds, rfl⟩ := List.exists_cons_of_ne_nil hne
        cases hs
        simpa using hzero
      · exact .inl (by simp [scanWhole, hzero, hc])

/-- A text begins with a number, or is refused for want of a value. -/
theorem exists_number (s : List Char) : scanNumber s = .error (.problem .expectedValue s) ∨
    ∃ sign digits rest, s = sign ++ (digits ++ rest) ∧ IsInteger sign digits ∧
      IsWhole digits rest := by
  by_cases hminus : ∃ t, s = '-' :: t
  · obtain ⟨t, rfl⟩ := hminus
    rw [scanNumber_minus]
    rcases exists_whole t with hn | ⟨digits, rest, rfl, hne, hall, hw⟩
    · exact .inl (by rw [hn]; rfl)
    · exact .inr ⟨['-'], digits, rest, rfl, ⟨.inr rfl, hne, hall⟩, hw⟩
  · rw [not_exists] at hminus
    rw [scanNumber_plain hminus]
    rcases exists_whole s with hn | ⟨digits, rest, rfl, hne, hall, hw⟩
    · exact .inl (by rw [hn]; rfl)
    · exact .inr ⟨[], digits, rest, rfl, ⟨.inl rfl, hne, hall⟩, hw⟩

/-- A rest at which no number goes on. -/
def EndsNumber (rest : List Char) : Prop :=
  ∀ c ∈ rest.head?, c.isDigit = false ∧ c ≠ '.' ∧ c ≠ 'e' ∧ c ≠ 'E'

theorem EndsNumber.endsInteger (h : EndsNumber rest) : EndsInteger rest := fun c hc => (h c hc).1

theorem endsNumber_cons {c : Char} (h : c.isDigit = false ∧ c ≠ '.' ∧ c ≠ 'e' ∧ c ≠ 'E')
    (rest : List Char) : EndsNumber (c :: rest) := by
  intro d hd
  cases hd
  exact h

theorem EndsNumber.blank {w : List Char} (hw : skipSpace w = []) (h : EndsNumber rest) :
    EndsNumber (w ++ rest) := by
  cases w with
  | nil => exact h
  | cons c w =>
    have hc := isSpace_of_blank hw (List.mem_cons_self)
    simp only [isSpace, Bool.or_eq_true, beq_iff_eq] at hc
    apply endsNumber_cons
    rcases hc with ((rfl | rfl) | rfl) | rfl <;> decide

/-- White space ends a number, and so do most characters, but for digits, the point and the marks of
exponents. -/
theorem endsNumber_of_skipSpace {c : Char} {t : List Char} (h : skipSpace s = c :: t)
    (hc : c.isDigit = false ∧ c ≠ '.' ∧ c ≠ 'e' ∧ c ≠ 'E') : EndsNumber s := by
  obtain ⟨w, hw, rfl⟩ := exists_blank_cons h
  exact .blank hw (endsNumber_cons hc t)

/-- A fraction is read up to the first character that is no digit. -/
theorem scanFraction_append (hne : digits ≠ []) (hd : ∀ c ∈ digits, c.isDigit)
    (hr : EndsInteger rest) :
    scanFraction ('.' :: (digits ++ rest)) = (digits.map (·.toNat - 48), rest) := by
  have hscan := scanDigits_append hd hr
  obtain ⟨d, ds, rfl⟩ := List.exists_cons_of_ne_nil hne
  rw [scanFraction, hscan]
  rfl

/-- A point without digits behind it is left to what follows. -/
theorem exists_fraction (s : List Char) : scanFraction s = ([], s) ∨
    ∃ digits rest, s = '.' :: (digits ++ rest) ∧ digits ≠ [] ∧ (∀ c ∈ digits, c.isDigit) ∧
      EndsInteger rest := by
  by_cases hdot : ∃ t, s = '.' :: t
  · obtain ⟨t, rfl⟩ := hdot
    obtain ⟨digits, rest, rfl, hall, hr⟩ := exists_digits t
    by_cases hne : digits = []
    · subst hne
      left
      simp only [scanFraction, scanDigits_append hall hr, List.map_nil]
    · exact .inr ⟨digits, rest, rfl, hne, hall, hr⟩
  · left
    unfold scanFraction
    split
    · exact absurd ⟨_, rfl⟩ hdot
    · rfl

theorem scanFraction_none (h : (scanFraction s).1 = []) : scanFraction s = ([], s) := by
  rcases exists_fraction s with he | ⟨digits, rest, rfl, hne, hall, hr⟩
  · exact he
  · rw [scanFraction_append hne hall hr] at h
    simp [hne] at h

theorem scanExponent_ends (h : EndsNumber t) : scanExponent t = (none, t) := by
  cases t with
  | nil => rfl
  | cons c t =>
    obtain ⟨-, -, he, hE⟩ := h c rfl
    simp [scanExponent, he, hE]

theorem scanExponent_plain {e : Char} {u : List Char} (he : e = 'e' ∨ e = 'E')
    (hm : ∀ v, u ≠ '-' :: v) (hp : ∀ v, u ≠ '+' :: v) :
    scanExponent (e :: u) = match scanDigits u with
      | ([], _) => (none, e :: u)
      | (ds, rest) => (some (ofDigits ds : Int), rest) := by
  simp only [scanExponent, he, if_true]
  rcases scanDigits u with ⟨_ | ⟨d, ds⟩, rest⟩ <;> rfl

theorem scanExponent_append {e : Char} (he : e = 'e' ∨ e = 'E')
    (hs : sign = [] ∨ sign = ['-'] ∨ sign = ['+']) (hne : digits ≠ [])
    (hd : ∀ c ∈ digits, c.isDigit) (hr : EndsInteger rest) :
    scanExponent (e :: (sign ++ (digits ++ rest))) =
      (some (if sign = ['-'] then -(ofDigits (digits.map (·.toNat - 48)) : Int)
        else ofDigits (digits.map (·.toNat - 48))), rest) := by
  have hscan := scanDigits_append hd hr
  obtain ⟨d, ds, rfl⟩ := List.exists_cons_of_ne_nil hne
  have hdigit : d.isDigit := hd d (by simp)
  rcases hs with rfl | rfl | rfl
  · rw [List.nil_append, scanExponent_plain he, hscan]
    · rfl
    · rintro v hv
      cases hv
      exact absurd hdigit (by decide)
    · rintro v hv
      cases hv
      exact absurd hdigit (by decide)
  · simp only [scanExponent, he, if_true, List.singleton_append, hscan]
    rfl
  · simp only [scanExponent, he, if_true, List.singleton_append, hscan]
    rfl

/-- A mark of an exponent without digits is left to what follows. -/
theorem exists_exponent (s : List Char) : scanExponent s = (none, s) ∨
    ∃ e sign digits rest, s = e :: (sign ++ (digits ++ rest)) ∧ (e = 'e' ∨ e = 'E') ∧
      (sign = [] ∨ sign = ['-'] ∨ sign = ['+']) ∧ digits ≠ [] ∧ (∀ c ∈ digits, c.isDigit) ∧
      EndsInteger rest := by
  cases s with
  | nil => exact .inl rfl
  | cons e t =>
    by_cases he : e = 'e' ∨ e = 'E'
    · obtain ⟨sign, u, rfl, hs⟩ : ∃ sign u, t = sign ++ u ∧
          (sign = [] ∧ (∀ v, u ≠ '-' :: v) ∧ (∀ v, u ≠ '+' :: v) ∨ sign = ['-'] ∨ sign = ['+']) := by
        by_cases hm : ∃ v, t = '-' :: v
        · obtain ⟨v, rfl⟩ := hm
          exact ⟨['-'], v, rfl, .inr (.inl rfl)⟩
        · by_cases hp : ∃ v, t = '+' :: v
          · obtain ⟨v, rfl⟩ := hp
            exact ⟨['+'], v, rfl, .inr (.inr rfl)⟩
          · exact ⟨[], t, rfl, .inl ⟨rfl, not_exists.mp hm, not_exists.mp hp⟩⟩
      obtain ⟨digits, rest, rfl, hall, hr⟩ := exists_digits u
      by_cases hne : digits = []
      · subst hne
        have hscan := scanDigits_append hall hr
        left
        rcases hs with ⟨rfl, hm, hp⟩ | rfl | rfl
        · rw [List.nil_append, scanExponent_plain he hm hp, hscan]
          rfl
        · simp only [scanExponent, he, if_true, List.singleton_append, hscan, List.map_nil]
        · simp only [scanExponent, he, if_true, List.singleton_append, hscan, List.map_nil]
      · refine .inr ⟨e, sign, digits, rest, rfl, he, ?_, hne, hall, hr⟩
        rcases hs with ⟨h, -⟩ | h | h
        · exact .inl h
        · exact .inr (.inl h)
        · exact .inr (.inr h)
    · exact .inl (by simp [scanExponent, he])

theorem scanExponent_none (h : (scanExponent s).1 = none) : scanExponent s = (none, s) := by
  rcases exists_exponent s with he | ⟨e, sign, digits, rest, rfl, he, hs, hne, hall, hr⟩
  · exact he
  · rw [scanExponent_append he hs hne hall hr] at h
    cases h

theorem scanFraction_of_ne (h : s.head? ≠ some '.') : scanFraction s = ([], s) := by
  unfold scanFraction
  split
  · exact absurd rfl h
  · rfl

theorem scanFraction_consumes (s : List Char) : ∃ c, s = c ++ (scanFraction s).2 ∧
    (c = [] ∨ c.head? = some '.') ∧ ∀ t, EndsInteger t → (c = [] → t.head? ≠ some '.') →
      scanFraction (c ++ t) = ((scanFraction s).1, t) := by
  rcases exists_fraction s with h | ⟨digits, rest, rfl, hne, hall, hr⟩
  · rw [h]
    exact ⟨[], rfl, .inl rfl, fun t _ ht => scanFraction_of_ne (ht rfl)⟩
  · rw [scanFraction_append hne hall hr]
    refine ⟨'.' :: digits, rfl, .inr rfl, fun t ht _ => ?_⟩
    exact scanFraction_append hne hall ht

theorem scanExponent_consumes (s : List Char) : ∃ c, s = c ++ (scanExponent s).2 ∧
    (c = [] ∨ c.head? = some 'e' ∨ c.head? = some 'E') ∧ ∀ t, EndsNumber t →
      scanExponent (c ++ t) = ((scanExponent s).1, t) := by
  rcases exists_exponent s with h | ⟨e, sign, digits, rest, rfl, he, hs, hne, hall, hr⟩
  · rw [h]
    exact ⟨[], rfl, .inl rfl, fun t ht => scanExponent_ends ht⟩
  · rw [scanExponent_append he hs hne hall hr]
    refine ⟨e :: (sign ++ digits), by simp, .inr ?_, fun t ht => ?_⟩
    · rcases he with rfl | rfl
      · exact .inl rfl
      · exact .inr rfl
    · rw [List.cons_append, List.append_assoc]
      exact scanExponent_append he hs hne hall ht.endsInteger

/-- What follows the whole digits of a number. -/
theorem finish_consumes {negative : Bool} {s : List Char} {whole : List Nat} {x : Json × List Char}
    (h : finish negative s (some (whole, t)) = .ok x) : ∃ c, t = c ++ x.2 ∧ ∀ u, EndsNumber u →
      (c = [] ∨ EndsInteger (c ++ u)) ∧
        ∀ s', finish negative s' (some (whole, c ++ u)) = .ok (x.1, u) := by
  obtain ⟨c, ht, hc, hfraction⟩ := scanFraction_consumes t
  obtain ⟨e, hu, he, hexponent⟩ := scanExponent_consumes (scanFraction t).2
  have hx : x.2 = (scanExponent (scanFraction t).2).2 := by
    simp only [finish] at h
    split at h
    · split at h <;> cases h
      rfl
    · cases h
      rfl
  refine ⟨c ++ e, by rw [hx, List.append_assoc, ← hu, ← ht], fun v hv => ⟨?_, fun s' => ?_⟩⟩
  · rcases hc with rfl | hc
    · rcases he with rfl | he | he
      · exact .inl rfl
      · obtain ⟨y, rfl⟩ := List.head?_eq_some_iff.mp he
        exact .inr (endsInteger_cons rfl _)
      · obtain ⟨y, rfl⟩ := List.head?_eq_some_iff.mp he
        exact .inr (endsInteger_cons rfl _)
    · obtain ⟨y, rfl⟩ := List.head?_eq_some_iff.mp hc
      exact .inr (endsInteger_cons rfl _)
  · have hev : EndsInteger (e ++ v) ∧ (e ++ v).head? ≠ some '.' := by
      rcases he with rfl | he | he
      · exact ⟨hv.endsInteger, fun hd => (hv '.' hd).2.1 rfl⟩
      · obtain ⟨y, rfl⟩ := List.head?_eq_some_iff.mp he
        exact ⟨endsInteger_cons rfl _, by simp⟩
      · obtain ⟨y, rfl⟩ := List.head?_eq_some_iff.mp he
        exact ⟨endsInteger_cons rfl _, by simp⟩
    simp only [finish, List.append_assoc, hfraction _ hev.1 fun _ => hev.2, hexponent v hv]
    simp only [finish] at h
    split at h
    · next hint =>
      split at h
      · cases h
      · next hlen =>
        cases h
        rw [if_pos hint, if_neg hlen]
    · next hint =>
      cases h
      rw [if_neg hint]

/-- What a number is does not depend on what follows, as long as that ends numbers. -/
theorem scanNumber_consumes {x : Json × List Char} (h : scanNumber s = .ok x) :
    ∃ sign digits more, IsInteger sign digits ∧ s = sign ++ (digits ++ (more ++ x.2)) ∧
      ∀ t, EndsNumber t → scanNumber (sign ++ (digits ++ (more ++ t))) = .ok (x.1, t) := by
  rcases exists_number s with he | ⟨sign, digits, rest, rfl, hi, hw⟩
  · cases he.symm.trans h
  · rw [scanNumber_append hi hw] at h
    obtain ⟨more, hrest, hmore⟩ := finish_consumes h
    refine ⟨sign, digits, more, hi, by rw [← hrest], fun t ht => ?_⟩
    obtain ⟨hends, hfinish⟩ := hmore t ht
    rw [scanNumber_append hi]
    · exact hfinish _
    · rcases hw with hzero | ⟨hne, hr⟩
      · exact .inl hzero
      · refine .inr ⟨hne, ?_⟩
        rcases hends with rfl | hends
        · exact ht.endsInteger
        · exact hends

/-- A number is an integer and nothing more, or a float that goes on behind its whole digits. -/
theorem scanNumber_cases {x : Json} (h : scanNumber s = .ok (x, rest)) :
    ∃ sign digits more, IsInteger sign digits ∧ s = sign ++ (digits ++ more) ∧
      ((x = .int (signed sign digits) ∧ more = rest ∧ digits.length ≤ maxIntegerDigits) ∨
        ∃ f c t, x = .float f ∧ more = c :: t ∧ (c = '.' ∨ c = 'e' ∨ c = 'E')) := by
  rcases exists_number s with he | ⟨sign, digits, more, rfl, hi, hw⟩
  · cases he.symm.trans h
  · rw [scanNumber_append hi hw] at h
    refine ⟨sign, digits, more, hi, rfl, ?_⟩
    simp only [finish, List.length_map] at h
    split at h
    · next hint =>
      split at h
      · cases h
      · next hlen =>
        have hfraction := scanFraction_none (by simpa using hint.1)
        rw [hfraction] at hint h
        have hexponent := scanExponent_none (by simpa using hint.2)
        rw [hexponent] at h
        cases h
        refine .inl ⟨?_, rfl, Nat.le_of_not_lt hlen⟩
        rw [signed]
        rcases hi.sign with rfl | rfl <;> rfl
    · next hfloat =>
      cases h
      refine .inr ?_
      rcases exists_fraction more with hf | ⟨ds, u, rfl, -⟩
      · rcases exists_exponent more with he | ⟨e, sg, ds, u, rfl, he, -⟩
        · simp [hf, he] at hfloat
        · exact ⟨_, e, _, rfl, rfl, .inr he⟩
      · exact ⟨_, '.', _, rfl, rfl, .inl rfl⟩
/-- A text begins with an integer of `n` digits, and that is more than integers may have. -/
def BeginsLong (n : Nat) (s : List Char) : Prop :=
  maxIntegerDigits < n ∧ ∃ sign digits rest, s = sign ++ (digits ++ rest) ∧
    IsInteger sign digits ∧ digits.length = n ∧ digits.head? ≠ some '0' ∧ EndsInteger rest ∧
    (scanFraction rest).1 = [] ∧ (scanExponent rest).1 = none

theorem BeginsLong.head {n : Nat} (h : BeginsLong n s) :
    ∃ c t, s = c :: t ∧ (c = '-' ∨ c.isDigit) := by
  obtain ⟨-, sign, digits, rest, rfl, hi, -⟩ := h
  exact hi.head rest

/-- Only integers are counted, and only their whole digits: a number with a fraction or an exponent
is never too long. -/
theorem scanNumber_long {n : Nat} : scanNumber s = .error (.integerTooLong n) ↔ BeginsLong n s := by
  constructor
  · intro h
    rcases exists_number s with he | ⟨sign, digits, rest, rfl, hi, hw⟩
    · cases he.symm.trans h
    · rw [scanNumber_append hi hw] at h
      simp only [finish, List.length_map] at h
      split at h
      · next hint =>
        split at h
        · next hlen =>
          cases h
          have hfraction : (scanFraction rest).1 = [] := by simpa using hint.1
          have hrest := scanFraction_none hfraction
          rcases hw with rfl | ⟨hne, hr⟩
          · simp [maxIntegerDigits] at hlen
          · refine ⟨hlen, sign, digits, rest, rfl, hi, rfl, hne, hr, hfraction, ?_⟩
            simpa [hrest] using hint.2
        · cases h
      · cases h
  · rintro ⟨hn, sign, digits, rest, rfl, hi, rfl, hne, hr, hfraction, hexponent⟩
    have hrest := scanFraction_none hfraction
    rw [scanNumber_append hi (.inr ⟨hne, hr⟩)]
    simp [finish, hrest, hexponent, hn]

end RustdocIndex.Json
