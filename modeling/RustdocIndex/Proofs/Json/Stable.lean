import RustdocIndex.Proofs.Json.Token
import RustdocIndex.Proofs.Text.Reader

/-! The readers of JSON text look no further than the next character behind a value. -/
namespace RustdocIndex.Json

/-- Inside arrays and objects, three characters end values. -/
instance : Stops Stop where
  Ends c := c = ',' ∨ c = ']' ∨ c = '\x7d'
  Gap e := e = .problem .expectedValue []
  tooLong := .integerTooLong
  Long := BeginsLong
  isSpace_of_ends := by rintro c (rfl | rfl | rfl) <;> rfl
  not_gap_tooLong n := by simp
  head_of_long := BeginsLong.head

variable {s t : List Char}

/-- Only a missing value can be at the end of a text that could go on with an integer. -/
theorem not_matters_problem {p : Problem} (hp : p ≠ .expectedValue) (s : List Char) :
    ¬ Matters (Stop.problem p s) := by
  rintro (h | ⟨n, h⟩)
  · cases h
    exact hp rfl
  · cases h

theorem not_matters_tooDeep : ¬ Matters Stop.tooDeep := by
  rintro (h | ⟨n, h⟩) <;> cases h

theorem Joins.endsNumber (h : Joins Stop s t) : EndsNumber t := by
  obtain ⟨w, d, a, b, hw, hd, rfl, rfl⟩ := h
  refine .blank hw (endsNumber_cons ?_ b)
  rcases hd with rfl | rfl | rfl <;> decide

/-- No failure inside a string is the lack of a value. -/
theorem scanString_fails (start : List Char) (seen : Text) (s : List Char) :
    FailsOnly (fun e => ¬ Matters e) (scanString start seen s) := by
  fun_induction scanString start seen s with
  | _ => first
    | assumption
    | exact .ok _
    | exact .error (not_matters_problem (by simp) _)

theorem scanString_close {start : List Char} {seen : Text} :
    scanString start seen ('"' :: s) = .ok (seen.reverse, s) := by
  rw [scanString.eq_def]
  simp

theorem scanString_unit {start : List Char} {seen : Text} {a b c d f : Char} {u : CodePoint}
    (hu : hexUnit? a b c d = some u) :
    scanString start seen ('\\' :: 'u' :: a :: b :: c :: d :: f :: s) =
      scanString start (seen.push u) (f :: s) := by
  rw [scanString.eq_def]
  simp [hu]

theorem scanString_escaped {start : List Char} {seen : Text} {c x : Char} (hx : escaped? c = some x) :
    scanString start seen ('\\' :: c :: s) = scanString start (.ofChar x :: seen) s := by
  have hne : c ≠ 'u' := by
    rintro rfl
    cases hx
  rw [scanString.eq_def]
  simp [hne, hx]

theorem scanString_plain {start : List Char} {seen : Text} {c : Char} (hq : c ≠ '"') (hb : c ≠ '\\')
    (hc : ¬ c.toNat < 32) : scanString start seen (c :: s) = scanString start (.ofChar c :: seen) s := by
  rw [scanString.eq_def]
  simp [hq, hb, hc]

/-- Strings are read alike wherever they began. -/
theorem scanString_consumes {start : List Char} {seen : Text} {r : Text × List Char}
    (h : scanString start seen s = .ok r) :
    ∃ c, s = c ++ r.2 ∧ ∀ start t, scanString start seen (c ++ t) = .ok (r.1, t) := by
  fun_induction scanString start seen s with
  | case1 => cases h
  | case2 seen s =>
    cases h
    exact ⟨['"'], rfl, fun start t => scanString_close⟩
  | case3 => cases h
  | case4 seen a b c d f s u hu hq ih =>
    obtain ⟨x, hs, hx⟩ := ih h
    cases x with
    | nil => cases hx start []
    | cons e x =>
      cases hs
      exact ⟨'\\' :: 'u' :: a :: b :: c :: d :: f :: x, rfl, fun start t =>
        (scanString_unit hu).trans (hx start t)⟩
  | case5 => cases h
  | case6 => cases h
  | case7 seen e s he x hx hq ih =>
    obtain ⟨c, rfl, hc⟩ := ih h
    exact ⟨'\\' :: e :: c, rfl, fun start t => (scanString_escaped hx).trans (hc start t)⟩
  | case8 => cases h
  | case9 => cases h
  | case10 seen e s hq hb hc ih =>
    obtain ⟨c, rfl, hread⟩ := ih h
    exact ⟨e :: c, rfl, fun start t => (scanString_plain hq hb hc).trans (hread start t)⟩

/-- A string behind its opening quote. -/
def string : Reader Stop (Text × List Char) := fun t => scanString ('"' :: t) [] t

/-- A string ends with its closing quote, so that anything may follow. -/
theorem stable_string (free : Prop) : Stable free string := by
  refine .of_fails (fun s => scanString_fails _ _ s) fun {s r} h => ?_
  obtain ⟨c, hs, hc⟩ := scanString_consumes h
  exact ⟨c, hs, fun t _ => hc _ t⟩

theorem scanLiteral?_integer {sign digits : List Char} (hi : IsInteger sign digits)
    (rest : List Char) : scanLiteral? (sign ++ (digits ++ rest)) = none := by
  obtain ⟨d, ds, rfl⟩ := List.exists_cons_of_ne_nil hi.digits_ne
  have hd : d.isDigit := hi.isDigit d (by simp)
  have hne : ∀ e : Char, e.isDigit = false → ¬ e = d := by
    rintro e he rfl
    simp [he] at hd
  rcases hi.sign with rfl | rfl
  · simp [scanLiteral?, literals, after?, List.findSome?, hne]
  · simp [scanLiteral?, literals, after?, List.findSome?, hne]

/-- A literal word is read by itself, whatever follows it. -/
theorem scanLiteral?_consumes {x : Json × List Char} (h : scanLiteral? s = some x) :
    ∃ c, c ≠ [] ∧ s = c ++ x.2 ∧ ∀ t, scanLiteral? (c ++ t) = some (x.1, t) := by
  obtain ⟨x, rest⟩ := x
  obtain ⟨name, hs, hmem⟩ := scanLiteral?_cases h
  refine ⟨name.toList, ?_, hs, fun t => ?_⟩
  · rcases hmem with ⟨rfl, -⟩ | ⟨rfl, -⟩ | ⟨rfl, -⟩ | ⟨rfl, -⟩ | ⟨rfl, -⟩ | ⟨rfl, -⟩ <;> simp
  · rcases hmem with ⟨rfl, rfl⟩ | ⟨rfl, rfl⟩ | ⟨rfl, rfl⟩ | ⟨rfl, rfl⟩ | ⟨rfl, rfl⟩ | ⟨rfl, rfl⟩ <;>
      simp [scanLiteral?, literals, after?]

/-- A value that is neither a string nor in brackets. -/
def scalar : Reader Stop (Json × List Char) := fun s =>
  match scanLiteral? s with
  | some found => .ok found
  | none => scanNumber s

/-- The only way for a scalar to be too long is an integer at the front. -/
theorem scalar_long {n : Nat} : scalar s = .error (.integerTooLong n) ↔ BeginsLong n s := by
  unfold scalar
  constructor
  · intro h
    split at h
    · cases h
    · exact scanNumber_long.mp h
  · intro h
    obtain ⟨-, sign, digits, rest, rfl, hi, -⟩ := id h
    rw [scanLiteral?_integer hi]
    exact scanNumber_long.mpr h

/-- A value is missing only where the text is over. -/
theorem scalar_gap {e : Stop} (h : scalar s = .error e) (he : Stops.Gap e) : s = [] := by
  unfold scalar at h
  split at h
  · cases h
  · rcases exists_number s with hs | ⟨sign, digits, rest, rfl, hi, hw⟩
    · rw [hs] at h
      cases h
      cases he
      rfl
    · cases he
      rw [scanNumber_append hi hw] at h
      simp only [finish] at h
      split at h
      · split at h <;> cases h
      · cases h

/-- A number is read up to a character that no number goes on with, and only that character has to
stay. -/
theorem stable_scalar : Stable False scalar where
  consumes {s r} h := by
    unfold scalar at h
    split at h
    · next found hfound =>
      cases h
      obtain ⟨c, -, hs, hc⟩ := scanLiteral?_consumes hfound
      refine ⟨c, hs, fun t _ => ?_⟩
      simp only [scalar, hc]
      rfl
    · obtain ⟨sign, digits, more, hi, rfl, hread⟩ := scanNumber_consumes h
      refine ⟨sign ++ (digits ++ more), by simp [Leaves.rest], fun t ht => ?_⟩
      simp only [List.append_assoc, scalar, scanLiteral?_integer hi]
      exact hread t (Joins.endsNumber (ht.resolve_left id))
  meets {s e n u} h he hu := by
    rw [scalar_gap h he]
    exact scalar_long.mpr hu
  met {s n} h := ⟨[], s, _, rfl, scalar_long.mp h, rfl, rfl⟩

variable {budget depth : Nat}

/-- What follows an opening bracket, unless there are too many. -/
def bracket (close : Char) (empty : Json) (depth : Nat)
    (inside : Nat → Reader Stop (Json × List Char)) : Reader Stop (Json × List Char) :=
  match depth with
  | 0 => fun _ => .error .tooDeep
  | depth + 1 => onNext close (fun rest => .ok (empty, rest)) (inside depth)

theorem bracket_succ {close : Char} {empty : Json} {inside : Nat → Reader Stop (Json × List Char)} :
    bracket close empty (depth + 1) inside =
      onNext close (fun rest => .ok (empty, rest)) (inside depth) := rfl

/-- A value, and before it white space. -/
def spacedValue (budget depth : Nat) : Reader Stop (Json × List Char) := fun s =>
  value budget depth (skipSpace s)

def spacedElements (budget depth : Nat) (seen : List Json) : Reader Stop (Json × List Char) := fun s =>
  elements budget depth seen (skipSpace s)

def spacedMembers (budget depth : Nat) (seen : Fields Text Json) :
    Reader Stop (Json × List Char) := fun s =>
  members budget depth seen (skipSpace s)

/-- A value as a choice by its first character, the form that stability is proved for. -/
theorem spacedValue_eq (budget depth : Nat) : spacedValue (budget + 1) depth =
    onNext '"' (fun t => string t >>= fun r => .ok (.text r.1, r.2))
      (onNext '[' (bracket ']' (.array []) depth fun depth => spacedElements budget depth [])
        (onNext '\x7b' (bracket '\x7d' (.object []) depth fun depth => spacedMembers budget depth [])
          fun s => scalar (skipSpace s))) := by
  funext s
  have hnil : skipSpace ([] : List Char) = [] := rfl
  cases hs : skipSpace s with
  | nil =>
    simp only [spacedValue, value, onNext, hs, hnil]
    rfl
  | cons c t =>
    have hct : skipSpace (c :: t) = c :: t := by rw [← hs, skipSpace_skipSpace]
    simp only [spacedValue, value, onNext, hs, hct]
    by_cases h1 : c = '"'
    · subst h1
      rfl
    by_cases h2 : c = '['
    · subst h2
      cases depth with
      | zero => rfl
      | succ depth =>
        simp only [if_true, bracket_succ, onNext, spacedElements]
        cases ht : skipSpace t with
        | nil => rfl
        | cons d u =>
          have hdu : skipSpace (d :: u) = d :: u := by rw [← ht, skipSpace_skipSpace]
          by_cases hd : d = ']'
          · subst hd
            rfl
          · simp [hd, hdu]
    by_cases h3 : c = '\x7b'
    · subst h3
      cases depth with
      | zero => rfl
      | succ depth =>
        simp only [if_true, bracket_succ, onNext, spacedMembers]
        cases ht : skipSpace t with
        | nil => rfl
        | cons d u =>
          have hdu : skipSpace (d :: u) = d :: u := by rw [← ht, skipSpace_skipSpace]
          by_cases hd : d = '\x7d'
          · subst hd
            rfl
          · simp [hd, hdu]
    simp only [h1, h2, h3, if_false]
    rfl

/-- What follows an element. -/
def afterElement (budget depth : Nat) (seen : List Json) : Reader Stop (Json × List Char) :=
  onNext ']' (fun rest => .ok (.array seen.reverse, rest))
    (onNext ',' (spacedElements budget depth seen) fun t => .error (.problem .expectedComma t))

/-- An element is followed by a comma or by the closing bracket. -/
theorem spacedElements_eq (budget depth : Nat) (seen : List Json) :
    spacedElements (budget + 1) depth seen = fun s => spacedValue budget depth s >>= fun r =>
      afterElement budget depth (r.1 :: seen) r.2 := by
  funext s
  refine congrArg (spacedValue budget depth s >>= ·) (funext fun r => ?_)
  obtain ⟨x, t⟩ := r
  simp only [afterElement, onNext]
  cases ht : skipSpace t with
  | nil => rfl
  | cons d u =>
    have hdu : skipSpace (d :: u) = d :: u := by rw [← ht, skipSpace_skipSpace]
    by_cases h1 : d = ']'
    · subst h1
      rfl
    by_cases h2 : d = ','
    · subst h2
      rfl
    simp [h1, h2, hdu]

/-- What follows a member. -/
def afterMember (budget depth : Nat) (seen : Fields Text Json) : Reader Stop (Json × List Char) :=
  onNext '\x7d' (fun rest => .ok (.object seen, rest))
    (onNext ',' (spacedMembers budget depth seen) fun t => .error (.problem .expectedComma t))

/-- What follows the key of a member. -/
def afterKey (budget depth : Nat) (seen : Fields Text Json) (key : Text) :
    Reader Stop (Json × List Char) :=
  onNext ':' (fun s => spacedValue budget depth s >>= fun r =>
    afterMember budget depth (seen.put key r.1) r.2) fun t => .error (.problem .expectedColon t)

theorem match_afterMember (budget depth : Nat) (seen : Fields Text Json) (s : List Char) :
    (match skipSpace s with
      | '\x7d' :: rest => pure (.object seen, rest)
      | ',' :: rest => members budget depth seen (skipSpace rest)
      | t => .error (.problem .expectedComma t)) = afterMember budget depth seen s := by
  simp only [afterMember, onNext]
  cases ht : skipSpace s with
  | nil => rfl
  | cons d u =>
    have hdu : skipSpace (d :: u) = d :: u := by rw [← ht, skipSpace_skipSpace]
    by_cases h1 : d = '\x7d'
    · subst h1
      rfl
    by_cases h2 : d = ','
    · subst h2
      rfl
    simp [h1, h2, hdu]

theorem match_afterKey (budget depth : Nat) (seen : Fields Text Json) (key : Text) (s : List Char) :
    (match skipSpace s with
      | ':' :: t => value budget depth (skipSpace t) >>= fun r =>
          afterMember budget depth (seen.put key r.1) r.2
      | t => .error (.problem .expectedColon t)) = afterKey budget depth seen key s := by
  simp only [afterKey, onNext]
  cases skipSpace s with
  | nil => rfl
  | cons d u =>
    by_cases hd : d = ':'
    · subst hd
      rfl
    · simp [hd]

/-- A member begins with the string that is its key. -/
theorem spacedMembers_eq (budget depth : Nat) (seen : Fields Text Json) :
    spacedMembers (budget + 1) depth seen =
      onNext '"' (fun s => string s >>= fun k => afterKey budget depth seen k.1 k.2)
        fun t => .error (.problem .expectedKey t) := by
  funext s
  simp only [spacedMembers, members, onNext]
  cases hs : skipSpace s with
  | nil => rfl
  | cons c t =>
    by_cases hc : c = '"'
    · subst hc
      refine bind_congr_ok rfl fun k _ => ?_
      rw [← match_afterKey]
      cases hk : skipSpace k.2 with
      | nil => rfl
      | cons d u =>
        by_cases hd : d = ':'
        · subst hd
          exact bind_congr_ok rfl fun r _ => match_afterMember ..
        · simp [hd]
    · simp [hc]

theorem not_matters_problem' {p : Problem} (hp : p ≠ .expectedValue) :
    ∀ t, ∃ e, (Except.error (Stop.problem p t) : Except Stop (Json × List Char)) = .error e ∧
      ¬ Matters e :=
  fun t => ⟨_, rfl, not_matters_problem hp t⟩

theorem stable_done (g : Json) (free : Prop) :
    Stable free fun rest => (Except.ok (g, rest) : Except Stop (Json × List Char)) :=
  .ok (g, []) fun _ => rfl

theorem stable_bracket {close : Char} (hc : Mark close) (empty : Json)
    {inside : Nat → Reader Stop (Json × List Char)} (h : ∀ depth, Stable False (inside depth))
    (depth : Nat) : Stable False (bracket close empty depth inside) := by
  cases depth with
  | zero => exact .error fun t => ⟨_, rfl, not_matters_tooDeep⟩
  | succ depth => exact .onNext hc (stable_done empty False) (h depth) False.elim

theorem stable_afterElement {seen : List Json}
    (h : Stable False (spacedElements budget depth seen)) :
    Stable False (afterElement budget depth seen) := by
  refine .onNext (by decide) (stable_done _ _) ?_ False.elim
  exact .onNext (by decide) h (.error (not_matters_problem' (by simp))) False.elim

/-- Behind a value stands a comma or a bracket, and both end numbers. -/
theorem takes_afterElement {seen : List Json} (h : Stable False (spacedElements budget depth seen)) :
    Takes (afterElement budget depth seen) := by
  refine .onNext (.inr (.inl rfl)) (stable_done _ _) ?_
  exact .onNext (.inl rfl) h (.error_of (not_matters_problem' (by simp)))

theorem stable_afterMember {seen : Fields Text Json}
    (h : Stable False (spacedMembers budget depth seen)) :
    Stable False (afterMember budget depth seen) := by
  refine .onNext (by decide) (stable_done _ _) ?_ False.elim
  exact .onNext (by decide) h (.error (not_matters_problem' (by simp))) False.elim

theorem takes_afterMember {seen : Fields Text Json}
    (h : Stable False (spacedMembers budget depth seen)) :
    Takes (afterMember budget depth seen) := by
  refine .onNext (.inr (.inr rfl)) (stable_done _ _) ?_
  exact .onNext (.inl rfl) h (.error_of (not_matters_problem' (by simp)))

/-- Values, and what is left of arrays and objects. -/
structure StableValues (budget : Nat) : Prop where
  value (depth : Nat) : Stable False (spacedValue budget depth)
  elements (depth : Nat) (seen : List Json) : Stable False (spacedElements budget depth seen)
  members (depth : Nat) (seen : Fields Text Json) : Stable False (spacedMembers budget depth seen)

/-- By induction on the budget: values, elements and members call each other with one less. -/
theorem stable_values (budget : Nat) : StableValues budget := by
  induction budget with
  | zero =>
    have hzero : ∀ t : List Char, ∃ e, (Except.error Stop.tooDeep : Except Stop (Json × List Char)) =
        .error e ∧ ¬ Matters e := fun _ => ⟨_, rfl, not_matters_tooDeep⟩
    exact ⟨fun _ => .error hzero, fun _ _ => .error hzero, fun _ _ => .error hzero⟩
  | succ budget ih =>
    refine ⟨fun depth => ?_, fun depth seen => ?_, fun depth seen => ?_⟩
    · rw [spacedValue_eq]
      have hstring : Stable False fun t => string t >>= fun r =>
          (Except.ok (.text r.1, r.2) : Except Stop (Json × List Char)) :=
        (stable_string True).bind (fun r => stable_done (.text r.1) _) fun _ => .of_free _
      refine .onNext (by decide) hstring ?_ False.elim
      refine .onNext (by decide) (stable_bracket (by decide) _ (fun depth => ih.elements depth []) _)
        ?_ False.elim
      refine .onNext (by decide) (stable_bracket (by decide) _ (fun depth => ih.members depth []) _)
        ?_ False.elim
      exact .skip stable_scalar False.elim
    · rw [spacedElements_eq]
      refine (ih.value depth).bind (fun r => stable_afterElement (ih.elements depth (r.1 :: seen)))
        fun r => ?_
      exact (takes_afterElement (ih.elements depth (r.1 :: seen))).linked
    · rw [spacedMembers_eq]
      have hvalue (key : Text) : Stable False fun s => spacedValue budget depth s >>= fun r =>
          afterMember budget depth (seen.put key r.1) r.2 :=
        (ih.value depth).bind
          (fun r => stable_afterMember (ih.members depth (seen.put key r.1)))
          fun r => (takes_afterMember (ih.members depth (seen.put key r.1))).linked
      have hkey (key : Text) : Stable False (afterKey budget depth seen key) :=
        .onNext (by decide) (hvalue key) (.error (not_matters_problem' (by simp))) False.elim
      refine .onNext (by decide) ?_ (.error (not_matters_problem' (by simp))) False.elim
      exact (stable_string True).bind (fun k => hkey k.1) fun _ => .of_free _

/-- Two budgets with which readers find the same, in texts that both are enough for. -/
structure SameValues (budget budget' : Nat) : Prop where
  value (depth : Nat) (s : List Char) : 2 * s.length < budget → 2 * s.length < budget' →
    spacedValue budget depth s = spacedValue budget' depth s
  elements (depth : Nat) (seen : List Json) (s : List Char) : 2 * s.length + 1 < budget →
    2 * s.length + 1 < budget' →
      spacedElements budget depth seen s = spacedElements budget' depth seen s
  members (depth : Nat) (seen : Fields Text Json) (s : List Char) : 2 * s.length + 1 < budget →
    2 * s.length + 1 < budget' →
      spacedMembers budget depth seen s = spacedMembers budget' depth seen s

theorem bracket_congr {close : Char} {empty : Json}
    {inside inside' : Nat → Reader Stop (Json × List Char)} {t : List Char}
    (h : ∀ depth, inside depth (skipSpace t) = inside' depth (skipSpace t)) (depth : Nat) :
    bracket close empty depth inside t = bracket close empty depth inside' t := by
  cases depth with
  | zero => rfl
  | succ depth => exact onNext_congr (fun _ _ => rfl) (h depth)

/-- Two budgets that both suffice for a text read the same. -/
theorem sameValues (budget budget' : Nat) : SameValues budget budget' := by
  induction budget generalizing budget' with
  | zero => refine ⟨fun _ s h => ?_, fun _ _ s h => ?_, fun _ _ s h => ?_⟩ <;> omega
  | succ budget ih =>
    cases budget' with
    | zero => refine ⟨fun _ s _ h => ?_, fun _ _ s _ h => ?_, fun _ _ s _ h => ?_⟩ <;> omega
    | succ budget' =>
      have ih := ih budget'
      refine ⟨fun depth s h h' => ?_, fun depth seen s h h' => ?_, fun depth seen s h h' => ?_⟩
      · have hlen {t : List Char} {c : Char} (ht : skipSpace (skipSpace s) = c :: t) :
            (skipSpace t).length < s.length := by
          rw [skipSpace_skipSpace] at ht
          exact (length_skipSpace_le t).trans_lt (length_of_skipSpace ht)
        rw [spacedValue_eq, spacedValue_eq]
        refine onNext_congr (fun _ _ => rfl) ?_
        refine onNext_congr (fun t ht => bracket_congr (fun depth => ?_) depth)
          (onNext_congr (fun t ht => bracket_congr (fun depth => ?_) depth) rfl)
        · have := hlen ht
          exact ih.elements depth [] _ (by omega) (by omega)
        · rw [skipSpace_skipSpace] at ht
          have := hlen ht
          exact ih.members depth [] _ (by omega) (by omega)
      · rw [spacedElements_eq, spacedElements_eq]
        refine bind_congr_ok (ih.value depth s (by omega) (by omega)) fun r hr => ?_
        have hr : r.2.length ≤ s.length := ((stable_values budget).value depth).length_le hr
        refine onNext_congr (fun _ _ => rfl) (onNext_congr (fun t ht => ?_) rfl)
        rw [skipSpace_skipSpace] at ht
        have := length_of_skipSpace ht
        exact ih.elements depth (r.1 :: seen) t (by omega) (by omega)
      · rw [spacedMembers_eq, spacedMembers_eq]
        refine onNext_congr (fun u hu => bind_congr_ok rfl fun k hk => ?_) rfl
        have hk : k.2.length ≤ u.length := (stable_string True).length_le hk
        have hu := length_of_skipSpace hu
        refine onNext_congr (fun v hv => bind_congr_ok ?_ fun r hr => ?_) rfl
        · have := length_of_skipSpace hv
          exact ih.value depth v (by omega) (by omega)
        · have hv := length_of_skipSpace hv
          have hr : r.2.length ≤ v.length := ((stable_values budget).value depth).length_le hr
          refine onNext_congr (fun _ _ => rfl) (onNext_congr (fun t ht => ?_) rfl)
          rw [skipSpace_skipSpace] at ht
          have := length_of_skipSpace ht
          exact ih.members depth (seen.put k.1 r.1) t (by omega) (by omega)

/-- The value at the front of a text that is read as a whole. -/
def front : Reader Stop (Json × List Char) := fun s => spacedValue (2 * s.length + 2) maxDepth s

theorem stable_front : Stable False front := by
  have hneed : front = fun s => spacedValue (2 * s.length + 2) maxDepth s := rfl
  rw [hneed]
  refine .of_budget (k := fun budget => spacedValue budget maxDepth)
    (fun budget => (stable_values budget).value maxDepth) (fun s b hb => ?_) fun s t => ?_
  · exact (sameValues b _).value maxDepth s (by omega) (by omega)
  · simp only [List.length_append]
    omega

/-- Without a byte order mark, a document is one value with white space around it and nothing else.
-/
theorem parse_eq (h : ∀ t, s ≠ '\uFEFF' :: t) : parse s = front s >>= fun r =>
    if skipSpace r.2 = [] then .ok r.1 else .error (.problem .extraData (skipSpace r.2)) := by
  rw [parse]
  · refine congrArg (front s >>= ·) (funext fun r => ?_)
    obtain ⟨x, rest⟩ := r
    simp only
    cases skipSpace rest with
    | nil => rfl
    | cons c t => simp
  · exact h

/-- Such an error comes from the value, since nothing behind it is read for a number. -/
theorem parse_eq_error {e : Stop} (he : Matters e) :
    parse s = .error e ↔ (∀ t, s ≠ '\uFEFF' :: t) ∧ front s = .error e := by
  by_cases h : ∃ t, s = '\uFEFF' :: t
  · obtain ⟨t, rfl⟩ := h
    refine ⟨fun hp => ?_, fun hp => absurd rfl (hp.1 t)⟩
    cases hp
    exact absurd he (not_matters_problem (by simp) _)
  · rw [not_exists] at h
    rw [parse_eq h, bind_eq_error]
    refine ⟨fun hp => ⟨h, hp.resolve_right ?_⟩, fun hp => .inl hp.2⟩
    rintro ⟨r, -, hr⟩
    split at hr <;> cases hr
    exact not_matters_problem (by simp) _ he

/-- A text is refused for the length of an integer where that integer stands at the end of a text
that lacks a value. -/
theorem parse_integerTooLong : (∃ n, parse s = .error (.integerTooLong n)) ↔
    ∃ front u n, s = front ++ u ∧ BeginsLong n u ∧
      parse front = .error (.problem .expectedValue []) := by
  constructor
  · rintro ⟨n, h⟩
    obtain ⟨hmark, h⟩ := (parse_eq_error (.inr ⟨n, rfl⟩)).mp h
    obtain ⟨before, u, e, rfl, hu, hbefore, he⟩ := stable_front.met h
    refine ⟨before, u, n, rfl, hu, ?_⟩
    cases he
    refine (parse_eq_error (.inl rfl)).mpr ⟨fun t ht => hmark (t ++ u) ?_, hbefore⟩
    rw [ht]
    rfl
  · rintro ⟨before, u, n, rfl, hu, h⟩
    obtain ⟨hmark, h⟩ := (parse_eq_error (.inl rfl)).mp h
    refine ⟨n, (parse_eq_error (.inr ⟨n, rfl⟩)).mpr ⟨fun t ht => ?_, stable_front.meets h rfl hu⟩⟩
    cases before with
    | nil =>
      obtain ⟨c, v, rfl, hc⟩ := hu.head
      cases ht
      exact absurd hc (by decide)
    | cons c before =>
      cases ht
      exact hmark before rfl

end RustdocIndex.Json
