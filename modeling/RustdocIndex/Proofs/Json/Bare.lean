import RustdocIndex.Proofs.Json.Text

/-! What a JSON text shows outside its strings: how many brackets are open at once, and whether it
writes a float. -/
namespace RustdocIndex.Json

variable {allowed : Json → Prop} {place : Place} {depth n : Nat} {c : Char}
  {s t w rest : List Char} {x : Json}

/-- The characters outside strings, of a text that begins inside one or not. -/
def bareFrom (inString : Bool) : List Char → List Char
  | [] => []
  | c :: s =>
    if c = '"' then bareFrom (!inString) s
    else if inString then
      if c = '\\' then
        match s with
        | [] => []
        | _ :: t => bareFrom true t
      else bareFrom true s
    else c :: bareFrom false s

def bare (s : List Char) : List Char := bareFrom false s

@[simp]
theorem bare_nil : bare [] = [] := rfl

@[simp]
theorem bare_cons (h : c ≠ '"') (s : List Char) : bare (c :: s) = c :: bare s := by
  rw [bare, bareFrom.eq_def]
  simp [h, bare]

theorem bare_append (h : '"' ∉ w) (s : List Char) : bare (w ++ s) = w ++ bare s := by
  induction w with
  | nil => rfl
  | cons c w ih =>
    rw [List.mem_cons, not_or] at h
    rw [List.cons_append, bare_cons (Ne.symm h.1), ih h.2, List.cons_append]

theorem bareFrom_close (s : List Char) : bareFrom true ('"' :: s) = bare s := by
  rw [bareFrom.eq_def]
  simp [bare]

theorem bareFrom_plain (hq : c ≠ '"') (hb : c ≠ '\\') (s : List Char) :
    bareFrom true (c :: s) = bareFrom true s := by
  rw [bareFrom.eq_def]
  simp [hq, hb]

/-- An escaped character is skipped, so that an escaped quote ends no string. -/
theorem bareFrom_escaped (c : Char) (s : List Char) :
    bareFrom true ('\\' :: c :: s) = bareFrom true s := by
  rw [bareFrom.eq_def]
  simp

theorem plain_of_hexValue? {v : Nat} (h : hexValue? c = some v) : c ≠ '"' ∧ c ≠ '\\' := by
  constructor <;> (rintro rfl; cases h)

theorem bareFrom_unit {a b d f : Char} {u : CodePoint} (h : hexUnit? a b d f = some u)
    (s : List Char) : bareFrom true (a :: b :: d :: f :: s) = bareFrom true s := by
  simp only [hexUnit?, bind, Option.bind_eq_some_iff] at h
  obtain ⟨_, ha, _, hb, _, hd, _, hf, -⟩ := h
  rw [bareFrom_plain (plain_of_hexValue? ha).1 (plain_of_hexValue? ha).2,
    bareFrom_plain (plain_of_hexValue? hb).1 (plain_of_hexValue? hb).2,
    bareFrom_plain (plain_of_hexValue? hd).1 (plain_of_hexValue? hd).2,
    bareFrom_plain (plain_of_hexValue? hf).1 (plain_of_hexValue? hf).2]

/-- A string that is read leaves nothing outside. -/
theorem bareFrom_scanString {start : List Char} {seen : Text} {r : Text × List Char}
    (h : scanString start seen s = .ok r) : bareFrom true s = bare r.2 := by
  fun_induction scanString start seen s with
  | case1 => cases h
  | case2 seen s =>
    cases h
    exact bareFrom_close s
  | case3 => cases h
  | case4 seen a b c d f s u hu hq ih =>
    rw [bareFrom_escaped, bareFrom_unit hu]
    exact ih h
  | case5 => cases h
  | case6 => cases h
  | case7 seen e s he x hx hq ih =>
    rw [bareFrom_escaped]
    exact ih h
  | case8 => cases h
  | case9 => cases h
  | case10 seen e s hq hb hc ih =>
    rw [bareFrom_plain hq hb]
    exact ih h

/-- A whole string leaves nothing behind, whatever brackets and points are in it. -/
theorem bare_string {str : Text} (h : scanString ('"' :: t) [] t = .ok (str, rest)) :
    bare ('"' :: t) = bare rest := by
  rw [bare, bareFrom.eq_def]
  simpa using bareFrom_scanString h

/-- The most brackets that are open at once, of which `n` are open from the start. -/
def mostOpen (n : Nat) : List Char → Nat
  | [] => n
  | c :: s =>
    if c = '[' ∨ c = '\x7b' then mostOpen (n + 1) s
    else if c = ']' ∨ c = '\x7d' then max n (mostOpen (n - 1) s)
    else mostOpen n s

/-- How many arrays and objects of a text are open at once. -/
def nesting (s : List Char) : Nat := mostOpen 0 (bare s)

theorem le_mostOpen (n : Nat) (s : List Char) : n ≤ mostOpen n s := by
  induction s generalizing n with
  | nil => exact Nat.le_refl n
  | cons c s ih =>
    simp only [mostOpen]
    split
    · exact Nat.le_of_succ_le (ih (n + 1))
    · split
      · exact Nat.le_max_left ..
      · exact ih n

/-- A character that is neither a quote nor a bracket. -/
def IsInert (c : Char) : Prop :=
  c ≠ '"' ∧ c ≠ '[' ∧ c ≠ '\x7b' ∧ c ≠ ']' ∧ c ≠ '\x7d'

instance (c : Char) : Decidable (IsInert c) := inferInstanceAs (Decidable (_ ∧ _))

theorem isInert_of_isSpace (h : isSpace c) : IsInert c := by
  refine ⟨?_, ?_, ?_, ?_, ?_⟩ <;> (rintro rfl; exact absurd h (by decide))

theorem isInert_of_isDigit (h : c.isDigit) : IsInert c := by
  refine ⟨?_, ?_, ?_, ?_, ?_⟩ <;> (rintro rfl; exact absurd h (by decide))

/-- Characters that are no brackets change nothing about the nesting. -/
theorem mostOpen_inert (h : ∀ c ∈ w, IsInert c) (n : Nat) (s : List Char) :
    mostOpen n (bare (w ++ s)) = mostOpen n (bare s) := by
  induction w with
  | nil => rfl
  | cons c w ih =>
    obtain ⟨hq, h1, h2, h3, h4⟩ := h c (by simp)
    rw [List.cons_append, bare_cons hq, mostOpen, if_neg (by tauto), if_neg (by tauto)]
    exact ih fun d hd => h d (List.mem_cons_of_mem _ hd)

theorem mostOpen_skipSpace (n : Nat) (s : List Char) :
    mostOpen n (bare (skipSpace s)) = mostOpen n (bare s) := by
  obtain ⟨w, hw, hs⟩ := exists_blank s
  conv_rhs => rw [hs]
  exact (mostOpen_inert (fun c hc => isInert_of_isSpace (isSpace_of_blank hw hc)) n _).symm

theorem mostOpen_opening (h : c = '[' ∨ c = '\x7b') (n : Nat) (s : List Char) :
    mostOpen n (bare (c :: s)) = mostOpen (n + 1) (bare (skipSpace s)) := by
  have hq : c ≠ '"' := by rcases h with rfl | rfl <;> decide
  rw [bare_cons hq, mostOpen, if_pos h, mostOpen_skipSpace]

/-- A closing bracket takes back the level that its opening one took. -/
theorem mostOpen_closing (h : c = ']' ∨ c = '\x7d') (ht : skipSpace t = c :: rest) :
    mostOpen (n + 1) (bare t) = max (n + 1) (mostOpen n (bare rest)) := by
  have hq : c ≠ '"' := by rcases h with rfl | rfl <;> decide
  have ho : ¬ (c = '[' ∨ c = '\x7b') := by rcases h with rfl | rfl <;> decide
  rw [← mostOpen_skipSpace, ht, bare_cons hq, mostOpen, if_neg ho, if_pos h]
  rfl

/-- Behind a comma or colon the same brackets are open. -/
theorem mostOpen_next (hc : IsInert c) (ht : skipSpace t = c :: rest) :
    mostOpen n (bare t) = mostOpen n (bare (skipSpace rest)) := by
  rw [← mostOpen_skipSpace, ht, mostOpen_skipSpace]
  exact mostOpen_inert (w := [c]) (by simpa using hc) n rest

theorem mostOpen_string {str : Text} (h : scanString ('"' :: t) [] t = .ok (str, rest)) :
    mostOpen n (bare ('"' :: t)) = mostOpen n (bare rest) := by
  rw [bare_string h]

/-- Words and numbers have no brackets. -/
theorem mostOpen_literal (h : scanLiteral? s = some (x, rest)) :
    mostOpen n (bare s) = mostOpen n (bare rest) := by
  obtain ⟨name, rfl, hm⟩ := scanLiteral?_cases h
  refine mostOpen_inert ?_ n _
  rcases hm with ⟨rfl, -⟩ | ⟨rfl, -⟩ | ⟨rfl, -⟩ | ⟨rfl, -⟩ | ⟨rfl, -⟩ | ⟨rfl, -⟩ <;> simp [IsInert]

theorem mostOpen_number (h : scanNumber s = .ok (x, rest)) (hx : IsExact x) :
    mostOpen n (bare s) = mostOpen n (bare rest) := by
  obtain ⟨sign, digits, more, hi, rfl, ⟨-, rfl, -⟩ | ⟨f, -, -, rfl, -⟩⟩ := scanNumber_cases h
  · have hsign : ∀ c ∈ sign, IsInert c := by
      rcases hi.sign with rfl | rfl <;> simp [IsInert]
    rw [mostOpen_inert hsign, mostOpen_inert fun c hc => isInert_of_isDigit (hi.isDigit c hc)]
  · exact absurd rfl (hx f)

/-- The levels that a reading opens at a place: where it is inside an array or object already,
that one is open and gets closed. -/
def Place.Opens (own : Nat) (s rest : List Char) : Place → Prop
  | .value => ∀ n, mostOpen n (bare s) = max (n + own) (mostOpen n (bare rest))
  | .elements _ | .members _ =>
    ∀ n, mostOpen (n + 1) (bare s) = max (n + 1 + own) (mostOpen n (bare rest))

/-- A reading needs as many levels as its text opens, and no more. -/
theorem Reads.exists_opens (h : Reads IsExact place depth s x rest) : ∃ own ≤ depth,
    place.Opens own s rest ∧ ∀ d, own ≤ d → Reads IsExact place d s x rest := by
  induction h with
  | string h =>
    refine ⟨0, Nat.zero_le _, fun n => ?_, fun d _ => .string h⟩
    rw [mostOpen_string h]
    exact (Nat.max_eq_right (le_mostOpen n _)).symm
  | emptyArray h =>
    refine ⟨1, Nat.le_add_left .., fun n => ?_, fun d hd => ?_⟩
    · rw [mostOpen_opening (.inl rfl), mostOpen_skipSpace, mostOpen_closing (.inl rfl) h]
    · obtain ⟨d, rfl⟩ := Nat.exists_eq_add_one_of_ne_zero (Nat.ne_of_gt hd)
      exact .emptyArray h
  | array _ ih =>
    obtain ⟨own, hle, ho, hr⟩ := ih
    refine ⟨own + 1, Nat.succ_le_succ hle, fun n => ?_, fun d hd => ?_⟩
    · rw [mostOpen_opening (.inl rfl), ho n, Nat.add_right_comm, Nat.add_assoc]
    · obtain ⟨d, rfl⟩ := Nat.exists_eq_add_one_of_ne_zero (Nat.ne_zero_of_lt hd)
      exact .array (hr d (Nat.le_of_succ_le_succ hd))
  | emptyObject h =>
    refine ⟨1, Nat.le_add_left .., fun n => ?_, fun d hd => ?_⟩
    · rw [mostOpen_opening (.inr rfl), mostOpen_skipSpace, mostOpen_closing (.inr rfl) h]
    · obtain ⟨d, rfl⟩ := Nat.exists_eq_add_one_of_ne_zero (Nat.ne_of_gt hd)
      exact .emptyObject h
  | object _ ih =>
    obtain ⟨own, hle, ho, hr⟩ := ih
    refine ⟨own + 1, Nat.succ_le_succ hle, fun n => ?_, fun d hd => ?_⟩
    · rw [mostOpen_opening (.inr rfl), ho n, Nat.add_right_comm, Nat.add_assoc]
    · obtain ⟨d, rfl⟩ := Nat.exists_eq_add_one_of_ne_zero (Nat.ne_zero_of_lt hd)
      exact .object (hr d (Nat.le_of_succ_le_succ hd))
  | literal h hx =>
    refine ⟨0, Nat.zero_le _, fun n => ?_, fun d _ => .literal h hx⟩
    rw [mostOpen_literal h]
    exact (Nat.max_eq_right (le_mostOpen n _)).symm
  | number h hx =>
    refine ⟨0, Nat.zero_le _, fun n => ?_, fun d _ => .number h hx⟩
    rw [mostOpen_number h hx]
    exact (Nat.max_eq_right (le_mostOpen n _)).symm
  | lastElement _ ht ih =>
    obtain ⟨own, hle, ho, hr⟩ := ih
    refine ⟨own, hle, fun n => ?_, fun d hd => .lastElement (hr d hd) ht⟩
    rw [ho (n + 1), mostOpen_closing (.inl rfl) ht]
    omega
  | nextElement _ ht _ ihx ihy =>
    obtain ⟨own, hle, ho, hr⟩ := ihx
    obtain ⟨more, hle', ho', hr'⟩ := ihy
    refine ⟨max own more, Nat.max_le.mpr ⟨hle, hle'⟩, fun n => ?_, fun d hd => ?_⟩
    · rw [ho (n + 1), mostOpen_next (by decide) ht, ho' n]
      omega
    · exact .nextElement (hr d (by omega)) ht (hr' d (by omega))
  | lastMember hk hu _ hw ih =>
    obtain ⟨own, hle, ho, hr⟩ := ih
    refine ⟨own, hle, fun n => ?_, fun d hd => .lastMember hk hu (hr d hd) hw⟩
    rw [mostOpen_string hk, mostOpen_next (by decide) hu, ho (n + 1),
      mostOpen_closing (.inr rfl) hw]
    omega
  | nextMember hk hu _ hw _ ihx ihy =>
    obtain ⟨own, hle, ho, hr⟩ := ihx
    obtain ⟨more, hle', ho', hr'⟩ := ihy
    refine ⟨max own more, Nat.max_le.mpr ⟨hle, hle'⟩, fun n => ?_, fun d hd => ?_⟩
    · rw [mostOpen_string hk, mostOpen_next (by decide) hu, ho (n + 1),
        mostOpen_next (by decide) hw, ho' n]
      omega
    · exact .nextMember hk hu (hr d (by omega)) hw (hr' d (by omega))

/-- A text that writes no float has as many levels as its brackets, whatever is allowed. -/
theorem PlainText.iff_nesting {m : Nat} (h : PlainText m s x) :
    PlainText n s x ↔ nesting s ≤ n := by
  have hopens {rest : List Char} (hrest : skipSpace rest = []) {own : Nat}
      (ho : Place.value.Opens own (skipSpace s) rest) : nesting s = own := by
    have hblank : mostOpen 0 (bare rest) = 0 := by
      rw [← mostOpen_skipSpace, hrest]
      rfl
    rw [nesting, ← mostOpen_skipSpace, ho 0, hblank]
    simp
  constructor
  · rintro ⟨rest, hr, hrest⟩
    obtain ⟨own, hle, ho, -⟩ := hr.exists_opens
    exact Nat.le_trans (Nat.le_of_eq (hopens hrest ho)) hle
  · intro hn
    obtain ⟨rest, hr, hrest⟩ := h
    obtain ⟨own, -, ho, hreads⟩ := hr.exists_opens
    exact ⟨rest, hreads n (hopens hrest ho ▸ hn), hrest⟩

/-- Whether a text without strings has a mark of floats: a point, a capital that begins one of
their names or an exponent, or a small letter that begins an exponent behind a digit. -/
def hasFloatMark : List Char → Bool
  | [] => false
  | c :: s =>
    c == '.' || c == 'E' || c == 'N' || c == 'I' || (c.isDigit && s.head? == some 'e') ||
      hasFloatMark s

/-- Whether a text writes a float outside its strings. -/
def writesFloat (s : List Char) : Bool := hasFloatMark (bare s)

theorem hasFloatMark_append (h : hasFloatMark s) : hasFloatMark (w ++ s) := by
  induction w with
  | nil => exact h
  | cons c w ih => simp [hasFloatMark, ih]

/-- An exponent shows by its letter behind digits. -/
theorem hasFloatMark_exponent (hne : w ≠ []) (hw : ∀ c ∈ w, c.isDigit) :
    hasFloatMark (w ++ 'e' :: s) := by
  induction w with
  | nil => exact absurd rfl hne
  | cons c w ih =>
    cases w with
    | nil => simp [hasFloatMark, hw c (by simp)]
    | cons d w =>
      have ih := ih (by simp) fun a ha => hw a (List.mem_cons_of_mem _ ha)
      exact hasFloatMark_append (w := [c]) ih

theorem noFloat_of_append (hq : '"' ∉ w) (h : writesFloat (w ++ s) = false) :
    writesFloat s = false := by
  rw [writesFloat, bare_append hq] at h
  by_contra hs
  rw [hasFloatMark_append (by simpa [writesFloat] using hs)] at h
  cases h

theorem noFloat_skipSpace (h : writesFloat s = false) : writesFloat (skipSpace s) = false := by
  obtain ⟨w, hw, hs⟩ := exists_blank s
  rw [hs] at h
  exact noFloat_of_append (fun hm => absurd (isSpace_of_blank hw hm) (by decide)) h

theorem noFloat_next (hc : c ≠ '"') (ht : skipSpace t = c :: rest) (h : writesFloat t = false) :
    writesFloat rest = false := by
  have hs := noFloat_skipSpace h
  rw [ht] at hs
  exact noFloat_of_append (w := [c]) (by simpa using hc.symm) hs

theorem noFloat_string {str : Text} (h : scanString ('"' :: t) [] t = .ok (str, rest))
    (hs : writesFloat ('"' :: t) = false) : writesFloat rest = false := by
  rwa [writesFloat, bare_string h] at hs

theorem noFloat_literal (h : scanLiteral? s = some (x, rest)) (hs : writesFloat s = false) :
    IsExact x ∧ writesFloat rest = false := by
  obtain ⟨name, rfl, hm⟩ := scanLiteral?_cases h
  rcases hm with ⟨rfl, rfl⟩ | ⟨rfl, rfl⟩ | ⟨rfl, rfl⟩ | ⟨rfl, -⟩ | ⟨rfl, -⟩ | ⟨rfl, -⟩
  · exact ⟨by simp [IsExact], noFloat_of_append (by simp) hs⟩
  · exact ⟨by simp [IsExact], noFloat_of_append (by simp) hs⟩
  · exact ⟨by simp [IsExact], noFloat_of_append (by simp) hs⟩
  · simp [writesFloat, hasFloatMark] at hs
  · simp [writesFloat, hasFloatMark] at hs
  · simp [writesFloat, hasFloatMark] at hs

/-- A number without the marks of floats is an integer. -/
theorem noFloat_number (h : scanNumber s = .ok (x, rest)) (hs : writesFloat s = false) :
    IsExact x ∧ writesFloat rest = false := by
  obtain ⟨sign, digits, more, hi, rfl, hmore⟩ := scanNumber_cases h
  have hsign : '"' ∉ sign := by rcases hi.sign with rfl | rfl <;> decide
  have hdigits : '"' ∉ digits := fun hm => absurd (hi.isDigit _ hm) (by decide)
  have hs := noFloat_of_append hsign hs
  rcases hmore with ⟨rfl, rfl, -⟩ | ⟨f, c, t, -, rfl, hc⟩
  · exact ⟨nofun, noFloat_of_append hdigits hs⟩
  · have hmark : writesFloat (digits ++ c :: t) = true := by
      rw [writesFloat, bare_append hdigits]
      rcases hc with rfl | rfl | rfl
      · exact hasFloatMark_append (by simp [hasFloatMark])
      · rw [bare_cons (by decide)]
        exact hasFloatMark_exponent hi.digits_ne hi.isDigit
      · exact hasFloatMark_append (by simp [hasFloatMark])
    rw [hmark] at hs
    cases hs

/-- No float is read from a text that writes none. -/
theorem Reads.exact (h : Reads allowed place depth s x rest) (hs : writesFloat s = false) :
    Reads IsExact place depth s x rest ∧ writesFloat rest = false := by
  induction h with
  | string h => exact ⟨.string h, noFloat_string h hs⟩
  | emptyArray h =>
    have ht := noFloat_of_append (w := ['[']) (by decide) hs
    exact ⟨.emptyArray h, noFloat_next (by decide) h ht⟩
  | array _ ih =>
    obtain ⟨hr, hrest⟩ := ih (noFloat_skipSpace (noFloat_of_append (w := ['[']) (by decide) hs))
    exact ⟨.array hr, hrest⟩
  | emptyObject h =>
    have ht := noFloat_of_append (w := ['\x7b']) (by decide) hs
    exact ⟨.emptyObject h, noFloat_next (by decide) h ht⟩
  | object _ ih =>
    obtain ⟨hr, hrest⟩ := ih (noFloat_skipSpace (noFloat_of_append (w := ['\x7b']) (by decide) hs))
    exact ⟨.object hr, hrest⟩
  | literal h _ => exact ⟨.literal h (noFloat_literal h hs).1, (noFloat_literal h hs).2⟩
  | number h _ => exact ⟨.number h (noFloat_number h hs).1, (noFloat_number h hs).2⟩
  | lastElement _ ht ih =>
    obtain ⟨hr, hrest⟩ := ih hs
    exact ⟨.lastElement hr ht, noFloat_next (by decide) ht hrest⟩
  | nextElement _ ht _ ihx ihy =>
    obtain ⟨hr, hrest⟩ := ihx hs
    obtain ⟨hr', hrest'⟩ := ihy (noFloat_skipSpace (noFloat_next (by decide) ht hrest))
    exact ⟨.nextElement hr ht hr', hrest'⟩
  | lastMember hk hu _ hw ih =>
    have hv := noFloat_next (by decide) hu (noFloat_string hk hs)
    obtain ⟨hr, hrest⟩ := ih (noFloat_skipSpace hv)
    exact ⟨.lastMember hk hu hr hw, noFloat_next (by decide) hw hrest⟩
  | nextMember hk hu _ hw _ ihx ihy =>
    have hv := noFloat_next (by decide) hu (noFloat_string hk hs)
    obtain ⟨hr, hrest⟩ := ihx (noFloat_skipSpace hv)
    obtain ⟨hr', hrest'⟩ := ihy (noFloat_skipSpace (noFloat_next (by decide) hw hrest))
    exact ⟨.nextMember hk hu hr hw hr', hrest'⟩

/-- A character that neither is a mark of floats nor can begin one. -/
def IsQuiet (c : Char) : Prop :=
  c ≠ '"' ∧ c ≠ '.' ∧ c ≠ 'E' ∧ c ≠ 'N' ∧ c ≠ 'I' ∧ c.isDigit = false

instance (c : Char) : Decidable (IsQuiet c) := inferInstanceAs (Decidable (_ ∧ _))

theorem isQuiet_of_isSpace (h : isSpace c) : IsQuiet c := by
  refine ⟨?_, ?_, ?_, ?_, ?_, ?_⟩
  all_goals first
    | rintro rfl
      exact absurd h (by decide)
    | by_contra hd
      rw [isSpace_of_isDigit (Bool.not_eq_false _ ▸ hd)] at h
      cases h

/-- Quiet characters are no marks, and none begins with one. -/
theorem writesFloat_quiet (h : ∀ c ∈ w, IsQuiet c) (s : List Char) :
    writesFloat (w ++ s) = writesFloat s := by
  induction w with
  | nil => rfl
  | cons c w ih =>
    obtain ⟨hq, h1, h2, h3, h4, hd⟩ := h c (by simp)
    have ih := ih fun d hd => h d (List.mem_cons_of_mem _ hd)
    rw [List.cons_append, writesFloat, bare_cons hq, hasFloatMark, ← writesFloat, ih]
    simp [h1, h2, h3, h4, hd]

theorem writesFloat_skipSpace (s : List Char) : writesFloat (skipSpace s) = writesFloat s := by
  obtain ⟨w, hw, hs⟩ := exists_blank s
  conv_rhs => rw [hs]
  exact (writesFloat_quiet (fun c hc => isQuiet_of_isSpace (isSpace_of_blank hw hc)) _).symm

theorem writesFloat_next (hc : IsQuiet c) (ht : skipSpace t = c :: rest) :
    writesFloat t = writesFloat rest := by
  rw [← writesFloat_skipSpace, ht]
  exact writesFloat_quiet (w := [c]) (by simpa using hc) rest

theorem writesFloat_string {str : Text} (h : scanString ('"' :: t) [] t = .ok (str, rest)) :
    writesFloat ('"' :: t) = writesFloat rest := by
  rw [writesFloat, bare_string h, writesFloat]

theorem writesFloat_literal (h : scanLiteral? s = some (x, rest)) (hx : IsExact x) :
    writesFloat s = writesFloat rest := by
  obtain ⟨name, rfl, hm⟩ := scanLiteral?_cases h
  refine writesFloat_quiet ?_ _
  rcases hm with ⟨rfl, -⟩ | ⟨rfl, -⟩ | ⟨rfl, -⟩ | ⟨-, rfl⟩ | ⟨-, rfl⟩ | ⟨-, rfl⟩
  · simp [IsQuiet]
  · simp [IsQuiet]
  · simp [IsQuiet]
  · exact absurd rfl (hx _)
  · exact absurd rfl (hx _)
  · exact absurd rfl (hx _)

/-- A rest as it stands behind a value: the text is over, or a comma or closing bracket is next. -/
def Closes (rest : List Char) : Prop :=
  skipSpace rest = [] ∨ ∃ c t, skipSpace rest = c :: t ∧ c ∈ [',', ']', '\x7d']

/-- What closes a value is a comma or a bracket. -/
theorem closes_cons (h : skipSpace t = c :: rest) (hc : c ∈ [',', ']', '\x7d']) : Closes t :=
  .inr ⟨c, rest, h, hc⟩

/-- What closes a value does not go on with an exponent. -/
theorem Closes.head?_bare (h : Closes rest) : (bare rest).head? ≠ some 'e' := by
  cases rest with
  | nil => simp
  | cons c rest =>
    have hc : c ≠ '"' ∧ c ≠ 'e' := by
      cases hs : isSpace c with
      | true => constructor <;> (rintro rfl; exact absurd hs (by decide))
      | false =>
        rcases h with h | ⟨d, t, h, hd⟩
        · rw [skipSpace_cons hs] at h
          cases h
        · rw [skipSpace_cons hs] at h
          cases h
          constructor <;> (rintro rfl; exact absurd hd (by decide))
    simp [bare_cons hc.1, hc.2]

theorem hasFloatMark_digits (hw : ∀ c ∈ w, c.isDigit) (hs : s.head? ≠ some 'e') :
    hasFloatMark (w ++ s) = hasFloatMark s := by
  induction w with
  | nil => rfl
  | cons c w ih =>
    have hc := hw c (by simp)
    have hne : ∀ d : Char, d.isDigit = false → (c == d) = false := by
      intro d hd
      refine beq_eq_false_iff_ne.mpr ?_
      rintro rfl
      rw [hc] at hd
      cases hd
    have ih := ih fun d hd => hw d (List.mem_cons_of_mem _ hd)
    have hnext : ((w ++ s).head? == some 'e') = false := by
      refine beq_eq_false_iff_ne.mpr ?_
      cases w with
      | nil => exact hs
      | cons d w =>
        rintro he
        cases he
        exact absurd (hw 'e' (by simp)) (by decide)
    rw [List.cons_append, hasFloatMark, ih]
    simp only [hne '.' rfl, hne 'E' rfl, hne 'N' rfl, hne 'I' rfl, hnext, Bool.and_false,
      Bool.false_or]

/-- An integer has no mark of a float, as long as it is closed behind. -/
theorem writesFloat_number (h : scanNumber s = .ok (x, rest)) (hx : IsExact x)
    (hr : Closes rest) : writesFloat s = writesFloat rest := by
  obtain ⟨sign, digits, more, hi, rfl, ⟨-, rfl, -⟩ | ⟨f, -, -, rfl, -⟩⟩ := scanNumber_cases h
  · have hsign : ∀ c ∈ sign, IsQuiet c := by
      rcases hi.sign with rfl | rfl <;> simp [IsQuiet]
    have hdigits : '"' ∉ digits := fun hm => absurd (hi.isDigit _ hm) (by decide)
    rw [writesFloat_quiet hsign, writesFloat, bare_append hdigits,
      hasFloatMark_digits hi.isDigit hr.head?_bare, writesFloat]
  · exact absurd rfl (hx f)

/-- What a reading without floats says of marks of floats at a place. -/
def Place.Unmarked (s rest : List Char) : Place → Prop
  | .value => Closes rest → writesFloat s = writesFloat rest
  | .elements _ | .members _ => writesFloat s = writesFloat rest

/-- By induction on the derivation: a text that is read without floats has none of their marks. -/
theorem Reads.unmarked (h : Reads IsExact place depth s x rest) : place.Unmarked s rest := by
  have hopen (c : Char) (hc : c = '[' ∨ c = '\x7b') (t : List Char) :
      writesFloat (c :: t) = writesFloat (skipSpace t) := by
    rw [writesFloat_skipSpace]
    refine writesFloat_quiet (w := [c]) ?_ t
    rcases hc with rfl | rfl <;> simp [IsQuiet]
  induction h with
  | string h => exact fun _ => writesFloat_string h
  | emptyArray h =>
    intro _
    rw [hopen '[' (.inl rfl), writesFloat_skipSpace, writesFloat_next (by decide) h]
  | array _ ih => exact fun _ => (hopen '[' (.inl rfl) _).trans ih
  | emptyObject h =>
    intro _
    rw [hopen '\x7b' (.inr rfl), writesFloat_skipSpace, writesFloat_next (by decide) h]
  | object _ ih => exact fun _ => (hopen '\x7b' (.inr rfl) _).trans ih
  | literal h hx => exact fun _ => writesFloat_literal h hx
  | number h hx => exact writesFloat_number h hx
  | lastElement _ ht ih =>
    exact (ih (closes_cons ht (by decide))).trans (writesFloat_next (by decide) ht)
  | nextElement _ ht _ ihx ihy =>
    rw [Place.Unmarked, ihx (closes_cons ht (by decide)), writesFloat_next (by decide) ht,
      ← writesFloat_skipSpace]
    exact ihy
  | lastMember hk hu _ hw ih =>
    rw [Place.Unmarked, writesFloat_string hk, writesFloat_next (by decide) hu,
      ← writesFloat_skipSpace, ih (closes_cons hw (by decide)), writesFloat_next (by decide) hw]
  | nextMember hk hu _ hw _ ihx ihy =>
    rw [Place.Unmarked, writesFloat_string hk, writesFloat_next (by decide) hu,
      ← writesFloat_skipSpace, ihx (closes_cons hw (by decide)), writesFloat_next (by decide) hw,
      ← writesFloat_skipSpace]
    exact ihy

/-- A text that is accepted writes no float just if it can be read without any. -/
theorem writesFloat_eq_false_iff (h : parse s = .ok x) :
    writesFloat s = false ↔ PlainText maxDepth s x := by
  constructor
  · intro hs
    obtain ⟨rest, hr, hrest⟩ := reads_of_parse h
    exact ⟨rest, (hr.exact (noFloat_skipSpace hs)).1, hrest⟩
  · rintro ⟨rest, hr, hrest⟩
    have hmarks : writesFloat (skipSpace s) = writesFloat rest := hr.unmarked (.inl hrest)
    rw [← writesFloat_skipSpace, hmarks, ← writesFloat_skipSpace, hrest]
    rfl

/-- A text that is accepted and writes no float is plain, as deep as its brackets are. -/
theorem plainText_iff_nesting (h : parse s = .ok x) (hs : writesFloat s = false) :
    PlainText n s x ↔ nesting s ≤ n :=
  ((writesFloat_eq_false_iff h).mp hs).iff_nesting

end RustdocIndex.Json
