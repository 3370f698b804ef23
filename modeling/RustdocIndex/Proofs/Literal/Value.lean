import RustdocIndex.Proofs.Literal.Token

/-! The steps of reading a value, each told from the first character that is no white space. -/
namespace RustdocIndex.Literal

variable {vars : Variables} {budget depth : Nat} {store : Store} {c : Char} {s t : List Char}

/-- White space in front of a value makes no difference to it. -/
theorem value_congr {s' : List Char} (h : skipSpace s = skipSpace s') :
    value vars (budget + 1) depth store s = value vars (budget + 1) depth store s' := by
  rw [value, value, h]

theorem value_space (h : isSpace c = true) (s : List Char) :
    value vars (budget + 1) depth store (c :: s) = value vars (budget + 1) depth store s :=
  value_congr (skipSpace_space h s)

theorem value_skipSpace (s : List Char) :
    value vars (budget + 1) depth store (skipSpace s) = value vars (budget + 1) depth store s :=
  value_congr (skipSpace_skipSpace s)

/-- The first character tells what is read. The lemmas below rest on this one, so that the definition
is opened once. -/
theorem value_cons (hs : isSpace c = false) (t : List Char) :
    value vars (budget + 1) depth store (c :: t) =
      if c = '"' ∨ c = '\'' then do
        let (x, rest) ← scanString (c :: t) c [] t
        pure (.text x, store, rest)
      else if c = '[' then
        match depth with
        | 0 => .error (.problem .tooDeep t)
        | depth + 1 => elements vars budget depth store [] t
      else if c = '\x7b' then
        match depth with
        | 0 => .error (.problem .tooDeep t)
        | depth + 1 => members vars budget depth store [] t
      else if c = '-' ∨ c.isDigit then do
        let (n, rest) ← scanInteger (c :: t)
        pure (.int n, store, rest)
      else if isNameStart c then do
        let (x, rest) ← reference vars store (c :: t)
        pure (x, store, rest)
      else .error (.problem (.unexpectedCharacter c) (c :: t)) := by
  have hskip := skipSpace_cons hs t
  rw [value]
  split
  · next h => cases hskip.symm.trans h
  · next h =>
    cases hskip.symm.trans h
    rfl

theorem value_string (hc : c = '"' ∨ c = '\'') :
    value vars (budget + 1) depth store (c :: t) =
      (scanString (c :: t) c [] t).map fun (x, rest) => (.text x, store, rest) := by
  have hs : isSpace c = false := by rcases hc with rfl | rfl <;> rfl
  rw [value_cons hs]
  simp only [hc, if_true]
  cases scanString (c :: t) c [] t <;> rfl

/-- An array takes one level from its elements, and one call from the budget. -/
theorem value_array : value vars (budget + 1) (depth + 1) store ('[' :: t) =
    elements vars budget depth store [] t := by
  rw [value_cons (by rfl)]
  simp

theorem value_object : value vars (budget + 1) (depth + 1) store ('\x7b' :: t) =
    members vars budget depth store [] t := by
  rw [value_cons (by rfl)]
  simp

/-- What opens one level too many is refused behind its bracket, whatever it would hold. -/
theorem value_tooDeep (hc : c = '[' ∨ c = '\x7b') :
    value vars (budget + 1) 0 store (c :: t) = .error (.problem .tooDeep t) := by
  rcases hc with rfl | rfl
  · rw [value_cons (by rfl)]
    simp
  · rw [value_cons (by rfl)]
    simp

theorem value_integer (hc : c = '-' ∨ c.isDigit) :
    value vars (budget + 1) depth store (c :: t) =
      (scanInteger (c :: t)).map fun (n, rest) => (.int n, store, rest) := by
  have hs : isSpace c = false := by
    rcases hc with rfl | hd
    · rfl
    · exact isSpace_of_isDigit hd
  have hne : ∀ d, d.isDigit = false → d ≠ '-' → c ≠ d := by
    rintro d hd hm rfl
    simp_all
  rw [value_cons hs]
  simp only [hne '"' (by rfl) (by decide), hne '\'' (by rfl) (by decide),
    hne '[' (by rfl) (by decide), hne '\x7b' (by rfl) (by decide), or_self, if_false, hc, if_true]
  cases scanInteger (c :: t) <;> rfl

/-- A name stands for a variable, an element or a word, and leaves the store as it is. -/
theorem value_name (hc : isNameStart c) :
    value vars (budget + 1) depth store (c :: t) =
      (reference vars store (c :: t)).map fun (x, rest) => (x, store, rest) := by
  have hne : ∀ d, isNameStart d = false → c ≠ d := by
    rintro d hd rfl
    simp_all
  have hdigit : c.isDigit = false := isDigit_of_isNameStart hc
  rw [value_cons (isSpace_of_isNameStart hc)]
  simp only [hne '"' (by rfl), hne '\'' (by rfl), hne '[' (by rfl), hne '\x7b' (by rfl),
    hne '-' (by rfl), hdigit, Bool.false_eq_true, or_self, if_false, hc, if_true]
  cases reference vars store (c :: t) <;> rfl

end RustdocIndex.Literal
