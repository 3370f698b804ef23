import Mathlib.Data.List.DropRight
import Mathlib.Data.List.TakeWhile
import RustdocIndex.Text.Numeral
import RustdocIndex.Text.Scan

/-! White space and digits at the front of a text. -/
namespace RustdocIndex

theorem skipSpace_cons {c : Char} (h : isSpace c = false) (s : List Char) :
    skipSpace (c :: s) = c :: s := by
  simp [skipSpace, h]

theorem skipSpace_space {c : Char} (h : isSpace c = true) (s : List Char) :
    skipSpace (c :: s) = skipSpace s := by
  simp [skipSpace, h]

theorem skipSpace_append_of_blank {w : List Char} (h : skipSpace w = []) (s : List Char) :
    skipSpace (w ++ s) = skipSpace s := by
  rw [skipSpace, List.dropWhile_eq_nil_iff] at h
  exact List.dropWhile_append_of_pos h

/-- Where a text has more than white space, what follows it stays as it is. -/
theorem skipSpace_append {c : List Char} (h : skipSpace c ≠ []) (s : List Char) :
    skipSpace (c ++ s) = skipSpace c ++ s := by
  rw [skipSpace, List.dropWhile_append, if_neg]
  · rfl
  · simpa [skipSpace] using h

theorem skipSpace_skipSpace (s : List Char) : skipSpace (skipSpace s) = skipSpace s :=
  List.dropWhile_idempotent isSpace s

/-- A text is white space and then what is left when that is skipped. -/
theorem exists_blank (s : List Char) : ∃ w, skipSpace w = [] ∧ s = w ++ skipSpace s := by
  refine ⟨s.takeWhile isSpace, ?_, List.takeWhile_append_dropWhile.symm⟩
  exact List.dropWhile_eq_nil_iff.mpr fun c hc => List.mem_takeWhile_imp hc

theorem exists_blank_cons {s t : List Char} {c : Char} (h : skipSpace s = c :: t) :
    ∃ w, skipSpace w = [] ∧ s = w ++ c :: t := by
  obtain ⟨w, hw, hs⟩ := exists_blank s
  exact ⟨w, hw, by rw [hs, h]⟩

/-- What white space is skipped for is no white space itself. -/
theorem isSpace_of_skipSpace {s t : List Char} {c : Char} (h : skipSpace s = c :: t) :
    isSpace c = false := by
  have hs := skipSpace_skipSpace s
  rw [h] at hs
  by_contra hc
  simp only [Bool.not_eq_false] at hc
  have hlen := congrArg List.length hs
  have hle := List.length_dropWhile_le isSpace t
  simp [skipSpace, hc] at hlen
  omega

theorem skipSpace_blank_cons {w : List Char} {d : Char} (hw : skipSpace w = [])
    (hd : isSpace d = false) (a : List Char) : skipSpace (w ++ d :: a) = d :: a := by
  rw [skipSpace_append_of_blank hw]
  simp [skipSpace, hd]

/-- What is skipped in front of a character is skipped whatever comes behind it. -/
theorem exists_skipped {s t : List Char} {c : Char} (h : skipSpace s = c :: t) :
    ∃ w, s = w ++ c :: t ∧ ∀ u, skipSpace (w ++ c :: u) = c :: u := by
  obtain ⟨w, hw, hs⟩ := exists_blank_cons h
  exact ⟨w, hs, skipSpace_blank_cons hw (isSpace_of_skipSpace h)⟩

theorem length_skipSpace_le (s : List Char) : (skipSpace s).length ≤ s.length :=
  List.length_dropWhile_le isSpace s

/-- Skipping to a character and taking it leaves less, which is what the recursions of the readers
go down on. -/
theorem length_of_skipSpace {s t : List Char} {c : Char} (h : skipSpace s = c :: t) :
    t.length < s.length := by
  have hle := length_skipSpace_le s
  rw [h, List.length_cons] at hle
  omega

theorem isSpace_of_blank {w : List Char} {c : Char} (hw : skipSpace w = []) (hc : c ∈ w) :
    isSpace c :=
  List.dropWhile_eq_nil_iff.mp hw c hc

theorem isSpace_of_isDigit {c : Char} (h : c.isDigit) : isSpace c = false := by
  by_contra hs
  simp only [isSpace, Bool.not_eq_false, Bool.or_eq_true, beq_iff_eq] at hs
  rcases hs with ((rfl | rfl) | rfl) | rfl <;> exact absurd h (by decide)

/-- The sign and the digits of an integer. -/
structure IsInteger (sign digits : List Char) : Prop where
  sign : sign = [] ∨ sign = ['-']
  digits_ne : digits ≠ []
  isDigit : ∀ c ∈ digits, c.isDigit

/-- An integer begins with its sign or with a digit, and by this it is told from other values. -/
theorem IsInteger.head {sign digits : List Char} (h : IsInteger sign digits) (rest : List Char) :
    ∃ c t, sign ++ (digits ++ rest) = c :: t ∧ (c = '-' ∨ c.isDigit) := by
  obtain ⟨d, ds, rfl⟩ := List.exists_cons_of_ne_nil h.digits_ne
  rcases h.sign with rfl | rfl
  · exact ⟨d, ds ++ rest, rfl, .inr (h.isDigit d (by simp))⟩
  · exact ⟨'-', d :: ds ++ rest, rfl, .inl rfl⟩

/-- The value of a sign and digits. -/
def signed (sign digits : List Char) : Int :=
  if sign = [] then (ofDigits (digits.map (·.toNat - 48)) : Int)
  else -(ofDigits (digits.map (·.toNat - 48)) : Int)

/-- A rest at which no integer goes on. -/
def EndsInteger (rest : List Char) : Prop := ∀ c ∈ rest.head?, c.isDigit = false

theorem endsInteger_cons {c : Char} (h : c.isDigit = false) (rest : List Char) :
    EndsInteger (c :: rest) := by
  intro d hd
  cases hd
  exact h

/-- A text begins with an integer of `n` digits, and that is more than integers may have. -/
def BeginsLong (n : Nat) (s : List Char) : Prop :=
  maxIntegerDigits < n ∧ ∃ sign digits rest, s = sign ++ (digits ++ rest) ∧
    IsInteger sign digits ∧ digits.length = n ∧ EndsInteger rest

theorem BeginsLong.head {n : Nat} {s : List Char} (h : BeginsLong n s) :
    ∃ c t, s = c :: t ∧ (c = '-' ∨ c.isDigit) := by
  obtain ⟨-, sign, digits, rest, rfl, hi, -⟩ := h
  exact hi.head rest

/-- Digits are read up to the first character that is none. -/
theorem scanDigits_append {digits rest : List Char} (hd : ∀ c ∈ digits, c.isDigit)
    (hr : EndsInteger rest) : scanDigits (digits ++ rest) = (digits.map (·.toNat - 48), rest) := by
  have hrest : rest.takeWhile Char.isDigit = [] ∧ rest.dropWhile Char.isDigit = rest := by
    cases rest with
    | nil => simp
    | cons c rest => simp [hr c rfl]
  rw [scanDigits, List.takeWhile_append_of_pos hd, List.dropWhile_append_of_pos hd, hrest.1, hrest.2,
    List.append_nil]

theorem exists_digits (s : List Char) : ∃ digits rest, s = digits ++ rest ∧
    (∀ c ∈ digits, c.isDigit) ∧ EndsInteger rest := by
  refine ⟨s.takeWhile Char.isDigit, s.dropWhile Char.isDigit,
    List.takeWhile_append_dropWhile.symm, fun c hc => List.mem_takeWhile_imp hc, fun c hc => ?_⟩
  have h := List.head?_dropWhile_not Char.isDigit s
  rw [Option.mem_def.mp hc] at h
  simpa using h

end RustdocIndex
