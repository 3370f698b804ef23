import RustdocIndex.Literal.Program
import RustdocIndex.Proofs.Result
import RustdocIndex.Proofs.Text.Scan

/-! What the scanners of literal programs read from the text of one token. -/
namespace RustdocIndex

namespace Literal

theorem expect_cons {c : Char} (h : isSpace c = false) (rest : List Char) :
    expect c (c :: rest) = .ok rest := by
  simp [expect, skipSpace_cons h]

/-- A character that is missing is told where the white space ends, with the one that stands there.
-/
theorem expect_refuses (c : Char) (s : List Char) :
    FailsOnly (· = .problem (.expected c (skipSpace s).head?) (skipSpace s)) (expect c s) := by
  unfold expect
  split
  · next h =>
    rw [h]
    split
    · exact .ok _
    · exact .error rfl
  · next h =>
    rw [h]
    exact .error rfl

theorem expect_blank {w : List Char} {c : Char} (hw : skipSpace w = []) (hc : isSpace c = false)
    (more : List Char) : expect c (w ++ c :: more) = .ok more := by
  simp [expect, skipSpace_blank_cons hw hc]

theorem isSpace_of_isNameStart {c : Char} (h : isNameStart c) : isSpace c = false := by
  by_contra hs
  simp only [isSpace, Bool.not_eq_false, Bool.or_eq_true, beq_iff_eq] at hs
  rcases hs with ((rfl | rfl) | rfl) | rfl <;> exact absurd h (by decide)

theorem isNameContinue_of_isSpace {c : Char} (h : isSpace c = true) : isNameContinue c = false := by
  simp only [isSpace, Bool.or_eq_true, beq_iff_eq] at h
  rcases h with ((rfl | rfl) | rfl) | rfl <;> decide

/-- Names and integers are told apart by their first character. -/
theorem isDigit_of_isNameStart {c : Char} (h : isNameStart c) : c.isDigit = false := by
  by_contra hd
  simp only [Char.isDigit, Bool.not_eq_false, Bool.and_eq_true, decide_eq_true_eq, ge_iff_le,
    UInt32.le_iff_toNat_le] at hd
  unfold isNameStart Char.isAlpha Char.isUpper Char.isLower at h
  simp only [Bool.or_eq_true, Bool.and_eq_true, decide_eq_true_eq, ge_iff_le,
    UInt32.le_iff_toNat_le, beq_iff_eq] at h
  have hnine : '9'.val.toNat = 57 := rfl
  have hupper : 'A'.val.toNat = 65 := rfl
  have hlower : 'a'.val.toNat = 97 := rfl
  rcases h with ((h | h) | rfl) | rfl
  · omega
  · omega
  · simp at hd
  · simp at hd

/-- A rest at which no name goes on. -/
def EndsName (rest : List Char) : Prop := ∀ c ∈ rest.head?, isNameContinue c = false

theorem endsName_cons {c : Char} (h : isNameContinue c = false) (rest : List Char) :
    EndsName (c :: rest) := by
  intro d hd
  cases hd
  exact h

/-- A text that is one name. -/
def IsName (name : String) : Prop :=
  ∃ c t, name.toList = c :: t ∧ isNameStart c ∧ t.all isNameContinue

/-- What is no name is told where the white space ends. -/
theorem scanName_refuses (s : List Char) :
    FailsOnly (· = .problem .expectedIdentifier (skipSpace s)) (scanName s) := by
  unfold scanName
  split
  · next h =>
    rw [h]
    split
    · exact .ok _
    · exact .error rfl
  · next h =>
    rw [h]
    exact .error rfl

/-- A name is read up to the first character that cannot be in it. -/
theorem scanName_name {name : String} (hn : IsName name) {rest : List Char}
    (hr : EndsName rest) : scanName (name.toList ++ rest) = .ok (name, rest) := by
  obtain ⟨c, t, hct, hc, ht⟩ := hn
  have hcont : ∀ a ∈ t, isNameContinue a := List.all_eq_true.mp ht
  have htake : (t ++ rest).takeWhile isNameContinue = t := by
    rw [List.takeWhile_append_of_pos hcont]
    cases rest with
    | nil => simp
    | cons d rest => simp [hr d rfl]
  have hdrop : (t ++ rest).dropWhile isNameContinue = rest := by
    rw [List.dropWhile_append_of_pos hcont]
    cases rest with
    | nil => simp
    | cons d rest => simp [hr d rfl]
  have hname : String.ofList (c :: t) = name := by rw [← hct, String.ofList_toList]
  rw [hct, List.cons_append, scanName, skipSpace_cons (isSpace_of_isNameStart hc)]
  simp only [hc, if_true, htake, hdrop, hname]

theorem scanName_space {c : Char} (h : isSpace c = true) (s : List Char) :
    scanName (c :: s) = scanName s := by
  simp [scanName, skipSpace_space h]

theorem skipSpace_integer {w sign digits : List Char} (hw : skipSpace w = [])
    (hi : IsInteger sign digits) (rest : List Char) :
    skipSpace (w ++ (sign ++ (digits ++ rest))) = sign ++ (digits ++ rest) := by
  obtain ⟨d, ds, rfl⟩ := List.exists_cons_of_ne_nil hi.digits_ne
  have hd : isSpace d = false := isSpace_of_isDigit (hi.isDigit d (by simp))
  rcases hi.sign with rfl | rfl
  · exact skipSpace_blank_cons hw hd _
  · exact skipSpace_blank_cons hw rfl _

theorem scanInteger_plain {s : List Char} (h : ∀ t, skipSpace s ≠ '-' :: t) :
    scanInteger s = match scanDigits (skipSpace s) with
      | ([], _) => .error (.problem .expectedInteger (skipSpace s))
      | (ds, rest) =>
        if maxIntegerDigits < ds.length then .error (.integerTooLong ds.length)
        else .ok ((ofDigits ds : Int), rest) := by
  rw [scanInteger]
  split
  next negative t heq =>
    split at heq
    · next u hu => exact absurd hu (h u)
    · cases heq
      rfl

theorem scanInteger_minus {s t : List Char} (h : skipSpace s = '-' :: t) :
    scanInteger s = match scanDigits t with
      | ([], _) => .error (.problem .expectedInteger (skipSpace s))
      | (ds, rest) =>
        if maxIntegerDigits < ds.length then .error (.integerTooLong ds.length)
        else .ok (-(ofDigits ds : Int), rest) := by
  rw [scanInteger, h]
  rfl

/-- All digits of an integer are taken before they are counted, so one that is too long tells how
long it is. -/
theorem scanInteger_integer {w sign digits rest : List Char} (hw : skipSpace w = [])
    (hi : IsInteger sign digits) (hr : EndsInteger rest) :
    scanInteger (w ++ (sign ++ (digits ++ rest))) =
      if maxIntegerDigits < digits.length then .error (.integerTooLong digits.length)
      else .ok (signed sign digits, rest) := by
  have hscan := scanDigits_append hi.isDigit hr
  have hs := skipSpace_integer hw hi rest
  obtain ⟨d, ds, rfl⟩ := List.exists_cons_of_ne_nil hi.digits_ne
  rcases hi.sign with rfl | rfl
  · have hd : d ≠ '-' := by
      rintro rfl
      exact absurd (hi.isDigit '-' (by simp)) (by decide)
    rw [scanInteger_plain, hs, List.nil_append, hscan]
    · simp [signed]
    · intro t ht
      rw [hs] at ht
      cases ht
      exact hd rfl
  · rw [scanInteger_minus hs, List.append_eq, List.nil_append, hscan]
    simp [signed]

/-- A text begins with an integer, or is refused for want of one. -/
theorem exists_integer (s : List Char) :
    scanInteger s = .error (.problem .expectedInteger (skipSpace s)) ∨
      ∃ w sign digits rest, s = w ++ (sign ++ (digits ++ rest)) ∧ skipSpace w = [] ∧
        IsInteger sign digits ∧ EndsInteger rest := by
  obtain ⟨w, hw, hs⟩ := exists_blank s
  by_cases hminus : ∃ t, skipSpace s = '-' :: t
  · obtain ⟨t, ht⟩ := hminus
    obtain ⟨digits, rest, hd, hall, hr⟩ := exists_digits t
    by_cases hne : digits = []
    · left
      have hscan := scanDigits_append hall hr
      rw [← hd, hne] at hscan
      rw [scanInteger_minus ht, hscan]
      rfl
    · exact .inr ⟨w, ['-'], digits, rest, by rw [hs, ht, hd]; rfl, hw, ⟨.inr rfl, hne, hall⟩, hr⟩
  · rw [not_exists] at hminus
    obtain ⟨digits, rest, hd, hall, hr⟩ := exists_digits (skipSpace s)
    by_cases hne : digits = []
    · left
      have hscan := scanDigits_append hall hr
      rw [← hd, hne] at hscan
      rw [scanInteger_plain hminus, hscan]
      rfl
    · exact .inr ⟨w, [], digits, rest, by rw [hs, hd]; rfl, hw, ⟨.inl rfl, hne, hall⟩, hr⟩

theorem scanInteger_written {w sign digits rest : List Char} (hw : skipSpace w = [])
    (hi : IsInteger sign digits) (hlen : digits.length ≤ maxIntegerDigits)
    (hr : EndsInteger rest) :
    scanInteger (w ++ (sign ++ (digits ++ rest))) = .ok (signed sign digits, rest) := by
  rw [scanInteger_integer hw hi hr, if_neg (Nat.not_lt.mpr hlen)]

/-- Only what is written as an integer is read as one. -/
theorem exists_written {s : List Char} {r : Int × List Char} (h : scanInteger s = .ok r) :
    ∃ w sign digits, s = w ++ (sign ++ (digits ++ r.2)) ∧ skipSpace w = [] ∧
      IsInteger sign digits ∧ digits.length ≤ maxIntegerDigits ∧ EndsInteger r.2 ∧
        r.1 = signed sign digits := by
  rcases exists_integer s with he | ⟨w, sign, digits, rest, rfl, hw, hi, hr⟩
  · cases he.symm.trans h
  · rw [scanInteger_integer hw hi hr] at h
    split at h
    · cases h
    · next hlen =>
      cases h
      exact ⟨w, sign, digits, rfl, hw, hi, Nat.not_lt.mp hlen, hr, rfl⟩

/-- An integer fails for its first character or for its length, and not in between. -/
theorem scanInteger_refuses (s : List Char) :
    FailsOnly (fun e => e = .problem .expectedInteger (skipSpace s) ∨ ∃ n, e = .integerTooLong n)
      (scanInteger s) := by
  rcases exists_integer s with h | ⟨w, sign, digits, rest, rfl, hw, hi, hr⟩
  · rw [h]
    exact .error (.inl rfl)
  · rw [scanInteger_integer hw hi hr]
    split
    · exact .error (.inr ⟨_, rfl⟩)
    · exact .ok _

/-- What can be wrong with a string of which `s` is ahead: it has no end, which is told from its
`start`, or one of the escapes ahead means nothing. -/
inductive SpoilsString (start s : List Char) : Stop → Prop
  | unterminated : SpoilsString start s (.problem .unterminatedString start)
  | hexEscape (marker : Char) {rest : List Char} (h : rest <:+ s) :
      SpoilsString start s (.problem (.invalidHexEscape marker) rest)
  | escape (c : Char) {rest : List Char} (h : rest <:+ s) :
      SpoilsString start s (.problem (.invalidEscape c) rest)

/-- What spoils a string spoils it also with more of the string in front. -/
theorem SpoilsString.behind {start s : List Char} {e : Stop} (front : List Char)
    (h : SpoilsString start s e) : SpoilsString start (front ++ s) e := by
  have hs : s <:+ front ++ s := List.suffix_append front s
  cases h with
  | unterminated => exact .unterminated
  | hexEscape marker h => exact .hexEscape marker (h.trans hs)
  | escape c h => exact .escape c (h.trans hs)

/-- A string fails by running to the end of a line or of the text, or by an escape that means
nothing. -/
theorem scanString_refuses (start : List Char) (mark : Char) (seen : Text) (s : List Char) :
    FailsOnly (SpoilsString start s) (scanString start mark seen s) := by
  fun_induction scanString start mark seen s with
  | case1 | case3 | case4 => exact .error .unterminated
  | case2 => exact .ok _
  | case5 seen a b f d rest u hu hm hn ih => exact ih.imp fun _ => .behind ['\\', 'u', a, b, f, d]
  | case6 | case7 | case9 | case10 => exact .error (.hexEscape _ List.suffix_rfl)
  | case8 seen a b rest u hu hm hn hx ih => exact ih.imp fun _ => .behind ['\\', 'x', a, b]
  | case11 seen t hm hn hu hx ih => exact ih.imp fun _ => .behind ['\\', '\'']
  | case12 seen e t hu hx hq x he hm hn ih => exact ih.imp fun _ => .behind ['\\', e]
  | case13 => exact .error (.escape _ List.suffix_rfl)
  | case14 seen e t hm hn hb ih => exact ih.imp fun _ => .behind [e]

section

variable {start : List Char} {mark : Char} {seen : Text} {s : List Char}

/-- One character of a string, which ends it, spoils it, or becomes a part of its text. -/
theorem scanString_cons (c : Char) (s : List Char) : scanString start mark seen (c :: s) =
    if c = mark then .ok (seen.reverse, s)
    else if c = '\n' then .error (.problem .unterminatedString start)
    else if c = '\\' then
      match s with
      | [] => .error (.problem .unterminatedString start)
      | e :: t =>
        if e = 'u' then
          match t with
          | a :: b :: f :: d :: rest =>
            match hexUnit? a b f d with
            | some u => scanString start mark (seen.push u) rest
            | none => .error (.problem (.invalidHexEscape e) (c :: s))
          | _ => .error (.problem (.invalidHexEscape e) (c :: s))
        else if e = 'x' then
          match t with
          | a :: b :: rest =>
            match hexPair? a b with
            | some u => scanString start mark (u :: seen) rest
            | none => .error (.problem (.invalidHexEscape e) (c :: s))
          | _ => .error (.problem (.invalidHexEscape e) (c :: s))
        else if e = '\'' then scanString start mark (.ofChar e :: seen) t
        else
          match escaped? e with
          | some x => scanString start mark (.ofChar x :: seen) t
          | none => .error (.problem (.invalidEscape e) (c :: s))
    else scanString start mark (.ofChar c :: seen) s :=
  scanString.eq_def start mark seen (c :: s)

theorem scanString_close : scanString start mark seen (mark :: s) = .ok (seen.reverse, s) := by
  rw [scanString_cons]
  simp

theorem scanString_unit {a b c d : Char} {u : CodePoint} (hm : '\\' ≠ mark)
    (hu : hexUnit? a b c d = some u) :
    scanString start mark seen ('\\' :: 'u' :: a :: b :: c :: d :: s) =
      scanString start mark (seen.push u) s := by
  rw [scanString_cons]
  simp [hm, hu]

theorem scanString_pair {a b : Char} {u : CodePoint} (hm : '\\' ≠ mark) (hu : hexPair? a b = some u) :
    scanString start mark seen ('\\' :: 'x' :: a :: b :: s) = scanString start mark (u :: seen) s := by
  rw [scanString_cons]
  simp [hm, hu]

/-- An escaped single quote stands for itself between quotes of either kind. -/
theorem scanString_quote (hm : '\\' ≠ mark) : scanString start mark seen ('\\' :: '\'' :: s) =
    scanString start mark (.ofChar '\'' :: seen) s := by
  rw [scanString_cons]
  simp [hm]

theorem scanString_escaped {c x : Char} (hm : '\\' ≠ mark) (hx : escaped? c = some x) :
    scanString start mark seen ('\\' :: c :: s) = scanString start mark (.ofChar x :: seen) s := by
  have hne : ∀ d, escaped? d = none → c ≠ d := by
    rintro d hd rfl
    simp [hd] at hx
  rw [scanString_cons]
  simp [hm, hx, hne 'u' rfl, hne 'x' rfl, hne '\'' rfl]

theorem scanString_plain {c : Char} (hm : c ≠ mark) (hn : c ≠ '\n') (hb : c ≠ '\\') :
    scanString start mark seen (c :: s) = scanString start mark (.ofChar c :: seen) s := by
  rw [scanString_cons]
  simp [hm, hn, hb]

end

end Literal

end RustdocIndex
