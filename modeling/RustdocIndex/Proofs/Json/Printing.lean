import RustdocIndex.Json.Printer
import RustdocIndex.Proofs.Fields
import RustdocIndex.Proofs.Json.Text
import RustdocIndex.Proofs.Text.WellFormed

/-! What is printed of a value without floats is read back. -/
namespace RustdocIndex.Json

variable {n : Nat} {x : Json} {xs : List Json} {fields : List (Text × Json)} {s rest : List Char}

theorem hexValue?_digitChar {n : Nat} (h : n < 16) : hexValue? (Nat.digitChar n) = some n := by
  have hall : ∀ m < 16, hexValue? (Nat.digitChar m) = some m := by decide
  exact hall n h

/-- Four digits of a unit are read back. -/
theorem hexUnit?_hexDigits {n : Nat} (h : n < 0x10000) :
    ∃ a b c d, hexDigits 4 n = [a, b, c, d] ∧ hexUnit? a b c d = some (.ofUnit n) := by
  have hlt (m : Nat) : m % 16 < 16 := Nat.mod_lt _ (by decide)
  refine ⟨_, _, _, _, rfl, ?_⟩
  rw [hexUnit?, hexValue?_digitChar (hlt _), hexValue?_digitChar (hlt _),
    hexValue?_digitChar (hlt _), hexValue?_digitChar (hlt _)]
  exact congrArg (fun m => some (CodePoint.ofUnit m)) (by omega)

theorem push_of_not_surrogate {c : CodePoint} (h : c.isSurrogate = false) (seen : Text) :
    seen.push c = c :: seen := by
  have hlow : c.isLowSurrogate = false := (Bool.or_eq_false_iff.mp h).2
  cases seen with
  | nil => rfl
  | cons d seen => simp [Text.push, hlow]

/-- One character of a string is read back, if something follows it. -/
theorem scanString_printCodePoint (ch : Char) (start : List Char) (seen : Text) (d : Char)
    (s : List Char) :
    scanString start seen (printCodePoint (.ofChar ch) ++ d :: s) =
      scanString start (.ofChar ch :: seen) (d :: s) := by
  unfold printCodePoint
  rw [CodePoint.toChar?_ofChar]
  split
  · next h => cases h
  · next ch' h =>
    cases h
    split_ifs with h₁ h₂ h₃ h₄ h₅ h₆ h₇
    · exact scanString_escaped (by rcases h₁ with rfl | rfl <;> rfl)
    · exact h₂ ▸ scanString_escaped rfl
    · exact h₃ ▸ scanString_escaped rfl
    · exact h₄ ▸ scanString_escaped rfl
    · exact h₅ ▸ scanString_escaped rfl
    · exact h₆ ▸ scanString_escaped rfl
    · have hval : (CodePoint.ofChar ch).val < 0x10000 := by omega
      obtain ⟨a, b, c, e, hdigits, hunit⟩ := hexUnit?_hexDigits hval
      have hof : CodePoint.ofUnit (CodePoint.ofChar ch).val = CodePoint.ofChar ch := by
        simp only [CodePoint.ofUnit, Nat.mod_eq_of_lt hval]
      rw [hdigits]
      refine (scanString_unit hunit).trans ?_
      rw [hof, push_of_not_surrogate (CodePoint.isSurrogate_ofChar ch)]
    · rw [not_or] at h₁
      exact scanString_plain h₁.1 h₁.2 h₇

theorem scanString_printed (t : List Char) (start : List Char) (seen : Text) (rest : List Char) :
    scanString start seen ((Text.ofChars t).flatMap printCodePoint ++ '"' :: rest) =
      .ok (seen.reverse ++ Text.ofChars t, rest) := by
  induction t generalizing seen with
  | nil => simpa [Text.ofChars] using scanString_close
  | cons ch t ih =>
    obtain ⟨d, u, hu⟩ : ∃ d u, (Text.ofChars t).flatMap printCodePoint ++ '"' :: rest = d :: u :=
      List.exists_cons_of_ne_nil (by simp)
    have hcons : Text.ofChars (ch :: t) = .ofChar ch :: Text.ofChars t := rfl
    rw [hcons, List.flatMap_cons, List.append_assoc, hu, scanString_printCodePoint, ← hu, ih]
    simp

/-- A string is read back with whatever follows it. -/
theorem string_printText {t : Text} (h : t.IsWellFormed) (rest : List Char) :
    ∃ u, (printText t).toList ++ rest = '"' :: u ∧ scanString ('"' :: u) [] u = .ok (t, rest) := by
  obtain ⟨s, rfl⟩ := Text.isWellFormed_iff.mp h
  refine ⟨(Text.ofChars s).flatMap printCodePoint ++ '"' :: rest, by simp [printText], ?_⟩
  rw [scanString_printed]
  rfl

/-! ### Integers -/

theorem head?_toDigits (h : n ≠ 0) : (Nat.toDigits 10 n).head? ≠ some '0' := by
  induction n using Nat.strongRecOn with
  | ind n ih =>
    by_cases hn : n < 10
    · simpa [Nat.toDigits_of_lt_base hn] using h
    · rw [Nat.toDigits_of_base_le (by decide) (Nat.le_of_not_lt hn),
        List.head?_append_of_ne_nil _ Nat.toDigits_ne_nil]
      exact ih (n / 10) (by omega) (by omega)

theorem isWhole_toDigits (n : Nat) (hr : EndsInteger rest) : IsWhole (Nat.toDigits 10 n) rest := by
  by_cases h : n = 0
  · subst h
    exact .inl (Nat.toDigits_zero 10)
  · exact .inr ⟨head?_toDigits h, hr⟩

theorem ofDigits_toDigits (n : Nat) : ofDigits ((Nat.toDigits 10 n).map (·.toNat - 48)) = n := by
  rw [ofDigits, List.foldl_map]
  exact Nat.ofDigitChars_toDigits (by decide) (by decide)

theorem length_toDigits_le {k : Nat} (hk : 0 < k) :
    (Nat.toDigits 10 n).length ≤ k ↔ n < Nat.pow 10 k := Nat.length_toDigits_le_iff (by decide) hk

/-- An integer is printed as the digits of its size, behind a minus if it is negative. -/
theorem exists_sign_print (i : Int) : ∃ sign : List Char,
    (print (.int i)).toList = sign ++ Nat.toDigits 10 i.natAbs ∧
    IsInteger sign (Nat.toDigits 10 i.natAbs) ∧
    (if sign = ['-'] then -(i.natAbs : Int) else i.natAbs) = i := by
  have hdigit : ∀ c ∈ Nat.toDigits 10 i.natAbs, c.isDigit :=
    fun c hc => Nat.isDigit_of_mem_toDigits (by decide) (by decide) hc
  cases i with
  | ofNat m => exact ⟨[], Nat.toList_repr, ⟨.inl rfl, Nat.toDigits_ne_nil, hdigit⟩, rfl⟩
  | negSucc m =>
    refine ⟨['-'], ?_, ⟨.inr rfl, Nat.toDigits_ne_nil, hdigit⟩, rfl⟩
    exact (String.toList_append ..).trans (congrArg _ Nat.toList_repr)

/-- An integer of no more digits than a number may have. -/
def IsShort (i : Int) : Prop := i.natAbs < Nat.pow 10 maxIntegerDigits

theorem isShort_of_lt_hundred {i : Int} (h : i.natAbs < 100) : IsShort i := by
  have hdigits : (Nat.toDigits 10 i.natAbs).length ≤ 2 := (length_toDigits_le (by decide)).mpr h
  exact (length_toDigits_le (by decide)).mp (Nat.le_trans hdigits (by decide))

theorem scanNumber_print {i : Int} (hi : IsShort i) (hr : EndsNumber rest) :
    scanNumber ((print (.int i)).toList ++ rest) = .ok (.int i, rest) := by
  obtain ⟨sign, hprint, hsign, hvalue⟩ := exists_sign_print i
  have hlength : (Nat.toDigits 10 i.natAbs).length ≤ maxIntegerDigits :=
    (length_toDigits_le (by decide)).mpr hi
  have hfraction : scanFraction rest = ([], rest) :=
    scanFraction_of_ne fun hdot => (hr '.' hdot).2.1 rfl
  rw [hprint, List.append_assoc, scanNumber_append hsign (isWhole_toDigits _ hr.endsInteger)]
  simp only [finish, hfraction, scanExponent_ends hr, List.isEmpty_nil, Option.isNone_none, and_self,
    if_true, List.length_map, if_neg (Nat.not_lt.mpr hlength), ofDigits_toDigits, beq_iff_eq, hvalue]

/-- Any other integer is printed with more digits than a number may have. -/
theorem beginsLong_print {i : Int} (hi : ¬ IsShort i) (hr : EndsNumber rest) :
    BeginsLong (Nat.toDigits 10 i.natAbs).length ((print (.int i)).toList ++ rest) := by
  obtain ⟨sign, hprint, hsign, -⟩ := exists_sign_print i
  have hlong : maxIntegerDigits < (Nat.toDigits 10 i.natAbs).length :=
    Nat.lt_of_not_le fun hle => hi ((length_toDigits_le (by decide)).mp hle)
  have hne : i.natAbs ≠ 0 := by
    intro h
    rw [h, Nat.toDigits_zero] at hlong
    exact absurd hlong (by decide)
  have hfraction : scanFraction rest = ([], rest) :=
    scanFraction_of_ne fun hdot => (hr '.' hdot).2.1 rfl
  refine ⟨hlong, sign, _, rest, ?_, hsign, rfl, head?_toDigits hne, hr.endsInteger, ?_, ?_⟩
  · rw [hprint, List.append_assoc]
  · rw [hfraction]
  · rw [scanExponent_ends hr]

/-! ### Values -/

theorem isWellFormed_text {t : Text} : (text t).isWellFormed = true ↔ t.IsWellFormed := by
  rw [isWellFormed, Bool.not_eq_true', Text.any_isSurrogate_eq_false]

theorem isWellFormed_array : (array xs).isWellFormed = true ↔ ∀ x ∈ xs, x.isWellFormed = true := by
  rw [isWellFormed]
  induction xs with
  | nil => simp [areWellFormed]
  | cons x xs ih => rw [areWellFormed, Bool.and_eq_true, ih, List.forall_mem_cons]

theorem isWellFormed_object : (object fields).isWellFormed = true ↔
    ∀ f ∈ fields, f.1.IsWellFormed ∧ f.2.isWellFormed = true := by
  rw [isWellFormed]
  induction fields with
  | nil => simp [fieldsAreWellFormed]
  | cons f fields ih =>
    rw [fieldsAreWellFormed, Bool.and_eq_true, Bool.and_eq_true, Bool.not_eq_true',
      Text.any_isSurrogate_eq_false, ih, List.forall_mem_cons]

/-- A value without floats, in which at most `n` arrays and objects are open at once, the keys of
an object differ, and integers are short. -/
inductive IsPlain : Nat → Json → Prop
  | null {n : Nat} : IsPlain n .null
  | bool {n : Nat} (b : Bool) : IsPlain n (.bool b)
  | int {n : Nat} {i : Int} (h : IsShort i) : IsPlain n (.int i)
  | text {n : Nat} (t : Text) : IsPlain n (.text t)
  | array {n : Nat} {xs : List Json} (h : ∀ x ∈ xs, IsPlain n x) : IsPlain (n + 1) (.array xs)
  | object {n : Nat} {fields : List (Text × Json)} (hkeys : (fields.map (·.1)).Nodup)
      (h : ∀ f ∈ fields, IsPlain n f.2) : IsPlain (n + 1) (.object fields)

theorem Reads.skipSpace {allowed : Json → Prop} {place : Place} {depth : Nat}
    (h : Reads allowed place depth s x rest) : skipSpace s = s := by
  obtain ⟨c, t, rfl, hc⟩ : ∃ c t, s = c :: t ∧ isSpace c = false := by
    cases place with
    | value =>
      obtain ⟨c, t, hs, hc, -⟩ := h.head
      exact ⟨c, t, hs, hc⟩
    | elements seen =>
      cases h with
      | lastElement hx | nextElement hx =>
        obtain ⟨c, t, hs, hc, -⟩ := hx.head
        exact ⟨c, t, hs, hc⟩
    | members seen => cases h <;> exact ⟨'"', _, rfl, rfl⟩
  exact skipSpace_cons hc t

/-- The printed form of a value is read as that value, whatever follows it. -/
def ReadsBack (n : Nat) (x : Json) : Prop :=
  ∀ rest, EndsNumber rest → Reads IsExact .value n ((print x).toList ++ rest) x rest

/-- The elements of an array are read back up to the closing bracket. -/
theorem reads_printAll (hne : xs ≠ []) (h : ∀ x ∈ xs, ReadsBack n x) (seen : List Json)
    (rest : List Char) :
    Reads IsExact (.elements seen) n ((",".intercalate (printAll xs)).toList ++ ']' :: rest)
      (.array (seen.reverse ++ xs)) rest := by
  induction xs generalizing seen with
  | nil => exact absurd rfl hne
  | cons x xs ih =>
    obtain ⟨hx, hmore⟩ := List.forall_mem_cons.mp h
    cases xs with
    | nil =>
      have hread := hx (']' :: rest) (endsNumber_cons (by decide) rest)
      rw [printAll, printAll, String.intercalate_singleton]
      have hlast : Reads IsExact (.elements seen) n _ _ rest :=
        .lastElement hread (skipSpace_cons rfl rest)
      simpa using hlast
    | cons y xs =>
      have hrest := ih (by simp) hmore (x :: seen)
      have hread := hx (',' :: ((",".intercalate (printAll (y :: xs))).toList ++ ']' :: rest))
        (endsNumber_cons (by decide) _)
      rw [← hrest.skipSpace] at hrest
      have hnext := Reads.nextElement hread (skipSpace_cons rfl _) hrest
      rw [printAll, printAll, String.intercalate_cons_cons, ← printAll]
      simpa using hnext

/-- A member is read back up to the value that follows its colon. -/
theorem readsMember {key : Text} (hk : key.IsWellFormed) (hx : ReadsBack n x)
    (hr : EndsNumber rest) :
    ∃ t u, (printText key ++ ":" ++ print x).toList ++ rest = '"' :: t ∧
      scanString ('"' :: t) [] t = .ok (key, ':' :: u) ∧
      Reads IsExact .value n (skipSpace u) x rest := by
  obtain ⟨t, ht, hscan⟩ := string_printText hk (':' :: ((print x).toList ++ rest))
  refine ⟨t, _, ?_, hscan, ?_⟩
  · rw [← ht]
    simp
  · rw [(hx rest hr).skipSpace]
    exact hx rest hr

/-- The members of an object are read back up to the closing brace. -/
theorem reads_printFields (hne : fields ≠ [])
    (h : ∀ f ∈ fields, f.1.IsWellFormed ∧ ReadsBack n f.2) (seen : Fields Text Json)
    (rest : List Char) :
    Reads IsExact (.members seen) n
      ((",".intercalate (printFields fields)).toList ++ '\x7d' :: rest)
      (.object (fields.foldl (fun found f => Fields.put f.1 f.2 found) seen)) rest := by
  induction fields generalizing seen with
  | nil => exact absurd rfl hne
  | cons f fields ih =>
    obtain ⟨⟨hk, hx⟩, hmore⟩ := List.forall_mem_cons.mp h
    cases fields with
    | nil =>
      rw [printFields, printFields, String.intercalate_singleton]
      obtain ⟨t, u, ht, hscan, hread⟩ :=
        readsMember hk hx (endsNumber_cons (c := '\x7d') (by decide) rest)
      rw [ht]
      exact .lastMember hscan (skipSpace_cons rfl _) hread (skipSpace_cons rfl _)
    | cons g fields =>
      have hrest := ih (by simp) hmore (Fields.put f.1 f.2 seen)
      obtain ⟨t, u, ht, hscan, hread⟩ := readsMember hk hx (endsNumber_cons (c := ',') (by decide)
        ((",".intercalate (printFields (g :: fields))).toList ++ '\x7d' :: rest))
      have htext : (",".intercalate (printFields (f :: g :: fields))).toList ++ '\x7d' :: rest =
          '"' :: t := by
        rw [← ht, printFields, printFields, String.intercalate_cons_cons]
        simp
      rw [← hrest.skipSpace] at hrest
      rw [htext]
      exact .nextMember hscan (skipSpace_cons rfl _) hread (skipSpace_cons rfl _) hrest

theorem readsBack_array (h : ∀ x ∈ xs, ReadsBack n x) : ReadsBack (n + 1) (.array xs) := by
  intro rest _
  have hprint : (print (.array xs)).toList ++ rest =
      '[' :: ((",".intercalate (printAll xs)).toList ++ ']' :: rest) := by
    simp [print]
  rw [hprint]
  by_cases hne : xs = []
  · subst hne
    exact .emptyArray rfl
  · have helements := reads_printAll hne h [] rest
    rw [← helements.skipSpace] at helements
    exact .array helements

theorem readsBack_object (hkeys : (fields.map (·.1)).Nodup)
    (h : ∀ f ∈ fields, f.1.IsWellFormed ∧ ReadsBack n f.2) :
    ReadsBack (n + 1) (.object fields) := by
  intro rest _
  have hprint : (print (.object fields)).toList ++ rest =
      '\x7b' :: ((",".intercalate (printFields fields)).toList ++ '\x7d' :: rest) := by
    simp [print]
  rw [hprint]
  by_cases hne : fields = []
  · subst hne
    exact .emptyObject rfl
  · have hmembers := reads_printFields hne h [] rest
    have hput : fields.foldl (fun found f => Fields.put f.1 f.2 found) [] = fields :=
      Fields.foldl_put (by simpa using hkeys)
    rw [hput, ← hmembers.skipSpace] at hmembers
    exact .object hmembers

/-- A plain value is read back from its printed form. The induction is on the value, part by
part. -/
theorem IsPlain.readsBack (h : IsPlain n x) (hx : x.isWellFormed = true) : ReadsBack n x := by
  induction h with
  | null => exact fun rest _ => .literal rfl fun f => nofun
  | bool b => cases b <;> exact fun rest _ => .literal rfl fun f => nofun
  | int hi => exact fun rest hr => .number (scanNumber_print hi hr) fun f => nofun
  | text t =>
    intro rest _
    obtain ⟨u, hu, hscan⟩ := string_printText (isWellFormed_text.mp hx) rest
    rw [print, hu]
    exact .string hscan
  | array _ ih => exact readsBack_array fun x hm => ih x hm (isWellFormed_array.mp hx x hm)
  | object hkeys _ ih =>
    have hwhole := isWellFormed_object.mp hx
    exact readsBack_object hkeys fun f hm => ⟨(hwhole f hm).1, ih f hm (hwhole f hm).2⟩

theorem IsPlain.plainText_print (h : IsPlain n x) (hx : x.isWellFormed = true) :
    PlainText n (print x).toList x := by
  have hread := h.readsBack hx [] nofun
  rw [List.append_nil, ← List.append_nil (print x).toList] at hread
  rw [← hread.skipSpace, List.append_nil] at hread
  exact hread.plainText rfl

/-- A plain value that nests within the parser's limit is read back. -/
theorem IsPlain.parse_print (h : IsPlain n x) (hn : n ≤ maxDepth) (hx : x.isWellFormed = true) :
    parse (print x).toList = .ok x := (h.plainText_print hx).parse hn

theorem encode?_eq_some {t : String} :
    encode? x = some t ↔ x.isWellFormed = true ∧ t = print x := by
  unfold encode?
  split
  · next h =>
    rw [Option.some.injEq, and_iff_right h]
    exact eq_comm
  · next h => exact ⟨nofun, fun ht => absurd ht.1 h⟩

/-! ### Objects of texts -/

/-- A text or nothing. -/
def IsOptionalText (x : Json) : Prop := x = .null ∨ ∃ t, x = .text t ∧ t.IsWellFormed

theorem IsOptionalText.isPlain (h : IsOptionalText x) : IsPlain 0 x ∧ x.isWellFormed = true := by
  rcases h with rfl | ⟨t, rfl, ht⟩
  · exact ⟨.null, rfl⟩
  · exact ⟨.text t, isWellFormed_text.mpr ht⟩

/-- An object of texts under different keys is read back from its printed form. -/
theorem parse_print (hkeys : (fields.map (·.1)).Nodup)
    (h : ∀ f ∈ fields, f.1.IsWellFormed ∧ IsOptionalText f.2) :
    parse (print (.object fields)).toList = .ok (.object fields) := by
  refine (IsPlain.object hkeys fun f hf => (h f hf).2.isPlain.1).parse_print (by decide) ?_
  exact isWellFormed_object.mpr fun f hf => ⟨(h f hf).1, (h f hf).2.isPlain.2⟩

end RustdocIndex.Json
