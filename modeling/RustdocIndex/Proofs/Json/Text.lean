import RustdocIndex.Proofs.Json.Reading
import RustdocIndex.Proofs.Json.Stable

/-! JSON texts as parts of longer texts. -/
namespace RustdocIndex.Json

variable {allowed : Json → Prop} {place : Place} {depth : Nat} {s rest : List Char} {x : Json}

/-- A reading goes on behind what it took, where no number could go on. -/
theorem Reads.append (h : Reads allowed place depth s x rest) : ∃ d c, s = d :: (c ++ rest) ∧
    ∀ t, EndsNumber t → Reads allowed place depth (d :: (c ++ t)) x t := by
  induction h with
  | string h =>
    obtain ⟨c, rfl, hc⟩ := scanString_consumes h
    exact ⟨_, c, rfl, fun t _ => .string (hc _ t)⟩
  | @emptyArray depth t rest h =>
    obtain ⟨w, rfl, hw⟩ := exists_skipped h
    exact ⟨'[', w ++ [']'], by simp, fun t _ => .emptyArray (by simpa using hw t)⟩
  | @array depth t x rest h ih =>
    obtain ⟨d, c, ht, hc⟩ := ih
    obtain ⟨w, rfl, hw⟩ := exists_skipped ht
    refine ⟨'[', w ++ d :: c, by simp, fun t he => .array ?_⟩
    rw [List.append_assoc, List.cons_append, hw]
    exact hc t he
  | @emptyObject depth t rest h =>
    obtain ⟨w, rfl, hw⟩ := exists_skipped h
    exact ⟨'\x7b', w ++ ['\x7d'], by simp, fun t _ => .emptyObject (by simpa using hw t)⟩
  | @object depth t x rest h ih =>
    obtain ⟨d, c, ht, hc⟩ := ih
    obtain ⟨w, rfl, hw⟩ := exists_skipped ht
    refine ⟨'\x7b', w ++ d :: c, by simp, fun t he => .object ?_⟩
    rw [List.append_assoc, List.cons_append, hw]
    exact hc t he
  | literal h hx =>
    obtain ⟨c, hne, rfl, hc⟩ := scanLiteral?_consumes h
    obtain ⟨d, c, rfl⟩ := List.exists_cons_of_ne_nil hne
    exact ⟨d, c, rfl, fun t _ => .literal (hc t) hx⟩
  | number h hx =>
    obtain ⟨sign, digits, more, hi, rfl, hread⟩ := scanNumber_consumes h
    obtain ⟨d, c, hs, -⟩ := hi.head more
    have hcons (t : List Char) : sign ++ (digits ++ (more ++ t)) = d :: (c ++ t) := by
      rw [← List.cons_append, ← hs]
      simp
    refine ⟨d, c, hcons _, fun t he => .number ?_ hx⟩
    rw [← hcons]
    exact hread t he
  | @lastElement depth seen s x t rest hx ht ih =>
    obtain ⟨d, c, rfl, hc⟩ := ih
    obtain ⟨w, rfl, hw⟩ := exists_skipped ht
    refine ⟨d, c ++ (w ++ [']']), by simp, fun t _ => ?_⟩
    have hvalue := hc _ (endsNumber_of_skipSpace (hw t) (by decide))
    simpa using Reads.lastElement hvalue (hw t)
  | @nextElement depth seen s x t more y rest hx ht hy ihx ihy =>
    obtain ⟨d, c, rfl, hc⟩ := ihx
    obtain ⟨w, rfl, hw⟩ := exists_skipped ht
    obtain ⟨e, b, hmore, hb⟩ := ihy
    obtain ⟨v, rfl, hv⟩ := exists_skipped hmore
    refine ⟨d, c ++ (w ++ ',' :: (v ++ e :: b)), by simp, fun t he => ?_⟩
    have hvalue := hc _ (endsNumber_of_skipSpace (hw (v ++ e :: (b ++ t))) (by decide))
    have hnext := hb t he
    rw [← hv] at hnext
    simpa using Reads.nextElement hvalue (hw _) hnext
  | @lastMember depth seen t key u v x w rest hk hu hx hw ih =>
    obtain ⟨k, rfl, hkey⟩ := scanString_consumes hk
    obtain ⟨a, rfl, ha⟩ := exists_skipped hu
    obtain ⟨d, c, hv, hc⟩ := ih
    obtain ⟨b, rfl, hb⟩ := exists_skipped hv
    obtain ⟨e, rfl, he⟩ := exists_skipped hw
    refine ⟨'"', k ++ (a ++ ':' :: (b ++ d :: (c ++ (e ++ ['\x7d'])))), by simp, fun t _ => ?_⟩
    have hvalue := hc _ (endsNumber_of_skipSpace (he t) (by decide))
    rw [← hb] at hvalue
    simpa using Reads.lastMember (hkey _ _) (ha _) hvalue (he t)
  | @nextMember depth seen t key u v x w more y rest hk hu hx hw hy ihx ihy =>
    obtain ⟨k, rfl, hkey⟩ := scanString_consumes hk
    obtain ⟨a, rfl, ha⟩ := exists_skipped hu
    obtain ⟨d, c, hv, hc⟩ := ihx
    obtain ⟨b, rfl, hb⟩ := exists_skipped hv
    obtain ⟨e, rfl, he⟩ := exists_skipped hw
    obtain ⟨f, g, hmore, hg⟩ := ihy
    obtain ⟨v, rfl, hv'⟩ := exists_skipped hmore
    refine ⟨'"', k ++ (a ++ ':' :: (b ++ d :: (c ++ (e ++ ',' :: (v ++ f :: g))))), by simp,
      fun t ht => ?_⟩
    have hvalue := hc _ (endsNumber_of_skipSpace (he (v ++ f :: (g ++ t))) (by decide))
    rw [← hb] at hvalue
    have hnext := hg t ht
    rw [← hv'] at hnext
    simpa using Reads.nextMember (hkey _ _) (ha _) hvalue (he _) hnext

/-- A character that a number or a literal name may begin with. -/
def BeginsScalar (c : Char) : Prop :=
  isSpace c = false ∧ c ≠ '"' ∧ c ≠ '[' ∧ c ≠ ']' ∧ c ≠ '\x7b' ∧ c ≠ '\uFEFF'

instance (c : Char) : Decidable (BeginsScalar c) :=
  inferInstanceAs (Decidable (_ ∧ _))

theorem scanLiteral?_head (h : scanLiteral? s = some (x, rest)) :
    ∃ c t, s = c :: t ∧ BeginsScalar c := by
  obtain ⟨name, rfl, hm⟩ := scanLiteral?_cases h
  rcases hm with ⟨rfl, -⟩ | ⟨rfl, -⟩ | ⟨rfl, -⟩ | ⟨rfl, -⟩ | ⟨rfl, -⟩ | ⟨rfl, -⟩ <;>
    exact ⟨_, _, rfl, by decide⟩

theorem scanNumber_head (h : scanNumber s = .ok (x, rest)) :
    ∃ c t, s = c :: t ∧ BeginsScalar c ∧ scanLiteral? s = none := by
  obtain ⟨sign, digits, more, hi, rfl, -⟩ := scanNumber_consumes h
  obtain ⟨c, t, hs, hc⟩ := hi.head (more ++ rest)
  refine ⟨c, t, hs, ?_, scanLiteral?_integer hi _⟩
  rcases hc with rfl | hc
  · decide
  · refine ⟨isSpace_of_isDigit hc, ?_, ?_, ?_, ?_, ?_⟩ <;> (rintro rfl; exact absurd hc (by decide))

/-- No value begins with white space or closes anything. -/
theorem Reads.head (h : Reads allowed .value depth s x rest) :
    ∃ c t, s = c :: t ∧ isSpace c = false ∧ c ≠ ']' ∧ c ≠ '\uFEFF' := by
  cases h with
  | string h => exact ⟨_, _, rfl, rfl, by decide, by decide⟩
  | emptyArray h => exact ⟨_, _, rfl, rfl, by decide, by decide⟩
  | array h => exact ⟨_, _, rfl, rfl, by decide, by decide⟩
  | emptyObject h => exact ⟨_, _, rfl, rfl, by decide, by decide⟩
  | object h => exact ⟨_, _, rfl, rfl, by decide, by decide⟩
  | literal h hx =>
    obtain ⟨c, t, hs, hc⟩ := scanLiteral?_head h
    exact ⟨c, t, hs, hc.1, hc.2.2.2.1, hc.2.2.2.2.2⟩
  | number h hx =>
    obtain ⟨c, t, hs, hc, -⟩ := scanNumber_head h
    exact ⟨c, t, hs, hc.1, hc.2.2.2.1, hc.2.2.2.2.2⟩

/-- With more levels, and with more scalars allowed, no less is read. -/
theorem Reads.mono {allowed' : Json → Prop} {n : Nat} (h : Reads allowed place depth s x rest)
    (ha : ∀ x, allowed x → allowed' x) (hn : depth ≤ n) : Reads allowed' place n s x rest := by
  induction h generalizing n with
  | string h => exact .string h
  | emptyArray h =>
    obtain ⟨n, rfl⟩ := Nat.exists_eq_add_one_of_ne_zero (Nat.ne_zero_of_lt hn)
    exact .emptyArray h
  | array h ih =>
    obtain ⟨n, rfl⟩ := Nat.exists_eq_add_one_of_ne_zero (Nat.ne_zero_of_lt hn)
    exact .array (ih (by omega))
  | emptyObject h =>
    obtain ⟨n, rfl⟩ := Nat.exists_eq_add_one_of_ne_zero (Nat.ne_zero_of_lt hn)
    exact .emptyObject h
  | object h ih =>
    obtain ⟨n, rfl⟩ := Nat.exists_eq_add_one_of_ne_zero (Nat.ne_zero_of_lt hn)
    exact .object (ih (by omega))
  | literal h hx => exact .literal h (ha _ hx)
  | number h hx => exact .number h (ha _ hx)
  | lastElement _ ht ihx => exact .lastElement (ihx hn) ht
  | nextElement _ ht _ ihx ihy => exact .nextElement (ihx hn) ht (ihy hn)
  | lastMember hk hu _ hw ihx => exact .lastMember hk hu (ihx hn) hw
  | nextMember hk hu _ hw _ ihx ihy => exact .nextMember hk hu (ihx hn) hw (ihy hn)

/-- What is read is not empty. -/
theorem Reads.length_lt (h : Reads allowed place depth s x rest) : rest.length < s.length := by
  obtain ⟨d, c, rfl, -⟩ := h.append
  simp only [List.length_cons, List.length_append]
  omega

theorem value_scalar {budget : Nat} {c : Char} {t : List Char} (hc : BeginsScalar c) :
    value (budget + 1) depth (c :: t) = match scanLiteral? (c :: t) with
      | some found => .ok found
      | none => scanNumber (c :: t) := by
  cases hs : scanLiteral? (c :: t) <;>
    simp only [value, if_neg hc.2.1, if_neg hc.2.2.1, if_neg hc.2.2.2.2.1, hs]

theorem value_elements {budget : Nat} {c : Char} {t u : List Char} (ht : skipSpace t = c :: u)
    (hc : c ≠ ']') :
    value (budget + 1) (depth + 1) ('[' :: t) = elements budget depth [] (skipSpace t) := by
  have hq : '[' ≠ '"' := by decide
  simp only [value, if_neg hq, if_pos, ht]
  split
  · contradiction
  · next heq => exact absurd (List.cons.inj heq).1 hc
  · next hd _ => rw [Nat.succ.inj hd]

theorem value_members {budget : Nat} {t u : List Char} (ht : skipSpace t = '"' :: u) :
    value (budget + 1) (depth + 1) ('\x7b' :: t) = members budget depth [] (skipSpace t) := by
  simp [value, ht]

theorem length_of_scanString {start : List Char} {key : Text} {t u : List Char}
    (h : scanString start [] t = .ok (key, u)) : u.length ≤ t.length := by
  obtain ⟨k, rfl, -⟩ := scanString_consumes h
  simp

theorem length_of_member {start : List Char} {key : Text} {t u v : List Char}
    (hk : scanString start [] t = .ok (key, u)) (hu : skipSpace u = ':' :: v) :
    (skipSpace v).length < t.length := by
  have hkey := length_of_scanString hk
  have hcolon := length_of_skipSpace hu
  have hskip := length_skipSpace_le v
  omega

theorem Reads.length_next {c : Char} {more : List Char} (h : Reads allowed place depth s x rest)
    (hc : skipSpace rest = c :: more) : (skipSpace more).length + 1 < s.length := by
  have hrest := h.length_lt
  have hcomma := length_of_skipSpace hc
  have hskip := length_skipSpace_le more
  omega

/-- The budget that is enough at a place. -/
def Place.need (s : List Char) : Place → Nat
  | .value => 2 * s.length
  | .elements _ | .members _ => 2 * s.length + 1

/-- The parser accepts what the rules give. -/
theorem readAt_of_reads (h : Reads allowed place depth s x rest) {budget : Nat}
    (hb : place.need s < budget) : readAt budget depth s place = .ok (x, rest) := by
  induction h generalizing budget with
  | string h =>
    obtain ⟨budget, rfl⟩ := Nat.exists_eq_add_one_of_ne_zero (Nat.ne_zero_of_lt hb)
    simp only [readAt, value, if_pos, h]
    rfl
  | emptyArray h =>
    obtain ⟨budget, rfl⟩ := Nat.exists_eq_add_one_of_ne_zero (Nat.ne_zero_of_lt hb)
    simp [readAt, value, h]
  | @array depth t x rest h ih =>
    obtain ⟨budget, rfl⟩ := Nat.exists_eq_add_one_of_ne_zero (Nat.ne_zero_of_lt hb)
    have hbudget : (Place.elements []).need (skipSpace t) < budget := by
      have := length_skipSpace_le t
      simp only [Place.need, List.length_cons] at hb ⊢
      omega
    have hread : elements budget depth [] (skipSpace t) = .ok (x, rest) := ih hbudget
    obtain ⟨c, u, ht, hc⟩ : ∃ c u, skipSpace t = c :: u ∧ c ≠ ']' := by
      cases h with
      | lastElement hx | nextElement hx =>
        obtain ⟨c, u, ht, -, hc, -⟩ := hx.head
        exact ⟨c, u, ht, hc⟩
    exact (value_elements ht hc).trans hread
  | emptyObject h =>
    obtain ⟨budget, rfl⟩ := Nat.exists_eq_add_one_of_ne_zero (Nat.ne_zero_of_lt hb)
    simp [readAt, value, h]
  | @object depth t x rest h ih =>
    obtain ⟨budget, rfl⟩ := Nat.exists_eq_add_one_of_ne_zero (Nat.ne_zero_of_lt hb)
    have hbudget : (Place.members []).need (skipSpace t) < budget := by
      have := length_skipSpace_le t
      simp only [Place.need, List.length_cons] at hb ⊢
      omega
    have hread : members budget depth [] (skipSpace t) = .ok (x, rest) := ih hbudget
    obtain ⟨u, ht⟩ : ∃ u, skipSpace t = '"' :: u := by
      generalize skipSpace t = w at h
      cases h with
      | lastMember | nextMember => exact ⟨_, rfl⟩
    exact (value_members ht).trans hread
  | literal h hx =>
    obtain ⟨budget, rfl⟩ := Nat.exists_eq_add_one_of_ne_zero (Nat.ne_zero_of_lt hb)
    obtain ⟨c, t, rfl, hc⟩ := scanLiteral?_head h
    rw [readAt, value_scalar hc, h]
  | number h hx =>
    obtain ⟨budget, rfl⟩ := Nat.exists_eq_add_one_of_ne_zero (Nat.ne_zero_of_lt hb)
    obtain ⟨c, t, rfl, hc, hnone⟩ := scanNumber_head h
    rw [readAt, value_scalar hc, hnone]
    exact h
  | @lastElement depth seen s x t rest hx ht ih =>
    obtain ⟨budget, rfl⟩ := Nat.exists_eq_add_one_of_ne_zero (Nat.ne_zero_of_lt hb)
    have hread : value budget depth s = .ok (x, t) :=
      ih (by simp only [Place.need] at hb ⊢; omega)
    simp [readAt, elements, hread, ht, bind, Except.bind, pure, Except.pure]
  | @nextElement depth seen s x t more y rest hx ht hy ihx ihy =>
    obtain ⟨budget, rfl⟩ := Nat.exists_eq_add_one_of_ne_zero (Nat.ne_zero_of_lt hb)
    have hread : value budget depth s = .ok (x, t) :=
      ihx (by simp only [Place.need] at hb ⊢; omega)
    have hmore := hx.length_next ht
    have hnext : elements budget depth (x :: seen) (skipSpace more) = .ok (y, rest) :=
      ihy (by simp only [Place.need] at hb ⊢; omega)
    simp [readAt, elements, hread, ht, hnext, bind, Except.bind]
  | @lastMember depth seen t key u v x w rest hk hu hx hw ih =>
    obtain ⟨budget, rfl⟩ := Nat.exists_eq_add_one_of_ne_zero (Nat.ne_zero_of_lt hb)
    have hmember := length_of_member hk hu
    have hread : value budget depth (skipSpace v) = .ok (x, w) :=
      ih (by simp only [Place.need, List.length_cons] at hb ⊢; omega)
    simp [readAt, members, hk, hu, hread, hw, bind, Except.bind, pure, Except.pure]
  | @nextMember depth seen t key u v x w more y rest hk hu hx hw hy ihx ihy =>
    obtain ⟨budget, rfl⟩ := Nat.exists_eq_add_one_of_ne_zero (Nat.ne_zero_of_lt hb)
    have hmember := length_of_member hk hu
    have hmore := hx.length_next hw
    have hread : value budget depth (skipSpace v) = .ok (x, w) :=
      ihx (by simp only [Place.need, List.length_cons] at hb ⊢; omega)
    have hnext : members budget depth (seen.put key x) (skipSpace more) = .ok (y, rest) :=
      ihy (by simp only [Place.need, List.length_cons] at hb ⊢; omega)
    simp [readAt, members, hk, hu, hread, hw, hnext, bind, Except.bind]

/-- Any value but a float. -/
def IsExact (x : Json) : Prop := ∀ f, x ≠ .float f

/-- A JSON text of one value that writes no float and has at most `n` arrays and objects open at
once. -/
def PlainText (n : Nat) (s : List Char) (x : Json) : Prop :=
  ∃ rest, Reads IsExact .value n (skipSpace s) x rest ∧ skipSpace rest = []

theorem PlainText.mono {n m : Nat} (h : PlainText n s x) (hn : n ≤ m) : PlainText m s x := by
  obtain ⟨rest, hr, hrest⟩ := h
  exact ⟨rest, hr.mono (fun _ hx => hx) hn, hrest⟩

theorem PlainText.reads {n : Nat} {t : List Char} (h : PlainText n s x) (ht : EndsNumber t) :
    ∃ rest, Reads IsExact .value n (skipSpace (s ++ t)) x (rest ++ t) ∧ skipSpace rest = [] := by
  obtain ⟨rest, hr, hrest⟩ := h
  obtain ⟨d, c, hs, hc⟩ := hr.append
  have hskip : skipSpace (s ++ t) = d :: (c ++ (rest ++ t)) := by
    rw [skipSpace_append (by rw [hs]; simp), hs]
    simp
  exact ⟨rest, hskip ▸ hc _ (.blank hrest ht), hrest⟩

theorem Reads.plainText {n : Nat} (h : Reads IsExact .value n (skipSpace s) x []) {y : Json}
    (hy : x = y) : PlainText n s y :=
  hy ▸ ⟨[], h, rfl⟩

/-- The parser reads a text that nests within its limit. -/
theorem PlainText.parse {n : Nat} (h : PlainText n s x) (hn : n ≤ maxDepth) :
    parse s = .ok x := by
  obtain ⟨rest, hr, hrest⟩ := h
  have hread : value (2 * s.length + 2) maxDepth (skipSpace s) = .ok (x, rest) := by
    have := length_skipSpace_le s
    have hneed : Place.value.need (skipSpace s) < 2 * s.length + 2 := by
      simp only [Place.need]
      omega
    exact readAt_of_reads (hr.mono (fun _ hx => hx) hn) hneed
  unfold Json.parse
  split
  · next t =>
    obtain ⟨c, u, hs, -, -, hc⟩ := hr.head
    exact absurd (List.cons.inj hs).1.symm hc
  · simp only [hread, hrest, bind, Except.bind, pure, Except.pure]

end RustdocIndex.Json
