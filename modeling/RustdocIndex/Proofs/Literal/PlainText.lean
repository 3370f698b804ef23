import RustdocIndex.Proofs.Json.Text
import RustdocIndex.Proofs.Literal.Budget
import RustdocIndex.Proofs.Literal.Statement
import RustdocIndex.Proofs.Literal.Store

/-! Literal programs read JSON texts without floats as JSON readers do. -/
namespace RustdocIndex.Literal

open Json (IsExact Place Reads)

variable {vars : Variables} {base budget depth : Nat} {store : Store} {s t rest : List Char}
  {x : Json}

/-- A string of JSON is a string of a literal program. -/
theorem scanString_json {start start' : List Char} {seen : Text} {r : Text × List Char}
    (h : Json.scanString start seen s = .ok r) : scanString start' '"' seen s = .ok r := by
  have hm : '\\' ≠ '"' := by decide
  fun_induction Json.scanString start seen s with
  | case1 => cases h
  | case2 seen s =>
    cases h
    exact scanString_close
  | case3 => cases h
  | case4 seen a b c d f s u hu hq ih => exact (scanString_unit hm hu).trans (ih h)
  | case5 => cases h
  | case6 => cases h
  | case7 seen e s he x hx hq ih => exact (scanString_escaped hm hx).trans (ih h)
  | case8 => cases h
  | case9 => cases h
  | case10 seen e s hq hb hc ih =>
    have hn : e ≠ '\n' := by
      rintro rfl
      exact hc (by decide)
    exact (scanString_plain hq hn hb).trans (ih h)

theorem endsInteger_of_endsName (h : EndsName rest) : EndsInteger rest := by
  intro c hc
  have hn := h c hc
  simp only [isNameContinue, Char.isAlphanum, Bool.or_eq_false_iff] at hn
  exact hn.1.1.2

theorem EndsName.blank {w : List Char} (hw : skipSpace w = []) (h : EndsName rest) :
    EndsName (w ++ rest) := by
  cases w with
  | nil => exact h
  | cons c w =>
    have hc := isSpace_of_blank hw (List.mem_cons_self)
    exact endsName_cons (isNameContinue_of_isSpace hc) _

theorem endsName_of_skipSpace {c : Char} (h : skipSpace s = c :: t)
    (hc : isNameContinue c = false) : EndsName s := by
  obtain ⟨w, hw, rfl⟩ := exists_blank_cons h
  exact .blank hw (endsName_cons hc t)

/-- A number of JSON that is no float is an integer of a literal program. -/
theorem scanInteger_json (h : Json.scanNumber s = .ok (x, rest)) (hx : IsExact x)
    (hr : EndsName rest) : ∃ n, x = .int n ∧ scanInteger s = .ok (n, rest) := by
  obtain ⟨sign, digits, more, hi, rfl, ⟨rfl, rfl, hlen⟩ | ⟨f, -, -, rfl, -⟩⟩ :=
    Json.scanNumber_cases h
  · exact ⟨_, rfl, scanInteger_written (w := []) rfl hi hlen (endsInteger_of_endsName hr)⟩
  · exact absurd rfl (hx f)

theorem reference_word {word : String} {v : Value} (h : (word, v) ∈
    [("null", Value.null), ("true", .bool true), ("false", .bool false)]) (hr : EndsName rest) :
    reference vars store (word.toList ++ rest) = .ok (v, rest) := by
  have hn : IsName word := by
    simp only [List.mem_cons, Prod.mk.injEq, List.not_mem_nil, or_false] at h
    rcases h with ⟨rfl, -⟩ | ⟨rfl, -⟩ | ⟨rfl, -⟩ <;> exact ⟨_, _, rfl, rfl, rfl⟩
  rw [reference, scanName_name hn hr]
  simp only [List.mem_cons, Prod.mk.injEq, List.not_mem_nil, or_false] at h
  rcases h with ⟨rfl, rfl⟩ | ⟨rfl, rfl⟩ | ⟨rfl, rfl⟩ <;> rfl

theorem value_literal (store : Store) (h : Json.scanLiteral? s = some (x, rest))
    (hx : IsExact x) (hr : EndsName rest) : ∃ v, Holds base store v x ∧
      value vars (budget + 1) depth store s = .ok (v, store, rest) := by
  obtain ⟨name, rfl, hm⟩ := Json.scanLiteral?_cases h
  have hword {word : String} {v : Value} (hn : IsName word) (h : (word, v) ∈
      [("null", Value.null), ("true", .bool true), ("false", .bool false)]) :
      value vars (budget + 1) depth store (word.toList ++ rest) = .ok (v, store, rest) := by
    rw [value_of_isName hn, reference_word h hr]
    rfl
  rcases hm with ⟨rfl, rfl⟩ | ⟨rfl, rfl⟩ | ⟨rfl, rfl⟩ | ⟨-, rfl⟩ | ⟨-, rfl⟩ | ⟨-, rfl⟩
  · exact ⟨.null, .null, hword ⟨_, _, rfl, rfl, rfl⟩ (by simp)⟩
  · exact ⟨.bool true, .bool true, hword ⟨_, _, rfl, rfl, rfl⟩ (by simp)⟩
  · exact ⟨.bool false, .bool false, hword ⟨_, _, rfl, rfl, rfl⟩ (by simp)⟩
  · exact absurd rfl (hx _)
  · exact absurd rfl (hx _)
  · exact absurd rfl (hx _)

/-- The program reads what the JSON reader reads, and holds it in new cells. -/
def Found (base : Nat) (store : Store) (x : Json) (rest : List Char)
    (r : Except Stop (Value × Store × List Char)) : Prop :=
  ∃ v store', r = .ok (v, store', rest) ∧ Extends 0 store store' ∧ Holds base store' v x

/-- What a program finds where a JSON reader finds something, at each place. -/
def Follows (vars : Variables) (base : Nat) :
    Place → Nat → List Char → Json → List Char → Prop
  | .value, depth, s, x, rest => EndsName rest → ∀ store budget, base ≤ store.size →
      2 * s.length < budget → Found base store x rest (value vars budget depth store s)
  | .elements seen, depth, s, x, rest => ∀ store budget vs, base ≤ store.size →
      2 * s.length + 1 < budget → List.Forall₂ (Holds base store) vs seen →
        Found base store x rest (elements vars budget depth store vs s)
  | .members seen, depth, s, x, rest => ∀ store budget fs, base ≤ store.size →
      2 * s.length + 1 < budget → List.Forall₂ (HoldsField base store) fs seen →
        Found base store x rest (members vars budget depth store fs s)

theorem Found.later {first : Store} {r : Except Stop (Value × Store × List Char)}
    (he : Extends 0 first store) (h : Found base store x rest r) : Found base first x rest r := by
  obtain ⟨v, last, hr, he', hv⟩ := h
  exact ⟨v, last, hr, he.trans he', hv⟩

theorem found_allocated_array {vs : List Value} {xs : List Json} (hb : base ≤ store.size)
    (h : List.Forall₂ (Holds base store) vs xs) (rest : List Char) :
    Found base store (.array xs) rest (.ok (allocated store (.array vs) rest)) :=
  ⟨_, _, rfl, extends_push store _, holds_alloc_array hb h⟩

theorem found_allocated_object {fs : Fields Text Value} {ys : Fields Text Json}
    (hb : base ≤ store.size) (h : List.Forall₂ (HoldsField base store) fs ys)
    (rest : List Char) :
    Found base store (.object ys) rest (.ok (allocated store (.object fs) rest)) :=
  ⟨_, _, rfl, extends_push store _, holds_alloc_object hb h⟩

theorem elements_skipSpace (seen : List Value) (s : List Char) :
    elements vars (budget + 1) depth store seen (skipSpace s) =
      elements vars (budget + 1) depth store seen s := by
  rw [elements_eq, onNext_skipSpace]

theorem members_skipSpace (seen : Fields Text Value) (s : List Char) :
    members vars (budget + 1) depth store seen (skipSpace s) =
      members vars (budget + 1) depth store seen s := by
  rw [members_eq, onNext_skipSpace]

/-- Behind an element another one follows. -/
theorem afterElement_comma {seen : List Value} {v : Value} (h : skipSpace s = ',' :: t) :
    afterElement vars budget depth seen v store s = elements vars budget depth store (v :: seen) t :=
  onNext_yes h

theorem afterElement_close {seen : List Value} {v : Value} (h : skipSpace s = ']' :: t) :
    afterElement vars budget depth seen v store s =
      .ok (allocated store (.array (v :: seen).reverse) t) := by
  have hs : skipSpace (']' :: t) = ']' :: t := by rw [← h, skipSpace_skipSpace]
  rw [afterElement, onNext_no (by simp [h]), h]
  simp [expect, hs]
  rfl

theorem afterMember_comma {seen : Fields Text Value} (h : skipSpace s = ',' :: t) :
    afterMember vars budget depth seen store s = members vars budget depth store seen t :=
  onNext_yes h

theorem afterMember_close {seen : Fields Text Value} (h : skipSpace s = '\x7d' :: t) :
    afterMember vars budget depth seen store s = .ok (allocated store (.object seen) t) := by
  have hs : skipSpace ('\x7d' :: t) = '\x7d' :: t := by rw [← h, skipSpace_skipSpace]
  rw [afterMember, onNext_no (by simp [h]), h]
  simp [expect, hs]
  rfl

/-- Where a value is read, the array is not closed. -/
theorem elements_of_value {vs : List Value} {v : Value} {store' : Store}
    (h : value vars budget depth store s = .ok (v, store', t)) :
    elements vars (budget + 1) depth store vs s = afterElement vars budget depth vs v store' t := by
  cases budget with
  | zero =>
    rw [value] at h
    cases h
  | succ budget =>
    have hopen : ∀ u, skipSpace s ≠ ']' :: u := by
      intro u hu
      rw [← value_skipSpace, hu, value_cons rfl] at h
      simp [isNameStart] at h
    rw [elements_eq, onNext_no hopen, value_skipSpace, h]
    rfl

theorem scanKey_json {key : Text} (h : Json.scanString ('"' :: t) [] t = .ok (key, rest)) :
    scanKey ('"' :: t) = .ok (key, rest) := by
  rw [scanKey, skipSpace_cons rfl]
  exact scanString_json h

theorem scanKey_skipSpace (s : List Char) : scanKey (skipSpace s) = scanKey s := by
  rw [scanKey, scanKey, skipSpace_skipSpace]

/-- Where a key is read, the object is not closed. -/
theorem members_of_value {fs : Fields Text Value} {key : Text} {u w y : List Char} {v : Value}
    {store' : Store} (hk : scanKey s = .ok (key, u)) (hu : skipSpace u = ':' :: w)
    (h : value vars budget depth store w = .ok (v, store', y)) :
    members vars (budget + 1) depth store fs s =
      afterMember vars budget depth (fs.put key v) store' y := by
  have hopen : ∀ t, skipSpace s ≠ '\x7d' :: t := by
    intro t ht
    rw [← scanKey_skipSpace, ht, scanKey, skipSpace_cons rfl] at hk
    simp [scanName, skipSpace_cons (show isSpace '\x7d' = false from rfl), isNameStart, bind,
      Except.bind] at hk
  have hcolon : expect ':' u = .ok w := by simp [expect, hu]
  rw [members_eq, onNext_no hopen, scanKey_skipSpace, hk]
  simp only [bind, Except.bind, hcolon, h]

/-- What is found behind an element is found from the element on. -/
theorem found_element {vs : List Value} {seen : List Json} {y : Json}
    (h : Found base store x t (value vars budget depth store s))
    (hseen : List.Forall₂ (Holds base store) vs seen)
    (hafter : ∀ v store', Extends 0 store store' →
      List.Forall₂ (Holds base store') (v :: vs) (x :: seen) →
        Found base store' y rest (afterElement vars budget depth vs v store' t)) :
    Found base store y rest (elements vars (budget + 1) depth store vs s) := by
  obtain ⟨v, store', hval, he, hv⟩ := h
  have hall := List.Forall₂.cons hv (Holds.extendAll (he.mono (Nat.zero_le _)) hseen)
  rw [elements_of_value hval]
  exact (hafter v store' he hall).later he

/-- What is found behind a member is found from its key on. -/
theorem found_member {fs : Fields Text Value} {seen : Fields Text Json} {key : Text}
    {u w : List Char} {y : Json} (hk : scanKey s = .ok (key, u)) (hu : skipSpace u = ':' :: w)
    (h : Found base store x t (value vars budget depth store w))
    (hseen : List.Forall₂ (HoldsField base store) fs seen)
    (hafter : ∀ fs' store', Extends 0 store store' →
      List.Forall₂ (HoldsField base store') fs' (seen.put key x) →
        Found base store' y rest (afterMember vars budget depth fs' store' t)) :
    Found base store y rest (members vars (budget + 1) depth store fs s) := by
  obtain ⟨v, store', hval, he, hv⟩ := h
  have hall := Holds.extendFields (he.mono (Nat.zero_le _)) hseen
  rw [members_of_value hk hu hval]
  exact (hafter _ store' he (holdsField_put hall hv)).later he

/-- The induction is on the reading. What a program has read of an array or object so far stands
for what the JSON reader has `seen` of it. -/
theorem follows_of_reads {place : Place} (h : Reads IsExact place depth s x rest)
    (vars : Variables) (base : Nat) : Follows vars base place depth s x rest := by
  induction h with
  | string h =>
    intro _ store budget hb hlen
    obtain ⟨budget, rfl⟩ := Nat.exists_eq_add_one_of_ne_zero (Nat.ne_zero_of_lt hlen)
    rw [value_string (.inl rfl), scanString_json h]
    exact ⟨_, store, rfl, .refl store, .text _⟩
  | @emptyArray depth t rest h =>
    intro _ store budget hb hlen
    simp only [List.length_cons] at hlen
    obtain ⟨budget, rfl⟩ := Nat.exists_eq_add_of_le (show 2 ≤ budget by omega)
    rw [Nat.add_comm, value_array, elements_eq, onNext_yes h]
    exact found_allocated_array hb .nil rest
  | @array depth t x rest h ih =>
    intro _ store budget hb hlen
    simp only [List.length_cons] at hlen
    obtain ⟨budget, rfl⟩ := Nat.exists_eq_add_of_le (show 2 ≤ budget by omega)
    have ht := length_skipSpace_le t
    rw [Nat.add_comm, value_array, ← elements_skipSpace]
    exact ih store _ [] hb (by omega) .nil
  | @emptyObject depth t rest h =>
    intro _ store budget hb hlen
    simp only [List.length_cons] at hlen
    obtain ⟨budget, rfl⟩ := Nat.exists_eq_add_of_le (show 2 ≤ budget by omega)
    rw [Nat.add_comm, value_object, members_eq, onNext_yes h]
    exact found_allocated_object hb .nil rest
  | @object depth t x rest h ih =>
    intro _ store budget hb hlen
    simp only [List.length_cons] at hlen
    obtain ⟨budget, rfl⟩ := Nat.exists_eq_add_of_le (show 2 ≤ budget by omega)
    have ht := length_skipSpace_le t
    rw [Nat.add_comm, value_object, ← members_skipSpace]
    exact ih store _ [] hb (by omega) .nil
  | literal h hx =>
    intro hr store budget hb hlen
    obtain ⟨budget, rfl⟩ := Nat.exists_eq_add_one_of_ne_zero (Nat.ne_zero_of_lt hlen)
    obtain ⟨v, hv, hread⟩ := value_literal store h hx hr
    exact ⟨v, store, hread, .refl store, hv⟩
  | number h hx =>
    intro hr store budget hb hlen
    obtain ⟨budget, rfl⟩ := Nat.exists_eq_add_one_of_ne_zero (Nat.ne_zero_of_lt hlen)
    obtain ⟨n, rfl, hscan⟩ := scanInteger_json h hx hr
    obtain ⟨sign, digits, more, hi, rfl, -⟩ := Json.scanNumber_consumes h
    obtain ⟨c, u, hs, hc⟩ := hi.head (more ++ _)
    rw [hs] at hscan ⊢
    rw [value_integer hc, hscan]
    exact ⟨_, store, rfl, .refl store, .int n⟩
  | @lastElement depth seen s x t rest hx ht ih =>
    intro store budget vs hb hlen hseen
    obtain ⟨budget, rfl⟩ := Nat.exists_eq_add_one_of_ne_zero (Nat.ne_zero_of_lt hlen)
    have hfound := ih (endsName_of_skipSpace ht rfl) store budget hb (by omega)
    refine found_element hfound hseen fun v store' he hall => ?_
    rw [afterElement_close ht]
    exact found_allocated_array (Nat.le_trans hb he.size) (List.rel_reverse hall) rest
  | @nextElement depth seen s x t more y rest hx ht hy ihx ihy =>
    intro store budget vs hb hlen hseen
    have hmore := hx.length_next ht
    obtain ⟨budget, rfl⟩ := Nat.exists_eq_add_of_le (show 2 ≤ budget by omega)
    have hfound := ihx (endsName_of_skipSpace ht rfl) store (budget + 1) hb (by omega)
    rw [Nat.add_comm]
    refine found_element hfound hseen fun v store' he hall => ?_
    rw [afterElement_comma ht, ← elements_skipSpace]
    exact ihy store' _ (v :: vs) (Nat.le_trans hb he.size) (by omega) hall
  | @lastMember depth seen t key u v x w rest hk hu hx hw ih =>
    intro store budget fs hb hlen hseen
    have hmember := Json.length_of_member hk hu
    simp only [List.length_cons] at hlen
    obtain ⟨budget, rfl⟩ := Nat.exists_eq_add_of_le (show 2 ≤ budget by omega)
    have hfound := ih (endsName_of_skipSpace hw rfl) store (budget + 1) hb (by omega)
    rw [value_skipSpace] at hfound
    rw [Nat.add_comm]
    refine found_member (scanKey_json hk) hu hfound hseen fun fs' store' he hall => ?_
    rw [afterMember_close hw]
    exact found_allocated_object (Nat.le_trans hb he.size) hall rest
  | @nextMember depth seen t key u v x w more y rest hk hu hx hw hy ihx ihy =>
    intro store budget fs hb hlen hseen
    have hmember := Json.length_of_member hk hu
    have hmore := hx.length_next hw
    simp only [List.length_cons] at hlen
    obtain ⟨budget, rfl⟩ := Nat.exists_eq_add_of_le (show 2 ≤ budget by omega)
    have hfound := ihx (endsName_of_skipSpace hw rfl) store (budget + 1) hb (by omega)
    rw [value_skipSpace] at hfound
    rw [Nat.add_comm]
    refine found_member (scanKey_json hk) hu hfound hseen fun fs' store' he hall => ?_
    rw [afterMember_comma hw, ← members_skipSpace]
    exact ihy store' _ fs' (Nat.le_trans hb he.size) (by omega) hall

/-- A program reads a JSON text in front of any character with which no token goes on. -/
theorem readValue_plainText (vars : Variables) {c : Char} (h : Json.PlainText maxDepth s x)
    (hc : isNameContinue c = false ∧ c ≠ '.') (hb : base ≤ store.size) (more : List Char) :
    ∃ w, skipSpace w = [] ∧
      Found base store x (w ++ c :: more) (readValue vars store (s ++ c :: more)) := by
  have hends : Json.EndsNumber (c :: more) := by
    refine Json.endsNumber_cons ⟨endsInteger_of_endsName (endsName_cons hc.1 more) c rfl, hc.2, ?_⟩ _
    exact ⟨by rintro rfl; simp [isNameContinue] at hc, by rintro rfl; simp [isNameContinue] at hc⟩
  obtain ⟨w, hr, hw⟩ := h.reads hends
  refine ⟨w, hw, ?_⟩
  have hlen := length_skipSpace_le (s ++ c :: more)
  have hfound := follows_of_reads hr vars base (.blank hw (endsName_cons hc.1 more)) store
    (2 * (s ++ c :: more).length + 2) hb (by omega)
  rwa [value_skipSpace] at hfound

end RustdocIndex.Literal
