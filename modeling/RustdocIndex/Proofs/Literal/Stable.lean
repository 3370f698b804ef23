import RustdocIndex.Proofs.Literal.Token
import RustdocIndex.Proofs.Text.Reader

/-! The readers of literal programs look no further than the next character behind what they
take. -/
namespace RustdocIndex.Literal

/-- Any character that is no white space ends a value. -/
instance : Stops Stop where
  Ends c := isSpace c = false
  Gap e := e = .problem .unexpectedEnd [] ∨ e = .problem .expectedInteger []
  tooLong := .integerTooLong
  Long := BeginsLong
  isSpace_of_ends h := h
  not_gap_tooLong n := by simp
  head_of_long := BeginsLong.head

variable {free : Prop} {c : Char} {s t : List Char}

/-- All other problems are there to stay when the text goes on: only where a value or an integer is
missing could an integer follow. -/
theorem not_matters_problem {p : Problem} (hend : p ≠ .unexpectedEnd) (hint : p ≠ .expectedInteger)
    (s : List Char) : ¬ Matters (Stop.problem p s) := by
  rintro ((h | h) | ⟨n, h⟩)
  · cases h
    exact hend rfl
  · cases h
    exact hint rfl
  · cases h

theorem expect_eq_onNext (c : Char) : expect c = onNext c (fun t => .ok t) fun s =>
    .error (.problem (.expected c s.head?) s) := by
  funext s
  cases hs : skipSpace s <;> simp [expect, onNext, hs]

/-- A mark is told from everything else by itself, whatever follows it. -/
theorem stable_expect (free : Prop) (hc : Mark c) : Stable free (expect c) := by
  rw [expect_eq_onNext]
  refine .onNext hc (.ok [] fun _ => rfl) (.error fun s => ⟨_, rfl, ?_⟩) fun _ s r h => ?_
  · exact not_matters_problem (by simp) (by simp) s
  · cases h

theorem expect_fails (s : List Char) : FailsOnly (fun e => ¬ Matters e) (expect c s) := by
  refine (expect_refuses c s).imp fun e he => ?_
  rw [he]
  exact not_matters_problem (by simp) (by simp) _

/-- A missing mark is a problem that further text cannot make good. -/
theorem wants_expect {ρ : Type} {g : List Char → Except Stop ρ} :
    Wants fun t => expect c t >>= g := by
  intro s e h he hs
  have hc : expect c s = .error (.problem (.expected c none) []) := by rw [expect, hs]
  simp only [hc] at h
  cases h
  exact not_matters_problem (by simp) (by simp) _ he

theorem Joins.head?_eq (h : Joins Stop s t) : s.head? = t.head? := by
  obtain ⟨w, d, a, b, -, -, rfl, rfl⟩ := h
  cases w <;> rfl

/-- A name is white space, the name itself, and a rest that it does not go on in. -/
theorem exists_name {r : String × List Char} (h : scanName s = .ok r) :
    ∃ w, skipSpace w = [] ∧ s = w ++ (r.1.toList ++ r.2) ∧ IsName r.1 ∧ EndsName r.2 := by
  obtain ⟨w, hw, hs⟩ := exists_blank s
  unfold scanName at h
  split at h
  · next c t ht =>
    split at h
    · next hc =>
      cases h
      refine ⟨w, hw, ?_, ⟨c, t.takeWhile isNameContinue, by simp, hc, ?_⟩, ?_⟩
      · rw [hs, ht]
        simp [List.takeWhile_append_dropWhile]
      · exact List.all_eq_true.mpr fun a ha => List.mem_takeWhile_imp ha
      · intro a ha
        have h := List.head?_dropWhile_not isNameContinue t
        rw [Option.mem_def.mp ha] at h
        simpa using h
    · cases h
  · cases h

theorem scanName_blank {w : List Char} (hw : skipSpace w = []) (s : List Char) :
    scanName (w ++ s) = scanName s := by
  simp only [scanName, skipSpace_append_of_blank hw]

theorem scanName_fails : FailsOnly (fun e => ¬ Matters e) (scanName s) := by
  refine (scanName_refuses s).imp fun e he => ?_
  rw [he]
  exact not_matters_problem (by simp) (by simp) _

theorem stable_scanName : Stable False scanName := by
  refine .of_fails (fun _ => scanName_fails) fun {s r} h => ?_
  obtain ⟨w, hw, hs, hn, hr⟩ := exists_name h
  refine ⟨w ++ r.1.toList, by rw [hs, List.append_assoc]; rfl, fun t ht => ?_⟩
  rw [List.append_assoc, scanName_blank hw, scanName_name hn]
  · rfl
  · intro a ha
    rw [← Joins.head?_eq (ht.resolve_left id)] at ha
    exact hr a ha

/-- An integer ends with the character behind it, which therefore has to stay the same. -/
theorem stable_scanInteger : Stable False scanInteger where
  consumes {s r} h := by
    obtain ⟨w, sign, digits, hs, hw, hi, hlen, hr, hn⟩ := exists_written h
    refine ⟨w ++ (sign ++ digits), by simp [hs, Leaves.rest], fun t ht => ?_⟩
    have hends : EndsInteger t := by
      intro a ha
      rw [← Joins.head?_eq (ht.resolve_left id)] at ha
      exact hr a ha
    rw [List.append_assoc, List.append_assoc, scanInteger_written hw hi hlen hends, ← hn]
    rfl
  meets {s e n u} h he hu := by
    obtain ⟨hn, sign, digits, rest, rfl, hi, rfl, hr⟩ := hu
    rcases exists_integer s with hs | ⟨w, sign', digits', rest', rfl, hw, hi', hr'⟩
    · cases hs.symm.trans h
      have hblank : skipSpace s = [] := by
        simpa [Stops.Gap] using he
      rw [scanInteger_integer hblank hi hr, if_pos hn]
      rfl
    · rw [scanInteger_integer hw hi' hr'] at h
      split at h <;> cases h
      exact absurd he (Stops.not_gap_tooLong _)
  met {s n} h := by
    rcases exists_integer s with hs | ⟨w, sign, digits, rest, rfl, hw, hi, hr⟩
    · cases hs.symm.trans h
    · rw [scanInteger_integer hw hi hr] at h
      split at h <;> cases h
      next hlen =>
      refine ⟨w, sign ++ (digits ++ rest), _, rfl, ⟨hlen, sign, digits, rest, rfl, hi, rfl, hr⟩, ?_,
        .inr rfl⟩
      rw [scanInteger_plain, hw]
      · rfl
      · simp [hw]

section

variable {start : List Char} {mark : Char} {seen : Text}

theorem scanString_fails (start : List Char) (mark : Char) (seen : Text) (s : List Char) :
    FailsOnly (fun e => ¬ Matters e) (scanString start mark seen s) := by
  refine (scanString_refuses start mark seen s).imp fun e he => ?_
  cases he <;> exact not_matters_problem (by simp) (by simp) _

/-- Strings are read alike wherever they began. -/
theorem scanString_consumes {r : Text × List Char} (h : scanString start mark seen s = .ok r) :
    ∃ c, s = c ++ r.2 ∧ ∀ start t, scanString start mark seen (c ++ t) = .ok (r.1, t) := by
  fun_induction scanString start mark seen s with
  | case1 => cases h
  | case2 seen s =>
    cases h
    exact ⟨[mark], rfl, fun start t => scanString_close⟩
  | case3 => cases h
  | case4 => cases h
  | case5 seen a b f d rest u hu hm hn ih =>
    obtain ⟨c, rfl, hc⟩ := ih h
    exact ⟨'\\' :: 'u' :: a :: b :: f :: d :: c, rfl, fun start t =>
      (scanString_unit hm hu).trans (hc start t)⟩
  | case6 => cases h
  | case7 => cases h
  | case8 seen a b rest u hu hm hn hx ih =>
    obtain ⟨c, rfl, hc⟩ := ih h
    exact ⟨'\\' :: 'x' :: a :: b :: c, rfl, fun start t =>
      (scanString_pair hm hu).trans (hc start t)⟩
  | case9 => cases h
  | case10 => cases h
  | case11 seen t hm hn hu hx ih =>
    obtain ⟨c, rfl, hc⟩ := ih h
    exact ⟨'\\' :: '\'' :: c, rfl, fun start t => (scanString_quote hm).trans (hc start t)⟩
  | case12 seen e t hu hx hq x he hm hn ih =>
    obtain ⟨c, rfl, hc⟩ := ih h
    exact ⟨'\\' :: e :: c, rfl, fun start t => (scanString_escaped hm he).trans (hc start t)⟩
  | case13 => cases h
  | case14 seen e t hm hn hb ih =>
    obtain ⟨c, rfl, hc⟩ := ih h
    exact ⟨e :: c, rfl, fun start t => (scanString_plain hm hn hb).trans (hc start t)⟩

end

/-- A string ends with its mark, so that anything may follow. -/
theorem stable_scanString (mark : Char) :
    Stable free fun t => scanString (mark :: t) mark [] t := by
  refine .of_fails (fun s => scanString_fails _ _ _ s) fun {s r} h => ?_
  obtain ⟨c, hs, hc⟩ := scanString_consumes h
  exact ⟨c, hs, fun t _ => hc _ t⟩

theorem wants_linked {ρ : Type} [Leaves ρ] {f : Reader Stop ρ} (h : Wants f) :
    Linked free False f := h.linked fun _ hd => hd

/-- A reader and what it makes of what it found. -/
theorem stable_thenOk {ρ σ : Type} [Leaves ρ] [Leaves σ] {f : Reader Stop ρ} {g : ρ → σ}
    (hf : Stable False f) (hg : ∀ r t, g (withRest r t) = withRest (g r) t) :
    Stable False fun s => f s >>= fun r => .ok (g r) := by
  refine hf.bind (fun r => .ok (g r) fun t => by rw [hg]) fun r => wants_linked ?_
  intro s e h
  cases h

/-- The key of a member as a choice by its first character, which is the form that stability is
proved for. -/
theorem scanKey_eq_onNext : scanKey =
    onNext '"' (fun t => scanString ('"' :: t) '"' [] t)
      (onNext '\'' (fun t => scanString ('\'' :: t) '\'' [] t) fun s =>
        scanName s >>= fun r => .ok (Text.ofString r.1, r.2)) := by
  funext s
  cases hs : skipSpace s with
  | nil => 
    have hn : skipSpace ([] : List Char) = [] := rfl
    simp [scanKey, onNext, scanName, hs, hn, bind, Except.bind]
  | cons c t =>
    have hc := isSpace_of_skipSpace hs
    have hct : skipSpace (c :: t) = c :: t := by simp [skipSpace, hc]
    simp only [scanKey, onNext, hs, hct]
    by_cases h1 : c = '"'
    · simp [h1]
    · by_cases h2 : c = '\''
      · simp [h2]
      · simp [h1, h2]
        rfl

theorem stable_scanKey : Stable False scanKey := by
  rw [scanKey_eq_onNext]
  refine .onNext (by decide) (stable_scanString _) ?_ False.elim
  refine .onNext (by decide) (stable_scanString _) ?_ False.elim
  exact stable_thenOk stable_scanName fun r t => rfl

section

variable {vars : Variables} {store : Store}

/-- The element of an array, and the rest. -/
def picked (store : Store) (name : String) (x : Value) (start after : List Char) (index : Int) :
    Reader Stop (Value × List Char) := fun rest =>
  match store.elements? x with
  | none => .error (.problem (.notAnArray name) start)
  | some xs =>
    match elementAt? xs index with
    | some y => .ok (y, rest)
    | none => .error (.problem (.indexOutOfRange index name xs.length) after)

/-- What stands in brackets behind the name of an array. -/
def element (store : Store) (name : String) (x : Value) (start after : List Char) :
    Reader Stop (Value × List Char) := fun inside =>
  scanInteger inside >>= fun r => expect ']' r.2 >>= picked store name x start after r.1

/-- What the name of a variable or a literal word stands for. -/
def named (vars : Variables) (store : Store) (start : List Char) (name : String) :
    Reader Stop (Value × List Char) := fun t =>
  match name with
  | "null" => .ok (.null, t)
  | "true" => .ok (.bool true, t)
  | "false" => .ok (.bool false, t)
  | name =>
    match vars.get? name with
    | none => .error (.problem (.undeclaredReference name) start)
    | some x =>
      onNext '[' (fun s => element store name x start s s) (fun t => .ok (x, t)) t

/-- A reference reads a name and goes on by what the name stands for. -/
theorem reference_eq : reference vars store = fun s =>
    scanName s >>= fun r => named vars store s r.1 r.2 := by
  funext s
  rw [reference]
  congr 1
  funext r
  obtain ⟨name, t⟩ := r
  simp only [named]
  by_cases h1 : name = "null"
  · subst h1
    rfl
  by_cases h2 : name = "true"
  · subst h2
    rfl
  by_cases h3 : name = "false"
  · subst h3
    rfl
  cases hx : vars.get? name with
  | none => simp [hx]
  | some x =>
    simp only [hx, onNext]
    cases skipSpace t with
    | nil => rfl
    | cons c t =>
      by_cases hc : c = '['
      · subst hc
        rfl
      · simp [hc, pure, Except.pure]

/-- Where the name began matters to the messages alone. -/
theorem alike_element (name : String) (x : Value) (start after start' after' s : List Char) :
    Alike (element store name x start after s) (element store name x start' after' s) := by
  refine .bind fun r => .bind fun t => ?_
  unfold picked
  split
  · exact .of_error (not_matters_problem (by simp) (by simp) _) _
  · split
    · exact .refl _
    · exact .of_error (not_matters_problem (by simp) (by simp) _) _

theorem stable_picked (name : String) (x : Value) (start after : List Char) (index : Int) :
    Stable free (picked store name x start after index) := by
  unfold picked
  split
  · exact .error fun t => ⟨_, rfl, not_matters_problem (by simp) (by simp) _⟩
  · split
    · next y hy => exact .ok (y, []) fun t => rfl
    · exact .error fun t => ⟨_, rfl, not_matters_problem (by simp) (by simp) _⟩

theorem stable_element (name : String) (x : Value) (start after : List Char) :
    Stable False (element store name x start after) := by
  have hclose (i : Int) : Stable False fun t => expect ']' t >>= picked store name x start after i :=
    (stable_expect True (by decide)).bind (fun _ => stable_picked name x start after i)
      fun _ => .of_free _
  have hwants (i : Int) : Wants fun t => expect ']' t >>= picked store name x start after i :=
    wants_expect
  exact stable_scanInteger.bind (fun r => hclose r.1) fun r => wants_linked (hwants r.1)

/-- A name may be followed by an index or by anything else, which the next character decides. -/
theorem stable_named (start : List Char) (name : String) :
    Stable False (named vars store start name) := by
  unfold named
  split
  · exact .ok (.null, []) fun t => rfl
  · exact .ok (.bool true, []) fun t => rfl
  · exact .ok (.bool false, []) fun t => rfl
  · split
    · exact .error fun t => ⟨_, rfl, not_matters_problem (by simp) (by simp) _⟩
    · next x hx =>
      refine .onNext (by decide) ?_ (.ok (x, []) fun t => rfl) False.elim
      exact .of_alike (fun s => stable_element _ x start s) fun s t u => alike_element ..

theorem wants_named (start : List Char) (name : String) : Wants (named vars store start name) := by
  unfold named
  split
  · exact .of_fails fun s => .ok _
  · exact .of_fails fun s => .ok _
  · exact .of_fails fun s => .ok _
  · split
    · exact .of_fails fun s => .error (not_matters_problem (by simp) (by simp) _)
    · exact .onNext (.of_fails fun s => .ok _)

theorem alike_named (start start' : List Char) (name : String) (t : List Char) :
    Alike (named vars store start name t) (named vars store start' name t) := by
  unfold named
  split
  · exact .refl _
  · exact .refl _
  · exact .refl _
  · split
    · exact .of_error (not_matters_problem (by simp) (by simp) _) _
    · unfold onNext
      split
      · split
        · exact alike_element ..
        · exact .refl _
      · exact .refl _

theorem stable_reference : Stable False (reference vars store) := by
  rw [reference_eq]
  refine .of_alike (k := fun start s => scanName s >>= fun r => named vars store start r.1 r.2)
    (fun start => ?_) fun s t u => .bind fun r => alike_named ..
  exact stable_scanName.bind (fun r => stable_named start r.1)
    fun r => wants_linked (wants_named start r.1)

/-- A value that is neither a string nor in brackets, by its first character. -/
def scalar (vars : Variables) (store : Store) : Option Char →
    Reader Stop (Value × Store × List Char)
  | none => fun _ => .error (.problem .unexpectedEnd [])
  | some c => fun s =>
    if c = '-' ∨ c.isDigit then scanInteger (skipSpace s) >>= fun r => .ok (.int r.1, store, r.2)
    else if isNameStart c then
      reference vars store (skipSpace s) >>= fun r => .ok (r.1, store, r.2)
    else .error (.problem (.unexpectedCharacter c) (skipSpace s))

/-- White space before an integer that is too long makes no difference. -/
theorem scanInteger_long {n : Nat} {u : List Char} (hs : skipSpace s = []) (hu : BeginsLong n u) :
    scanInteger (s ++ u) = .error (.integerTooLong n) := by
  obtain ⟨hn, sign, digits, rest, rfl, hi, rfl, hr⟩ := hu
  rw [scanInteger_integer hs hi hr, if_pos hn]

/-- Numbers, words and names are told apart by their first character. -/
theorem stable_scalar : Stable False fun s => scalar vars store (skipSpace s).head? s := by
  refine .byHead (fun s => ⟨_, rfl, .inl rfl⟩) (fun c => ?_) fun {s n u} hs hu => ?_
  · unfold scalar
    by_cases hi : c = '-' ∨ c.isDigit
    · simp only [hi, if_true]
      exact .skip (stable_thenOk stable_scanInteger fun r t => rfl) False.elim
    · by_cases hn : isNameStart c
      · simp only [hi, hn, if_true, if_false]
        exact .skip (stable_thenOk stable_reference fun r t => rfl) False.elim
      · simp only [hi, hn, if_false]
        exact .error fun t => ⟨_, rfl, not_matters_problem (by simp) (by simp) _⟩
  · obtain ⟨c, t, rfl, hc⟩ := Stops.head_of_long hu
    have hlong := scanInteger_long (s := []) rfl hu
    simp only [List.head?_cons, scalar, hc, if_true, skipSpace_append_of_blank hs,
      skipSpace_of_long hu]
    exact bind_eq_error.mpr (.inl hlong)

/-- What follows an opening bracket, unless there are too many. -/
def bracket (depth : Nat) (inside : Nat → Reader Stop (Value × Store × List Char)) :
    Reader Stop (Value × Store × List Char) :=
  match depth with
  | 0 => fun t => .error (.problem .tooDeep t)
  | depth + 1 => inside depth

/-- A string from its opening `mark` on. -/
def string (store : Store) (mark : Char) : Reader Stop (Value × Store × List Char) := fun t =>
  scanString (mark :: t) mark [] t >>= fun r => .ok (.text r.1, store, r.2)

/-- A value as a choice by its first character: a string, an array, an object, or a scalar. -/
theorem value_eq (budget depth : Nat) : value vars (budget + 1) depth store =
    onNext '"' (string store '"') (onNext '\'' (string store '\'')
      (onNext '[' (bracket depth fun depth => elements vars budget depth store [])
        (onNext '\x7b' (bracket depth fun depth => members vars budget depth store [])
          fun s => scalar vars store (skipSpace s).head? s))) := by
  funext s
  have hnil : skipSpace ([] : List Char) = [] := rfl
  cases hs : skipSpace s with
  | nil => simp [value, onNext, hs, hnil, scalar]
  | cons c t =>
    have hct : skipSpace (c :: t) = c :: t := by rw [← hs, skipSpace_skipSpace]
    simp only [value, onNext, hs, hct, List.head?_cons, scalar]
    by_cases h1 : c = '"'
    · subst h1
      rfl
    by_cases h2 : c = '\''
    · subst h2
      rfl
    by_cases h3 : c = '['
    · subst h3
      cases depth <;> rfl
    by_cases h4 : c = '\x7b'
    · subst h4
      cases depth <;> rfl
    simp only [h1, h2, h3, h4, or_self, if_false]
    rfl

/-- A value in a new cell, and the rest. -/
def allocated (store : Store) (cell : Cell) (rest : List Char) : Value × Store × List Char :=
  ((store.alloc cell).1, (store.alloc cell).2, rest)

/-- What follows an element. -/
def afterElement (vars : Variables) (budget depth : Nat) (seen : List Value) (x : Value)
    (store : Store) : Reader Stop (Value × Store × List Char) :=
  onNext ',' (elements vars budget depth store (x :: seen)) fun t => expect ']' t >>= fun rest =>
    .ok (allocated store (.array (x :: seen).reverse) rest)

/-- Elements of an array as a choice by their first character, and then by the one behind a value.
-/
theorem elements_eq (budget depth : Nat) (seen : List Value) :
    elements vars (budget + 1) depth store seen =
      onNext ']' (fun rest => .ok (allocated store (.array seen.reverse) rest)) fun s =>
        value vars budget depth store s >>= fun r =>
          afterElement vars budget depth seen r.1 r.2.1 r.2.2 := by
  funext s
  rw [elements, onNext]
  cases skipSpace s with
  | nil => exact congrArg _ (funext fun r => match_comma ..)
  | cons c t =>
    by_cases hc : c = ']'
    · subst hc
      rfl
    · simp only [hc, if_false]
      split
      · next heq =>
        cases heq
        exact absurd rfl hc
      · exact congrArg _ (funext fun r => match_comma ..)

/-- What follows a member. -/
def afterMember (vars : Variables) (budget depth : Nat) (seen : Fields Text Value) (store : Store) :
    Reader Stop (Value × Store × List Char) :=
  onNext ',' (members vars budget depth store seen) fun t => expect '\x7d' t >>= fun rest =>
    .ok (allocated store (.object seen) rest)

theorem members_eq (budget depth : Nat) (seen : Fields Text Value) :
    members vars (budget + 1) depth store seen =
      onNext '\x7d' (fun rest => .ok (allocated store (.object seen) rest)) fun s =>
        scanKey s >>= fun k => expect ':' k.2 >>= fun t => value vars budget depth store t >>= fun r =>
          afterMember vars budget depth (seen.put k.1 r.1) r.2.1 r.2.2 := by
  funext s
  rw [members, onNext]
  cases skipSpace s with
  | nil => exact bind_congr_ok rfl fun k _ => bind_congr_ok rfl fun t _ => bind_congr_ok rfl fun r _ =>
      match_comma ..
  | cons c t =>
    by_cases hc : c = '\x7d'
    · subst hc
      rfl
    · simp only [hc, if_false]
      split
      · next heq =>
        cases heq
        exact absurd rfl hc
      · exact bind_congr_ok rfl fun k _ => bind_congr_ok rfl fun t _ => bind_congr_ok rfl fun r _ =>
          match_comma ..

theorem stable_string (mark : Char) : Stable False (string store mark) :=
  stable_thenOk (stable_scanString mark) fun _ _ => rfl

/-- A bracket takes one level from the values inside, which are stable at every depth. -/
theorem stable_bracket {inside : Nat → Reader Stop (Value × Store × List Char)}
    (h : ∀ depth, Stable False (inside depth)) (depth : Nat) : Stable False (bracket depth inside) := by
  cases depth with
  | zero => exact .error fun t => ⟨_, rfl, not_matters_problem (by simp) (by simp) _⟩
  | succ depth => exact h depth

theorem stable_allocated (store : Store) (cell : Cell) :
    Stable False fun rest => (Except.ok (allocated store cell rest) : Except Stop _) :=
  .ok (allocated store cell []) fun _ => rfl

theorem stable_close {ρ : Type} [Leaves ρ] {g : List Char → ρ} (hc : Mark c)
    (hg : ∀ t u, g u = withRest (g t) u) : Stable False fun t => expect c t >>= fun rest => .ok (g rest) :=
  stable_thenOk (stable_expect False hc) fun t u => hg t u

theorem stable_afterElement {budget depth : Nat} {seen : List Value} {x : Value}
    (h : Stable False (elements vars budget depth store (x :: seen))) :
    Stable False (afterElement vars budget depth seen x store) :=
  .onNext (by decide) h (stable_close (by decide) fun _ _ => rfl) False.elim

theorem stable_afterMember {budget depth : Nat} {seen : Fields Text Value}
    (h : Stable False (members vars budget depth store seen)) :
    Stable False (afterMember vars budget depth seen store) :=
  .onNext (by decide) h (stable_close (by decide) fun _ _ => rfl) False.elim

theorem wants_afterElement (budget depth : Nat) (seen : List Value) (x : Value) (store : Store) :
    Wants (afterElement vars budget depth seen x store) := .onNext wants_expect

theorem wants_afterMember (budget depth : Nat) (seen : Fields Text Value) (store : Store) :
    Wants (afterMember vars budget depth seen store) := .onNext wants_expect

/-- Values, and what is left of arrays and objects. -/
structure StableValues (vars : Variables) (budget : Nat) : Prop where
  value (depth : Nat) (store : Store) : Stable False (value vars budget depth store)
  elements (depth : Nat) (store : Store) (seen : List Value) :
    Stable False (elements vars budget depth store seen)
  members (depth : Nat) (store : Store) (seen : Fields Text Value) :
    Stable False (members vars budget depth store seen)

/-- By induction on the budget: the three readers of values call each other with one less. -/
theorem stable_values (vars : Variables) (budget : Nat) : StableValues vars budget := by
  induction budget with
  | zero =>
    have hzero (s : List Char) : ¬ Matters (Stop.problem .outOfSteps s) :=
      not_matters_problem (by simp) (by simp) s
    exact ⟨fun _ _ => .error fun s => ⟨_, rfl, hzero s⟩,
      fun _ _ _ => .error fun s => ⟨_, rfl, hzero s⟩,
      fun _ _ _ => .error fun s => ⟨_, rfl, hzero s⟩⟩
  | succ budget ih =>
    refine ⟨fun depth store => ?_, fun depth store seen => ?_, fun depth store seen => ?_⟩
    · rw [value_eq]
      refine .onNext (by decide) (stable_string _) ?_ False.elim
      refine .onNext (by decide) (stable_string _) ?_ False.elim
      refine .onNext (by decide) (stable_bracket (fun depth => ih.elements depth store []) _) ?_ False.elim
      refine .onNext (by decide) (stable_bracket (fun depth => ih.members depth store []) _) ?_ False.elim
      exact stable_scalar
    · rw [elements_eq]
      refine .onNext (by decide) (stable_allocated store _) ?_ False.elim
      refine (ih.value depth store).bind (fun r => stable_afterElement (ih.elements ..)) fun r => ?_
      exact wants_linked (wants_afterElement budget depth seen r.1 r.2.1)
    · rw [members_eq]
      have hvalue (key : Text) : Stable False fun t => value vars budget depth store t >>= fun r =>
          afterMember vars budget depth (seen.put key r.1) r.2.1 r.2.2 :=
        (ih.value depth store).bind
          (fun r => stable_afterMember (ih.members depth r.2.1 (seen.put key r.1)))
          fun r => wants_linked (wants_afterMember budget depth (seen.put key r.1) r.2.1)
      have hcolon (key : Text) : Stable False fun t => expect ':' t >>= fun t =>
          value vars budget depth store t >>= fun r =>
            afterMember vars budget depth (seen.put key r.1) r.2.1 r.2.2 :=
        (stable_expect True (by decide)).bind (fun _ => hvalue key) fun _ => .of_free _
      have hwants (key : Text) : Wants fun t => expect ':' t >>= fun t =>
          value vars budget depth store t >>= fun r =>
            afterMember vars budget depth (seen.put key r.1) r.2.1 r.2.2 := wants_expect
      refine .onNext (by decide) (stable_allocated store _) ?_ False.elim
      exact stable_scanKey.bind (fun k => hcolon k.1) fun k => wants_linked (hwants k.1)

end

end RustdocIndex.Literal
