import RustdocIndex.Proofs.Result
import RustdocIndex.Proofs.Text.Scan

/-! Readers take something from the front of a text and hand on the rest. What a reader does is
settled by what it takes and by the first character behind that is no white space. -/
namespace RustdocIndex

/-- What is left of a text, as a part of a result. -/
class Leaves (ρ : Type) where
  rest : ρ → List Char
  withRest : ρ → List Char → ρ
  rest_withRest : ∀ r t, rest (withRest r t) = t
  withRest_withRest : ∀ r t u, withRest (withRest r t) u = withRest r u
  withRest_rest : ∀ r, withRest r (rest r) = r

export Leaves (rest withRest)

instance : Leaves (List Char) where
  rest t := t
  withRest _ t := t
  rest_withRest _ _ := rfl
  withRest_withRest _ _ _ := rfl
  withRest_rest _ := rfl

instance {α ρ : Type} [Leaves ρ] : Leaves (α × ρ) where
  rest r := rest r.2
  withRest r t := (r.1, withRest r.2 t)
  rest_withRest r := Leaves.rest_withRest r.2
  withRest_withRest r t u := by simp only [Leaves.withRest_withRest]
  withRest_rest r := by simp only [Leaves.withRest_rest]

/-- How the readers of a notation stop at integers. -/
class Stops (ε : Type) where
  /-- What may stand behind a value. -/
  Ends : Char → Prop
  /-- The text is over where an integer could stand. -/
  Gap : ε → Prop
  tooLong : Nat → ε
  /-- The text begins with an integer of so many digits, which are too many. -/
  Long : Nat → List Char → Prop
  isSpace_of_ends : ∀ {c}, Ends c → isSpace c = false
  not_gap_tooLong : ∀ n, ¬ Gap (tooLong n)
  head_of_long : ∀ {n s}, Long n s → ∃ c t, s = c :: t ∧ (c = '-' ∨ c.isDigit)

abbrev Reader (ε ρ : Type) := List Char → Except ε ρ

/-- One reader behind the character `c`, and another one before any other. -/
def onNext {ε ρ : Type} (c : Char) (yes no : Reader ε ρ) : Reader ε ρ := fun s =>
  match skipSpace s with
  | d :: t => if d = c then yes t else no (d :: t)
  | [] => no []

theorem onNext_yes {ε ρ : Type} {c : Char} {yes no : Reader ε ρ} {s t : List Char}
    (h : skipSpace s = c :: t) : onNext c yes no s = yes t := by
  simp [onNext, h]

theorem onNext_no {ε ρ : Type} {c : Char} {yes no : Reader ε ρ} {s : List Char}
    (h : ∀ t, skipSpace s ≠ c :: t) : onNext c yes no s = no (skipSpace s) := by
  rw [onNext]
  split
  · next d t hs =>
    rw [hs, if_neg]
    rintro rfl
    exact h t hs
  · next hs => rw [hs]

/-- A character is next, or another one or none. -/
theorem onNext_cases {ε ρ : Type} (c : Char) (yes no : Reader ε ρ) (s : List Char) :
    (∃ t, skipSpace s = c :: t ∧ onNext c yes no s = yes t) ∨
      (∀ t, skipSpace s ≠ c :: t) ∧ onNext c yes no s = no (skipSpace s) := by
  by_cases hnext : ∃ t, skipSpace s = c :: t
  · obtain ⟨t, ht⟩ := hnext
    exact .inl ⟨t, ht, onNext_yes ht⟩
  · rw [not_exists] at hnext
    exact .inr ⟨hnext, onNext_no hnext⟩

/-- What the program's readers ask for behind a part. -/
theorem match_comma {ε ρ : Type} (yes no : Reader ε ρ) (s : List Char) :
    (match skipSpace s with
      | ',' :: t => yes t
      | t => no t) = onNext ',' yes no s := by
  unfold onNext
  cases skipSpace s with
  | nil => rfl
  | cons c t =>
    by_cases hc : c = ','
    · subst hc
      rfl
    · simp [hc]

theorem onNext_skipSpace {ε ρ : Type} {c : Char} {yes no : Reader ε ρ} (s : List Char) :
    onNext c yes no (skipSpace s) = onNext c yes no s := by
  simp only [onNext, skipSpace_skipSpace]

theorem onNext_congr {ε ρ : Type} {c : Char} {yes no yes' no' : Reader ε ρ} {s : List Char}
    (hyes : ∀ t, skipSpace s = c :: t → yes t = yes' t)
    (hno : no (skipSpace s) = no' (skipSpace s)) : onNext c yes no s = onNext c yes' no' s := by
  by_cases h : ∃ t, skipSpace s = c :: t
  · obtain ⟨t, ht⟩ := h
    rw [onNext_yes ht, onNext_yes ht, hyes t ht]
  · rw [not_exists] at h
    rw [onNext_no h, onNext_no h, hno]

section

variable {ε ρ σ : Type} [Stops ε] {f yes no : Reader ε ρ} {c : Char}

/-- An error that tells of integers. -/
def Matters (e : ε) : Prop := Stops.Gap e ∨ ∃ n, e = Stops.tooLong n

/-- A reader that has nothing to say of integers where the text is over. -/
def Wants (f : Reader ε ρ) : Prop := ∀ s e, f s = .error e → Matters e → skipSpace s ≠ []

theorem Wants.of_fails (h : ∀ s, FailsOnly (fun e => ¬ Matters e) (f s)) : Wants f :=
  fun s e he hm => absurd hm (h s e he)

theorem Wants.onNext (hno : Wants no) : Wants (onNext c yes no) := by
  intro s e h he hs
  rw [onNext_no (by simp [hs]), hs] at h
  exact hno [] e h he rfl

theorem Wants.bind {g : ρ → Except ε σ} (hf : Wants f)
    (hg : ∀ r, FailsOnly (fun e => ¬ Matters e) (g r)) : Wants fun s => f s >>= g := by
  intro s e h he
  rcases bind_eq_error.mp h with h | ⟨r, -, h⟩
  · exact hf s e h he
  · exact absurd he (hg r e h)

/-- Results that differ at most in errors that do not tell of integers. -/
def Alike (x y : Except ε ρ) : Prop :=
  (∀ r, x = .ok r → y = .ok r) ∧ ∀ e, Matters e → x = .error e → y = .error e

theorem Alike.refl (x : Except ε ρ) : Alike x x := ⟨fun _ h => h, fun _ _ h => h⟩

theorem Alike.of_error {e : ε} (h : ¬ Matters e) (y : Except ε ρ) : Alike (.error e) y := by
  refine ⟨fun r hr => ?_, fun e' he' hr => ?_⟩
  · cases hr
  · cases hr
    exact absurd he' h

theorem Alike.bind {x : Except ε ρ} {k k' : ρ → Except ε σ} (h : ∀ r, Alike (k r) (k' r)) :
    Alike (x >>= k) (x >>= k') := by
  cases x with
  | ok r => exact h r
  | error e => exact .refl _

theorem Alike.then {x y : Except ε ρ} (h : Alike x y) (k : ρ → Except ε σ) :
    Alike (x >>= k) (y >>= k) := by
  refine ⟨fun r hr => ?_, fun e he hr => ?_⟩
  · obtain ⟨q, hq, hk⟩ := bind_eq_ok.mp hr
    exact bind_eq_ok.mpr ⟨q, h.1 q hq, hk⟩
  · rcases bind_eq_error.mp hr with hr | ⟨q, hq, hk⟩
    · exact bind_eq_error.mpr (.inl (h.2 e he hr))
    · exact bind_eq_error.mpr (.inr ⟨q, h.1 q hq, hk⟩)

theorem Alike.onNext {yes' no' : Reader ε ρ} {s : List Char} (hyes : ∀ t, Alike (yes t) (yes' t))
    (hno : ∀ t, Alike (no t) (no' t)) : Alike (onNext c yes no s) (onNext c yes' no' s) := by
  unfold RustdocIndex.onNext
  split
  · split
    · exact hyes _
    · exact hno _
  · exact hno _

end

section

variable {ε ρ σ : Type} [Stops ε] [Leaves ρ] [Leaves σ]

/-- Two rests at which a value ends alike: behind the same white space stands the same character,
one that ends values. -/
def Joins (ε : Type) [Stops ε] (s t : List Char) : Prop :=
  ∃ w d a b, skipSpace w = [] ∧ Stops.Ends ε d ∧ s = w ++ d :: a ∧ t = w ++ d :: b

/-- A reader that looks no further than the next character behind what it takes, or not even there
if it is `free`. It fails for want of an integer where the text is over, and for the length of one
where that one comes next. -/
structure Stable (free : Prop) (f : Reader ε ρ) : Prop where
  consumes {s r} : f s = .ok r → ∃ c, s = c ++ rest r ∧
    ∀ t, (free ∨ Joins ε (rest r) t) → f (c ++ t) = .ok (withRest r t)
  meets {s e n u} : f s = .error e → Stops.Gap e → Stops.Long ε n u →
    f (s ++ u) = .error (Stops.tooLong n)
  met {s n} : f s = .error (Stops.tooLong n) → ∃ front u e, s = front ++ u ∧ Stops.Long ε n u ∧
    f front = .error e ∧ Stops.Gap e

/-- What a reader takes is never blank. -/
def Solid (f : Reader ε ρ) : Prop :=
  ∀ s r, f s = .ok r → ∃ c, skipSpace c ≠ [] ∧ s = c ++ rest r

/-- A reader that first takes a character that ends values. -/
structure Takes (f : Reader ε ρ) : Prop where
  ok {s r} : f s = .ok r → ∃ w d a, skipSpace w = [] ∧ Stops.Ends ε d ∧ s = w ++ d :: a ∧
    rest r <:+ a
  error {s e} : f s = .error e → Matters e → ∃ w d a, skipSpace w = [] ∧ Stops.Ends ε d ∧
    s = w ++ d :: a

theorem skipSpace_of_long {n : Nat} {u : List Char} (h : Stops.Long ε n u) : skipSpace u = u := by
  obtain ⟨c, t, rfl, hc⟩ := Stops.head_of_long h
  have hs : isSpace c = false := by
    by_contra hs
    simp only [isSpace, Bool.not_eq_false, Bool.or_eq_true, beq_iff_eq] at hs
    rcases hs with ((rfl | rfl) | rfl) | rfl <;> simp at hc
  simp [skipSpace, hs]

theorem skipSpace_append_long {n : Nat} {u : List Char} (h : Stops.Long ε n u) (s : List Char) :
    skipSpace (s ++ u) = skipSpace s ++ u := by
  by_cases hs : skipSpace s = []
  · rw [skipSpace_append_of_blank hs, hs, skipSpace_of_long h, List.nil_append]
  · exact skipSpace_append hs u

/-- What makes a reader fit behind another one: if that one is not free, it sees a character that
ends values whenever it gets anywhere. -/
structure Linked (free final : Prop) (f : Reader ε ρ) : Prop where
  ok {s r c t} : f s = .ok r → s = c ++ rest r → (final ∨ Joins ε (rest r) t) →
    free ∨ Joins ε s (c ++ t)
  error {s e} : f s = .error e → Matters e → free ∨ ∃ w d a, skipSpace w = [] ∧
    Stops.Ends ε d ∧ s = w ++ d :: a

theorem Linked.of_free {final : Prop} (f : Reader ε ρ) : Linked True final f :=
  ⟨fun _ _ _ => .inl trivial, fun _ _ => .inl trivial⟩

theorem Takes.linked {free final : Prop} {f : Reader ε ρ} (h : Takes f) : Linked free final f where
  ok {s r c t} hf hs _ := by
    obtain ⟨w, d, a, hw, hd, rfl, x, rfl⟩ := h.ok hf
    have hc : c = w ++ d :: x := by
      apply (List.append_left_inj (rest r)).mp
      simpa using hs.symm
    exact .inr ⟨w, d, x ++ rest r, x ++ t, hw, hd, rfl, by simp [hc]⟩
  error he hm := .inr (h.error he hm)

/-- Where every character may follow a value, a reader only has to want something. -/
theorem Wants.linked {free : Prop} {f : Reader ε ρ} (hends : ∀ d, isSpace d = false → Stops.Ends ε d)
    (h : Wants f) : Linked free False f where
  ok {s r c t} _ hs ht := by
    obtain ⟨w, d, a, b, hw, hd, hr, rfl⟩ := ht.resolve_left id
    rw [hs, hr]
    by_cases hc : skipSpace c = []
    · refine .inr ⟨c ++ w, d, a, b, ?_, hd, by simp, by simp⟩
      rw [skipSpace_append_of_blank hc, hw]
    · obtain ⟨v, hv, hcv⟩ := exists_blank c
      obtain ⟨e, x, hx⟩ := List.exists_cons_of_ne_nil hc
      rw [hx] at hcv
      refine .inr ⟨v, e, x ++ (w ++ d :: a), x ++ (w ++ d :: b), hv, ?_, by simp [hcv], by simp [hcv]⟩
      exact hends e (isSpace_of_skipSpace hx)
  error {s e} he hm := by
    obtain ⟨v, hv, hsv⟩ := exists_blank s
    obtain ⟨d, x, hx⟩ := List.exists_cons_of_ne_nil (h s e he hm)
    rw [hx] at hsv
    exact .inr ⟨v, d, x, hv, hends d (isSpace_of_skipSpace hx), hsv⟩

variable {free final : Prop} {f : Reader ε ρ} {g : ρ → Except ε σ}

theorem Stable.bind (hf : Stable free f) (hg : ∀ r, Stable final fun t => g (withRest r t))
    (hlink : ∀ r, Linked free final fun t => g (withRest r t)) :
    Stable final fun s => f s >>= g where
  consumes {s r} h := by
    obtain ⟨r₁, hf₁, hg₁⟩ := bind_eq_ok.mp h
    rw [← Leaves.withRest_rest r₁] at hg₁
    obtain ⟨c, hs, hc⟩ := hf.consumes hf₁
    obtain ⟨c', hs', hc'⟩ := (hg r₁).consumes hg₁
    refine ⟨c ++ c', by rw [hs, hs', List.append_assoc], fun t ht => ?_⟩
    have hfree := (hlink r₁).ok hg₁ hs' ht
    rw [List.append_assoc]
    exact bind_eq_ok.mpr ⟨_, hc _ hfree, hc' t ht⟩
  meets {s e n u} h he hu := by
    rcases bind_eq_error.mp h with h | ⟨r₁, hf₁, hg₁⟩
    · exact bind_eq_error.mpr (.inl (hf.meets h he hu))
    · rw [← Leaves.withRest_rest r₁] at hg₁
      obtain ⟨c, hs, hc⟩ := hf.consumes hf₁
      have hfree : free ∨ Joins ε (rest r₁) (rest r₁ ++ u) :=
        ((hlink r₁).error hg₁ (.inl he)).imp_right fun ⟨w, d, a, hw, hd, hr⟩ =>
          ⟨w, d, a, a ++ u, hw, hd, hr, by simp [hr]⟩
      refine bind_eq_error.mpr (.inr ⟨withRest r₁ (rest r₁ ++ u), ?_, (hg r₁).meets hg₁ he hu⟩)
      rw [hs, List.append_assoc]
      exact hc _ hfree
  met {s n} h := by
    rcases bind_eq_error.mp h with h | ⟨r₁, hf₁, hg₁⟩
    · obtain ⟨front, u, e, hs, hu, hfront, he⟩ := hf.met h
      exact ⟨front, u, e, hs, hu, bind_eq_error.mpr (.inl hfront), he⟩
    · rw [← Leaves.withRest_rest r₁] at hg₁
      obtain ⟨c, hs, hc⟩ := hf.consumes hf₁
      obtain ⟨front, u, e, hr, hu, hfront, he⟩ := (hg r₁).met hg₁
      have hfree : free ∨ Joins ε (rest r₁) front :=
        ((hlink r₁).error hfront (.inl he)).imp_right fun ⟨w, d, a, hw, hd, hfr⟩ =>
          ⟨w, d, a ++ u, a, hw, hd, by simp [hr, hfr], hfr⟩
      refine ⟨c ++ front, u, e, by rw [hs, hr, List.append_assoc], hu, ?_, he⟩
      exact bind_eq_error.mpr (.inr ⟨_, hc _ hfree, hfront⟩)

theorem Stable.length_le (hf : Stable free f) {s : List Char} {r : ρ} (h : f s = .ok r) :
    (rest r).length ≤ s.length := by
  obtain ⟨c, hs, -⟩ := hf.consumes h
  rw [hs, List.length_append]
  omega

/-- A reader that takes nothing. -/
theorem Stable.ok (r : ρ) (h : ∀ t, f t = .ok (withRest r t)) : Stable free f where
  consumes {s r'} hs := by
    rw [h] at hs
    cases hs
    refine ⟨[], by simp [Leaves.rest_withRest], fun t _ => ?_⟩
    rw [List.nil_append, h, Leaves.withRest_withRest]
  meets {s e n u} hs := by simp [h] at hs
  met {s n} hs := by simp [h] at hs

/-- A reader that has nothing to say of integers. -/
theorem Stable.of_fails (hfails : ∀ s, FailsOnly (fun e => ¬ Matters e) (f s))
    (h : ∀ {s r}, f s = .ok r → ∃ c, s = c ++ rest r ∧
      ∀ t, (free ∨ Joins ε (rest r) t) → f (c ++ t) = .ok (withRest r t)) : Stable free f where
  consumes := h
  meets hs he _ := absurd (.inl he) (hfails _ _ hs)
  met hs := absurd (.inr ⟨_, rfl⟩) (hfails _ _ hs)

theorem Stable.error (h : ∀ t, ∃ e, f t = .error e ∧ ¬ Matters e) : Stable free f := by
  refine .of_fails (fun s e he => ?_) fun {s r} hs => ?_
  · obtain ⟨e', he', hm⟩ := h s
    cases he'.symm.trans he
    exact hm
  · obtain ⟨e, he, -⟩ := h s
    cases he.symm.trans hs

theorem Joins.eq_cons {s t : List Char} (h : Joins ε s t) (hs : skipSpace s = s) :
    ∃ d a b, isSpace d = false ∧ s = d :: a ∧ t = d :: b := by
  obtain ⟨w, d, a, b, hw, hd, rfl, rfl⟩ := h
  have hd := Stops.isSpace_of_ends hd
  rw [skipSpace_blank_cons hw hd] at hs
  have hwn : w = [] := by
    have hlen := congrArg List.length hs
    simp only [List.length_append, List.length_cons] at hlen
    exact List.eq_nil_of_length_eq_zero (by omega)
  exact ⟨d, a, b, hd, by simp [hwn], by simp [hwn]⟩

variable {c : Char} {yes no : Reader ε ρ}

/-- A character that no integer begins with. -/
def Mark (c : Char) : Prop := isSpace c = false ∧ c ≠ '-' ∧ c.isDigit = false

instance (c : Char) : Decidable (Mark c) :=
  inferInstanceAs (Decidable (isSpace c = false ∧ c ≠ '-' ∧ c.isDigit = false))

theorem Mark.not_long {n : Nat} {u : List Char} (hc : Mark c) (hu : Stops.Long ε n u)
    (t : List Char) : u ≠ c :: t := by
  obtain ⟨d, v, rfl, hd⟩ := Stops.head_of_long hu
  obtain ⟨-, hm, hdigit⟩ := hc
  intro he
  cases he
  simp_all

theorem skipSpace_blank_append {w s front u : List Char} (hw : skipSpace w = [])
    (hs : skipSpace s = front ++ u) : skipSpace (w ++ front) = front := by
  rw [skipSpace_append_of_blank hw]
  cases front with
  | nil => rfl
  | cons d x => simp [skipSpace, isSpace_of_skipSpace hs]

/-- Behind white space, what a reader takes and any text that it takes it from begin alike. -/
theorem exists_head_of_solid {s x t : List Char} {r : ρ} (hsolid : free → Solid f)
    (h : f (skipSpace s) = .ok r) (hs : skipSpace s = x ++ rest r)
    (ht : free ∨ Joins ε (rest r) t) :
    ∃ d a b, isSpace d = false ∧ skipSpace s = d :: a ∧ x ++ t = d :: b := by
  cases x with
  | nil =>
    have hfree : ¬ free := fun hf => by
      obtain ⟨v, hv, hsv⟩ := hsolid hf _ _ h
      rw [hs, List.nil_append] at hsv
      have hvn : v = [] := List.append_left_eq_self.mp hsv.symm
      exact hv (by simp [hvn, skipSpace])
    rw [List.nil_append] at hs
    obtain ⟨d, a, b, hd, hr, rfl⟩ := (ht.resolve_left hfree).eq_cons (by
      rw [← hs, skipSpace_skipSpace])
    exact ⟨d, a, b, hd, hs.trans hr, rfl⟩
  | cons d x => exact ⟨d, x ++ rest r, x ++ t, isSpace_of_skipSpace hs, hs, rfl⟩

theorem Stable.onNext (hc : Mark c) (hyes : Stable free yes) (hno : Stable free no)
    (hsolid : free → Solid no) : Stable free (onNext c yes no) where
  consumes {s r} h := by
    obtain ⟨w, hw, hs⟩ := exists_blank s
    rcases onNext_cases c yes no s with ⟨t, ht, hnext⟩ | ⟨hne, hnext⟩
    · obtain ⟨x, hx, hyes⟩ := hyes.consumes (hnext.symm.trans h)
      refine ⟨w ++ c :: x, by rw [hs, ht, hx]; simp, fun t ht => ?_⟩
      rw [List.append_assoc, List.cons_append, onNext_yes (skipSpace_blank_cons hw hc.1 _)]
      exact hyes t ht
    · have h := hnext.symm.trans h
      obtain ⟨x, hx, hno⟩ := hno.consumes h
      refine ⟨w ++ x, by rw [hs, hx, List.append_assoc], fun t ht => ?_⟩
      obtain ⟨d, a, b, hd, hsd, hxt⟩ := exists_head_of_solid hsolid h hx ht
      have hskip : skipSpace (w ++ x ++ t) = x ++ t := by
        rw [List.append_assoc, hxt, skipSpace_blank_cons hw hd]
      rw [onNext_no, hskip]
      · exact hno t ht
      · intro u hu
        rw [hskip, hxt] at hu
        cases hu
        exact hne a hsd
  meets {s e n u} h he hu := by
    rcases onNext_cases c yes no s with ⟨t, ht, hnext⟩ | ⟨hne, hnext⟩
    · have hsu : skipSpace (s ++ u) = c :: (t ++ u) := by rw [skipSpace_append_long hu, ht]; rfl
      rw [onNext_yes hsu]
      exact hyes.meets (hnext.symm.trans h) he hu
    · rw [onNext_no, skipSpace_append_long hu]
      · exact hno.meets (hnext.symm.trans h) he hu
      · intro t ht
        rw [skipSpace_append_long hu] at ht
        cases hs : skipSpace s with
        | nil =>
          rw [hs] at ht
          exact hc.not_long hu t ht
        | cons d x =>
          rw [hs] at ht
          cases ht
          exact hne x hs
  met {s n} h := by
    obtain ⟨w, hw, hs⟩ := exists_blank s
    rcases onNext_cases c yes no s with ⟨t, ht, hnext⟩ | ⟨hne, hnext⟩
    · obtain ⟨front, u, e, rfl, hu, hfront, he⟩ := hyes.met (hnext.symm.trans h)
      refine ⟨w ++ c :: front, u, e, by rw [hs, ht]; simp, hu, ?_, he⟩
      rw [onNext_yes (skipSpace_blank_cons hw hc.1 _)]
      exact hfront
    · obtain ⟨front, u, e, hfu, hu, hfront, he⟩ := hno.met (hnext.symm.trans h)
      have hblank := skipSpace_blank_append hw hfu
      refine ⟨w ++ front, u, e, by rw [hs, hfu, List.append_assoc], hu, ?_, he⟩
      rw [onNext_no, hblank]
      · exact hfront
      · intro t ht
        rw [hblank] at ht
        exact hne (t ++ u) (by rw [hfu, ht]; rfl)

theorem Stable.skip (hf : Stable free f) (hsolid : free → Solid f) :
    Stable free fun s => f (skipSpace s) where
  consumes {s r} h := by
    obtain ⟨w, hw, hs⟩ := exists_blank s
    obtain ⟨x, hx, hf⟩ := hf.consumes h
    refine ⟨w ++ x, by rw [hs, hx, List.append_assoc], fun t ht => ?_⟩
    obtain ⟨d, a, b, hd, -, hxt⟩ := exists_head_of_solid hsolid h hx ht
    have hskip : skipSpace (w ++ x ++ t) = x ++ t := by
      rw [List.append_assoc, hxt, skipSpace_blank_cons hw hd]
    rw [hskip]
    exact hf t ht
  meets {s e n u} h he hu := by
    rw [skipSpace_append_long hu]
    exact hf.meets h he hu
  met {s n} h := by
    obtain ⟨w, hw, hs⟩ := exists_blank s
    obtain ⟨front, u, e, hfu, hu, hfront, he⟩ := hf.met h
    refine ⟨w ++ front, u, e, by rw [hs, hfu, List.append_assoc], hu, ?_, he⟩
    rw [skipSpace_blank_append hw hfu]
    exact hfront

theorem Joins.head?_skipSpace {s t : List Char} (h : Joins ε s t) (x : List Char) :
    (skipSpace (x ++ s)).head? = (skipSpace (x ++ t)).head? := by
  obtain ⟨w, d, a, b, hw, hd, rfl, rfl⟩ := h
  have hd := Stops.isSpace_of_ends hd
  by_cases hx : skipSpace x = []
  · simp only [skipSpace_append_of_blank hx, skipSpace_blank_cons hw hd, List.head?_cons]
  · obtain ⟨e, y, hy⟩ := List.exists_cons_of_ne_nil hx
    simp [skipSpace_append hx, hy]

theorem head?_skipSpace_append {s : List Char} (h : skipSpace s ≠ []) (t : List Char) :
    (skipSpace (s ++ t)).head? = (skipSpace s).head? := by
  obtain ⟨d, x, hx⟩ := List.exists_cons_of_ne_nil h
  simp [skipSpace_append h, hx]

/-- A reader that is chosen by the next character; where there is none, an integer is missing. -/
theorem Stable.byHead {pick : Option Char → Reader ε ρ}
    (hnone : ∀ s, ∃ e, pick none s = .error e ∧ Stops.Gap e)
    (hsome : ∀ c, Stable False (pick (some c)))
    (hlong : ∀ {s n u}, skipSpace s = [] → Stops.Long ε n u →
      pick u.head? (s ++ u) = .error (Stops.tooLong n)) :
    Stable False fun s => pick (skipSpace s).head? s where
  consumes {s r} h := by
    cases hc : (skipSpace s).head? with
    | none =>
      obtain ⟨e, he, -⟩ := hnone s
      rw [hc, he] at h
      cases h
    | some c =>
      rw [hc] at h
      obtain ⟨x, hs, hx⟩ := (hsome c).consumes h
      refine ⟨x, hs, fun t ht => ?_⟩
      have hxt := (ht.resolve_left id).head?_skipSpace x
      rw [← hxt, ← hs, hc]
      exact hx t ht
  meets {s e n u} h he hu := by
    by_cases hs : skipSpace s = []
    · rw [skipSpace_append_long hu, hs]
      exact hlong hs hu
    · obtain ⟨c, x, hx⟩ := List.exists_cons_of_ne_nil hs
      simp only [hx, List.head?_cons] at h
      simp only [head?_skipSpace_append hs, hx, List.head?_cons]
      exact (hsome c).meets h he hu
  met {s n} h := by
    cases hc : (skipSpace s).head? with
    | none =>
      obtain ⟨e, he, hg⟩ := hnone s
      rw [hc, he] at h
      cases h
      exact absurd hg (Stops.not_gap_tooLong n)
    | some c =>
      rw [hc] at h
      obtain ⟨front, u, e, rfl, hu, hfront, he⟩ := (hsome c).met h
      by_cases hf : skipSpace front = []
      · obtain ⟨e', he', hg⟩ := hnone front
        exact ⟨front, u, e', rfl, hu, by rw [hf]; exact he', hg⟩
      · rw [head?_skipSpace_append hf] at hc
        exact ⟨front, u, e, rfl, hu, by rw [hc]; exact hfront, he⟩

theorem Takes.error_of (h : ∀ t, ∃ e, f t = .error e ∧ ¬ Matters e) : Takes f where
  ok {s r} hs := by
    obtain ⟨e, he, -⟩ := h s
    cases he.symm.trans hs
  error {s e} hs he := by
    obtain ⟨e', he', hm⟩ := h s
    cases he'.symm.trans hs
    exact absurd he hm

theorem Takes.onNext (hc : Stops.Ends ε c) (hyes : Stable False yes) (hno : Takes no) :
    Takes (onNext c yes no) where
  ok {s r} h := by
    obtain ⟨w, hw, hs⟩ := exists_blank s
    rcases onNext_cases c yes no s with ⟨t, ht, hnext⟩ | ⟨-, hnext⟩
    · obtain ⟨x, hx, -⟩ := hyes.consumes (hnext.symm.trans h)
      exact ⟨w, c, t, hw, hc, by rw [hs, ht], x, hx.symm⟩
    · obtain ⟨v, d, a, hv, hd, hsv, hr⟩ := hno.ok (hnext.symm.trans h)
      refine ⟨w ++ v, d, a, ?_, hd, by rw [hs, hsv, List.append_assoc], hr⟩
      rw [skipSpace_append_of_blank hw, hv]
  error {s e} h he := by
    obtain ⟨w, hw, hs⟩ := exists_blank s
    rcases onNext_cases c yes no s with ⟨t, ht, -⟩ | ⟨-, hnext⟩
    · exact ⟨w, c, t, hw, hc, by rw [hs, ht]⟩
    · obtain ⟨v, d, a, hv, hd, hsv⟩ := hno.error (hnext.symm.trans h) he
      refine ⟨w ++ v, d, a, ?_, hd, by rw [hs, hsv, List.append_assoc]⟩
      rw [skipSpace_append_of_blank hw, hv]

/-- A reader that succeeds where the text is over. -/
theorem Stable.orEnd {k : Reader ε ρ} (hk : Stable False k) (hwants : Wants k) (r : ρ)
    (hr : rest r = []) : Stable False fun s => if s = [] then .ok r else k s where
  consumes {s r'} h := by
    by_cases hs : s = []
    · rw [if_pos hs] at h
      cases h
      refine ⟨[], by rw [hs, hr]; rfl, fun t ht => ?_⟩
      obtain ⟨w, d, a, b, -, -, he, -⟩ := ht.resolve_left id
      simp [hr] at he
    · rw [if_neg hs] at h
      obtain ⟨c, hc, hk⟩ := hk.consumes h
      refine ⟨c, hc, fun t ht => ?_⟩
      obtain ⟨w, d, a, b, -, -, -, rfl⟩ := ht.resolve_left id
      rw [if_neg (by simp)]
      exact hk _ ht
  meets {s e n u} h he hu := by
    by_cases hs : s = []
    · rw [if_pos hs] at h
      cases h
    · rw [if_neg hs] at h
      rw [if_neg (by simp [hs])]
      exact hk.meets h he hu
  met {s n} h := by
    by_cases hs : s = []
    · rw [if_pos hs] at h
      cases h
    · rw [if_neg hs] at h
      obtain ⟨front, u, e, hs, hu, hfront, he⟩ := hk.met h
      refine ⟨front, u, e, hs, hu, ?_, he⟩
      rw [if_neg]
      · exact hfront
      · rintro rfl
        exact hwants [] e hfront (.inl he) rfl

/-- A reader that keeps a text for its errors only. -/
theorem Stable.of_alike {k : List Char → Reader ε ρ} (hk : ∀ s, Stable free (k s))
    (halike : ∀ s t u, Alike (k s u) (k t u)) : Stable free fun s => k s s where
  consumes {s r} h := by
    obtain ⟨c, hs, hc⟩ := (hk s).consumes h
    exact ⟨c, hs, fun t ht => (halike s _ _).1 _ (hc t ht)⟩
  meets {s e n u} h he hu :=
    (halike s _ _).2 _ (.inr ⟨n, rfl⟩) ((hk s).meets h he hu)
  met {s n} h := by
    obtain ⟨front, u, e, hs, hu, hfront, he⟩ := (hk s).met h
    exact ⟨front, u, e, hs, hu, (halike s _ _).2 _ (.inl he) hfront, he⟩

/-- A reader with a budget that grows with the text. -/
theorem Stable.of_budget {k : Nat → Reader ε ρ} {need : List Char → Nat}
    (hk : ∀ b, Stable free (k b)) (hneed : ∀ s b, need s ≤ b → k b s = k (need s) s)
    (hmono : ∀ s t, need s ≤ need (s ++ t)) : Stable free fun s => k (need s) s where
  consumes {s r} h := by
    obtain ⟨c, hs, -⟩ := (hk _).consumes h
    refine ⟨c, hs, fun t ht => ?_⟩
    rw [← hneed s _ (Nat.le_max_left (need s) (need (c ++ t)))] at h
    obtain ⟨c', hs', hc'⟩ := (hk _).consumes h
    have hcc : c' = c := List.append_cancel_right (hs'.symm.trans hs)
    subst hcc
    rw [← hneed _ _ (Nat.le_max_right (need s) (need (c' ++ t)))]
    exact hc' t ht
  meets {s e n u} h he hu := by
    rw [← hneed s _ (Nat.le_max_left (need s) (need (s ++ u)))] at h
    rw [← hneed _ _ (Nat.le_max_right (need s) (need (s ++ u)))]
    exact (hk _).meets h he hu
  met {s n} h := by
    obtain ⟨front, u, e, rfl, hu, hfront, he⟩ := (hk _).met h
    rw [hneed front _ (hmono front u)] at hfront
    exact ⟨front, u, e, rfl, hu, hfront, he⟩

end

end RustdocIndex
