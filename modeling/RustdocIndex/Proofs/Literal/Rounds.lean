import Mathlib.Data.Fintype.Prod
import RustdocIndex.Proofs.Literal.Place
import RustdocIndex.Proofs.Literal.Progress
import RustdocIndex.Proofs.Literal.Trace

/-! Every program is read to an end: a rule has fewer rounds than the text has places, and the
budgets of the readers are never used up. -/
namespace RustdocIndex.Literal

instance : Fintype Rule where
  elems := {.program, .declarations, .call, .arguments, .value, .array, .object, .string}
  complete rule := by cases rule <;> decide

/-- The rounds of a reader on `text`. A round of the `first` rules may begin where the text does;
the others begin behind it, and each one behind the earlier ones of its rule. -/
structure Orderly (first : List Rule) (text : List Char) (rounds : List Round) : Prop where
  within : ∀ r ∈ rounds, r.text <:+ text
  behind : ∀ r ∈ rounds, r.rule ∉ first → r.text.length < text.length
  levels : ∀ r ∈ rounds, r.levels ≤ maxDepth
  nearer : rounds.Pairwise fun r q => r.rule = q.rule → q.text.length < r.text.length

namespace Orderly

variable {first first' : List Rule} {s t : List Char} {rounds later : List Round}

theorem nil : Orderly first s [] := ⟨by simp, by simp, by simp, .nil⟩

theorem mono (h : Orderly first s rounds) (hsub : first ⊆ first') : Orderly first' s rounds where
  within := h.within
  behind r hr hrule := h.behind r hr fun hmem => hrule (hsub hmem)
  levels := h.levels
  nearer := h.nearer

theorem of_suffix (h : Orderly first t rounds) (ht : t <:+ s) : Orderly first s rounds where
  within r hr := (h.within r hr).trans ht
  behind r hr hrule := Nat.lt_of_lt_of_le (h.behind r hr hrule) ht.length_le
  levels := h.levels
  nearer := h.nearer

/-- Further on in the text, any rule may be the first. -/
theorem of_shorter (h : Orderly first t rounds) (ht : t <:+ s) (hlt : t.length < s.length) :
    Orderly first' s rounds where
  within r hr := (h.within r hr).trans ht
  behind r hr _ := Nat.lt_of_le_of_lt (h.within r hr).length_le hlt
  levels := h.levels
  nearer := h.nearer

/-- A rule that was not yet among the first may have one more round in front of all others. -/
theorem cons {rule : Rule} {levels : Nat} (h : Orderly first s rounds) (hrule : rule ∉ first)
    (hlevels : levels ≤ maxDepth) : Orderly (rule :: first) s (⟨rule, levels, s⟩ :: rounds) where
  within := List.forall_mem_cons.mpr ⟨List.suffix_refl s, h.within⟩
  behind := List.forall_mem_cons.mpr ⟨fun hne => absurd List.mem_cons_self hne,
    fun r hr hne => h.behind r hr fun hmem => hne (List.mem_cons_of_mem _ hmem)⟩
  levels := List.forall_mem_cons.mpr ⟨hlevels, h.levels⟩
  nearer := by
    refine List.pairwise_cons.mpr ⟨fun q hq heq => h.behind q hq ?_, h.nearer⟩
    rwa [← heq]

/-- What is read of the rest, where every round so far began in front of it. -/
theorem append (h : Orderly first s rounds) (hpast : ∀ r ∈ rounds, t.length < r.text.length)
    (hlater : Orderly first s later) (hrest : ∀ q ∈ later, q.text <:+ t) :
    Orderly first s (rounds ++ later) where
  within r hr := (List.mem_append.mp hr).elim (h.within r) (hlater.within r)
  behind r hr := (List.mem_append.mp hr).elim (h.behind r) (hlater.behind r)
  levels r hr := (List.mem_append.mp hr).elim (h.levels r) (hlater.levels r)
  nearer := List.pairwise_append.mpr ⟨h.nearer, hlater.nearer, fun r hr q hq _ =>
    Nat.lt_of_le_of_lt (hrest q hq).length_le (hpast r hr)⟩

/-- There are eight rules, and as many places in a text as it has characters, and its end. -/
theorem length_le (h : Orderly first s rounds) : rounds.length ≤ 8 * (s.length + 1) := by
  -- No two rounds are of one rule with equally much ahead of them.
  let place (r : Round) : Rule × Nat := (r.rule, r.text.length)
  have hnodup : (rounds.map place).Nodup := by
    refine List.pairwise_map.mpr (h.nearer.imp fun hnear heq => ?_)
    obtain ⟨hrule, hlen⟩ := Prod.mk.inj heq
    exact absurd hlen (Nat.ne_of_gt (hnear hrule))
  have hsub : (rounds.map place).toFinset ⊆ Finset.univ ×ˢ Finset.range (s.length + 1) := by
    intro p hp
    obtain ⟨r, hr, rfl⟩ := List.mem_map.mp (List.mem_toFinset.mp hp)
    have hle := (h.within r hr).length_le
    simp only [place, Finset.mem_product, Finset.mem_univ, Finset.mem_range, true_and]
    omega
  have hcard := Finset.card_le_card hsub
  rw [List.toFinset_card_of_nodup hnodup, List.length_map, Finset.card_product,
    Finset.card_range] at hcard
  exact hcard

end Orderly

/-- An error other than that of a budget that is used up. -/
def Affords (e : Stop) : Prop := ∀ t, e ≠ .problem .outOfSteps t

theorem affords_problem {p : Problem} (h : p ≠ .outOfSteps) (s : List Char) :
    Affords (.problem p s) := by
  rintro t ⟨⟩
  exact h rfl

theorem affords_tooLong (n : Nat) : Affords (.integerTooLong n) := nofun

section

variable {vars : Variables} {store : Store} {c : Char}

theorem affords_expect (c : Char) (s : List Char) : FailsOnly Affords (expect c s) := by
  refine (expect_refuses c s).imp fun e he => ?_
  rw [he]
  exact affords_problem (by simp) _

theorem affords_scanName (s : List Char) : FailsOnly Affords (scanName s) := by
  refine (scanName_refuses s).imp fun e he => ?_
  rw [he]
  exact affords_problem (by simp) _

theorem affords_scanInteger (s : List Char) : FailsOnly Affords (scanInteger s) := by
  refine (scanInteger_refuses s).imp fun e he => ?_
  rcases he with rfl | ⟨n, rfl⟩
  · exact affords_problem (by simp) _
  · exact affords_tooLong n

/-- Scanners take no steps from the budget, so they cannot run out of it. -/
theorem affords_scanString (start : List Char) (mark : Char) (seen : Text) (s : List Char) :
    FailsOnly Affords (scanString start mark seen s) := by
  refine (scanString_refuses start mark seen s).imp fun e he => ?_
  cases he <;> exact affords_problem (by simp) _

theorem affords_named (start : List Char) (name : String) (t : List Char) :
    FailsOnly Affords (named vars store start name t) := by
  unfold named
  split
  · exact .ok _
  · exact .ok _
  · exact .ok _
  · split
    · exact .error (affords_problem (by simp) _)
    · next x _ =>
      have helement (u : List Char) : FailsOnly Affords (element store name x start u u) := by
        refine (affords_scanInteger u).bind fun r _ => (affords_expect _ _).bind fun v _ => ?_
        unfold picked
        split
        · exact .error (affords_problem (by simp) _)
        · split
          · exact .ok _
          · exact .error (affords_problem (by simp) _)
      unfold onNext
      split
      · split
        · exact helement _
        · exact .ok _
      · exact .ok _

theorem affords_scalar (first : Option Char) (s : List Char) :
    FailsOnly Affords (scalar vars store first s) := by
  unfold scalar
  split
  · exact .error (affords_problem (by simp) _)
  · split
    · exact (affords_scanInteger _).bind fun _ _ => .ok _
    · split
      · rw [reference_eq]
        refine .bind ?_ fun _ _ => .ok _
        exact (affords_scanName _).bind fun r _ => affords_named _ r.1 r.2
      · exact .error (affords_problem (by simp) _)

theorem affords_assigned (st : State) (name : String) (start : List Char) (target key : Value)
    (r : Value × Store × List Char) : FailsOnly Affords (assigned st name start target key r) := by
  refine (assigned_refuses st name start target key r).imp fun e he => ?_
  rcases he with rfl | ⟨shown, rfl⟩ <;> exact affords_problem (by simp) _

end

/-- A reader's rounds on `text`, and where it comes to: behind all of them, or to an error, within
its budget. -/
structure Forward {ρ : Type} [Leaves ρ] (first : List Rule) (text : List Char) (x : Traced ρ) :
    Prop extends Orderly first text x.rounds where
  suffix : ∀ r, x.result = .ok r → rest r <:+ text
  past : ∀ r, x.result = .ok r → ∀ q ∈ x.rounds, (rest r).length < q.text.length
  affords : FailsOnly Affords x.result

theorem Traced.rounds_bind_ok {ρ σ : Type} {x : Traced ρ} {f : ρ → Traced σ} {r : ρ}
    (h : x.result = .ok r) : (x >>= f).rounds = x.rounds ++ (f r).rounds := by
  change (Traced.bind x f).rounds = _
  rw [Traced.bind, h]

theorem Traced.rounds_bind_error {ρ σ : Type} {x : Traced ρ} {f : ρ → Traced σ} {e : Stop}
    (h : x.result = .error e) : (x >>= f).rounds = x.rounds := by
  change (Traced.bind x f).rounds = _
  rw [Traced.bind, h]

theorem Traced.onNext_cases {ρ : Type} (c : Char) (yes no : List Char → Traced ρ) (s : List Char) :
    (∃ t, skipSpace s = c :: t ∧ Traced.onNext c yes no s = yes t) ∨
      Traced.onNext c yes no s = no (skipSpace s) := by
  unfold Traced.onNext
  cases skipSpace s with
  | nil => exact .inr rfl
  | cons d t =>
    by_cases hd : d = c
    · exact .inl ⟨t, by rw [hd], if_pos hd⟩
    · exact .inr (if_neg hd)

theorem suffix_of_skipSpace {c : Char} {s t : List Char} (h : skipSpace s = c :: t) : t <:+ s :=
  (List.suffix_cons c t).trans (h ▸ skipSpace_suffix s)

/-- The rounds of two readers of which the second has what the first one leaves. -/
theorem Orderly.bind {ρ σ : Type} [Leaves ρ] {first : List Rule} {s : List Char} {x : Traced ρ}
    {f : ρ → Traced σ} (hx : Forward first s x)
    (hf : ∀ r, x.result = .ok r → Orderly first s (f r).rounds)
    (hrest : ∀ r, x.result = .ok r → ∀ q ∈ (f r).rounds, q.text <:+ rest r) :
    Orderly first s (x >>= f).rounds := by
  cases h : x.result with
  | error e =>
    rw [Traced.rounds_bind_error h]
    exact hx.toOrderly
  | ok r =>
    rw [Traced.rounds_bind_ok h]
    exact hx.toOrderly.append (hx.past r h) (hf r h) (hrest r h)

namespace Forward

variable {ρ σ : Type} [Leaves ρ] [Leaves σ] {first first' : List Rule} {s t : List Char}
  {x : Traced ρ} {free : Prop}

theorem mono (h : Forward first s x) (hsub : first ⊆ first') : Forward first' s x :=
  ⟨h.toOrderly.mono hsub, h.suffix, h.past, h.affords⟩

theorem of_suffix (h : Forward first t x) (ht : t <:+ s) : Forward first s x :=
  ⟨h.toOrderly.of_suffix ht, fun r hr => (h.suffix r hr).trans ht, h.past, h.affords⟩

theorem of_shorter (h : Forward first t x) (ht : t <:+ s) (hlt : t.length < s.length) :
    Forward first' s x :=
  ⟨h.toOrderly.of_shorter ht hlt, fun r hr => (h.suffix r hr).trans ht, h.past, h.affords⟩

theorem of {y : Except Stop ρ} (hy : ∀ r, y = .ok r → rest r <:+ s) (h : FailsOnly Affords y) :
    Forward first s (.of y) :=
  ⟨.nil, hy, fun _ _ _ hq => absurd hq List.not_mem_nil, h⟩

theorem error {e : Stop} (h : Affords e) : Forward first s (.of (.error e) : Traced ρ) :=
  .of nofun (.error h)

theorem ok {r : ρ} (h : rest r <:+ s) : Forward first s (.of (.ok r)) := by
  refine .of ?_ (.ok r)
  rintro _ ⟨⟩
  exact h

/-- A round of a reader that takes something where it succeeds. -/
theorem round {rule : Rule} {levels : Nat} {f : Reader Stop ρ} (hf : Advances f)
    (hresult : x.result = f s) (hrule : rule ∉ first) (hlevels : levels ≤ maxDepth)
    (h : Forward first s x) : Forward (rule :: first) s (x.round ⟨rule, levels, s⟩) :=
  ⟨h.toOrderly.cons hrule hlevels, h.suffix,
    fun r hr => List.forall_mem_cons.mpr ⟨hf s r (hresult.symm.trans hr), h.past r hr⟩, h.affords⟩

/-- Both branches go forward: one is behind the character, the other where the white space ends. -/
theorem onNext {c : Char} {yes no : List Char → Traced ρ} (first' : List Rule)
    (hyes : ∀ t, skipSpace s = c :: t → Forward first' t (yes t))
    (hno : Forward first (skipSpace s) (no (skipSpace s))) :
    Forward first s (Traced.onNext c yes no s) := by
  rcases Traced.onNext_cases c yes no s with ⟨t, ht, h⟩ | h
  · rw [h]
    exact (hyes t ht).of_shorter (suffix_of_skipSpace ht) (length_of_skipSpace ht)
  · rw [h]
    exact hno.of_suffix (skipSpace_suffix s)

/-- If the first reader fails, so does the whole, with just its rounds. -/
theorem bind_of_orderly {f : ρ → Traced σ} (hx : Forward first s x)
    (horderly : ∀ r, x.result = .ok r → Orderly first s (f r).rounds)
    (hf : ∀ r, x.result = .ok r → Forward first' (rest r) (f r)) : Forward first s (x >>= f) where
  toOrderly := .bind hx horderly fun r hr => (hf r hr).within
  suffix q hq := by
    rw [Traced.result_bind] at hq
    obtain ⟨r, hr, hq⟩ := bind_eq_ok.mp hq
    exact ((hf r hr).suffix q hq).trans (hx.suffix r hr)
  past q hq := by
    rw [Traced.result_bind] at hq
    obtain ⟨r, hr, hq⟩ := bind_eq_ok.mp hq
    rw [Traced.rounds_bind_ok hr]
    have hle := ((hf r hr).suffix q hq).length_le
    intro p hp
    rcases List.mem_append.mp hp with hp | hp
    · exact Nat.lt_of_le_of_lt hle (hx.past r hr p hp)
    · exact (hf r hr).past q hq p hp
  affords := by
    rw [Traced.result_bind]
    exact hx.affords.bind fun r hr => (hf r hr).affords

/-- What is read of a rest that is shorter than the text. -/
theorem bind {f : ρ → Traced σ} (hx : Forward first s x) (first' : List Rule)
    (hless : ∀ r, x.result = .ok r → (rest r).length < s.length)
    (hf : ∀ r, (rest r).length < s.length → Forward first' (rest r) (f r)) :
    Forward first s (x >>= f) := by
  have hrest (r : ρ) (hr : x.result = .ok r) : Forward first' (rest r) (f r) := hf r (hless r hr)
  exact hx.bind_of_orderly
    (fun r hr => (hrest r hr).toOrderly.of_shorter (hx.suffix r hr) (hless r hr)) hrest

/-- What is made of a result without any more rounds. -/
theorem bind_of {g : ρ → Except Stop σ} (hx : Forward first s x)
    (haffords : ∀ r, FailsOnly Affords (g r)) (hg : ∀ r q, g r = .ok q → rest q <:+ rest r) :
    Forward first s (x >>= fun r => .of (g r)) :=
  hx.bind_of_orderly (fun _ _ => .nil) fun r _ =>
    (.of (hg r) (haffords r) : Forward [] (rest r) _)

theorem bind_ok {g : ρ → σ} (hx : Forward first s x) (hg : ∀ r, rest (g r) = rest r) :
    Forward first s (x >>= fun r => .of (.ok (g r))) := by
  refine hx.bind_of (fun _ => .ok _) ?_
  rintro r _ ⟨⟩
  rw [hg]

/-- What is read behind a name, a mark or an integer. -/
theorem of_bind {f : Reader Stop ρ} {g : ρ → Traced σ} (hf : Stable free f) (hless : Advances f)
    (h : FailsOnly Affords (f s)) (first' : List Rule)
    (hg : ∀ r, (rest r).length < s.length → Forward first' (rest r) (g r)) :
    Forward first s (Traced.of (f s) >>= g) :=
  (of (fun _ => Stable.suffix hf) h).bind first' (hless s) hg

end Forward

section

variable {vars : Variables} {store : Store} {c mark : Char} {s t start : List Char} {levels : Nat}

theorem forward_expect_bind {ρ : Type} [Leaves ρ] {first : List Rule} (hc : Mark c)
    (first' : List Rule) {g : List Char → Traced ρ}
    (hg : ∀ t : List Char, t.length < s.length → Forward first' t (g t)) :
    Forward first s (Traced.of (expect c s) >>= g) :=
  .of_bind (stable_expect False hc) (advances_expect c) (affords_expect c s) first' hg

theorem forward_name_bind {ρ : Type} [Leaves ρ] {first : List Rule}
    (first' : List Rule) {g : String × List Char → Traced ρ}
    (hg : ∀ n : String × List Char, n.2.length < s.length → Forward first' n.2 (g n)) :
    Forward first s (Traced.of (scanName s) >>= g) :=
  .of_bind stable_scanName advances_scanName (affords_scanName s) first' hg

/-- The mark that ends a bracket. -/
theorem forward_close {ρ : Type} [Leaves ρ] {first : List Rule} (hc : Mark c) {g : List Char → ρ}
    (hg : ∀ t u, g u = withRest (g t) u) :
    Forward first s (.of (expect c s >>= fun t => .ok (g t))) :=
  .of (fun _ => Stable.suffix (stable_close hc hg)) ((affords_expect c s).bind fun _ _ => .ok _)

/-- By induction on the text ahead: each character or escape is a round further on. -/
theorem forward_traceString (hlevels : levels ≤ maxDepth) (start : List Char) (mark : Char)
    (seen : Text) (s : List Char) :
    Forward [.string] s (traceString levels start mark seen s) := by
  induction hlen : s.length using Nat.strong_induction_on generalizing seen s with
  | _ length ih =>
    obtain ⟨x, heq, hx⟩ := traceString_eq levels start mark seen s
    have hresult : x.result = scanString start mark seen s := by
      rw [← result_traceString levels, heq, Traced.result_round]
    have hforward : Forward [] s x := by
      rcases hx with rfl | ⟨seen', c, t, rfl, hc, -, rfl⟩
      · refine .of (fun r hr => ?_) (affords_scanString start mark seen s)
        obtain ⟨c, rfl, -⟩ := scanString_consumes hr
        exact List.suffix_append c r.2
      · have hpos := List.length_pos_of_ne_nil hc
        have hlt : t.length < (c ++ t).length := by rw [List.length_append]; omega
        exact (ih t.length (hlen ▸ hlt) seen' t rfl).of_shorter (List.suffix_append c t) hlt
    rw [heq]
    exact hforward.round (advances_scanString start mark seen) hresult List.not_mem_nil hlevels

theorem forward_traceText (hlevels : levels ≤ maxDepth) (mark : Char) (t : List Char) :
    Forward [.string] t (traceText levels store mark t) :=
  (forward_traceString hlevels ..).bind_ok fun _ => rfl

theorem forward_traceKey (hlevels : levels ≤ maxDepth) (s : List Char) :
    Forward [] s (traceKey levels s) := by
  refine .onNext [.string] (fun t _ => forward_traceString hlevels ..) ?_
  refine .onNext [.string] (fun t _ => forward_traceString hlevels ..) ?_
  refine .of (fun r hr => ?_) ((affords_scanName _).bind fun _ _ => .ok _)
  exact Stable.suffix (stable_thenOk stable_scanName fun _ _ => rfl) hr

theorem forward_key_bind {ρ : Type} [Leaves ρ] (hlevels : levels ≤ maxDepth) (first' : List Rule)
    {g : Text × List Char → Traced ρ}
    (hg : ∀ k : Text × List Char, k.2.length < s.length → Forward first' k.2 (g k)) :
    Forward [] s (traceKey levels s >>= g) := by
  refine (forward_traceKey hlevels s).bind first' (fun k hk => ?_) hg
  exact advances_scanKey s k (by rwa [result_traceKey] at hk)

theorem forward_scalar (s : List Char) :
    Forward [] s (.of (scalar vars store (skipSpace s).head? s)) := by
  have hstable : Stable False fun s => scalar vars store (skipSpace s).head? s := stable_scalar
  exact .of (fun _ hr => Stable.suffix hstable hr) (affords_scalar _ s)

/-- The level that a bracket takes is counted in the rounds inside. -/
theorem forward_bracket {inside : Nat → List Char → Traced (Value × Store × List Char)}
    {first : List Rule} {depth : Nat} (h : ∀ d, depth = d + 1 → Forward first s (inside d s)) :
    Forward first s (Traced.bracket depth inside s) := by
  cases depth with
  | zero => exact .error (affords_problem (by simp) s)
  | succ d => exact h d rfl

/-- With a budget for two calls for each character, and no more levels than may be open. -/
structure ForwardValues (vars : Variables) (budget : Nat) : Prop where
  value (depth levels : Nat) (store : Store) (s : List Char) : 2 * s.length < budget →
    levels + depth ≤ maxDepth → Forward [.value] s (traceValue vars budget depth levels store s)
  elements (depth levels : Nat) (store : Store) (seen : List Value) (s : List Char) :
    2 * s.length + 1 < budget → levels + depth ≤ maxDepth →
      Forward [.array, .value] s (traceElements vars budget depth levels store seen s)
  members (depth levels : Nat) (store : Store) (seen : Fields Text Value) (s : List Char) :
    2 * s.length + 1 < budget → levels + depth ≤ maxDepth →
      Forward [.object] s (traceMembers vars budget depth levels store seen s)

namespace ForwardValues

variable {budget depth : Nat}

/-- What comes behind a value. -/
theorem bind {ρ : Type} [Leaves ρ] (h : ForwardValues vars budget) (hbudget : 2 * s.length < budget)
    (hdepth : levels + depth ≤ maxDepth) (first' : List Rule) {g : Value × Store × List Char → Traced ρ}
    (hg : ∀ r : Value × Store × List Char, r.2.2.length < s.length → Forward first' r.2.2 (g r)) :
    Forward [.value] s (traceValue vars budget depth levels store s >>= g) := by
  refine (h.value depth levels store s hbudget hdepth).bind first' (fun r hr => ?_) hg
  exact advances_value vars budget depth store s r (by rwa [(tracesValues vars budget).value] at hr)

/-- A value is one round, and then those of an array, an object or a string behind its first
character. -/
theorem value_succ (h : ForwardValues vars budget) (hbudget : 2 * s.length < budget + 1)
    (hdepth : levels + depth ≤ maxDepth) :
    Forward [.value] s (traceValue vars (budget + 1) depth levels store s) := by
  have hlevels : levels ≤ maxDepth := by omega
  have hlen {t : List Char} {c : Char} (ht : skipSpace (skipSpace (skipSpace s)) = c :: t) :
      t.length < s.length := by
    rw [skipSpace_skipSpace, skipSpace_skipSpace] at ht
    exact length_of_skipSpace ht
  have hresult := (tracesValues vars (budget + 1)).value depth levels store s
  rw [traceValue] at hresult ⊢
  refine .round (advances_value vars (budget + 1) depth store) hresult List.not_mem_nil hlevels ?_
  refine .onNext [.string] (fun t _ => forward_traceText hlevels _ t) ?_
  refine .onNext [.string] (fun t _ => forward_traceText hlevels _ t) ?_
  -- A bracket opens one level more and takes one from the depth.
  refine .onNext [.array, .value] (fun t ht => forward_bracket fun d hd => ?_) ?_
  · have := hlen ht
    exact h.elements d (levels + 1) store [] t (by omega) (by omega)
  refine .onNext [.object] (fun t ht => forward_bracket fun d hd => ?_) (forward_scalar _)
  rw [skipSpace_skipSpace] at ht
  have := hlen ht
  exact h.members d (levels + 1) store [] t (by omega) (by omega)

/-- An element follows a comma, and so each round of the array is further on than the last. -/
theorem elements_succ (h : ForwardValues vars budget) (seen : List Value)
    (hbudget : 2 * s.length + 1 < budget + 1) (hdepth : levels + depth ≤ maxDepth) :
    Forward [.array, .value] s (traceElements vars (budget + 1) depth levels store seen s) := by
  have hresult := (tracesValues vars (budget + 1)).elements depth levels store seen s
  rw [traceElements] at hresult ⊢
  refine .round (advances_elements vars (budget + 1) depth store seen) hresult (by decide)
    (by omega) ?_
  have hs := length_skipSpace_le s
  refine .onNext [] (fun t _ => .ok (List.suffix_refl t)) ?_
  -- The element begins where the round does, so that its rule is one of the first as well.
  refine h.bind (by omega) hdepth [] fun r hr => ?_
  refine .onNext [.array, .value] (fun t ht => ?_) (forward_close (by decide) fun _ _ => rfl)
  have := length_of_skipSpace ht
  exact h.elements depth levels r.2.1 (r.1 :: seen) t (by omega) hdepth

theorem members_succ (h : ForwardValues vars budget) (seen : Fields Text Value)
    (hbudget : 2 * s.length + 1 < budget + 1) (hdepth : levels + depth ≤ maxDepth) :
    Forward [.object] s (traceMembers vars (budget + 1) depth levels store seen s) := by
  have hlevels : levels ≤ maxDepth := by omega
  have hresult := (tracesValues vars (budget + 1)).members depth levels store seen s
  rw [traceMembers] at hresult ⊢
  refine .round (advances_members vars (budget + 1) depth store seen) hresult List.not_mem_nil
    hlevels ?_
  have hs := length_skipSpace_le s
  refine .onNext [] (fun t _ => .ok (List.suffix_refl t)) ?_
  refine forward_key_bind hlevels [] fun k hk => ?_
  refine forward_expect_bind (by decide) [.value] fun t ht => ?_
  refine h.bind (by omega) hdepth [] fun r hr => ?_
  refine .onNext [.object] (fun u hu => ?_) (forward_close (by decide) fun _ _ => rfl)
  have := length_of_skipSpace hu
  exact h.members depth levels r.2.1 (seen.put k.1 r.1) u (by omega) hdepth

end ForwardValues

/-- By induction on the budget, which twice the length of the text keeps from running out. -/
theorem forwardValues (vars : Variables) (budget : Nat) : ForwardValues vars budget := by
  induction budget with
  | zero => refine ⟨fun _ _ _ s h => ?_, fun _ _ _ _ s h => ?_, fun _ _ _ _ s h => ?_⟩ <;> omega
  | succ budget ih =>
    exact ⟨fun _ _ _ _ => ih.value_succ, fun _ _ _ seen _ => ih.elements_succ seen,
      fun _ _ _ seen _ => ih.members_succ seen⟩

theorem forward_traceReadValue (vars : Variables) (store : Store) (s : List Char) :
    Forward [.value] s (traceReadValue vars store s) :=
  (forwardValues vars _).value maxDepth 0 store s (by omega) (by omega)

theorem forward_readValue_bind {ρ : Type} [Leaves ρ] (first' : List Rule)
    {g : Value × Store × List Char → Traced ρ}
    (hg : ∀ r : Value × Store × List Char, r.2.2.length < s.length → Forward first' r.2.2 (g r)) :
    Forward [.value] s (traceReadValue vars store s >>= g) :=
  (forwardValues vars _).bind (by omega) (by omega) first' hg

variable (st : State)

/-- Each declaration takes its name, so one round is further on than the last. -/
theorem forward_traceDeclarations (budget : Nat) (s : List Char) (h : s.length < budget) :
    Forward [.declarations] s (traceDeclarations budget st s) := by
  induction budget generalizing st s with
  | zero => omega
  | succ budget ih =>
    have hresult := result_traceDeclarations (budget + 1) st s
    rw [traceDeclarations] at hresult ⊢
    refine .round (advances_declarations (budget + 1) st) hresult List.not_mem_nil (Nat.zero_le _) ?_
    refine forward_name_bind [] fun n hn => forward_expect_bind (by decide) [.value] fun t ht => ?_
    refine forward_readValue_bind [] fun r hr => ?_
    refine .onNext [.declarations] (fun u hu => ih _ u ?_) (.ok (List.suffix_refl _))
    have := length_of_skipSpace hu
    omega

theorem forward_traceArguments (budget : Nat) (s : List Char) (h : s.length < budget) :
    Forward [.arguments, .value] s (traceArguments budget st s) := by
  induction budget generalizing s with
  | zero => omega
  | succ budget ih =>
    have hresult := result_traceArguments (budget + 1) st s
    rw [traceArguments] at hresult ⊢
    refine .round (advances_arguments (budget + 1) st) hresult (by decide) (Nat.zero_le _) ?_
    refine .onNext [] (fun t _ => .ok (List.suffix_refl t)) (forward_readValue_bind [] fun r hr => ?_)
    refine .onNext [.arguments, .value] (fun t ht => ih t ?_) ?_
    · have hs := length_skipSpace_le s
      have := length_of_skipSpace ht
      omega
    · exact .of (fun _ => Stable.suffix (stable_expect False (by decide))) (affords_expect ')' _)

theorem forward_traceCall (budget : Nat) (s : List Char) (h : s.length < budget) :
    Forward [.call] s (traceCall budget st s) := by
  induction budget generalizing s with
  | zero => omega
  | succ budget ih =>
    have hresult := result_traceCall (budget + 1) st s
    rw [traceCall] at hresult ⊢
    refine .round (advances_call (budget + 1) st) hresult List.not_mem_nil (Nat.zero_le _) ?_
    refine .onNext [] (fun t ht => forward_name_bind [.call] fun n hn => ih n.2 ?_) ?_
    · have := length_of_skipSpace ht
      omega
    · exact forward_expect_bind (by decide) _ fun t _ => forward_traceArguments st _ t (by omega)

theorem suffix_of_assigned {name : String} {start : List Char} {target key : Value}
    {r : Value × Store × List Char} {q : State × List Char}
    (h : assigned st name start target key r = .ok q) : rest q <:+ rest r := by
  refine Stable.suffix (stable_assigned st name start target key r) (s := rest r) ?_
  rwa [Leaves.withRest_rest]

theorem forward_traceAssignment (name : String) (start s : List Char) :
    Forward [.value] s (traceAssignment st name start s) := by
  rw [traceAssignment]
  split
  · exact .error (affords_problem (by simp) start)
  · next target _ =>
    refine forward_readValue_bind [] fun k _ => forward_expect_bind (by decide) [] fun t _ => ?_
    refine forward_expect_bind (by decide) [.value] fun u _ => ?_
    exact (forward_traceReadValue ..).bind_of (fun r => affords_assigned st name start target k.1 r)
      fun r q => suffix_of_assigned st

theorem forward_traceBody (start : List Char) (name : String) (t : List Char) :
    Forward [.declarations, .call] t (traceBody st start name t) := by
  unfold traceBody
  split
  · exact (forward_traceDeclarations st _ t (by omega)).mono (by simp)
  · have hcall := (forward_traceCall st (t.length + 1) t (by omega)).bind_ok
      (g := fun rest => (st, rest)) fun _ => rfl
    split
    · next u hu =>
      exact (forward_traceAssignment st name start u).of_shorter (suffix_of_skipSpace hu)
        (length_of_skipSpace hu)
    · exact hcall.mono (by simp)
    · exact hcall.mono (by simp)
    · exact .error (affords_problem (by simp) start)

theorem forward_traceStatement (s : List Char) : Forward [] s (traceStatement st s) := by
  refine forward_name_bind [.declarations, .call] fun n _ => ?_
  refine (forward_traceBody st s n.1 n.2).bind_of (fun r => ?_) fun r q => ?_
  · unfold endStatement onNext
    split
    · split
      · exact .ok _
      · exact .ok _
    · exact .ok _
  · exact fun hq => Stable.suffix (stable_endStatement r.1) hq

/-- One statement after the other: each one leaves less for those behind it. -/
theorem orderly_traceStatements (budget : Nat) (s : List Char) (h : s.length < budget) :
    Orderly [.program] s (traceStatements budget st s).rounds ∧
      FailsOnly Affords (traceStatements budget st s).result := by
  induction budget generalizing st s with
  | zero => omega
  | succ budget ih =>
    rw [traceStatements]
    split
    · exact ⟨Orderly.nil.cons List.not_mem_nil (Nat.zero_le _), .ok st⟩
    · next t ht =>
      have hlt := length_of_skipSpace ht
      obtain ⟨horderly, haffords⟩ := ih st t (by omega)
      have hbehind : Orderly [] s (traceStatements budget st t).rounds :=
        horderly.of_shorter (suffix_of_skipSpace ht) hlt
      exact ⟨hbehind.cons List.not_mem_nil (Nat.zero_le _), haffords⟩
    · have hs := length_skipSpace_le s
      have hforward := forward_traceStatement st (skipSpace s)
      have hless {r : State × List Char} (hr : (traceStatement st (skipSpace s)).result = .ok r) :
          (rest r).length < (skipSpace s).length :=
        length_statement ((result_traceStatement st _).symm.trans hr)
      have hlater {r : State × List Char} (hr : (traceStatement st (skipSpace s)).result = .ok r) :=
        ih r.1 r.2 (Nat.lt_of_lt_of_le (hless hr) (by omega))
      refine ⟨.cons (.of_suffix (.bind hforward (fun r hr => ?_) fun r hr => (hlater hr).1.within)
        (skipSpace_suffix s)) List.not_mem_nil (Nat.zero_le _), ?_⟩
      · exact (hlater hr).1.of_shorter (hforward.suffix r hr) (hless hr)
      · rw [Traced.result_round, Traced.result_bind]
        exact hforward.affords.bind fun r hr => (hlater hr).2

end

/-- Where a rule succeeds, it takes something from the text. Each of its rounds is a call of its
reader, so this holds of the rounds too, the last one included. -/
structure RulesAdvance : Prop where
  statement (st : State) : Advances (statement st)
  declarations (budget : Nat) (st : State) : Advances (declarations budget st)
  assignment (st : State) (name : String) (start : List Char) : Advances (assignment st name start)
  call (budget : Nat) (st : State) : Advances (call budget st)
  arguments (budget : Nat) (st : State) : Advances (arguments budget st)
  value (vars : Variables) (budget depth : Nat) (store : Store) :
    Advances (value vars budget depth store)
  elements (vars : Variables) (budget depth : Nat) (store : Store) (seen : List Value) :
    Advances (elements vars budget depth store seen)
  members (vars : Variables) (budget depth : Nat) (store : Store) (seen : Fields Text Value) :
    Advances (members vars budget depth store seen)
  string (start : List Char) (mark : Char) (seen : Text) : Advances (scanString start mark seen)

/-- Every rule takes a character in a round that succeeds. -/
theorem rulesAdvance : RulesAdvance where
  statement _ _ _ h := length_statement h
  declarations := advances_declarations
  assignment := advances_assignment
  call := advances_call
  arguments := advances_arguments
  value := advances_value
  elements := advances_elements
  members := advances_members
  string := advances_scanString

/-- A program is read in rounds that begin further and further on in the text, with at most
`maxDepth` arrays and objects open; so there are not more than the text has places for, and no more
steps would lead any further. -/
theorem run_rounds (st : State) (s : List Char) : (traceRun st s).result = run st s ∧
    Orderly [.program] s (traceRun st s).rounds ∧ RulesAdvance ∧
    (traceRun st s).rounds.length ≤ 8 * (s.length + 1) ∧
    (∀ t, run st s ≠ .error (.problem .outOfSteps t)) ∧
    ∀ budget, s.length < budget → statements budget st s = run st s := by
  obtain ⟨horderly, haffords⟩ := orderly_traceStatements st (s.length + 1) s (by omega)
  have hresult := result_traceRun st s
  refine ⟨hresult, horderly, rulesAdvance, horderly.length_le, fun t h => ?_,
    fun _ => statements_eq_run st⟩
  exact haffords _ (hresult.trans h) t rfl

example : ((traceRun .empty "var a=[7]".toList).rounds.map fun r => (r.rule, r.levels, r.text.length)) =
    [(.program, 0, 9), (.declarations, 0, 6), (.value, 0, 3), (.array, 1, 2), (.value, 1, 2),
      (.program, 0, 0)] := by cbv

end RustdocIndex.Literal
