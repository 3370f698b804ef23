import RustdocIndex.Proofs.Literal.Stable

/-! A budget of two calls for each character is enough: what a reader finds does not depend on how
much more it may spend. -/
namespace RustdocIndex

namespace Literal

variable {vars : Variables} {store : Store}

/-- Two budgets with which readers find the same, in texts that both are enough for. -/
structure SameValues (vars : Variables) (budget budget' : Nat) : Prop where
  value (depth : Nat) (store : Store) (s : List Char) : 2 * s.length < budget →
    2 * s.length < budget' → value vars budget depth store s = value vars budget' depth store s
  elements (depth : Nat) (store : Store) (seen : List Value) (s : List Char) :
    2 * s.length + 1 < budget → 2 * s.length + 1 < budget' →
      elements vars budget depth store seen s = elements vars budget' depth store seen s
  members (depth : Nat) (store : Store) (seen : Fields Text Value) (s : List Char) :
    2 * s.length + 1 < budget → 2 * s.length + 1 < budget' →
      members vars budget depth store seen s = members vars budget' depth store seen s

theorem bracket_congr {inside inside' : Nat → Reader Stop (Value × Store × List Char)}
    {t : List Char} (h : ∀ depth, inside depth t = inside' depth t) (depth : Nat) :
    bracket depth inside t = bracket depth inside' t := by
  cases depth with
  | zero => rfl
  | succ depth => exact h depth

theorem sameValues (vars : Variables) (budget budget' : Nat) : SameValues vars budget budget' := by
  induction budget generalizing budget' with
  | zero =>
    refine ⟨fun _ _ s h => ?_, fun _ _ _ s h => ?_, fun _ _ _ s h => ?_⟩ <;> omega
  | succ budget ih =>
    cases budget' with
    | zero => refine ⟨fun _ _ s _ h => ?_, fun _ _ _ s _ h => ?_, fun _ _ _ s _ h => ?_⟩ <;> omega
    | succ budget' =>
      have ih := ih budget'
      refine ⟨fun depth store s h h' => ?_, fun depth store seen s h h' => ?_,
        fun depth store seen s h h' => ?_⟩
      · have hlen {t : List Char} {c : Char} (ht : skipSpace (skipSpace (skipSpace s)) = c :: t) :
            t.length < s.length := by
          rw [skipSpace_skipSpace, skipSpace_skipSpace] at ht
          exact length_of_skipSpace ht
        rw [value_eq, value_eq]
        refine onNext_congr (fun _ _ => rfl) (onNext_congr (fun _ _ => rfl) ?_)
        refine onNext_congr (fun t ht => bracket_congr (fun depth => ?_) depth)
          (onNext_congr (fun t ht => bracket_congr (fun depth => ?_) depth) rfl)
        · have := hlen ht
          exact ih.elements depth store [] t (by omega) (by omega)
        · rw [skipSpace_skipSpace] at ht
          have := hlen ht
          exact ih.members depth store [] t (by omega) (by omega)
      · have hs := length_skipSpace_le s
        rw [elements_eq, elements_eq]
        refine onNext_congr (fun _ _ => rfl) (bind_congr_ok ?_ fun r hr => ?_)
        · exact ih.value depth store _ (by omega) (by omega)
        · have hr : r.2.2.length ≤ (skipSpace s).length :=
            ((stable_values vars budget).value depth store).length_le hr
          refine onNext_congr (fun t ht => ?_) rfl
          have := length_of_skipSpace ht
          exact ih.elements depth r.2.1 (r.1 :: seen) t (by omega) (by omega)
      · have hs := length_skipSpace_le s
        rw [members_eq, members_eq]
        refine onNext_congr (fun _ _ => rfl) (bind_congr_ok rfl fun k hk => bind_congr_ok rfl
          fun t ht => bind_congr_ok ?_ fun r hr => ?_)
        · have hk : k.2.length ≤ (skipSpace s).length := stable_scanKey.length_le hk
          have ht : t.length ≤ k.2.length := (stable_expect True (by decide)).length_le ht
          exact ih.value depth store _ (by omega) (by omega)
        · have hk : k.2.length ≤ (skipSpace s).length := stable_scanKey.length_le hk
          have ht : t.length ≤ k.2.length := (stable_expect True (by decide)).length_le ht
          have hr : r.2.2.length ≤ t.length :=
            ((stable_values vars budget).value depth store).length_le hr
          refine onNext_congr (fun t ht => ?_) rfl
          have := length_of_skipSpace ht
          exact ih.members depth r.2.1 (seen.put k.1 r.1) t (by omega) (by omega)

/-- What a value is read to, with any budget that is enough. -/
theorem readValue_eq {budget : Nat} {s : List Char} (h : 2 * s.length < budget) :
    value vars budget maxDepth store s = readValue vars store s :=
  (sameValues vars budget _).value maxDepth store s h (by omega)

theorem stable_readValue : Stable False (readValue vars store) := by
  refine .of_budget (k := fun budget => value vars budget maxDepth store)
    (fun budget => (stable_values vars budget).value maxDepth store) (fun s b hb => ?_)
    fun s t => ?_
  · exact readValue_eq (by omega)
  · simp only [List.length_append]
    omega

end Literal

end RustdocIndex
