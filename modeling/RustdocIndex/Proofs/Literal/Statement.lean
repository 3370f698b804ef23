import RustdocIndex.Proofs.Literal.Value

/-! The steps of running statements. -/
namespace RustdocIndex.Literal

variable {vars : Variables} {budget depth : Nat} {store : Store} {st : State}
  {name other : String} {c : Char} {s t rest : List Char}

theorem value_of_isName (hn : IsName name) :
    value vars (budget + 1) depth store (name.toList ++ rest) =
      (reference vars store (name.toList ++ rest)).map fun (x, rest) => (x, store, rest) := by
  obtain ⟨c, t, hct, hc, -⟩ := hn
  rw [hct]
  exact value_name hc

theorem statements_nil (h : skipSpace s = []) : statements (budget + 1) st s = .ok st := by
  rw [statements, h]

theorem statements_cons (h : skipSpace s = c :: t) (hc : c ≠ ';') :
    statements (budget + 1) st s =
      statement st (c :: t) >>= fun (st, rest) => statements budget st rest := by
  rw [statements, h]
  split
  · next heq => cases heq
  · next heq =>
    cases heq
    exact absurd rfl hc
  · rfl

/-- A name that is none of the literal words. -/
def IsVariable (name : String) : Prop := IsName name ∧ name ∉ ["null", "true", "false"]

theorem reference_undeclared (hn : IsVariable name) (hv : vars.get? name = none) (store : Store)
    (hr : EndsName rest) :
    reference vars store (name.toList ++ rest) =
      .error (.problem (.undeclaredReference name) (name.toList ++ rest)) := by
  obtain ⟨hn, hw⟩ := hn
  simp only [List.mem_cons, List.not_mem_nil, or_false, not_or] at hw
  rw [reference, scanName_name hn hr]
  simp only [bind, Except.bind]
  split
  · exact absurd rfl hw.1
  · exact absurd rfl hw.2.1
  · exact absurd rfl hw.2.2
  · rw [hv]

theorem isName_var : IsName "var" := ⟨'v', ['a', 'r'], rfl, rfl, rfl⟩

/-- A declaration of one variable, up to its semicolon. -/
theorem statement_var {v : Value} (hn : IsName name)
    (hv : readValue st.bindings st.store s = .ok (v, store, t)) (ht : skipSpace t = ';' :: rest) :
    statement st ("var".toList ++ ' ' :: (name.toList ++ '=' :: s)) =
      .ok (⟨st.bindings.put name v, store⟩, rest) := by
  have hequals : expect '=' ('=' :: s) = .ok s := expect_cons rfl s
  have hend : skipSpace (';' :: rest) = ';' :: rest := skipSpace_cons rfl rest
  have hdecl (budget : Nat) : declarations (budget + 1) st (' ' :: (name.toList ++ '=' :: s)) =
      .ok (⟨st.bindings.put name v, store⟩, ';' :: rest) := by
    rw [declarations, scanName_space rfl, scanName_name hn (endsName_cons rfl _)]
    simp only [bind, Except.bind, hequals, hv, ht]
    rfl
  rw [statement, scanName_name isName_var (endsName_cons rfl _)]
  simp only [bind, Except.bind, if_true, hdecl, hend]
  rfl

/-- A declaration whose value is no value. -/
theorem statement_var_error {e : Stop} (hn : IsName name)
    (hv : readValue st.bindings st.store s = .error e) :
    statement st ("var".toList ++ ' ' :: (name.toList ++ '=' :: s)) = .error e := by
  have hequals : expect '=' ('=' :: s) = .ok s := expect_cons rfl s
  have hdecl (budget : Nat) : declarations (budget + 1) st (' ' :: (name.toList ++ '=' :: s)) =
      .error e := by
    rw [declarations, scanName_space rfl, scanName_name hn (endsName_cons rfl _)]
    simp only [bind, Except.bind, hequals, hv]
  rw [statement, scanName_name isName_var (endsName_cons rfl _)]
  simp only [bind, Except.bind, if_true, hdecl]

/-- A declaration whose value begins with the name of no variable. -/
theorem declarations_undeclared (hn : IsName name) (ho : IsVariable other)
    (hv : st.bindings.get? other = none) (hr : EndsName rest) :
    declarations (budget + 1) st
        (' ' :: (name.toList ++ ' ' :: '=' :: ' ' :: (other.toList ++ rest))) =
      .error (.problem (.undeclaredReference other) (other.toList ++ rest)) := by
  have he : expect '=' (' ' :: '=' :: ' ' :: (other.toList ++ rest)) =
      .ok (' ' :: (other.toList ++ rest)) := by
    simp [expect, skipSpace, isSpace]
  have hx : readValue st.bindings st.store (' ' :: (other.toList ++ rest)) =
      .error (.problem (.undeclaredReference other) (other.toList ++ rest)) := by
    rw [readValue, value_space rfl, value_of_isName ho.1, reference_undeclared ho hv st.store hr]
    rfl
  rw [declarations, scanName_space rfl, scanName_name hn (endsName_cons rfl _)]
  simp only [bind, Except.bind, he, hx]

theorem evaluate_undeclared (hn : IsName name) (ho : IsVariable other) (hr : EndsName rest) :
    evaluate ("var".toList ++ ' ' :: (name.toList ++ ' ' :: '=' :: ' ' :: (other.toList ++ rest))) =
      .error (.problem (.undeclaredReference other) (other.toList ++ rest)) := by
  have hs : statement .empty
      ("var".toList ++ ' ' :: (name.toList ++ ' ' :: '=' :: ' ' :: (other.toList ++ rest))) =
        .error (.problem (.undeclaredReference other) (other.toList ++ rest)) := by
    rw [statement, scanName_name isName_var (endsName_cons rfl _)]
    simp only [bind, Except.bind, if_true]
    rw [declarations_undeclared hn ho rfl hr]
  have hv : skipSpace
      ("var".toList ++ ' ' :: (name.toList ++ ' ' :: '=' :: ' ' :: (other.toList ++ rest))) =
        'v' :: 'a' :: 'r' :: ' ' :: (name.toList ++ ' ' :: '=' :: ' ' :: (other.toList ++ rest)) :=
    skipSpace_cons rfl _
  rw [evaluate, run, statements_cons hv (by decide)]
  exact bind_eq_error.mpr (.inl hs)

end RustdocIndex.Literal
