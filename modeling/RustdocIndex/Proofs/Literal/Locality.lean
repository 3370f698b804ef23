import RustdocIndex.Proofs.Literal.Budget
import RustdocIndex.Proofs.Literal.Statement

/-! Statements are read like values: no further than the next character behind them. -/
namespace RustdocIndex.Literal

variable {st : State} {s t rest : List Char}

/-- What follows a declared name and its value. -/
def afterDeclaration (budget : Nat) (st : State) : Reader Stop (State × List Char) :=
  onNext ',' (declarations budget st) fun t => .ok (st, t)

/-- A declaration is a name, a value, and then a comma or the end. -/
theorem declarations_eq (budget : Nat) (st : State) : declarations (budget + 1) st = fun s =>
    scanName s >>= fun n => expect '=' n.2 >>= fun t => readValue st.bindings st.store t >>= fun r =>
      afterDeclaration budget ⟨st.bindings.put n.1 r.1, r.2.1⟩ r.2.2 := by
  funext s
  rw [declarations]
  refine bind_congr_ok rfl fun n _ => bind_congr_ok rfl fun t _ => bind_congr_ok rfl fun r _ => ?_
  exact match_comma ..

/-- The list of arguments ends with a parenthesis, also behind a last comma. -/
theorem arguments_eq (budget : Nat) (st : State) : arguments (budget + 1) st =
    onNext ')' (fun t => .ok t) fun s => readValue st.bindings st.store s >>= fun r =>
      onNext ',' (arguments budget st) (expect ')') r.2.2 := by
  funext s
  rw [arguments, onNext]
  cases skipSpace s with
  | nil => exact bind_congr_ok rfl fun r _ => match_comma ..
  | cons c t =>
    by_cases hc : c = ')'
    · subst hc
      rfl
    · simp only [hc, if_false]
      split
      · next heq =>
        cases heq
        exact absurd rfl hc
      · exact bind_congr_ok rfl fun r _ => match_comma ..

/-- The arguments of a call, with the budget that calls have for them. -/
def readArguments (st : State) : Reader Stop (List Char) := fun t => arguments (t.length + 1) st t

/-- A call is a chain of names with points, and then its arguments. -/
theorem call_eq (budget : Nat) (st : State) : call (budget + 1) st =
    onNext '.' (fun t => scanName t >>= fun n => call budget st n.2)
      fun t => expect '(' t >>= readArguments st := by
  funext s
  rw [call, onNext]
  cases skipSpace s with
  | nil => rfl
  | cons c t =>
    by_cases hc : c = '.'
    · subst hc
      rfl
    · simp [hc]
      rfl

/-- The assignment of a value that was read. -/
def assigned (st : State) (name : String) (start : List Char) (target key : Value)
    (r : Value × Store × List Char) : Except Stop (State × List Char) :=
  match r.2.1.assign? target key r.1 with
  | some store => .ok (⟨st.bindings, store⟩, r.2.2)
  | none =>
    let shown := Node.picture ⟨r.2.1, key⟩
    if shown.isTooDeep then .error (.problem .targetTooDeep r.2.2)
    else .error (.problem (.invalidTarget name shown) start)

/-- The target is looked up first, so nothing behind the bracket of an unknown one is read. -/
theorem assignment_eq (st : State) (name : String) (start s : List Char) :
    assignment st name start s =
      match st.bindings.get? name with
      | none => .error (.problem (.undeclaredTarget name) start)
      | some target => readValue st.bindings st.store s >>= fun k => expect ']' k.2.2 >>= fun t =>
          expect '=' t >>= fun t => readValue st.bindings k.2.1 t >>=
            assigned st name start target k.1 := by
  cases h : st.bindings.get? name with
  | none => rw [assignment, h]
  | some target =>
    rw [assignment, h]
    rfl

/-- The names and arguments of a call, with the budget that statements have for them. -/
def readCall (st : State) : Reader Stop (List Char) := fun t => call (t.length + 1) st t

/-- A declaration, an assignment or a call behind its first name. -/
def statementBody (st : State) (start : List Char) (name : String) :
    Reader Stop (State × List Char) := fun t =>
  if name = "var" then declarations (t.length + 1) st t
  else
    onNext '[' (assignment st name start)
      (onNext '.' (fun u => scanName u >>= fun n => readCall st n.2 >>= fun rest => .ok (st, rest))
        (onNext '(' (fun u => readArguments st u >>= fun rest => .ok (st, rest))
          fun _ => .error (.problem (.unexpectedStatement name) start))) t

/-- The semicolon behind a statement, if there is one. -/
def endStatement (st : State) : Reader Stop (State × List Char) :=
  onNext ';' (fun rest => .ok (st, rest)) fun rest => .ok (st, rest)

/-- Where each round leaves less of the text, all budgets are alike that are more than the text is
long. -/
theorem budget_congr {α : Type} {k : Nat → State → List Char → α}
    (hround : ∀ b b' st s, (∀ st t, t.length < s.length → k b st t = k b' st t) →
      k (b + 1) st s = k (b' + 1) st s) {st : State} {budget budget' : Nat} {s : List Char}
    (h : s.length < budget) (h' : s.length < budget') : k budget st s = k budget' st s := by
  induction budget generalizing budget' st s with
  | zero => omega
  | succ b ih =>
    obtain ⟨b', rfl⟩ := Nat.exists_eq_add_one_of_ne_zero (Nat.ne_zero_of_lt h')
    exact hround b b' st s fun st t ht => ih (by omega) (by omega)

theorem arguments_budget (st : State) (budget budget' : Nat) (s : List Char)
    (h : s.length < budget) (h' : s.length < budget') :
    arguments budget st s = arguments budget' st s := by
  refine budget_congr (k := arguments) (fun b b' st s ih => ?_) h h'
  have hs := length_skipSpace_le s
  rw [arguments_eq, arguments_eq]
  refine onNext_congr (fun _ _ => rfl) (bind_congr_ok rfl fun r hr => ?_)
  have hr : r.2.2.length ≤ (skipSpace s).length := stable_readValue.length_le hr
  refine onNext_congr (fun t ht => ?_) rfl
  have := length_of_skipSpace ht
  exact ih st t (by omega)

theorem length_scanName {n : String × List Char} (h : scanName s = .ok n) :
    n.2.length ≤ s.length := stable_scanName.length_le h

/-- Each name of the chain takes a character, so that the length of the text is budget enough. -/
theorem call_budget (st : State) (budget budget' : Nat) (s : List Char)
    (h : s.length < budget) (h' : s.length < budget') : call budget st s = call budget' st s := by
  refine budget_congr (k := call) (fun b b' st s ih => ?_) h h'
  rw [call_eq, call_eq]
  refine onNext_congr (fun t ht => bind_congr_ok rfl fun n hn => ?_) rfl
  have := length_of_skipSpace ht
  have := length_scanName hn
  exact ih st n.2 (by omega)

theorem declarations_budget (st : State) (budget budget' : Nat) (s : List Char)
    (h : s.length < budget) (h' : s.length < budget') :
    declarations budget st s = declarations budget' st s := by
  refine budget_congr (k := declarations) (fun b b' st s ih => ?_) h h'
  rw [declarations_eq, declarations_eq]
  refine bind_congr_ok rfl fun n hn => bind_congr_ok rfl fun t ht => bind_congr_ok rfl
    fun r hr => onNext_congr (fun u hu => ?_) rfl
  have := length_scanName hn
  have ht : t.length ≤ n.2.length := (stable_expect True (by decide)).length_le ht
  have hr : r.2.2.length ≤ t.length := stable_readValue.length_le hr
  have := length_of_skipSpace hu
  exact ih _ u (by omega)

theorem match_semicolon (st : State) (s : List Char) :
    (match skipSpace s with
      | ';' :: rest => pure (st, rest)
      | rest => pure (st, rest)) = endStatement st s := by
  unfold endStatement onNext
  cases skipSpace s with
  | nil => rfl
  | cons c t =>
    by_cases hc : c = ';'
    · subst hc
      rfl
    · simp [hc, pure, Except.pure]

/-- A statement is its first name, a body that this name decides, and a semicolon that may be
missing. -/
theorem statement_eq (st : State) (s : List Char) : statement st s =
    scanName s >>= fun n => statementBody st s n.1 n.2 >>= fun r => endStatement r.1 r.2 := by
  rw [statement]
  refine bind_congr_ok rfl fun n _ => ?_
  obtain ⟨name, t⟩ := n
  by_cases hv : name = "var"
  · simp only [statementBody, hv, if_true]
    exact bind_congr_ok rfl fun r _ => match_semicolon ..
  simp only [statementBody, hv, if_false]
  cases ht : skipSpace t with
  | nil =>
    have hnil : skipSpace ([] : List Char) = [] := rfl
    simp only [onNext, ht, hnil]
    rfl
  | cons c u =>
    have hcu : skipSpace (c :: u) = c :: u := by rw [← ht, skipSpace_skipSpace]
    by_cases h1 : c = '['
    · subst h1
      simp only [onNext, ht]
      exact bind_congr_ok rfl fun r _ => match_semicolon ..
    by_cases h2 : c = '.'
    · subst h2
      have hcall : call (t.length + 1) st t = scanName u >>= fun n => readCall st n.2 := by
        rw [call_eq, onNext_yes ht]
        refine bind_congr_ok rfl fun n hn => ?_
        have := length_of_skipSpace ht
        have := length_scanName hn
        exact call_budget st _ _ _ (by omega) (by omega)
      simp only [onNext, ht, hcu, hcall]
      cases scanName u with
      | error e => rfl
      | ok n =>
        simp only [bind, Except.bind]
        cases readCall st n.2 with
        | error e => rfl
        | ok rest => exact match_semicolon st rest
    by_cases h3 : c = '('
    · subst h3
      have hcall : call (t.length + 1) st t = readArguments st u := by
        rw [call_eq, onNext_no (by simp [ht]), ht]
        rfl
      simp only [onNext, ht, hcu, hcall]
      simp only [bind, Except.bind]
      cases readArguments st u with
      | error e => rfl
      | ok rest => exact match_semicolon st rest
    · simp only [onNext, ht, hcu, h1, h2, h3, if_false]
      split
      · simp_all
      · simp_all
      · simp_all
      · rfl

theorem stable_arguments (st : State) (budget : Nat) : Stable False (arguments budget st) := by
  induction budget with
  | zero => exact .error fun s => ⟨_, rfl, not_matters_problem (by simp) (by simp) _⟩
  | succ budget ih =>
    have htail : Stable False (onNext ',' (arguments budget st) (expect ')')) :=
      .onNext (by decide) ih (stable_expect False (by decide)) False.elim
    have hwants : Wants (onNext ',' (arguments budget st) (expect ')')) := .onNext (.of_fails expect_fails)
    rw [arguments_eq]
    refine .onNext (by decide) (.ok [] fun _ => rfl) ?_ False.elim
    exact stable_readValue.bind (fun _ => htail) fun _ => wants_linked hwants

theorem stable_readArguments (st : State) : Stable False (readArguments st) := by
  refine .of_budget (k := fun budget => arguments budget st) (stable_arguments st)
    (fun s b hb => arguments_budget st _ _ s (by omega) (by omega)) fun s t => ?_
  simp

theorem stable_parenthesis (st : State) : Stable False fun t => expect '(' t >>= readArguments st :=
  (stable_expect True (by decide)).bind (fun _ => stable_readArguments st) fun _ => .of_free _

/-- By induction on the budget. Both parts go together, since a chain has to see what comes behind a
name. -/
theorem stable_call (st : State) (budget : Nat) : Stable False (call budget st) ∧
    Wants (call budget st) := by
  induction budget with
  | zero =>
    have hzero (s : List Char) : ¬ Matters (Stop.problem .outOfSteps s) :=
      not_matters_problem (by simp) (by simp) s
    exact ⟨.error fun s => ⟨_, rfl, hzero s⟩, .of_fails fun s => .error (hzero s)⟩
  | succ budget ih =>
    rw [call_eq]
    refine ⟨.onNext (by decide) ?_ (stable_parenthesis st) False.elim, .onNext wants_expect⟩
    exact stable_scanName.bind (fun _ => ih.1) fun _ => wants_linked ih.2

theorem stable_readCall (st : State) : Stable False (readCall st) := by
  refine .of_budget (k := fun budget => call budget st) (fun b => (stable_call st b).1)
    (fun s b hb => call_budget st _ _ s (by omega) (by omega)) fun s t => ?_
  simp

theorem wants_readCall (st : State) : Wants (readCall st) :=
  fun s e he hm => (stable_call st _).2 s e he hm

/-- Behind a declaration nothing is missing: there the declarations may end. -/
theorem wants_afterDeclaration (budget : Nat) (st : State) : Wants (afterDeclaration budget st) :=
  .onNext (.of_fails fun _ => .ok _)

/-- What stands behind the value decides whether the declarations go on. -/
theorem stable_declarations (budget : Nat) (st : State) :
    Stable False (declarations budget st) := by
  induction budget generalizing st with
  | zero => exact .error fun s => ⟨_, rfl, not_matters_problem (by simp) (by simp) _⟩
  | succ budget ih =>
    have htail (st : State) : Stable False (afterDeclaration budget st) :=
      .onNext (by decide) (ih st) (.ok (st, []) fun _ => rfl) False.elim
    have hvalue (name : String) : Stable False fun t => readValue st.bindings st.store t >>= fun r =>
        afterDeclaration budget ⟨st.bindings.put name r.1, r.2.1⟩ r.2.2 :=
      stable_readValue.bind (fun r => htail ⟨st.bindings.put name r.1, r.2.1⟩)
        fun r => wants_linked (wants_afterDeclaration budget ⟨st.bindings.put name r.1, r.2.1⟩)
    have hequals (name : String) : Stable False fun t => expect '=' t >>= fun t =>
        readValue st.bindings st.store t >>= fun r =>
          afterDeclaration budget ⟨st.bindings.put name r.1, r.2.1⟩ r.2.2 :=
      (stable_expect True (by decide)).bind (fun _ => hvalue name) fun _ => .of_free _
    have hwants (name : String) : Wants fun t => expect '=' t >>= fun t =>
        readValue st.bindings st.store t >>= fun r =>
          afterDeclaration budget ⟨st.bindings.put name r.1, r.2.1⟩ r.2.2 := wants_expect
    rw [declarations_eq]
    exact stable_scanName.bind (fun n => hequals n.1) fun n => wants_linked (hwants n.1)

theorem wants_declarations (budget : Nat) (st : State) : Wants (declarations budget st) := by
  intro s e h he hs
  cases budget with
  | zero =>
    cases h
    exact not_matters_problem (by simp) (by simp) _ he
  | succ budget =>
    have hname : scanName s = .error (.problem .expectedIdentifier []) := by rw [scanName, hs]
    rw [declarations_eq] at h
    rcases bind_eq_error.mp h with h | ⟨n, hn, -⟩
    · cases hname.symm.trans h
      exact not_matters_problem (by simp) (by simp) _ he
    · cases hname.symm.trans hn

/-- What is no place for a value is told where its name begins, unless it is too deep to show. -/
theorem assigned_refuses (st : State) (name : String) (start : List Char) (target key : Value)
    (r : Value × Store × List Char) :
    FailsOnly (fun e => e = .problem .targetTooDeep r.2.2 ∨
      ∃ shown, e = .problem (.invalidTarget name shown) start)
      (assigned st name start target key r) := by
  unfold assigned
  split
  · exact .ok _
  · dsimp only
    split
    · exact .error (.inl rfl)
    · exact .error (.inr ⟨_, rfl⟩)

theorem assigned_fails (st : State) (name : String) (start : List Char) (target key : Value)
    (r : Value × Store × List Char) :
    FailsOnly (fun e => ¬ Matters e) (assigned st name start target key r) := by
  refine (assigned_refuses st name start target key r).imp fun e he => ?_
  rcases he with rfl | ⟨shown, rfl⟩ <;> exact not_matters_problem (by simp) (by simp) _

/-- The assignment itself reads nothing; it only hands on the rest of the value. -/
theorem stable_assigned (st : State) (name : String) (start : List Char) (target key : Value)
    (r : Value × Store × List Char) :
    Stable False fun t => assigned st name start target key (withRest r t) := by
  cases h : r.2.1.assign? target key r.1 with
  | some store => exact .ok (⟨st.bindings, store⟩, []) fun t => by simp [assigned, withRest, h]
  | none =>
    refine .error fun t => ?_
    cases ha : assigned st name start target key (withRest r t) with
    | ok x =>
      simp only [assigned, withRest, h] at ha
      split at ha <;> cases ha
    | error e => exact ⟨e, rfl, assigned_fails _ _ _ _ _ _ e ha⟩

/-- What follows the key of an assignment. -/
def afterKey (st : State) (name : String) (start : List Char) (target : Value)
    (k : Value × Store × List Char) : Except Stop (State × List Char) :=
  expect ']' k.2.2 >>= fun t => expect '=' t >>= fun t => readValue st.bindings k.2.1 t >>=
    assigned st name start target k.1

theorem stable_afterKey (st : State) (name : String) (start : List Char) (target : Value)
    (k : Value × Store × List Char) :
    Stable False fun t => afterKey st name start target (withRest k t) := by
  have hvalue : Stable False fun t => readValue st.bindings k.2.1 t >>=
      assigned st name start target k.1 :=
    stable_readValue.bind (stable_assigned st name start target k.1) fun r =>
      wants_linked (.of_fails fun t => assigned_fails st name start target k.1 (withRest r t))
  have hequals : Stable False fun t => expect '=' t >>= fun t => readValue st.bindings k.2.1 t >>=
      assigned st name start target k.1 :=
    (stable_expect True (by decide)).bind (fun _ => hvalue) fun _ => .of_free _
  have hbracket : Stable False fun t => expect ']' t >>= fun t => expect '=' t >>= fun t =>
      readValue st.bindings k.2.1 t >>= assigned st name start target k.1 :=
    (stable_expect True (by decide)).bind (fun _ => hequals) fun _ => .of_free _
  exact hbracket

theorem stable_assignment (st : State) (name : String) (start : List Char) :
    Stable False fun s => assignment st name start s := by
  simp only [assignment_eq]
  split
  · exact .error fun t => ⟨_, rfl, not_matters_problem (by simp) (by simp) _⟩
  · next target _ =>
    have hwants (k : Value × Store × List Char) : Wants fun t => expect ']' t >>= fun t =>
        expect '=' t >>= fun t => readValue st.bindings k.2.1 t >>=
          assigned st name start target k.1 := wants_expect
    exact stable_readValue.bind (stable_afterKey st name start target) fun k =>
      wants_linked (hwants k)

/-- Where the statement began matters to the messages alone. -/
theorem alike_assignment (st : State) (name : String) (start start' s : List Char) :
    Alike (assignment st name start s) (assignment st name start' s) := by
  simp only [assignment_eq]
  split
  · exact .of_error (not_matters_problem (by simp) (by simp) _) _
  · refine .bind fun k => .bind fun _ => .bind fun _ => .bind fun r => ?_
    unfold assigned
    split
    · exact .refl _
    · dsimp only
      split
      · exact .refl _
      · exact .of_error (not_matters_problem (by simp) (by simp) _) _

/-- The bodies of all kinds of statements, as the first name and the character behind it choose
them. -/
theorem stable_statementBody (st : State) (start : List Char) (name : String) :
    Stable False (statementBody st start name) := by
  unfold statementBody
  by_cases hv : name = "var"
  · simp only [hv, if_true]
    refine .of_budget (k := fun budget => declarations budget st)
      (fun budget => stable_declarations budget st)
      (fun s b hb => declarations_budget st _ _ s (by omega) (by omega)) fun s t => ?_
    simp
  · simp only [hv, if_false]
    have hcall : Stable False fun u => scanName u >>= fun n => readCall st n.2 >>= fun rest =>
        Except.ok (st, rest) :=
      stable_scanName.bind (fun _ => stable_thenOk (stable_readCall st) fun _ _ => rfl)
        fun _ => wants_linked (.bind (wants_readCall st) fun _ => .ok _)
    refine .onNext (by decide) (stable_assignment st name start) ?_ False.elim
    refine .onNext (by decide) hcall ?_ False.elim
    refine .onNext (by decide) (stable_thenOk (stable_readArguments st) fun _ _ => rfl) ?_ False.elim
    exact .error fun t => ⟨_, rfl, not_matters_problem (by simp) (by simp) _⟩

theorem wants_statementBody (st : State) (start : List Char) (name : String) :
    Wants (statementBody st start name) := by
  unfold statementBody
  by_cases hv : name = "var"
  · simp only [hv, if_true]
    exact fun s e he hm => wants_declarations _ st s e he hm
  · simp only [hv, if_false]
    refine .onNext (.onNext (.onNext (.of_fails fun _ => ?_)))
    exact .error (not_matters_problem (by simp) (by simp) _)

theorem alike_statementBody (st : State) (start start' : List Char) (name : String) (t : List Char) :
    Alike (statementBody st start name t) (statementBody st start' name t) := by
  unfold statementBody
  split
  · exact .refl _
  · refine .onNext (fun _ => alike_assignment ..) fun _ => .onNext (fun _ => .refl _) fun _ =>
      .onNext (fun _ => .refl _) fun _ => ?_
    exact .of_error (not_matters_problem (by simp) (by simp) _) _

theorem stable_endStatement (st : State) : Stable False (endStatement st) :=
  .onNext (by decide) (.ok (st, []) fun _ => rfl) (.ok (st, []) fun _ => rfl) False.elim

theorem endStatement_fails (st : State) (s : List Char) :
    FailsOnly (fun e => ¬ Matters e) (endStatement st s) := by
  unfold endStatement onNext
  split
  · split
    · exact .ok _
    · exact .ok _
  · exact .ok _

/-- A semicolon is looked for behind every statement, which reads one character ahead at most. -/
theorem stable_statement (st : State) : Stable False (statement st) := by
  have hbody (start : List Char) (name : String) : Stable False fun t =>
      statementBody st start name t >>= fun r => endStatement r.1 r.2 :=
    (stable_statementBody st start name).bind (fun r => stable_endStatement r.1)
      fun r => wants_linked (.of_fails fun t => endStatement_fails r.1 t)
  have hwants (start : List Char) (name : String) : Wants fun t =>
      statementBody st start name t >>= fun r => endStatement r.1 r.2 :=
    .bind (wants_statementBody st start name) fun r => endStatement_fails r.1 r.2
  have heq : statement st = fun s => scanName s >>= fun n => statementBody st s n.1 n.2 >>=
      fun r => endStatement r.1 r.2 := funext (statement_eq st)
  rw [heq]
  refine .of_alike (k := fun start s => scanName s >>= fun n => statementBody st start n.1 n.2 >>=
    fun r => endStatement r.1 r.2) (fun start => ?_) fun s t u => ?_
  · exact stable_scanName.bind (fun n => hbody start n.1) fun n => wants_linked (hwants start n.1)
  · exact .bind fun n => .then (alike_statementBody ..) _

theorem statement_blank (st : State) (h : skipSpace s = []) :
    statement st s = .error (.problem .expectedIdentifier []) := by
  have hname : scanName s = .error (.problem .expectedIdentifier []) := by rw [scanName, h]
  rw [statement_eq, hname]
  rfl

/-- A run of statements, with nothing left. -/
def runToEnd (budget : Nat) (st : State) : Reader Stop (State × List Char) := fun s =>
  statements budget st s >>= fun st => .ok (st, [])

/-- A run skips semicolons, ends where the text does, and takes a statement anywhere else. -/
theorem runToEnd_eq (budget : Nat) (st : State) : runToEnd (budget + 1) st =
    onNext ';' (runToEnd budget st) fun s =>
      if s = [] then .ok (st, []) else statement st s >>= fun r => runToEnd budget r.1 r.2 := by
  funext s
  rw [runToEnd, statements, onNext]
  cases skipSpace s with
  | nil => rfl
  | cons c t =>
    by_cases hc : c = ';'
    · subst hc
      rfl
    · simp only [hc, if_false, List.cons_ne_nil]
      split
      · next heq => cases heq
      · next heq =>
        cases heq
        exact absurd rfl hc
      · cases statement st (c :: t) <;> rfl

/-- By induction on the budget, with the statement as the step. -/
theorem stable_runToEnd (budget : Nat) (st : State) :
    Stable False (runToEnd budget st) ∧ Wants (runToEnd budget st) := by
  induction budget generalizing st with
  | zero =>
    have hzero (s : List Char) : ¬ Matters (Stop.problem .outOfSteps s) :=
      not_matters_problem (by simp) (by simp) s
    exact ⟨.error fun s => ⟨_, rfl, hzero s⟩, .of_fails fun s => .error (hzero s)⟩
  | succ budget ih =>
    have hstatement : Stable False fun s => statement st s >>= fun r => runToEnd budget r.1 r.2 :=
      (stable_statement st).bind (fun r => (ih r.1).1) fun r => wants_linked (ih r.1).2
    have hwants : Wants fun s => statement st s >>= fun r => runToEnd budget r.1 r.2 := by
      intro s e h he hs
      simp only [statement_blank st hs] at h
      cases h
      exact not_matters_problem (by simp) (by simp) _ he
    rw [runToEnd_eq]
    refine ⟨.onNext (by decide) (ih st).1 (.orEnd hstatement hwants _ rfl) False.elim, .onNext ?_⟩
    intro s e h he
    dsimp only at h
    split at h
    · cases h
    · exact hwants s e h he

theorem length_name {n : String × List Char} (h : scanName s = .ok n) : n.2.length < s.length := by
  obtain ⟨w, -, hs, ⟨c, t, hct, -⟩, -⟩ := exists_name h
  have hlen := congrArg List.length hs
  simp only [List.length_append, hct, List.length_cons] at hlen
  omega

/-- A statement takes its name at least. -/
theorem length_statement {r : State × List Char} (h : statement st s = .ok r) :
    r.2.length < s.length := by
  rw [statement_eq] at h
  obtain ⟨n, hn, h⟩ := bind_eq_ok.mp h
  obtain ⟨r₁, hr₁, h⟩ := bind_eq_ok.mp h
  have hname := length_name hn
  have hbody : r₁.2.length ≤ n.2.length := (stable_statementBody st s n.1).length_le hr₁
  have hend : r.2.length ≤ r₁.2.length := (stable_endStatement r₁.1).length_le h
  omega

/-- Every round takes a character, so all budgets above the length of the text run alike. -/
theorem statements_budget (st : State) (budget budget' : Nat) (s : List Char)
    (h : s.length < budget) (h' : s.length < budget') :
    statements budget st s = statements budget' st s := by
  refine budget_congr (k := statements) (fun b b' st s ih => ?_) h h'
  have hs := length_skipSpace_le s
  rw [statements, statements]
  split
  · rfl
  · next t ht =>
    have := length_of_skipSpace ht
    exact ih st t (by omega)
  · refine bind_congr_ok rfl fun r hr => ?_
    have := length_statement hr
    exact ih r.1 r.2 (by omega)

theorem statements_eq_run {budget : Nat} (st : State) (h : s.length < budget) :
    statements budget st s = run st s :=
  statements_budget st _ _ s h (by omega)

/-- One statement is run after the other. -/
theorem run_of_statement {st' : State} {c : Char} (hs : isSpace c = false) (hc : c ≠ ';')
    (h : statement st (c :: s) = .ok (st', rest)) : run st (c :: s) = run st' rest := by
  rw [run, statements_cons (skipSpace_cons hs s) hc, h]
  exact statements_eq_run st' (length_statement h)

/-- A run fails with the first statement that does. -/
theorem run_of_statement_error {e : Stop} {c : Char} (hs : isSpace c = false) (hc : c ≠ ';')
    (h : statement st (c :: s) = .error e) : run st (c :: s) = .error e := by
  rw [run, statements_cons (skipSpace_cons hs s) hc, h]
  rfl

theorem statements_eq_error {budget : Nat} {e : Stop} :
    statements budget st s = .error e ↔ runToEnd budget st s = .error e := by
  unfold runToEnd
  cases statements budget st s <;> simp [bind, Except.bind]

/-- A program stops at an integer of too many digits if it has one that could be missing: the text
in front of it is well-formed as far as it goes. -/
theorem run_integerTooLong (st : State) (s : List Char) :
    (∃ n, run st s = .error (.integerTooLong n)) ↔ ∃ front u n, s = front ++ u ∧ BeginsLong n u ∧
      (run st front = .error (.problem .unexpectedEnd []) ∨
        run st front = .error (.problem .expectedInteger [])) := by
  constructor
  · rintro ⟨n, h⟩
    obtain ⟨front, u, e, rfl, hu, hfront, he⟩ := (stable_runToEnd _ st).1.met
      (statements_eq_error.mp h)
    rw [← statements_eq_error, statements_eq_run st (by rw [List.length_append]; omega)] at hfront
    refine ⟨front, u, n, rfl, hu, ?_⟩
    rcases he with rfl | rfl
    · exact .inl hfront
    · exact .inr hfront
  · rintro ⟨front, u, n, rfl, hu, h⟩
    have hmeets {e : Stop} (h : run st front = .error e) (he : Stops.Gap e) :
        run st (front ++ u) = .error (.integerTooLong n) := by
      have hlen : front.length < (front ++ u).length + 1 := by
        rw [List.length_append]; omega
      rw [← statements_eq_run st hlen, statements_eq_error] at h
      exact statements_eq_error.mpr ((stable_runToEnd _ st).1.meets h he hu)
    rcases h with h | h
    · exact ⟨n, hmeets h (.inl rfl)⟩
    · exact ⟨n, hmeets h (.inr rfl)⟩

end RustdocIndex.Literal
