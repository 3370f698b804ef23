import RustdocIndex.Proofs.Literal.Locality

/-! The readers of programs, with a record of the rounds that they make: the rounds of every loop,
and the calls for a value. -/
namespace RustdocIndex.Literal

/-- What is read in rounds. -/
inductive Rule
  | program
  | declarations
  | call
  | arguments
  | value
  | array
  | object
  | string
  deriving DecidableEq

/-- A round begins: with so many arrays and objects open, and with this text ahead. -/
structure Round where
  rule : Rule
  levels : Nat
  text : List Char

/-- A result, and the rounds before it in their order. -/
structure Traced (ρ : Type) where
  rounds : List Round
  result : Except Stop ρ

namespace Traced

variable {ρ σ : Type}

/-- A result that no round leads to. -/
def of (x : Except Stop ρ) : Traced ρ := ⟨[], x⟩

/-- A round comes before all else. -/
def round (r : Round) (x : Traced ρ) : Traced ρ := ⟨r :: x.rounds, x.result⟩

def bind (x : Traced ρ) (f : ρ → Traced σ) : Traced σ :=
  match x.result with
  | .ok r => ⟨x.rounds ++ (f r).rounds, (f r).result⟩
  | .error e => ⟨x.rounds, .error e⟩

instance : Bind Traced := ⟨bind⟩

def onNext (c : Char) (yes no : List Char → Traced ρ) (s : List Char) : Traced ρ :=
  match skipSpace s with
  | d :: t => if d = c then yes t else no (d :: t)
  | [] => no []

def bracket (depth : Nat) (inside : Nat → List Char → Traced ρ) : List Char → Traced ρ :=
  match depth with
  | 0 => fun t => .of (.error (.problem .tooDeep t))
  | depth + 1 => inside depth

@[simp]
theorem result_of (x : Except Stop ρ) : (of x).result = x := rfl

@[simp]
theorem result_round (r : Round) (x : Traced ρ) : (x.round r).result = x.result := rfl

/-- Taking the result of a traced run commutes with running one step after the other, and all the
lemmas below come down to that. -/
@[simp]
theorem result_bind (x : Traced ρ) (f : ρ → Traced σ) :
    (x >>= f).result = x.result >>= fun r => (f r).result := by
  change (bind x f).result = _
  unfold bind
  cases x.result <;> rfl

@[simp]
theorem result_onNext (c : Char) (yes no : List Char → Traced ρ) (s : List Char) :
    (onNext c yes no s).result =
      RustdocIndex.onNext c (fun t => (yes t).result) (fun t => (no t).result) s := by
  unfold onNext RustdocIndex.onNext
  cases skipSpace s with
  | nil => rfl
  | cons d t =>
    simp only
    split <;> rfl

end Traced

/-- A string, one round for each of its characters or escapes. -/
def traceString (levels : Nat) (start : List Char) (mark : Char) (seen : Text) (s : List Char) :
    Traced (Text × List Char) :=
  .round ⟨.string, levels, s⟩ <|
    match s with
    | [] => .of (.error (.problem .unterminatedString start))
    | c :: s =>
      if c = mark then .of (.ok (seen.reverse, s))
      else if c = '\n' then .of (.error (.problem .unterminatedString start))
      else if c = '\\' then
        match s with
        | [] => .of (.error (.problem .unterminatedString start))
        | e :: t =>
          if e = 'u' then
            match t with
            | a :: b :: f :: d :: rest =>
              match hexUnit? a b f d with
              | some u => traceString levels start mark (seen.push u) rest
              | none => .of (.error (.problem (.invalidHexEscape e) (c :: s)))
            | _ => .of (.error (.problem (.invalidHexEscape e) (c :: s)))
          else if e = 'x' then
            match t with
            | a :: b :: rest =>
              match hexPair? a b with
              | some u => traceString levels start mark (u :: seen) rest
              | none => .of (.error (.problem (.invalidHexEscape e) (c :: s)))
            | _ => .of (.error (.problem (.invalidHexEscape e) (c :: s)))
          else if e = '\'' then traceString levels start mark (.ofChar e :: seen) t
          else
            match escaped? e with
            | some x => traceString levels start mark (.ofChar x :: seen) t
            | none => .of (.error (.problem (.invalidEscape e) (c :: s)))
      else traceString levels start mark (.ofChar c :: seen) s

/-- A round of a string is its last one, or leads to the next one further on. -/
theorem traceString_eq (levels : Nat) (start : List Char) (mark : Char) (seen : Text)
    (s : List Char) : ∃ x, traceString levels start mark seen s = .round ⟨.string, levels, s⟩ x ∧
      (x = .of (scanString start mark seen s) ∨ ∃ seen' c t, s = c ++ t ∧ c ≠ [] ∧
        scanString start mark seen s = scanString start mark seen' t ∧
        x = traceString levels start mark seen' t) := by
  rw [traceString.eq_def]
  refine ⟨_, rfl, ?_⟩
  fun_cases scanString start mark seen s with
  | case1 | case2 | case3 | case4 | case6 | case7 | case9 | case10 | case13 =>
    left
    simp_all
  | case5 a b f d rest u hu hm hn =>
    exact .inr ⟨seen.push u, ['\\', 'u', a, b, f, d], rest, rfl, nofun, rfl, by simp_all⟩
  | case8 a b rest u hu hm hn hx =>
    exact .inr ⟨u :: seen, ['\\', 'x', a, b], rest, rfl, nofun, rfl, by simp_all⟩
  | case11 t hm hn hu hx =>
    exact .inr ⟨.ofChar '\'' :: seen, ['\\', '\''], t, rfl, nofun, rfl, by simp_all⟩
  | case12 e t hu hx hq x he hm hn =>
    exact .inr ⟨.ofChar x :: seen, ['\\', e], t, rfl, nofun, rfl, by simp_all⟩
  | case14 e t hm hn hb =>
    exact .inr ⟨.ofChar e :: seen, [e], t, rfl, nofun, rfl, by simp_all⟩

def traceKey (levels : Nat) : List Char → Traced (Text × List Char) :=
  Traced.onNext '"' (fun t => traceString levels ('"' :: t) '"' [] t)
    (Traced.onNext '\'' (fun t => traceString levels ('\'' :: t) '\'' [] t) fun s =>
      .of (scanName s >>= fun r => .ok (Text.ofString r.1, r.2)))

def traceText (levels : Nat) (store : Store) (mark : Char) (t : List Char) :
    Traced (Value × Store × List Char) :=
  traceString levels (mark :: t) mark [] t >>= fun r => .of (.ok (.text r.1, store, r.2))

mutual

/-- A value inside of `levels` arrays and objects. -/
def traceValue (vars : Variables) (budget depth levels : Nat) (store : Store) (s : List Char) :
    Traced (Value × Store × List Char) :=
  match budget with
  | 0 => .of (.error (.problem .outOfSteps s))
  | budget + 1 =>
    .round ⟨.value, levels, s⟩ <|
      Traced.onNext '"' (traceText levels store '"') (Traced.onNext '\'' (traceText levels store '\'')
        (Traced.onNext '['
          (Traced.bracket depth fun depth => traceElements vars budget depth (levels + 1) store [])
          (Traced.onNext '\x7b'
            (Traced.bracket depth fun depth => traceMembers vars budget depth (levels + 1) store [])
            fun s => .of (scalar vars store (skipSpace s).head? s)))) s

def traceElements (vars : Variables) (budget depth levels : Nat) (store : Store)
    (seen : List Value) (s : List Char) : Traced (Value × Store × List Char) :=
  match budget with
  | 0 => .of (.error (.problem .outOfSteps s))
  | budget + 1 =>
    .round ⟨.array, levels, s⟩ <|
      Traced.onNext ']' (fun rest => .of (.ok (allocated store (.array seen.reverse) rest))) (fun s =>
        traceValue vars budget depth levels store s >>= fun r =>
          Traced.onNext ',' (traceElements vars budget depth levels r.2.1 (r.1 :: seen)) (fun t =>
            .of (expect ']' t >>= fun rest =>
              .ok (allocated r.2.1 (.array (r.1 :: seen).reverse) rest))) r.2.2) s

def traceMembers (vars : Variables) (budget depth levels : Nat) (store : Store)
    (seen : Fields Text Value) (s : List Char) : Traced (Value × Store × List Char) :=
  match budget with
  | 0 => .of (.error (.problem .outOfSteps s))
  | budget + 1 =>
    .round ⟨.object, levels, s⟩ <|
      Traced.onNext '\x7d' (fun rest => .of (.ok (allocated store (.object seen) rest))) (fun s =>
        traceKey levels s >>= fun k => Traced.of (expect ':' k.2) >>= fun t =>
          traceValue vars budget depth levels store t >>= fun r =>
            Traced.onNext ',' (traceMembers vars budget depth levels r.2.1 (seen.put k.1 r.1)) (fun t =>
              .of (expect '\x7d' t >>= fun rest =>
                .ok (allocated r.2.1 (.object (seen.put k.1 r.1)) rest))) r.2.2) s

end

def traceReadValue (vars : Variables) (store : Store) (s : List Char) :
    Traced (Value × Store × List Char) :=
  traceValue vars (2 * s.length + 2) maxDepth 0 store s

def traceDeclarations (budget : Nat) (st : State) (s : List Char) : Traced (State × List Char) :=
  match budget with
  | 0 => .of (.error (.problem .outOfSteps s))
  | budget + 1 =>
    .round ⟨.declarations, 0, s⟩ <|
      Traced.of (scanName s) >>= fun n => Traced.of (expect '=' n.2) >>= fun t =>
        traceReadValue st.bindings st.store t >>= fun r =>
          Traced.onNext ',' (traceDeclarations budget ⟨st.bindings.put n.1 r.1, r.2.1⟩)
            (fun t => .of (.ok (⟨st.bindings.put n.1 r.1, r.2.1⟩, t))) r.2.2

def traceArguments (budget : Nat) (st : State) (s : List Char) : Traced (List Char) :=
  match budget with
  | 0 => .of (.error (.problem .outOfSteps s))
  | budget + 1 =>
    .round ⟨.arguments, 0, s⟩ <|
      Traced.onNext ')' (fun t => .of (.ok t)) (fun s =>
        traceReadValue st.bindings st.store s >>= fun r =>
          Traced.onNext ',' (traceArguments budget st) (fun t => .of (expect ')' t)) r.2.2) s

def traceCall (budget : Nat) (st : State) (s : List Char) : Traced (List Char) :=
  match budget with
  | 0 => .of (.error (.problem .outOfSteps s))
  | budget + 1 =>
    .round ⟨.call, 0, s⟩ <|
      Traced.onNext '.' (fun t => Traced.of (scanName t) >>= fun n => traceCall budget st n.2)
        (fun t => Traced.of (expect '(' t) >>= fun t => traceArguments (t.length + 1) st t) s

def traceAssignment (st : State) (name : String) (start s : List Char) :
    Traced (State × List Char) :=
  match st.bindings.get? name with
  | none => .of (.error (.problem (.undeclaredTarget name) start))
  | some target =>
    traceReadValue st.bindings st.store s >>= fun k => Traced.of (expect ']' k.2.2) >>= fun t =>
      Traced.of (expect '=' t) >>= fun t => traceReadValue st.bindings k.2.1 t >>= fun r =>
        .of (assigned st name start target k.1 r)

/-- A statement behind its first name. -/
def traceBody (st : State) (start : List Char) (name : String) (t : List Char) :
    Traced (State × List Char) :=
  if name = "var" then traceDeclarations (t.length + 1) st t
  else
    match skipSpace t with
    | '[' :: t => traceAssignment st name start t
    | '(' :: _ | '.' :: _ => traceCall (t.length + 1) st t >>= fun rest => .of (.ok (st, rest))
    | _ => .of (.error (.problem (.unexpectedStatement name) start))

def traceStatement (st : State) (s : List Char) : Traced (State × List Char) :=
  Traced.of (scanName s) >>= fun n => traceBody st s n.1 n.2 >>= fun r => .of (endStatement r.1 r.2)

def traceStatements (budget : Nat) (st : State) (s : List Char) : Traced State :=
  match budget with
  | 0 => .of (.error (.problem .outOfSteps s))
  | budget + 1 =>
    .round ⟨.program, 0, s⟩ <|
      match skipSpace s with
      | [] => .of (.ok st)
      | ';' :: rest => traceStatements budget st rest
      | s => traceStatement st s >>= fun r => traceStatements budget r.1 r.2

/-- A run, with its rounds. -/
def traceRun (st : State) (s : List Char) : Traced State := traceStatements (s.length + 1) st s

/-! ### The results are those of the readers -/

variable {vars : Variables} {store : Store}

/-- One round for each character or escape leaves the text of a string as it is. -/
theorem result_traceString (levels : Nat) (start : List Char) (mark : Char) (seen : Text)
    (s : List Char) :
    (traceString levels start mark seen s).result = scanString start mark seen s := by
  induction hlen : s.length using Nat.strong_induction_on generalizing seen s with
  | _ length ih =>
    obtain ⟨x, heq, rfl | ⟨seen', c, t, rfl, hc, hs, rfl⟩⟩ := traceString_eq levels start mark seen s
    · rw [heq]
      rfl
    · have hpos := List.length_pos_of_ne_nil hc
      rw [heq, hs]
      exact ih t.length (by rw [← hlen, List.length_append]; omega) seen' t rfl

theorem result_traceKey (levels : Nat) (s : List Char) : (traceKey levels s).result = scanKey s := by
  simp only [traceKey, scanKey_eq_onNext, Traced.result_onNext, result_traceString, Traced.result_of]

theorem result_traceText (levels : Nat) (store : Store) (mark : Char) (t : List Char) :
    (traceText levels store mark t).result = string store mark t := by
  simp only [traceText, string, Traced.result_bind, result_traceString, Traced.result_of]

/-- Values, and what is left of arrays and objects, with a budget. -/
structure TracesValues (vars : Variables) (budget : Nat) : Prop where
  value (depth levels : Nat) (store : Store) (s : List Char) :
    (traceValue vars budget depth levels store s).result = value vars budget depth store s
  elements (depth levels : Nat) (store : Store) (seen : List Value) (s : List Char) :
    (traceElements vars budget depth levels store seen s).result =
      elements vars budget depth store seen s
  members (depth levels : Nat) (store : Store) (seen : Fields Text Value) (s : List Char) :
    (traceMembers vars budget depth levels store seen s).result =
      members vars budget depth store seen s

/-- By induction on the budget, for values, elements and members together. -/
theorem tracesValues (vars : Variables) (budget : Nat) : TracesValues vars budget := by
  induction budget with
  | zero =>
    refine ⟨fun _ _ _ _ => ?_, fun _ _ _ _ _ => ?_, fun _ _ _ _ _ => ?_⟩
    · rw [traceValue, value, Traced.result_of]
    · rw [traceElements, elements, Traced.result_of]
    · rw [traceMembers, members, Traced.result_of]
  | succ budget ih =>
    refine ⟨fun depth levels store s => ?_, fun depth levels store seen s => ?_,
      fun depth levels store seen s => ?_⟩
    · rw [traceValue, value_eq]
      cases depth <;> simp only [Traced.result_round, Traced.result_onNext, Traced.bracket, bracket,
        Traced.result_of, result_traceText, ih.elements, ih.members]
    · rw [traceElements, elements_eq]
      simp only [Traced.result_round, Traced.result_onNext, Traced.result_bind, Traced.result_of,
        ih.value, ih.elements, afterElement]
    · rw [traceMembers, members_eq]
      simp only [Traced.result_round, Traced.result_onNext, Traced.result_bind, Traced.result_of,
        ih.value, ih.members, result_traceKey, afterMember]

theorem result_traceReadValue (vars : Variables) (store : Store) (s : List Char) :
    (traceReadValue vars store s).result = readValue vars store s :=
  (tracesValues vars _).value ..

theorem result_traceDeclarations (budget : Nat) (st : State) (s : List Char) :
    (traceDeclarations budget st s).result = declarations budget st s := by
  induction budget generalizing st s with
  | zero => rfl
  | succ budget ih =>
    rw [traceDeclarations, declarations_eq]
    simp only [Traced.result_round, Traced.result_onNext, Traced.result_bind, Traced.result_of,
      result_traceReadValue, ih, afterDeclaration]

theorem result_traceArguments (budget : Nat) (st : State) (s : List Char) :
    (traceArguments budget st s).result = arguments budget st s := by
  induction budget generalizing s with
  | zero => rfl
  | succ budget ih =>
    rw [traceArguments, arguments_eq]
    simp only [Traced.result_round, Traced.result_onNext, Traced.result_bind, Traced.result_of,
      result_traceReadValue, ih]

/-- The rounds of a call are those of its points and, inside, of its arguments. -/
theorem result_traceCall (budget : Nat) (st : State) (s : List Char) :
    (traceCall budget st s).result = call budget st s := by
  induction budget generalizing s with
  | zero => rfl
  | succ budget ih =>
    rw [traceCall, call_eq]
    simp only [Traced.result_round, Traced.result_onNext, Traced.result_bind, Traced.result_of,
      result_traceArguments, ih]
    rfl

theorem result_traceAssignment (st : State) (name : String) (start s : List Char) :
    (traceAssignment st name start s).result = assignment st name start s := by
  rw [traceAssignment, assignment_eq]
  cases st.bindings.get? name with
  | none => rfl
  | some target =>
    simp only [Traced.result_bind, Traced.result_of, result_traceReadValue]

theorem result_traceStatement (st : State) (s : List Char) :
    (traceStatement st s).result = statement st s := by
  rw [traceStatement, statement]
  simp only [Traced.result_bind, Traced.result_of]
  refine bind_congr_ok rfl fun n _ => ?_
  obtain ⟨name, t⟩ := n
  rw [traceBody]
  by_cases hv : name = "var"
  · simp only [hv, if_true, result_traceDeclarations]
    exact bind_congr_ok rfl fun r _ => (match_semicolon ..).symm
  simp only [hv, if_false]
  cases skipSpace t with
  | nil => rfl
  | cons c u =>
    by_cases hc : c = '['
    · subst hc
      simp only [result_traceAssignment]
      exact bind_congr_ok rfl fun r _ => (match_semicolon ..).symm
    have hcall : (call (t.length + 1) st t >>= fun rest => .ok (st, rest)) >>=
        (fun r => endStatement r.1 r.2) = call (t.length + 1) st t >>= endStatement st := by
      cases call (t.length + 1) st t <;> rfl
    by_cases hp : c = '('
    · subst hp
      simp only [Traced.result_bind, Traced.result_of, result_traceCall, hcall]
      exact bind_congr_ok rfl fun rest _ => (match_semicolon ..).symm
    by_cases hd : c = '.'
    · subst hd
      simp only [Traced.result_bind, Traced.result_of, result_traceCall, hcall]
      exact bind_congr_ok rfl fun rest _ => (match_semicolon ..).symm
    simp [hc, hp, hd]
    rfl

/-- By induction on the budget, with one round for each statement or semicolon. -/
theorem result_traceStatements (budget : Nat) (st : State) (s : List Char) :
    (traceStatements budget st s).result = statements budget st s := by
  induction budget generalizing st s with
  | zero => rfl
  | succ budget ih =>
    rw [traceStatements, statements, Traced.result_round]
    cases skipSpace s with
    | nil => rfl
    | cons c t =>
      by_cases hc : c = ';'
      · subst hc
        exact ih st t
      · simp [hc, result_traceStatement, ih]

/-- The traced run is the run, with its rounds beside it. -/
theorem result_traceRun (st : State) (s : List Char) : (traceRun st s).result = run st s :=
  result_traceStatements ..

end RustdocIndex.Literal
