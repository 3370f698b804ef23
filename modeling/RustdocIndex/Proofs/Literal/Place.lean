import RustdocIndex.Proofs.Literal.Locality

/-! Programs fail at places of their texts: what an error shows as left is a rest of the text. -/
namespace RustdocIndex.Literal

variable {whole s t start : List Char} {c mark : Char} {vars : Variables} {store : Store}
  {st : State}

/-- If the error shows a rest, it is one of `whole`. -/
def LeftOf (whole : List Char) (e : Stop) : Prop :=
  ∀ p rest, e = .problem p rest → rest <:+ whole

theorem leftOf_problem (h : t <:+ whole) (p : Problem) : LeftOf whole (.problem p t) := by
  intro p' rest he
  cases he
  exact h

/-- Such an error tells no place. -/
theorem leftOf_tooLong (whole : List Char) (n : Nat) : LeftOf whole (.integerTooLong n) := by
  intro p rest he
  cases he

theorem skipSpace_suffix (s : List Char) : skipSpace s <:+ s := List.dropWhile_suffix _

/-- On the rests of `whole`, the reader's errors show rests of `whole`. -/
def Within {ρ : Type} (whole : List Char) (f : Reader Stop ρ) : Prop :=
  ∀ s, s <:+ whole → FailsOnly (LeftOf whole) (f s)

section

variable {ρ σ : Type} {free : Prop} {f yes no : Reader Stop ρ}

theorem Within.ok (g : List Char → ρ) : Within whole fun s => .ok (g s) :=
  fun s _ => FailsOnly.ok (g s)

theorem Within.error_here (p : List Char → Problem) :
    Within whole fun s => (.error (.problem (p s) s) : Except Stop ρ) :=
  fun _ hs => FailsOnly.error (leftOf_problem hs _)

/-- A problem may be told at a place that was passed before, as the opening mark of a string. -/
theorem Within.error_at (h : t <:+ whole) (p : Problem) :
    Within whole fun _ => (.error (.problem p t) : Except Stop ρ) :=
  fun _ _ => FailsOnly.error (leftOf_problem h p)

/-- All that a stable reader does to its text is to take a part off the front. -/
theorem Stable.suffix [Leaves ρ] {r : ρ} (hf : Stable free f) (h : f s = .ok r) :
    rest r <:+ s := by
  obtain ⟨c, hs, -⟩ := hf.consumes h
  exact ⟨c, hs.symm⟩

/-- The next reader begins at a rest of the text again, since the one before it is stable. -/
theorem Within.bind [Leaves ρ] {g : ρ → Except Stop σ} (hw : Within whole f) (hf : Stable free f)
    (hs : s <:+ whole) (hg : ∀ r, rest r <:+ whole → FailsOnly (LeftOf whole) (g r)) :
    FailsOnly (LeftOf whole) (f s >>= g) :=
  (hw s hs).bind fun r hr => hg r ((Stable.suffix hf hr).trans hs)

theorem Within.behind (h : Within whole f) (t : List Char) (ht : c :: t <:+ whole) :
    FailsOnly (LeftOf whole) (f t) :=
  h t ((List.suffix_cons c t).trans ht)

/-- Both branches begin at a rest of the text, one of them behind the character. -/
theorem Within.onNext (hyes : ∀ t, c :: t <:+ whole → FailsOnly (LeftOf whole) (yes t))
    (hno : Within whole no) : Within whole (onNext c yes no) := by
  intro s hs
  have hskip : skipSpace s <:+ whole := (skipSpace_suffix s).trans hs
  rcases onNext_cases c yes no s with ⟨t, ht, h⟩ | ⟨-, h⟩
  · rw [h]
    exact hyes t (ht ▸ hskip)
  · rw [h]
    exact hno _ hskip

end

theorem within_expect (whole : List Char) (c : Char) : Within whole (expect c) := by
  rw [expect_eq_onNext]
  exact .onNext (Within.ok id).behind (.error_here _)

theorem within_scanName (whole : List Char) : Within whole scanName := by
  intro s hs
  refine (scanName_refuses s).imp fun e he => ?_
  rw [he]
  exact leftOf_problem ((skipSpace_suffix s).trans hs) _

theorem within_scanInteger (whole : List Char) : Within whole scanInteger := by
  intro s hs
  refine (scanInteger_refuses s).imp fun e he => ?_
  rcases he with rfl | ⟨n, rfl⟩
  · exact leftOf_problem ((skipSpace_suffix s).trans hs) _
  · exact leftOf_tooLong whole n

/-- A string that is not closed is told at its opening mark, and a bad escape at its backslash. -/
theorem within_scanString (hstart : start <:+ whole) (mark : Char) (seen : Text) :
    Within whole (scanString start mark seen) := by
  intro s hs
  refine (scanString_refuses start mark seen s).imp fun e he => ?_
  cases he with
  | unterminated => exact leftOf_problem hstart _
  | hexEscape marker h => exact leftOf_problem (h.trans hs) _
  | escape c h => exact leftOf_problem (h.trans hs) _

theorem within_string (mark : Char) (t : List Char) (ht : mark :: t <:+ whole) :
    FailsOnly (LeftOf whole) (scanString (mark :: t) mark [] t) :=
  within_scanString ht mark [] t ((List.suffix_cons mark t).trans ht)

theorem within_scanKey (whole : List Char) : Within whole scanKey := by
  rw [scanKey_eq_onNext]
  refine .onNext (within_string _) (.onNext (within_string _) fun s hs => ?_)
  exact (within_scanName whole).bind stable_scanName hs fun _ _ => .ok _

/-- An index out of range is told where the index begins, and what is no array at its name. -/
theorem within_picked (name : String) (x : Value) (index : Int) (hstart : start <:+ whole)
    (hafter : t <:+ whole) : Within whole (picked store name x start t index) := by
  unfold picked
  split
  · exact .error_at hstart _
  · split
    · exact .ok _
    · exact .error_at hafter _

theorem within_element (name : String) (x : Value) (hstart : start <:+ whole)
    (hafter : t <:+ whole) : Within whole (element store name x start t) := by
  intro s hs
  refine (within_scanInteger whole).bind stable_scanInteger hs fun r hr => ?_
  refine (within_expect whole ']').bind (stable_expect True (by decide)) hr fun t ht => ?_
  exact within_picked name x r.1 hstart hafter t ht

/-- A name that is not declared is told where the statement or value with it begins. -/
theorem within_named (hstart : start <:+ whole) (name : String) :
    Within whole (named vars store start name) := by
  unfold named
  split
  · exact .ok _
  · exact .ok _
  · exact .ok _
  · split
    · exact .error_at hstart _
    · next x hx =>
      refine .onNext (fun t ht => ?_) (.ok _)
      have ht : t <:+ whole := (List.suffix_cons _ t).trans ht
      exact within_element _ x hstart ht t ht

theorem within_reference (whole : List Char) : Within whole (reference vars store) := by
  rw [reference_eq]
  intro s hs
  exact (within_scanName whole).bind stable_scanName hs fun r hr => within_named hs r.1 r.2 hr

theorem within_scalar (first : Option Char) (whole : List Char) :
    Within whole (scalar vars store first) := by
  intro s hs
  have hskip : skipSpace s <:+ whole := (skipSpace_suffix s).trans hs
  unfold scalar
  split
  · exact .error (leftOf_problem List.nil_suffix _)
  · split
    · exact (within_scanInteger whole).bind stable_scanInteger hskip fun _ _ => .ok _
    · split
      · exact (within_reference whole).bind stable_reference hskip fun _ _ => .ok _
      · exact .error (leftOf_problem hskip _)

/-- What is nested too deep is told behind the bracket that opens one level too many. -/
theorem within_bracket {inside : Nat → Reader Stop (Value × Store × List Char)}
    (h : ∀ depth, Within whole (inside depth)) (depth : Nat) :
    Within whole (bracket depth inside) := by
  cases depth with
  | zero => exact .error_here _
  | succ depth => exact h depth

/-- Values, and what is left of arrays and objects. -/
structure ValuesWithin (whole : List Char) (vars : Variables) (budget : Nat) : Prop where
  value (depth : Nat) (store : Store) : Within whole (value vars budget depth store)
  elements (depth : Nat) (store : Store) (seen : List Value) :
    Within whole (elements vars budget depth store seen)
  members (depth : Nat) (store : Store) (seen : Fields Text Value) :
    Within whole (members vars budget depth store seen)

theorem within_close (whole : List Char) (hc : Mark c) {ρ : Type} (g : List Char → ρ) :
    Within whole fun t => expect c t >>= fun rest => .ok (g rest) := by
  intro t ht
  exact (within_expect whole c).bind (stable_expect True hc) ht fun _ _ => .ok _

/-- By induction on the budget: each of the three readers calls the others with one less. -/
theorem valuesWithin (whole : List Char) (vars : Variables) (budget : Nat) :
    ValuesWithin whole vars budget := by
  induction budget with
  | zero => exact ⟨fun _ _ => .error_here _, fun _ _ _ => .error_here _, fun _ _ _ => .error_here _⟩
  | succ budget ih =>
    have hvalues := stable_values vars budget
    refine ⟨fun depth store => ?_, fun depth store seen => ?_, fun depth store seen => ?_⟩
    · rw [value_eq]
      have hstring (mark : Char) (t : List Char) (ht : mark :: t <:+ whole) :
          FailsOnly (LeftOf whole) (string store mark t) :=
        (within_string mark t ht).bind fun _ _ => .ok _
      have harray := within_bracket (fun depth => ih.elements depth store []) depth
      have hobject := within_bracket (fun depth => ih.members depth store []) depth
      exact .onNext (hstring _) (.onNext (hstring _) (.onNext harray.behind
        (.onNext hobject.behind fun s hs => within_scalar _ whole s hs)))
    · rw [elements_eq]
      refine .onNext (Within.ok _).behind fun s hs => ?_
      refine (ih.value depth store).bind (hvalues.value depth store) hs fun r hr => ?_
      have hmore := ih.elements depth r.2.1 (r.1 :: seen)
      exact Within.onNext hmore.behind (within_close whole (by decide) _) r.2.2 hr
    · rw [members_eq]
      refine .onNext (Within.ok _).behind fun s hs => ?_
      refine (within_scanKey whole).bind stable_scanKey hs fun k hk => ?_
      refine (within_expect whole ':').bind (stable_expect True (by decide)) hk fun t ht => ?_
      refine (ih.value depth store).bind (hvalues.value depth store) ht fun r hr => ?_
      have hmore := ih.members depth r.2.1 (seen.put k.1 r.1)
      exact Within.onNext hmore.behind (within_close whole (by decide) _) r.2.2 hr

theorem within_readValue (whole : List Char) : Within whole (readValue vars store) :=
  fun s hs => (valuesWithin whole vars _).value maxDepth store s hs

theorem within_declarations (whole : List Char) (budget : Nat) (st : State) :
    Within whole (declarations budget st) := by
  induction budget generalizing st with
  | zero => exact .error_here _
  | succ budget ih =>
    rw [declarations_eq]
    intro s hs
    refine (within_scanName whole).bind stable_scanName hs fun n hn => ?_
    refine (within_expect whole '=').bind (stable_expect True (by decide)) hn fun t ht => ?_
    refine (within_readValue whole).bind stable_readValue ht fun r hr => ?_
    exact Within.onNext (ih _).behind (.ok _) r.2.2 hr

theorem within_arguments (whole : List Char) (budget : Nat) (st : State) :
    Within whole (arguments budget st) := by
  induction budget with
  | zero => exact .error_here _
  | succ budget ih =>
    rw [arguments_eq]
    refine .onNext (Within.ok id).behind fun s hs => ?_
    refine (within_readValue whole).bind stable_readValue hs fun r hr => ?_
    exact Within.onNext ih.behind (within_expect whole ')') r.2.2 hr

theorem within_readArguments (whole : List Char) (st : State) :
    Within whole (readArguments st) :=
  fun s hs => within_arguments whole _ st s hs

theorem within_call (whole : List Char) (budget : Nat) (st : State) :
    Within whole (call budget st) := by
  induction budget with
  | zero => exact .error_here _
  | succ budget ih =>
    rw [call_eq]
    refine .onNext (fun t ht => ?_) fun s hs => ?_
    · have ht : t <:+ whole := (List.suffix_cons _ t).trans ht
      exact (within_scanName whole).bind stable_scanName ht fun n hn => ih n.2 hn
    · refine (within_expect whole '(').bind (stable_expect True (by decide)) hs fun t ht => ?_
      exact within_readArguments whole st t ht

theorem within_readCall (whole : List Char) (st : State) : Within whole (readCall st) :=
  fun s hs => within_call whole _ st s hs

/-- A target that takes no such key is told where its statement begins, although both values were
read by then. -/
theorem within_assigned (st : State) (name : String) (hstart : start <:+ whole)
    (target key : Value) (r : Value × Store × List Char) (hr : r.2.2 <:+ whole) :
    FailsOnly (LeftOf whole) (assigned st name start target key r) := by
  refine (assigned_refuses st name start target key r).imp fun e he => ?_
  rcases he with rfl | ⟨shown, rfl⟩
  · exact leftOf_problem hr _
  · exact leftOf_problem hstart _

theorem within_assignment (st : State) (name : String) (hstart : start <:+ whole) :
    Within whole (assignment st name start) := by
  intro s hs
  rw [assignment_eq]
  split
  · exact .error (leftOf_problem hstart _)
  · next target _ =>
    refine (within_readValue whole).bind stable_readValue hs fun k hk => ?_
    refine (within_expect whole ']').bind (stable_expect True (by decide)) hk fun t ht => ?_
    refine (within_expect whole '=').bind (stable_expect True (by decide)) ht fun u hu => ?_
    exact (within_readValue whole).bind stable_readValue hu fun r hr =>
      within_assigned st name hstart target k.1 r hr

theorem within_statementBody (st : State) (hstart : start <:+ whole) (name : String) :
    Within whole (statementBody st start name) := by
  unfold statementBody
  split
  · exact fun t ht => within_declarations whole _ st t ht
  · refine .onNext (within_assignment st name hstart).behind (.onNext (fun t ht => ?_)
      (.onNext (fun t ht => ?_) (.error_at hstart _)))
    · have ht : t <:+ whole := (List.suffix_cons _ t).trans ht
      refine (within_scanName whole).bind stable_scanName ht fun n hn => ?_
      exact (within_readCall whole st).bind (stable_readCall st) hn fun _ _ => .ok _
    · have ht : t <:+ whole := (List.suffix_cons _ t).trans ht
      exact (within_readArguments whole st).bind (stable_readArguments st) ht fun _ _ => .ok _

/-- What is no statement is told at its first name. -/
theorem within_statement (whole : List Char) (st : State) : Within whole (statement st) := by
  intro s hs
  rw [statement_eq]
  refine (within_scanName whole).bind stable_scanName hs fun n hn => ?_
  refine (within_statementBody st hs n.1).bind (stable_statementBody st s n.1) hn fun r hr => ?_
  exact Within.onNext (Within.ok _).behind (.ok _) r.2 hr

theorem within_statements (whole : List Char) (budget : Nat) (st : State) :
    Within whole (statements budget st) := by
  induction budget generalizing st with
  | zero => exact .error_here _
  | succ budget ih =>
    intro s hs
    have hskip : skipSpace s <:+ whole := (skipSpace_suffix s).trans hs
    rw [statements]
    split
    · exact .ok _
    · next rest h => exact (ih st).behind rest (h ▸ hskip)
    · exact (within_statement whole st).bind (stable_statement st) hskip fun r hr => ih r.1 r.2 hr

/-- Where a program fails, a rest of its text is left. -/
theorem rest_suffix_of_run {p : Problem} {rest : List Char}
    (h : run st s = .error (.problem p rest)) : rest <:+ s :=
  within_statements s _ st s List.suffix_rfl _ h p rest rfl

end RustdocIndex.Literal
