import RustdocIndex.Proofs.Json.Bare
import RustdocIndex.Proofs.Literal.Drawn
import RustdocIndex.Proofs.Literal.Locality
import RustdocIndex.Proofs.Literal.PlainText

/-! Declarations of JSON texts: the variable is the value that a JSON reader finds, unless too many
brackets are open at once. -/
namespace RustdocIndex.Literal

open Json (IsExact Place PlainText Reads)

variable {vars : Variables} {budget depth n : Nat} {store : Store} {st : State} {name : String}
  {s t rest : List Char} {x : Json}

theorem elements_of_error {vs : List Value} {e : Stop} (hx : Reads IsExact .value n s x t)
    (h : value vars budget depth store s = .error e) :
    elements vars (budget + 1) depth store vs s = .error e := by
  obtain ⟨c, u, rfl, hc, hne, -⟩ := hx.head
  have hs := skipSpace_cons hc u
  have hno : ∀ w, skipSpace (c :: u) ≠ ']' :: w := fun w hw => by
    rw [hs] at hw
    exact hne (List.cons.inj hw).1
  rw [elements_eq, onNext_no hno, hs, h]
  rfl

theorem members_of_error {fs : Fields Text Value} {key : Text} {u w : List Char} {e : Stop}
    (hk : Json.scanString ('"' :: t) [] t = .ok (key, u)) (hu : skipSpace u = ':' :: w)
    (h : value vars budget depth store w = .error e) :
    members vars (budget + 1) depth store fs ('"' :: t) = .error e := by
  have hs : skipSpace ('"' :: t) = '"' :: t := skipSpace_cons rfl t
  have hcolon : expect ':' u = .ok w := by simp [expect, hu]
  rw [members_eq, onNext_no (by simp [hs]), hs, scanKey_json hk]
  simp only [bind, Except.bind, hcolon, h]

/-- A program does not get through for want of levels, wherever it begins. -/
def Overflows (vars : Variables) : Place → Nat → List Char → Prop
  | .value, depth, s => ∀ store budget, 2 * s.length < budget →
      ∃ t, value vars budget depth store s = .error (.problem .tooDeep t)
  | .elements _, depth, s => ∀ store budget vs, 2 * s.length + 1 < budget →
      ∃ t, elements vars budget depth store vs s = .error (.problem .tooDeep t)
  | .members _, depth, s => ∀ store budget fs, 2 * s.length + 1 < budget →
      ∃ t, members vars budget depth store fs s = .error (.problem .tooDeep t)

/-- An opening bracket needs a level, and what stands behind it may need more. -/
theorem overflows_array (h : ∀ m, depth = m + 1 → Overflows vars (.elements []) m (skipSpace t)) :
    Overflows vars .value depth ('[' :: t) := by
  intro store budget hlen
  simp only [List.length_cons] at hlen
  obtain ⟨budget, rfl⟩ := Nat.exists_eq_add_of_le (show 2 ≤ budget by omega)
  have ht := length_skipSpace_le t
  rw [Nat.add_comm]
  cases depth with
  | zero => exact ⟨_, value_tooDeep (.inl rfl)⟩
  | succ m =>
    rw [value_array, ← elements_skipSpace]
    exact h m rfl store _ [] (by omega)

theorem overflows_object (h : ∀ m, depth = m + 1 → Overflows vars (.members []) m (skipSpace t)) :
    Overflows vars .value depth ('\x7b' :: t) := by
  intro store budget hlen
  simp only [List.length_cons] at hlen
  obtain ⟨budget, rfl⟩ := Nat.exists_eq_add_of_le (show 2 ≤ budget by omega)
  have ht := length_skipSpace_le t
  rw [Nat.add_comm]
  cases depth with
  | zero => exact ⟨_, value_tooDeep (.inr rfl)⟩
  | succ m =>
    rw [value_object, ← members_skipSpace]
    exact h m rfl store _ [] (by omega)

/-- The induction is on a reading with more levels. In front of the first value that needs more
than there are, everything is read. -/
theorem overflows_of_reads {place : Place} (h : Reads IsExact place n s x rest) {d : Nat}
    (hd : ¬ Reads IsExact place d s x rest) (vars : Variables) : Overflows vars place d s := by
  induction h generalizing d with
  | string h => exact absurd (.string h) hd
  | emptyArray h =>
    refine overflows_array fun m hm => ?_
    subst hm
    exact absurd (.emptyArray h) hd
  | array h ih =>
    refine overflows_array fun m hm => ih fun hr => ?_
    subst hm
    exact hd (.array hr)
  | emptyObject h =>
    refine overflows_object fun m hm => ?_
    subst hm
    exact absurd (.emptyObject h) hd
  | object h ih =>
    refine overflows_object fun m hm => ih fun hr => ?_
    subst hm
    exact hd (.object hr)
  | literal h hx => exact absurd (.literal h hx) hd
  | number h hx => exact absurd (.number h hx) hd
  | lastElement hx ht ih =>
    intro store budget vs hlen
    obtain ⟨budget, rfl⟩ := Nat.exists_eq_add_one_of_ne_zero (Nat.ne_zero_of_lt hlen)
    obtain ⟨u, hu⟩ := ih (fun hr => hd (.lastElement hr ht)) store budget (by omega)
    exact ⟨u, elements_of_error hx hu⟩
  | @nextElement n seen s x t more y rest hx ht hy ihx ihy =>
    intro store budget vs hlen
    obtain ⟨budget, rfl⟩ := Nat.exists_eq_add_one_of_ne_zero (Nat.ne_zero_of_lt hlen)
    by_cases hr : Reads IsExact .value d s x t
    · obtain ⟨v, store', hval, -⟩ := follows_of_reads hr vars 0 (endsName_of_skipSpace ht rfl)
        store budget (Nat.zero_le _) (by omega)
      have hmore := hr.length_next ht
      obtain ⟨budget, rfl⟩ := Nat.exists_eq_add_one_of_ne_zero (show budget ≠ 0 by omega)
      rw [elements_of_value hval, afterElement_comma ht, ← elements_skipSpace]
      exact ihy (fun hr' => hd (.nextElement hr ht hr')) store' _ (v :: vs) (by omega)
    · obtain ⟨u, hu⟩ := ihx hr store budget (by omega)
      exact ⟨u, elements_of_error hx hu⟩
  | @lastMember n seen t key u v x w rest hk hu hx hw ih =>
    intro store budget fs hlen
    have hmember := Json.length_of_member hk hu
    simp only [List.length_cons] at hlen
    obtain ⟨budget, rfl⟩ := Nat.exists_eq_add_of_le (show 2 ≤ budget by omega)
    obtain ⟨e, he⟩ := ih (fun hr => hd (.lastMember hk hu hr hw)) store (budget + 1) (by omega)
    rw [value_skipSpace] at he
    rw [Nat.add_comm]
    exact ⟨e, members_of_error hk hu he⟩
  | @nextMember n seen t key u v x w more y rest hk hu hx hw hy ihx ihy =>
    intro store budget fs hlen
    have hmember := Json.length_of_member hk hu
    simp only [List.length_cons] at hlen
    obtain ⟨budget, rfl⟩ := Nat.exists_eq_add_of_le (show 2 ≤ budget by omega)
    rw [Nat.add_comm]
    by_cases hr : Reads IsExact .value d (skipSpace v) x w
    · obtain ⟨z, store', hval, -⟩ := follows_of_reads hr vars 0 (endsName_of_skipSpace hw rfl)
        store (budget + 1) (Nat.zero_le _) (by omega)
      rw [value_skipSpace] at hval
      have hmore := hr.length_next hw
      rw [members_of_value (scanKey_json hk) hu hval, afterMember_comma hw, ← members_skipSpace]
      exact ihy (fun hr' => hd (.nextMember hk hu hr hw hr')) store' _ _ (by omega)
    · obtain ⟨e, he⟩ := ihx hr store (budget + 1) (by omega)
      rw [value_skipSpace] at he
      exact ⟨e, members_of_error hk hu he⟩

/-- A reading of a text that something follows is a reading of that text. -/
theorem reads_of_append {place : Place} (h : Reads IsExact place n (s ++ t) x (rest ++ t))
    (hr : Json.EndsNumber rest) : Reads IsExact place n s x rest := by
  obtain ⟨c, d, hs, hd⟩ := h.append
  have hcons : s ++ t = c :: (d ++ rest) ++ t := by simp [hs]
  rw [List.append_cancel_right hcons]
  exact hd rest hr

/-- The text of a declaration, up to its semicolon. -/
def declaration (name : String) (text : List Char) : List Char :=
  "var".toList ++ ' ' :: (name.toList ++ '=' :: (text ++ [';']))

/-- A text that nests too deep is no value, whatever comes behind. -/
theorem readValue_tooDeep (h : PlainText n s x) (hn : maxDepth < Json.nesting s)
    (vars : Variables) (store : Store) (more : List Char) :
    ∃ t, readValue vars store (s ++ ';' :: more) = .error (.problem .tooDeep t) := by
  have hends : Json.EndsNumber (';' :: more) := Json.endsNumber_cons (by decide) more
  obtain ⟨rest, hr, hrest⟩ := h.reads hends
  have hno : ¬ Reads IsExact .value maxDepth (skipSpace (s ++ ';' :: more)) x
      (rest ++ ';' :: more) := by
    intro hd
    have hend : Json.EndsNumber [] := nofun
    have hblank : Json.EndsNumber rest := by simpa using Json.EndsNumber.blank hrest hend
    have hs : skipSpace s ≠ [] := by
      obtain ⟨_, hr, -⟩ := h
      obtain ⟨c, u, hs, -⟩ := hr.head
      simp [hs]
    rw [skipSpace_append hs] at hd
    have hplain : PlainText maxDepth s x := ⟨rest, reads_of_append hd hblank, hrest⟩
    exact absurd (hplain.iff_nesting.mp hplain) (Nat.not_le.mpr hn)
  have hlen := length_skipSpace_le (s ++ ';' :: more)
  obtain ⟨t, ht⟩ := overflows_of_reads hr hno vars store (2 * (s ++ ';' :: more).length + 2)
    (by omega)
  rw [value_skipSpace] at ht
  exact ⟨t, ht⟩

/-- What is read in front of a semicolon does not depend on what comes behind. -/
theorem readValue_semicolon {v : Value} {store' : Store} {w : List Char} (hw : skipSpace w = [])
    (h : readValue vars store (s ++ [';']) = .ok (v, store', w ++ [';'])) (more : List Char) :
    readValue vars store (s ++ ';' :: more) = .ok (v, store', w ++ ';' :: more) := by
  obtain ⟨c, hs, hc⟩ := stable_readValue.consumes h
  have hcons : s = c ++ w := by
    have hcat : s ++ [';'] = (c ++ w) ++ [';'] := by rw [hs, List.append_assoc]; rfl
    exact List.append_cancel_right hcat
  have hjoins : Joins Stop (w ++ [';']) (w ++ ';' :: more) :=
    ⟨w, ';', [], more, hw, (rfl : isSpace ';' = false), rfl, rfl⟩
  rw [hcons, List.append_assoc]
  exact hc _ (.inr hjoins)

theorem declaration_append (name : String) (s more : List Char) : declaration name s ++ more =
    "var".toList ++ ' ' :: (name.toList ++ '=' :: (s ++ ';' :: more)) := by
  simp [declaration]

/-- A program declares a JSON text without floats, in whatever state and whatever comes behind: the
variable is the value of the text if that opens no more than so many brackets at once, and the
program is refused if it opens more. -/
theorem run_declaration (hn : IsName name) (h : Json.parse s = .ok x)
    (hf : Json.writesFloat s = false) (st : State) :
    (Json.nesting s ≤ maxDepth → ∃ st', run st (declaration name s) = .ok st' ∧
      (st'.get? name).map Document.picture = some (Document.picture x) ∧
      ∀ more, run st (declaration name s ++ more) = run st' more) ∧
    (maxDepth < Json.nesting s → ∀ more, ∃ t,
      run st (declaration name s ++ more) = .error (.problem .tooDeep t)) := by
  constructor
  · intro hdepth
    have hplain : PlainText maxDepth s x := (Json.plainText_iff_nesting h hf).mpr hdepth
    obtain ⟨w, hw, v, store, hv, -, hheld⟩ := readValue_plainText st.bindings hplain
      (c := ';') (by decide) (Nat.zero_le st.store.size) []
    have hrun (more : List Char) : run st (declaration name s ++ more) =
        run ⟨st.bindings.put name v, store⟩ more := by
      have hst := statement_var hn (readValue_semicolon hw hv more)
        (skipSpace_blank_cons hw (show isSpace ';' = false from rfl) more)
      rw [declaration_append]
      exact run_of_statement (by decide) (by decide) hst
    refine ⟨_, ?_, ?_, hrun⟩
    · rw [← List.append_nil (declaration name s), hrun]
      rfl
    · rw [State.get?, Fields.get?_put_self]
      exact congrArg some (picture_of_holds hheld)
  · intro hdepth more
    have hplain : PlainText (Json.nesting s) s x :=
      (Json.plainText_iff_nesting h hf).mpr (Nat.le_refl _)
    obtain ⟨t, ht⟩ := readValue_tooDeep hplain hdepth st.bindings st.store more
    refine ⟨t, ?_⟩
    rw [declaration_append]
    exact run_of_statement_error (by decide) (by decide) (statement_var_error hn ht)

/-- White space, a key that comes twice, a pair of surrogates and one alone. -/
def escapesText : List Char :=
  " \x7b\"k\": \"\\ud83d\\ude00\\ud800\\n\", \"a\":[1 ,-2],\"k\":null\x7d\n".toList

/-- The value of the text. -/
def escapesValue : Json := .object [("k", .null), ("a", .array [.int 1, .int (-2)])]

/-- So many empty arrays inside one another. -/
def brackets (n : Nat) : List Char := List.replicate n '[' ++ List.replicate n ']'

/-- The value of so many brackets and one more. -/
def bracketsValue : Nat → Json
  | 0 => .array []
  | n + 1 => .array [bracketsValue n]

theorem brackets_succ (n : Nat) (rest : List Char) :
    brackets (n + 1) ++ rest = '[' :: (brackets n ++ ']' :: rest) := by
  simp [brackets, List.replicate_succ' (a := ']'), List.replicate_succ]

theorem reads_brackets (n : Nat) (rest : List Char) :
    Reads IsExact .value (n + 1) (brackets (n + 1) ++ rest) (bracketsValue n) rest := by
  induction n generalizing rest with
  | zero => exact .emptyArray (skipSpace_cons rfl rest)
  | succ n ih =>
    have hinner := ih (']' :: rest)
    rw [brackets_succ]
    refine .array ?_
    rw [brackets_succ, skipSpace_cons rfl, ← brackets_succ]
    exact .lastElement hinner (skipSpace_cons rfl rest)

theorem parse_brackets {n : Nat} (h : n < Json.maxDepth) :
    Json.parse (brackets (n + 1)) = .ok (bracketsValue n) := by
  have hread := reads_brackets n []
  rw [brackets_succ, ← skipSpace_cons rfl, ← brackets_succ, List.append_nil] at hread
  exact (hread.plainText rfl).parse h

theorem run_declaration_escapes :
    (IsName "x" ∧ Json.parse escapesText = .ok escapesValue ∧
      Json.writesFloat escapesText = false ∧ Json.nesting escapesText ≤ maxDepth ∧
      ∃ st, run .empty (declaration "x" escapesText) = .ok st ∧
        (st.get? "x").map Document.picture = some (Document.picture escapesValue)) ∧
    (Json.parse (brackets 257) = .ok (bracketsValue 256) ∧
      Json.writesFloat (brackets 257) = false ∧ maxDepth < Json.nesting (brackets 257) ∧
      ∃ t, run .empty (declaration "x" (brackets 257) ++ []) = .error (.problem .tooDeep t)) := by
  have hn : IsName "x" := ⟨'x', [], rfl, rfl, rfl⟩
  have hx : Json.parse escapesText = .ok escapesValue := by decide +kernel
  have hx' : Json.parse (brackets 257) = .ok (bracketsValue 256) := parse_brackets (by decide)
  have hf : Json.writesFloat escapesText = false := by decide +kernel
  have hdepth : Json.nesting escapesText ≤ maxDepth := by decide +kernel
  have hf' : Json.writesFloat (brackets 257) = false := by decide +kernel
  have hdepth' : maxDepth < Json.nesting (brackets 257) := by decide +kernel
  obtain ⟨st, hrun, hpicture, -⟩ := (run_declaration hn hx hf .empty).1 hdepth
  exact ⟨⟨hn, hx, hf, hdepth, st, hrun, hpicture⟩, hx', hf', hdepth',
    (run_declaration hn hx' hf' .empty).2 hdepth' []⟩

end RustdocIndex.Literal
