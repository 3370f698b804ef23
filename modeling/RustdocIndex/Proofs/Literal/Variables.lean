import RustdocIndex.Proofs.Literal.References

/-! Declarations, which may refer to earlier ones: the variables stand for the values that the
declarations set. -/
namespace RustdocIndex.Literal

variable {env env' : Fields String Json} {st : State} {budget : Nat} {s t rest : List Char}
  {name : String} {x : Json} {c : Char}

/-- The variables of a state stand for the values of an environment. -/
def Models (env : Fields String Json) (st : State) : Prop := Binds env st.bindings st.store

theorem models_empty : Models [] .empty := .nil

/-- A variable looks like the value that it stands for, and there are no others. -/
theorem Models.picture (h : Models env st) (name : String) :
    (st.get? name).map Document.picture = (env.get? name).map Document.picture := by
  obtain ⟨bindings, store⟩ := st
  induction (show List.Forall₂ _ bindings env from h) with
  | nil => rfl
  | @cons v y vs ys hv _ ih =>
    obtain ⟨k, v⟩ := v
    obtain ⟨k', y⟩ := y
    obtain ⟨rfl, hheld⟩ := hv
    simp only [State.get?, Fields.get?] at ih ⊢
    split
    · exact congrArg some (picture_of_holds hheld)
    · exact ih ‹_›

/-- A rest with which a declaration does not go on. -/
def EndsDeclaration (rest : List Char) : Prop :=
  ∀ c t, skipSpace rest = c :: t → c ≠ ',' ∧ c ≠ '['

theorem endsDeclaration_cons (hs : isSpace c = false) (hc : c ≠ ',' ∧ c ≠ '[')
    (rest : List Char) : EndsDeclaration (c :: rest) := by
  intro d t hd
  rw [skipSpace_cons hs] at hd
  cases hd
  exact hc

theorem EndsDeclaration.endsValue (hc : isSpace c = true ∨ c = ';') (h : EndsDeclaration rest) :
    EndsValue (c :: rest) ∧ EndsDeclaration (c :: rest) := by
  rcases hc with hc | rfl
  · have hname := isNameContinue_of_isSpace hc
    have hend : EndsDeclaration (c :: rest) := by
      rw [EndsDeclaration, skipSpace_space hc]
      exact h
    exact ⟨⟨endsName_cons hname rest, fun t ht => (hend _ t ht).2 rfl⟩, hend⟩
  · exact ⟨endsValue_cons rfl rfl (by decide) rest, endsDeclaration_cons rfl (by decide) rest⟩

/-- Declarations stand in front of nothing that an earlier one could go on with. -/
theorem Declares.ends (h : Declares env t env') (hr : EndsDeclaration rest) :
    EndsDeclaration (t ++ rest) := by
  induction h with
  | nil => exact hr
  | skip hc _ ih => exact (ih.endsValue hc).2
  | var => exact endsDeclaration_cons rfl (by decide) _

theorem Models.readValue (hm : Models env st) (h : Renders env maxDepth (.value x) t)
    (hr : EndsValue rest) :
    FoundBefore st.store x rest (readValue st.bindings st.store (t ++ rest)) :=
  yields_of_renders h st.bindings rest st.store _ hr hm (by omega)

/-- The variable that is set stands for its value, and the others for theirs. -/
theorem declarations_sets (h : Sets env t env') (hm : Models env st) (hr : EndsValue rest) :
    ∃ st' rest', declarations (budget + 1) st (t ++ rest) = afterDeclaration budget st' rest' ∧
      skipSpace rest' = skipSpace rest ∧ Models env' st' := by
  cases h with
  | @mk w name v x t hw hn hv hx =>
    obtain ⟨rest', hrest', y, store', hval, he, hheld⟩ := hm.readValue hx hr
    refine ⟨⟨st.bindings.put name y, store'⟩, rest', ?_, hrest',
      Fields.put_forall₂ (hm.extend he) hheld⟩
    have hequals : expect '=' (v ++ '=' :: (t ++ rest)) = .ok (t ++ rest) := expect_blank hv rfl _
    have hname : scanName (w ++ (name.toList ++ (v ++ '=' :: (t ++ rest)))) =
        .ok (name, v ++ '=' :: (t ++ rest)) := by
      rw [scanName_blank hw, scanName_name hn (.blank hv (endsName_cons rfl _))]
    simp only [List.append_assoc, List.cons_append, declarations_eq, hname, bind, Except.bind,
      hequals, hval]

/-- What declarations read up to, and what the variables stand for behind them. -/
def Declared (env' : Fields String Json) (rest : List Char)
    (r : Except Stop (State × List Char)) : Prop :=
  ∃ st' rest', r = .ok (st', rest') ∧ skipSpace rest' = skipSpace rest ∧ Models env' st'

theorem declarations_setsAll (h : SetsAll env t env') (hm : Models env st)
    (hr : EndsValue rest ∧ EndsDeclaration rest) (hb : (t ++ rest).length < budget) :
    Declared env' rest (declarations budget st (t ++ rest)) := by
  induction h generalizing st budget with
  | last h =>
    obtain ⟨budget, rfl⟩ := Nat.exists_eq_add_one_of_ne_zero (Nat.ne_zero_of_lt hb)
    obtain ⟨st', rest', hd, hrest', hm'⟩ := declarations_sets h hm hr.1
    have hno : ∀ u, skipSpace rest' ≠ ',' :: u := fun u hu =>
      (hr.2 ',' u (hrest'.symm.trans hu)).1 rfl
    refine ⟨st', skipSpace rest', ?_, by rw [skipSpace_skipSpace, hrest'], hm'⟩
    rw [hd, afterDeclaration, onNext_no hno]
  | @more env t env' u env'' h hu ih =>
    obtain ⟨budget, rfl⟩ := Nat.exists_eq_add_one_of_ne_zero (Nat.ne_zero_of_lt hb)
    rw [List.append_assoc, List.cons_append] at hb ⊢
    have hcomma : EndsValue (',' :: (u ++ rest)) := endsValue_cons rfl rfl (by decide) _
    obtain ⟨st', rest', hd, hrest', hm'⟩ := declarations_sets h hm hcomma
    rw [hd, afterDeclaration, onNext_yes (hrest'.trans (skipSpace_cons rfl _))]
    refine ih hm' ?_
    simp only [List.length_append, List.length_cons] at hb ⊢
    omega

theorem SetsAll.space (hc : isSpace c = true) (h : SetsAll env t env') :
    SetsAll env (c :: t) env' := by
  have hsets {env env' : Fields String Json} {t : List Char} (h : Sets env t env') :
      Sets env (c :: t) env' := by
    cases h with
    | @mk w name v x t hw hn hv hx =>
      have hblank : skipSpace (c :: w) = [] := by rw [skipSpace_space hc, hw]
      exact .mk hblank hn hv hx
  cases h with
  | last h => exact .last (hsets h)
  | more h hu => exact .more (hsets h) hu

theorem run_skipSpace (st : State) (s : List Char) : run st (skipSpace s) = run st s := by
  have hle := length_skipSpace_le s
  have hrun : statements (s.length + 1) st (skipSpace s) = run st (skipSpace s) :=
    statements_eq_run st (by omega)
  rw [← hrun, run, statements, statements, skipSpace_skipSpace]

theorem run_congr (h : skipSpace s = skipSpace t) (st : State) : run st s = run st t := by
  rw [← run_skipSpace, h, run_skipSpace]

theorem run_semicolon (st : State) (s : List Char) : run st (';' :: s) = run st s := by
  rw [run, statements, skipSpace_cons rfl]
  exact statements_eq_run st (by simp)

theorem run_separator (hc : isSpace c = true ∨ c = ';') (st : State) (s : List Char) :
    run st (c :: s) = run st s := by
  rcases hc with hc | rfl
  · exact run_congr (skipSpace_space hc s) st
  · exact run_semicolon st s

/-- What a statement leaves of its end does not matter. -/
theorem endStatement_run (st : State) (s : List Char) :
    ∃ rest, endStatement st s = .ok (st, rest) ∧ run st rest = run st s := by
  rcases onNext_cases ';' (fun rest => Except.ok (st, rest)) (fun rest => .ok (st, rest)) s with
    ⟨t, ht, h⟩ | ⟨-, h⟩
  · exact ⟨t, h, by rw [← run_skipSpace st s, ht, run_semicolon]⟩
  · exact ⟨_, h, run_skipSpace st s⟩

theorem run_var (hc : isSpace c = true) (h : SetsAll env t env') (hm : Models env st)
    (hr : EndsValue rest ∧ EndsDeclaration rest) :
    ∃ st', Models env' st' ∧ run st ("var".toList ++ c :: (t ++ rest)) = run st' rest := by
  obtain ⟨st', rest', hd, hrest', hm'⟩ := declarations_setsAll (h.space hc) hm hr
    (Nat.lt_succ_self _)
  obtain ⟨last, hend, hlast⟩ := endStatement_run st' rest'
  have hname := isNameContinue_of_isSpace hc
  have hs : statement st ("var".toList ++ c :: (t ++ rest)) = .ok (st', last) := by
    rw [statement_eq, scanName_name isName_var (endsName_cons hname _)]
    simp only [bind, Except.bind, statementBody, if_true]
    rw [← List.cons_append, hd]
    exact hend
  refine ⟨st', hm', ?_⟩
  rw [← run_congr hrest', ← hlast]
  exact run_of_statement rfl (by decide) hs

/-- The induction is on the declarations: each leaves the variables standing for what was set so
far, and the program goes on behind it. -/
theorem Declares.run (h : Declares env t env') (hm : Models env st) (hr : EndsDeclaration rest) :
    ∃ st', Models env' st' ∧ run st (t ++ rest) = run st' rest := by
  induction h generalizing st with
  | nil => exact ⟨st, hm, rfl⟩
  | skip hc _ ih =>
    obtain ⟨st', hm', hrun⟩ := ih hm
    exact ⟨st', hm', by rw [List.cons_append, run_separator hc, hrun]⟩
  | @var env c t env' d u env'' hc ht hd hu ih =>
    obtain ⟨first, hfirst, hrun⟩ := run_var hc ht hm ((hu.ends hr).endsValue hd)
    obtain ⟨st', hm', hrest⟩ := ih hfirst
    refine ⟨st', hm', ?_⟩
    rw [List.append_assoc, List.cons_append, List.append_assoc, List.cons_append, hrun,
      run_separator hd, hrest]

/-- The text of a declaration behind others: the variable is the value however it is written, be it
through variables that were set before. These are what the declarations set them to, and stay so. -/
theorem evaluate_rendering {decls text : List Char} {out : String}
    (hd : Declares [] decls env) (h : Renders env maxDepth (.value x) text) (hn : IsName out) :
    ∃ st st', evaluate decls = .ok st ∧
      evaluate (decls ++ ("var ".toList ++ (out.toList ++ '=' :: (text ++ [';'])))) = .ok st' ∧
      (st'.get? out).map Document.picture = some (Document.picture x) ∧
      (∀ name, (st.get? name).map Document.picture = (env.get? name).map Document.picture) ∧
      ∀ name ≠ out, (st'.get? name).map Document.picture =
        (st.get? name).map Document.picture := by
  have hlast : Declares env ("var ".toList ++ (out.toList ++ '=' :: (text ++ [';'])))
      (env.put out x) := by
    have hsets : Sets env (out.toList ++ '=' :: text) (env.put out x) :=
      .mk (w := []) (v := []) rfl hn rfl h
    simpa using Declares.var (c := ' ') (d := ';') rfl (.last hsets) (.inr rfl) .nil
  have hend : EndsDeclaration [] := nofun
  obtain ⟨st, hm, hrun⟩ := hd.run models_empty hend
  obtain ⟨before, hbefore, hfront⟩ := hd.run models_empty (hlast.ends hend)
  obtain ⟨st', hm', hback⟩ := hlast.run hbefore hend
  rw [List.append_nil] at hrun hback hfront
  refine ⟨st, st', hrun, hfront.trans hback, ?_, hm.picture, fun name hname => ?_⟩
  · rw [hm'.picture, Fields.get?_put_self]
    rfl
  · rw [hm'.picture, hm.picture, Fields.get?_put_of_ne hname]

/-- A null, an empty text, and a table with a reference and an escape. -/
def tableDeclarations : List Char := "var N=null,E=\"\",R=[\"a\",E,'\\u0062'];".toList

def tableVariables : Fields String Json :=
  [("N", .null), ("E", .text ""), ("R", .array [.text "a", .text "", .text "b"])]

/-- References to all of them, with spaces and a comma at the end. -/
def tableText : List Char := "[N,R[2] ,\x7bk:E,\"l\":-1,\x7d,]".toList

def tableValue : Json :=
  .array [.null, .text "b", .object [("k", .text ""), ("l", .int (-1))]]

theorem declares_table : Declares [] tableDeclarations tableVariables := by
  have hN : IsName "N" := ⟨'N', [], rfl, rfl, rfl⟩
  have hE : IsVariable "E" := ⟨⟨'E', [], rfl, rfl, rfl⟩, by decide⟩
  have hR : IsName "R" := ⟨'R', [], rfl, rfl, rfl⟩
  have hnull : Sets [] ([] ++ ("N".toList ++ ([] ++ '=' :: "null".toList))) [("N", .null)] :=
    .mk rfl hN rfl (.leaf .null)
  have hempty : Sets [("N", .null)] ([] ++ ("E".toList ++ ([] ++ '=' :: "\"\"".toList)))
      [("N", .null), ("E", .text "")] :=
    .mk rfl hE.1 rfl (.leaf (.text (.between (.inl rfl) .nil)))
  have ha : WritesText ['a'] "\"a\"".toList :=
    .between (.inl rfl) (.cons (.plain (by decide) (by decide) (by decide)) .nil)
  have hb : WritesText ['b'] "'\\u0062'".toList :=
    .between (.inr rfl) (.cons (.unit (by decide)) .nil)
  have htable : Renders [("N", .null), ("E", .text "")] maxDepth
      (.value (.array [.text "a", .text "", .text "b"])) "[\"a\",E,'\\u0062']".toList :=
    .array (.element (.leaf (.text ha)) (.element (.leaf (.named hE rfl))
      (.lastElement (.leaf (.text hb)))))
  have hset : Sets [("N", .null), ("E", .text "")]
      ([] ++ ("R".toList ++ ([] ++ '=' :: "[\"a\",E,'\\u0062']".toList))) tableVariables :=
    .mk rfl hR rfl htable
  exact Declares.var (c := ' ') (d := ';') rfl (.more hnull (.more hempty (.last hset))) (.inr rfl)
    .nil

theorem renders_table : Renders tableVariables maxDepth (.value tableValue) tableText := by
  have hN : IsVariable "N" := ⟨⟨'N', [], rfl, rfl, rfl⟩, by decide⟩
  have hE : IsVariable "E" := ⟨⟨'E', [], rfl, rfl, rfl⟩, by decide⟩
  have hR : IsVariable "R" := ⟨⟨'R', [], rfl, rfl, rfl⟩, by decide⟩
  have hk : IsName "k" := ⟨'k', [], rfl, rfl, rfl⟩
  have hdigits : IsInteger [] ['2'] := ⟨.inl rfl, by simp, List.forall_mem_singleton.mpr rfl⟩
  have hslot : WritesLeaf tableVariables (.text "b") "R[2]".toList :=
    .slot (w := []) (v := []) (u := []) hR rfl rfl rfl rfl hdigits (by decide) rfl
  have hl : WritesText ['l'] "\"l\"".toList :=
    .between (.inl rfl) (.cons (.plain (by decide) (by decide) (by decide)) .nil)
  have hminus : IsInteger ['-'] ['1'] := ⟨.inr rfl, by simp, List.forall_mem_singleton.mpr rfl⟩
  have hobject : Renders tableVariables 255 (.value (.object [("k", .text ""), ("l", .int (-1))]))
      "\x7bk:E,\"l\":-1,\x7d".toList :=
    .object (by decide) (.member (w := []) (v := []) rfl (.name hk) rfl (.leaf (.named hE rfl))
      (.member (w := []) (v := []) rfl (.text hl) rfl (.leaf (.int hminus (by decide)))
        (.noMember (w := []) rfl)))
  exact .array (.element (.leaf (.named hN rfl)) (.element (.behind (w := [' ']) rfl (.leaf hslot))
    (.element hobject (.noElement (w := []) rfl))))

theorem evaluate_rendering_table :
    Declares [] tableDeclarations tableVariables ∧
      Renders tableVariables maxDepth (.value tableValue) tableText ∧ IsName "x" ∧
      ∃ st, evaluate (tableDeclarations ++
          ("var ".toList ++ ("x".toList ++ '=' :: (tableText ++ [';'])))) = .ok st ∧
        (st.get? "x").map Document.picture = some (Document.picture tableValue) := by
  have hx : IsName "x" := ⟨'x', [], rfl, rfl, rfl⟩
  obtain ⟨_, st, -, hrun, hpicture, -⟩ := evaluate_rendering declares_table renders_table hx
  exact ⟨declares_table, renders_table, hx, st, hrun, hpicture⟩

end RustdocIndex.Literal
