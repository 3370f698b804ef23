import RustdocIndex.Proofs.Literal.PlainText

/-! Assignments of JSON values to the keys of an object. -/
namespace RustdocIndex.Literal

open Json (PlainText)

variable {base cell : Nat} {st : State} {store : Store} {name : String} {fs : Fields Text Value}
  {key : Text} {v : Value} {x : Json} {keyText valueText s more : List Char}

theorem assign?_object (hc : store[cell]? = some (.object fs)) :
    store.assign? (.ref cell) (.text key) v =
      some (store.setIfInBounds cell (.object (fs.put key v))) := by
  simp [Store.assign?, hc]

/-- What is left of an assignment behind its opening bracket. -/
theorem assignment_plainText (hname : st.bindings.get? name = some (.ref cell))
    (hcell : st.store[cell]? = some (.object fs)) (hlt : cell < base) (hb : base ≤ st.store.size)
    (hkey : PlainText maxDepth keyText (.text key)) (hvalue : PlainText maxDepth valueText x)
    (start more : List Char) : ∃ w v store', skipSpace w = [] ∧
      assignment st name start (keyText ++ ']' :: '=' :: (valueText ++ ';' :: more)) =
        .ok (⟨st.bindings, store'⟩, w ++ ';' :: more) ∧
      Extends base st.store store' ∧ store'[cell]? = some (.object (fs.put key v)) ∧
      Holds base store' v x := by
  obtain ⟨w₁, hw₁, k, first, hk, he₁, hkeyHeld⟩ := readValue_plainText st.bindings hkey
    (c := ']') (by decide) hb ('=' :: (valueText ++ ';' :: more))
  cases hkeyHeld
  have hb₁ := Nat.le_trans hb he₁.size
  obtain ⟨w₂, hw₂, v, last, hv, he₂, hheld⟩ := readValue_plainText st.bindings hvalue
    (c := ';') (by decide) hb₁ more
  have hlast : last[cell]? = some (.object fs) := by
    have hsize : cell < st.store.size := Nat.lt_of_lt_of_le hlt hb
    rw [(he₁.trans he₂).cell (Nat.zero_le _) hsize, hcell]
  refine ⟨w₂, v, last.setIfInBounds cell (.object (fs.put key v)), hw₂, ?_, ?_, ?_, ?_⟩
  · have hclose : expect ']' (w₁ ++ ']' :: '=' :: (valueText ++ ';' :: more)) =
        .ok ('=' :: (valueText ++ ';' :: more)) := expect_blank hw₁ rfl _
    have hequals : expect '=' ('=' :: (valueText ++ ';' :: more)) =
        .ok (valueText ++ ';' :: more) := expect_cons rfl _
    simp only [assignment, hname, bind, Except.bind, hk, hclose, hequals, hv, assign?_object hlast]
    rfl
  · exact ((he₁.trans he₂).mono (Nat.zero_le _)).trans (extends_set hlt last _)
  · rw [Array.getElem?_setIfInBounds_self_of_lt]
    exact Nat.lt_of_lt_of_le hlt (Nat.le_trans hb₁ he₂.size)
  · exact hheld.extend (extends_set hlt last _)

theorem statement_assignment (hn : IsName name) (hvar : name ≠ "var")
    (hname : st.bindings.get? name = some (.ref cell))
    (hcell : st.store[cell]? = some (.object fs)) (hlt : cell < base) (hb : base ≤ st.store.size)
    (hkey : PlainText maxDepth keyText (.text key)) (hvalue : PlainText maxDepth valueText x)
    (more : List Char) : ∃ v store',
      statement st (name.toList ++
          '[' :: (keyText ++ ']' :: '=' :: (valueText ++ ';' :: more))) =
        .ok (⟨st.bindings, store'⟩, more) ∧
      Extends base st.store store' ∧ store'[cell]? = some (.object (fs.put key v)) ∧
      Holds base store' v x := by
  obtain ⟨w, v, store', hw, ha, hrest⟩ := assignment_plainText hname hcell hlt hb hkey hvalue
    (name.toList ++ '[' :: (keyText ++ ']' :: '=' :: (valueText ++ ';' :: more))) more
  refine ⟨v, store', ?_, hrest⟩
  rw [statement, scanName_name hn (endsName_cons rfl _)]
  simp only [bind, Except.bind, if_neg hvar]
  rw [skipSpace_cons rfl]
  simp only [ha, skipSpace_blank_cons hw (show isSpace ';' = false from rfl)]
  rfl

/-- A declaration of an object without members. -/
theorem statement_object (st : State) (hn : IsName name) (more : List Char) :
    statement st ("var".toList ++ ' ' :: (name.toList ++ '=' :: '\x7b' :: '\x7d' :: ';' :: more)) =
      .ok (⟨st.bindings.put name (.ref st.store.size), st.store.push (.object [])⟩, more) := by
  have hvalue : readValue st.bindings st.store ('\x7b' :: '\x7d' :: ';' :: more) =
      .ok (.ref st.store.size, st.store.push (.object []), ';' :: more) := by
    have hdepth : maxDepth = 255 + 1 := rfl
    rw [readValue, hdepth, value_object, members_eq, onNext_yes (skipSpace_cons rfl _)]
    rfl
  exact statement_var hn hvalue (skipSpace_cons rfl more)

/-- A program that sets one key of an object after the other. -/
def assignments (name : String) (texts : List (List Char × List Char)) : List Char :=
  texts.flatMap fun t => name.toList ++ '[' :: (t.1 ++ ']' :: '=' :: (t.2 ++ [';']))

/-- The variable `name` is the object in a cell, which stands for some fields; what these stand
for lies in later cells. -/
structure Filled (name : String) (cell base : Nat) (st : State) (ys : Fields Text Json) : Prop where
  name : st.bindings.get? name = some (.ref cell)
  below : cell < base
  size : base ≤ st.store.size
  fields : ∃ fs, st.store[cell]? = some (.object fs) ∧
    List.Forall₂ (HoldsField base st.store) fs ys

theorem Filled.assignment {ys : Fields Text Json} (hf : Filled name cell base st ys)
    (hn : IsName name) (hvar : name ≠ "var") (hkey : PlainText maxDepth keyText (.text key))
    (hvalue : PlainText maxDepth valueText x) (more : List Char) : ∃ st',
      statement st (name.toList ++
          '[' :: (keyText ++ ']' :: '=' :: (valueText ++ ';' :: more))) = .ok (st', more) ∧
      Filled name cell base st' (ys.put key x) := by
  obtain ⟨fs, hcell, hys⟩ := hf.fields
  obtain ⟨v, store', hs, he, hcell', hx⟩ :=
    statement_assignment hn hvar hf.name hcell hf.below hf.size hkey hvalue more
  refine ⟨_, hs, hf.name, hf.below, Nat.le_trans hf.size he.size, _, hcell', ?_⟩
  exact holdsField_put (Holds.extendFields he hys) hx

theorem statements_assignments {texts : List (List Char × List Char)} {entries : Fields Text Json}
    (hn : IsName name) (hvar : name ≠ "var")
    (ht : List.Forall₂ (fun t e => PlainText maxDepth t.1 (.text e.1) ∧
      PlainText maxDepth t.2 e.2) texts entries)
    {ys : Fields Text Json} (hf : Filled name cell base st ys) {budget : Nat}
    (hb : (assignments name texts).length < budget) : ∃ st',
      statements budget st (assignments name texts) = .ok st' ∧
      Filled name cell base st' (entries.foldl (fun ys e => ys.put e.1 e.2) ys) := by
  induction ht generalizing st ys budget with
  | nil =>
    obtain ⟨budget, rfl⟩ := Nat.exists_eq_add_one_of_ne_zero (Nat.ne_zero_of_lt hb)
    exact ⟨st, statements_nil rfl, hf⟩
  | @cons t e texts entries he _ ih =>
    obtain ⟨budget, rfl⟩ := Nat.exists_eq_add_one_of_ne_zero (Nat.ne_zero_of_lt hb)
    obtain ⟨st', hs, hf'⟩ := hf.assignment hn hvar he.1 he.2 (assignments name texts)
    have hsplit : assignments name (t :: texts) = name.toList ++
        '[' :: (t.1 ++ ']' :: '=' :: (t.2 ++ ';' :: assignments name texts)) := by
      simp [assignments]
    obtain ⟨c, u, hname, hc, -⟩ := id hn
    have hfirst : skipSpace (assignments name (t :: texts)) = c :: (u ++
        '[' :: (t.1 ++ ']' :: '=' :: (t.2 ++ ';' :: assignments name texts))) := by
      rw [hsplit, hname]
      exact skipSpace_cons (isSpace_of_isNameStart hc) _
    have hne : c ≠ ';' := by
      rintro rfl
      exact absurd hc (by decide)
    have hlen : (assignments name texts).length < budget := by
      rw [hsplit] at hb
      simp only [List.length_append, List.length_cons] at hb
      omega
    obtain ⟨last, hrun, hfilled⟩ := ih hf' hlen
    refine ⟨last, ?_, hfilled⟩
    rw [statements_cons hfirst hne, ← List.cons_append, ← hname, hs]
    exact hrun

/-- A program that declares an object and fills it. -/
def objectProgram (name : String) (texts : List (List Char × List Char)) : List Char :=
  "var".toList ++ ' ' :: (name.toList ++ '=' :: '\x7b' :: '\x7d' :: ';' :: assignments name texts)

theorem evaluate_objectProgram {texts : List (List Char × List Char)} {entries : Fields Text Json}
    (hn : IsName name) (hvar : name ≠ "var") (hkeys : (entries.map (·.1)).Nodup)
    (ht : List.Forall₂ (fun t e => PlainText maxDepth t.1 (.text e.1) ∧
      PlainText maxDepth t.2 e.2) texts entries) : ∃ st,
      evaluate (objectProgram name texts) = .ok st ∧ Filled name 0 1 st entries := by
  have hfilled : Filled name 0 1 ⟨[(name, .ref 0)], #[.object []]⟩ [] :=
    ⟨by simp [Fields.get?], Nat.zero_lt_one, Nat.le_refl 1, [], rfl, .nil⟩
  have hfirst : skipSpace (objectProgram name texts) = 'v' :: 'a' :: 'r' :: ' ' ::
      (name.toList ++ '=' :: '\x7b' :: '\x7d' :: ';' :: assignments name texts) :=
    skipSpace_cons rfl _
  have hlen : (assignments name texts).length < (objectProgram name texts).length := by
    simp only [objectProgram, List.length_append, List.length_cons]
    omega
  obtain ⟨st, hrun, hst⟩ := statements_assignments hn hvar ht hfilled hlen
  rw [Fields.foldl_put (by simpa using hkeys), List.nil_append] at hst
  refine ⟨st, ?_, hst⟩
  rw [evaluate, run, statements_cons hfirst (by decide)]
  exact bind_eq_ok.mpr ⟨_, statement_object .empty hn _, hrun⟩

/-- The object of a filled variable looks like its fields. -/
theorem Filled.shape {ys : Fields Text Json} (h : Filled name cell base st ys) : ∃ nodes,
    (st.get? name).map Document.shape = some (.object nodes) ∧
      List.Forall₂ (fun f e => f.1 = e.1 ∧ Holds base f.2.store f.2.value e.2) nodes ys := by
  obtain ⟨fs, hcell, hys⟩ := h.fields
  refine ⟨fs.map fun f => (f.1, ⟨st.store, f.2⟩), ?_, ?_⟩
  · simp [State.get?, h.name, Document.shape, Node.shape, hcell]
  · rw [List.forall₂_map_left_iff]
    exact hys

end RustdocIndex.Literal
