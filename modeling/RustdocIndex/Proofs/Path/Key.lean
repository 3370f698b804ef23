import RustdocIndex.Proofs.Path.Grammar

/-! The keys that paths have in mappings. Reading a key as a path gives back the names it shows. -/
namespace RustdocIndex

/-- A name as keys show it. -/
def keyName (n : Text) : Text := if isKeyword n && !isPathKeyword n then rawMarker ++ n else n

theorem pathKey_eq (names : List Text) : pathKey names = Text.joinColons (names.map keyName) := rfl

theorem colon_notMem_keyName {n : Text} (h : Plain n) : Text.colon ∉ keyName n := by
  unfold keyName
  split
  · rw [List.mem_append, not_or]
    exact ⟨by decide, h.1⟩
  · exact h.1

/-- The marker of a raw name cannot be mistaken for a part of a plain one. -/
theorem keyName_injective {n m : Text} (hn : Plain n) (hm : Plain m)
    (h : keyName n = keyName m) : n = m := by
  have hr : rawMark ∈ rawMarker := by decide
  unfold keyName at h
  split at h <;> split at h
  · exact List.append_cancel_left h
  · exact absurd (h ▸ List.mem_append_left n hr) hm.2
  · exact absurd (h ▸ List.mem_append_left m hr) hn.2
  · exact h

theorem pathKey_injective {names others : List Text} (hn : names ≠ []) (ho : others ≠ [])
    (hnames : ∀ n ∈ names, Plain n) (hothers : ∀ n ∈ others, Plain n)
    (h : pathKey names = pathKey others) : names = others := by
  have hkeys : names.map keyName = others.map keyName := by
    rw [pathKey_eq, pathKey_eq] at h
    apply Text.joinColons_injective _ _ _ _ h
    · simpa using hn
    · simpa using ho
    · simpa using fun n hm => colon_notMem_keyName (hnames n hm)
    · simpa using fun n hm => colon_notMem_keyName (hothers n hm)
  clear hn ho h
  induction names generalizing others with
  | nil => simpa using hkeys.symm
  | cons n names ih =>
    cases others with
    | nil => simp at hkeys
    | cons m others =>
      simp only [List.map_cons, List.cons.injEq] at hkeys
      simp only [List.mem_cons, forall_eq_or_imp] at hnames hothers
      rw [keyName_injective hnames.1 hothers.1 hkeys.1, ih hnames.2 hothers.2 hkeys.2]

/-- A key marks exactly the keywords among its names. -/
theorem writesSegment_keyName {n : Text} (hname : isName n) (hfree : ¬ isPathKeyword n) :
    WritesSegment (keyName n) ⟨n, isKeyword n⟩ := by
  by_cases hkey : isKeyword n
  · rw [keyName, if_pos (by simp [hkey, hfree]), hkey]
    exact .raw hname hfree
  · rw [keyName, if_neg (by simp [hkey]), Bool.eq_false_iff.mpr hkey]
    exact .plain hname hkey

theorem SimplePath.names_ne_nil (p : SimplePath) : p.names ≠ [] := List.cons_ne_nil _ _

theorem SimplePath.plain_of_parse {t : Text} {p : SimplePath} (h : SimplePath.parse t = .ok p) :
    ∀ n ∈ p.names, Plain n :=
  fun n hn => plain_of_isName (isName_of_parse h n hn).1

theorem parse_pathKey {names : List Text} (hne : names ≠ [])
    (hnames : ∀ n ∈ names, isName n ∧ ¬ isPathKeyword n) :
    ∃ p, SimplePath.parse (pathKey names) = .ok p ∧ p.names = names := by
  obtain ⟨first, more, rfl⟩ := List.exists_cons_of_ne_nil hne
  let segment (n : Text) : Segment := ⟨n, isKeyword n⟩
  have hall : List.Forall₂ WritesSegment ((first :: more).map keyName)
      ((first :: more).map segment) := by
    rw [List.forall₂_map_left_iff, List.forall₂_map_right_iff, List.forall₂_same]
    intro n hn
    exact writesSegment_keyName (hnames n hn).1 (hnames n hn).2
  refine ⟨⟨segment first, more.map segment⟩, SimplePath.parse_joinColons hall, ?_⟩
  simp [SimplePath.names, SimplePath.segments, segment, Function.comp_def]

/-- Names that can stand in a path are read back from their key, so a path that is read from its
key keeps its key, and paths share a key if they differ in nothing but raw markers. -/
theorem parse_pathKey_names :
    (∀ names : List Text, names ≠ [] → (∀ n ∈ names, isName n ∧ ¬ isPathKeyword n) →
      ∃ p, SimplePath.parse (pathKey names) = .ok p ∧ p.names = names) ∧
    ∀ t p, SimplePath.parse t = .ok p →
      (∃ q, SimplePath.parse (pathKey p.names) = .ok q ∧ q.names = p.names ∧
        pathKey q.names = pathKey p.names) ∧
      ∀ t' p', SimplePath.parse t' = .ok p' →
        (pathKey p.names = pathKey p'.names ↔ p.names = p'.names) := by
  refine ⟨fun names hne hnames => parse_pathKey hne hnames, fun t p hp => ⟨?_, ?_⟩⟩
  · obtain ⟨q, hq, hnames⟩ := parse_pathKey p.names_ne_nil (SimplePath.isName_of_parse hp)
    exact ⟨q, hq, hnames, congrArg pathKey hnames⟩
  · intro t' p' hp'
    exact ⟨pathKey_injective p.names_ne_nil p'.names_ne_nil (SimplePath.plain_of_parse hp)
      (SimplePath.plain_of_parse hp'), congrArg pathKey⟩

/-- A keyword that may be raw, one that is reserved, and a name. -/
def keywordNames : List Text := ["fn", "yield", "a"]

theorem parse_pathKey_names_keywords :
    keywordNames ≠ [] ∧ (∀ n ∈ keywordNames, isName n ∧ ¬ isPathKeyword n) ∧
      (∃ p, SimplePath.parse (pathKey keywordNames) = .ok p ∧ p.names = keywordNames) ∧
      pathKey keywordNames = "r#fn::r#yield::a" := by
  have hne : keywordNames ≠ [] := by decide
  have hnames : ∀ n ∈ keywordNames, isName n ∧ ¬ isPathKeyword n := by decide +kernel
  exact ⟨hne, hnames, parse_pathKey_names.1 keywordNames hne hnames, by decide +kernel⟩

end RustdocIndex
