import Mathlib.Data.List.DropRight
import Mathlib.Tactic.IntervalCases
import RustdocIndex.Proofs.Text.WellFormed
import RustdocIndex.Version.Basic

/-! The text of a version is read as that version. -/
namespace RustdocIndex

theorem ofDigits_concat (ds : List Nat) (d : Nat) : ofDigits (ds ++ [d]) = 10 * ofDigits ds + d := by
  simp [ofDigits]

/-- Digits of a number that do not begin with a needless zero are its decimal digits. -/
theorem decimalDigits_ofDigits {ds : List Nat} (hd : ∀ d ∈ ds, d < 10) (hne : ds ≠ [])
    (hz : ds.length = 1 ∨ ds.head? ≠ some 0) :
    decimalDigits (ofDigits ds) = ds ∧ (ds.head? ≠ some 0 → 0 < ofDigits ds) := by
  induction ds using List.reverseRecOn with
  | nil => exact absurd rfl hne
  | append_singleton ds d ih =>
    have hlast : d < 10 := hd d (by simp)
    cases ds with
    | nil =>
      have hone : ofDigits [d] = d := by simp [ofDigits]
      rw [List.nil_append, hone, decimalDigits, if_pos hlast]
      simp [Nat.pos_iff_ne_zero]
    | cons c ds =>
      have hc : c ≠ 0 := by simpa using hz
      have hhead : (c :: ds).head? ≠ some 0 := by simpa using hc
      obtain ⟨hdigits, hpos⟩ := ih (fun e he => hd e (List.mem_append_left _ he)) (by simp)
        (.inr hhead)
      have hpos := hpos hhead
      rw [ofDigits_concat, decimalDigits, if_neg (by omega)]
      have hdiv : (10 * ofDigits (c :: ds) + d) / 10 = ofDigits (c :: ds) := by omega
      have hmod : (10 * ofDigits (c :: ds) + d) % 10 = d := by omega
      rw [hdiv, hmod, hdigits]
      exact ⟨rfl, fun _ => by omega⟩

theorem toNat_of_isDigit {c : Char} (h : c.isDigit) : 48 ≤ c.toNat ∧ c.toNat ≤ 57 := by
  simpa [Char.isDigit, UInt32.le_iff_toNat_le] using h

theorem digitChar_of_isDigit {c : Char} (h : c.isDigit) : Nat.digitChar (c.toNat - 48) = c := by
  obtain ⟨hlow, hhigh⟩ := toNat_of_isDigit h
  have hc : c = Char.ofNat c.toNat := (Char.ofNat_toNat c).symm
  generalize c.toNat = n at hc hlow hhigh
  subst hc
  interval_cases n <;> rfl

theorem dropWhile_eq_self {α : Type} {p : α → Bool} {s : List α} (h : ∀ c ∈ s.head?, p c = false) :
    s.dropWhile p = s := by
  cases s with
  | nil => rfl
  | cons c s => simp [h c rfl]

theorem trimBy_trimBy (p : Char → Bool) (s : List Char) :
    trimBy p (trimBy p s) = trimBy p s := by
  have hfront : (trimBy p s).dropWhile p = trimBy p s := by
    refine dropWhile_eq_self fun c hc => ?_
    obtain ⟨t, ht⟩ : trimBy p s <+: s.dropWhile p := List.rdropWhile_prefix p _
    have hhead := List.head?_dropWhile_not p s
    rw [← ht, List.head?_append, Option.mem_def.mp hc] at hhead
    simpa using hhead
  rw [trimBy, hfront]
  exact List.rdropWhile_idempotent p _

/-- What stands between two ends of a class, and neither begins nor ends with it, is left. -/
theorem trimBy_between {p : Char → Bool} {front s back : List Char} (hs : s ≠ [])
    (hfront : ∀ c ∈ front, p c) (hback : ∀ c ∈ back, p c) (hhead : ∀ c ∈ s.head?, p c = false)
    (hlast : ∀ c ∈ s.getLast?, p c = false) : trimBy p (front ++ (s ++ back)) = s := by
  have hdrop : (front ++ (s ++ back)).dropWhile p = s ++ back := by
    rw [List.dropWhile_append_of_pos hfront]
    refine dropWhile_eq_self fun c hc => hhead c ?_
    rwa [List.head?_append_of_ne_nil _ hs] at hc
  have hreverse : ∀ c ∈ back.reverse, p c := fun c hc => hback c (List.mem_reverse.mp hc)
  rw [trimBy, hdrop, trimEndBy, List.reverse_append, List.dropWhile_append_of_pos hreverse,
    dropWhile_eq_self, List.reverse_reverse]
  intro c hc
  rw [List.head?_reverse] at hc
  exact hlast c hc

namespace SemanticVersion

theorem natChars_number {s : List Char} {n : Nat} (h : number? s = some n) : natChars n = s := by
  unfold number? at h
  split at h
  · next hs =>
    cases h
    simp only [isPlainNumber, Bool.and_eq_true, List.all_eq_true, Bool.not_eq_true',
      List.isEmpty_eq_false_iff, Bool.or_eq_true, beq_iff_eq, bne_iff_ne, ne_eq] at hs
    obtain ⟨⟨⟨hall, hne⟩, hzero⟩, -⟩ := hs
    have hlt : ∀ d ∈ s.map (·.toNat - 48), d < 10 := by
      intro d hd
      obtain ⟨c, hc, rfl⟩ := List.mem_map.mp hd
      have := toNat_of_isDigit (hall c hc)
      omega
    have hfirst : (s.map (·.toNat - 48)).length = 1 ∨ (s.map (·.toNat - 48)).head? ≠ some 0 := by
      refine hzero.imp (by simp) fun hz hd => hz ?_
      cases s with
      | nil => exact absurd rfl hne
      | cons c s =>
        have hc := toNat_of_isDigit (hall c (by simp))
        simp only [List.map_cons, List.head?_cons, Option.some.injEq] at hd ⊢
        rw [← Char.ofNat_toNat c, show c.toNat = 48 by omega]
    rw [natChars, (decimalDigits_ofDigits hlt (by simpa using hne) hfirst).1, List.map_map]
    refine (List.map_congr_left fun c hc => ?_).trans (List.map_id s)
    exact digitChar_of_isDigit (hall c hc)
  · cases h

theorem identifierChars_of_identifiers? {valid : List Char → Bool} {s : Option (List Char)}
    {ids : List (List Char)} (sign : Char) (h : identifiers? valid s = some ids) :
    identifierChars sign ids = (s.map (sign :: ·)).getD [] := by
  cases s with
  | none =>
    cases h
    rfl
  | some s =>
    simp only [identifiers?] at h
    split at h
    · cases h
      obtain ⟨id, more, hs⟩ := List.exists_cons_of_ne_nil (splitAt_ne_nil '.' s)
      rw [hs, identifierChars, ← hs, joinWith_splitAt]
      · rfl
      · simp
    · cases h

theorem isDigit_of_number? {s : List Char} {n : Nat} (h : number? s = some n) :
    ∀ c ∈ s, c.isDigit := by
  unfold number? at h
  split at h
  · next hs =>
    intro c hc
    simp only [isPlainNumber, Bool.and_eq_true, List.all_eq_true] at hs
    exact hs.1.1.1 c hc
  · cases h

theorem valid_of_identifiers? {valid : List Char → Bool} {s : Option (List Char)}
    {ids : List (List Char)} (h : identifiers? valid s = some ids) : ∀ id ∈ ids, valid id := by
  cases s with
  | none =>
    cases h
    simp
  | some s =>
    simp only [identifiers?] at h
    split at h
    · next hids =>
      cases h
      exact List.all_eq_true.mp hids
    · cases h

theorem parse?_eq_some {s : List Char} {v : SemanticVersion} (h : parse? s = some v) :
    ∃ a b c, joinWith ['.'] [a, b, c] = (cutAt '-' (cutAt '+' s).1).1 ∧
      number? a = some v.major ∧ number? b = some v.minor ∧ number? c = some v.patch ∧
      identifiers? isPrereleaseIdentifier (cutAt '-' (cutAt '+' s).1).2 = some v.prerelease ∧
      identifiers? isBuildIdentifier (cutAt '+' s).2 = some v.build := by
  simp only [parse?] at h
  split at h
  · next core a b c hcore =>
    simp only [Option.bind_eq_bind, Option.bind_eq_some_iff, Option.pure_def,
      Option.some.injEq] at h
    obtain ⟨major, ha, minor, hb, patch, hc, prerelease, hp, build, hbuild, rfl⟩ := h
    exact ⟨a, b, c, by rw [← hcore, joinWith_splitAt], ha, hb, hc, hp, hbuild⟩
  · cases h

/-- A semantic version is written as it was read. -/
theorem chars_of_parse? {s : List Char} {v : SemanticVersion} (h : parse? s = some v) :
    v.chars = s := by
  obtain ⟨a, b, c, hnumbers, ha, hb, hc, hp, hbuild⟩ := parse?_eq_some h
  simp only [chars, natChars_number ha, natChars_number hb, natChars_number hc,
    identifierChars_of_identifiers? _ hp, identifierChars_of_identifiers? _ hbuild, hnumbers,
    cutAt_append]

end SemanticVersion

namespace Version

variable {s : String} {v : Version}

theorem parse_name (c : Channel) : parse c.name = .ok (channel c) := by
  cases c <;> rfl

theorem parse?_of_parse_semantic {v : SemanticVersion} (h : parse s = .ok (semantic v)) :
    SemanticVersion.parse? (trimBlank s.toList) = some v := by
  simp only [parse] at h
  split at h
  · cases h
  · split at h
    · cases h
    · next hv =>
      cases h
      exact hv
    · cases h

theorem toList_text_semantic {v : SemanticVersion} (h : parse s = .ok (semantic v)) :
    (semantic v).text.toList = trimBlank s.toList := by
  rw [text, String.toList_ofList, SemanticVersion.chars_of_parse? (parse?_of_parse_semantic h)]

/-- White space around a version does not matter. -/
theorem parse_congr {t : String} (h : trimBlank s.toList = trimBlank t.toList) :
    parse s = parse t := by
  simp only [parse, h]

/-- A version is read from its own text again. -/
theorem parse_text (h : parse s = .ok v) : parse v.text = .ok v := by
  cases v with
  | latest => rfl
  | channel c => exact parse_name c
  | semantic v =>
    rw [← h]
    apply parse_congr
    rw [toList_text_semantic h]
    exact trimBy_trimBy isBlank _

theorem parseText_ofString (s : String) : parseText (Text.ofString s) = parse s := by
  rw [parseText, Text.toString?_ofString]

theorem parseOption_ofString (s : String) : parseOption (some (Text.ofString s)) = parse s :=
  parseText_ofString s

/-- Only a text of characters is a version. -/
theorem parseText_eq_ok {t : Text} :
    parseText t = .ok v ↔ ∃ s, t.toString? = some s ∧ parse s = .ok v := by
  rw [parseText]
  cases t.toString? <;> simp

theorem parseOption_text {requested : Option Text} (h : parseOption requested = .ok v) :
    parse v.text = .ok v := by
  cases requested with
  | none =>
    cases h
    rfl
  | some t =>
    obtain ⟨s, -, hs⟩ := parseText_eq_ok.mp h
    exact parse_text hs

end Version

end RustdocIndex
