import Mathlib.Algebra.Group.Even
import Mathlib.Algebra.Ring.Parity
import RustdocIndex.Proofs.Payload.Footer
import RustdocIndex.Proofs.Text.Ascii
import RustdocIndex.Proofs.Text.Split

/-! Single-quoted strings: what they stand for, where they close and where the one of a payload
opens. -/
namespace RustdocIndex.Payload

/-- The letters and the digit that stand for a character behind a backslash. -/
def shortEscapes : List (Char × Char) :=
  [('n', '\n'), ('r', '\r'), ('t', '\t'), ('b', '\x08'), ('f', '\x0c'), ('v', '\x0b'),
    ('0', '\x00')]

/-- A way to write a text between single quotes: each character as it is, behind a backslash or by
its short escape, with line breaks behind backslashes anywhere in between. -/
inductive Renders : List Char → List Char → Prop
  | nil : Renders [] []
  | continuation {s b} (h : Renders s b) : Renders s ('\\' :: '\n' :: b)
  | plain {c s b} (hc : c ≠ '\'' ∧ c ≠ '\\') (h : Renders s b) : Renders (c :: s) (c :: b)
  | escaped {c s b} (hc : c ∉ '\n' :: shortEscapes.map (·.1)) (h : Renders s b) :
      Renders (c :: s) ('\\' :: c :: b)
  | short {e c s b} (he : (e, c) ∈ shortEscapes) (h : Renders s b) :
      Renders (c :: s) ('\\' :: e :: b)

variable {s b body text front o before seen : List Char} {c : Char}

theorem unescape_of_notMem (h : c ∉ '\n' :: shortEscapes.map (·.1)) : unescape c = [c] := by
  simp only [shortEscapes, List.map_cons, List.map_nil, List.mem_cons, List.not_mem_nil, or_false,
    not_or] at h
  simp only [unescape, h, if_false]

theorem unescape_short {e : Char} (h : (e, c) ∈ shortEscapes) : unescape e = [c] := by
  simp only [shortEscapes, List.mem_cons, Prod.mk.injEq, List.not_mem_nil, or_false] at h
  rcases h with ⟨rfl, rfl⟩ | ⟨rfl, rfl⟩ | ⟨rfl, rfl⟩ | ⟨rfl, rfl⟩ | ⟨rfl, rfl⟩ | ⟨rfl, rfl⟩ |
    ⟨rfl, rfl⟩ <;> rfl

/-- A rendering is read back up to the closing quote. -/
theorem unquote?_of_renders (h : Renders s b) (seen more : List Char) :
    unquote? seen (b ++ '\'' :: more) = some (seen.reverse ++ s) := by
  induction h generalizing seen with
  | nil => simpa using unquote?_close seen more
  | continuation _ ih =>
    rw [List.cons_append, List.cons_append, unquote?_escaped, ih]
    rfl
  | plain hc _ ih =>
    rw [List.cons_append, unquote?_plain hc.1 hc.2, ih]
    simp
  | escaped hc _ ih =>
    rw [List.cons_append, List.cons_append, unquote?_escaped, ih, unescape_of_notMem hc]
    simp
  | short he _ ih =>
    rw [List.cons_append, List.cons_append, unquote?_escaped, ih, unescape_short he]
    simp

/-- Every escape is written in one of the ways. -/
theorem renders_escape (e : Char) (h : Renders s b) : Renders (unescape e ++ s) ('\\' :: e :: b) := by
  by_cases hn : e = '\n'
  · subst hn
    exact .continuation h
  · by_cases he : e ∈ shortEscapes.map (·.1)
    · obtain ⟨⟨_, c⟩, hm, rfl⟩ := List.mem_map.mp he
      rw [unescape_short hm]
      exact .short hm h
    · have hc : e ∉ '\n' :: shortEscapes.map (·.1) := by simp [hn, he]
      rw [unescape_of_notMem hc]
      exact .escaped hc h

/-- What is read is rendered up to a closing quote. -/
theorem unquote?_eq_some : unquote? seen body = some text ↔
    ∃ s b tail, body = b ++ '\'' :: tail ∧ Renders s b ∧ text = seen.reverse ++ s := by
  constructor
  · intro h
    fun_induction unquote? seen body generalizing text with
    | case1 => cases h
    | case2 seen s =>
      cases h
      exact ⟨[], [], s, rfl, .nil, by simp⟩
    | case3 => cases h
    | case4 seen e s hq ih =>
      obtain ⟨s, b, tail, rfl, hr, rfl⟩ := ih h
      exact ⟨unescape e ++ s, _, tail, rfl, renders_escape e hr, by simp⟩
    | case5 seen c s hq hb ih =>
      obtain ⟨s, b, tail, rfl, hr, rfl⟩ := ih h
      exact ⟨c :: s, _, tail, rfl, .plain ⟨hq, hb⟩ hr, by simp⟩
  · rintro ⟨s, b, tail, rfl, hr, rfl⟩
    exact unquote?_of_renders hr seen tail

/-- How many backslashes a text ends with. -/
def lastBackslashes (s : List Char) : Nat := (s.reverse.takeWhile (· == '\\')).length

@[simp]
theorem lastBackslashes_concat (s : List Char) (c : Char) :
    lastBackslashes (s ++ [c]) = if c = '\\' then lastBackslashes s + 1 else 0 := by
  simp only [lastBackslashes, List.reverse_append, List.reverse_singleton, List.singleton_append,
    List.takeWhile_cons, beq_iff_eq]
  split <;> rfl

/-- Behind an escape the backslashes in front are even in number again. -/
theorem even_lastBackslashes_escape (h : Even (lastBackslashes before)) (e : Char) :
    Even (lastBackslashes (before ++ ['\\', e])) := by
  have hsplit : before ++ ['\\', e] = before ++ ['\\'] ++ [e] := by simp
  rw [hsplit, lastBackslashes_concat]
  split
  · rw [lastBackslashes_concat, if_pos rfl]
    exact h.add_one.add_one
  · exact Even.zero

/-- Each quote of a text stands behind an odd number of backslashes. -/
def IsUnclosed (body : List Char) : Prop :=
  ∀ front after, body = front ++ '\'' :: after → Odd (lastBackslashes front)

/-- The induction is on what is left to read. In front of it stands `before`, whose backslashes all
belong to escapes. -/
theorem unquote?_eq_none_from (hb : Even (lastBackslashes before)) : unquote? seen body = none ↔
    ∀ front after, body = front ++ '\'' :: after → Odd (lastBackslashes (before ++ front)) := by
  fun_induction unquote? seen body generalizing before with
  | case1 => simp
  | case2 seen s =>
    constructor
    · intro h
      cases h
    · intro h
      have hodd := h [] s rfl
      rw [List.append_nil] at hodd
      exact absurd hb (Nat.not_even_iff_odd.mpr hodd)
  | case3 seen =>
    refine ⟨fun _ front after h => ?_, fun _ => rfl⟩
    rcases front with _ | ⟨d, front⟩
    · cases h
    · cases front <;> cases h
  | case4 seen e s hq ih =>
    rw [ih (even_lastBackslashes_escape hb e)]
    constructor
    · intro h front after hs
      rcases front with _ | ⟨d, _ | ⟨d', front⟩⟩
      · cases hs
      · cases hs
        rw [lastBackslashes_concat, if_pos rfl]
        exact hb.add_one
      · cases hs
        simpa using h front after rfl
    · intro h front after hs
      simpa using h ('\\' :: e :: front) after (by rw [hs]; rfl)
  | case5 seen c s hq hs ih =>
    have hplain : Even (lastBackslashes (before ++ [c])) := by
      rw [lastBackslashes_concat, if_neg hs]
      exact Even.zero
    rw [ih hplain]
    constructor
    · intro h front after heq
      rcases front with _ | ⟨d, front⟩
      · cases heq
        exact absurd rfl hq
      · cases heq
        simpa using h front after rfl
    · intro h front after heq
      simpa using h (c :: front) after (by rw [heq]; rfl)

theorem unquote?_eq_none (seen : List Char) : unquote? seen body = none ↔ IsUnclosed body := by
  have hstart : Even (lastBackslashes []) := Even.zero
  exact unquote?_eq_none_from hstart

/-- What follows an opening quote is a rendering up to a closing quote, or it is not closed. -/
theorem renders_or_isUnclosed (body : List Char) :
    (∃ s b tail, body = b ++ '\'' :: tail ∧ Renders s b) ∨ IsUnclosed body := by
  cases h : unquote? [] body with
  | none => exact .inr ((unquote?_eq_none []).mp h)
  | some text =>
    obtain ⟨s, b, tail, hb, hr, -⟩ := unquote?_eq_some.mp h
    exact .inl ⟨s, b, tail, hb, hr⟩

/-- A text that opens a document. -/
def IsOpening (o : List Char) : Prop :=
  ∃ w, o = "JSON.parse(".toList ++ (w ++ ['\'']) ∧ ∀ c ∈ w, isBlank c

theorem afterOpening?_eq_some : afterOpening? text = some body ↔
    ∃ o, IsOpening o ∧ text = o ++ body := by
  constructor
  · intro h
    obtain ⟨t, ht, h⟩ := Option.bind_eq_some_iff.mp h
    have hsplit : t.takeWhile isBlank ++ t.dropWhile isBlank = t := List.takeWhile_append_dropWhile
    split at h
    · next heq =>
      cases h
      rw [heq] at hsplit
      refine ⟨_, ⟨t.takeWhile isBlank, rfl, fun c hc => List.mem_takeWhile_imp hc⟩, ?_⟩
      rw [after?_eq_some.mp ht, List.append_assoc, List.append_assoc, List.singleton_append, hsplit]
    · cases h
  · rintro ⟨_, ⟨w, rfl, hw⟩, rfl⟩
    have hdrop : (w ++ ['\''] ++ body).dropWhile isBlank = '\'' :: body := by
      rw [List.append_assoc, List.dropWhile_append_of_pos hw]
      rfl
    have hafter : after? "JSON.parse(".toList ("JSON.parse(".toList ++ (w ++ ['\'']) ++ body) =
        some (w ++ ['\''] ++ body) := after?_eq_some.mpr (List.append_assoc ..)
    simp only [afterOpening?, hafter, bind, Option.bind, hdrop]

/-- A text opens a document behind `front`, and nowhere before. -/
structure OpensAt (text front o body : List Char) : Prop where
  opening : IsOpening o
  text_eq : text = front ++ (o ++ body)
  first {a o' b : List Char} : IsOpening o' → text = a ++ (o' ++ b) → front.length ≤ a.length

theorem OpensAt.findOpening? (h : OpensAt text front o body) : findOpening? text = some body := by
  obtain ⟨ho, rfl, hfirst⟩ := h
  have hhere : afterOpening? (o ++ body) = some body := afterOpening?_eq_some.mpr ⟨o, ho, rfl⟩
  obtain ⟨c, t, hct⟩ : ∃ c t, o ++ body = c :: t := by
    obtain ⟨w, rfl, -⟩ := ho
    exact ⟨_, _, rfl⟩
  induction front with
  | nil =>
    rw [List.nil_append, hct, Payload.findOpening?, ← hct, hhere]
    rfl
  | cons d front ih =>
    have hnone : afterOpening? (d :: front ++ (o ++ body)) = none := by
      by_contra hsome
      obtain ⟨b, hb⟩ := Option.ne_none_iff_exists'.mp hsome
      obtain ⟨o', ho', heq⟩ := afterOpening?_eq_some.mp hb
      have := hfirst (a := []) ho' heq
      simp at this
    rw [List.cons_append, Payload.findOpening?, ← List.cons_append, hnone]
    refine ih fun {a o' b} ho' heq => ?_
    have := hfirst (a := d :: a) ho' (by rw [List.cons_append, heq]; rfl)
    exact Nat.le_of_succ_le_succ this

end RustdocIndex.Payload
