import Mathlib.Data.List.Basic
import RustdocIndex.Text.Split

/-! Joining and splitting at separators. At `::` they undo each other on pieces without colons. -/
namespace RustdocIndex

theorem after?_eq_some {α : Type} [DecidableEq α] {front s rest : List α} :
    after? front s = some rest ↔ s = front ++ rest := by
  induction front generalizing s with
  | nil => simp [after?]
  | cons c front ih =>
    cases s with
    | nil => simp [after?]
    | cons d s =>
      by_cases hc : c = d
      · simp [after?, hc, ih]
      · simp [after?, hc, Ne.symm hc]

theorem after?_eq_none {α : Type} [DecidableEq α] {front s : List α} :
    after? front s = none ↔ ∀ rest, s ≠ front ++ rest := by
  rw [Option.eq_none_iff_forall_ne_some]
  exact forall_congr' fun rest => not_congr after?_eq_some

/-- What follows the last occurrence of a character has none of it. -/
theorem afterLastOr_eq_some {α : Type} [DecidableEq α] {c : α} {best : Option (List α)}
    {s rest : List α} : afterLastOr [c] best s = some rest ↔
      (∃ front, s = front ++ c :: rest ∧ c ∉ rest) ∨ (c ∉ s ∧ best = some rest) := by
  induction s generalizing best with
  | nil => simp [afterLastOr, after?]
  | cons d s ih =>
    have hcons : (∃ front, d :: s = front ++ c :: rest) ↔
        (d = c ∧ s = rest) ∨ ∃ front, s = front ++ c :: rest := by
      constructor
      · rintro ⟨_ | ⟨_, front⟩, h⟩
        · cases h
          exact .inl ⟨rfl, rfl⟩
        · cases h
          exact .inr ⟨front, rfl⟩
      · rintro (⟨rfl, rfl⟩ | ⟨front, rfl⟩)
        · exact ⟨[], rfl⟩
        · exact ⟨d :: front, rfl⟩
    rw [afterLastOr, ih]
    simp only [exists_and_right, hcons]
    by_cases hd : c = d
    · subst hd
      by_cases hs : s = rest
      · subst hs
        simp [after?]
      · simp [after?, hs]
    · simp [after?, hd, Ne.symm hd]

theorem afterLastOr_eq_or {α : Type} [DecidableEq α] (part : List α) (best : Option (List α))
    (s : List α) : afterLastOr part best s = (afterLast? part s).or best := by
  have hor : ∀ best best', afterLastOr part (best.or best') s =
      (afterLastOr part best s).or best' := by
    induction s with
    | nil => simp [afterLastOr, Option.or_assoc]
    | cons d s ih => simp [afterLastOr, ← Option.or_assoc, ih]
  exact hor none best

theorem joinWith_cons_cons {α : Type} (sep s t : List α) (more : List (List α)) :
    joinWith sep (s :: t :: more) = s ++ sep ++ joinWith sep (t :: more) := rfl

theorem joinWith_concat {α : Type} (sep last : List α) {parts : List (List α)} (h : parts ≠ []) :
    joinWith sep (parts ++ [last]) = joinWith sep parts ++ sep ++ last := by
  induction parts with
  | nil => exact absurd rfl h
  | cons part more ih =>
    cases more with
    | nil => rfl
    | cons next more =>
      have ih := ih (by simp)
      rw [List.cons_append] at ih
      rw [List.cons_append, List.cons_append, joinWith_cons_cons, ih, joinWith_cons_cons]
      simp only [List.append_assoc]

theorem flatten_intersperse {α : Type} (sep : List α) (parts : List (List α)) :
    (parts.intersperse sep).flatten = joinWith sep parts := by
  induction parts with
  | nil => rfl
  | cons part parts ih =>
    cases parts with
    | nil => simp [joinWith]
    | cons next parts =>
      rw [List.intersperse_cons_cons, joinWith_cons_cons, ← ih]
      simp

theorem joinWith_modifyHead {α : Type} (sep : List α) (d : α) {parts : List (List α)}
    (h : parts ≠ []) : joinWith sep (parts.modifyHead (d :: ·)) = d :: joinWith sep parts := by
  obtain ⟨part, more, rfl⟩ := List.exists_cons_of_ne_nil h
  cases more with
  | nil => rfl
  | cons next more => simp [joinWith_cons_cons]

section

variable {α : Type} [DecidableEq α] (c : α) (s : List α)

theorem splitAt_ne_nil : splitAt c s ≠ [] := by
  induction s with
  | nil => simp [splitAt]
  | cons d s ih =>
    rw [splitAt]
    split
    · simp
    · simpa using ih

/-- The pieces between separators give the text back. -/
theorem joinWith_splitAt : joinWith [c] (splitAt c s) = s := by
  induction s with
  | nil => rfl
  | cons d s ih =>
    rw [splitAt]
    split
    · next hd =>
      obtain ⟨piece, more, hs⟩ := List.exists_cons_of_ne_nil (splitAt_ne_nil c s)
      rw [hs, joinWith_cons_cons, ← hs, ih, hd]
      rfl
    · rw [joinWith_modifyHead _ _ (splitAt_ne_nil c s), ih]

theorem splitAt_of_notMem {c : α} {s : List α} (h : c ∉ s) : splitAt c s = [s] := by
  induction s with
  | nil => rfl
  | cons d s ih =>
    rw [List.mem_cons, not_or] at h
    rw [splitAt, if_neg (Ne.symm h.1), ih h.2]
    rfl

theorem splitAt_append {c : α} {s : List α} (h : c ∉ s) (t : List α) :
    splitAt c (s ++ c :: t) = s :: splitAt c t := by
  induction s with
  | nil => exact if_pos rfl
  | cons d s ih =>
    rw [List.mem_cons, not_or] at h
    rw [List.cons_append, splitAt, if_neg (Ne.symm h.1), ih h.2]
    rfl

omit [DecidableEq α] in
theorem eq_or_mem_of_mem_joinWith {c d : α} {parts : List (List α)} (h : d ∈ joinWith [c] parts) :
    d = c ∨ ∃ piece ∈ parts, d ∈ piece := by
  induction parts with
  | nil => cases h
  | cons piece more ih =>
    cases more with
    | nil => exact .inr ⟨piece, by simp, h⟩
    | cons next more =>
      rw [joinWith_cons_cons, List.append_assoc] at h
      rcases List.mem_append.mp h with hd | hd
      · exact .inr ⟨piece, by simp, hd⟩
      · rcases List.mem_cons.mp hd with rfl | hd
        · exact .inl rfl
        · exact (ih hd).imp_right fun ⟨q, hq, hd⟩ => ⟨q, List.mem_cons_of_mem _ hq, hd⟩

/-- Pieces without the separator are found again. -/
theorem splitAt_joinWith {c : α} {parts : List (List α)} (hne : parts ≠ [])
    (h : ∀ piece ∈ parts, c ∉ piece) : splitAt c (joinWith [c] parts) = parts := by
  induction parts with
  | nil => exact absurd rfl hne
  | cons piece more ih =>
    have hpiece : c ∉ piece := h piece (by simp)
    cases more with
    | nil => exact splitAt_of_notMem hpiece
    | cons next more =>
      have ih := ih (by simp) fun q hq => h q (List.mem_cons_of_mem _ hq)
      rw [joinWith_cons_cons, List.append_assoc, List.singleton_append, splitAt_append hpiece, ih]

/-- A cut loses nothing but the mark. -/
theorem cutAt_append : (cutAt c s).1 ++ ((cutAt c s).2.map (c :: ·)).getD [] = s := by
  induction s with
  | nil => rfl
  | cons d s ih =>
    rw [cutAt]
    split
    · next hd =>
      rw [hd]
      rfl
    · simpa using ih

theorem cutAt_of_notMem {c : α} {s : List α} (h : c ∉ s) : cutAt c s = (s, none) := by
  induction s with
  | nil => rfl
  | cons d s ih =>
    rw [List.mem_cons, not_or] at h
    rw [cutAt, if_neg (Ne.symm h.1), ih h.2]

end

namespace Text

/-- A separator stands in front of a text or inside the rest of it. -/
theorem separator_infix_cons {c : CodePoint} {s : Text} :
    [colon, colon] <:+: c :: s ↔ (c = colon ∧ s.head? = some colon) ∨ [colon, colon] <:+: s := by
  rw [List.infix_cons_iff]
  apply or_congr_left
  cases s with
  | nil => simp
  | cons d s => simp [eq_comm]

/-- The cutting of a text at `::`, from the left and without overlap: no separator begins in a
piece, so the one behind a piece is the first. -/
inductive CutsTo : Text → List Text → Prop
  | last {piece : Text} (h : ¬ [colon, colon] <:+: piece) : CutsTo piece [piece]
  | cons {piece s : Text} {pieces : List Text} (h : ¬ [colon, colon] <:+: piece ++ [colon])
      (hs : CutsTo s pieces) : CutsTo (piece ++ colon :: colon :: s) (piece :: pieces)

/-- A code point in front of a text belongs to the first piece, unless a separator begins there. -/
theorem CutsTo.cons_head {c : CodePoint} {s : Text} {pieces : List Text} (h : CutsTo s pieces)
    (hc : ¬ (c = colon ∧ s.head? = some colon)) :
    CutsTo (c :: s) (pieces.modifyHead (c :: ·)) := by
  cases h with
  | last hlast =>
    apply CutsTo.last
    rw [separator_infix_cons]
    exact not_or_intro hc hlast
  | @cons piece s pieces hpiece hs =>
    refine @CutsTo.cons (c :: piece) s pieces ?_ hs
    rw [List.cons_append, separator_infix_cons]
    refine not_or_intro ?_ hpiece
    cases piece <;> simpa using hc

theorem cutsTo_splitColons (s : Text) : CutsTo s (splitColons s) := by
  fun_induction splitColons s with
  | case1 => exact .last (by simp)
  | case2 c => exact .last (by simp [separator_infix_cons])
  | case3 c d s h ih =>
    obtain ⟨rfl, rfl⟩ := h
    exact @CutsTo.cons [] s _ (by simp [separator_infix_cons]) ih
  | case4 c d s h ih => exact ih.cons_head (by simpa using h)

theorem splitColons_cons {c : CodePoint} {s : Text} (hs : s ≠ [])
    (h : ¬ (c = colon ∧ s.head? = some colon)) :
    splitColons (c :: s) = (splitColons s).modifyHead (c :: ·) := by
  obtain ⟨d, rest, rfl⟩ := List.exists_cons_of_ne_nil hs
  rw [splitColons, if_neg (by simpa using h)]

theorem splitColons_separator (s : Text) :
    splitColons (colon :: colon :: s) = [] :: splitColons s := by
  simp [splitColons]

theorem splitColons_append_separator {piece : Text} (h : ¬ [colon, colon] <:+: piece ++ [colon])
    (s : Text) : splitColons (piece ++ colon :: colon :: s) = piece :: splitColons s := by
  induction piece with
  | nil => exact splitColons_separator s
  | cons c piece ih =>
    rw [List.cons_append, separator_infix_cons, not_or] at h
    rw [List.cons_append, splitColons_cons (by simp), ih h.2]
    · rfl
    · cases piece <;> simpa using h.1

theorem splitColons_of_notInfix {piece : Text} (h : ¬ [colon, colon] <:+: piece) :
    splitColons piece = [piece] := by
  induction piece with
  | nil => rfl
  | cons c piece ih =>
    rw [separator_infix_cons, not_or] at h
    cases piece with
    | nil => rfl
    | cons d piece =>
      rw [splitColons_cons (by simp) h.1, ih h.2]
      rfl

/-- There is one way to cut a text. -/
theorem splitColons_eq_iff {s : Text} {pieces : List Text} :
    splitColons s = pieces ↔ CutsTo s pieces := by
  constructor
  · rintro rfl
    exact cutsTo_splitColons s
  · intro h
    induction h with
    | last h => exact splitColons_of_notInfix h
    | cons h _ ih => rw [splitColons_append_separator h, ih]

/-- Behind a piece without colons, a separator begins with its first colon. -/
theorem notInfix_of_notMem {piece : Text} (h : colon ∉ piece) :
    ¬ [colon, colon] <:+: piece ++ [colon] := by
  intro hi
  have hcount := hi.sublist.count_le colon
  simp [List.count_eq_zero_of_not_mem h] at hcount

theorem splitColons_joinColons {parts : List Text} (hne : parts ≠ [])
    (h : ∀ piece ∈ parts, colon ∉ piece) : splitColons (joinColons parts) = parts := by
  induction parts with
  | nil => exact absurd rfl hne
  | cons piece more ih =>
    have hp : colon ∉ piece := h piece (by simp)
    cases more with
    | nil => exact splitColons_of_notInfix fun hi => hp (hi.mem (by simp))
    | cons next more =>
      have ih := ih (by simp) fun q hq => h q (List.mem_cons_of_mem _ hq)
      rw [joinColons, joinWith_cons_cons, List.append_assoc]
      exact (splitColons_append_separator (notInfix_of_notMem hp) _).trans
        (congrArg (piece :: ·) ih)

theorem splitColons_ne_nil (s : Text) : splitColons s ≠ [] := by
  fun_induction splitColons s with
  | case1 | case2 | case3 => simp
  | case4 c d s h ih => simpa [List.modifyHead_eq_nil_iff] using ih

theorem joinColons_splitColons (s : Text) : joinColons (splitColons s) = s := by
  fun_induction splitColons s with
  | case1 | case2 => rfl
  | case3 c d s h ih =>
    obtain ⟨piece, more, hs⟩ := List.exists_cons_of_ne_nil (splitColons_ne_nil s)
    rw [hs] at ih ⊢
    rw [joinColons, joinWith_cons_cons, h.1, h.2]
    exact congrArg ([colon, colon] ++ ·) ih
  | case4 c d s h ih =>
    rw [joinColons, joinWith_modifyHead _ _ (splitColons_ne_nil _)]
    exact congrArg (c :: ·) ih

theorem joinColons_injective {parts others : List Text} (hp : parts ≠ []) (ho : others ≠ [])
    (hparts : ∀ piece ∈ parts, colon ∉ piece) (hothers : ∀ piece ∈ others, colon ∉ piece)
    (h : joinColons parts = joinColons others) : parts = others := by
  rw [← splitColons_joinColons hp hparts, h, splitColons_joinColons ho hothers]

end Text

end RustdocIndex
