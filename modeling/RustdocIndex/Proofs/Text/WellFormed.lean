import RustdocIndex.Proofs.Result
import RustdocIndex.Proofs.Text.Split
import RustdocIndex.Text.Quoted

/-! Texts without halves of surrogate pairs. -/
namespace RustdocIndex

theorem CodePoint.isSurrogate_ofChar (c : Char) : (CodePoint.ofChar c).isSurrogate = false := by
  have h : c.toNat < 0xD800 ∨ (0xDFFF < c.toNat ∧ c.toNat < 0x110000) := c.valid
  have hval : (CodePoint.ofChar c).val = c.toNat := rfl
  simp only [isSurrogate, isHighSurrogate, isLowSurrogate, hval, Bool.or_eq_false_iff,
    Bool.and_eq_false_iff, decide_eq_false_iff_not]
  omega

theorem CodePoint.toChar?_ofChar (c : Char) : (CodePoint.ofChar c).toChar? = some c :=
  dif_pos c.valid

/-- Only a surrogate is no character. -/
theorem CodePoint.exists_ofChar {c : CodePoint} (h : c.isSurrogate = false) :
    ∃ ch, c = .ofChar ch := by
  have hvalid : c.val.isValidChar := by
    have hlt := c.val_lt
    simp only [isSurrogate, isHighSurrogate, isLowSurrogate, Bool.or_eq_false_iff,
      Bool.and_eq_false_iff, decide_eq_false_iff_not] at h
    rw [Nat.isValidChar]
    omega
  exact ⟨Char.ofNatAux c.val hvalid, rfl⟩

namespace Text

variable {s t : Text} {parts : List Text}

theorem toString?_ofString (s : String) : (ofString s).toString? = some s := by
  have hchars : (ofString s).mapM CodePoint.toChar? = some s.toList := by
    rw [mapM_eq_some, ofString, ofChars, List.forall₂_map_left_iff, List.forall₂_same]
    exact fun c _ => CodePoint.toChar?_ofChar c
  rw [toString?, hchars, Option.map_some, String.ofList_toList]

/-- Texts of different strings differ. -/
theorem ofString_inj {s t : String} : ofString s = ofString t ↔ s = t := by
  refine ⟨fun h => Option.some.inj ?_, congrArg _⟩
  rw [← toString?_ofString s, h, toString?_ofString]

theorem ofString_append (s t : String) : ofString (s ++ t) = ofString s ++ ofString t := by
  simp [ofString, ofChars]

/-- No half of a surrogate pair stands in the text. -/
def IsWellFormed (t : Text) : Prop := ∀ c ∈ t, c.isSurrogate = false

instance (t : Text) : Decidable (IsWellFormed t) :=
  inferInstanceAs (Decidable (∀ c ∈ t, c.isSurrogate = false))

theorem isWellFormed_ofChars (s : List Char) : IsWellFormed (ofChars s) := by
  intro c hc
  obtain ⟨ch, -, rfl⟩ := List.mem_map.mp hc
  exact CodePoint.isSurrogate_ofChar ch

/-- A string has whole characters only. -/
theorem isWellFormed_ofString (s : String) : IsWellFormed (ofString s) := isWellFormed_ofChars _

/-- A text is well-formed if it is made of characters. -/
theorem isWellFormed_iff : IsWellFormed t ↔ ∃ s, t = ofChars s := by
  constructor
  · intro h
    induction t with
    | nil => exact ⟨[], rfl⟩
    | cons c t ih =>
      obtain ⟨ch, rfl⟩ := CodePoint.exists_ofChar (h c List.mem_cons_self)
      obtain ⟨s, rfl⟩ := ih fun c hc => h c (List.mem_cons_of_mem _ hc)
      exact ⟨ch :: s, rfl⟩
  · rintro ⟨s, rfl⟩
    exact isWellFormed_ofChars s

theorem any_isSurrogate_eq_false : t.any (·.isSurrogate) = false ↔ IsWellFormed t := by
  simp [IsWellFormed]

/-- Halves that meet where two texts are joined make up no pair. -/
theorem isWellFormed_append : IsWellFormed (s ++ t) ↔ IsWellFormed s ∧ IsWellFormed t :=
  List.forall_mem_append

theorem isWellFormed_cons {c : CodePoint} :
    IsWellFormed (c :: t) ↔ c.isSurrogate = false ∧ IsWellFormed t := List.forall_mem_cons

theorem isWellFormed_joinWith (hs : IsWellFormed s) :
    IsWellFormed (joinWith s parts) ↔ ∀ t ∈ parts, IsWellFormed t := by
  induction parts with
  | nil => simp [joinWith, IsWellFormed]
  | cons t parts ih =>
    cases parts with
    | nil => simp [joinWith]
    | cons u parts =>
      rw [joinWith_cons_cons, isWellFormed_append, isWellFormed_append, ih,
        List.forall_mem_cons (l := u :: parts)]
      tauto

theorem isWellFormed_replace (a b : Char) (h : IsWellFormed t) : IsWellFormed (t.replace a b) := by
  intro c hc
  obtain ⟨d, hd, rfl⟩ := List.mem_map.mp hc
  split
  · exact CodePoint.isSurrogate_ofChar b
  · exact h d hd

/-- The pieces of a well-formed text are well-formed. -/
theorem isWellFormed_splitColons :
    (∀ piece ∈ t.splitColons, IsWellFormed piece) ↔ IsWellFormed t := by
  have hcolons : IsWellFormed [colon, colon] := isWellFormed_ofChars [':', ':']
  rw [← isWellFormed_joinWith hcolons]
  exact iff_of_eq (congrArg _ (joinColons_splitColons t))

end Text

end RustdocIndex
