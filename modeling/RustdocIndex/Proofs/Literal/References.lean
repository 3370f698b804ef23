import RustdocIndex.Proofs.Literal.Drawn
import RustdocIndex.Proofs.Literal.Locality
import RustdocIndex.Proofs.Literal.PlainText
import RustdocIndex.Proofs.Literal.Rendering
import RustdocIndex.Proofs.Text.WellFormed

/-! A program reads back whatever way a value is written in. -/
namespace RustdocIndex

theorem CodePoint.isHighSurrogate_of_isLow {c : CodePoint} (h : c.isHighSurrogate = true) :
    c.isLowSurrogate = false := by
  simp only [isHighSurrogate, Bool.and_eq_true, decide_eq_true_eq] at h
  simp only [isLowSurrogate, Bool.and_eq_false_iff, decide_eq_false_iff_not]
  omega

theorem Text.push_of_not_isLow {c : CodePoint} (h : c.isLowSurrogate = false) (seen : Text) :
    seen.push c = c :: seen := by
  cases seen with
  | nil => rfl
  | cons d seen => simp [push, h]

namespace Literal

variable {env : Fields String Json} {vars : Variables} {budget depth n : Nat} {store : Store}
  {s t rest : List Char} {x : Json} {c mark : Char} {seen : Text}

theorem scanString_spells {start : List Char} (hm : '\\' ≠ mark) (h : Spells mark c t) :
    scanString start mark seen (t ++ rest) = scanString start mark (.ofChar c :: seen) rest := by
  have hlow : (CodePoint.ofChar c).isLowSurrogate = false :=
    (Bool.or_eq_false_iff.mp (CodePoint.isSurrogate_ofChar c)).2
  cases h with
  | plain hc hn hb => exact scanString_plain hc hn hb
  | quote hc =>
    subst hc
    exact scanString_quote hm
  | escaped h => exact scanString_escaped hm h
  | pair h => exact scanString_pair hm h
  | unit h =>
    refine (scanString_unit hm h).trans ?_
    rw [Text.push_of_not_isLow hlow]
    rfl
  | @surrogates _ _ _ _ _ _ _ _ high low h h' hhigh hlow hc =>
    have hfirst : seen.push high = high :: seen :=
      Text.push_of_not_isLow (CodePoint.isHighSurrogate_of_isLow hhigh) seen
    have hboth : Text.push (high :: seen) low = .ofChar c :: seen := by
      simp [Text.push, hhigh, hlow, hc]
    refine (scanString_unit hm h).trans ?_
    rw [hfirst]
    refine (scanString_unit hm h').trans ?_
    rw [hboth]
    rfl

theorem scanString_quotes {start : List Char} (hm : '\\' ≠ mark) (h : Quotes mark s t) :
    scanString start mark seen (t ++ mark :: rest) = .ok (seen.reverse ++ .ofChars s, rest) := by
  induction h generalizing seen with
  | nil => simpa [Text.ofChars] using scanString_close
  | cons hc _ ih =>
    rw [List.append_assoc, scanString_spells hm hc, ih]
    simp [Text.ofChars]

theorem WritesText.head (h : WritesText s t) (rest : List Char) :
    ∃ c u, t ++ rest = c :: u ∧ (c = '"' ∨ c = '\'') ∧
      scanString (c :: u) c [] u = .ok (.ofChars s, rest) := by
  cases h with
  | @between mark t hm hq =>
    have hb : '\\' ≠ mark := by rcases hm with rfl | rfl <;> decide
    exact ⟨mark, t ++ mark :: rest, by simp, hm, scanString_quotes hb hq⟩

theorem scanKey_writes {key : Text} (h : WritesKey key t) (hr : EndsName rest) :
    scanKey (t ++ rest) = .ok (key, rest) := by
  cases h with
  | text h =>
    obtain ⟨c, u, hs, hc, hscan⟩ := h.head rest
    have hspace : isSpace c = false := by rcases hc with rfl | rfl <;> rfl
    rw [hs, scanKey, skipSpace_cons hspace]
    simp only [hc, if_true, hscan]
  | @name name hn =>
    have hscan := scanName_name hn hr
    obtain ⟨c, u, hct, hc, -⟩ := hn
    have hne : ∀ d, isNameStart d = false → c ≠ d := by
      rintro d hd rfl
      simp_all
    rw [hct, List.cons_append] at hscan ⊢
    rw [scanKey, skipSpace_cons (isSpace_of_isNameStart hc)]
    simp only [hne '"' rfl, hne '\'' rfl, or_self, if_false, hscan]
    rfl

/-- A key stands between blanks. -/
theorem scanKey_blank_writes {key : Text} {w k u : List Char} (hw : skipSpace w = [])
    (hk : WritesKey key k) (hu : skipSpace u = []) (t : List Char) :
    scanKey (w ++ (k ++ (u ++ ':' :: t))) = .ok (key, u ++ ':' :: t) := by
  rw [← scanKey_skipSpace, skipSpace_append_of_blank hw, scanKey_skipSpace]
  exact scanKey_writes hk (.blank hu (endsName_cons rfl t))

/-- A rest with which neither a name nor a value goes on. -/
def EndsValue (rest : List Char) : Prop := EndsName rest ∧ ∀ t, skipSpace rest ≠ '[' :: t

theorem endsValue_cons {c : Char} (hc : isNameContinue c = false) (hs : isSpace c = false)
    (hne : c ≠ '[') (rest : List Char) : EndsValue (c :: rest) := by
  refine ⟨endsName_cons hc rest, fun t ht => ?_⟩
  rw [skipSpace_cons hs] at ht
  exact hne (List.cons.inj ht).1

theorem EndsValue.blank {w : List Char} (hw : skipSpace w = []) (h : EndsValue rest) :
    EndsValue (w ++ rest) :=
  ⟨h.1.blank hw, by rw [skipSpace_append_of_blank hw]; exact h.2⟩

/-- The variables stand for the values of an environment. -/
def Binds (env : Fields String Json) (vars : Variables) (store : Store) : Prop :=
  List.Forall₂ (fun v y => v.1 = y.1 ∧ Holds 0 store v.2 y.2) vars env

theorem Binds.extend {store' : Store} (h : Binds env vars store) (he : Extends 0 store store') :
    Binds env vars store' :=
  h.imp fun _ _ hv => ⟨hv.1, hv.2.extend he⟩

/-- A declared name is a reference, to an element if a bracket follows. -/
theorem reference_of_isVariable {name : String} {v : Value} (hn : IsVariable name)
    (hv : vars.get? name = some v) (hr : EndsName rest) :
    reference vars store (name.toList ++ rest) =
      onNext '[' (fun s => element store name v (name.toList ++ rest) s s)
        (fun t => .ok (v, t)) rest := by
  obtain ⟨hn, hword⟩ := hn
  simp only [List.mem_cons, List.not_mem_nil, or_false, not_or] at hword
  simp only [reference_eq, scanName_name hn hr, bind, Except.bind, named]
  split
  · exact absurd rfl hword.1
  · exact absurd rfl hword.2.1
  · exact absurd rfl hword.2.2
  · rw [hv]

/-- What stands for an array is one, element by element. -/
theorem Holds.elements {base : Nat} {v : Value} {xs : List Json}
    (h : Holds base store v (.array xs)) :
    ∃ vs, store.elements? v = some vs ∧ List.Forall₂ (Holds base store) vs xs := by
  cases h with
  | @array cell vs _ hb hc hlen h =>
    exact ⟨vs, by simp [Store.elements?, hc], List.forall₂_iff_zip.mpr ⟨hlen, fun hm => h _ _ hm⟩⟩

theorem reference_slot {name : String} {v y : Value} {vs : List Value} {w u z digits : List Char}
    (hn : IsVariable name) (hv : vars.get? name = some v) (hvs : store.elements? v = some vs)
    (hw : skipSpace w = []) (hu : skipSpace u = []) (hz : skipSpace z = [])
    (hi : IsInteger [] digits) (hlen : digits.length ≤ maxIntegerDigits)
    (hy : vs[ofDigits (digits.map (·.toNat - 48))]? = some y) (rest : List Char) :
    reference vars store (name.toList ++ (w ++ '[' :: (u ++ (digits ++ (z ++ ']' :: rest))))) =
      .ok (y, rest) := by
  have hr : EndsName (w ++ '[' :: (u ++ (digits ++ (z ++ ']' :: rest)))) :=
    .blank hw (endsName_cons rfl _)
  have hends : EndsInteger (z ++ ']' :: rest) :=
    endsInteger_of_endsName (.blank hz (endsName_cons rfl rest))
  have hscan := scanInteger_written hu hi hlen hends
  rw [List.nil_append] at hscan
  have hclose : expect ']' (z ++ ']' :: rest) = .ok rest := expect_blank hz rfl rest
  have hat : elementAt? vs (signed [] digits) = some y := by
    rw [signed, if_pos rfl, elementAt?, if_pos (Int.natCast_nonneg _), Int.toNat_natCast, hy]
  rw [reference_of_isVariable hn hv hr, onNext_yes (skipSpace_blank_cons hw rfl _)]
  simp only [element, hscan, bind, Except.bind, hclose, picked, hvs, hat]

/-- A value is read up to the next character that is no white space. -/
def FoundBefore (store : Store) (x : Json) (rest : List Char)
    (r : Except Stop (Value × Store × List Char)) : Prop :=
  ∃ rest', skipSpace rest' = skipSpace rest ∧ Found 0 store x rest' r

theorem foundBefore_of_reference {name : String} {v : Value} {more rest' : List Char}
    (hn : IsName name) (h : reference vars store (name.toList ++ more) = .ok (v, rest'))
    (hrest : skipSpace rest' = skipSpace rest) (hv : Holds 0 store v x) :
    FoundBefore store x rest (value vars (budget + 1) depth store (name.toList ++ more)) := by
  refine ⟨rest', hrest, v, store, ?_, .refl store, hv⟩
  rw [value_of_isName hn, h]
  rfl

theorem value_leaf (h : WritesLeaf env x t) (hr : EndsValue rest) (hb : Binds env vars store) :
    FoundBefore store x rest (value vars (budget + 1) depth store (t ++ rest)) := by
  have hword {word : String} {v : Value} (hn : IsName word) (hm : (word, v) ∈
      [("null", Value.null), ("true", .bool true), ("false", .bool false)])
      (hv : Holds 0 store v x) :
      FoundBefore store x rest (value vars (budget + 1) depth store (word.toList ++ rest)) :=
    foundBefore_of_reference hn (reference_word hm hr.1) rfl hv
  cases h with
  | null => exact hword ⟨_, _, rfl, rfl, rfl⟩ (by simp) .null
  | true => exact hword ⟨_, _, rfl, rfl, rfl⟩ (by simp) (.bool true)
  | false => exact hword ⟨_, _, rfl, rfl, rfl⟩ (by simp) (.bool false)
  | @int sign digits hi hlen =>
    have hscan := scanInteger_written (w := []) rfl hi hlen (endsInteger_of_endsName hr.1)
    rw [List.nil_append] at hscan
    obtain ⟨c, u, hs, hc⟩ := hi.head rest
    refine ⟨rest, rfl, .int (signed sign digits), store, ?_, .refl store, .int _⟩
    rw [List.append_assoc, hs, value_integer hc, ← hs, hscan]
    rfl
  | @text s t h =>
    obtain ⟨c, u, hs, hc, hscan⟩ := h.head rest
    refine ⟨rest, rfl, .text (.ofChars s), store, ?_, .refl store, .text _⟩
    rw [hs, value_string hc, hscan]
    rfl
  | named hn hx =>
    obtain ⟨v, hv, hheld⟩ := Fields.get?_of_forall₂ hb hx
    have href : reference vars store _ = _ := reference_of_isVariable hn hv hr.1
    rw [onNext_no hr.2] at href
    exact foundBefore_of_reference hn.1 href (skipSpace_skipSpace rest) hheld
  | slot hn hxs hw hv hu hi hlen hx =>
    obtain ⟨a, ha, hheld⟩ := Fields.get?_of_forall₂ hb hxs
    obtain ⟨vs, hvs, hall⟩ := hheld.elements
    obtain ⟨y, hy, hyheld⟩ := getElem?_of_forall₂ hall hx
    simp only [List.append_assoc, List.cons_append, List.nil_append]
    have href := reference_slot hn ha hvs hw hv hu hi hlen hy rest
    exact foundBefore_of_reference hn.1 href rfl hyheld

/-- What a program finds where a piece is written. What it has read of an array or object so far
stands for what was `seen` of it. -/
def Yields (env : Fields String Json) (vars : Variables) (depth : Nat) (t : List Char) :
    Piece → Prop
  | .value x => ∀ rest store budget, EndsValue rest → Binds env vars store →
      2 * (t ++ rest).length < budget →
        FoundBefore store x rest (value vars budget depth store (t ++ rest))
  | .elements xs => ∀ rest store budget vs seen, Binds env vars store →
      List.Forall₂ (Holds 0 store) vs seen → 2 * (t ++ rest).length + 1 < budget →
        Found 0 store (.array (seen.reverse ++ xs)) rest
          (elements vars budget depth store vs (t ++ rest))
  | .members ys => ∀ rest store budget fs seen, Binds env vars store →
      List.Forall₂ (HoldsField 0 store) fs seen → ((seen ++ ys).map (·.1)).Nodup →
        2 * (t ++ rest).length + 1 < budget →
          Found 0 store (.object (seen ++ ys)) rest (members vars budget depth store fs (t ++ rest))

/-- The induction is on the rendering. The variables keep standing for their values, since the store
only grows. -/
theorem yields_of_renders {p : Piece} (h : Renders env depth p t) (vars : Variables) :
    Yields env vars depth t p := by
  induction h with
  | leaf h =>
    intro rest store budget hr hb hlen
    obtain ⟨budget, rfl⟩ := Nat.exists_eq_add_one_of_ne_zero (Nat.ne_zero_of_lt hlen)
    exact value_leaf h hr hb
  | @array n xs t h ih =>
    intro rest store budget hr hb hlen
    simp only [List.cons_append, List.length_cons] at hlen
    obtain ⟨budget, rfl⟩ := Nat.exists_eq_add_one_of_ne_zero (show budget ≠ 0 by omega)
    rw [List.cons_append, value_array]
    exact ⟨rest, rfl, ih rest store budget [] [] hb .nil (by omega)⟩
  | @object n ys t hkeys h ih =>
    intro rest store budget hr hb hlen
    simp only [List.cons_append, List.length_cons] at hlen
    obtain ⟨budget, rfl⟩ := Nat.exists_eq_add_one_of_ne_zero (show budget ≠ 0 by omega)
    rw [List.cons_append, value_object]
    exact ⟨rest, rfl, ih rest store budget [] [] hb .nil hkeys (by omega)⟩
  | @before n x w t hw h ih =>
    intro rest store budget hr hb hlen
    obtain ⟨budget, rfl⟩ := Nat.exists_eq_add_one_of_ne_zero (Nat.ne_zero_of_lt hlen)
    rw [List.append_assoc] at hlen ⊢
    rw [← value_skipSpace, skipSpace_append_of_blank hw, value_skipSpace]
    refine ih rest store (budget + 1) hr hb ?_
    rw [List.length_append] at hlen
    omega
  | @behind n x w t hw h ih =>
    intro rest store budget hr hb hlen
    rw [List.append_assoc] at hlen ⊢
    obtain ⟨rest', hrest', hfound⟩ := ih (w ++ rest) store budget (.blank hw hr) hb hlen
    exact ⟨rest', hrest'.trans (skipSpace_append_of_blank hw rest), hfound⟩
  | @noElement n w hw =>
    intro rest store budget vs seen hb hseen hlen
    obtain ⟨budget, rfl⟩ := Nat.exists_eq_add_one_of_ne_zero (Nat.ne_zero_of_lt hlen)
    have hclose : skipSpace (w ++ [']'] ++ rest) = ']' :: rest := by
      rw [List.append_assoc]
      exact skipSpace_blank_cons hw rfl rest
    rw [elements_eq, onNext_yes hclose, List.append_nil]
    exact found_allocated_array (Nat.zero_le _) (List.rel_reverse hseen) rest
  | @lastElement n x t hx ih =>
    intro rest store budget vs seen hb hseen hlen
    obtain ⟨budget, rfl⟩ := Nat.exists_eq_add_one_of_ne_zero (Nat.ne_zero_of_lt hlen)
    rw [List.append_assoc, List.singleton_append] at hlen ⊢
    obtain ⟨more, hmore, hfound⟩ :=
      ih (']' :: rest) store budget (endsValue_cons rfl rfl (by decide) _) hb (by omega)
    refine found_element hfound hseen fun v store' he hall => ?_
    rw [afterElement_close (hmore.trans (skipSpace_cons rfl rest)), ← List.reverse_cons]
    exact found_allocated_array (Nat.zero_le _) (List.rel_reverse hall) rest
  | @element n x xs t u hx h ihx ih =>
    intro rest store budget vs seen hb hseen hlen
    obtain ⟨budget, rfl⟩ := Nat.exists_eq_add_one_of_ne_zero (Nat.ne_zero_of_lt hlen)
    rw [List.append_assoc, List.cons_append] at hlen ⊢
    obtain ⟨more, hmore, hfound⟩ :=
      ihx (',' :: (u ++ rest)) store budget (endsValue_cons rfl rfl (by decide) _) hb (by omega)
    have hleft : 2 * (u ++ rest).length + 1 < budget := by
      simp only [List.length_append, List.length_cons] at hlen ⊢
      omega
    refine found_element hfound hseen fun v store' he hall => ?_
    rw [afterElement_comma (hmore.trans (skipSpace_cons rfl _))]
    simpa using ih rest store' budget (v :: vs) (x :: seen) (hb.extend he) hall hleft
  | @noMember n w hw =>
    intro rest store budget fs seen hb hseen _ hlen
    obtain ⟨budget, rfl⟩ := Nat.exists_eq_add_one_of_ne_zero (Nat.ne_zero_of_lt hlen)
    have hclose : skipSpace (w ++ ['\x7d'] ++ rest) = '\x7d' :: rest := by
      rw [List.append_assoc]
      exact skipSpace_blank_cons hw rfl rest
    rw [members_eq, onNext_yes hclose, List.append_nil]
    exact found_allocated_object (Nat.zero_le _) hseen rest
  | @lastMember n key x w k u t hw hk hu hx ih =>
    intro rest store budget fs seen hb hseen hkeys hlen
    obtain ⟨budget, rfl⟩ := Nat.exists_eq_add_one_of_ne_zero (Nat.ne_zero_of_lt hlen)
    simp only [List.append_assoc, List.cons_append, List.nil_append, List.length_append,
      List.length_cons] at hlen ⊢
    have hvalue : 2 * (t ++ '\x7d' :: rest).length < budget := by
      simp only [List.length_append, List.length_cons]
      omega
    obtain ⟨more, hmore, hfound⟩ :=
      ih ('\x7d' :: rest) store budget (endsValue_cons rfl rfl (by decide) _) hb hvalue
    have hkey := scanKey_blank_writes hw hk hu (t ++ '\x7d' :: rest)
    refine found_member hkey (skipSpace_blank_cons hu rfl _) hfound hseen
      fun fs' store' he hall => ?_
    rw [Fields.put_of_notMem x (Fields.notMem_of_nodup hkeys)] at hall
    rw [afterMember_close (hmore.trans (skipSpace_cons rfl rest))]
    exact found_allocated_object (Nat.zero_le _) hall rest
  | @member n key x ys w k u t more hw hk hu hx h ihx ih =>
    intro rest store budget fs seen hb hseen hkeys hlen
    obtain ⟨budget, rfl⟩ := Nat.exists_eq_add_one_of_ne_zero (Nat.ne_zero_of_lt hlen)
    simp only [List.append_assoc, List.cons_append, List.length_append, List.length_cons]
      at hlen ⊢
    have hvalue : 2 * (t ++ ',' :: (more ++ rest)).length < budget := by
      simp only [List.length_append, List.length_cons]
      omega
    have hleft : 2 * (more ++ rest).length + 1 < budget := by
      simp only [List.length_append]
      omega
    obtain ⟨after, hafter, hfound⟩ :=
      ihx (',' :: (more ++ rest)) store budget (endsValue_cons rfl rfl (by decide) _) hb hvalue
    have hkey := scanKey_blank_writes hw hk hu (t ++ ',' :: (more ++ rest))
    refine found_member hkey (skipSpace_blank_cons hu rfl _) hfound hseen
      fun fs' store' he hall => ?_
    rw [Fields.put_of_notMem x (Fields.notMem_of_nodup hkeys)] at hall
    rw [afterMember_comma (hafter.trans (skipSpace_cons rfl _))]
    simpa using ih rest store' budget _ _ (hb.extend he) hall (by simpa using hkeys) hleft

end Literal

end RustdocIndex
