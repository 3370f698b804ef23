import RustdocIndex.Proofs.Literal.Place
import RustdocIndex.Proofs.Payload.Quoting

/-! Whoever reads a refusal can tell which generation refused and where in the text. Each step that
refuses does so in the name it is given, so all steps of a generation have to be given its own. -/
namespace RustdocIndex.Payload

variable {α : Type} {s : List Char} {g : Generation}

/-- As many bytes as the text has in front of one of its characters, or in all. -/
def IsPlace (s : List Char) (n : Nat) : Prop := ∃ front, front <+: s ∧ n = Utf8.size front

/-- A rest of the text begins at a place, told by what is in front of it. -/
theorem isPlace_of_suffix {rest : List Char} (h : rest <:+ s) :
    IsPlace s (Utf8.size s - Utf8.size rest) := by
  obtain ⟨front, rfl⟩ := h
  refine ⟨front, List.prefix_append .., ?_⟩
  rw [Utf8.size_append, Nat.add_sub_cancel]

theorem IsPlace.le {n : Nat} (h : IsPlace s n) : n ≤ Utf8.size s := by
  obtain ⟨front, ⟨rest, rfl⟩, rfl⟩ := h
  rw [Utf8.size_append]
  omega

/-- If the stop is a refusal, it is one by the generation, at a place of the text if at any. -/
def Attributed (g : Generation) (s : List Char) (stop : Stop) : Prop :=
  ∀ r, stop = .refused r → r.generation = some g ∧ ∀ n ∈ r.offset, IsPlace s n

theorem attributed_none (g : Generation) (s : List Char) (cause : Cause) :
    Attributed g s (.refused ⟨some g, none, cause⟩) := by
  intro r h
  cases h
  refine ⟨rfl, fun n hn => ?_⟩
  cases hn

theorem attributed_some {rest : List Char} (h : rest <:+ s) (g : Generation) (cause : Cause) :
    Attributed g s (.refused ⟨some g, some (Utf8.size s - Utf8.size rest), cause⟩) := by
  intro r hr
  cases hr
  refine ⟨rfl, fun n hn => ?_⟩
  cases hn
  exact isPlace_of_suffix h

theorem attributed_tooLong (g : Generation) (s : List Char) (n : Nat) :
    Attributed g s (.integerTooLong n) := by
  intro r h
  cases h

theorem findOpening?_suffix {body : List Char} (h : findOpening? s = some body) : body <:+ s := by
  induction s with
  | nil => cases h
  | cons c s ih =>
    rw [findOpening?, Option.or_eq_some_iff] at h
    rcases h with h | ⟨-, h⟩
    · obtain ⟨o, -, hs⟩ := afterOpening?_eq_some.mp h
      exact ⟨o, hs.symm⟩
    · exact (ih h).trans (List.suffix_cons c s)

/-- A document is refused at its opening quote, or at no place. -/
theorem attributed_document (g : Generation) (s : List Char) :
    FailsOnly (Attributed g s) (document g s) := by
  refine (document_refuses g s).imp fun stop h => ?_
  cases h with
  | unclosed h => exact attributed_some (findOpening?_suffix h) g _
  | missing | invalid | tooDeep => exact attributed_none g s _
  | tooLong => exact attributed_tooLong g s _

/-- A program that fails is refused where the reader stopped, by the first generation. -/
theorem attributed_programEntries (s : List Char) :
    FailsOnly (Attributed .v1 s) (programEntries s) := by
  refine (programEntries_refuses s).imp fun stop h => ?_
  cases h with
  | invalid h => exact attributed_some (Literal.rest_suffix_of_run h) .v1 _
  | empty | noIndex => exact attributed_none .v1 s _
  | tooLong => exact attributed_tooLong .v1 s _

theorem attributed_crateEntries [Document α] (g : Generation) (s : List Char) (x : α) :
    FailsOnly (Attributed g s) (crateEntries g x) := by
  unfold crateEntries
  dsimp only
  split
  · exact .error (attributed_none g s _)
  · exact .error (attributed_none g s _)
  · exact .ok _

/-- A problem of a crate is refused in the name of the generation that the problem tells. -/
theorem attributed_crateStop {e : CrateError} (h : e.generation = g) (s : List Char) (name : Text) :
    Attributed g s (crateStop name e) := by
  intro r hr
  unfold crateStop at hr
  split at hr
  · cases hr
  · cases hr
    refine ⟨congrArg some h, fun n hn => ?_⟩
    cases hn

/-- Crates are drafted and built in the name of one generation, and refused at no place. -/
theorem attributed_buildAll [Document α] {draft : Text → α → Except CrateError Draft}
    (h : ∀ name data, FailsShowing g data (draft name data)) (version : Option Text)
    (s : List Char) (entries : List (Text × α)) :
    FailsOnly (Attributed g s) (buildAll g draft version entries) := by
  refine .mapM fun (name, data) _ => .mapError fun e he => ?_
  exact attributed_crateStop ((h name data).build version e he).generation s name

/-- Every step of a generation refuses in its name. -/
theorem attributed_crates (g : Generation) (version : Option Text) (s : List Char) :
    FailsOnly (Attributed g s) (crates g version s) := by
  by_cases hg : g = .v1
  · subst hg
    refine (attributed_programEntries s).bind fun entries _ => ?_
    exact attributed_buildAll (rowDraft_failsShowing .v1) version s entries
  · rw [crates_eq hg]
    refine (attributed_document g s).bind fun x _ => ?_
    refine (attributed_crateEntries g s x).bind fun entries _ => ?_
    exact attributed_buildAll (jsonDraft_failsShowing hg) version s entries

theorem Stop.failure_ne_unsupported (stop : Stop) (attempts : List (Generation × Refusal)) :
    stop.failure ≠ .unsupported attempts := by
  cases stop <;> nofun

theorem Stop.failure_eq_refused {stop : Stop} {r : Refusal} :
    stop.failure = .refused r ↔ stop = .refused r := by
  cases stop <;> simp [Stop.failure]

/-- With a hint, a text is refused in the name of the generation that the hint names, and an offset
is a place of the text. A literal program is never refused without one. Without a hint, the attempts
are those of all three generations in their order, each refused as with a hint. -/
theorem decode_attributed (version : Option Text) (s : List Char) :
    (∀ (g : Generation) failure, decode (some g.name) version (.text s) = .error failure →
      (∀ attempts, failure ≠ .unsupported attempts) ∧
      ∀ r, failure = .refused r → r.generation = some g ∧
        ∀ n ∈ r.offset, n ≤ Utf8.size s ∧ ∃ front, front <+: s ∧ n = Utf8.size front) ∧
    (∀ p rest, Literal.evaluate s = .error (.problem p rest) → ∃ front, s = front ++ rest ∧
      decode (some Generation.v1.name) version (.text s) =
        .error (.refused ⟨some .v1, some (Utf8.size front), .literal p⟩)) ∧
    ∀ attempts, decode none version (.text s) = .error (.unsupported attempts) →
      attempts.map (·.1) = order (detect s) ∧ (attempts.map (·.1)).Perm [.v3, .v2, .v1] ∧
      ∀ a ∈ attempts, decode (some a.1.name) version (.text s) = .error (.refused a.2) := by
  refine ⟨fun g failure h => ?_, fun p rest h => ?_, fun attempts h => ?_⟩
  · rw [decode_name] at h
    obtain ⟨stop, hstop, rfl⟩ := mapError_eq_error.mp h
    refine ⟨stop.failure_ne_unsupported, fun r hr => ?_⟩
    obtain ⟨hg, hplace⟩ := attributed_crates g version s stop hstop r (Stop.failure_eq_refused.mp hr)
    exact ⟨hg, fun n hn => ⟨(hplace n hn).le, hplace n hn⟩⟩
  · obtain ⟨front, rfl⟩ := Literal.rest_suffix_of_run h
    refine ⟨front, rfl, ?_⟩
    have hsize : Utf8.size (front ++ rest) - Utf8.size rest = Utf8.size front := by
      rw [Utf8.size_append, Nat.add_sub_cancel]
    have hcrates : crates .v1 version (front ++ rest) =
        .error (.refused ⟨some .v1, some (Utf8.size front), .literal p⟩) := by
      rw [← hsize]
      exact bind_eq_error.mpr (.inl (programEntries_problem h))
    rw [decode_name, hcrates]
    rfl
  · rw [decode_text, decodeText] at h
    obtain ⟨more, hmore, hmap, htried⟩ := exists_attempts h
    rw [List.nil_append] at hmore
    subst hmore
    refine ⟨hmap, hmap ▸ order_perm (detect s), fun a ha => ?_⟩
    rw [decode_name, htried a ha]
    rfl

/-- A program in which an array is not closed behind a character of two bytes. -/
def unclosedArray : List Char := "var a=['é';".toList

/-- Why the first generation refuses it. -/
def unclosedCause : Cause := .literal (.expected ']' (some ';'))

theorem decode_attributed_unclosed :
    Literal.evaluate unclosedArray = .error (.problem (.expected ']' (some ';')) [';']) ∧
    decode none none (.text unclosedArray) = .error (.unsupported [(.v3, ⟨some .v3, none, .noJson⟩),
      (.v2, ⟨some .v2, none, .noJson⟩), (.v1, ⟨some .v1, some 11, unclosedCause⟩)]) ∧
    decode (some "v1") none (.text unclosedArray) =
      .error (.refused ⟨some .v1, some 11, unclosedCause⟩) ∧
    ∃ front, front <+: unclosedArray ∧ 11 = Utf8.size front := by
  have hevaluate : Literal.evaluate unclosedArray =
      .error (.problem (.expected ']' (some ';')) [';']) := by decide +kernel
  have hv1 : crates .v1 none unclosedArray = .error (.refused ⟨some .v1, some 11, unclosedCause⟩) :=
    bind_eq_error.mpr (.inl (programEntries_problem hevaluate))
  have hv2 : crates .v2 none unclosedArray = .error (.refused ⟨some .v2, none, .noJson⟩) := by rfl
  have hv3 : crates .v3 none unclosedArray = .error (.refused ⟨some .v3, none, .noJson⟩) := by rfl
  have hdetect : detect unclosedArray = none := by decide +kernel
  have hnone : decode none none (.text unclosedArray) = .error (.unsupported
      [(.v3, ⟨some .v3, none, .noJson⟩), (.v2, ⟨some .v2, none, .noJson⟩),
        (.v1, ⟨some .v1, some 11, unclosedCause⟩)]) := by
    rw [decode_text, decodeText, hdetect]
    simp only [order, firstOf, hv1, hv2, hv3]
    rfl
  obtain ⟨hhint, -, hattempts⟩ := decode_attributed none unclosedArray
  obtain ⟨-, -, hall⟩ := hattempts _ hnone
  have hfirst := hall (.v1, ⟨some .v1, some 11, unclosedCause⟩) (by simp)
  obtain ⟨-, hrefused⟩ := hhint .v1 _ hfirst
  exact ⟨hevaluate, hnone, hfirst, ((hrefused _ rfl).2 11 rfl).2⟩

end RustdocIndex.Payload
