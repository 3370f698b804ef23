import RustdocIndex.Proofs.Json.Stable
import RustdocIndex.Proofs.Literal.Locality
import RustdocIndex.Proofs.Payload.Embedded

/-! Which payloads stop decoding with an error that is not its own. -/
namespace RustdocIndex.Payload

variable {version : Option Text} {s : List Char} {g : Generation} {found : List Crate}
  {hint : Option String} {before after : List Generation}

/-- Decoding ends with crates, or with one of its own errors. -/
def Contained (r : Except Failure (List Crate)) : Prop :=
  (∃ found, r = .ok found ∧ found ≠ []) ∨ (∃ refusal, r = .error (.refused refusal)) ∨
    ∃ attempts, r = .error (.unsupported attempts)

/-- The generations that may have a say about a text. -/
def candidates (hint : Option String) (s : List Char) : List Generation :=
  match hint with
  | none => order (detect s)
  | some name => (Generation.ofName? name).toList

/-- A generation has a say about a text: those before it refuse the text. -/
def Tried (hint : Option String) (version : Option Text) (s : List Char) (g : Generation) : Prop :=
  ∃ before after, candidates hint s = before ++ g :: after ∧
    ∀ b ∈ before, Refuses version s b

/-- A literal program is well-formed up to an integer that has too many digits. -/
def MeetsLongInteger (s : List Char) : Prop :=
  ∃ front u n, s = front ++ u ∧ BeginsLong n u ∧
    (Literal.evaluate front = .error (.problem .unexpectedEnd []) ∨
      Literal.evaluate front = .error (.problem .expectedInteger []))

/-- The document of a payload is well-formed up to an integer that has too many digits. -/
def DocumentMeetsLongInteger (s : List Char) : Prop :=
  ∃ body text front u n, findOpening? s = some body ∧ unquote? [] body = some text ∧
    text = front ++ u ∧ Json.BeginsLong n u ∧
      Json.parse front = .error (.problem .expectedValue [])

/-- The first crate of a literal program that is not built has a value in it that is too deep for
the message. -/
def ShowsTooDeep (version : Option Text) (s : List Char) : Prop :=
  ∃ before name data after e, programEntries s = .ok (before ++ (name, data) :: after) ∧
    (∀ e ∈ before, ∃ c, (rowDraft .v1 e.1 e.2).bind (·.build .v1 version) = .ok c) ∧
      (rowDraft .v1 name data).bind (·.build .v1 version) = .error e ∧
        e.problem.isTooDeepToShow

/-- What stops decoding when a generation has its say. -/
def Breaks (version : Option Text) (s : List Char) : Generation → Prop
  | .v1 => MeetsLongInteger s ∨ ShowsTooDeep version s
  | .v2 | .v3 => DocumentMeetsLongInteger s

/-- Of a document that is quoted well, the parser alone meets integers. -/
theorem document_integerTooLong :
    (∃ n, document g s = .error (.integerTooLong n)) ↔ DocumentMeetsLongInteger s := by
  have hparse (text : List Char) := Json.parse_integerTooLong (s := text)
  constructor
  · rintro ⟨n, h⟩
    cases document_refuses g s _ h with
    | @tooLong body text _ hb ht hp =>
      obtain ⟨front, u, m, hs, hu, hfront⟩ := (hparse text).mp ⟨n, hp⟩
      exact ⟨body, text, front, u, m, hb, ht, hs, hu, hfront⟩
  · rintro ⟨body, text, front, u, m, hb, ht, hs, hu, hfront⟩
    obtain ⟨n, hp⟩ := (hparse text).mpr ⟨front, u, m, hs, hu, hfront⟩
    exact ⟨n, by simp only [document, hb, ht, hp]⟩

theorem programEntries_integerTooLong :
    (∃ n, programEntries s = .error (.integerTooLong n)) ↔ MeetsLongInteger s := by
  refine Iff.trans ?_ (Literal.run_integerTooLong .empty s)
  refine exists_congr fun n => ?_
  unfold programEntries Literal.evaluate
  split
  · next h => simp [h]
  · next h => simp [h]
  · next h =>
    simp only [h]
    split <;> simp

theorem programEntries_fails (s : List Char) :
    FailsOnly (fun stop => stop.IsRefusal ∨ ∃ digits, stop = .integerTooLong digits)
      (programEntries s) := by
  refine (programEntries_refuses s).imp fun stop h => ?_
  cases h with
  | invalid | empty | noIndex => exact .inl ⟨_, rfl⟩
  | tooLong => exact .inr ⟨_, rfl⟩

/-- A problem of a crate is a refusal unless it shows too deep a value. -/
theorem crateStop_isRefusal {name : Text} {e : CrateError} :
    (crateStop name e).IsRefusal ↔ e.problem.isTooDeepToShow = false := by
  unfold crateStop
  split
  · next h =>
    rw [h]
    constructor
    · rintro ⟨r, h⟩
      cases h
    · intro h
      cases h
  · next h => exact ⟨fun _ => by simpa using h, fun _ => ⟨_, rfl⟩⟩

theorem not_isRefusal_integerTooLong (n : Nat) : ¬ (Stop.integerTooLong n).IsRefusal := by
  rintro ⟨r, h⟩
  cases h

/-- From JSON, only an integer can break a generation: the parser allows no value that is too deep
to show. -/
theorem breaks_of_document {g : Generation} (hg : g ≠ .v1) :
    Breaks version s g ↔ DocumentMeetsLongInteger s := by
  cases g with
  | v1 => exact absurd rfl hg
  | v2 => rfl
  | v3 => rfl

/-- Behind the document, nothing breaks any more. -/
theorem document_breaks {g : Generation} (hg : g ≠ .v1) :
    (∃ stop, crates g version s = .error stop ∧ ¬ stop.IsRefusal) ↔ Breaks version s g := by
  rw [breaks_of_document hg, ← document_integerTooLong (g := g)]
  constructor
  · rintro ⟨stop, h, hstop⟩
    cases hx : document g s with
    | ok x => exact absurd (crates_fails hg hx stop h) hstop
    | error e =>
      rw [crates_eq hg, hx] at h
      cases h
      rcases document_fails g s stop hx with hr | ⟨n, rfl⟩
      · exact absurd hr hstop
      · exact ⟨n, rfl⟩
  · rintro ⟨n, h⟩
    refine ⟨.integerTooLong n, ?_, not_isRefusal_integerTooLong n⟩
    rw [crates_eq hg, h]
    rfl

theorem crates_v1 (version : Option Text) (s : List Char) :
    crates .v1 version s = programEntries s >>= buildAll .v1 (rowDraft .v1) version := rfl

/-- A program can also break by showing a value, since assignments may nest values as deep as they
like. -/
theorem program_breaks :
    (∃ stop, crates .v1 version s = .error stop ∧ ¬ stop.IsRefusal) ↔ Breaks version s .v1 := by
  rw [Breaks, ← programEntries_integerTooLong, crates_v1]
  constructor
  · rintro ⟨stop, h, hstop⟩
    rcases bind_eq_error.mp h with h | ⟨entries, he, h⟩
    · rcases programEntries_fails s stop h with hr | ⟨n, rfl⟩
      · exact absurd hr hstop
      · exact .inl ⟨n, h⟩
    · obtain ⟨before, ⟨name, data⟩, after, rfl, hbefore, h⟩ := mapM_eq_error.mp h
      obtain ⟨e, hp, rfl⟩ := mapError_eq_error.mp h
      rw [crateStop_isRefusal, Bool.not_eq_false] at hstop
      refine .inr ⟨before, name, data, after, e, he, fun e hm => ?_, hp, hstop⟩
      obtain ⟨c, hc⟩ := hbefore e hm
      exact ⟨c, mapError_eq_ok.mp hc⟩
  · rintro (⟨n, h⟩ | ⟨before, name, data, after, e, he, hbefore, hp, hdeep⟩)
    · exact ⟨_, bind_eq_error.mpr (.inl h), not_isRefusal_integerTooLong n⟩
    · refine ⟨crateStop name e, bind_eq_error.mpr (.inr ⟨_, he, ?_⟩), ?_⟩
      · refine mapM_eq_error.mpr ⟨before, (name, data), after, rfl, fun e hm => ?_, ?_⟩
        · obtain ⟨c, hc⟩ := hbefore e hm
          exact ⟨c, mapError_eq_ok.mpr hc⟩
        · exact mapError_eq_error.mpr ⟨_, hp, rfl⟩
      · rw [crateStop_isRefusal, hdeep]
        exact Bool.noConfusion

/-- A generation stops without a refusal where it breaks, and nowhere else. -/
theorem breaks_iff :
    Breaks version s g ↔ ∃ stop, crates g version s = .error stop ∧ ¬ stop.IsRefusal := by
  cases g with
  | v1 => exact program_breaks.symm
  | v2 => exact (document_breaks (by simp)).symm
  | v3 => exact (document_breaks (by simp)).symm

/-- A generation that breaks keeps the others from being asked. -/
theorem not_refuses_of_breaks (h : Breaks version s g) : ¬ Refuses version s g := by
  obtain ⟨stop, hs, hstop⟩ := breaks_iff.mp h
  rintro ⟨r, hr⟩
  cases hs.symm.trans hr
  exact hstop ⟨r, rfl⟩

theorem programEntries_ne_nil {entries : List (Text × Literal.Node)}
    (h : programEntries s = .ok entries) : entries ≠ [] := by
  unfold programEntries at h
  split at h
  · cases h
  · cases h
  · split at h
    · cases h
    · next hne _ =>
      cases h
      rintro rfl
      exact hne rfl
    · cases h

theorem crateEntries_ne_nil {α : Type} [Document α] {x : α} {entries : List (Text × α)}
    (h : crateEntries g x = .ok entries) : entries ≠ [] := by
  simp only [crateEntries] at h
  split at h
  · cases h
  · cases h
  · next hne _ =>
    cases h
    rintro rfl
    exact hne rfl

theorem buildAll_ne_nil {α : Type} {draft : Text → α → Except CrateError Draft}
    {entries : List (Text × α)} (he : entries ≠ [])
    (h : buildAll g draft version entries = .ok found) : found ≠ [] := by
  rintro rfl
  cases mapM_eq_ok.mp h
  exact he rfl

/-- No generation takes a payload without crates. -/
theorem crates_ne_nil (h : crates g version s = .ok found) : found ≠ [] := by
  by_cases hg : g = .v1
  · subst hg
    obtain ⟨entries, he, h⟩ := bind_eq_ok.mp h
    exact buildAll_ne_nil (programEntries_ne_nil he) h
  · rw [crates_eq hg] at h
    obtain ⟨x, -, h⟩ := bind_eq_ok.mp h
    obtain ⟨entries, he, h⟩ := bind_eq_ok.mp h
    exact buildAll_ne_nil (crateEntries_ne_nil he) h

/-- What one generation says is contained unless it breaks. -/
theorem contained_failure :
    Contained ((crates g version s).mapError Stop.failure) ↔ ¬ Breaks version s g := by
  rw [breaks_iff]
  cases hc : crates g version s with
  | ok found =>
    refine ⟨fun _ => ?_, fun _ => .inl ⟨found, rfl, crates_ne_nil hc⟩⟩
    rintro ⟨stop, h, -⟩
    cases h
  | error stop =>
    cases stop with
    | refused r =>
      refine ⟨fun _ => ?_, fun _ => .inr (.inl ⟨_, rfl⟩)⟩
      rintro ⟨stop, h, hstop⟩
      cases h
      exact hstop ⟨r, rfl⟩
    | integerTooLong n =>
      constructor
      · rintro (⟨_, h, -⟩ | ⟨_, h⟩ | ⟨_, h⟩) <;> cases h
      · intro h
        exact absurd ⟨_, rfl, not_isRefusal_integerTooLong n⟩ h
    | tooDeepToShow =>
      constructor
      · rintro (⟨_, h, -⟩ | ⟨_, h⟩ | ⟨_, h⟩) <;> cases h
      · intro h
        refine absurd ⟨_, rfl, ?_⟩ h
        rintro ⟨r, h⟩
        cases h

/-- The first candidate that does not refuse decides, with a hint as well as without. -/
theorem decodeText_decided (hc : candidates hint s = before ++ g :: after)
    (hb : ∀ b ∈ before, Refuses version s b) (hg : ¬ Refuses version s g) :
    decodeText hint version s = (crates g version s).mapError Stop.failure := by
  cases hint with
  | none =>
    rw [candidates] at hc
    rw [decodeText, hc]
    exact firstOf_decided hb hg
  | some name =>
    rw [decodeText_hint]
    rw [candidates] at hc
    cases hn : Generation.ofName? name with
    | none => simp [hn] at hc
    | some h =>
      rw [hn, Option.toList_some] at hc
      cases before with
      | nil =>
        cases hc
        rfl
      | cons b before => simp at hc

theorem decodeText_refused (h : ∀ g ∈ candidates hint s, Refuses version s g) :
    Contained (decodeText hint version s) := by
  cases hint with
  | none =>
    obtain ⟨tried, ht, -⟩ := firstOf_refused [] h
    exact .inr (.inr ⟨tried, ht⟩)
  | some name =>
    rw [decodeText_hint]
    cases hn : Generation.ofName? name with
    | none => exact .inr (.inl ⟨_, rfl⟩)
    | some g =>
      have hg : Refuses version s g := h g (by simp [candidates, hn])
      exact contained_failure.mpr fun hb => not_refuses_of_breaks hb hg

/-- Only candidates that have their say can break. -/
theorem decodeText_contained : Contained (decodeText hint version s) ↔
    ∀ g, Tried hint version s g → ¬ Breaks version s g := by
  constructor
  · rintro h g ⟨before, after, hc, hb⟩ hbreaks
    rw [decodeText_decided hc hb (not_refuses_of_breaks hbreaks)] at h
    exact contained_failure.mp h hbreaks
  · intro h
    rcases refused_or_decided version s (candidates hint s) with hr | ⟨before, g, after, hc, hb, hg⟩
    · exact decodeText_refused hr
    · rw [decodeText_decided hc hb hg]
      exact contained_failure.mpr (h g ⟨before, after, hc, hb⟩)

/-- Without a hint, a contained failure lists the attempts of all generations in their order. -/
theorem tried_all {e : Failure} (h : decodeText none version s = .error e)
    (hc : Contained (decodeText none version s)) :
    ∃ attempts, e = .unsupported attempts ∧ attempts.map (·.1) = order (detect s) := by
  rw [decodeText_contained] at hc
  rcases refused_or_decided version s (candidates none s) with hr | ⟨before, g, after, ho, hb, hg⟩
  · obtain ⟨tried, ht, hgs⟩ := firstOf_refused [] hr
    cases h.symm.trans ht
    exact ⟨tried, rfl, by simpa [candidates] using hgs⟩
  · have hbreaks := hc g ⟨before, after, ho, hb⟩
    rw [decodeText_decided ho hb hg] at h
    obtain ⟨stop, hs, -⟩ := mapError_eq_error.mp h
    have hrefuses (hstop : stop.IsRefusal) : Refuses version s g := refuses_iff.mpr ⟨stop, hs, hstop⟩
    exact absurd (breaks_iff.mpr ⟨stop, hs, fun hstop => hg (hrefuses hstop)⟩) hbreaks

theorem decode_of_chars {p : Payload} (h : p.chars = .ok s) (hint : Option String)
    (version : Option Text) : decode hint version p = decodeText hint version s := by
  rw [decode, h]
  rfl

/-- Decoding ends with crates or with an error of its own exactly if no generation that has a say
breaks; without a hint, such an error comes after every generation was tried. -/
theorem decode_contained (hint : Option String) (version : Option Text) (p : Payload) :
    (Contained (decode hint version p) ↔
      ∀ s, p.chars = .ok s → ∀ g, Tried hint version s g → ¬ Breaks version s g) ∧
    ∀ s e, p.chars = .ok s → decode none version p = .error e →
      Contained (decode none version p) →
        ∃ attempts, e = .unsupported attempts ∧ attempts.map (·.1) = order (detect s) := by
  constructor
  · cases hp : p.chars with
    | error e =>
      obtain ⟨refusal, rfl⟩ : ∃ refusal, e = .refused refusal := by
        cases p with
        | text s => cases hp
        | bytes b =>
          obtain ⟨_, -, rfl⟩ := mapError_eq_error.mp hp
          exact ⟨_, rfl⟩
      refine ⟨fun _ s hs => ?_, fun _ => .inr (.inl ⟨refusal, ?_⟩)⟩
      · cases hs
      · rw [decode, hp]
        rfl
    | ok s =>
      rw [decode_of_chars hp, decodeText_contained]
      refine ⟨fun h t ht => ?_, fun h => h s rfl⟩
      cases ht
      exact h
  · intro s e hp h hc
    rw [decode_of_chars hp] at h hc
    exact tried_all h hc

/-- A declaration of an integer. -/
def declaration (digits : List Char) : List Char := "var x=".toList ++ (digits ++ [';'])

theorem breaks_declaration {digits : List Char} (hd : ∀ c ∈ digits, c.isDigit)
    (hn : maxIntegerDigits < digits.length) (version : Option Text) :
    Breaks version (declaration digits) .v1 := by
  have hfront : Literal.evaluate "var x=".toList = .error (.problem .unexpectedEnd []) := rfl
  have hne : digits ≠ [] := by
    rintro rfl
    simp at hn
  refine .inl ⟨"var x=".toList, digits ++ [';'], digits.length, rfl, ⟨hn, ?_⟩, .inl hfront⟩
  exact ⟨[], digits, [';'], rfl, ⟨.inl rfl, hne, hd⟩, rfl, endsInteger_cons rfl _⟩

theorem decode_declaration :
    ¬ Contained (decode (some "v1") none (.text (declaration (List.replicate 4301 '1')))) := by
  have hbreaks : Breaks none (declaration (List.replicate 4301 '1')) .v1 := by
    refine breaks_declaration (fun c hc => ?_) ?_ none
    · rw [List.eq_of_mem_replicate hc]
      rfl
    · rw [List.length_replicate]
      decide
  rw [decode_text, decodeText_contained]
  exact fun h => h .v1 ⟨[], [], rfl, fun b hb => by cases hb⟩ hbreaks

end RustdocIndex.Payload
