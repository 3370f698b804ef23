import RustdocIndex.Payload.Decode
import RustdocIndex.Proofs.Json.Depth
import RustdocIndex.Proofs.Payload.Shown

/-! Which generation decides about a payload, and what can stop it. -/
namespace RustdocIndex.Payload

variable {version : Option Text} {s : List Char} {attempts tried : List (Generation × Refusal)}
  {before gs after : List Generation} {g : Generation} {found : List Crate}

/-- A generation does not take a text for its own. -/
def Refuses (version : Option Text) (s : List Char) (g : Generation) : Prop :=
  ∃ r, crates g version s = .error (.refused r)

/-- What stops a text from being the program of an index. All of it is told as of the oldest
generation, since no other one has programs. -/
inductive NoProgram (s : List Char) : Stop → Prop
  | invalid {p rest} (h : Literal.evaluate s = .error (.problem p rest)) :
      NoProgram s (.refused (programRefusal s p rest))
  | tooLong {n} (h : Literal.evaluate s = .error (.integerTooLong n)) :
      NoProgram s (.integerTooLong n)
  | empty {st} (h : Literal.evaluate s = .ok st)
      (hs : (st.get? "searchIndex").map Document.shape = some (.object [])) :
      NoProgram s (.refused ⟨some .v1, none, .emptySearchIndex⟩)
  | noIndex {st} (h : Literal.evaluate s = .ok st)
      (hs : ∀ entries, (st.get? "searchIndex").map Document.shape ≠ some (.object entries)) :
      NoProgram s (.refused ⟨some .v1, none, .noSearchIndex⟩)

theorem programEntries_refuses (s : List Char) : FailsOnly (NoProgram s) (programEntries s) := by
  unfold programEntries
  split
  · next h => exact .error (.invalid h)
  · next h => exact .error (.tooLong h)
  · next h =>
    split
    · next hs => exact .error (.empty h hs)
    · exact .ok _
    · next hs => exact .error (.noIndex h hs)

/-- What stops a text from embedding a document, told as of the generation that reads it. -/
inductive NoDocument (g : Generation) (s : List Char) : Stop → Prop
  | missing (h : findOpening? s = none) : NoDocument g s (.refused ⟨some g, none, .noJson⟩)
  | unclosed {body} (h : findOpening? s = some body) (ht : unquote? [] body = none) :
      NoDocument g s
        (.refused ⟨some g, some (Utf8.size s - Utf8.size body), .unterminatedJson⟩)
  | invalid {body text p rest} (h : findOpening? s = some body)
      (ht : unquote? [] body = some text) (hp : Json.parse text = .error (.problem p rest)) :
      NoDocument g s (.refused ⟨some g, none,
        .invalidJson p (Json.position text rest).1 (Json.position text rest).2⟩)
  | tooDeep {body text} (h : findOpening? s = some body) (ht : unquote? [] body = some text)
      (hp : Json.parse text = .error .tooDeep) :
      NoDocument g s (.refused ⟨some g, none, .jsonTooDeep⟩)
  | tooLong {body text n} (h : findOpening? s = some body) (ht : unquote? [] body = some text)
      (hp : Json.parse text = .error (.integerTooLong n)) : NoDocument g s (.integerTooLong n)

theorem document_refuses (g : Generation) (s : List Char) :
    FailsOnly (NoDocument g s) (document g s) := by
  unfold document
  split
  · next h => exact .error (.missing h)
  · next h =>
    split
    · next ht => exact .error (.unclosed h ht)
    · next ht =>
      split
      · exact .ok _
      · next hp => exact .error (.invalid h ht hp)
      · next hp => exact .error (.tooDeep h ht hp)
      · next hp => exact .error (.tooLong h ht hp)

theorem decodeText_hint (name : String) (version : Option Text) (s : List Char) :
    decodeText (some name) version s =
      match Generation.ofName? name with
      | none => .error (.refused ⟨none, none, .unknownGeneration name⟩)
      | some g => (crates g version s).mapError Stop.failure := rfl

theorem decode_text (hint : Option String) (version : Option Text) (s : List Char) :
    decode hint version (.text s) = decodeText hint version s := rfl

/-- With the name of a generation as the hint, that generation alone has a say. -/
theorem decode_name (g : Generation) (version : Option Text) (s : List Char) :
    decode (some g.name) version (.text s) = (crates g version s).mapError Stop.failure := by
  rw [decode_text, decodeText_hint]
  cases g <;> rfl

theorem not_refuses_of_ok (h : crates g version s = .ok found) : ¬ Refuses version s g := by
  rintro ⟨r, hr⟩
  cases h.symm.trans hr

/-- The first generation that does not refuse the text decides. -/
theorem firstOf_decided (hb : ∀ b ∈ before, Refuses version s b) (hg : ¬ Refuses version s g) :
    firstOf version s attempts (before ++ g :: after) =
      (crates g version s).mapError Stop.failure := by
  induction before generalizing attempts with
  | nil =>
    rw [List.nil_append, firstOf]
    cases hc : crates g version s with
    | ok found => rfl
    | error stop =>
      cases stop with
      | refused r => exact absurd ⟨r, hc⟩ hg
      | integerTooLong digits => rfl
      | tooDeepToShow => rfl
  | cons b before ih =>
    obtain ⟨r, hr⟩ := hb b (by simp)
    rw [List.cons_append, firstOf, hr]
    exact ih fun b' h => hb b' (List.mem_cons_of_mem _ h)

theorem firstOf_refused (attempts : List (Generation × Refusal))
    (h : ∀ g ∈ gs, Refuses version s g) :
    ∃ tried, firstOf version s attempts gs = .error (.unsupported tried) ∧
      tried.map (·.1) = attempts.map (·.1) ++ gs := by
  induction gs generalizing attempts with
  | nil => exact ⟨attempts, rfl, by simp⟩
  | cons g gs ih =>
    obtain ⟨r, hr⟩ := h g (by simp)
    obtain ⟨tried, ht, hgs⟩ := ih (attempts ++ [(g, r)])
      fun g' h' => h g' (List.mem_cons_of_mem _ h')
    rw [firstOf, hr]
    exact ⟨tried, ht, by simpa using hgs⟩

/-- The attempts are made in the order of the generations, each with what that generation says. -/
theorem exists_attempts (h : firstOf version s attempts gs = .error (.unsupported tried)) :
    ∃ more, tried = attempts ++ more ∧ more.map (·.1) = gs ∧
      ∀ a ∈ more, crates a.1 version s = .error (.refused a.2) := by
  induction gs generalizing attempts with
  | nil =>
    cases h
    exact ⟨[], by simp, rfl, by simp⟩
  | cons g gs ih =>
    rw [firstOf] at h
    split at h
    · cases h
    · next r hg =>
      obtain ⟨more, rfl, hmap, hmore⟩ := ih h
      refine ⟨(g, r) :: more, by simp, by simp [hmap], fun a ha => ?_⟩
      rcases List.mem_cons.mp ha with rfl | ha
      · exact hg
      · exact hmore a ha
    · cases h
    · cases h

theorem refused_or_decided (version : Option Text) (s : List Char) (gs : List Generation) :
    (∀ g ∈ gs, Refuses version s g) ∨ ∃ before g after, gs = before ++ g :: after ∧
      (∀ b ∈ before, Refuses version s b) ∧ ¬ Refuses version s g := by
  induction gs with
  | nil => exact .inl (by simp)
  | cons h gs ih =>
    by_cases hr : Refuses version s h
    · rcases ih with ih | ⟨before, g, after, rfl, hb, hg⟩
      · exact .inl (by simpa [hr] using ih)
      · exact .inr ⟨h :: before, g, after, rfl, by simpa [hr] using hb, hg⟩
    · exact .inr ⟨[], h, gs, rfl, by simp, hr⟩

theorem firstOf_eq_ok :
    firstOf version s attempts gs = .ok found ↔ ∃ before g after, gs = before ++ g :: after ∧
      (∀ b ∈ before, Refuses version s b) ∧ crates g version s = .ok found := by
  constructor
  · intro h
    rcases refused_or_decided version s gs with hr | ⟨before, g, after, rfl, hb, hg⟩
    · obtain ⟨tried, ht, -⟩ := firstOf_refused attempts hr
      cases h.symm.trans ht
    · rw [firstOf_decided hb hg] at h
      exact ⟨before, g, after, rfl, hb, mapError_eq_ok.mp h⟩
  · rintro ⟨before, g, after, rfl, hb, hg⟩
    rw [firstOf_decided hb (not_refuses_of_ok hg)]
    exact mapError_eq_ok.mpr hg

/-- Every generation is tried, once. -/
theorem order_perm (detected : Option Generation) :
    (order detected).Perm [.v3, .v2, .v1] := by
  rcases detected with _ | g
  · exact .refl _
  · cases g <;> decide

theorem exists_build_of_buildAll {α : Type} {draft : Text → α → Except CrateError Draft}
    {entries : List (Text × α)} {c : Crate} (h : buildAll g draft version entries = .ok found)
    (hc : c ∈ found) : ∃ d : Draft, d.build g version = .ok c := by
  obtain ⟨e, -, he⟩ := exists_of_mem_mapM h hc
  obtain ⟨d, -, hd⟩ := bind_eq_ok.mp (mapError_eq_ok.mp he)
  exact ⟨d, hd⟩

/-- Whatever is decoded was built from a draft. -/
theorem exists_build_of_decode {hint : Option String} {p : Payload} {c : Crate}
    (h : decode hint version p = .ok found) (hc : c ∈ found) :
    ∃ (g : Generation) (d : Draft), d.build g version = .ok c := by
  obtain ⟨s, -, h⟩ := bind_eq_ok.mp h
  obtain ⟨g, hg⟩ : ∃ g, crates g version s = .ok found := by
    cases hint with
    | none =>
      obtain ⟨-, g, -, -, -, hg⟩ := firstOf_eq_ok.mp h
      exact ⟨g, hg⟩
    | some name =>
      rw [decodeText_hint] at h
      split at h
      · cases h
      · exact ⟨_, mapError_eq_ok.mp h⟩
  refine ⟨g, ?_⟩
  cases g with
  | v1 =>
    obtain ⟨entries, -, hb⟩ := bind_eq_ok.mp hg
    exact exists_build_of_buildAll hb hc
  | v2 | v3 =>
    obtain ⟨x, -, hx⟩ := bind_eq_ok.mp hg
    obtain ⟨entries, -, hb⟩ := bind_eq_ok.mp hx
    exact exists_build_of_buildAll hb hc

end RustdocIndex.Payload
