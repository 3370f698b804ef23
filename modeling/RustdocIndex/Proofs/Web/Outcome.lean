import RustdocIndex.Proofs.Version.Reading
import RustdocIndex.Proofs.Web.Download

/-! What downloads end with, for any answers of the server: how often an address is requested, which
answer counts, and what becomes of it under the limit. -/
namespace RustdocIndex

section

variable {c : Char} {ds : List Char}

/-- The number that decimal digits write. -/
def decimalValue (ds : List Char) : Nat := ofDigits (ds.map (·.toNat - 48))

theorem digitValue?_of_isDigit (h : c.isDigit) : digitValue? c = some (c.toNat - 48) := by
  obtain ⟨hlow, hhigh⟩ := toNat_of_isDigit h
  have hzero : zeroDigits.find? (fun z => z ≤ c.toNat && c.toNat < z + 10) = some 48 := by
    rw [zeroDigits, List.find?_cons_of_pos]
    simp only [Bool.and_eq_true, decide_eq_true_eq]
    omega
  rw [digitValue?, hzero]
  rfl

theorem takeDigits_of_isDigit (h : ∀ c ∈ ds, c.isDigit) (seen : List Nat) :
    takeDigits seen ds = some (seen.reverse ++ ds.map (·.toNat - 48), []) := by
  induction ds generalizing seen with
  | nil => simp [takeDigits]
  | cons c ds ih =>
    have hc : c.isDigit := h c (by simp)
    have hne : c ≠ '_' := by
      rintro rfl
      exact absurd hc (by decide)
    rw [takeDigits.eq_def]
    split
    · contradiction
    · next heq => simp_all
    · next heq =>
      cases heq
      rw [digitValue?_of_isDigit hc]
      simp only
      rw [ih fun c hc => h c (List.mem_cons_of_mem _ hc)]
      simp

/-- A digit is neither white space nor a sign. -/
theorem takeSign_of_isDigit (h : c.isDigit) (more : List Char) :
    takeSign ((c :: more).dropWhile isNumberBlank) = (false, c :: more) := by
  obtain ⟨hlow, hhigh⟩ := toNat_of_isDigit h
  have hblank : isNumberBlank c = false := by
    simp only [isNumberBlank, isBlank, Bool.and_eq_false_iff, Bool.or_eq_false_iff,
      decide_eq_false_iff_not, beq_eq_false_iff_ne]
    omega
  rw [List.dropWhile_cons_of_neg (by simp [hblank]), takeSign.eq_def]
  split
  · next heq =>
    cases heq
    exact absurd h (by decide)
  · next heq =>
    cases heq
    exact absurd h (by decide)
  · rfl

/-- Decimal digits are an integer, unless there are too many of them. -/
theorem readInteger_of_isDigit (hne : ds ≠ []) (h : ∀ c ∈ ds, c.isDigit) :
    readInteger (String.ofList ds) =
      if maxIntegerDigits < ds.length then .error (.tooLong ds.length)
      else .ok (decimalValue ds) := by
  obtain ⟨c, more, rfl⟩ := List.exists_cons_of_ne_nil hne
  rw [readInteger, String.toList_ofList, takeSign_of_isDigit (h c (by simp))]
  simp only
  rw [takeDigits_of_isDigit h]
  simp [decimalValue]

end

/-- The header gives a length in decimal digits. -/
structure Response.Declares (r : Response) (ds : List Char) : Prop where
  header : r.declaredLength = some (String.ofList ds)
  ne_nil : ds ≠ []
  isDigit : ∀ c ∈ ds, c.isDigit

/-- A response with a length in decimal digits, or with none. -/
def Response.DeclaresDecimal (r : Response) : Prop :=
  r.declaredLength = none ∨ ∃ ds, r.Declares ds

namespace Web

variable {limits : Limits} {server : Server} {url : String} {log : List String} {r : Response}
  {ds : List Char}

/-- What a download promises to end with, by its last answer: an outage is told, a response of
another status or above the limit is refused, and any other one is delivered whole. -/
inductive Promised (limits : Limits) (url : String) :
    Except Outage Response → Except WebError (String × Bytes) → Prop
  | outage (o : Outage) : Promised limits url (.error o) (.error (.outage o))
  | status {r : Response} (h : r.status ≠ 200) :
      Promised limits url (.ok r) (.error (.status url r.status))
  | declaredTooLarge {r : Response} {ds : List Char} (h : r.status = 200) (hd : r.Declares ds)
      (hlarge : limits.maxSize < decimalValue ds) :
      Promised limits url (.ok r) (.error (.declaredTooLarge url (String.ofList ds)))
  | tooLarge {r : Response} (h : r.status = 200)
      (hd : ∀ ds, r.Declares ds → (decimalValue ds : Int) ≤ limits.maxSize)
      (hlarge : limits.maxSize < r.body.length) :
      Promised limits url (.ok r) (.error (.tooLarge url))
  | delivered {r : Response} (h : r.status = 200)
      (hd : ∀ ds, r.Declares ds → (decimalValue ds : Int) ≤ limits.maxSize)
      (hsize : (r.body.length : Int) ≤ limits.maxSize) :
      Promised limits url (.ok r) (.ok (r.url, r.body))

/-- The responses that the limits are not kept for: one whose declared length has too many digits to
be read, and an empty one under a limit below zero, since the size is looked at behind each chunk
only. -/
inductive Escapes (limits : Limits) (r : Response) : Prop
  | digits {ds : List Char} (h : r.status = 200) (hd : r.Declares ds)
      (hlong : maxIntegerDigits < ds.length)
  | empty (h : r.status = 200) (hd : r.declaredLength = none) (hlimit : limits.maxSize < 0)
      (hbody : r.body = [])

theorem checkDeclared_of_declares (hd : r.Declares ds) :
    checkDeclared limits url r.declaredLength =
      if maxIntegerDigits < ds.length then .error (.invalidLength (.tooLong ds.length))
      else if limits.maxSize < decimalValue ds
        then .error (.declaredTooLarge url (String.ofList ds))
      else .ok () := by
  have hne : String.ofList ds ≠ "" := by
    intro he
    exact hd.ne_nil (by simpa using congrArg String.toList he)
  rw [hd.header, checkDeclared.eq_def]
  split
  · contradiction
  · next heq => exact absurd (Option.some.inj heq) hne
  · next heq =>
    cases heq
    rw [readInteger_of_isDigit hd.ne_nil hd.isDigit]
    by_cases hlong : maxIntegerDigits < ds.length
    · simp only [if_pos hlong]
    · simp only [if_neg hlong]

theorem eq_of_declares {ds' : List Char} (hd : r.Declares ds) (hd' : r.Declares ds') : ds' = ds := by
  have heq := hd'.header.symm.trans hd.header
  simpa using congrArg String.toList (Option.some.inj heq)

/-- One result is promised. -/
theorem Promised.unique {answer : Except Outage Response} {x y : Except WebError (String × Bytes)}
    (hx : Promised limits url answer x) (hy : Promised limits url answer y) : x = y := by
  cases hx with
  | outage o =>
    cases hy
    rfl
  | status hs =>
    cases hy with
    | status => rfl
    | declaredTooLarge h | tooLarge h | delivered h => exact absurd h hs
  | declaredTooLarge hs hd hlarge =>
    cases hy with
    | status h => exact absurd hs h
    | declaredTooLarge _ hd' => rw [eq_of_declares hd hd']
    | tooLarge _ hle | delivered _ hle => exact absurd hlarge (Int.not_lt.mpr (hle _ hd))
  | tooLarge hs hle hlarge =>
    cases hy with
    | status h => exact absurd hs h
    | declaredTooLarge _ hd h => exact absurd h (Int.not_lt.mpr (hle _ hd))
    | tooLarge => rfl
    | delivered _ _ h => exact absurd hlarge (Int.not_lt.mpr h)
  | delivered hs hle hsize =>
    cases hy with
    | status h => exact absurd hs h
    | declaredTooLarge _ hd h => exact absurd h (Int.not_lt.mpr (hle _ hd))
    | tooLarge _ _ h => exact absurd h (Int.not_lt.mpr hsize)
    | delivered => rfl

theorem Escapes.not_promised (h : Escapes limits r) :
    ¬ Promised limits url (.ok r) (receive limits url r) := by
  cases h with
  | digits h hd hlong =>
    rw [receive_eq, if_neg (not_not.mpr h), checkDeclared_of_declares hd, if_pos hlong]
    intro hp
    cases hp
  | empty h hd hlimit hbody =>
    rw [receive_of_checkDeclared h (by rw [hd]; rfl), if_pos (.inl hbody)]
    intro hp
    cases hp with
    | delivered _ _ hsize =>
      rw [hbody, List.length_nil] at hsize
      omega

/-- What the size of a response is checked for that declares nothing above the limit. -/
theorem promised_of_checkDeclared (h : r.status = 200)
    (hcheck : checkDeclared limits url r.declaredLength = .ok ())
    (hd : ∀ ds, r.Declares ds → (decimalValue ds : Int) ≤ limits.maxSize)
    (hbody : r.body = [] → 0 ≤ limits.maxSize) :
    Promised limits url (.ok r) (receive limits url r) := by
  rw [receive_of_checkDeclared h hcheck]
  split
  · next hsize =>
    rcases hsize with he | hsize
    · exact .delivered h hd (by simpa [he] using hbody he)
    · exact .delivered h hd hsize
  · next hsize => exact .tooLarge h hd (Int.not_le.mp fun hle => hsize (.inr hle))

theorem promised_receive (hr : r.DeclaresDecimal) (h : ¬ Escapes limits r) :
    Promised limits url (.ok r) (receive limits url r) := by
  by_cases hs : r.status = 200
  · rcases hr with hnone | ⟨ds, hd⟩
    · refine promised_of_checkDeclared hs (by rw [hnone]; rfl) ?_ ?_
      · intro ds hd
        cases hnone.symm.trans hd.header
      · intro hbody
        exact Int.not_lt.mp fun hlimit => h (.empty hs hnone hlimit hbody)
    · have hlong : ¬ maxIntegerDigits < ds.length := fun hlong => h (.digits hs hd hlong)
      have hcheck : checkDeclared limits url r.declaredLength = _ := checkDeclared_of_declares hd
      rw [if_neg hlong] at hcheck
      by_cases hlarge : limits.maxSize < decimalValue ds
      · rw [if_pos hlarge] at hcheck
        rw [receive_eq, if_neg (not_not.mpr hs), hcheck]
        exact .declaredTooLarge hs hd hlarge
      · rw [if_neg hlarge] at hcheck
        refine promised_of_checkDeclared hs hcheck ?_ ?_
        · intro ds' hd'
          rw [eq_of_declares hd hd']
          exact Int.not_lt.mp hlarge
        · intro _
          omega
  · rw [receive_eq, if_pos hs]
    exact .status hs

theorem promised_conclude_iff {answer : Except Outage Response}
    (hr : ∀ r, answer = .ok r → r.DeclaresDecimal) :
    Promised limits url answer (conclude limits url answer) ↔
      ∀ r, answer = .ok r → ¬ Escapes limits r := by
  cases answer with
  | error o => exact ⟨fun _ _ h => (nomatch h), fun _ => .outage o⟩
  | ok r =>
    constructor
    · rintro hp _ ⟨⟩ he
      exact he.not_promised hp
    · exact fun h => promised_receive (hr r rfl) (h r rfl)

/-- A body that is delivered is not above the limit, whatever length was declared. -/
theorem length_of_conclude {answer : Except Outage Response} {finalUrl : String} {body : Bytes}
    (h : conclude limits url answer = .ok (finalUrl, body)) :
    body = [] ∨ (body.length : Int) ≤ limits.maxSize := by
  obtain ⟨r, -, hreceive⟩ := conclude_eq_ok.mp h
  obtain ⟨-, -, hsize, -, rfl⟩ := receive_eq_ok.mp hreceive
  exact hsize

/-- The size of the chunks does not matter. -/
theorem download_chunkSize (size : Nat) :
    runFrom (download server { limits with chunkSize := size } url) log =
      runFrom (download server limits url) log := by
  have hconclude : ∀ answer, conclude { limits with chunkSize := size } url answer =
      conclude limits url answer := by
    intro answer
    cases answer with
    | error o => rfl
    | ok r =>
      simp only [conclude, receive_eq]
      rfl
  rw [runFrom_download, runFrom_download]
  simp only [hconclude]

/-- A download requests its address until an answer arrives, three times at most, and ends with what
is promised for its last answer, unless that one escapes the limits. -/
theorem download_promised (hattempts : limits.attempts = 3)
    (hdecimal : ∀ i r, server url i = .ok r → r.DeclaresDecimal) (log : List String) :
    let answers := fun i => server url (log.count url + i)
    let made := min 3 (1 + leadingOutages answers 3)
    let last := answers (made - 1)
    ∃ result, runFrom (download server limits url) log = (result, log ++ List.replicate made url) ∧
      (∀ i < made - 1, ∃ o, answers i = .error o) ∧
      (Promised limits url last result ↔ ∀ r, last = .ok r → ¬ Escapes limits r) ∧
      (∀ finalUrl body, result = .ok (finalUrl, body) →
        body = [] ∨ (body.length : Int) ≤ limits.maxSize) ∧
      ∀ size, runFrom (download server { limits with chunkSize := size } url) log =
        runFrom (download server limits url) log := by
  intro answers made last
  have hmade : made = leadingOutages answers 2 + 1 := leadingOutages_succ.symm
  have hlast : last = answers (leadingOutages answers 2) := by
    simp only [last, hmade, Nat.add_sub_cancel]
  refine ⟨conclude limits url last, ?_, ?_, ?_, ?_, download_chunkSize⟩
  · rw [runFrom_download, hattempts, hlast, hmade]
  · intro i hi
    rw [hmade, Nat.add_sub_cancel] at hi
    exact answers_of_lt_leadingOutages hi
  · exact promised_conclude_iff fun r hr => hdecimal _ r hr
  · intro finalUrl body h
    exact length_of_conclude h

def threeBytes : Response := ⟨200, "u", some "3", [1, 2, 3]⟩

theorem declares_threeBytes : threeBytes.Declares ['3'] := by
  refine ⟨rfl, by simp, fun c hc => ?_⟩
  rw [List.mem_singleton.mp hc]
  rfl

/-- A server with one outage. -/
def flakyServer : Server := fun _ earlier => if earlier = 0 then .error .timeout else .ok threeBytes

/-- A body that is exactly as large as the limit is delivered at the second attempt. -/
theorem download_promised_flaky : (⟨3, 2, 3⟩ : Limits).attempts = 3 ∧
    (∀ i r, flakyServer "u" i = .ok r → r.DeclaresDecimal) ∧
    runFrom (download flakyServer ⟨3, 2, 3⟩ "u") [] = (.ok ("u", [1, 2, 3]), ["u", "u"]) := by
  have hdecimal : ∀ i r, flakyServer "u" i = .ok r → r.DeclaresDecimal := by
    intro i r h
    rw [flakyServer] at h
    split at h
    · cases h
    · cases h
      exact .inr ⟨_, declares_threeBytes⟩
  have hlength : ∀ ds, threeBytes.Declares ds → (decimalValue ds : Int) ≤ 3 := by
    intro ds hd
    rw [eq_of_declares declares_threeBytes hd]
    decide
  have hescapes : ¬ Escapes ⟨3, 2, 3⟩ threeBytes := by
    rintro (⟨-, hd, hlong⟩ | ⟨-, hnone, -⟩)
    · rw [eq_of_declares declares_threeBytes hd] at hlong
      exact absurd hlong (by decide)
    · cases hnone
  obtain ⟨result, hrun, -, hpromised, -⟩ :=
    download_promised (show (⟨3, 2, 3⟩ : Limits).attempts = 3 from rfl) hdecimal []
  have hresult : Promised ⟨3, 2, 3⟩ "u" (.ok threeBytes) result := by
    apply hpromised.mpr
    rintro r ⟨⟩
    exact hescapes
  rw [hresult.unique (.delivered rfl hlength (by decide))] at hrun
  exact ⟨rfl, hdecimal, hrun⟩

/-- A response of a length that has too many digits. -/
def longLength : Response := ⟨200, "u", some (String.ofList (List.replicate 4301 '1')), [1]⟩

/-- A length above the limit is not told as such if it has too many digits, and an empty body is
delivered under a limit below zero. -/
theorem download_unpromised :
    runFrom (download (fun _ _ => .ok longLength) ⟨10, 2, 3⟩ "u") [] =
      (.error (.invalidLength (.tooLong 4301)), ["u"]) ∧
    (∃ ds, longLength.Declares ds ∧ 10 < decimalValue ds) ∧
    runFrom (download (fun _ _ => .ok ⟨200, "u", none, []⟩) ⟨-1, 2, 3⟩ "u") [] =
      (.ok ("u", []), ["u"]) := by
  have hrun : ∀ limits r, runFrom (download (fun _ _ => .ok r) limits "u") [] =
      (receive limits "u" r, ["u"]) := by
    intro limits r
    have hlead : ∀ n, leadingOutages (fun _ => .ok r) n = 0 := by
      intro n
      cases n <;> rfl
    rw [runFrom_download]
    simp only [hlead]
    rfl
  have hlong : maxIntegerDigits < (List.replicate 4301 '1').length := by
    rw [List.length_replicate]
    decide
  have hd : longLength.Declares (List.replicate 4301 '1') := by
    refine ⟨rfl, List.ne_nil_of_length_pos (Nat.zero_lt_of_lt hlong), fun c hc => ?_⟩
    rw [List.eq_of_mem_replicate hc]
    rfl
  refine ⟨?_, ⟨_, hd, ?_⟩, ?_⟩
  · rw [hrun, receive_eq, if_neg (not_not.mpr (by rfl)), checkDeclared_of_declares hd, if_pos hlong,
      List.length_replicate]
    rfl
  · -- the last two digits alone are above the limit
    rw [decimalValue, List.map_replicate, List.replicate_succ', List.replicate_succ',
      ofDigits_concat, ofDigits_concat]
    have hone : '1'.toNat - 48 = 1 := rfl
    omega
  · rw [hrun, receive_of_checkDeclared rfl rfl, if_pos (.inl rfl)]

end Web

end RustdocIndex
