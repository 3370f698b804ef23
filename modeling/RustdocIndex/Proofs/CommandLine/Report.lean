import RustdocIndex.CommandLine.Run
import RustdocIndex.Proofs.Json.Printing
import RustdocIndex.Proofs.Result

/-! What the command reports about a result. A message is well-formed unless it quotes the name of
an item that is not. -/
namespace RustdocIndex

open Text (IsWellFormed isWellFormed_append isWellFormed_joinWith isWellFormed_ofString)

namespace Payload

/-- The name that a message holds as it is in the payload, neither quoted nor checked. -/
def Cause.rawName? : Cause → Option Text
  | .crate _ (.parentOutOfRange _ name _ _) => some name
  | _ => none

/-- The message of a cause has no half of a surrogate pair but in a name. -/
theorem Cause.isWellFormed_message (render : Schema.Report → String) (c : Cause) :
    (c.message render).IsWellFormed ↔ ∀ name ∈ c.rawName?, name.IsWellFormed := by
  cases c with
  | crate name p =>
    rw [message, isWellFormed_append]
    cases p with
    | parentOutOfRange position row parent paths =>
      simp [rawName?, CrateProblem.message, isWellFormed_append, isWellFormed_ofString]
    | _ => simp [rawName?, CrateProblem.message, isWellFormed_append, isWellFormed_ofString]
  | _ => simp [rawName?, message, isWellFormed_append, isWellFormed_ofString]

theorem Refusal.isWellFormed_message (render : Schema.Report → String) (r : Refusal) :
    (r.message render).IsWellFormed ↔ ∀ name ∈ r.cause.rawName?, name.IsWellFormed := by
  rw [message, isWellFormed_append, isWellFormed_append, Cause.isWellFormed_message]
  simp [isWellFormed_ofString]

theorem isWellFormed_unsupportedMessage (render : Schema.Report → String)
    (attempts : List (Generation × Refusal)) :
    (unsupportedMessage render attempts).IsWellFormed ↔
      ∀ a ∈ attempts, ∀ name ∈ a.2.cause.rawName?, name.IsWellFormed := by
  rw [unsupportedMessage, isWellFormed_append, isWellFormed_append, flatten_intersperse,
    isWellFormed_joinWith (isWellFormed_ofString _), List.forall_mem_map]
  simp only [isWellFormed_append, isWellFormed_ofString, Cause.isWellFormed_message, true_and,
    and_true]

end Payload

namespace CommandLine

variable {args : Arguments} {result : Except Failure (SimplePath × Outcome × Option Text)}
  {p : Printed} {f : Failure}

/-- The causes that the message of a failure tells. -/
def Failure.causes : Failure → List Payload.Cause
  | .lookup (.payload (.refused r)) => [r.cause]
  | .lookup (.payload (.unsupported attempts)) => attempts.map (·.2.cause)
  | _ => []

/-- The text of a report is well-formed but for the names that its causes tell. -/
theorem Failure.isWellFormed_detail {kind : String} {detail : Text}
    (h : f.report? = some (kind, detail)) :
    detail.IsWellFormed ↔ ∀ c ∈ f.causes, ∀ name ∈ c.rawName?, name.IsWellFormed := by
  have hplain (s : String) : (Text.ofString s).IsWellFormed ↔
      ∀ c ∈ ([] : List Payload.Cause), ∀ name ∈ c.rawName?, name.IsWellFormed := by
    simp [isWellFormed_ofString]
  cases f with
  | noValue | fileName => cases h
  | file e =>
    cases h
    exact hplain _
  | lookup e =>
    cases e with
    | path e | noCrate e =>
      cases h
      exact hplain _
    | identity e =>
      cases e <;> cases h <;> exact hplain _
    | web e =>
      cases e with
      | outage o => cases o <;> cases h <;> exact hplain _
      | _ => cases h <;> exact hplain _
    | payload f =>
      cases f with
      | refused r =>
        cases h
        simpa [causes] using r.isWellFormed_message _
      | unsupported attempts =>
        cases h
        rw [causes, List.forall_mem_map]
        exact Payload.isWellFormed_unsupportedMessage _ attempts
      | _ => cases h

/-- An object of texts under different names is read back. -/
theorem parse_print_jsonObject {fields : List (String × Json)}
    (hkeys : ((fields.map (·.1)).map Text.ofString).Nodup)
    (h : ∀ f ∈ fields, Json.IsOptionalText f.2) :
    Json.parse (jsonObject fields).print.toList = .ok (jsonObject fields) := by
  refine Json.parse_print (by simpa [Function.comp_def] using hkeys) ?_
  simp only [List.forall_mem_map]
  exact fun f hf => ⟨isWellFormed_ofString _, h f hf⟩

theorem parse_print_error {kind : String} {detail path : Text} (hdetail : detail.IsWellFormed)
    (hpath : path.IsWellFormed) :
    let response : ErrorResponse := ⟨kind, some detail, some path⟩
    Json.parse response.toJson.print.toList = .ok response.toJson := by
  have hkeys : (["error", "detail", "path"].map Text.ofString).Nodup := by decide
  refine parse_print_jsonObject hkeys ?_
  simp only [List.forall_mem_cons, List.not_mem_nil, false_implies, implies_true, and_true]
  exact ⟨.inr ⟨_, rfl, isWellFormed_ofString _⟩, .inr ⟨_, rfl, hdetail⟩, .inr ⟨_, rfl, hpath⟩⟩

theorem parse_print_link {path url : Text} (hpath : path.IsWellFormed) (hurl : url.IsWellFormed)
    (target : LinkTarget) (kind : Option ItemKind) :
    let response : LinkResponse := ⟨path, target, kind, url⟩
    Json.parse response.toJson.print.toList = .ok response.toJson := by
  have hkeys : (["path", "outcome", "kind", "url"].map Text.ofString).Nodup := by decide
  refine parse_print_jsonObject hkeys ?_
  simp only [List.forall_mem_cons, List.not_mem_nil, false_implies, implies_true, and_true]
  refine ⟨.inr ⟨_, rfl, hpath⟩, .inr ⟨_, rfl, isWellFormed_ofString _⟩, ?_, .inr ⟨_, rfl, hurl⟩⟩
  cases kind with
  | none => exact .inl rfl
  | some k => exact .inr ⟨_, rfl, isWellFormed_ofString _⟩

/-- What the command says about a result is printed: its status tells whether there is an address,
no item, or a failure. JSON goes to the output as one document, and otherwise there is only an
address on the output. -/
structure Reports (args : Arguments)
    (result : Except Failure (SimplePath × Outcome × Option Text)) (p : Printed) : Prop where
  found : p.status = 0 ↔ ∃ path o url, result = .ok (path, o, some url)
  notFound : p.status = 1 ↔ ∃ path wanted, result = .ok (path, .notFound wanted, none)
  failed : p.status = 2 ↔ ∃ f, result = .error f
  json : args.json = true → (∃ r : LinkResponse, p.status = 0 ∧ p.out = line r.toJson.print ∧
      Json.parse r.toJson.print.toList = .ok r.toJson) ∨
    ∃ r : ErrorResponse, p.status ≠ 0 ∧ p.out = line r.toJson.print ∧
      Json.parse r.toJson.print.toList = .ok r.toJson
  text : args.json = false → p.status ≠ 0 → p.out = []
  isWellFormed_out : p.out.IsWellFormed

/-- What is found is well-formed text, and only an item that is not there has no address. -/
def IsSound (result : Except Failure (SimplePath × Outcome × Option Text)) : Prop :=
  ∀ path o url, result = .ok (path, o, url) → path.text.IsWellFormed ∧
    (∀ u ∈ url, u.IsWellFormed) ∧ (url = none ↔ ∃ wanted, o = .notFound wanted)

theorem isWellFormed_line {t : Text} : (line t).IsWellFormed ↔ t.IsWellFormed := by
  simp [line, isWellFormed_append, isWellFormed_ofString]

/-- The path can be written in a report. -/
def Arguments.HasPlainPath (args : Arguments) : Prop := args.json = true → args.path.IsWellFormed

/-- An error is printed if its text and the path can be written: as one document or beside the
output. -/
theorem printError_eq {detail : Text} (hpath : args.HasPlainPath)
    (hdetail : args.json = true → detail.IsWellFormed) (status : Nat) (kind : String) :
    ∃ p, printError args status kind detail = .printed p ∧ p.status = status ∧
      p.out.IsWellFormed ∧ (args.json = false → p.out = []) ∧
      (args.json = true → ∃ r : ErrorResponse, p.out = line r.toJson.print ∧
        Json.parse r.toJson.print.toList = .ok r.toJson) := by
  unfold printError
  cases hj : args.json with
  | false =>
    refine ⟨_, rfl, rfl, by simp [IsWellFormed], fun _ => rfl, fun h => ?_⟩
    cases h
  | true =>
    have hfind : [detail, args.path].find? (·.any (·.isSurrogate)) = none := by
      simp [Text.any_isSurrogate_eq_false.mpr (hdetail hj),
        Text.any_isSurrogate_eq_false.mpr (hpath hj)]
    rw [if_neg (by simp), hfind]
    refine ⟨_, rfl, rfl, isWellFormed_line.mpr (isWellFormed_ofString _), ?_, fun _ => ?_⟩
    · intro h
      cases h
    · exact ⟨_, rfl, parse_print_error (hdetail hj) (hpath hj)⟩

/-- A failure that the command can report: it is of a kind that is caught, and its text can be
written. -/
def Failure.IsReported (json : Bool) (f : Failure) : Prop :=
  f.report?.isSome ∧ (json = true → ∀ c ∈ f.causes, ∀ name ∈ c.rawName?, name.IsWellFormed)

theorem Failure.isReported_of_causes {json : Bool} (h : f.report?.isSome = true)
    (hc : f.causes = []) : f.IsReported json := by
  refine ⟨h, fun _ c hm => ?_⟩
  rw [hc] at hm
  cases hm

theorem Failure.not_isReported {json : Bool} (h : f.report? = none) : ¬ f.IsReported json := by
  intro hr
  have hsome := hr.1
  rw [h] at hsome
  cases hsome

/-- An address is reported with status 0. -/
theorem reports_link {path : SimplePath} {o : Outcome} {url : Text} (hpath : path.text.IsWellFormed)
    (hurl : url.IsWellFormed) :
    ∃ p, conclude args (.ok (path, o, some url)) = .printed p ∧
      Reports args (.ok (path, o, some url)) p := by
  simp only [conclude, printLink]
  cases hj : args.json with
  | false =>
    refine ⟨_, rfl, ⟨by simp, by simp, by simp, fun h => ?_, fun _ h => absurd rfl h, ?_⟩⟩
    · rw [hj] at h
      cases h
    · exact isWellFormed_line.mpr hurl
  | true =>
    refine ⟨_, rfl, ⟨by simp, by simp, by simp, fun _ => ?_, fun _ h => absurd rfl h, ?_⟩⟩
    · exact .inl ⟨_, rfl, rfl, parse_print_link hpath hurl _ _⟩
    · exact isWellFormed_line.mpr (isWellFormed_ofString _)

/-- An item that is not there is reported with status 1. -/
theorem reports_notFound (hpath : args.HasPlainPath) (path : SimplePath) (wanted : Text) :
    ∃ p, conclude args (.ok (path, .notFound wanted, none)) = .printed p ∧
      Reports args (.ok (path, .notFound wanted, none)) p := by
  obtain ⟨p, hp, hstatus, hout, htext, hjson⟩ := printError_eq hpath
    (fun hj => isWellFormed_append.mpr ⟨isWellFormed_ofString "no item found for ", hpath hj⟩)
    1 "NotFound"
  refine ⟨p, hp, ⟨by simp [hstatus], by simp [hstatus], by simp [hstatus], fun hj => ?_,
    fun hj _ => htext hj, hout⟩⟩
  obtain ⟨r, hr⟩ := hjson hj
  exact .inr ⟨r, by simp [hstatus], hr⟩

/-- A failure is reported with status 2. -/
theorem reports_failure (hpath : args.HasPlainPath) (h : f.IsReported args.json) :
    ∃ p, conclude args (.error f) = .printed p ∧ Reports args (.error f) p := by
  obtain ⟨⟨kind, detail⟩, hf⟩ := Option.isSome_iff_exists.mp h.1
  have hdetail (hj : args.json = true) : detail.IsWellFormed :=
    (Failure.isWellFormed_detail hf).mpr (h.2 hj)
  obtain ⟨p, hp, hstatus, hout, htext, hjson⟩ := printError_eq hpath hdetail 2 kind
  refine ⟨p, by rw [conclude, hf]; exact hp, ⟨by simp [hstatus], by simp [hstatus],
    by simp [hstatus], fun hj => ?_, fun hj _ => htext hj, hout⟩⟩
  obtain ⟨r, hr⟩ := hjson hj
  exact .inr ⟨r, by simp [hstatus], hr⟩

/-- What is printed in JSON can be written. -/
theorem isWellFormed_of_printError {status : Nat} {kind : String} {detail : Text}
    (h : printError args status kind detail = .printed p) (hj : args.json = true) :
    detail.IsWellFormed ∧ args.path.IsWellFormed := by
  simp only [printError, hj, Bool.not_true, if_neg Bool.false_ne_true] at h
  split at h
  · cases h
  · next hfind => simpa [IsWellFormed] using hfind

/-- A failure that is printed has a report, whose texts can be written. -/
theorem report_of_printed (h : conclude args (.error f) = .printed p) :
    ∃ kind detail, f.report? = some (kind, detail) ∧
      (args.json = true → detail.IsWellFormed ∧ args.path.IsWellFormed) := by
  cases hf : f.report? with
  | none =>
    simp only [conclude, hf] at h
    cases h
  | some report =>
    simp only [conclude, hf] at h
    exact ⟨report.1, report.2, rfl, isWellFormed_of_printError h⟩

theorem hasPlainPath_of_printed (h : conclude args (.error f) = .printed p) :
    args.HasPlainPath := by
  obtain ⟨kind, detail, -, hplain⟩ := report_of_printed h
  exact fun hj => (hplain hj).2

/-- Only what is reported is printed. -/
theorem isReported_of_printed (h : conclude args (.error f) = .printed p) :
    f.IsReported args.json := by
  obtain ⟨kind, detail, hf, hplain⟩ := report_of_printed h
  exact ⟨by simp [hf], fun hj => (Failure.isWellFormed_detail hf).mp (hplain hj).1⟩

/-- A sound result is concluded with a report, unless it is a failure that cannot be reported. -/
theorem conclude_printed (hpath : args.HasPlainPath) (hresult : IsSound result) :
    (∃ p, conclude args result = .printed p ∧ Reports args result p) ∨
      ∃ f, result = .error f ∧ ¬ f.IsReported args.json ∧ ∀ p, conclude args result ≠ .printed p := by
  cases result with
  | error f =>
    by_cases hf : f.IsReported args.json
    · exact .inl (reports_failure hpath hf)
    · exact .inr ⟨f, rfl, hf, fun p hp => hf (isReported_of_printed hp)⟩
  | ok found =>
    obtain ⟨path, o, url⟩ := found
    obtain ⟨hfound, hurl, hnone⟩ := hresult path o url rfl
    cases url with
    | some url => exact .inl (reports_link hfound (hurl url rfl))
    | none =>
      obtain ⟨wanted, rfl⟩ := hnone.mp rfl
      exact .inl (reports_notFound hpath path wanted)

end CommandLine

end RustdocIndex
