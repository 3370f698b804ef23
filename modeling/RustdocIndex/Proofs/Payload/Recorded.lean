import RustdocIndex.Payload.Decode
import RustdocIndex.Proofs.Result

/-! The version that crates are recorded under has no part in decoding them. -/
namespace RustdocIndex

/-- The crate under another version. -/
def Crate.recorded (version : Option Text) (c : Crate) : Crate := { c with version := version }

namespace Payload

variable {α : Type} (g : Generation) (version : Option Text)

/-- The version goes into the crate and has no part in building it. -/
theorem build_recorded (d : Draft) :
    d.build g version = (d.build g none).map (·.recorded version) := by
  rw [Draft.build, Draft.build, map_bind]
  refine congrArg _ (funext fun items => ?_)
  rw [map_bind]
  refine congrArg _ (funext fun index => ?_)
  cases Schema.nonemptyText d.name <;> rfl

theorem buildAll_recorded (draft : Text → α → Except CrateError Draft)
    (entries : List (Text × α)) : buildAll g draft version entries =
      (buildAll g draft none entries).map (List.map (·.recorded version)) := by
  rw [buildAll, buildAll, ← mapM_map]
  refine congrArg (entries.mapM ·) (funext fun (name, data) => ?_)
  cases hd : draft name data with
  | error p => simp only [hd]; rfl
  | ok d =>
    simp only [hd, Except.bind, build_recorded g version d]
    exact mapError_map

theorem crates_recorded (s : List Char) :
    crates g version s = (crates g none s).map (List.map (·.recorded version)) := by
  cases g with
  | v1 =>
    simp only [crates, map_bind]
    exact congrArg _ (funext fun entries => buildAll_recorded .v1 version (rowDraft .v1) entries)
  | v2 =>
    simp only [crates, map_bind]
    exact congrArg _ (funext fun x => congrArg _ (funext fun entries =>
      buildAll_recorded .v2 version jsonRowDraft entries))
  | v3 =>
    simp only [crates, map_bind]
    exact congrArg _ (funext fun x => congrArg _ (funext fun entries =>
      buildAll_recorded .v3 version columnDraft entries))

/-- It has no part in choosing the generation, either. -/
theorem firstOf_recorded (s : List Char) (attempts : List (Generation × Refusal))
    (gs : List Generation) : firstOf version s attempts gs =
      (firstOf none s attempts gs).map (List.map (·.recorded version)) := by
  induction gs generalizing attempts with
  | nil => rfl
  | cons g gs ih =>
    rw [firstOf, firstOf, crates_recorded]
    cases crates g none s with
    | ok found => rfl
    | error stop =>
      cases stop with
      | refused r => exact ih _
      | integerTooLong digits => rfl
      | tooDeepToShow => rfl

/-- A payload is decoded to the same crates under whatever version, or fails the same way. -/
theorem decode_recorded (p : Payload) : decode none version p =
    (decode none none p).map (List.map (·.recorded version)) := by
  rw [decode, decode, map_bind]
  exact congrArg _ (funext fun s => firstOf_recorded version s [] _)

end Payload

end RustdocIndex
