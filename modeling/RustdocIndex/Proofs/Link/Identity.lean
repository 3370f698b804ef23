import RustdocIndex.Link.Crates
import RustdocIndex.Proofs.Payload.Build
import RustdocIndex.Proofs.Payload.Dispatch
import RustdocIndex.Proofs.Version.Reading
import RustdocIndex.Schema.Identity

/-! Identities that their own validation takes as they are. -/
namespace RustdocIndex

open Schema (nonemptyText)
open Schema.Checked (andThen_eq_valid map_eq_valid toExcept_eq_ok under_eq_valid)

namespace CrateIdentity

variable {id : CrateIdentity} {name : Text} {version : Option Text} {hosting : Hosting}

/-- Making an identity of what it holds gives it back. -/
def IsAccepted (id : CrateIdentity) : Prop := make id.name (some id.version.text) id.hosting = .ok id

theorem ensure_eq_valid {other : CrateIdentity} :
    id.ensure = .valid other ↔ other = id ∧ id.misplacedChannel? = none := by
  rw [ensure]
  cases id.misplacedChannel? with
  | none => simp [eq_comm]
  | some c => simp [Schema.Checked.problem]

theorem make_eq_ok : make name version hosting = .ok id ↔ ∃ v,
    Version.parseOption version = .ok v ∧ nonemptyText name = .valid name ∧
      id = ⟨name, v, hosting⟩ ∧ id.misplacedChannel? = none := by
  constructor
  · intro h
    obtain ⟨v, hv, h⟩ := bind_eq_ok.mp h
    obtain ⟨made, hmake, hensure⟩ :=
      andThen_eq_valid.mp (toExcept_eq_ok.mp (mapError_eq_ok.mp h))
    obtain ⟨_, hname, rfl⟩ := map_eq_valid.mp hmake
    have hname := under_eq_valid.mp hname
    obtain ⟨rfl, -⟩ := Schema.nonemptyText_eq_valid hname
    obtain ⟨rfl, hc⟩ := ensure_eq_valid.mp hensure
    exact ⟨v, mapError_eq_ok.mp hv, hname, rfl, hc⟩
  · rintro ⟨v, hv, hname, rfl, hc⟩
    refine bind_eq_ok.mpr ⟨v, mapError_eq_ok.mpr hv, mapError_eq_ok.mpr (toExcept_eq_ok.mpr ?_)⟩
    exact andThen_eq_valid.mpr ⟨_, map_eq_valid.mpr ⟨name, under_eq_valid.mpr hname, rfl⟩,
      ensure_eq_valid.mpr ⟨rfl, hc⟩⟩

/-- An identity is accepted if it has a name, a version that is read from its own text, and a
release channel with the standard library only. -/
theorem isAccepted_iff : id.IsAccepted ↔ nonemptyText id.name = .valid id.name ∧
    Version.parse id.version.text = .ok id.version ∧ id.misplacedChannel? = none := by
  rw [IsAccepted, make_eq_ok, Version.parseOption_ofString]
  constructor
  · rintro ⟨v, hv, hname, hid, hc⟩
    cases (congrArg CrateIdentity.version hid : id.version = v)
    exact ⟨hname, hv, hc⟩
  · rintro ⟨hname, hv, hc⟩
    exact ⟨id.version, hv, hname, rfl, hc⟩

/-- Whatever is made is accepted. -/
theorem isAccepted_of_make (h : make name version hosting = .ok id) : id.IsAccepted := by
  obtain ⟨v, hv, hname, rfl, hc⟩ := make_eq_ok.mp h
  exact isAccepted_iff.mpr ⟨hname, Version.parseOption_text hv, hc⟩

theorem IsAccepted.rename (h : id.IsAccepted) (hname : nonemptyText name = .valid name) :
    { id with name := name }.IsAccepted := by
  obtain ⟨-, hv, hc⟩ := isAccepted_iff.mp h
  exact isAccepted_iff.mpr ⟨hname, hv, hc⟩

end CrateIdentity

namespace Payload

variable {version : Option Text} {found : List Crate} {c : Crate}

theorem name_of_build {g : Generation} {d : Draft} (h : d.build g version = .ok c) :
    nonemptyText c.name = .valid c.name := by
  obtain ⟨items, -, -, hindex, rfl⟩ := build_eq_ok h
  exact (checkedIndex_eq_valid.mp hindex).1

theorem name_of_decode {hint : Option String} {p : Payload} (h : decode hint version p = .ok found)
    (hc : c ∈ found) : nonemptyText c.name = .valid c.name := by
  obtain ⟨g, d, hd⟩ := exists_build_of_decode h hc
  exact name_of_build hd

end Payload

namespace CrateLinks

variable {id : CrateIdentity} {p : Payload} {links : List CrateLinks} {l : CrateLinks}

theorem load_eq_ok : load p id = .ok links ↔ ∃ found,
    p.decode none (recordedVersion id.version) = .ok found ∧ links = found.map fun c =>
      ⟨c, if c.name = id.name ∨ c.name = id.name.replace '-' '_' then id
        else { id with name := c.name }⟩ := by
  rw [load, bind_eq_ok]
  refine exists_congr fun found => and_congr_right fun _ => ?_
  exact ⟨fun h => by cases h; rfl, fun h => by rw [h]; rfl⟩

/-- The crates of a payload have the identity asked for, or that one under their own names. -/
theorem identity_of_load (h : load p id = .ok links) (hl : l ∈ links) :
    l.identity = id ∨ l.identity = { id with name := l.name } ∧
      nonemptyText l.name = .valid l.name := by
  obtain ⟨found, hfound, rfl⟩ := load_eq_ok.mp h
  obtain ⟨c, hc, rfl⟩ := List.mem_map.mp hl
  by_cases hn : c.name = id.name ∨ c.name = id.name.replace '-' '_'
  · exact .inl (if_pos hn)
  · exact .inr ⟨if_neg hn, Payload.name_of_decode hfound hc⟩

theorem isAccepted_of_load (hid : id.IsAccepted) (h : load p id = .ok links) (hl : l ∈ links) :
    l.identity.IsAccepted := by
  rcases identity_of_load h hl with he | ⟨he, hname⟩
  · rwa [he]
  · rw [he]
    exact hid.rename hname

end CrateLinks

end RustdocIndex
