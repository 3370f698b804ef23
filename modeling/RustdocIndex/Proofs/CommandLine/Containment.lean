import RustdocIndex.Proofs.CommandLine.Offline
import RustdocIndex.Proofs.CommandLine.Report
import RustdocIndex.Proofs.Link.Address
import RustdocIndex.Proofs.Payload.Containment
import RustdocIndex.Proofs.Web.Uncaught

/-! The command reports whatever happens, but for a few failures that end it. -/
namespace RustdocIndex

namespace Payload

/-- A generation refuses a text over an item whose parent is out of range, and the name of that item
has half of a surrogate pair in it. -/
def QuotesHalfPair (s : List Char) (g : Generation) : Prop :=
  ∃ r name, crates g none s = .error (.refused r) ∧ name ∈ r.cause.rawName? ∧ ¬ name.IsWellFormed

/-- What a payload does to the command that no failure of decoding should: a generation that has its
say breaks on it, or with JSON output, all refuse it and one quotes half of a surrogate pair. -/
def Escapes (json : Bool) (p : Payload) : Prop :=
  ∃ s, p.chars = .ok s ∧ ((∃ g, Tried none none s g ∧ Breaks none s g) ∨
    json = true ∧ (∀ g, Refuses none s g) ∧ ∃ g, QuotesHalfPair s g)

end Payload

namespace CommandLine

variable {json : Bool} {s : List Char} {p : Payload}

theorem isReported_unsupported {attempts : List (Generation × Payload.Refusal)} :
    (Failure.lookup (.payload (.unsupported attempts))).IsReported json ↔
      (json = true → ∀ a ∈ attempts, ∀ name ∈ a.2.cause.rawName?, name.IsWellFormed) := by
  rw [Failure.IsReported, Failure.causes, List.forall_mem_map]
  exact and_iff_right rfl

/-- A failure of decoding that the command does not report. -/
def Unreported (json : Bool) (f : Payload.Failure) : Prop :=
  ¬ (Failure.lookup (.payload f)).IsReported json

/-- A text that every generation refuses is not reported in JSON if a name in a refusal has half of a
surrogate pair. -/
theorem unsupported_unreported {attempts : List (Generation × Payload.Refusal)}
    (h : Payload.decodeText none none s = .error (.unsupported attempts)) :
    Unreported json (.unsupported attempts) ↔
      json = true ∧ (∀ g, Payload.Refuses none s g) ∧ ∃ g, Payload.QuotesHalfPair s g := by
  obtain ⟨more, he, hmap, hmore⟩ := Payload.exists_attempts h
  rw [List.nil_append] at he
  subst he
  have hrefuses (g : Generation) : ∃ a ∈ attempts,
      Payload.crates g none s = .error (.refused a.2) := by
    have hmem : g ∈ attempts.map (·.1) := by
      rw [hmap, (Payload.order_perm _).mem_iff]
      cases g <;> simp
    obtain ⟨a, ha, rfl⟩ := List.mem_map.mp hmem
    exact ⟨a, ha, hmore a ha⟩
  rw [Unreported, isReported_unsupported]
  simp only [not_forall]
  constructor
  · rintro ⟨hj, a, ha, name, hname, hwf⟩
    refine ⟨hj, fun g => ?_, a.1, a.2, name, hmore a ha, hname, hwf⟩
    obtain ⟨b, -, hb⟩ := hrefuses g
    exact ⟨b.2, hb⟩
  · rintro ⟨hj, -, g, r, name, hg, hname, hwf⟩
    obtain ⟨a, ha, hc⟩ := hrefuses g
    cases hg.symm.trans hc
    exact ⟨hj, a, ha, name, hname, hwf⟩

theorem unreported_of_not_contained {f : Payload.Failure}
    (h : ¬ Payload.Contained (.error f)) : Unreported json f := by
  cases f with
  | refused r => exact absurd (.inr (.inl ⟨r, rfl⟩)) h
  | unsupported attempts => exact absurd (.inr (.inr ⟨attempts, rfl⟩)) h
  | integerTooLong n | tooDeepToShow => exact Failure.not_isReported rfl

theorem decodeText_unreported : FailsWith (Unreported json) (Payload.decodeText none none s) ↔
    (∃ g, Payload.Tried none none s g ∧ Payload.Breaks none s g) ∨
      json = true ∧ (∀ g, Payload.Refuses none s g) ∧ ∃ g, Payload.QuotesHalfPair s g := by
  by_cases hc : Payload.Contained (Payload.decodeText none none s)
  · have hbreaks : ¬ ∃ g, Payload.Tried none none s g ∧ Payload.Breaks none s g :=
      fun ⟨g, ht, hb⟩ => Payload.decodeText_contained.mp hc g ht hb
    rw [or_iff_right hbreaks]
    cases hd : Payload.decodeText none none s with
    | ok found =>
      refine iff_of_false (FailsWith.of_ok _) fun ⟨_, hr, _⟩ => ?_
      obtain ⟨before, g, after, -, -, hg⟩ := Payload.firstOf_eq_ok.mp hd
      exact Payload.not_refuses_of_ok hg (hr g)
    | error f =>
      obtain ⟨attempts, rfl, -⟩ := Payload.tried_all hd hc
      rw [FailsWith.of_error]
      exact unsupported_unreported hd
  · have hbreaks : ∃ g, Payload.Tried none none s g ∧ Payload.Breaks none s g := by
      simpa [Payload.decodeText_contained] using hc
    refine iff_of_true ?_ (.inl hbreaks)
    cases hd : Payload.decodeText none none s with
    | ok found =>
      obtain ⟨before, g, after, -, -, hg⟩ := Payload.firstOf_eq_ok.mp hd
      exact absurd (.inl ⟨found, hd, Payload.crates_ne_nil hg⟩) hc
    | error f =>
      rw [hd] at hc
      exact FailsWith.of_error.mpr (unreported_of_not_contained hc)

/-- Decoding fails without a report exactly if the payload escapes. -/
theorem decode_unreported (version : Option Text) :
    FailsWith (Unreported json) (p.decode none version) ↔ p.Escapes json := by
  rw [Payload.decode_recorded, FailsWith.of_map, Payload.Escapes]
  cases hp : p.chars with
  | error e =>
    have hreported : ¬ Unreported json e := by
      cases p with
      | text s => cases hp
      | bytes b =>
        obtain ⟨_, -, rfl⟩ := mapError_eq_error.mp hp
        refine not_not.mpr ⟨rfl, fun _ c hc => ?_⟩
        cases List.mem_singleton.mp hc
        intro name hname
        cases hname
    rw [Payload.decode, hp]
    refine iff_of_false (fun h => hreported (FailsWith.of_error.mp h)) ?_
    rintro ⟨s, hs, -⟩
    cases hs
  | ok s =>
    rw [Payload.decode_of_chars hp, decodeText_unreported]
    simp

/-- The crates among which the command looks a path up. -/
def linksFor (s : Surroundings) (args : Arguments) (path : SimplePath) : Command (List CrateLinks) :=
  match args.indexFile with
  | some name => do
    let payload ← readFile s (← valueOf .indexFile name)
    let version ← valueOf? .version args.version
    let hosting := if args.std then .stdlib else CrateIdentity.hostingOf path.crateName
    let id ← (CrateIdentity.make path.crateName version hosting).mapError fun e =>
      Failure.lookup (.identity e)
    (CrateLinks.load (.bytes payload) id).mapError fun f => Failure.lookup (.payload f)
  | none => do
    let std := args.std || path.isStd
    let version ← valueOf? .version (if std then none else args.version)
    ExceptT.adapt Failure.lookup
      (if std then s.network.stdlib else s.network.search path.crateName version)

/-- A lookup in a payload gets its crates and looks among them. -/
theorem mapError_lookupOffline (net : Network) (path : SimplePath) (payload : Bytes)
    (version : Option Text) (std : Bool) :
    (lookupOffline net path (.bytes payload) version std).mapError Failure.lookup =
      (CrateIdentity.make path.crateName version
        (if std then .stdlib else CrateIdentity.hostingOf path.crateName)).mapError
          (fun e => Failure.lookup (.identity e)) >>= fun id =>
      (CrateLinks.load (.bytes payload) id).mapError (fun f => Failure.lookup (.payload f)) >>=
        fun links => (net.lookIn links path).mapError Failure.lookup := by
  rw [lookupOffline]
  rcases CrateIdentity.make path.crateName version _ with _ | id
  · rfl
  · cases hload : CrateLinks.load (.bytes payload) id with
    | error f => simp [Except.mapError, hload, bind, Except.bind]
    | ok links =>
      simp only [Except.mapError, hload, bind, Except.bind]

/-- A lookup on the network gets crates and looks among them. -/
theorem lookupOnline_eq (net : Network) (path : SimplePath) (version : Option Text) (std : Bool) :
    lookupOnline net path version std =
      (if std || path.isStd then net.stdlib else net.search path.crateName version) >>= fun links =>
        net.lookIn links path := by
  rw [lookupOnline, Network.findLink]
  cases std <;> cases path.isStd <;> rfl

/-- A lookup reads the path, then gets the crates, then looks among them. -/
theorem runFrom_lookup (s : Surroundings) (args : Arguments) (log : List String) :
    runFrom (lookup s args) log = runFrom (do
      let path ← (SimplePath.parse args.path).mapError fun e => Failure.lookup (.path e)
      let links ← linksFor s args path
      let found ← (s.network.lookIn links path).mapError Failure.lookup
      pure (path, found) : Command (SimplePath × Outcome × Option Text)) log := by
  rw [lookup]
  simp only [runFrom_bind (x := liftM ((SimplePath.parse args.path).mapError _)), runFrom_lift]
  rcases (SimplePath.parse args.path).mapError _ with _ | path
  · rfl
  · dsimp only
    simp only [linksFor]
    cases args.indexFile with
    | some name =>
      simp only [runFrom_bind, runFrom_lift, runFrom_pure, mapError_lookupOffline]
      rcases valueOf .indexFile name with _ | file
      · rfl
      dsimp only
      rcases readFile s file with _ | payload
      · rfl
      dsimp only
      rcases valueOf? .version args.version with _ | version
      · rfl
      dsimp only
      rcases (CrateIdentity.make path.crateName version _).mapError _ with _ | id
      · rfl
      dsimp only [bind, Except.bind]
      rcases (CrateLinks.load (.bytes payload) id).mapError _ with _ | links
      · rfl
      dsimp only
    | none =>
      simp only [lookupOnline_eq, runFrom_bind, runFrom_lift, runFrom_pure, runFrom_adapt]
      rcases valueOf? .version _ with _ | version
      · rfl
      dsimp only
      rcases runFrom (if (args.std || path.isStd) = true then s.network.stdlib else
        s.network.search path.crateName version) log with ⟨_ | links, log'⟩ <;> rfl

section

variable {s : Surroundings} {args : Arguments} {path : SimplePath} {log log' : List String}
  {links : List CrateLinks}

theorem linksFor_isWellFormed (h : runFrom (linksFor s args path) log = (.ok links, log')) :
    ∀ l ∈ links, l.IsWellFormed := by
  unfold linksFor at h
  split at h
  · simp only [runFrom_bind_eq_ok, runFrom_lift, Prod.mk.injEq] at h
    obtain ⟨file, _, -, payload, _, -, version, _, -, id, _, ⟨hid, -⟩, hload, -⟩ := h
    exact CrateLinks.isWellFormed_of_load (CrateIdentity.isWellFormed_of_make (mapError_eq_ok.mp hid))
      (mapError_eq_ok.mp hload)
  · simp only [runFrom_bind_eq_ok, runFrom_lift, Prod.mk.injEq] at h
    obtain ⟨version, _, -, h⟩ := h
    rw [runFrom_adapt, Prod.mk.injEq, mapError_eq_ok] at h
    split at h
    · obtain ⟨v, payload, found, -, hfound, rfl⟩ := Network.stdlib_eq_ok.mp (Prod.ext h.1 h.2)
      refine List.forall_mem_map.mpr fun c hc => ?_
      obtain ⟨hname, hindex⟩ := Payload.isWellFormed_of_decode hfound hc
      exact ⟨hindex, hname⟩
    · obtain ⟨id, v, payload, hid, -, hload⟩ := Network.search_eq_ok.mp (Prod.ext h.1 h.2)
      have hname := CrateIdentity.isWellFormed_of_make hid
      refine CrateLinks.isWellFormed_of_load ?_ hload
      exact hname

/-- Whatever a lookup finds can be written. -/
theorem isSound_lookup (s : Surroundings) (args : Arguments) (log : List String) :
    IsSound (runFrom (lookup s args) log).1 := by
  intro path o url h
  rcases hrun : runFrom (lookup s args) log with ⟨result, log'⟩
  rw [hrun] at h
  cases (h : result = .ok (path, o, url))
  rw [runFrom_lookup] at hrun
  simp only [runFrom_bind_eq_ok, runFrom_lift, runFrom_pure, Prod.mk.injEq, mapError_eq_ok] at hrun
  obtain ⟨path, _, ⟨hpath, -⟩, links, _, hlinks, found, _, ⟨hfound, -⟩, h, -⟩ := hrun
  cases h
  obtain ⟨l, hl, h⟩ := bind_eq_ok.mp hfound
  cases h
  have hnames := SimplePath.isWellFormed_names hpath
  have hwf := linksFor_isWellFormed hlinks l (CrateLinks.mem_of_pick (mapError_eq_ok.mp hl))
  exact ⟨SimplePath.isWellFormed_text hnames, fun u hu => hwf.findLink hnames hu,
    CrateLinks.findLink_eq_none⟩

/-- How a lookup in a file ends without a report. -/
inductive EscapesOffline (s : Surroundings) (args : Arguments) (path : SimplePath) :
    OptionValue → Prop
  /-- Nothing is left of the name of the file. -/
  | noFile : EscapesOffline s args path .nothing
  /-- No file has such a name. -/
  | noName {file p} (h : nameProblem? (normalizeName file) = some p) :
      EscapesOffline s args path (.text file)
  /-- Nothing is left of the version. -/
  | noVersion {file payload} (hread : readFile s file = .ok payload)
    (hversion : args.version = some .nothing) : EscapesOffline s args path (.text file)
  | payload {file payload version id} (hread : readFile s file = .ok payload)
    (hversion : args.version = Option.map .text version)
    (hid : CrateIdentity.make path.crateName version
      (if args.std then .stdlib else CrateIdentity.hostingOf path.crateName) = .ok id)
    (h : (Payload.bytes payload).Escapes args.json) : EscapesOffline s args path (.text file)

/-- How a lookup on the network ends without a report. -/
inductive EscapesOnline (s : Surroundings) (args : Arguments) (path : SimplePath) : Prop
  | stdlib (hstd : (args.std || path.isStd) = true) (h : s.network.MisleadsStdlib [])
  | stdlibPayload {v payload log} (hstd : (args.std || path.isStd) = true)
    (hfetch : runFrom s.network.fetchStdlib [] = (.ok (v, payload), log))
    (h : (Payload.bytes payload).Escapes args.json)
  /-- Nothing is left of the version. -/
  | noVersion (hstd : (args.std || path.isStd) = false) (hversion : args.version = some .nothing)
  | crate {version id} (hstd : (args.std || path.isStd) = false)
    (hversion : args.version = Option.map .text version)
    (hid : CrateIdentity.make path.crateName version .registry = .ok id)
    (h : s.network.Misleads [] (Network.urlName path.crateName) id.version)
  | cratePayload {version id v payload log} (hstd : (args.std || path.isStd) = false)
    (hversion : args.version = Option.map .text version)
    (hid : CrateIdentity.make path.crateName version .registry = .ok id)
    (hfetch : runFrom (s.network.fetchCrate (Network.urlName path.crateName) id.version.text) [] =
      (.ok (v, payload), log))
    (h : (Payload.bytes payload).Escapes args.json)

/-- A lookup ends without a report. -/
def LookupEscapes (s : Surroundings) (args : Arguments) : Prop :=
  ∃ path, SimplePath.parse args.path = .ok path ∧
    match args.indexFile with
    | some value => EscapesOffline s args path value
    | none => EscapesOnline s args path

/-- The command ends without a report: since its lookup does, or since with JSON output the report
would hold the path as it was given, and half of a surrogate pair stands in that. -/
def Escapes (s : Surroundings) (args : Arguments) : Prop :=
  args.json = true ∧ ¬ args.path.IsWellFormed ∨ LookupEscapes s args

/-- A failure that the command does not report. -/
def Failure.IsUnreported (json : Bool) (f : Failure) : Prop := ¬ f.IsReported json

theorem valueOf_unreported {f : Flag} {value : OptionValue} :
    FailsWith (Failure.IsUnreported json) (valueOf f value) ↔ value = .nothing := by
  cases value with
  | text s => simp [valueOf]
  | nothing => exact iff_of_true (FailsWith.of_error.mpr (Failure.not_isReported rfl)) rfl

theorem valueOf?_unreported {f : Flag} {value : Option OptionValue} :
    FailsWith (Failure.IsUnreported json) (valueOf? f value) ↔ value = some .nothing := by
  rcases value with _ | _ | _
  · exact iff_of_false (FailsWith.of_ok _) nofun
  · exact iff_of_false (FailsWith.of_ok _) nofun
  · exact iff_of_true (FailsWith.of_error.mpr (Failure.not_isReported rfl)) rfl

theorem valueOf_eq_ok {f : Flag} {value : OptionValue} {text : Text} :
    valueOf f value = .ok text ↔ value = .text text := by
  cases value <;> simp [valueOf]

theorem valueOf?_eq_ok {f : Flag} {value : Option OptionValue} {text : Option Text} :
    valueOf? f value = .ok text ↔ value = Option.map .text text := by
  rcases value with _ | _ | _ <;> rcases text with _ | _ <;>
    simp [valueOf?, valueOf, pure, Except.pure]

theorem readFile_unreported {file : Text} :
    FailsWith (Failure.IsUnreported json) (readFile s file) ↔
      ∃ p, nameProblem? (normalizeName file) = some p := by
  simp only [readFile]
  cases nameProblem? (normalizeName file) with
  | some p => exact iff_of_true (FailsWith.of_error.mpr (Failure.not_isReported rfl)) ⟨p, rfl⟩
  | none =>
    refine iff_of_false ?_ nofun
    rw [FailsWith.of_mapError]
    exact FailsWith.not_of_forall fun p hp => hp (Failure.isReported_of_causes rfl rfl)

theorem isReported_identity {e : IdentityFault} (h : ∀ name, e ≠ .versionType name) :
    (Failure.lookup (.identity e)).IsReported json := by
  cases e with
  | versionType name => exact absurd rfl (h name)
  | _ => exact Failure.isReported_of_causes rfl rfl

/-- What keeps an identity from being made is reported: the version of a command is a text. -/
theorem make_reported {name : Text} {version : Option Text} {hosting : Hosting} :
    ¬ FailsWith (fun e => Failure.IsUnreported json (.lookup (.identity e)))
      (CrateIdentity.make name version hosting) := by
  simp only [CrateIdentity.make, CrateIdentity.report, FailsWith.of_bind, FailsWith.of_mapError]
  rintro (⟨e, -, he⟩ | ⟨v, -, e, -, he⟩)
  · exact he (isReported_identity nofun)
  · exact he (isReported_identity nofun)

theorem load_unreported {id : CrateIdentity} :
    FailsWith (fun f => Failure.IsUnreported json (.lookup (.payload f))) (CrateLinks.load p id) ↔
      p.Escapes json := by
  rw [CrateLinks.load, FailsWith.of_bind, ← decode_unreported]
  refine or_iff_left ?_
  rintro ⟨found, -, h⟩
  exact FailsWith.of_ok _ h

/-- The errors of fetching that are not caught are those that are not reported. -/
theorem web_unreported {e : WebError} :
    Failure.IsUnreported json (.lookup (.web e)) ↔ e.Uncaught := by
  cases e with
  | invalidLength | invalidUrl => exact iff_of_true (Failure.not_isReported rfl) trivial
  | outage o =>
    cases o <;> exact iff_of_false (not_not.mpr (Failure.isReported_of_causes rfl rfl)) id
  | _ => exact iff_of_false (not_not.mpr (Failure.isReported_of_causes rfl rfl)) id

theorem ofWeb_unreported {α : Type} {x : Web α} :
    FailsWith (fun e => Failure.IsUnreported json (.lookup e)) (runFrom (Lookup.ofWeb x) log).1 ↔
      FailsWith WebError.Uncaught (runFrom x log).1 := by
  rw [Lookup.ofWeb, runFrom_adapt, FailsWith.of_mapError]
  simp only [web_unreported]

theorem stdlib_unreported {net : Network} :
    FailsWith (fun e => Failure.IsUnreported json (.lookup e)) (runFrom net.stdlib log).1 ↔
      net.MisleadsStdlib log ∨ ∃ v payload log', runFrom net.fetchStdlib log =
        (.ok (v, payload), log') ∧ (Payload.bytes payload).Escapes json := by
  rw [Network.stdlib, failsWith_runFrom_bind, ofWeb_unreported, Network.fetchStdlib_uncaught]
  simp only [Network.runFrom_ofWeb_eq_ok, failsWith_runFrom_bind, runFrom_lift, runFrom_pure,
    FailsWith.of_mapError, FailsWith.of_ok, and_false, exists_false, or_false]
  refine or_congr_right ⟨?_, ?_⟩
  · rintro ⟨⟨v, payload⟩, log', hfetch, h⟩
    exact ⟨v, payload, log', hfetch, (decode_unreported _).mp h⟩
  · rintro ⟨v, payload, log', hfetch, h⟩
    exact ⟨(v, payload), log', hfetch, (decode_unreported _).mpr h⟩

theorem search_unreported {net : Network} {name : Text} {version : Option Text} :
    FailsWith (fun e => Failure.IsUnreported json (.lookup e))
        (runFrom (net.search name version) log).1 ↔
      ∃ id, CrateIdentity.make name version .registry = .ok id ∧
        (net.Misleads log (Network.urlName name) id.version ∨ ∃ v payload log',
          runFrom (net.fetchCrate (Network.urlName name) id.version.text) log =
            (.ok (v, payload), log') ∧ (Payload.bytes payload).Escapes json) := by
  have hrequested {id : CrateIdentity} (hid : CrateIdentity.make name version .registry = .ok id) :
      (∃ requested, Version.parseOption (some id.version.text) = .ok requested ∧
        net.Misleads log (Network.urlName name) requested) ↔
          net.Misleads log (Network.urlName name) id.version := by
    obtain ⟨v, hv, -, rfl, -⟩ := CrateIdentity.make_eq_ok.mp hid
    have hparse : Version.parseOption (some v.text) = .ok v :=
      (Version.parseOption_ofString v.text).trans (Version.parseOption_text hv)
    simp [hparse]
  rw [Network.search]
  simp only [failsWith_runFrom_bind, runFrom_lift, FailsWith.of_mapError, make_reported,
    ofWeb_unreported, Network.runFrom_ofWeb_eq_ok, Network.fetchCrate_uncaught, load_unreported,
    false_or, Prod.mk.injEq, mapError_eq_ok]
  refine exists_congr fun id => ?_
  constructor
  · rintro ⟨_, ⟨hid, rfl⟩, h | ⟨⟨v, payload⟩, log', hfetch, h⟩⟩
    · exact ⟨hid, .inl ((hrequested hid).mp h)⟩
    · exact ⟨hid, .inr ⟨v, payload, log', hfetch, h⟩⟩
  · rintro ⟨hid, h | ⟨v, payload, log', hfetch, h⟩⟩
    · exact ⟨log, ⟨hid, rfl⟩, .inl ((hrequested hid).mpr h)⟩
    · exact ⟨log, ⟨hid, rfl⟩, .inr ⟨(v, payload), log', hfetch, h⟩⟩

theorem linksFor_unreported_file {value : OptionValue} (hfile : args.indexFile = some value) :
    FailsWith (Failure.IsUnreported args.json) (runFrom (linksFor s args path) log).1 ↔
      EscapesOffline s args path value := by
  rw [linksFor, hfile]
  simp only [failsWith_runFrom_bind, runFrom_lift, FailsWith.of_mapError, valueOf_unreported,
    valueOf?_unreported, readFile_unreported, make_reported, load_unreported, false_or,
    Prod.mk.injEq, mapError_eq_ok, valueOf_eq_ok, valueOf?_eq_ok]
  constructor
  · rintro (rfl | ⟨file, _, ⟨rfl, rfl⟩, ⟨p, hname⟩ | ⟨payload, _, ⟨hread, rfl⟩, hnone |
      ⟨version, _, ⟨hversion, rfl⟩, id, _, ⟨hid, rfl⟩, h⟩⟩⟩)
    · exact .noFile
    · exact .noName hname
    · exact .noVersion hread hnone
    · exact .payload hread hversion hid h
  · intro h
    cases h with
    | noFile => exact .inl rfl
    | @noName file p h => exact .inr ⟨file, log, ⟨rfl, rfl⟩, .inl ⟨p, h⟩⟩
    | @noVersion file payload hread hversion =>
      exact .inr ⟨file, log, ⟨rfl, rfl⟩, .inr ⟨payload, log, ⟨hread, rfl⟩, .inl hversion⟩⟩
    | @payload file payload version id hread hversion hid h =>
      exact .inr ⟨file, log, ⟨rfl, rfl⟩, .inr ⟨payload, log, ⟨hread, rfl⟩,
        .inr ⟨version, log, ⟨hversion, rfl⟩, id, log, ⟨hid, rfl⟩, h⟩⟩⟩

theorem linksFor_unreported_network (hfile : args.indexFile = none) :
    FailsWith (Failure.IsUnreported args.json) (runFrom (linksFor s args path) []).1 ↔
      EscapesOnline s args path := by
  rw [linksFor, hfile]
  simp only [failsWith_runFrom_bind, runFrom_lift, runFrom_adapt, FailsWith.of_mapError,
    valueOf?_unreported, Prod.mk.injEq, valueOf?_eq_ok]
  cases hstd : args.std || path.isStd with
  | true =>
    simp only [if_true, stdlib_unreported]
    constructor
    · rintro (h | ⟨_, _, ⟨-, rfl⟩, h | ⟨v, payload, log, hfetch, h⟩⟩)
      · cases h
      · exact .stdlib hstd h
      · exact .stdlibPayload hstd hfetch h
    · intro h
      refine .inr ⟨none, [], ⟨rfl, rfl⟩, ?_⟩
      cases h with
      | stdlib _ h => exact .inl h
      | stdlibPayload _ hfetch h => exact .inr ⟨_, _, _, hfetch, h⟩
      | noVersion hweb | crate hweb | cratePayload hweb => exact Bool.noConfusion (hstd.symm.trans hweb)
  | false =>
    simp only [if_neg Bool.false_ne_true, search_unreported]
    constructor
    · rintro (h | ⟨version, _, ⟨hversion, rfl⟩, id, hid, h | ⟨v, payload, log, hfetch, h⟩⟩)
      · exact .noVersion hstd h
      · exact .crate hstd hversion hid h
      · exact .cratePayload hstd hversion hid hfetch h
    · intro h
      cases h with
      | noVersion _ hversion => exact .inl hversion
      | crate _ hversion hid h => exact .inr ⟨_, [], ⟨hversion, rfl⟩, _, hid, .inl h⟩
      | cratePayload _ hversion hid hfetch h =>
        exact .inr ⟨_, [], ⟨hversion, rfl⟩, _, hid, .inr ⟨_, _, _, hfetch, h⟩⟩
      | stdlib hstd' | stdlibPayload hstd' => exact Bool.noConfusion (hstd.symm.trans hstd')

theorem lookIn_reported {net : Network} :
    ¬ FailsWith (fun e => Failure.IsUnreported json (.lookup e)) (net.lookIn links path) := by
  rw [Network.lookIn, FailsWith.of_bind, FailsWith.of_mapError]
  rintro (h | ⟨l, -, h⟩)
  · exact FailsWith.not_of_forall (fun e he => he (Failure.isReported_of_causes rfl rfl)) h
  · exact FailsWith.of_ok _ h

/-- A lookup fails without a report exactly if it escapes. -/
theorem lookup_unreported : FailsWith (Failure.IsUnreported args.json)
    (runFrom (lookup s args) []).1 ↔ LookupEscapes s args := by
  have hparse : ¬ FailsWith (fun e => Failure.IsUnreported args.json (.lookup (.path e)))
      (SimplePath.parse args.path) :=
    FailsWith.not_of_forall fun e he => he (Failure.isReported_of_causes rfl rfl)
  rw [runFrom_lookup, LookupEscapes]
  simp only [failsWith_runFrom_bind, runFrom_lift, runFrom_pure, FailsWith.of_mapError,
    lookIn_reported, FailsWith.of_ok, hparse, false_or, and_false, exists_false, or_false,
    Prod.mk.injEq, mapError_eq_ok]
  constructor
  · rintro ⟨path, _, ⟨hpath, rfl⟩, h⟩
    refine ⟨path, hpath, ?_⟩
    cases hfile : args.indexFile with
    | some value => exact (linksFor_unreported_file hfile).mp h
    | none => exact (linksFor_unreported_network hfile).mp h
  · rintro ⟨path, hpath, h⟩
    refine ⟨path, [], ⟨hpath, rfl⟩, ?_⟩
    cases hfile : args.indexFile with
    | some value =>
      rw [hfile] at h
      exact (linksFor_unreported_file hfile).mpr h
    | none =>
      rw [hfile] at h
      exact (linksFor_unreported_network hfile).mpr h

end

theorem run_fst (s : Surroundings) (args : Arguments) :
    (run s args).1 = conclude args (runFrom (lookup s args) []).1 := rfl

/-- A path with half of a surrogate pair in it is none, and that cannot be told in JSON. -/
theorem run_unprintable (s : Surroundings) (hj : args.json = true)
    (hpath : ¬ args.path.IsWellFormed) : ∀ p, (run s args).1 ≠ .printed p := by
  intro p hp
  cases he : SimplePath.parse args.path with
  | ok path => exact hpath (SimplePath.isWellFormed_of_parse he)
  | error e =>
    have hlookup : (runFrom (lookup s args) []).1 = .error (.lookup (.path e)) := by
      rw [lookup, he]
      rfl
    rw [run_fst, hlookup] at hp
    exact hpath (hasPlainPath_of_printed hp hj)

/-- The command reports what its lookup came to, whatever the file, the server and the arguments
are, unless it escapes: then it prints nothing. -/
theorem run_reports (s : Surroundings) (args : Arguments) :
    (¬ Escapes s args → ∃ p, (run s args).1 = .printed p ∧
      Reports args (runFrom (lookup s args) []).1 p) ∧
    (Escapes s args → ∀ p, (run s args).1 ≠ .printed p) := by
  constructor
  · intro h
    obtain ⟨hpath, hlookup⟩ := not_or.mp h
    have hplain : args.HasPlainPath := fun hj => not_not.mp fun hp => hpath ⟨hj, hp⟩
    rw [run_fst]
    rcases conclude_printed hplain (isSound_lookup s args []) with hp | ⟨f, hf, hrep, -⟩
    · exact hp
    · exact absurd (lookup_unreported.mp ⟨f, hf, hrep⟩) hlookup
  · rintro (⟨hj, hpath⟩ | h)
    · exact run_unprintable s hj hpath
    · obtain ⟨f, hf, hrep⟩ := lookup_unreported.mpr h
      intro p hp
      rw [run_fst, hf] at hp
      exact hrep (isReported_of_printed hp)

/-- The status that an ending gives, if it gives one. -/
def Ending.status? : Ending → Option Nat
  | .printed p => some p.status
  | _ => none

/-- A file that no generation can read, over an item whose parent is out of range and whose name is
half of a surrogate pair. -/
def halfPairFile : Surroundings where
  readFile _ := .ok (Utf8.ascii ("var searchIndex=\x7b\"a\":\x7b\"doc\":\"\"," ++
    "\"i\":[[5,\"\\ud800\",\"m\",\"\",5]],\"p\":[]\x7d\x7d;").toList)
  network := Network.smallNetwork

/-- That no generation can read the file is no failure to the command with JSON output, but its
end. -/
theorem run_halfPairFile :
    ((Arguments.parse ["a::b", "--json", "--index-file", "i.js"]).toOption.map fun args =>
      (run halfPairFile args).1.status?) = some none := by
  decide +kernel

end CommandLine

end RustdocIndex
