import RustdocIndex.CommandLine.Run
import RustdocIndex.Proofs.Web.Identities

/-! A lookup in a file and one on the network that comes to the same payload. -/
namespace RustdocIndex

variable {net : Network} {path : SimplePath} {payload : Bytes} {log : List String}

/-- Crates that lookups cannot tell apart: the version that a crate is recorded under does not
matter, nor does that part of an identity which its addresses leave out. -/
structure CrateLinks.Alike (sites : Sites) (l l' : CrateLinks) : Prop where
  name : l.name = l'.name
  index : l.index = l'.index
  baseUrl : RustdocIndex.baseUrl sites l.identity = RustdocIndex.baseUrl sites l'.identity

theorem CrateLinks.Alike.resolve {sites : Sites} {l l' : CrateLinks} (h : l.Alike sites l') :
    l.resolve path = l'.resolve path := by
  rw [CrateLinks.resolve, CrateLinks.resolve, h.index]

theorem CrateLinks.Alike.findLink {sites : Sites} {l l' : CrateLinks} (h : l.Alike sites l') :
    l.findLink sites path = l'.findLink sites path := by
  rw [CrateLinks.findLink, CrateLinks.findLink, h.resolve, Outcome.url?, Outcome.url?, h.baseUrl]

/-- The crates that are picked from lists of crates that are alike are alike. -/
theorem CrateLinks.pick_alike {sites : Sites} {links links' : List CrateLinks}
    (h : List.Forall₂ (CrateLinks.Alike sites) links links') (name : Text) :
    (∃ l l', l.Alike sites l' ∧ pick links name = .ok l ∧ pick links' name = .ok l') ∨
      ∃ e, pick links name = .error e ∧ pick links' name = .error e := by
  have hnames : links.map (·.name) = links'.map (·.name) := by
    induction h with
    | nil => rfl
    | cons hl _ ih => rw [List.map_cons, List.map_cons, hl.name, ih]
  have hfind : (∃ l l', l.Alike sites l' ∧
      links.find? (·.name == name.replace '-' '_') = some l ∧
      links'.find? (·.name == name.replace '-' '_') = some l') ∨
      links.find? (·.name == name.replace '-' '_') = none ∧
        links'.find? (·.name == name.replace '-' '_') = none := by
    clear hnames
    induction h with
    | nil => exact .inr ⟨rfl, rfl⟩
    | @cons l l' links links' hl _ ih =>
      rw [List.find?_cons, List.find?_cons, hl.name]
      cases l'.name == name.replace '-' '_' with
      | true => exact .inl ⟨l, l', hl, rfl, rfl⟩
      | false => exact ih
  rw [pick, pick, hnames]
  rcases hfind with ⟨l, l', hl, hfound, hfound'⟩ | ⟨hfound, hfound'⟩
  · rw [hfound, hfound']
    exact .inl ⟨l, l', hl, rfl, rfl⟩
  · rw [hfound, hfound']
    exact .inr ⟨_, rfl, rfl⟩

namespace Network

theorem lookIn_alike {links links' : List CrateLinks}
    (h : List.Forall₂ (CrateLinks.Alike net.sites) links links') :
    net.lookIn links path = net.lookIn links' path := by
  rw [lookIn, lookIn]
  rcases CrateLinks.pick_alike h path.crateName with
    ⟨l, l', hl, hpick, hpick'⟩ | ⟨e, hpick, hpick'⟩
  · rw [hpick, hpick']
    simp only [Except.mapError, bind, Except.bind, pure, hl.resolve, hl.findLink]
  · rw [hpick, hpick']

/-- After the requests of a log, the server delivers a page that names an index file, and then the
payload at the address that is built from the name. -/
def ServesIndex (net : Network) (log : List String) (page : String)
    (indexUrl : List Char → String) (file : List Char) (payload : Bytes) : Prop :=
  ∃ outages r outages' r', net.Delivers log page outages r ∧
    findIndexPath? (Utf8.decodeLossy r.body) = some file ∧
    net.Delivers (log ++ List.replicate (outages + 1) page) (indexUrl file) outages' r' ∧
    r'.body = payload

/-- The server has the index of a crate in one version. -/
def ServesCrate (net : Network) (log : List String) (name : Text) (v : Version)
    (payload : Bytes) : Prop :=
  ∃ file, net.ServesIndex log (net.pageUrl (urlName name) v)
    (fun file => net.crateUrl (urlName name) v (String.ofList file)) file payload

/-- The server has the index of the standard library, in a file that names a version. -/
def ServesStdlib (net : Network) (log : List String) (payload : Bytes) : Prop :=
  ∃ file v, net.ServesIndex log (net.stdlibUrl "std/index.html")
    (fun file => net.stdlibUrl (String.ofList file)) file payload ∧ stdlibVersion file = .ok v

theorem ServesCrate.fetchCrate {name : Text} {sv : SemanticVersion}
    (h : net.ServesCrate log name (.semantic sv) payload)
    (hv : Version.parse (Version.semantic sv).text = .ok (.semantic sv)) :
    ∃ log', runFrom (net.fetchCrate (urlName name) (Version.semantic sv).text) log =
      (.ok (.semantic sv, payload), log') := by
  obtain ⟨file, outages, r, outages', r', hpage, hfile, hindex, rfl⟩ := h
  exact ⟨_, fetchCrate_eq_ok.mpr
    ⟨_, _, _, _, file, _, (Version.parseOption_ofString _).trans hv, hpage.download, rfl, hfile,
      hindex.download⟩⟩

theorem ServesStdlib.fetchStdlib (h : net.ServesStdlib log payload) :
    ∃ v log', runFrom net.fetchStdlib log = (.ok (v, payload), log') := by
  obtain ⟨file, v, ⟨outages, r, outages', r', hpage, hfile, hindex, rfl⟩, hv⟩ := h
  exact ⟨v, _, fetchStdlib_eq_ok.mpr
    ⟨_, _, _, file, _, hpage.download, hfile, hv, hindex.download⟩⟩

/-- A search for a version that its server has loads the payload, as it was downloaded. -/
theorem ServesCrate.search {name version : Text} {sv : SemanticVersion}
    (h : net.ServesCrate log name (.semantic sv) payload)
    (hv : Version.parseText version = .ok (.semantic sv)) :
    (runFrom (net.search name (some version)) log).1 =
      (CrateIdentity.make name (some version) .registry).mapError LookupError.identity >>= fun id =>
        (CrateLinks.load (.bytes payload) id).mapError LookupError.payload := by
  rw [Network.search, runFrom_bind, runFrom_lift]
  cases hid : CrateIdentity.make name (some version) .registry with
  | error e => rfl
  | ok id =>
    obtain ⟨v, hv', -, rfl, -⟩ := CrateIdentity.make_eq_ok.mp hid
    cases hv.symm.trans hv'
    obtain ⟨log', hfetch⟩ := h.fetchCrate (Version.parseOption_text hv')
    have hweb : runFrom (Lookup.ofWeb (net.fetchCrate (urlName name) (Version.semantic sv).text))
        log = (.ok (.semantic sv, payload), log') := runFrom_ofWeb_eq_ok.mpr hfetch
    simp only [Except.mapError]
    rw [runFrom_bind_of_ok hweb, runFrom_lift]
    rfl

/-- The identity of a crate of the standard library in its latest version. -/
theorem make_of_isStd (h : path.isStd = true) :
    CrateIdentity.make path.crateName none .stdlib = .ok ⟨path.crateName, .latest, .stdlib⟩ := by
  have hnames : ∀ name ∈ stdlibCrates, Schema.nonemptyText name = .valid name := by
    simp only [Schema.nonemptyText_self]
    decide +kernel
  have hmem : path.crateName ∈ stdlibCrates := List.contains_iff_mem.mp h
  exact CrateIdentity.make_eq_ok.mpr ⟨.latest, rfl, hnames _ hmem, rfl, rfl⟩

/-- What is fetched with the standard library is like what is loaded from its payload for the
latest version, if that one is linked on the channel that is fetched from. -/
theorem ServesStdlib.stdlib (h : net.ServesStdlib log payload)
    (hchannel : net.sites.channel = stdlibRoot.name) (name : Text) :
    (∃ links links', (runFrom net.stdlib log).1 = .ok links ∧
      CrateLinks.load (.bytes payload) ⟨name, .latest, .stdlib⟩ = .ok links' ∧
      List.Forall₂ (CrateLinks.Alike net.sites) links links') ∨
    ∃ e, (runFrom net.stdlib log).1 = .error (.payload e) ∧
      CrateLinks.load (.bytes payload) ⟨name, .latest, .stdlib⟩ = .error e := by
  obtain ⟨v, log', hfetch⟩ := h.fetchStdlib
  have hweb : runFrom (Lookup.ofWeb net.fetchStdlib) log = (.ok (v, payload), log') :=
    runFrom_ofWeb_eq_ok.mpr hfetch
  rw [Network.stdlib, runFrom_bind_of_ok hweb, CrateLinks.load]
  simp only [runFrom_bind, runFrom_lift, CrateLinks.recordedVersion]
  rw [Payload.decode_recorded]
  cases (Payload.bytes payload).decode none none with
  | error e => exact .inr ⟨e, rfl, rfl⟩
  | ok found =>
    refine .inl ⟨_, _, rfl, rfl, ?_⟩
    rw [List.map_map, List.forall₂_map_left_iff, List.forall₂_map_right_iff]
    refine List.forall₂_same.mpr fun c _ => ⟨rfl, rfl, ?_⟩
    have hbase (name name' : Text) : baseUrl net.sites ⟨name, .channel stdlibRoot, .stdlib⟩ =
        baseUrl net.sites ⟨name', .latest, .stdlib⟩ := by
      simp only [baseUrl, hchannel]
      rfl
    by_cases hn : c.name = name ∨ c.name = name.replace '-' '_'
    · rw [if_pos hn]
      exact hbase _ _
    · rw [if_neg hn]
      exact hbase _ _

open CommandLine (lookupOffline)

theorem findLink_eq_lookupOffline_crate {version : Text} {sv : SemanticVersion}
    (hpath : path.isStd = false) (hv : Version.parseText version = .ok (.semantic sv))
    (h : net.ServesCrate log path.crateName (.semantic sv) payload) :
    (runFrom (net.findLink path (some version)) log).1 =
      lookupOffline net path (.bytes payload) (some version) false := by
  have hhosting : CrateIdentity.hostingOf path.crateName = .registry := by
    rw [SimplePath.isStd] at hpath
    rw [CrateIdentity.hostingOf, hpath]
    rfl
  have hlinks := h.search hv
  rw [findLink, hpath, if_neg Bool.false_ne_true, runFrom_bind, lookupOffline,
    if_neg Bool.false_ne_true, hhosting]
  rcases hrun : runFrom (net.search path.crateName (some version)) log with ⟨links, log'⟩
  rw [hrun] at hlinks
  rw [← bind_assoc, ← hlinks]
  cases links <;> rfl

theorem findLink_eq_lookupOffline_stdlib {version : Option Text} (hpath : path.isStd = true)
    (hchannel : net.sites.channel = stdlibRoot.name) (h : net.ServesStdlib log payload) :
    (runFrom (net.findLink path version) log).1 =
      lookupOffline net path (.bytes payload) none false := by
  have hhosting : CrateIdentity.hostingOf path.crateName = .stdlib := by
    rw [SimplePath.isStd] at hpath
    rw [CrateIdentity.hostingOf, hpath]
    rfl
  have hlinks := h.stdlib hchannel path.crateName
  rw [findLink, hpath, if_pos rfl, runFrom_bind, lookupOffline, if_neg Bool.false_ne_true, hhosting,
    make_of_isStd hpath]
  rcases hrun : runFrom net.stdlib log with ⟨_, log'⟩
  rw [hrun] at hlinks
  rcases hlinks with ⟨links, links', rfl, hload, halike⟩ | ⟨e, rfl, hload⟩
  · change net.lookIn links path = (CrateLinks.load _ _).mapError _ >>= _
    rw [hload, lookIn_alike halike]
    rfl
  · change _ = (CrateLinks.load _ _).mapError _ >>= _
    rw [hload]
    rfl

theorem servesIndex_small {page url : String} {indexUrl : List Char → String} {file t : List Char}
    (hpage : Fields.get? page smallSites = some (smallPage page t).2)
    (ht : Utf8.IsAscii t) (hfile : findIndexPath? t = some file)
    (hurl : indexUrl file = url)
    (hindex : Fields.get? url smallSites = some (smallPage url twoCratesPayload).2) :
    smallNetwork.ServesIndex [] page indexUrl file (Utf8.ascii twoCratesPayload) := by
  subst hurl
  refine ⟨0, _, 0, _, delivers_smallSites hpage [], ?_, delivers_smallSites hindex _, rfl⟩
  rwa [smallPage, Utf8.decodeLossy_ascii ht]

theorem servesCrate_small : smallNetwork.ServesCrate [] "a" (.semantic ⟨1, 0, 0, [], []⟩)
    (Utf8.ascii twoCratesPayload) := by
  have hpage : smallNetwork.pageUrl (urlName "a") (.semantic ⟨1, 0, 0, [], []⟩) =
      "https://docs.rs/a/1.0.0/a/" := by decide +kernel
  have hindex : smallNetwork.crateUrl (urlName "a") (.semantic ⟨1, 0, 0, [], []⟩)
      (String.ofList "search-index.js".toList) = "https://docs.rs/a/1.0.0/search-index.js" := by
    decide +kernel
  rw [ServesCrate, hpage]
  exact ⟨"search-index.js".toList, servesIndex_small (t := pageOfSuffix "") rfl (by decide)
    (by decide +kernel) hindex rfl⟩

theorem servesStdlib_small : smallNetwork.ServesStdlib [] (Utf8.ascii twoCratesPayload) :=
  ⟨"search-index1.2.3.js".toList, .semantic ⟨1, 2, 3, [], []⟩,
    servesIndex_small (t := pageOfSuffix "1.2.3") rfl (by decide) (by decide +kernel) rfl rfl,
    toOption_eq_some.mp (by decide +kernel)⟩

end Network

namespace CommandLine

open SimplePath (parse)

variable {s : Surroundings} {args : Arguments} {file : Text} {version : Option Text}

theorem lookupOffline_eq_ok {net : Network} {p : Payload} {std : Bool}
    {result : Outcome × Option Text} :
    lookupOffline net path p version std = .ok result ↔ ∃ id links,
      CrateIdentity.make path.crateName version
        (if std then .stdlib else CrateIdentity.hostingOf path.crateName) = .ok id ∧
      CrateLinks.load p id = .ok links ∧ net.lookIn links path = .ok result := by
  rw [lookupOffline]
  simp only [bind_eq_ok, mapError_eq_ok]
  exact exists_congr fun id => exists_and_left.symm

/-- Looks a path up in the payload that a file holds. -/
def lookupFile (s : Surroundings) (path : SimplePath) (file : Text) (version : Option Text)
    (std : Bool) : Except Failure (Outcome × Option Text) := do
  let payload ← readFile s file
  (lookupOffline s.network path (.bytes payload) version std).mapError Failure.lookup

/-- The command looks a path up in the file that it is given, without a request. -/
theorem runFrom_lookup_file (hfile : args.indexFile = some (.text file))
    (hversion : args.version = version.map .text) : runFrom (lookup s args) log =
      ((parse args.path).mapError (fun e => .lookup (.path e)) >>= fun path =>
        (lookupFile s path file version args.std).map (path, ·), log) := by
  have hvalue : valueOf? .version args.version = .ok version := by
    rw [hversion]
    cases version <;> rfl
  rw [lookup, hfile, hvalue, runFrom_bind, runFrom_lift]
  rcases (parse args.path).mapError _ with _ | path
  · rfl
  · simp only [runFrom_bind, runFrom_lift, valueOf, lookupFile]
    cases readFile s file with
    | error e => rfl
    | ok payload =>
      simp only [bind, Except.bind]
      cases lookupOffline s.network path (.bytes payload) version args.std <;> rfl

/-- A lookup on the network and one in a file that holds the payload of the server agree, on the
result as well as on the failure: for a crate in a version that is asked for, and for the standard
library, where it is linked on the channel that it is fetched from. -/
theorem findLink_eq_lookupFile (s : Surroundings) (path : SimplePath) (file : Text)
    (payload : Bytes) (log : List String) (hfile : readFile s file = .ok payload) :
    (∀ version sv, path.isStd = false → Version.parseText version = .ok (.semantic sv) →
      s.network.ServesCrate log path.crateName (.semantic sv) payload →
      (runFrom (s.network.findLink path (some version)) log).1.mapError Failure.lookup =
        lookupFile s path file (some version) false) ∧
    ∀ version, path.isStd = true → s.network.sites.channel = "nightly" →
      s.network.ServesStdlib log payload →
      (runFrom (s.network.findLink path version) log).1.mapError Failure.lookup =
        lookupFile s path file none false := by
  have hfound (version : Option Text) (std : Bool) : lookupFile s path file version std =
      (lookupOffline s.network path (.bytes payload) version std).mapError Failure.lookup := by
    rw [lookupFile, hfile]
    rfl
  constructor
  · intro version sv hpath hv hserves
    rw [Network.findLink_eq_lookupOffline_crate hpath hv hserves, hfound]
  · intro version hpath hchannel hserves
    rw [Network.findLink_eq_lookupOffline_stdlib hpath hchannel hserves, hfound]

/-- The payload of the small sites in a file. -/
def smallSurroundings : Surroundings where
  readFile _ := .ok (Utf8.ascii Network.twoCratesPayload)
  network := Network.smallNetwork

def crateOnly (name : Text) : SimplePath := ⟨⟨name, false⟩, []⟩

theorem findLink_eq_lookupFile_small :
    lookupFile smallSurroundings (crateOnly "a") "index.js" (some "1.0.0") false =
      .ok (.crateRoot "a", some "https://docs.rs/a/1.0.0/a/index.html") ∧
    (runFrom (Network.smallNetwork.findLink (crateOnly "a") (some "1.0.0")) []).1.mapError .lookup =
      lookupFile smallSurroundings (crateOnly "a") "index.js" (some "1.0.0") false ∧
    (runFrom (Network.smallNetwork.findLink (crateOnly "std") (some "1.0.0")) []).1.mapError
      .lookup = lookupFile smallSurroundings (crateOnly "std") "index.js" none false := by
  have hfile : readFile smallSurroundings "index.js" =
      .ok (Utf8.ascii Network.twoCratesPayload) := rfl
  refine ⟨mapError_eq_ok.mpr (lookupOffline_eq_ok.mpr ⟨_, _, ?_, Network.load_small, ?_⟩), ?_, ?_⟩
  · exact toOption_eq_some.mp (by decide +kernel)
  · exact toOption_eq_some.mp (by decide +kernel)
  · exact (findLink_eq_lookupFile _ _ _ _ [] hfile).1 _ _ (by decide +kernel)
      (toOption_eq_some.mp (by decide +kernel)) Network.servesCrate_small
  · exact (findLink_eq_lookupFile _ _ _ _ [] hfile).2 _ (by decide +kernel) rfl
      Network.servesStdlib_small

end CommandLine

end RustdocIndex
