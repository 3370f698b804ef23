import RustdocIndex.Proofs.Link.Identity
import RustdocIndex.Proofs.Text.Ascii
import RustdocIndex.Proofs.Web.Fetch
import RustdocIndex.Web.Service

/-! The identities of crates that are loaded, searched for and fetched with the standard library.
All are accepted, but for one case: a search for the latest version believes an address that names
a release channel. -/
namespace RustdocIndex.Network

variable {net : Network} {name : Text} {version : Option Text} {v : Version}
  {links : List CrateLinks} {l : CrateLinks} {log log' : List String} {payload : Bytes}

theorem runFrom_ofWeb_eq_ok {α : Type} {x : Web α} {a : α} :
    runFrom (Lookup.ofWeb x) log = (.ok a, log') ↔ runFrom x log = (.ok a, log') := by
  rw [Lookup.ofWeb, runFrom_adapt, Prod.mk.injEq, mapError_eq_ok, Prod.ext_iff]

theorem search_eq_ok : runFrom (net.search name version) log = (.ok links, log') ↔
    ∃ id v payload, CrateIdentity.make name version .registry = .ok id ∧
      runFrom (net.fetchCrate (urlName name) id.version.text) log = (.ok (v, payload), log') ∧
      CrateLinks.load (.bytes payload) { id with version := v } = .ok links := by
  rw [search]
  simp only [runFrom_bind_eq_ok, runFrom_lift, runFrom_ofWeb_eq_ok, Prod.mk.injEq, mapError_eq_ok]
  constructor
  · rintro ⟨id, u, ⟨hid, rfl⟩, ⟨v, payload⟩, u, hfetch, hload, rfl⟩
    exact ⟨id, v, payload, hid, hfetch, hload⟩
  · rintro ⟨id, v, payload, hid, hfetch, hload⟩
    exact ⟨id, _, ⟨hid, rfl⟩, (v, payload), _, hfetch, hload, rfl⟩

theorem stdlib_eq_ok : runFrom net.stdlib log = (.ok links, log') ↔
    ∃ v payload found, runFrom net.fetchStdlib log = (.ok (v, payload), log') ∧
      (Payload.bytes payload).decode none (some (Text.ofString v.text)) = .ok found ∧
      links = found.map fun c => ⟨c, ⟨c.name, .channel stdlibRoot, .stdlib⟩⟩ := by
  rw [stdlib]
  simp only [runFrom_bind_eq_ok, runFrom_lift, runFrom_pure, runFrom_ofWeb_eq_ok, Prod.mk.injEq,
    mapError_eq_ok]
  constructor
  · rintro ⟨⟨v, payload⟩, u, hfetch, found, u, ⟨hfound, rfl⟩, h, rfl⟩
    cases h
    exact ⟨v, payload, found, hfetch, hfound, rfl⟩
  · rintro ⟨v, payload, found, hfetch, hfound, rfl⟩
    exact ⟨(v, payload), _, hfetch, found, _, ⟨hfound, rfl⟩, rfl, rfl⟩

/-- A search for the latest version of a crate ends at a page whose address names a channel. -/
def LeadsToChannel (net : Network) (name : Text) (version : Option Text) (log : List String) :
    Prop :=
  Version.parseOption version = .ok .latest ∧ ∃ finalUrl page log' c,
    runFrom (net.download (net.pageUrl (urlName name) .latest)) log = (.ok (finalUrl, page), log') ∧
      versionInUrl? finalUrl = .ok (some (.channel c))

/-- A settled version is read from its own text. -/
theorem parse_of_settledVersion {requested : Version} {url : String}
    (hr : Version.parse requested.text = .ok requested)
    (h : settledVersion requested url = .ok v) : Version.parse v.text = .ok v := by
  rw [settledVersion_eq_ok] at h
  split at h
  · obtain ⟨found, hfound, rfl⟩ := h
    cases found with
    | none => rfl
    | some v =>
      obtain ⟨segment, hs⟩ := versionInUrl?_eq_some hfound
      exact Version.parse_text hs
  · rwa [h]

theorem stdlib_isAccepted (h : runFrom net.stdlib log = (.ok links, log')) (hl : l ∈ links) :
    l.identity.IsAccepted := by
  obtain ⟨v, payload, found, -, hfound, rfl⟩ := stdlib_eq_ok.mp h
  obtain ⟨c, hc, rfl⟩ := List.mem_map.mp hl
  exact CrateIdentity.isAccepted_iff.mpr
    ⟨Payload.name_of_decode hfound hc, Version.parse_name stdlibRoot, rfl⟩

/-- Only a channel keeps an identity of the registry's site from being accepted. -/
theorem isAccepted_registry (hname : Schema.nonemptyText name = .valid name)
    (hv : Version.parse v.text = .ok v) :
    (CrateIdentity.mk name v .registry).IsAccepted ↔ ∀ c, v ≠ .channel c := by
  rw [CrateIdentity.isAccepted_iff]
  cases v with
  | channel c => simp [CrateIdentity.misplacedChannel?]
  | latest | semantic w => simp [CrateIdentity.misplacedChannel?, hname, hv]

/-- The version that a search settles on is a channel if it leads to one. -/
theorem settled_channel_iff {asked requested : Version} {finalUrl : String} {page : Bytes}
    (hasked : Version.parseOption version = .ok asked) (hc : ∀ c, asked ≠ .channel c)
    (hrequested : Version.parse asked.text = .ok requested)
    (hpage : runFrom (net.download (net.pageUrl (urlName name) requested)) log =
      (.ok (finalUrl, page), log'))
    (hsettled : settledVersion requested finalUrl = .ok v) :
    (∃ c, v = .channel c) ↔ net.LeadsToChannel name version log := by
  obtain rfl : asked = requested :=
    Except.ok.inj ((Version.parseOption_text hasked).symm.trans hrequested)
  rw [settledVersion_eq_ok] at hsettled
  split at hsettled
  · next hlatest =>
    subst hlatest
    obtain ⟨found, hfound, rfl⟩ := hsettled
    constructor
    · rintro ⟨c, hv⟩
      cases found with
      | none => cases hv
      | some v =>
        cases (show v = .channel c from hv)
        exact ⟨hasked, finalUrl, page, log', c, hpage, hfound⟩
    · rintro ⟨-, url, page', log₁, c, hpage', hurl⟩
      cases hpage.symm.trans hpage'
      cases hfound.symm.trans hurl
      exact ⟨c, rfl⟩
  · next hlatest =>
    subst hsettled
    constructor
    · rintro ⟨c, rfl⟩
      exact absurd rfl (hc c)
    · rintro ⟨hlatest', -⟩
      exact absurd (Except.ok.inj (hasked.symm.trans hlatest')) hlatest

/-- What is searched for has accepted identities, unless the search leads to a channel. -/
theorem search_isAccepted_iff (h : runFrom (net.search name version) log = (.ok links, log'))
    (hl : l ∈ links) : l.identity.IsAccepted ↔ ¬ net.LeadsToChannel name version log := by
  obtain ⟨id, v, payload, hid, hfetch, hload⟩ := search_eq_ok.mp h
  obtain ⟨asked, hasked, hname, rfl, hplain⟩ := CrateIdentity.make_eq_ok.mp hid
  obtain ⟨requested, finalUrl, page, log₁, path, url, hrequested, hpage, hsettled, -⟩ :=
    fetchCrate_eq_ok.mp hfetch
  have hrequested : Version.parse asked.text = .ok requested :=
    (Version.parseOption_ofString _).symm.trans hrequested
  have hc : ∀ c, asked ≠ .channel c := by
    rintro c rfl
    cases hplain
  have hv : Version.parse v.text = .ok v := by
    exact parse_of_settledVersion (Version.parse_text hrequested) hsettled
  rw [← settled_channel_iff hasked hc hrequested hpage hsettled, not_exists]
  rcases CrateLinks.identity_of_load hload hl with he | ⟨he, hlname⟩
  · rw [he]
    exact isAccepted_registry hname hv
  · rw [he]
    exact isAccepted_registry hlname hv

/-- Whatever is loaded for an accepted identity or fetched with the standard library has accepted
identities, and so has what is searched for, unless the search leads to a channel. -/
theorem identities_isAccepted (net : Network) (log log' : List String) :
    (∀ id p links, CrateIdentity.IsAccepted id → CrateLinks.load p id = .ok links →
      ∀ l ∈ links, l.identity.IsAccepted) ∧
    (∀ links, runFrom net.stdlib log = (.ok links, log') → ∀ l ∈ links, l.identity.IsAccepted) ∧
    ∀ name version links, runFrom (net.search name version) log = (.ok links, log') →
      ∀ l ∈ links, l.identity.IsAccepted ↔ ¬ net.LeadsToChannel name version log :=
  ⟨fun _ _ _ hid h _ hl => CrateLinks.isAccepted_of_load hid h hl,
    fun _ h _ hl => stdlib_isAccepted h hl, fun _ _ _ h _ hl => search_isAccepted_iff h hl⟩

/-- The crates of the small sites with one version and hosting. -/
def linksOfTwo (recorded : Text) (version : Version) (hosting : Hosting) : List CrateLinks :=
  twoCrates.map fun c => ⟨c.recorded (some recorded), ⟨c.name, version, hosting⟩⟩

theorem load_small : CrateLinks.load (.bytes (Utf8.ascii twoCratesPayload))
    ⟨"a", .semantic ⟨1, 0, 0, [], []⟩, .registry⟩ =
      .ok (linksOfTwo "1.0.0" (.semantic ⟨1, 0, 0, [], []⟩) .registry) :=
  CrateLinks.load_eq_ok.mpr ⟨_, decode_twoCratesPayload _, by decide +kernel⟩

theorem search_smallNetwork : runFrom (smallNetwork.search "a" none) [] =
    (.ok (linksOfTwo "nightly" (.channel .nightly) .registry),
      ["https://docs.rs/a/latest/a/", "https://docs.rs/a/nightly/search-index.js"]) := by
  refine search_eq_ok.mpr ⟨⟨"a", .latest, .registry⟩, .channel .nightly,
    Utf8.ascii twoCratesPayload, toOption_eq_some.mp (by decide +kernel), fetchCrate_smallNetwork, ?_⟩
  exact CrateLinks.load_eq_ok.mpr ⟨_, decode_twoCratesPayload _, by decide⟩

theorem stdlib_smallNetwork : runFrom smallNetwork.stdlib [] =
    (.ok (linksOfTwo "1.2.3" (.channel .nightly) .stdlib),
      ["https://doc.rust-lang.org/nightly/std/index.html",
        "https://doc.rust-lang.org/nightly/search-index1.2.3.js"]) := by
  exact stdlib_eq_ok.mpr ⟨_, _, _, fetchStdlib_smallNetwork, decode_twoCratesPayload _,
    by decide +kernel⟩

/-- A crate of the registry's site gets an identity that would be refused if it were made again. -/
theorem search_channel_not_accepted : ∃ (net : Network) (name : Text) (links : List CrateLinks)
    (log' : List String), runFrom (net.search name none) [] = (.ok links, log') ∧
      ∃ l ∈ links, ¬ l.identity.IsAccepted :=
  ⟨smallNetwork, "a", _, _, search_smallNetwork,
    ⟨_, List.mem_cons_self, fun h => nomatch (CrateIdentity.isAccepted_iff.mp h).2.2⟩⟩

theorem identities_isAccepted_small :
    (∀ l ∈ linksOfTwo "1.0.0" (.semantic ⟨1, 0, 0, [], []⟩) .registry, l.identity.IsAccepted) ∧
    (∀ l ∈ linksOfTwo "1.2.3" (.channel .nightly) .stdlib, l.identity.IsAccepted) ∧
    smallNetwork.LeadsToChannel "a" none [] := by
  obtain ⟨hloaded, -, hsearched⟩ := identities_isAccepted smallNetwork [] _
  refine ⟨hloaded _ _ _ (toOption_eq_some.mp (by decide +kernel)) load_small,
    (identities_isAccepted smallNetwork [] _).2.1 _ stdlib_smallNetwork, ?_⟩
  have hl : (⟨twoCrates[0].recorded (some "nightly"), ⟨"a", .channel .nightly, .registry⟩⟩ :
      CrateLinks) ∈ linksOfTwo "nightly" (.channel .nightly) .registry := List.mem_cons_self
  have hrefused := mt (hsearched _ _ _ search_smallNetwork _ hl).mpr
  exact Classical.not_not.mp (hrefused fun h => nomatch (CrateIdentity.isAccepted_iff.mp h).2.2)

end RustdocIndex.Network
