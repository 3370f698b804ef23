import RustdocIndex.Proofs.Payload.Recorded
import RustdocIndex.Proofs.Text.Ascii
import RustdocIndex.Proofs.Version.Reading
import RustdocIndex.Proofs.Web.Download

/-! What is fetched from the documentation sites, step by step. -/
namespace RustdocIndex

theorem versionInUrl?_eq_some {url : String} {v : Version} (h : versionInUrl? url = .ok (some v)) :
    ∃ segment, Version.parse segment = .ok v := by
  obtain ⟨path, -, h⟩ := bind_eq_ok.mp h
  split at h
  · next segment _ hs => exact ⟨_, toOption_eq_some.mp (Except.ok.inj h)⟩
  · cases h

namespace Network

variable {net : Network} {name : String} {version : Option Text} {v requested : Version}
  {payload page : Bytes} {log log' : List String} {url : String}

/-- The address of a crate's page. -/
def pageUrl (net : Network) (name : String) (requested : Version) : String :=
  net.crateUrl name requested (name ++ "/")

theorem indexPath_eq_ok {path : List Char} :
    indexPath url page = .ok path ↔ findIndexPath? (Utf8.decodeLossy page) = some path := by
  unfold indexPath
  split
  · next h => simp [h]
  · next h => simp [h]

/-- Only a request for the latest version looks at the address that answered. -/
theorem settledVersion_eq_ok : settledVersion requested url = .ok v ↔
    if requested = .latest then ∃ found, versionInUrl? url = .ok found ∧ v = found.getD .latest
    else v = requested := by
  cases requested with
  | latest =>
    simp only [settledVersion, if_true, bind_eq_ok, mapError_eq_ok]
    exact exists_congr fun found => and_congr_right fun _ => ⟨fun h => by cases h; rfl,
      fun h => by rw [h]; rfl⟩
  | channel c => simp [settledVersion, eq_comm]
  | semantic w => simp [settledVersion, eq_comm]

/-- An index is fetched by a download of the page, and one from the address that the page and the
settled version give. -/
theorem fetchCrate_eq_ok : runFrom (net.fetchCrate name version) log = (.ok (v, payload), log') ↔
    ∃ requested finalUrl page log₁ path url, Version.parseOption version = .ok requested ∧
      runFrom (net.download (net.pageUrl name requested)) log = (.ok (finalUrl, page), log₁) ∧
      settledVersion requested finalUrl = .ok v ∧
      findIndexPath? (Utf8.decodeLossy page) = some path ∧
      runFrom (net.download (net.crateUrl name v (String.ofList path))) log₁ =
        (.ok (url, payload), log') := by
  rw [fetchCrate]
  simp only [runFrom_bind_eq_ok, runFrom_lift, runFrom_pure, Prod.mk.injEq]
  constructor
  · rintro ⟨requested, u, ⟨hv, rfl⟩, ⟨finalUrl, page⟩, log₁, hpage, v', u, ⟨hs, rfl⟩, path, u,
      ⟨hpath, rfl⟩, ⟨url, payload'⟩, u, hindex, h, rfl⟩
    cases h
    exact ⟨requested, finalUrl, page, log₁, path, url, mapError_eq_ok.mp hv, hpage, hs,
      indexPath_eq_ok.mp hpath, hindex⟩
  · rintro ⟨requested, finalUrl, page, log₁, path, url, hv, hpage, hs, hpath, hindex⟩
    exact ⟨requested, _, ⟨mapError_eq_ok.mpr hv, rfl⟩, (finalUrl, page), log₁, hpage, v, _,
      ⟨hs, rfl⟩, path, _, ⟨indexPath_eq_ok.mpr hpath, rfl⟩, (url, payload), _, hindex, rfl, rfl⟩

/-- The address that the pages of the standard library are under. -/
def stdlibUrl (net : Network) (path : String) : String :=
  s!"{net.sites.stdlib}/{stdlibRoot.name}/" ++ path

/-- Like a crate's, but for the version, which is in the name of the file. -/
theorem fetchStdlib_eq_ok : runFrom net.fetchStdlib log = (.ok (v, payload), log') ↔
    ∃ finalUrl page log₁ path url,
      runFrom (net.download (net.stdlibUrl "std/index.html")) log = (.ok (finalUrl, page), log₁) ∧
      findIndexPath? (Utf8.decodeLossy page) = some path ∧ stdlibVersion path = .ok v ∧
      runFrom (net.download (net.stdlibUrl (String.ofList path))) log₁ =
        (.ok (url, payload), log') := by
  rw [fetchStdlib]
  simp only [runFrom_bind_eq_ok, runFrom_lift, runFrom_pure, Prod.mk.injEq]
  constructor
  · rintro ⟨⟨finalUrl, page⟩, log₁, hpage, path, u, ⟨hpath, rfl⟩, v', u, ⟨hv, rfl⟩,
      ⟨url, payload'⟩, u, hindex, h, rfl⟩
    cases h
    exact ⟨finalUrl, page, log₁, path, url, hpage, indexPath_eq_ok.mp hpath, hv, hindex⟩
  · rintro ⟨finalUrl, page, log₁, path, url, hpage, hpath, hv, hindex⟩
    exact ⟨(finalUrl, page), log₁, hpage, path, _, ⟨indexPath_eq_ok.mpr hpath, rfl⟩, v, _,
      ⟨hv, rfl⟩, (url, payload), _, hindex, rfl, rfl⟩

/-- Two crates without items. -/
def twoCratesPayload : List Char :=
  ("var searchIndex=\x7b\"a\":\x7b\"doc\":\"\",\"i\":[],\"p\":[]\x7d," ++
    "\"std\":\x7b\"doc\":\"\",\"i\":[],\"p\":[]\x7d\x7d;").toList

def twoCrates : List Crate := [⟨"a", none, [], ⟨"a", [], []⟩⟩, ⟨"std", none, [], ⟨"std", [], []⟩⟩]

theorem decode_twoCratesPayload (version : Option Text) :
    (Payload.bytes (Utf8.ascii twoCratesPayload)).decode none version =
      .ok (twoCrates.map (·.recorded version)) := by
  have hchars : (Payload.bytes (Utf8.ascii twoCratesPayload)).chars = .ok twoCratesPayload := by
    rw [Payload.chars, Utf8.decode_ascii (by decide)]
    rfl
  have hplain : (Payload.bytes (Utf8.ascii twoCratesPayload)).decode none none =
      .ok twoCrates := by
    rw [Payload.decode, hchars]
    exact toOption_eq_some.mp (by decide +kernel)
  rw [Payload.decode_recorded, hplain]
  rfl

def pageOfSuffix (suffix : String) : List Char := s!"data-resource-suffix=\"{suffix}\"".toList

def smallPage (url : String) (body : List Char) : String × Response :=
  (url, ⟨200, url, none, Utf8.ascii body⟩)

/-- Sites with one crate in one version and with the standard library. The latest version of the
crate leads to a channel. -/
def smallSites : Fields String Response := [
  ("https://docs.rs/a/latest/a/",
    ⟨200, "https://docs.rs/a/nightly/a/", none, Utf8.ascii (pageOfSuffix "")⟩),
  smallPage "https://docs.rs/a/nightly/search-index.js" twoCratesPayload,
  smallPage "https://docs.rs/a/1.0.0/a/" (pageOfSuffix ""),
  smallPage "https://docs.rs/a/1.0.0/search-index.js" twoCratesPayload,
  smallPage "https://doc.rust-lang.org/nightly/std/index.html" (pageOfSuffix "1.2.3"),
  smallPage "https://doc.rust-lang.org/nightly/search-index1.2.3.js" twoCratesPayload]

def smallNetwork : Network where
  server := .ofPages smallSites
  sites := Settings.standard.sites
  limits := ⟨1000, 100, 3⟩

/-- Every page of the small sites is delivered. -/
theorem delivers_smallSites {url : String} {r : Response} (h : Fields.get? url smallSites = some r)
    (log : List String) : smallNetwork.Delivers log url 0 r := by
  have htaken : ∀ page ∈ smallSites, page.2.IsTaken smallNetwork.limits := by
    have hchecks : ∀ page ∈ smallSites, page.2.status = 200 ∧ page.2.declaredLength = none ∧
        (page.2.body.length : Int) ≤ smallNetwork.limits.maxSize := by decide
    intro page hpage
    obtain ⟨hstatus, hlength, hsize⟩ := hchecks page hpage
    exact ⟨hstatus, fun _ => by rw [hlength]; rfl, hsize⟩
  exact delivers_ofPages rfl h (htaken _ (Fields.mem_of_get? h)) (by decide) log

theorem download_smallPage {url : String} {body : List Char}
    (h : Fields.get? url smallSites = some (smallPage url body).2) (log : List String) :
    runFrom (smallNetwork.download url) log = (.ok (url, Utf8.ascii body), log ++ [url]) :=
  (delivers_smallSites h log).download

theorem fetchCrate_smallNetwork : runFrom (smallNetwork.fetchCrate "a" (some "latest")) [] =
    (.ok (.channel .nightly, Utf8.ascii twoCratesPayload),
      ["https://docs.rs/a/latest/a/", "https://docs.rs/a/nightly/search-index.js"]) := by
  refine fetchCrate_eq_ok.mpr ⟨.latest, _, _, _, "search-index.js".toList, _, rfl,
    (delivers_smallSites rfl []).download, toOption_eq_some.mp (by decide +kernel), ?_,
    download_smallPage rfl _⟩
  rw [Utf8.decodeLossy_ascii (by decide)]
  decide +kernel

theorem fetchStdlib_smallNetwork : runFrom smallNetwork.fetchStdlib [] =
    (.ok (.semantic ⟨1, 2, 3, [], []⟩, Utf8.ascii twoCratesPayload),
      ["https://doc.rust-lang.org/nightly/std/index.html",
        "https://doc.rust-lang.org/nightly/search-index1.2.3.js"]) := by
  refine fetchStdlib_eq_ok.mpr ⟨_, _, _, "search-index1.2.3.js".toList, _,
    download_smallPage rfl [], ?_, toOption_eq_some.mp (by decide +kernel), download_smallPage rfl _⟩
  rw [Utf8.decodeLossy_ascii (by decide)]
  decide +kernel

end Network

end RustdocIndex
