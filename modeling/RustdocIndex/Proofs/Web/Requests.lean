import RustdocIndex.Proofs.Text.Split
import RustdocIndex.Proofs.Web.Identities

/-! The requests of a fetch: some for a page, and then some for the one index that the page refers
to. What is fetched belongs to the version that it is fetched for. -/
namespace RustdocIndex

section

variable {path name s : List Char}

/-- The name of a file is what stands behind the last slash of its path. -/
theorem fileName_eq_iff : fileName path = name ↔
    (∃ front, path = front ++ '/' :: name ∧ '/' ∉ name) ∨ ('/' ∉ path ∧ path = name) := by
  have hname : some (fileName path) = afterLastOr ['/'] (some path) path := by
    rw [afterLastOr_eq_or, fileName]
    cases afterLast? ['/'] path <;> rfl
  rw [← Option.some_inj, hname, afterLastOr_eq_some, Option.some_inj]

/-- A directory in front does not change the name. -/
theorem fileName_append (front : List Char) : fileName (front ++ '/' :: path) = fileName path := by
  rw [fileName_eq_iff]
  left
  rcases fileName_eq_iff.mp (Eq.refl (fileName path)) with ⟨inner, heq, h⟩ | ⟨h, heq⟩
  · refine ⟨front ++ '/' :: inner, ?_, h⟩
    rw [List.append_assoc, List.cons_append, ← heq]
  · exact ⟨front, by rw [← heq], by rwa [← heq]⟩

/-- The file with the index that has the text `s` for its version. -/
def indexFile (s : List Char) : List Char := "search-index".toList ++ s ++ ".js".toList

theorem slash_mem_indexFile : '/' ∈ indexFile s ↔ '/' ∈ s := by
  have hmem : ∀ stem ending : List Char, '/' ∉ stem → '/' ∉ ending →
      ('/' ∈ stem ++ s ++ ending ↔ '/' ∈ s) := by
    intro stem ending hstem hending
    simp [hstem, hending]
  exact hmem _ _ (by decide) (by decide)

/-- What stands between a stem and an ending, if it is not empty. -/
theorem between_eq_some {stem ending t : List Char} :
    (do
      let rest ← after? stem t
      let reversed ← after? ending.reverse rest.reverse
      if reversed.isEmpty then none else some reversed.reverse) = some s ↔
      s ≠ [] ∧ t = stem ++ s ++ ending := by
  simp only [Option.bind_eq_bind, Option.bind_eq_some_iff, after?_eq_some]
  constructor
  · rintro ⟨rest, hname, reversed, hrest, h⟩
    split at h
    · cases h
    · next hne =>
      cases h
      rw [List.reverse_eq_iff, List.reverse_append, List.reverse_reverse] at hrest
      refine ⟨by simpa using hne, ?_⟩
      rw [hname, hrest, List.append_assoc]
  · rintro ⟨hne, hname⟩
    refine ⟨s ++ ending, by rw [hname, List.append_assoc], s.reverse, List.reverse_append, ?_⟩
    rw [List.reverse_reverse, if_neg (by simpa using hne)]

theorem fileVersion?_eq_some :
    fileVersion? path = some s ↔ s ≠ [] ∧ fileName path = indexFile s := between_eq_some

end

namespace Network

variable {net : Network} {log log' : List String} {name url finalUrl : String}
  {version : Option Text} {requested v : Version} {payload body : Bytes} {r page : Response}
  {path s : List Char}

/-- The last part of an address is the name of an index file that has the text `s` for its
version. -/
def NamesIndex (url : String) (s : List Char) : Prop :=
  s ≠ [] ∧ '/' ∉ s ∧ ∃ front, url.toList = front ++ '/' :: indexFile s

theorem namesIndex_iff : NamesIndex (net.stdlibUrl (String.ofList path)) s ↔
    s ≠ [] ∧ fileName path = indexFile s := by
  obtain ⟨root, hurl⟩ : ∃ root, (net.stdlibUrl (String.ofList path)).toList = root ++ '/' :: path :=
    ⟨s!"{net.sites.stdlib}/{stdlibRoot.name}".toList, by simp [stdlibUrl, toString]⟩
  rw [NamesIndex, hurl, ← fileName_append root, fileName_eq_iff]
  constructor
  · rintro ⟨hne, hs, front, h⟩
    exact ⟨hne, .inl ⟨front, h, mt slash_mem_indexFile.mp hs⟩⟩
  · rintro ⟨hne, ⟨front, h, hs⟩ | ⟨hnone, -⟩⟩
    · exact ⟨hne, mt slash_mem_indexFile.mpr hs, front, h⟩
    · exact absurd (by simp) hnone

/-- The version of the standard library is the one in the address of its index. -/
theorem stdlibVersion_eq_ok (net : Network) : stdlibVersion path = .ok v ↔
    ∃ s, NamesIndex (net.stdlibUrl (String.ofList path)) s ∧
      Version.parse (String.ofList s) = .ok v := by
  simp only [namesIndex_iff, ← fileVersion?_eq_some]
  rw [stdlibVersion]
  cases fileVersion? path with
  | none => simp
  | some s => simp [mapError_eq_ok]

/-- After the requests of a log, a download requests an address some times: all answers but the last
one are outages, and that one is a page. -/
structure Gets (net : Network) (log : List String) (url : String) (tries : Nat) (r : Response) :
    Prop where
  pos : 1 ≤ tries
  le : tries ≤ net.limits.attempts
  outage : ∀ i < tries - 1, ∃ o, net.server url (log.count url + i) = .error o
  answer : net.server url (log.count url + (tries - 1)) = .ok r
  status : r.status = 200

theorem gets_of_download (hattempts : 1 ≤ net.limits.attempts)
    (h : runFrom (net.download url) log = (.ok (finalUrl, body), log')) :
    ∃ tries r, net.Gets log url tries r ∧ finalUrl = r.url ∧ body = r.body ∧
      log' = log ++ List.replicate tries url := by
  obtain ⟨outages, hle, ho, hrun⟩ := Web.download_cases net.server net.limits url log
  rw [download, hrun, Prod.mk.injEq] at h
  obtain ⟨hconclude, rfl⟩ := h
  obtain ⟨r, hanswer, hreceive⟩ := Web.conclude_eq_ok.mp hconclude
  obtain ⟨hs, -, -, hurl, hbody⟩ := Web.receive_eq_ok.mp hreceive
  exact ⟨outages + 1, r, ⟨by omega, by omega, ho, hanswer, hs⟩, hurl, hbody, rfl⟩

/-- The requests of a fetch that ends with a payload: some for a page, and then some for an index,
of which the payload is the body. -/
inductive Fetched (net : Network) (log : List String) (pageUrl : String) (page : Response)
    (indexUrl : String) : Bytes → List String → Prop
  | intro {pages indexes : Nat} {index : Response} (hpage : net.Gets log pageUrl pages page)
      (hindex : net.Gets (log ++ List.replicate pages pageUrl) indexUrl indexes index) :
      Fetched net log pageUrl page indexUrl index.body
        (log ++ List.replicate pages pageUrl ++ List.replicate indexes indexUrl)

theorem fetched_of_downloads {pageUrl indexUrl : String} {log₁ : List String}
    (hattempts : 1 ≤ net.limits.attempts)
    (hpage : runFrom (net.download pageUrl) log = (.ok (finalUrl, body), log₁))
    (hindex : runFrom (net.download indexUrl) log₁ = (.ok (url, payload), log')) :
    ∃ page, finalUrl = page.url ∧ body = page.body ∧
      net.Fetched log pageUrl page indexUrl payload log' := by
  obtain ⟨pages, page, hgets, hurl, hbody, rfl⟩ := gets_of_download hattempts hpage
  obtain ⟨indexes, index, hgets', -, rfl, rfl⟩ := gets_of_download hattempts hindex
  exact ⟨page, hurl, hbody, .intro hgets hgets'⟩

theorem fetched_of_fetchCrate (hattempts : 1 ≤ net.limits.attempts)
    (h : runFrom (net.fetchCrate name version) log = (.ok (v, payload), log')) :
    Version.parse v.text = .ok v ∧ ∃ requested page path,
      Version.parseOption version = .ok requested ∧
      settledVersion requested page.url = .ok v ∧
      findIndexPath? (Utf8.decodeLossy page.body) = some path ∧
      net.Fetched log (net.pageUrl name requested) page
        (net.crateUrl name v (String.ofList path)) payload log' := by
  obtain ⟨requested, finalUrl, body, log₁, path, url, hv, hpage, hs, hpath, hindex⟩ :=
    fetchCrate_eq_ok.mp h
  obtain ⟨page, rfl, rfl, hfetched⟩ := fetched_of_downloads hattempts hpage hindex
  exact ⟨parse_of_settledVersion (Version.parseOption_text hv) hs, requested, page, path, hv, hs,
    hpath, hfetched⟩

theorem fetched_of_fetchStdlib (hattempts : 1 ≤ net.limits.attempts)
    (h : runFrom net.fetchStdlib log = (.ok (v, payload), log')) :
    ∃ page path s, findIndexPath? (Utf8.decodeLossy page.body) = some path ∧
      NamesIndex (net.stdlibUrl (String.ofList path)) s ∧
      Version.parse (String.ofList s) = .ok v ∧
      net.Fetched log (net.stdlibUrl "std/index.html") page (net.stdlibUrl (String.ofList path))
        payload log' := by
  obtain ⟨finalUrl, body, log₁, path, url, hpage, hpath, hv, hindex⟩ := fetchStdlib_eq_ok.mp h
  obtain ⟨page, rfl, rfl, hfetched⟩ := fetched_of_downloads hattempts hpage hindex
  obtain ⟨s, hnames, hs⟩ := (stdlibVersion_eq_ok net).mp hv
  exact ⟨page, path, s, hpath, hnames, hs, hfetched⟩

/-- The page that a download of an address gets refers to an index file. -/
def Refers (net : Network) (log : List String) (url : String) (path : List Char) : Prop :=
  ∃ finalUrl page log', runFrom (net.download url) log = (.ok (finalUrl, page), log') ∧
    findIndexPath? (Utf8.decodeLossy page) = some path

/-- The computation fails, and has requested nothing but an address. -/
def FailsAfter {α : Type} (net : Network) (log : List String) (url : String) (x : Web α) : Prop :=
  ∃ e tries, 1 ≤ tries ∧ tries ≤ net.limits.attempts ∧
    runFrom x log = (.error e, log ++ List.replicate tries url)

/-- What is done with a page fails without a request if it fails for each page that is got. -/
theorem failsAfter_of_download {α : Type} {f : String × Bytes → Web α}
    (hattempts : 1 ≤ net.limits.attempts)
    (hf : ∀ page log', runFrom (net.download url) log = (.ok page, log') →
      ∃ e, runFrom (f page) log' = (.error e, log')) :
    net.FailsAfter log url (net.download url >>= f) := by
  obtain ⟨outages, hle, -, hrun⟩ := Web.download_cases net.server net.limits url log
  rw [← download] at hrun
  cases hresult : Web.conclude net.limits url (net.server url (log.count url + outages)) with
  | error e =>
    rw [hresult] at hrun
    exact ⟨e, outages + 1, by omega, by omega, by rw [runFrom_bind, hrun]⟩
  | ok page =>
    rw [hresult] at hrun
    obtain ⟨e, he⟩ := hf page _ hrun
    exact ⟨e, outages + 1, by omega, by omega, by rw [runFrom_bind_of_ok hrun, he]⟩

section

variable {α β : Type} {x : Except WebError α} {f : α → Web β}

/-- A result that is an error ends the computation at once. -/
theorem runFrom_lift_bind_of_error {e : WebError} (h : x = .error e) :
    runFrom (liftM x >>= f) log = (.error e, log) := by
  rw [runFrom_bind, runFrom_lift, h]

theorem runFrom_lift_bind_of_ok {a : α} (h : x = .ok a) :
    runFrom (liftM x >>= f) log = runFrom (f a) log := by
  rw [runFrom_bind, runFrom_lift, h]

end

theorem exists_indexPath_error {page : Bytes} (h : ∀ path,
    findIndexPath? (Utf8.decodeLossy page) ≠ some path) : ∃ e, indexPath url page = .error e := by
  cases hpath : indexPath url page with
  | error e => exact ⟨e, rfl⟩
  | ok path => exact absurd (indexPath_eq_ok.mp hpath) (h path)

theorem fetchCrate_failsAfter (hattempts : 1 ≤ net.limits.attempts)
    (hv : Version.parseOption version = .ok requested)
    (h : ∀ path, ¬ net.Refers log (net.pageUrl name requested) path) :
    net.FailsAfter log (net.pageUrl name requested) (net.fetchCrate name version) := by
  rw [FailsAfter, fetchCrate, runFrom_lift_bind_of_ok (mapError_eq_ok.mpr hv)]
  refine failsAfter_of_download hattempts ?_
  rintro ⟨finalUrl, page⟩ log' hpage
  cases hs : settledVersion requested finalUrl with
  | error e => exact ⟨e, runFrom_lift_bind_of_error hs⟩
  | ok v =>
    obtain ⟨e, he⟩ : ∃ e, indexPath (net.pageUrl name requested) page = .error e :=
      exists_indexPath_error fun path hpath => h path ⟨finalUrl, page, log', hpage, hpath⟩
    exact ⟨e, (runFrom_lift_bind_of_ok hs).trans (runFrom_lift_bind_of_error he)⟩

theorem fetchStdlib_failsAfter (hattempts : 1 ≤ net.limits.attempts)
    (h : ∀ path s v, net.Refers log (net.stdlibUrl "std/index.html") path →
      NamesIndex (net.stdlibUrl (String.ofList path)) s →
      Version.parse (String.ofList s) ≠ .ok v) :
    net.FailsAfter log (net.stdlibUrl "std/index.html") net.fetchStdlib := by
  refine failsAfter_of_download hattempts ?_
  rintro ⟨finalUrl, page⟩ log' hpage
  cases hpath : indexPath (net.stdlibUrl "std/index.html") page with
  | error e => exact ⟨e, runFrom_lift_bind_of_error hpath⟩
  | ok path =>
    obtain ⟨e, he⟩ : ∃ e, stdlibVersion path = .error e := by
      cases hv : stdlibVersion path with
      | error e => exact ⟨e, rfl⟩
      | ok v =>
        obtain ⟨s, hnames, hs⟩ := (stdlibVersion_eq_ok net).mp hv
        exact absurd hs (h path s v ⟨finalUrl, page, log', hpage, indexPath_eq_ok.mp hpath⟩ hnames)
    exact ⟨e, (runFrom_lift_bind_of_ok hpath).trans (runFrom_lift_bind_of_error he)⟩

/-- What is fetched belongs together: the index comes from the directory of the version that is told,
or from the file that names it, and the page and that index are all that is requested. Without an
index to request, a fetch fails after the requests of the page. -/
theorem fetches_belong (hattempts : net.limits.attempts = 3) (log : List String) :
    (∀ name version v payload log',
      runFrom (net.fetchCrate name version) log = (.ok (v, payload), log') →
      Version.parse v.text = .ok v ∧ ∃ requested page path,
        Version.parseOption version = .ok requested ∧
        (if requested = .latest
          then ∃ found, versionInUrl? page.url = .ok found ∧ v = found.getD .latest
          else v = requested) ∧
        findIndexPath? (Utf8.decodeLossy page.body) = some path ∧
        net.Fetched log (net.pageUrl name requested) page
          (net.crateUrl name v (String.ofList path)) payload log') ∧
    (∀ v payload log', runFrom net.fetchStdlib log = (.ok (v, payload), log') →
      ∃ page path s, findIndexPath? (Utf8.decodeLossy page.body) = some path ∧
        NamesIndex (net.stdlibUrl (String.ofList path)) s ∧
        Version.parse (String.ofList s) = .ok v ∧
        net.Fetched log (net.stdlibUrl "std/index.html") page (net.stdlibUrl (String.ofList path))
          payload log') ∧
    (∀ name version requested, Version.parseOption version = .ok requested →
      (∀ path, ¬ net.Refers log (net.pageUrl name requested) path) →
      net.FailsAfter log (net.pageUrl name requested) (net.fetchCrate name version)) ∧
    ((∀ path s v, net.Refers log (net.stdlibUrl "std/index.html") path →
        NamesIndex (net.stdlibUrl (String.ofList path)) s →
        Version.parse (String.ofList s) ≠ .ok v) →
      net.FailsAfter log (net.stdlibUrl "std/index.html") net.fetchStdlib) := by
  have hpos : 1 ≤ net.limits.attempts := by omega
  refine ⟨?_, ?_, ?_, fetchStdlib_failsAfter hpos⟩
  · intro name version v payload log' h
    simp only [← settledVersion_eq_ok]
    exact fetched_of_fetchCrate hpos h
  · intro v payload log' h
    exact fetched_of_fetchStdlib hpos h
  · intro name version requested hv h
    exact fetchCrate_failsAfter hpos hv h

/-- The latest version of a crate is fetched as the version that its page is redirected to, and a
network without pages has nothing to fetch. -/
theorem fetches_belong_small : smallNetwork.limits.attempts = 3 ∧
    (∃ requested page path, Version.parseOption (some "latest") = .ok requested ∧
      findIndexPath? (Utf8.decodeLossy page.body) = some path ∧
      smallNetwork.Fetched [] (smallNetwork.pageUrl "a" requested) page
        (smallNetwork.crateUrl "a" (.channel .nightly) (String.ofList path))
        (Utf8.ascii twoCratesPayload)
        ["https://docs.rs/a/latest/a/", "https://docs.rs/a/nightly/search-index.js"]) ∧
    (∃ s, Version.parse (String.ofList s) = .ok (.semantic ⟨1, 2, 3, [], []⟩)) ∧
    ∃ net : Network, net.limits.attempts = 3 ∧
      net.FailsAfter [] (net.pageUrl "a" .latest) (net.fetchCrate "a" none) ∧
      net.FailsAfter [] (net.stdlibUrl "std/index.html") net.fetchStdlib := by
  obtain ⟨hcrate, hstdlib, -⟩ := fetches_belong (show smallNetwork.limits.attempts = 3 from rfl) []
  obtain ⟨-, requested, page, path, hv, -, hpath, hfetched⟩ := hcrate _ _ _ _ _ fetchCrate_smallNetwork
  obtain ⟨-, -, s, -, -, hs, -⟩ := hstdlib _ _ _ fetchStdlib_smallNetwork
  let emptyNetwork : Network := { smallNetwork with server := .ofPages [] }
  have hnone : ∀ url path, ¬ emptyNetwork.Refers [] url path := by
    rintro url path ⟨finalUrl, page, log', h, -⟩
    cases h
  obtain ⟨-, -, hcrate', hstdlib'⟩ := fetches_belong (show emptyNetwork.limits.attempts = 3 from rfl) []
  exact ⟨rfl, ⟨requested, page, path, hv, hpath, hfetched⟩, ⟨s, hs⟩, emptyNetwork, rfl,
    hcrate' _ _ _ rfl (hnone _), hstdlib' fun path _ _ h => absurd h (hnone _ path)⟩

end Network

end RustdocIndex
