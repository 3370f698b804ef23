import RustdocIndex.Proofs.Web.Fetch

/-! Downloads and fetches that end with an error which is not their own. -/
namespace RustdocIndex

/-- A number that cannot be read, or an address that cannot be taken apart. -/
def WebError.Uncaught : WebError → Prop
  | invalidLength _ | invalidUrl _ => True
  | _ => False

/-- A length that is declared, but is no number. -/
def Response.MisdeclaresLength (r : Response) : Prop :=
  ∃ length, r.declaredLength = some length ∧ length ≠ "" ∧ ∃ e, readInteger length = .error e

namespace Web

variable {limits : Limits} {url : String} {r : Response}

/-- All that a declared length can be wrong with, without being caught, is that it is no number. -/
theorem checkDeclared_uncaught :
    FailsWith WebError.Uncaught (checkDeclared limits url r.declaredLength) ↔
      r.MisdeclaresLength := by
  unfold checkDeclared
  split
  · next h => simp [Response.MisdeclaresLength, h]
  · next h => simp [Response.MisdeclaresLength, h]
  · next length hne h =>
    have hlength : r.MisdeclaresLength ↔ ∃ e, readInteger length = .error e := by
      constructor
      · rintro ⟨length', hl, -, he⟩
        cases h.symm.trans hl
        exact he
      · exact fun he => ⟨length, h, by rintro rfl; exact hne rfl, he⟩
    rw [hlength]
    cases readInteger length with
    | error e => simp [WebError.Uncaught]
    | ok n =>
      dsimp only
      split <;> simp [WebError.Uncaught]

/-- A response is received with an uncaught error if its length is no number. -/
theorem receive_uncaught : FailsWith WebError.Uncaught (receive limits url r) ↔
    r.status = 200 ∧ r.MisdeclaresLength := by
  unfold receive
  split
  · next h => simp [h, WebError.Uncaught]
  · next h =>
    rw [not_not] at h
    rw [FailsWith.of_bind, checkDeclared_uncaught]
    constructor
    · rintro (hr | ⟨_, -, hcollect⟩)
      · exact ⟨h, hr⟩
      · split at hcollect
        · exact absurd hcollect (FailsWith.of_ok _)
        · exact absurd (FailsWith.of_error.mp hcollect) id
    · exact fun hr => .inl hr.2

end Web

namespace Network

variable {net : Network} {log : List String} {url name : String} {version : Option Text}

/-- After the requests of a log, and perhaps after outages, a download of an address gets a
response that declares a length which is no number. -/
def MisdeclaresLength (net : Network) (log : List String) (url : String) : Prop :=
  ∃ outages ≤ net.limits.attempts - 1, ∃ r,
    (∀ i < outages, ∃ o, net.server url (log.count url + i) = .error o) ∧
    net.server url (log.count url + outages) = .ok r ∧ r.status = 200 ∧ r.MisdeclaresLength

/-- The last answer of a download decides, as the ones before it are outages. -/
theorem download_uncaught : FailsWith WebError.Uncaught (runFrom (net.download url) log).1 ↔
    net.MisdeclaresLength log url := by
  rw [download]
  constructor
  · intro h
    obtain ⟨outages, hle, ho, hrun⟩ := Web.download_cases net.server net.limits url log
    rw [hrun] at h
    cases hr : net.server url (log.count url + outages) with
    | error o =>
      rw [hr] at h
      exact absurd (FailsWith.of_error.mp h) id
    | ok r =>
      rw [hr] at h
      exact ⟨outages, hle, r, ho, hr, Web.receive_uncaught.mp h⟩
  · rintro ⟨outages, hle, r, ho, hr, h⟩
    rw [Web.runFrom_download]
    simp only [Web.leadingOutages_eq hle ho hr, hr]
    exact Web.receive_uncaught.mpr h

/-- What keeps a crate's index from being fetched, and is not caught: a length that is no number,
with the page or with the index, or an address that the page for the latest version came from and
that cannot be taken apart. -/
inductive Misleads (net : Network) (log : List String) (name : String) (requested : Version) : Prop
  | page (h : net.MisdeclaresLength log (net.pageUrl name requested))
  | address {finalUrl page log' p}
    (hpage : runFrom (net.download (net.pageUrl name requested)) log = (.ok (finalUrl, page), log'))
    (hlatest : requested = .latest) (hurl : Url.path finalUrl = .error p)
  | index {finalUrl page log' v file}
    (hpage : runFrom (net.download (net.pageUrl name requested)) log = (.ok (finalUrl, page), log'))
    (hv : settledVersion requested finalUrl = .ok v)
    (hfile : findIndexPath? (Utf8.decodeLossy page) = some file)
    (h : net.MisdeclaresLength log' (net.crateUrl name v (String.ofList file)))

theorem versionInUrl?_uncaught {P : Url.Problem → Prop} :
    FailsWith P (versionInUrl? url) ↔ FailsWith P (Url.path url) := by
  rw [versionInUrl?, FailsWith.of_bind]
  constructor
  · rintro (h | ⟨path, -, h⟩)
    · exact h
    · split at h <;> exact absurd h (FailsWith.of_ok _)
  · exact .inl

/-- The address of a page is looked at only if the latest version was asked for. -/
theorem settledVersion_uncaught {requested : Version} :
    FailsWith WebError.Uncaught (settledVersion requested url) ↔
      requested = .latest ∧ ∃ p, Url.path url = .error p := by
  cases requested with
  | latest =>
    rw [settledVersion, FailsWith.of_bind, FailsWith.of_mapError, versionInUrl?_uncaught]
    constructor
    · rintro (⟨p, hp, -⟩ | ⟨found, -, h⟩)
      · exact ⟨rfl, p, hp⟩
      · exact absurd h (FailsWith.of_ok _)
    · rintro ⟨-, p, hp⟩
      exact .inl ⟨p, hp, trivial⟩
  | channel c | semantic v => simp [settledVersion]

theorem indexPath_caught (page : Bytes) :
    ¬ FailsWith WebError.Uncaught (indexPath url page) := by
  unfold indexPath
  split
  · exact FailsWith.of_ok _
  · exact fun h => FailsWith.of_error.mp h

theorem stdlibVersion_caught (file : List Char) :
    ¬ FailsWith WebError.Uncaught (stdlibVersion file) := by
  unfold stdlibVersion
  split
  · rw [FailsWith.of_mapError]
    exact FailsWith.not_of_forall fun e => id
  · exact fun h => FailsWith.of_error.mp h

/-- The index of a crate is fetched or fails with an error that is caught, unless it is misled. -/
theorem fetchCrate_uncaught :
    FailsWith WebError.Uncaught (runFrom (net.fetchCrate name version) log).1 ↔
      ∃ requested, Version.parseOption version = .ok requested ∧
        net.Misleads log name requested := by
  have hparse : ¬ FailsWith (fun e => (WebError.version e).Uncaught) (Version.parseOption version) :=
    FailsWith.not_of_forall fun e => id
  rw [fetchCrate]
  simp only [failsWith_runFrom_bind, runFrom_lift, runFrom_pure, FailsWith.of_mapError, hparse,
    FailsWith.of_ok, settledVersion_uncaught, download_uncaught, indexPath_caught, false_or,
    and_false, exists_false, or_false, Prod.mk.injEq, mapError_eq_ok]
  refine ⟨?_, ?_⟩
  · rintro ⟨requested, t, ⟨hv, rfl⟩, hpage | ⟨⟨finalUrl, page⟩, log', hpage, ⟨hlatest, p, hp⟩ |
      ⟨v, t, ⟨hs, rfl⟩, file, t, ⟨hfile, rfl⟩, h⟩⟩⟩
    · exact ⟨requested, hv, .page hpage⟩
    · exact ⟨requested, hv, .address hpage hlatest hp⟩
    · exact ⟨requested, hv, .index hpage hs (indexPath_eq_ok.mp hfile) h⟩
  · rintro ⟨requested, hv, h⟩
    refine ⟨requested, log, ⟨hv, rfl⟩, ?_⟩
    cases h with
    | page h => exact .inl h
    | @address finalUrl page log' p hpage hlatest hp =>
      exact .inr ⟨(finalUrl, page), log', hpage, .inl ⟨hlatest, p, hp⟩⟩
    | @index finalUrl page log' v file hpage hs hfile h =>
      exact .inr ⟨(finalUrl, page), log', hpage, .inr ⟨v, log', ⟨hs, rfl⟩, file, log',
        ⟨indexPath_eq_ok.mpr hfile, rfl⟩, h⟩⟩

/-- What keeps the standard library's index from being fetched, and is not caught. -/
inductive MisleadsStdlib (net : Network) (log : List String) : Prop
  | page (h : net.MisdeclaresLength log (net.stdlibUrl "std/index.html"))
  | index {finalUrl page log' v file}
    (hpage : runFrom (net.download (net.stdlibUrl "std/index.html")) log =
      (.ok (finalUrl, page), log'))
    (hfile : findIndexPath? (Utf8.decodeLossy page) = some file)
    (hv : stdlibVersion file = .ok v)
    (h : net.MisdeclaresLength log' (net.stdlibUrl (String.ofList file)))

theorem fetchStdlib_uncaught :
    FailsWith WebError.Uncaught (runFrom net.fetchStdlib log).1 ↔ net.MisleadsStdlib log := by
  rw [fetchStdlib]
  simp only [failsWith_runFrom_bind, runFrom_lift, runFrom_pure, FailsWith.of_ok, download_uncaught,
    indexPath_caught, stdlibVersion_caught, false_or, and_false, exists_false, or_false,
    Prod.mk.injEq]
  refine ⟨?_, ?_⟩
  · rintro (hpage | ⟨⟨finalUrl, page⟩, log', hpage, file, t, ⟨hfile, rfl⟩, v, t, ⟨hv, rfl⟩, h⟩)
    · exact .page hpage
    · exact .index hpage (indexPath_eq_ok.mp hfile) hv h
  · intro h
    cases h with
    | page h => exact .inl h
    | @index finalUrl page log' v file hpage hfile hv h =>
      exact .inr ⟨(finalUrl, page), log', hpage, file, log', ⟨indexPath_eq_ok.mpr hfile, rfl⟩, v,
        log', ⟨hv, rfl⟩, h⟩

end Network

end RustdocIndex
