import RustdocIndex.Link.Settings
import RustdocIndex.Web.Download
import RustdocIndex.Web.Page

/-! Indexes from the documentation sites, with their versions. -/
namespace RustdocIndex

/-- The sites, the server that answers for them, and what downloads may cost. -/
structure Network where
  server : Server
  sites : Sites
  limits : Limits

namespace Network

def download (net : Network) (url : String) : Web (String × Bytes) :=
  Web.download net.server net.limits url

/-- The path of the index file in a page that was downloaded from `url`. -/
def indexPath (url : String) (page : Bytes) : Except WebError (List Char) :=
  match findIndexPath? (Utf8.decodeLossy page) with
  | some path => .ok path
  | none => .error (.noIndexPath url)

/-- The latest version is the one that the page's address names, if it does. -/
def settledVersion (requested : Version) (pageUrl : String) : Except WebError Version :=
  match requested with
  | .latest => do
    let found ← (versionInUrl? pageUrl).mapError .invalidUrl
    pure (found.getD .latest)
  | v => .ok v

/-- The address of a crate in one version, with `path` behind it. -/
def crateUrl (net : Network) (name : String) (version : Version) (path : String) : String :=
  s!"{net.sites.registry}/{name}/{version.text}/{path}"

/-- The index of a crate on the registry's site, and its version. -/
def fetchCrate (net : Network) (name : String) (version : Option Text) :
    Web (Version × Bytes) := do
  let requested ← (Version.parseOption version).mapError WebError.version
  let page := net.crateUrl name requested (name ++ "/")
  let (finalUrl, body) ← net.download page
  let version ← settledVersion requested finalUrl
  let path ← indexPath page body
  let (_, payload) ← net.download (net.crateUrl name version (String.ofList path))
  pure (version, payload)

/-- The channel whose pages name a versioned index file. -/
def stdlibRoot : Channel := .nightly

/-- The version in the name of the standard library's index file. -/
def stdlibVersion (path : List Char) : Except WebError Version :=
  match fileVersion? path with
  | some text => (Version.parse (String.ofList text)).mapError .version
  | none => .error (.invalidIndexName (String.ofList path))

/-- The index of the standard library, and its version. -/
def fetchStdlib (net : Network) : Web (Version × Bytes) := do
  let root := s!"{net.sites.stdlib}/{stdlibRoot.name}/"
  let page := root ++ "std/index.html"
  let (_, body) ← net.download page
  let path ← indexPath page body
  let version ← stdlibVersion path
  let (_, payload) ← net.download (root ++ String.ofList path)
  pure (version, payload)

end Network

end RustdocIndex
