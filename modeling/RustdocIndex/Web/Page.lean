import RustdocIndex.Text.Split
import RustdocIndex.Version.Basic
import RustdocIndex.Web.Url

/-! What documentation pages and their addresses tell about an index. -/
namespace RustdocIndex

/-- The text up to a double quote after the last `marker`. -/
def lastAttribute? (marker : String) (page : List Char) : Option (List Char) :=
  (afterLast? marker.toList page).bind (upTo? '"')

/-- The path of the index file that a page refers to: by the suffix of its resources, by an
attribute of its own, or as a script. -/
def findIndexPath? (page : List Char) : Option (List Char) :=
  let suffix := lastAttribute? "data-resource-suffix=\"" page
  let path := lastAttribute? "data-search-index-js=\"../" page
  let script := lastAttribute? "src=\"../search-index-" page
  (suffix.map fun s => "search-index".toList ++ s ++ ".js".toList).or
    (path.or (script.map fun s => "search-index-".toList ++ s))

/-- The version in an address like `https://docs.rs/anyhow/1.0.72/anyhow/`, which is the second
segment of its path. -/
def versionInUrl? (url : String) : Except Url.Problem (Option Version) := do
  let path ← Url.path url
  match splitAt '/' (trimBy (· == '/') path) with
  | _ :: segment :: _ => pure (Version.parse (String.ofList segment)).toOption
  | _ => pure none

/-- The text after the last slash. -/
def fileName (path : List Char) : List Char := (afterLast? ['/'] path).getD path

/-- What stands between `search-index` and `.js` in the name of an index file. -/
def fileVersion? (path : List Char) : Option (List Char) := do
  let rest ← after? "search-index".toList (fileName path)
  let reversed ← after? ".js".toList.reverse rest.reverse
  if reversed.isEmpty then none else some reversed.reverse

end RustdocIndex
