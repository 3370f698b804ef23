import RustdocIndex.Link.Identity
import RustdocIndex.Link.Outcome

/-! The pages of items, and their addresses on the documentation sites. -/
namespace RustdocIndex

/-- The sites, without a slash at their ends, and the channel that is linked for the latest version
of the standard library. -/
structure Sites where
  registry : String
  stdlib : String
  channel : String

def slash : CodePoint := .ofChar '/'

/-- Every `::` becomes a slash. -/
def moduleDirs (modulePath : Text) : Text := joinWith [slash] modulePath.splitColons

def crateRootUrl (crateName : Text) : Text := crateName.replace '-' '_' ++ Text.ofString "/index.html"

/-- A kind and a name, as pages and anchors are named. -/
def tagged (kind : ItemKind) (name : Text) : Text := Text.ofString (kind.tag ++ ".") ++ name

/-- The page of an item from the root of the documentation. An associated item is an anchor on the
page of its owner. -/
def relativeUrl (item : Item) (owner : Option Owner) : Text :=
  let dirs := moduleDirs item.modulePath
  match item.kind, owner with
  | .module, _ => dirs ++ slash :: item.name ++ Text.ofString "/index.html"
  | .externCrate, _ => item.name ++ Text.ofString "/index.html"
  | .reexport, _ => dirs ++ Text.ofString "/index.html#reexport." ++ item.name
  | kind, some o =>
    moduleDirs o.modulePath ++ slash :: tagged o.kind o.name ++ Text.ofString ".html#" ++
      tagged kind item.name
  | kind, none => dirs ++ slash :: tagged kind item.name ++ Text.ofString ".html"

/-- The root of a crate's documentation. -/
def baseUrl (sites : Sites) (id : CrateIdentity) : Text :=
  match id.hosting with
  | .stdlib =>
    let version := match id.version with
      | .latest => sites.channel
      | v => v.text
    Text.ofString (sites.stdlib ++ "/" ++ version)
  | .registry =>
    Text.ofString (sites.registry ++ "/") ++ id.name ++ Text.ofString ("/" ++ id.version.text)

namespace Outcome

def relativeUrl? : Outcome → Option Text
  | crateRoot name => some (crateRootUrl name)
  | found r => some (relativeUrl r.item r.owner)
  | notFound _ => none

/-- The address of what was found. -/
def url? (sites : Sites) (id : CrateIdentity) (o : Outcome) : Option Text :=
  o.relativeUrl?.map fun page => baseUrl sites id ++ slash :: page

end Outcome

namespace Index

/-- The path and the page of an item; every item of a valid index has a path. -/
def linkOf? (index : Index) (item : Item) : Option (Text × Text) :=
  (index.qualified? item).map fun names =>
    (pathKey names, relativeUrl item (index.owner? item))

/-- The page of every path, in the order of the items. Of items with one path, the first counts. -/
def mapping (index : Index) : Fields Text Text :=
  (index.items.filterMap index.linkOf?).foldl (fun links (path, page) => links.putNew path page) []

end Index

end RustdocIndex
