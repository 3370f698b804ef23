import RustdocIndex.Crate.Path
import RustdocIndex.Schema.Model

/-! Crates and their parts as JSON. -/
namespace RustdocIndex

open Schema

def nullOr {α : Type} (f : α → Json) : Option α → Json
  | none => .null
  | some a => f a

def jsonObject (fields : List (String × Json)) : Json :=
  .object (fields.map fun (name, x) => (Text.ofString name, x))

namespace ItemKind

def check : Json → Checked ItemKind := oneOf (.notTag tags) ofTag?

def toJson (k : ItemKind) : Json := .text k.tag

end ItemKind

namespace ParentRef

/-- The fields of a reference whose space is known. -/
def checkFields (space : String) (make : Nat → ParentRef) (fields : Fields Text Json) :
    Checked ParentRef :=
  (Function.const Unit <$> (make <$> required "index" natural fields)
    <*> noOthers ["space", "index"] fields).field space

/-- A text as it is, and any other value as messages show it. -/
def shownTag : Json → String
  | .text t => t.toString?.getD t.quoted
  | x => Document.quoted x

/-- The space tells what list the index is a position of. -/
def check (source : Source) : Json → Checked ParentRef
  | .object fields =>
    match Fields.get? (Text.ofString "space") fields with
    | none => .problem (.noTag "space")
    | some x =>
      match shownTag x, x with
      | "self", .text _ => checkFields "self" .own fields
      | "foreign", .text _ => checkFields "foreign" .foreign fields
      | shown, _ => .problem (.unknownTag "space" shown ["self", "foreign"])
  | _ => .problem (.notFields source)

def toJson : ParentRef → Json
  | .own i => jsonObject [("space", .text "self"), ("index", .int i)]
  | .foreign i => jsonObject [("space", .text "foreign"), ("index", .int i)]

end ParentRef

namespace PathEntry

def check (source : Source) : Json → Checked PathEntry :=
  model source "PathEntry" ["kind", "name"] fun fields =>
    PathEntry.mk <$> required "kind" ItemKind.check fields <*> required "name" text fields

def toJson (e : PathEntry) : Json := jsonObject [("kind", e.kind.toJson), ("name", .text e.name)]

end PathEntry

namespace Item

def check (source : Source) : Json → Checked Item :=
  model source "Item" ["kind", "name", "module_path", "description", "parent"] fun fields =>
    Item.mk <$> required "kind" ItemKind.check fields
      <*> required "name" nonempty fields
      <*> required "module_path" nonempty fields
      <*> optional "description" none (nullable text) fields
      <*> optional "parent" none (nullable (ParentRef.check source)) fields

def toJson (item : Item) : Json := jsonObject [
  ("kind", item.kind.toJson), ("name", .text item.name), ("module_path", .text item.modulePath),
  ("description", nullOr .text item.description), ("parent", nullOr ParentRef.toJson item.parent)]

end Item

namespace Index

/-- An index whose parent references are valid. -/
def ensure (index : Index) : Checked Index :=
  match index.problem? with
  | none => .valid index
  | some p => .problem (.invalid p.message)

def check (source : Source) (x : Json) : Checked Index :=
  (model source "Index" ["crate_name", "items", "paths"] (fun fields =>
    Index.mk <$> required "crate_name" nonempty fields
      <*> optional "items" [] (list source (Item.check source)) fields
      <*> optional "paths" [] (list source (PathEntry.check source)) fields) x).andThen ensure

def toJson (index : Index) : Json := jsonObject [
  ("crate_name", .text index.crateName), ("items", .array (index.items.map Item.toJson)),
  ("paths", .array (index.paths.map PathEntry.toJson))]

end Index

namespace Crate

def check (source : Source) : Json → Checked Crate :=
  model source "Crate" ["name", "version", "doc", "index"] fun fields =>
    Crate.mk <$> required "name" nonempty fields
      <*> optional "version" none (nullable text) fields
      <*> optional "doc" [] text fields
      <*> required "index" (Index.check source) fields

def toJson (c : Crate) : Json := jsonObject [
  ("name", .text c.name), ("version", nullOr .text c.version), ("doc", .text c.doc),
  ("index", c.index.toJson)]

end Crate

namespace Owner

def check (source : Source) : Json → Checked Owner :=
  model source "Owner" ["kind", "name", "module_path", "position"] fun fields =>
    Owner.mk <$> required "kind" ItemKind.check fields
      <*> required "name" text fields
      <*> required "module_path" text fields
      <*> optional "position" none (nullable integer) fields

def toJson (o : Owner) : Json := jsonObject [
  ("kind", o.kind.toJson), ("name", .text o.name), ("module_path", .text o.modulePath),
  ("position", nullOr .int o.position)]

end Owner

end RustdocIndex
