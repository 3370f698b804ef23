import RustdocIndex.Crate.Basic

/-! The full paths and the owners of items. -/
namespace RustdocIndex

/-- What an associated item belongs to. -/
structure Owner where
  kind : ItemKind
  name : Text
  modulePath : Text
  /-- The position in the item list, if the owner is documented in the same crate. -/
  position : Option Int
  deriving DecidableEq

def Owner.isDocumented (o : Owner) : Bool := o.position.isSome

namespace Index

/-- An owner in the paths table has only a name, and lives next to the item. -/
def owner? (index : Index) (item : Item) : Option Owner :=
  match item.parent with
  | none => none
  | some (.own i) =>
    index.items[i]?.map fun target => ⟨target.kind, target.name, target.modulePath, some (i : Int)⟩
  | some (.foreign k) =>
    index.paths[k]?.map fun entry => ⟨entry.kind, entry.name, item.modulePath, none⟩

/-- The segments of an item's path, from parent to parent at most `steps` times. -/
def climb? (index : Index) (steps : Nat) (item : Item) : Option (List Text) :=
  match item.parent with
  | none => some (item.moduleSegments ++ [item.name])
  | some (.foreign k) =>
    index.paths[k]?.map fun entry => item.moduleSegments ++ [entry.name, item.name]
  | some (.own i) =>
    match steps, index.items[i]? with
    | steps + 1, some target => (index.climb? steps target).map (· ++ [item.name])
    | _, _ => none

/-- The segments of an item's path, like `anyhow`, `Error` and `new`. They exist unless the
references run in a circle or out of the index. -/
def qualified? (index : Index) (item : Item) : Option (List Text) :=
  index.climb? index.items.length item

end Index

end RustdocIndex
