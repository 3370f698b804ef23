import RustdocIndex.Crate.Path
import RustdocIndex.Path.Basic

/-! Looking paths up in an index. -/
namespace RustdocIndex

/-- An item that a path leads to. -/
structure ResolvedItem where
  position : Nat
  item : Item
  qualifiedPath : Text
  owner : Option Owner
  deriving DecidableEq

inductive Outcome
  /-- The path names the crate alone. -/
  | crateRoot (crateName : Text)
  | found (r : ResolvedItem)
  | notFound (path : Text)
  deriving DecidableEq

namespace Index

/-- The first item whose path has these segments. The path of an item with another name than the
last of them is not looked at. -/
def find? (index : Index) (names : List Text) : Option (Item × Nat) :=
  index.items.zipIdx.find? fun (item, _) =>
    names.getLast? == some item.name && index.qualified? item == some names

/-- What a path leads to. Of items with one path, the first counts. -/
def resolve (index : Index) (path : SimplePath) : Outcome :=
  if path.crateName ≠ index.crateName then .notFound path.text
  else if path.isCrateOnly then .crateRoot index.crateName
  else
    match index.find? path.names with
    | some (item, position) =>
      .found ⟨position, item, Text.joinColons path.names, index.owner? item⟩
    | none => .notFound path.text

end Index

end RustdocIndex
