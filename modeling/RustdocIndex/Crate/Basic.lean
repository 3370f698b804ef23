import RustdocIndex.Crate.Kind
import RustdocIndex.Text.Split

/-! Crates and their indexes, as every layout of payloads decodes to. -/
namespace RustdocIndex

/-- Where the parent of an associated item stands. -/
inductive ParentRef
  /-- In the item list of the same crate. -/
  | own (position : Nat)
  /-- In the paths table. -/
  | foreign (position : Nat)
  deriving DecidableEq

/-- An entity that is referred to as a parent and not necessarily documented here. -/
structure PathEntry where
  kind : ItemKind
  name : Text
  deriving DecidableEq

structure Item where
  kind : ItemKind
  name : Text
  /-- The module that holds the item, like `std::vec`. -/
  modulePath : Text
  description : Option Text
  parent : Option ParentRef
  deriving DecidableEq

def Item.moduleSegments (item : Item) : List Text := item.modulePath.splitColons

structure Index where
  crateName : Text
  items : List Item
  paths : List PathEntry
  deriving DecidableEq

structure Crate where
  name : Text
  version : Option Text
  doc : Text
  index : Index
  deriving DecidableEq

namespace Index

/-- What is wrong with a parent reference. -/
inductive ReferenceProblem
  | noItem (child target count : Nat)
  | associated (child target : Nat)
  | noPath (child target count : Nat)

def ReferenceProblem.message : ReferenceProblem → String
  | .noItem child target count =>
    s!"item {child} references item {target}, but only {count} items exist"
  | .associated child target =>
    s!"item {child} references item {target}, which is itself an associated item"
  | .noPath child target count =>
    s!"item {child} references path {target}, but only {count} paths exist"

/-- A reference that leads to a parentless item or to an entry of the paths table. -/
def Resolves (index : Index) : ParentRef → Prop
  | .own i => ∃ item, index.items[i]? = some item ∧ item.parent = none
  | .foreign k => k < index.paths.length

/-- Every parent reference leads somewhere. -/
def Valid (index : Index) : Prop :=
  ∀ item ∈ index.items, ∀ parent ∈ item.parent, index.Resolves parent

/-- The problem of the item at position `child`, if it has one. -/
def problemOf? (index : Index) (child : Nat) (item : Item) : Option ReferenceProblem :=
  match item.parent with
  | none => none
  | some (.own i) =>
    match index.items[i]? with
    | none => some (.noItem child i index.items.length)
    | some target => if target.parent.isSome then some (.associated child i) else none
  | some (.foreign k) =>
    if k < index.paths.length then none else some (.noPath child k index.paths.length)

/-- The problem of the first item that has one. -/
def problem? (index : Index) : Option ReferenceProblem :=
  index.items.zipIdx.findSome? fun (item, child) => index.problemOf? child item

end Index

end RustdocIndex
