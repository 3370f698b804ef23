import RustdocIndex.Crate.Basic
import RustdocIndex.Payload.Failure
import RustdocIndex.Schema.Crate

/-! From rows to crates. Here a parent, which every layout gives as a position in the paths table,
becomes the item of this crate that it stands for, if there is one. What is refused here is refused
in the name of the generation `g` that the rows are from. -/
namespace RustdocIndex.Payload

/-- An item as a layout gives it. Its module path may be left out. -/
structure Entry where
  kind : ItemKind
  name : Text
  path : Option Text
  description : Option Text
  parent : Option Int

/-- An item with its own module path. -/
structure Row where
  kind : ItemKind
  name : Text
  modulePath : Text
  description : Option Text
  parent : Option Int

def Entry.row (e : Entry) (modulePath : Text) : Row :=
  ⟨e.kind, e.name, modulePath, e.description, e.parent⟩

/-- A crate as a layout gives it. -/
structure Draft where
  name : Text
  doc : Text
  rows : List Row
  paths : List PathEntry

/-- Paths without those that are empty or left out: each of these repeats the path `last` before
it. -/
def foldPaths (last : Text) : List (Option Text) → List Text
  | [] => []
  | path :: more =>
    let current := match path with
      | some (c :: t) => c :: t
      | _ => last
    current :: foldPaths current more

/-- The module path of every item; the first one has to be given. -/
def modulePaths (g : Generation) (given : List (Option Text)) : Except CrateError (List Text) :=
  match foldPaths [] given with
  | [] :: _ => .error ⟨g, .noFirstPath⟩
  | folded => .ok folded

def rowsOf (g : Generation) (entries : List Entry) : Except CrateError (List Row) := do
  let paths ← modulePaths g (entries.map (·.path))
  pure (List.zipWith Entry.row entries paths)

/-- The first parentless row with a kind, module path and name. -/
def documented? (rows : List Row) (kind : ItemKind) (modulePath name : Text) : Option Nat :=
  rows.findIdx? fun r =>
    r.parent.isNone && r.kind == kind && r.modulePath == modulePath && r.name == name

/-- An entry of the paths table stands for the item that is documented under its kind and name in
the child's module, and otherwise for itself. -/
def parentRef (rows : List Row) (modulePath : Text) (entry : PathEntry) (k : Nat) : ParentRef :=
  match documented? rows entry.kind modulePath entry.name with
  | some i => .own i
  | none => .foreign k

/-- The parent of the row at `position`. -/
def rowParent (g : Generation) (rows : List Row) (paths : List PathEntry) (position : Nat)
    (row : Row) : Except CrateError (Option ParentRef) :=
  match row.parent with
  | none => .ok none
  | some n =>
    match if 0 ≤ n then paths[n.toNat]? else none with
    | some entry => .ok (some (parentRef rows row.modulePath entry n.toNat))
    | none => .error ⟨g, .parentOutOfRange position row.name n paths.length⟩

/-- An empty description counts as none. -/
def descriptionOf (row : Row) : Option Text := row.description.filter (!·.isEmpty)

def rowItem (g : Generation) (rows : List Row) (paths : List PathEntry) (position : Nat)
    (row : Row) : Except CrateError Item := do
  let parent ← rowParent g rows paths position row
  let item : Schema.Checked Item :=
    Item.mk row.kind <$> (Schema.nonemptyText row.name).field "name"
      <*> (Schema.nonemptyText row.modulePath).field "module_path"
      <*> pure (descriptionOf row) <*> pure parent
  (item.toExcept "Item").mapError (.invalid g)

def rowItems (g : Generation) (rows : List Row) (paths : List PathEntry) :
    Except CrateError (List Item) :=
  rows.zipIdx.mapM fun (row, position) => rowItem g rows paths position row

/-- The index of the items, if it is valid. -/
def checkedIndex (name : Text) (items : List Item) (paths : List PathEntry) :
    Schema.Checked Index :=
  Schema.Checked.andThen
    ((fun name => Index.mk name items paths) <$> (Schema.nonemptyText name).field "crate_name")
    Index.ensure

/-- The crate of a draft, recorded under a version. -/
def Draft.build (g : Generation) (version : Option Text) (d : Draft) :
    Except CrateError Crate := do
  let items ← rowItems g d.rows d.paths
  let index ← ((checkedIndex d.name items d.paths).toExcept "Index").mapError (.invalid g)
  let crate : Schema.Checked Crate :=
    (fun name => Crate.mk name version d.doc index) <$> (Schema.nonemptyText d.name).field "name"
  (crate.toExcept "Crate").mapError (.invalid g)

end RustdocIndex.Payload
