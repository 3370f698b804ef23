import RustdocIndex.Document.Shape

/-! The values of literal programs. Arrays and objects live in a store, and an assignment into one
is seen through every variable that reaches it. -/
namespace RustdocIndex.Literal

inductive Value
  | null
  | bool (b : Bool)
  | int (n : Int)
  | text (t : Text)
  /-- The array or object of a cell. -/
  | ref (cell : Nat)
  deriving DecidableEq

inductive Cell
  | array (xs : List Value)
  | object (fields : Fields Text Value)
  deriving DecidableEq

abbrev Store := Array Cell

/-- A reference to a new cell, and the store with it. -/
def Store.alloc (store : Store) (c : Cell) : Value × Store := (.ref store.size, store.push c)

/-- The elements of an array. -/
def Store.elements? (store : Store) : Value → Option (List Value)
  | .ref cell =>
    match store[cell]? with
    | some (.array xs) => some xs
    | _ => none
  | _ => none

def elementAt? (xs : List Value) (index : Int) : Option Value :=
  if 0 ≤ index then xs[index.toNat]? else none

/-- The position that a key names in an array: an integer, or a truth value as zero or one. -/
def Value.position? : Value → Option Nat
  | .int n => if 0 ≤ n then some n.toNat else none
  | .bool b => some b.toNat
  | _ => none

/-- Puts `x` under a text key into an object, or over an element that an array has. -/
def Store.assign? (store : Store) (target key x : Value) : Option Store :=
  match target with
  | .ref cell =>
    match store[cell]?, key with
    | some (.object fields), .text k => some (store.setIfInBounds cell (.object (fields.put k x)))
    | some (.array xs), key =>
      match key.position? with
      | some i =>
        if i < xs.length then some (store.setIfInBounds cell (.array (xs.set i x))) else none
      | none => none
    | _, _ => none
  | _ => none

/-- Where in a list an address stands, counted from one. -/
def levelsUp? (cell : Nat) : List Nat → Option Nat
  | [] => none
  | a :: path => if a = cell then some 1 else (levelsUp? cell path).map (· + 1)

/-- The picture of a value inside the cells of `path`, the nearest first. No cell comes twice on a
path, so a store of `n` cells needs `n + 1` levels. -/
def draw (store : Store) : Nat → List Nat → Value → Tree
  | _, _, .null => .null
  | _, _, .bool b => .bool b
  | _, _, .int n => .int n
  | _, _, .text t => .text t
  | 0, _, .ref _ => .null
  | levels + 1, path, .ref cell =>
    match store[cell]?, levelsUp? cell path with
    | none, _ => .null
    | some (.array _), some up => .arrayAgain up
    | some (.object _), some up => .objectAgain up
    | some (.array xs), none => .array (xs.map (draw store levels (cell :: path)))
    | some (.object fields), none =>
      .object (fields.map fun (k, x) => (k, draw store levels (cell :: path) x))

/-- A value with the store that its references mean. -/
structure Node where
  store : Store
  value : Value

namespace Node

def shape (n : Node) : Shape Node :=
  match n.value with
  | .null => .null
  | .bool b => .bool b
  | .int i => .int i
  | .text t => .text t
  | .ref cell =>
    match n.store[cell]? with
    | none => .null
    | some (.array xs) => .array (xs.map (⟨n.store, ·⟩))
    | some (.object fields) => .object (fields.map fun (k, x) => (k, ⟨n.store, x⟩))

def picture (n : Node) : Tree := draw n.store (n.store.size + 1) [] n.value

instance : Document Node := ⟨shape, picture⟩

end Node

end RustdocIndex.Literal
