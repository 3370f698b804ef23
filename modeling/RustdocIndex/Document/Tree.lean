import RustdocIndex.Fields
import RustdocIndex.Number.Shortest

/-! Finite pictures of values, which messages show. -/
namespace RustdocIndex

/-- A value drawn from one point on. Where it comes back to an array or object it is inside of, the
picture says how many levels up that one is. -/
inductive Tree
  | null
  | bool (b : Bool)
  | int (n : Int)
  | float (x : Binary64)
  | text (t : Text)
  | array (xs : List Tree)
  | object (fields : List (Text × Tree))
  | arrayAgain (up : Nat)
  | objectAgain (up : Nat)

namespace Tree

mutual

/-- The picture on one line: texts in quotes, a repeated array or object as dots in brackets. -/
def quoted : Tree → String
  | null => "None"
  | bool b => if b then "True" else "False"
  | int n => toString n
  | float x => x.text
  | text t => t.quoted
  | array xs => "[" ++ ", ".intercalate (quotedAll xs) ++ "]"
  | object fields => "\x7b" ++ ", ".intercalate (quotedFields fields) ++ "\x7d"
  | arrayAgain _ => "[...]"
  | objectAgain _ => "\x7b...\x7d"

def quotedAll : List Tree → List String
  | [] => []
  | x :: xs => quoted x :: quotedAll xs

def quotedFields : List (Text × Tree) → List String
  | [] => []
  | (k, x) :: fields => (k.quoted ++ ": " ++ quoted x) :: quotedFields fields

/-- How many arrays and objects stand inside one another. -/
def depth : Tree → Nat
  | array xs => depthAll xs + 1
  | object fields => depthFields fields + 1
  | _ => 0

def depthAll : List Tree → Nat
  | [] => 0
  | x :: xs => max (depth x) (depthAll xs)

def depthFields : List (Text × Tree) → Nat
  | [] => 0
  | (_, x) :: fields => max (depth x) (depthFields fields)

end

/-- How deep a picture may be that a message shows. It is drawn by recursion, and a thousand stands for
the limit of the interpreter on calls inside one another. -/
def maxShownDepth : Nat := 1000

def isTooDeep (t : Tree) : Bool := maxShownDepth < t.depth

/-! ### Equality -/

mutual

/-- Whether two pictures are the same. -/
def same : Tree → Tree → Bool
  | null, null => true
  | bool a, bool b => a == b
  | int m, int n => m == n
  | float x, float y => x == y
  | text s, text t => s == t
  | array xs, array ys => sameAll xs ys
  | object fields, object others => sameFields fields others
  | arrayAgain m, arrayAgain n | objectAgain m, objectAgain n => m == n
  | _, _ => false

def sameAll : List Tree → List Tree → Bool
  | [], [] => true
  | x :: xs, y :: ys => same x y && sameAll xs ys
  | _, _ => false

def sameFields : List (Text × Tree) → List (Text × Tree) → Bool
  | [], [] => true
  | (k, x) :: fields, (l, y) :: others => k == l && same x y && sameFields fields others
  | _, _ => false

end

mutual

/-- The comparison decides equality. It goes down a tree, its elements and its fields together. -/
theorem same_iff (x y : Tree) : same x y = true ↔ x = y := by
  cases x with
  | array xs => cases y <;> simp [same, sameAll_iff xs]
  | object fields => cases y <;> simp [same, sameFields_iff fields]
  | null | bool _ | int _ | float _ | text _ | arrayAgain _ | objectAgain _ =>
    cases y <;> simp [same]

theorem sameAll_iff (xs ys : List Tree) : sameAll xs ys = true ↔ xs = ys := by
  cases xs with
  | nil => cases ys <;> simp [sameAll]
  | cons x xs => cases ys <;> simp [sameAll, same_iff x, sameAll_iff xs]

theorem sameFields_iff (fields others : List (Text × Tree)) :
    sameFields fields others = true ↔ fields = others := by
  cases fields with
  | nil => cases others <;> simp [sameFields]
  | cons f fields =>
    cases others <;> simp [sameFields, same_iff f.2, sameFields_iff fields, Prod.ext_iff]

end

instance : DecidableEq Tree := fun x y => decidable_of_iff _ (same_iff x y)

end Tree

end RustdocIndex
