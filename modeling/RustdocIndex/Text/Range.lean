import RustdocIndex.Text.CodePoint

/-! Ranges of code points, of which the tables of character classes are made. -/
namespace RustdocIndex

/-- The code points from `first` to `last`, both included. -/
structure CodeRange where
  first : Nat
  last : Nat

def CodeRange.contains (r : CodeRange) (n : Nat) : Bool := r.first ≤ n && n ≤ r.last

end RustdocIndex
