import RustdocIndex.Text.CodePoint

/-! Searching, splitting and joining of texts. -/
namespace RustdocIndex

variable {α : Type} [DecidableEq α]

/-- The rest of `s` after `front`, if `s` begins with it. -/
def after? : List α → List α → Option (List α)
  | [], s => some s
  | _ :: _, [] => none
  | c :: front, d :: s => if c = d then after? front s else none

/-- The rest of the text after the first occurrence of `part`. -/
def afterFirst? (part : List α) : List α → Option (List α)
  | [] => after? part []
  | c :: s => (after? part (c :: s)).or (afterFirst? part s)

/-- The rest of the text after the last occurrence of `part`, or `best` if there is none. -/
def afterLastOr (part : List α) (best : Option (List α)) : List α → Option (List α)
  | [] => (after? part []).or best
  | c :: s => afterLastOr part ((after? part (c :: s)).or best) s

def afterLast? (part s : List α) : Option (List α) := afterLastOr part none s

def occursIn (part s : List α) : Bool := (afterFirst? part s).isSome

/-- The text before the first `c`, and the text after it, if there is one. -/
def cutAt (c : α) : List α → List α × Option (List α)
  | [] => ([], none)
  | d :: s => if d = c then ([], some s) else
    let (front, rest) := cutAt c s
    (d :: front, rest)

/-- The text before the first `c`, if there is one. -/
def upTo? (c : α) (s : List α) : Option (List α) :=
  match cutAt c s with
  | (front, some _) => some front
  | (_, none) => none

/-- The pieces between the separators `c`: one more than there are separators. -/
def splitAt (c : α) : List α → List (List α)
  | [] => [[]]
  | d :: s => if d = c then [] :: splitAt c s else (splitAt c s).modifyHead (d :: ·)

/-- The texts one after the other, with `sep` between them. -/
def joinWith (sep : List α) : List (List α) → List α
  | [] => []
  | [s] => s
  | s :: t :: more => s ++ sep ++ joinWith sep (t :: more)

namespace Text

def colon : CodePoint := .ofChar ':'

/-- The pieces between the separators `::`, found from the left and without overlap. -/
def splitColons : Text → List Text
  | [] => [[]]
  | [c] => [[c]]
  | c :: d :: s =>
    if c = colon ∧ d = colon then [] :: splitColons s
    else (splitColons (d :: s)).modifyHead (c :: ·)

/-- The texts with `::` between them. -/
def joinColons (parts : List Text) : Text := joinWith [colon, colon] parts

/-- Every `a` becomes `b`. -/
def replace (a b : Char) (t : Text) : Text :=
  t.map fun c => if c = .ofChar a then .ofChar b else c

end Text

end RustdocIndex
