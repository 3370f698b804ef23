import RustdocIndex.Path.Basic
import RustdocIndex.Text.Quoted

/-! Reading of paths. -/
namespace RustdocIndex

inductive PathProblem
  | empty
  | emptySegment
  | invalidIdentifier
  | keyword
  deriving DecidableEq

def PathProblem.name : PathProblem → String
  | .empty => "empty"
  | .emptySegment => "empty_segment"
  | .invalidIdentifier => "invalid_identifier"
  | .keyword => "keyword"

/-- What is wrong with a path, and in which piece of it. -/
structure PathError where
  problem : PathProblem
  value : Text
  segment : Option Text
  deriving DecidableEq

def PathError.message (e : PathError) : String :=
  let shown := s!"invalid path {e.value.quoted}: {e.problem.name}"
  match e.segment with
  | none => shown
  | some piece => s!"{shown} in segment {piece.quoted}"

/-- A piece between separators. Behind the marker, keywords are names too, unless they have no raw
form. -/
def readSegment (piece : Text) : Except PathProblem Segment :=
  if piece.isEmpty then .error .emptySegment
  else
    match after? rawMarker piece with
    | some name =>
      if !isName name then .error .invalidIdentifier
      else if isPathKeyword name then .error .keyword
      else .ok ⟨name, true⟩
    | none =>
      if !isName piece then .error .invalidIdentifier
      else if isKeyword piece then .error .keyword
      else .ok ⟨piece, false⟩

/-- The text without the separator of a global path. -/
def dropGlobal (t : Text) : Text := (after? [Text.colon, Text.colon] t).getD t

/-- The path of a text. The first piece that is wrong is told. -/
def SimplePath.parse (t : Text) : Except PathError SimplePath := do
  if t.isEmpty then .error ⟨.empty, t, none⟩
  let segments ← (dropGlobal t).splitColons.mapM fun piece =>
    (readSegment piece).mapError fun p => ⟨p, t, some piece⟩
  match segments with
  | first :: more => pure ⟨first, more⟩
  | [] => .error ⟨.empty, t, none⟩

end RustdocIndex
