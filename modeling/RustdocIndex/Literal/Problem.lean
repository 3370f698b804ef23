import RustdocIndex.Document.Tree

/-! What can be wrong with a literal program. -/
namespace RustdocIndex.Literal

inductive Problem
  /-- Another character, or the end, stands where one must be. -/
  | expected (wanted : Char) (found : Option Char)
  | expectedIdentifier
  | expectedInteger
  | unterminatedString
  /-- The `marker` of an escape is not followed by its hexadecimal digits. -/
  | invalidHexEscape (marker : Char)
  | invalidEscape (c : Char)
  | unexpectedEnd
  | unexpectedCharacter (c : Char)
  | tooDeep
  | undeclaredReference (name : String)
  | notAnArray (name : String)
  | indexOutOfRange (index : Int) (name : String) (length : Nat)
  | unexpectedStatement (name : String)
  | undeclaredTarget (name : String)
  | invalidTarget (name : String) (key : Tree)
  /-- The key of an invalid target is too deep for its message. -/
  | targetTooDeep
  | outOfSteps
  deriving DecidableEq

/-- How many arrays and objects may be open at once. -/
def maxDepth : Nat := 256

def Problem.message : Problem → String
  | .expected wanted found =>
    let shown := match found with
      | some c => String.singleton c
      | none => "end of input"
    "expected " ++ quote (String.singleton wanted) ++ ", found " ++ quote shown
  | .expectedIdentifier => "expected an identifier"
  | .expectedInteger => "expected an integer"
  | .unterminatedString => "unterminated string literal"
  | .invalidHexEscape marker => "invalid \\" ++ String.singleton marker ++ " escape"
  | .invalidEscape c => "invalid escape sequence \\" ++ String.singleton c
  | .unexpectedEnd => "unexpected end of input"
  | .unexpectedCharacter c => "unexpected character " ++ quote (String.singleton c)
  | .tooDeep => s!"nesting too deep (more than {maxDepth} levels)"
  | .undeclaredReference name => "reference to undeclared variable " ++ quote name
  | .notAnArray name => "variable " ++ quote name ++ " is not an array"
  | .indexOutOfRange index name length =>
    s!"index {index} out of range for {quote name} of length {length}"
  | .unexpectedStatement name => "unexpected statement starting with " ++ quote name
  | .undeclaredTarget name => "assignment to undeclared variable " ++ quote name
  | .invalidTarget name key => s!"invalid assignment target {name}[{key.quoted}]"
  | .targetTooDeep | .outOfSteps => "nesting too deep"

/-- Why reading stopped. -/
inductive Stop
  /-- The text is no literal program, as its `rest` shows. -/
  | problem (p : Problem) (rest : List Char)
  | integerTooLong (digits : Nat)
  deriving DecidableEq

end RustdocIndex.Literal
