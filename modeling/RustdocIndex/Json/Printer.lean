import RustdocIndex.Json.Basic

/-! JSON on one line, without white space. -/
namespace RustdocIndex.Json

/-- A code point inside a string. What a reader could not take as it is becomes an escape. -/
def printCodePoint (c : CodePoint) : List Char :=
  match c.toChar? with
  | none => '\\' :: 'u' :: hexDigits 4 c.val
  | some ch =>
    if ch = '"' ∨ ch = '\\' then ['\\', ch]
    else if ch = '\x08' then ['\\', 'b']
    else if ch = '\x0c' then ['\\', 'f']
    else if ch = '\n' then ['\\', 'n']
    else if ch = '\r' then ['\\', 'r']
    else if ch = '\t' then ['\\', 't']
    else if c.val < 32 then '\\' :: 'u' :: hexDigits 4 c.val
    else [ch]

def printText (t : Text) : String := String.ofList ('"' :: t.flatMap printCodePoint ++ ['"'])

mutual

def print : Json → String
  | null => "null"
  | bool b => if b then "true" else "false"
  | int n => toString n
  | float x => x.text
  | text t => printText t
  | array xs => "[" ++ ",".intercalate (printAll xs) ++ "]"
  | object fields => "\x7b" ++ ",".intercalate (printFields fields) ++ "\x7d"

def printAll : List Json → List String
  | [] => []
  | x :: xs => print x :: printAll xs

def printFields : List (Text × Json) → List String
  | [] => []
  | (k, x) :: fields => (printText k ++ ":" ++ print x) :: printFields fields

end

mutual

/-- Whether no text and no key holds half of a surrogate pair. -/
def isWellFormed : Json → Bool
  | text t => !t.any (·.isSurrogate)
  | array xs => areWellFormed xs
  | object fields => fieldsAreWellFormed fields
  | _ => true

def areWellFormed : List Json → Bool
  | [] => true
  | x :: xs => x.isWellFormed && areWellFormed xs

def fieldsAreWellFormed : List (Text × Json) → Bool
  | [] => true
  | (k, x) :: fields => !k.any (·.isSurrogate) && x.isWellFormed && fieldsAreWellFormed fields

end

/-- The text that a value is stored as. Half of a surrogate pair has no form in UTF-8. -/
def encode? (x : Json) : Option String := if x.isWellFormed then some x.print else none

end RustdocIndex.Json
