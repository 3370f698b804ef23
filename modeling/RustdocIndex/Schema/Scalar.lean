import RustdocIndex.Json.Basic
import RustdocIndex.Schema.Checked
import RustdocIndex.Schema.Integer

/-! Checks of single values. Integers and truth values may be given in other forms that mean the
same. -/
namespace RustdocIndex.Schema

variable {α : Type}

def text : Json → Checked Text
  | .text t => .valid t
  | _ => .problem .notText

/-- A text that must not be empty. Its characters are counted, so it must not hold surrogates. -/
def nonemptyText (t : Text) : Checked Text :=
  if t.any (·.isSurrogate) then .problem .notUnicode
  else if t.isEmpty then .problem .textTooShort
  else .valid t

def nonempty (x : Json) : Checked Text := (text x).andThen nonemptyText

/-- A value that may be null. -/
def nullable (check : Json → Checked α) : Json → Checked (Option α)
  | .null => .valid none
  | x => some <$> check x

/-- What a word stands for, one of a few. -/
def oneOf (problem : Problem) (meaning? : String → Option α) : Json → Checked α
  | .text t =>
    match t.toString?.bind meaning? with
    | some a => .valid a
    | none => .problem problem
  | _ => .problem problem

/-- The bound of integers of 64 bits with a sign. -/
def wordLimit : Int := 0x8000000000000000

/-- An integer that a float stands for. -/
def wholeFloat (x : Binary64) : Checked Int :=
  match x with
  | .nan | .infinite _ => .problem .notFinite
  | x =>
    match x.toInt? with
    | none => .problem .fractional
    | some n => if -wordLimit < n ∧ n < wordLimit then .valid n else .problem .integerTooLarge

/-- An integer written as a text. One that is too long is told apart from other texts only where
nothing but a minus stands in front of its digits. -/
def integerOfText (s : List Char) : Checked Int :=
  if beginsTooLong s then .problem .integerTooLarge
  else
    match integerOf? s with
    | some n => .valid n
    | none => .problem .unreadableInteger

def integer : Json → Checked Int
  | .int n => .valid n
  | .bool b => .valid b.toNat
  | .float x => wholeFloat x
  | .text t =>
    match t.toString? with
    | none => .problem .unreadableInteger
    | some s => integerOfText s.toList
  | _ => .problem .notInteger

/-- An integer that is not negative. -/
def natural (x : Json) : Checked Nat :=
  (integer x).andThen fun n => if n < 0 then .problem .negative else .valid n.toNat

/-- The words for truth values, in small letters. -/
def truthWords : List (String × Bool) := [
  ("0", false), ("off", false), ("f", false), ("false", false), ("n", false), ("no", false),
  ("1", true), ("on", true), ("t", true), ("true", true), ("y", true), ("yes", true)]

/-- Zero or one as a truth value. -/
def truth (n : Int) : Checked Bool :=
  if n = 0 then .valid false else if n = 1 then .valid true else .problem .unreadableBoolean

def boolean : Json → Checked Bool
  | .bool b => .valid b
  | .int n => if -wordLimit ≤ n ∧ n < wordLimit then truth n else .problem .notBoolean
  | .float x =>
    match wholeFloat x with
    | .valid n => truth n
    | .invalid _ => .problem .notBoolean
  | .text t =>
    match t.toString?.bind fun s => truthWords.lookup s.toLower with
    | some b => .valid b
    | none => .problem .unreadableBoolean
  | _ => .problem .notBoolean

end RustdocIndex.Schema
