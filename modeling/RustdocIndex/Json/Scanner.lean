import RustdocIndex.Json.Basic
import RustdocIndex.Text.Scan

/-! The strings and numbers of JSON text. -/
namespace RustdocIndex.Json

inductive Problem
  | byteOrderMark
  | expectedValue
  | expectedKey
  | expectedColon
  | expectedComma
  | unterminatedString
  | controlCharacter
  | invalidEscape
  | invalidUnitEscape
  | extraData
  deriving DecidableEq

def Problem.message : Problem → String
  | .byteOrderMark => "Unexpected UTF-8 BOM (decode using utf-8-sig)"
  | .expectedValue => "Expecting value"
  | .expectedKey => "Expecting property name enclosed in double quotes"
  | .expectedColon => "Expecting ':' delimiter"
  | .expectedComma => "Expecting ',' delimiter"
  | .unterminatedString => "Unterminated string starting at"
  | .controlCharacter => "Invalid control character at"
  | .invalidEscape => "Invalid \\escape"
  | .invalidUnitEscape => "Invalid \\uXXXX escape"
  | .extraData => "Extra data"

/-- Why reading stopped. -/
inductive Stop
  /-- The text is no JSON, as its `rest` shows. -/
  | problem (p : Problem) (rest : List Char)
  | tooDeep
  | integerTooLong (digits : Nat)
  deriving DecidableEq

/-- The text up to the closing quote, and what follows it; `start` begins with the opening quote,
and the characters before are `seen` in reverse. Text goes on after the digits of a unit. -/
def scanString (start : List Char) (seen : Text) : List Char → Except Stop (Text × List Char)
  | [] => .error (.problem .unterminatedString start)
  | c :: s =>
    if c = '"' then .ok (seen.reverse, s)
    else if c = '\\' then
      match s with
      | [] => .error (.problem .unterminatedString start)
      | e :: s =>
        if e = 'u' then
          match s with
          | a :: b :: c :: d :: f :: s =>
            match hexUnit? a b c d with
            | some u => scanString start (seen.push u) (f :: s)
            | none => .error (.problem .invalidUnitEscape (e :: a :: b :: c :: d :: f :: s))
          | s => .error (.problem .invalidUnitEscape (e :: s))
        else
          match escaped? e with
          | some x => scanString start (.ofChar x :: seen) s
          | none => .error (.problem .invalidEscape (c :: e :: s))
    else if c.toNat < 32 then .error (.problem .controlCharacter (c :: s))
    else scanString start (.ofChar c :: seen) s

/-- A point and one digit or more. -/
def scanFraction (s : List Char) : List Nat × List Char :=
  match s with
  | '.' :: t =>
    match scanDigits t with
    | ([], _) => ([], s)
    | fraction => fraction
  | s => ([], s)

/-- An exponent sign, perhaps a sign, and one digit or more. -/
def scanExponent (s : List Char) : Option Int × List Char :=
  match s with
  | [] => (none, [])
  | c :: t =>
    if c = 'e' ∨ c = 'E' then
      let (negative, u) := match t with
        | '-' :: u => (true, u)
        | '+' :: u => (false, u)
        | u => (false, u)
      match scanDigits u with
      | ([], _) => (none, s)
      | (ds, rest) => (some (if negative then -(ofDigits ds : Int) else ofDigits ds), rest)
    else (none, s)

/-- The digits before the point: a zero, or digits that begin with no zero. -/
def scanWhole (s : List Char) : Option (List Nat × List Char) :=
  match s with
  | [] => none
  | c :: t =>
    if c = '0' then some ([0], t)
    else if c.isDigit then some (scanDigits s)
    else none

/-- A number; with a fraction or an exponent it is no integer. -/
def scanNumber (s : List Char) : Except Stop (Json × List Char) :=
  let (negative, t) := match s with
    | '-' :: t => (true, t)
    | t => (false, t)
  match scanWhole t with
  | none => .error (.problem .expectedValue s)
  | some (whole, t) =>
    let (fraction, t) := scanFraction t
    let (exponent, t) := scanExponent t
    if fraction.isEmpty ∧ exponent.isNone then
      if maxIntegerDigits < whole.length then .error (.integerTooLong whole.length)
      else .ok (.int (if negative then -(ofDigits whole : Int) else ofDigits whole), t)
    else
      let scale := exponent.getD 0 - fraction.length
      .ok (.float (.ofDecimal negative (ofDigits (whole ++ fraction)) scale), t)

end RustdocIndex.Json
