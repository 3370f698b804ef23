import RustdocIndex.Literal.Problem
import RustdocIndex.Text.Scan

/-! The names, integers and strings of literal programs. -/
namespace RustdocIndex.Literal

def isNameStart (c : Char) : Bool := c.isAlpha || c == '_' || c == '$'

def isNameContinue (c : Char) : Bool := c.isAlphanum || c == '_' || c == '$'

/-- What follows `wanted` and the white space in front of it. -/
def expect (wanted : Char) (s : List Char) : Except Stop (List Char) :=
  match skipSpace s with
  | c :: rest =>
    if c = wanted then .ok rest else .error (.problem (.expected wanted (some c)) (c :: rest))
  | [] => .error (.problem (.expected wanted none) [])

def scanName (s : List Char) : Except Stop (String × List Char) :=
  match skipSpace s with
  | c :: t =>
    if isNameStart c then
      .ok (String.ofList (c :: t.takeWhile isNameContinue), t.dropWhile isNameContinue)
    else .error (.problem .expectedIdentifier (c :: t))
  | [] => .error (.problem .expectedIdentifier [])

/-- An integer, which may begin with zeros. -/
def scanInteger (s : List Char) : Except Stop (Int × List Char) :=
  let s := skipSpace s
  let (negative, t) := match s with
    | '-' :: t => (true, t)
    | t => (false, t)
  match scanDigits t with
  | ([], _) => .error (.problem .expectedInteger s)
  | (ds, rest) =>
    if maxIntegerDigits < ds.length then .error (.integerTooLong ds.length)
    else .ok (if negative then -(ofDigits ds : Int) else ofDigits ds, rest)

/-- The text up to the closing `mark`, and what follows it; `start` begins with the opening one,
and the characters before are `seen` in reverse. -/
def scanString (start : List Char) (mark : Char) (seen : Text) :
    List Char → Except Stop (Text × List Char)
  | [] => .error (.problem .unterminatedString start)
  | c :: s =>
    if c = mark then .ok (seen.reverse, s)
    else if c = '\n' then .error (.problem .unterminatedString start)
    else if c = '\\' then
      match s with
      | [] => .error (.problem .unterminatedString start)
      | e :: t =>
        if e = 'u' then
          match t with
          | a :: b :: f :: d :: rest =>
            match hexUnit? a b f d with
            | some u => scanString start mark (seen.push u) rest
            | none => .error (.problem (.invalidHexEscape e) (c :: s))
          | _ => .error (.problem (.invalidHexEscape e) (c :: s))
        else if e = 'x' then
          match t with
          | a :: b :: rest =>
            match hexPair? a b with
            | some u => scanString start mark (u :: seen) rest
            | none => .error (.problem (.invalidHexEscape e) (c :: s))
          | _ => .error (.problem (.invalidHexEscape e) (c :: s))
        else if e = '\'' then scanString start mark (.ofChar e :: seen) t
        else
          match escaped? e with
          | some x => scanString start mark (.ofChar x :: seen) t
          | none => .error (.problem (.invalidEscape e) (c :: s))
    else scanString start mark (.ofChar c :: seen) s

/-- The key of an object's member: a string or a name. -/
def scanKey (s : List Char) : Except Stop (Text × List Char) :=
  match skipSpace s with
  | c :: t =>
    if c = '"' ∨ c = '\'' then scanString (c :: t) c [] t
    else do
      let (name, rest) ← scanName (c :: t)
      pure (.ofString name, rest)
  | [] => .error (.problem .expectedIdentifier [])

end RustdocIndex.Literal
