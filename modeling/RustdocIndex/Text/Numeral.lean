import RustdocIndex.Text.Blank
import RustdocIndex.Text.Quoted

/-! Integers written in decimal digits, in any script that Unicode 14 has digits for. -/
namespace RustdocIndex

/-- The zeros; each is followed by the other nine digits of its script. -/
def zeroDigits : List Nat := [
  0x30, 0x660, 0x6F0, 0x7C0, 0x966, 0x9E6, 0xA66, 0xAE6, 0xB66, 0xBE6,
  0xC66, 0xCE6, 0xD66, 0xDE6, 0xE50, 0xED0, 0xF20, 0x1040, 0x1090, 0x17E0,
  0x1810, 0x1946, 0x19D0, 0x1A80, 0x1A90, 0x1B50, 0x1BB0, 0x1C40, 0x1C50, 0xA620,
  0xA8D0, 0xA900, 0xA9D0, 0xA9F0, 0xAA50, 0xABF0, 0xFF10, 0x104A0, 0x10D30, 0x11066,
  0x110F0, 0x11136, 0x111D0, 0x112F0, 0x11450, 0x114D0, 0x11650, 0x116C0, 0x11730, 0x118E0,
  0x11950, 0x11C50, 0x11D50, 0x11DA0, 0x16A60, 0x16AC0, 0x16B50, 0x1D7CE, 0x1D7D8, 0x1D7E2,
  0x1D7EC, 0x1D7F6, 0x1E140, 0x1E2F0, 0x1E950, 0x1FBF0]

def digitValue? (c : Char) : Option Nat :=
  (zeroDigits.find? fun z => z ≤ c.toNat && c.toNat < z + 10).map (c.toNat - ·)

/-- The value of decimal digits, most significant first. -/
def ofDigits (ds : List Nat) : Nat := ds.foldl (fun n d => 10 * n + d) 0

/-- The decimal digits of a number, most significant first. -/
def decimalDigits (n : Nat) : List Nat :=
  if n < 10 then [n] else decimalDigits (n / 10) ++ [n % 10]

/-- The digits that an integer may have. -/
def maxIntegerDigits : Nat := 4300

inductive IntegerError
  /-- The text is no integer. -/
  | invalid (text : String)
  | tooLong (digits : Nat)

def IntegerError.message : IntegerError → String
  | .invalid text =>
    "invalid literal for int() with base 10: " ++ String.ofList ((quote text).toList.take 200)
  | .tooLong digits =>
    s!"Exceeds the limit ({maxIntegerDigits} digits) for integer string conversion: " ++
      s!"value has {digits} digits; use sys.set_int_max_str_digits() to increase the limit"

/-- White space around a number: the information separators do not count. -/
def isNumberBlank (c : Char) : Bool := isBlank c && !(28 ≤ c.toNat && c.toNat ≤ 31)

/-- Leading digits with single underscores between them, and the rest. The digits are collected in
reverse; `none` if an underscore stands alone. -/
def takeDigits (seen : List Nat) : List Char → Option (List Nat × List Char)
  | [] => some (seen.reverse, [])
  | '_' :: s =>
    match s with
    | [] => none
    | c :: s =>
      match digitValue? c with
      | some d => if seen.isEmpty then none else takeDigits (d :: seen) s
      | none => none
  | c :: s =>
    match digitValue? c with
    | some d => takeDigits (d :: seen) s
    | none => some (seen.reverse, c :: s)

/-- A sign in front of a number: whether it is a minus, and the rest. -/
def takeSign : List Char → Bool × List Char
  | '-' :: s => (true, s)
  | '+' :: s => (false, s)
  | s => (false, s)

/-- An integer with white space around it. -/
def readInteger (text : String) : Except IntegerError Int :=
  let (negative, s) := takeSign (text.toList.dropWhile isNumberBlank)
  match takeDigits [] s with
  | none | some ([], _) => .error (.invalid text)
  | some (ds, rest) =>
    if maxIntegerDigits < ds.length then .error (.tooLong ds.length)
    else if rest.all isNumberBlank then
      .ok (if negative then -(ofDigits ds : Int) else ofDigits ds)
    else .error (.invalid text)

end RustdocIndex
