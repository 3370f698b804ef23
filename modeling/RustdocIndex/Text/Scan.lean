import RustdocIndex.Text.CodePoint

/-! What JSON texts and literal programs read alike: white space, digits and hexadecimal units. -/
namespace RustdocIndex

def isSpace (c : Char) : Bool := c == ' ' || c == '\t' || c == '\n' || c == '\r'

def skipSpace (s : List Char) : List Char := s.dropWhile isSpace

/-- The digits at the front as numbers, and the rest. -/
def scanDigits (s : List Char) : List Nat × List Char :=
  ((s.takeWhile Char.isDigit).map (·.toNat - 48), s.dropWhile Char.isDigit)

def hexValue? (c : Char) : Option Nat :=
  let n := c.toNat
  if 48 ≤ n ∧ n ≤ 57 then some (n - 48)
  else if 97 ≤ n ∧ n ≤ 102 then some (n - 87)
  else if 65 ≤ n ∧ n ≤ 70 then some (n - 55)
  else none

/-- The code point of two hexadecimal digits. -/
def hexPair? (a b : Char) : Option CodePoint := do
  let a ← hexValue? a
  let b ← hexValue? b
  pure (.ofUnit (a * 16 + b))

/-- The code point of four hexadecimal digits. -/
def hexUnit? (a b c d : Char) : Option CodePoint := do
  let a ← hexValue? a
  let b ← hexValue? b
  let c ← hexValue? c
  let d ← hexValue? d
  pure (.ofUnit (((a * 16 + b) * 16 + c) * 16 + d))

/-- What a backslash and one character stand for in a double-quoted string. -/
def escaped? (c : Char) : Option Char :=
  if c = '"' ∨ c = '\\' ∨ c = '/' then some c
  else if c = 'b' then some '\x08'
  else if c = 'f' then some '\x0c'
  else if c = 'n' then some '\n'
  else if c = 'r' then some '\r'
  else if c = 't' then some '\t'
  else none

end RustdocIndex
