import RustdocIndex.Text.Numeral
import RustdocIndex.Text.Split

/-! Integers written as texts, where more forms than the plain one are taken. -/
namespace RustdocIndex.Schema

/-- Skips zeros and underscores after a zero. The last of them stays if a point or nothing
follows, and a minus may follow them. -/
def skipZeros (last : Char) : List Char → Option (List Char)
  | [] => some [last]
  | c :: s =>
    if c = '0' ∨ c = '_' then skipZeros c s
    else if c.isDigit ∨ c = '-' then some (c :: s)
    else if c = '.' then some (last :: c :: s)
    else none

/-- A text that begins with a digit, without needless zeros at its front. -/
def dropZeros : List Char → Option (List Char)
  | [] => none
  | c :: s =>
    if c = '0' then skipZeros c s
    else if c.isDigit then some (c :: s)
    else none

/-- The text before a fraction of zeros. -/
def dropFraction (s : List Char) : Option (List Char) :=
  match cutAt '.' s with
  | (whole, none) => some whole
  | (whole, some fraction) =>
    if !fraction.isEmpty && fraction.all (· == '0') then some whole else none

/-- The text without its underscores, unless one is first or last or two are together. -/
def dropUnderscores (s : List Char) : List Char :=
  if (splitAt '_' s).any (·.isEmpty) then s else s.filter (· != '_')

/-- The plain form of a number: no needless zeros in front, no fraction, no underscores. -/
def plainForm? (s : List Char) : Option (List Char) := do
  let s ← dropFraction (← dropZeros s)
  pure (dropUnderscores s)

/-- A number whose minus stays in front of its plain form, and whose plus is left out. -/
def plainSigned? (s : List Char) : Option (List Char) :=
  match s with
  | '+' :: '-' :: _ => none
  | '+' :: s => plainForm? s
  | '-' :: s => (plainForm? s).map ('-' :: ·)
  | s => plainForm? s

/-- The value of digits that do not begin with a needless zero, at most as many as an integer may
have. -/
def plainNatural? (s : List Char) : Option Nat :=
  if s.isEmpty || !s.all Char.isDigit || (1 < s.length && s.head? == some '0') then none
  else if maxIntegerDigits < s.length then none
  else some (ofDigits (s.map (·.toNat - 48)))

/-- The value of a plain integer. -/
def plainInteger? (s : List Char) : Option Int :=
  match s with
  | '-' :: s => (plainNatural? s).map fun n => -(n : Int)
  | s => (plainNatural? s).map fun n => (n : Int)

/-- Whether a text begins with more digits than an integer may have, perhaps after a minus. -/
def beginsTooLong (s : List Char) : Bool :=
  let digits := match s with
    | '-' :: s => s
    | s => s
  digits.head? != some '0' && maxIntegerDigits < (digits.takeWhile Char.isDigit).length

/-- An integer with white space around it, and perhaps with a plus, with zeros in front, with a
fraction of zeros, or with underscores between its digits. -/
def integerOf? (s : List Char) : Option Int :=
  (plainSigned? (trimBy isNumberBlank s)).bind plainInteger?

end RustdocIndex.Schema
