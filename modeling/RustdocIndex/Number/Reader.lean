import RustdocIndex.Number.Binary64
import RustdocIndex.Text.Numeral

/-! Doubles written as texts. -/
namespace RustdocIndex.Binary64

/-- The names of what is no finite number, in small letters. -/
def word? (negative : Bool) (s : List Char) : Option Binary64 :=
  match (String.ofList s).toLower with
  | "inf" | "infinity" => some (.infinite negative)
  | "nan" => some .nan
  | _ => none

/-- A point and the digits after it, which may both be left out. -/
def takeFraction : List Char → Option (List Nat × List Char)
  | '.' :: s => takeDigits [] s
  | s => some ([], s)

/-- An exponent of ten up to the end of the text; none counts as zero. -/
def takeExponent : List Char → Option Int
  | [] => some 0
  | c :: s =>
    if c = 'e' ∨ c = 'E' then
      let (negative, s) := takeSign s
      match takeDigits [] s with
      | some (d :: ds, []) => some (if negative then -(ofDigits (d :: ds) : Int) else ofDigits (d :: ds))
      | _ => none
    else none

/-- Digits with a point and an exponent, of which there is a digit before the exponent. -/
def decimal? (negative : Bool) (s : List Char) : Option Binary64 := do
  let (whole, s) ← takeDigits [] s
  let (fraction, s) ← takeFraction s
  let exponent ← takeExponent s
  if (whole ++ fraction).isEmpty then none
  else some (.ofDecimal negative (ofDigits (whole ++ fraction)) (exponent - fraction.length))

/-- A number or one of the names, with a sign in front and white space around it. -/
def read? (s : String) : Option Binary64 :=
  let (negative, s) := takeSign (trimBy isNumberBlank s.toList)
  (word? negative s).or (decimal? negative s)

end RustdocIndex.Binary64
