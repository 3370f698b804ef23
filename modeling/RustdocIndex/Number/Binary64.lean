/-! Double-precision numbers as exact values, and the nearest one to a decimal. -/
namespace RustdocIndex

/-- A double: `mantissa * 2 ^ exponent` with a sign, an infinity, or no number. -/
inductive Binary64
  | nan
  | infinite (negative : Bool)
  | finite (negative : Bool) (mantissa : Nat) (exponent : Int)
  deriving DecidableEq

/-- The quotient rounded to the nearest integer, a tie to the even one. -/
def roundHalfEven (num den : Nat) : Nat :=
  let q := num / den
  let r := num % den
  if den < 2 * r ∨ (2 * r = den ∧ q % 2 = 1) then q + 1 else q

/-- `num / den` times a power of two, as a fraction. -/
def scaleByTwo (num den : Nat) (e : Int) : Nat × Nat :=
  if 0 ≤ e then (num <<< e.toNat, den) else (num, den <<< (-e).toNat)

/-- `num / den` times a power of ten, as a fraction. -/
def scaleByTen (num den : Nat) (e : Int) : Nat × Nat :=
  if 0 ≤ e then (num * Nat.pow 10 e.toNat, den) else (num, den * Nat.pow 10 (-e).toNat)

namespace Binary64

/-- The least mantissa of 53 binary digits. -/
def leastMantissa : Nat := 1 <<< 52

/-- The double nearest to the fraction `num / den`, which is not zero. -/
def ofFraction (negative : Bool) (num den : Nat) : Binary64 :=
  let low := max (-1074) ((num.log2 : Int) - den.log2 - 53)
  let (n, d) := scaleByTwo num den (-low)
  let e := if 2 * leastMantissa ≤ n / d then low + 1 else low
  let (n, d) := scaleByTwo num den (-e)
  let m := roundHalfEven n d
  let (m, e) := if m = 2 * leastMantissa then (leastMantissa, e + 1) else (m, e)
  if 971 < e then .infinite negative
  else if m = 0 then .finite negative 0 (-1074)
  else .finite negative m e

/-- The double nearest to `coefficient * 10 ^ exponent`. Below half of the least double it is zero,
beyond the greatest infinite; both are told from the number of digits. -/
def ofDecimal (negative : Bool) (coefficient : Nat) (exponent : Int) : Binary64 :=
  let digits : Int := coefficient.log2 * 30103 / 100000 + 1
  if coefficient = 0 ∨ digits + exponent < -330 then .finite negative 0 (-1074)
  else if 320 < digits + exponent then .infinite negative
  else
    let (num, den) := scaleByTen coefficient 1 exponent
    ofFraction negative num den

def isZero : Binary64 → Bool
  | .finite _ m _ => m == 0
  | _ => false

/-- The value of a double, if it is an integer. -/
def toInt? : Binary64 → Option Int
  | .finite negative m e =>
    let (n, d) := scaleByTwo m 1 e
    if n % d = 0 then some (if negative then -(n / d : Int) else n / d) else none
  | _ => none

end Binary64

end RustdocIndex
