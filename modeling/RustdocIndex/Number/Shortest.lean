import RustdocIndex.Number.Binary64
import RustdocIndex.Text.Numeral

/-! The shortest decimal that reads back as a double. -/
namespace RustdocIndex.Binary64

/-- The least `p` with `num / den < 10 ^ p`, near an estimate from the binary logarithms. -/
def decimalPoint (num den : Nat) : Int :=
  let guess := ((num.log2 : Int) - den.log2) * 30103 / 100000
  let candidates := [guess - 2, guess - 1, guess, guess + 1, guess + 2]
  let below (p : Int) : Bool :=
    let (n, d) := scaleByTen num den (-p)
    n < d
  (candidates.find? below).getD (guess + 3)

/-- Whether the decimal `c * 10 ^ k` rounds to the double of this mantissa and exponent: it lies
between the two midpoints to the neighbours, or on one of them if the mantissa is even. -/
def roundsTo (m : Nat) (e : Int) (c : Nat) (k : Int) : Bool :=
  let lowGap := if m = leastMantissa ∧ -1074 < e then 1 else 2
  let (low, lowDen) := scaleByTwo (4 * m - lowGap) 4 e
  let (high, highDen) := scaleByTwo (4 * m + 2) 4 e
  let (n, d) := scaleByTen c 1 k
  if m % 2 = 0 then low * d ≤ n * lowDen && n * highDen ≤ high * d
  else low * d < n * lowDen && n * highDen < high * d

/-- Of the decimals with `digits` digits, the one nearest to the value that rounds to it. -/
def withDigits? (m : Nat) (e : Int) (point : Int) (digits : Nat) : Option (Nat × Int) :=
  let k := point - digits
  let (num, den) := scaleByTwo m 1 e
  let (n, d) := scaleByTen num den (-k)
  let nearest := roundHalfEven n d
  let other := if nearest = n / d then n / d + 1 else n / d
  ([nearest, other].find? fun c => 0 < c && roundsTo m e c k).map fun c => (c, k)

/-- The fewest digits, at most seventeen, with the power of ten that scales them. -/
def shortest (m : Nat) (e : Int) : Nat × Int :=
  let (num, den) := scaleByTwo m 1 e
  let point := decimalPoint num den
  (((List.range 17).map (· + 1)).findSome? (withDigits? m e point)).getD (0, 0)

/-- The coefficient without the zeros at its end. -/
def trimZeros : Nat → Nat × Int → Nat × Int
  | 0, d => d
  | n + 1, (c, k) => if c ≠ 0 ∧ c % 10 = 0 then trimZeros n (c / 10, k + 1) else (c, k)

def digitText (ds : List Nat) : List Char := ds.map Nat.digitChar

/-- Positional from 0.0001 up to sixteen digits before the point, and with a fraction always;
otherwise with an exponent of two digits or more. -/
def decimalText (c : Nat) (k : Int) : List Char :=
  let (c, k) := trimZeros 17 (c, k)
  let ds := digitText (decimalDigits c)
  let point := ds.length + k
  if -4 < point ∧ point ≤ 16 then
    if point ≤ 0 then ['0', '.'] ++ List.replicate (-point).toNat '0' ++ ds
    else if 0 ≤ k then ds ++ List.replicate k.toNat '0' ++ ['.', '0']
    else ds.take point.toNat ++ '.' :: ds.drop point.toNat
  else
    let fraction := match ds with
      | d :: e :: more => d :: '.' :: e :: more
      | ds => ds
    let x := point - 1
    let xs := digitText (decimalDigits x.natAbs)
    fraction ++ ['e', if x < 0 then '-' else '+'] ++ (if xs.length < 2 then '0' :: xs else xs)

/-- The text of a double: the shortest that reads back. -/
def text : Binary64 → String
  | .nan => "nan"
  | .infinite negative => if negative then "-inf" else "inf"
  | .finite negative m e =>
    let body := if m = 0 then ['0', '.', '0'] else
      let (c, k) := shortest m e
      decimalText c k
    String.ofList (if negative then '-' :: body else body)

end RustdocIndex.Binary64
