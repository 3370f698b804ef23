/-! Code points, and texts of them. Escapes in a payload can write half of a surrogate pair, so a
decoded text is more than a `String`. -/
namespace RustdocIndex

/-- A Unicode code point. Unlike a `Char` it may be a surrogate. -/
structure CodePoint where
  val : Nat
  val_lt : val < 0x110000
  deriving DecidableEq

namespace CodePoint

def ofChar (c : Char) : CodePoint where
  val := c.toNat
  val_lt := by
    have h : c.toNat < 0xD800 ∨ (0xDFFF < c.toNat ∧ c.toNat < 0x110000) := c.valid
    omega

/-- The code point of a 16-bit unit. -/
def ofUnit (n : Nat) : CodePoint := ⟨n % 0x10000, by omega⟩

def isHighSurrogate (c : CodePoint) : Bool := 0xD800 ≤ c.val && c.val ≤ 0xDBFF

def isLowSurrogate (c : CodePoint) : Bool := 0xDC00 ≤ c.val && c.val ≤ 0xDFFF

def isSurrogate (c : CodePoint) : Bool := c.isHighSurrogate || c.isLowSurrogate

/-- The code point that a surrogate pair stands for. -/
def ofPair (high low : CodePoint) : CodePoint :=
  ⟨0x10000 + (high.val - 0xD800) % 0x400 * 0x400 + (low.val - 0xDC00) % 0x400, by omega⟩

def toChar? (c : CodePoint) : Option Char :=
  if h : c.val.isValidChar then some (Char.ofNatAux c.val h) else none

end CodePoint

/-- A text that may hold lone surrogates. -/
abbrev Text := List CodePoint

namespace Text

def ofChars (s : List Char) : Text := s.map CodePoint.ofChar

def ofString (s : String) : Text := ofChars s.toList

instance : Coe String Text := ⟨ofString⟩

/-- Adds a code point to the end of a text that is kept in reverse. Two that are a surrogate pair
become one. -/
def push (reversed : Text) (c : CodePoint) : Text :=
  match reversed with
  | high :: before =>
    if high.isHighSurrogate && c.isLowSurrogate then .ofPair high c :: before else c :: reversed
  | [] => [c]

/-- The text as a `String`, unless it holds a surrogate. -/
def toString? (t : Text) : Option String := (t.mapM CodePoint.toChar?).map String.ofList

end Text

end RustdocIndex
