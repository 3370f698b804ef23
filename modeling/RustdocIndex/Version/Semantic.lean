import RustdocIndex.Text.Numeral
import RustdocIndex.Text.Split

/-! Semantic versions: three numbers, then identifiers of a pre-release and of a build. -/
namespace RustdocIndex

structure SemanticVersion where
  major : Nat
  minor : Nat
  patch : Nat
  prerelease : List (List Char)
  build : List (List Char)
  deriving DecidableEq

def natChars (n : Nat) : List Char := (decimalDigits n).map Nat.digitChar

/-- Identifiers behind their sign, if there are any. -/
def identifierChars (sign : Char) : List (List Char) → List Char
  | [] => []
  | ids => sign :: joinWith ['.'] ids

namespace SemanticVersion

def chars (v : SemanticVersion) : List Char :=
  joinWith ['.'] [natChars v.major, natChars v.minor, natChars v.patch] ++
    identifierChars '-' v.prerelease ++ identifierChars '+' v.build

/-- Decimal digits that do not begin with a needless zero. The documented expression for versions has
`\d` here, which in other places also stands for the digits of other scripts; only those of ASCII are
taken. -/
def isPlainNumber (s : List Char) : Bool :=
  s.all Char.isDigit && !s.isEmpty && (s.length == 1 || s.head? != some '0')

def isIdentifierChar (c : Char) : Bool := c.isAlphanum || c == '-'

def isBuildIdentifier (s : List Char) : Bool := !s.isEmpty && s.all isIdentifierChar

/-- An identifier of digits is a number without a needless zero. -/
def isPrereleaseIdentifier (s : List Char) : Bool :=
  isBuildIdentifier s && (isPlainNumber s || !s.all Char.isDigit)

/-- A number of the first three, whose digits are limited. -/
def number? (s : List Char) : Option Nat :=
  if isPlainNumber s && s.length ≤ maxIntegerDigits then
    some (ofDigits (s.map (·.toNat - 48)))
  else none

/-- Identifiers with points between them. -/
def identifiers? (valid : List Char → Bool) : Option (List Char) → Option (List (List Char))
  | none => some []
  | some s =>
    let ids := splitAt '.' s
    if ids.all valid then some ids else none

def parse? (s : List Char) : Option SemanticVersion := do
  let (s, build) := cutAt '+' s
  let (core, prerelease) := cutAt '-' s
  match splitAt '.' core with
  | [a, b, c] => do
    let major ← number? a
    let minor ← number? b
    let patch ← number? c
    let prerelease ← identifiers? isPrereleaseIdentifier prerelease
    let build ← identifiers? isBuildIdentifier build
    pure ⟨major, minor, patch, prerelease, build⟩
  | _ => none

end SemanticVersion

end RustdocIndex
