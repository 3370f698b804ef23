import RustdocIndex.Text.CodePoint

/-! White space, by the Unicode property and the separators of the ASCII controls. -/
namespace RustdocIndex

/-- Tab to carriage return, the four information separators, the space, and every space, line and
paragraph separator beyond ASCII. -/
def isBlank (c : Char) : Bool :=
  let n := c.toNat
  (9 ≤ n && n ≤ 13) || (28 ≤ n && n ≤ 32) || n == 0x85 || n == 0xA0 || n == 0x1680 ||
    (0x2000 ≤ n && n ≤ 0x200A) || n == 0x2028 || n == 0x2029 || n == 0x202F || n == 0x205F ||
    n == 0x3000

/-- The text without the characters of a class at its end. -/
def trimEndBy {α : Type} (p : α → Bool) (s : List α) : List α :=
  (s.reverse.dropWhile p).reverse

/-- The text without the characters of a class at its two ends. -/
def trimBy {α : Type} (p : α → Bool) (s : List α) : List α := trimEndBy p (s.dropWhile p)

def trimBlank (s : List Char) : List Char := trimBy isBlank s

/-- The same of a text in which surrogates may stand, none of which is white space. -/
def Text.trimBlank (t : Text) : Text := trimBy (fun c => c.toChar?.any isBlank) t

end RustdocIndex
