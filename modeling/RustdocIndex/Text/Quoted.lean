import RustdocIndex.Text.Printable

/-! Quoted text, as messages show it: one line of printable characters between quotes. -/
namespace RustdocIndex

/-- The hexadecimal digits of `n` in lower case, the last `width` of them. -/
def hexDigits : Nat → Nat → List Char
  | 0, _ => []
  | width + 1, n => hexDigits width (n / 16) ++ [Nat.digitChar (n % 16)]

namespace CodePoint

/-- The escape of a code point that is not printable, as short as its value allows. -/
def hexEscape (c : CodePoint) : List Char :=
  if c.val < 0x100 then '\\' :: 'x' :: hexDigits 2 c.val
  else if c.val < 0x10000 then '\\' :: 'u' :: hexDigits 4 c.val
  else '\\' :: 'U' :: hexDigits 8 c.val

/-- A code point between two quotes `q`. -/
def quoted (q : Char) (c : CodePoint) : List Char :=
  match c.toChar? with
  | none => c.hexEscape
  | some ch =>
    if ch = '\\' ∨ ch = q then ['\\', ch]
    else if ch = '\n' then ['\\', 'n']
    else if ch = '\r' then ['\\', 'r']
    else if ch = '\t' then ['\\', 't']
    else if c.isPrintable then [ch]
    else c.hexEscape

end CodePoint

namespace Text

/-- Single quotes, unless the text holds one and no double quote. -/
def quoteMark (t : Text) : Char :=
  if t.contains (CodePoint.ofChar '\'') && !t.contains (CodePoint.ofChar '"') then '"' else '\''

def quoted (t : Text) : String :=
  String.ofList (t.quoteMark :: t.flatMap (·.quoted t.quoteMark) ++ [t.quoteMark])

/-- The message that a text has no bytes in UTF-8. It tells the halves of surrogate pairs that stand
together from the first code point that is `lost`. -/
def unencodableMessage (lost : CodePoint → Bool) (t : Text) : String :=
  let front := (t.takeWhile fun c => !lost c).length
  let place := match (t.drop front).takeWhile (·.isSurrogate) with
    | [c] => s!"character '{String.ofList c.hexEscape}' in position {front}"
    | halves => s!"characters in position {front}-{front + halves.length - 1}"
  s!"'utf-8' codec can't encode {place}: surrogates not allowed"

end Text

/-- A `String` in quotes. -/
def quote (s : String) : String := (Text.ofString s).quoted

end RustdocIndex
