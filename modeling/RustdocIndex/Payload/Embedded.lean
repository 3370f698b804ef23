import RustdocIndex.Json.Parser
import RustdocIndex.Payload.Failure
import RustdocIndex.Text.Blank

/-! The JSON document inside `JSON.parse('...')`: its text is a single-quoted string with escapes,
broken into lines by backslashes. -/
namespace RustdocIndex.Payload

/-- What follows the opening quote of the document, if it stands at the front. -/
def afterOpening? (s : List Char) : Option (List Char) := do
  let t ← after? "JSON.parse(".toList s
  match t.dropWhile isBlank with
  | '\'' :: body => some body
  | _ => none

/-- What follows the first opening quote of a document. -/
def findOpening? : List Char → Option (List Char)
  | [] => none
  | c :: s => (afterOpening? (c :: s)).or (findOpening? s)

/-- What an escaped character stands for; a line break stands for nothing. -/
def unescape (c : Char) : List Char :=
  if c = '\n' then []
  else if c = 'n' then ['\n']
  else if c = 'r' then ['\r']
  else if c = 't' then ['\t']
  else if c = 'b' then ['\x08']
  else if c = 'f' then ['\x0c']
  else if c = 'v' then ['\x0b']
  else if c = '0' then ['\x00']
  else [c]

/-- The text up to the closing quote, without its escapes, or `none` if it is not closed. The
characters before are `seen` in reverse. -/
def unquote? (seen : List Char) : List Char → Option (List Char)
  | [] => none
  | c :: s =>
    if c = '\'' then some seen.reverse
    else if c = '\\' then
      match s with
      | [] => none
      | e :: s => unquote? ((unescape e).reverse ++ seen) s
    else unquote? (c :: seen) s

/-- The JSON document of a payload that is read as one of generation `g`. -/
def document (g : Generation) (s : List Char) : Except Stop Json :=
  match findOpening? s with
  | none => .error (.refused ⟨some g, none, .noJson⟩)
  | some body =>
    match unquote? [] body with
    | none =>
      .error (.refused ⟨some g, some (Utf8.size s - Utf8.size body), .unterminatedJson⟩)
    | some text =>
      match Json.parse text with
      | .ok x => .ok x
      | .error (.problem p rest) =>
        let (line, column) := Json.position text rest
        .error (.refused ⟨some g, none, .invalidJson p line column⟩)
      | .error .tooDeep => .error (.refused ⟨some g, none, .jsonTooDeep⟩)
      | .error (.integerTooLong digits) => .error (.integerTooLong digits)

end RustdocIndex.Payload
