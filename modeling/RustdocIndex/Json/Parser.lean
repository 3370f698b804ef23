import RustdocIndex.Json.Scanner
import RustdocIndex.Text.Split

/-! The JSON grammar. Besides the standard's values it reads the names of the numbers that are not
finite. A problem is told by the rest of the text where it lies. -/
namespace RustdocIndex.Json

/-- How many arrays and objects may be open at once. The grammar has no such limit: a thousand stands
for the limit of the interpreter on calls inside one another, which reading runs into. -/
def maxDepth : Nat := 1000

def literals : List (String × Json) :=
  [("null", .null), ("true", .bool true), ("false", .bool false), ("NaN", .float .nan),
    ("Infinity", .float (.infinite false)), ("-Infinity", .float (.infinite true))]

/-- A literal name at the front, and what follows it. -/
def scanLiteral? (s : List Char) : Option (Json × List Char) :=
  literals.findSome? fun (name, x) => (after? name.toList s).map fun rest => (x, rest)

mutual

/-- The value at the front of the text, with `depth` more levels allowed. Each call takes one from
the budget. -/
def value (budget depth : Nat) (s : List Char) : Except Stop (Json × List Char) :=
  match budget with
  | 0 => .error .tooDeep
  | budget + 1 =>
    match s with
    | [] => .error (.problem .expectedValue [])
    | c :: t =>
      if c = '"' then do
        let (str, rest) ← scanString s [] t
        pure (.text str, rest)
      else if c = '[' then
        match depth, skipSpace t with
        | 0, _ => .error .tooDeep
        | _ + 1, ']' :: rest => .ok (.array [], rest)
        | depth + 1, t => elements budget depth [] t
      else if c = '\x7b' then
        match depth, skipSpace t with
        | 0, _ => .error .tooDeep
        | _ + 1, '\x7d' :: rest => .ok (.object [], rest)
        | depth + 1, t => members budget depth [] t
      else
        match scanLiteral? s with
        | some found => .ok found
        | none => scanNumber s

/-- The elements from here to the closing bracket; those before are `seen` in reverse. -/
def elements (budget depth : Nat) (seen : List Json) (s : List Char) :
    Except Stop (Json × List Char) :=
  match budget with
  | 0 => .error .tooDeep
  | budget + 1 => do
    let (x, t) ← value budget depth s
    match skipSpace t with
    | ']' :: rest => pure (.array (x :: seen).reverse, rest)
    | ',' :: rest => elements budget depth (x :: seen) (skipSpace rest)
    | t => .error (.problem .expectedComma t)

/-- The members from here to the closing brace, after those `seen`. -/
def members (budget depth : Nat) (seen : Fields Text Json) (s : List Char) :
    Except Stop (Json × List Char) :=
  match budget with
  | 0 => .error .tooDeep
  | budget + 1 =>
    match s with
    | '"' :: t => do
      let (key, t) ← scanString s [] t
      match skipSpace t with
      | ':' :: t => do
        let (x, t) ← value budget depth (skipSpace t)
        match skipSpace t with
        | '\x7d' :: rest => pure (.object (seen.put key x), rest)
        | ',' :: rest => members budget depth (seen.put key x) (skipSpace rest)
        | t => .error (.problem .expectedComma t)
      | t => .error (.problem .expectedColon t)
    | s => .error (.problem .expectedKey s)

end

/-- The one value of a text. Each character pays for the two calls that may come before the next
is read. -/
def parse (s : List Char) : Except Stop Json :=
  match s with
  | '\uFEFF' :: _ => .error (.problem .byteOrderMark s)
  | s => do
    let (x, rest) ← value (2 * s.length + 2) maxDepth (skipSpace s)
    match skipSpace rest with
    | [] => pure x
    | rest => .error (.problem .extraData rest)

/-- The line and the column, both from one, at which `rest` begins. -/
def position (s rest : List Char) : Nat × Nat :=
  let before := s.take (s.length - rest.length)
  (before.count '\n' + 1, (before.reverse.takeWhile (· != '\n')).length + 1)

end RustdocIndex.Json
