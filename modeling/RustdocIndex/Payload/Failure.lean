import RustdocIndex.Crate.Kind
import RustdocIndex.Json.Scanner
import RustdocIndex.Literal.Problem
import RustdocIndex.Schema.Report
import RustdocIndex.Text.Utf8

/-! Why a payload is not decoded. A message may quote text with half a surrogate pair, so messages
are texts. -/
namespace RustdocIndex

/-- The generations of payload layouts. -/
inductive Generation
  | v1
  | v2
  | v3
  deriving DecidableEq

def Generation.name : Generation → String
  | .v1 => "v1"
  | .v2 => "v2"
  | .v3 => "v3"

def Generation.ofName? (s : String) : Option Generation :=
  [Generation.v1, .v2, .v3].find? (·.name == s)

namespace Payload

/-- What can be wrong with one item; the picture shows the value that is. -/
inductive ItemProblem
  | notARow (shown : Tree)
  | invalidName (shown : Tree)
  | invalidPath (shown : Tree)
  | invalidDescription (shown : Tree)
  | invalidParent (shown : Tree)
  | invalidCode (p : ItemKind.CodeProblem)
  | invalidLetter (c : CodePoint)

def ItemProblem.message : ItemProblem → String
  | notARow shown => "expected an item row, got " ++ shown.quoted
  | invalidName shown => "invalid item name " ++ shown.quoted
  | invalidPath shown => "invalid module path " ++ shown.quoted
  | invalidDescription shown => "invalid description " ++ shown.quoted
  | invalidParent shown => "invalid parent index " ++ shown.quoted
  | invalidCode p => p.message
  | invalidLetter c => "invalid item type character " ++ Text.quoted [c]

/-- What can be wrong with one crate. -/
inductive CrateProblem
  | notAnObject
  | notInRows
  | missingField (key : String)
  | fieldType (key typeName : String)
  | docNotText
  | descriptionsNotTexts
  /-- A column that is not as long as the column of names. -/
  | columnLength (key : String) (length items : Nat)
  | invalidPathEntry (shown : Tree)
  | pathEntryOutOfRange (position : Int) (items : Nat)
  | noFirstPath
  | item (position : Nat) (p : ItemProblem)
  | invalidEntry (position : Nat) (shown : Tree)
  | entryCode (position : Nat) (p : ItemKind.CodeProblem)
  | parentOutOfRange (position : Nat) (name : Text) (parent : Int) (paths : Nat)
  | invalid (report : Schema.Report)

/-- The message after the crate's name; `render` writes reports. It takes a parent of any size, though
one of more than `maxIntegerDigits` digits could not be written: none is read from a payload, and none
is built from one. -/
def CrateProblem.message (render : Schema.Report → String) : CrateProblem → Text
  | notAnObject => " data is not an object"
  | notInRows => " does not use the row layout"
  | missingField key => s!" has no {quote key} field"
  | fieldType key typeName => s!" field {quote key} has unexpected type {typeName}"
  | docNotText => " field 'doc' is not a string"
  | descriptionsNotTexts => " field 'd' is not a list of strings"
  | columnLength key length items => s!" field {quote key} has {length} entries for {items} items"
  | invalidPathEntry shown => ": invalid module path entry " ++ shown.quoted
  | pathEntryOutOfRange position items =>
    s!": module path entry for item {position} out of range for {items} items"
  | noFirstPath => ": first item has no module path to inherit from"
  | item position p => s!" item {position}: {p.message}"
  | invalidEntry position shown => s!" path {position}: expected [kind, name], got {shown.quoted}"
  | entryCode position p => s!" path {position}: {p.message}"
  | parentOutOfRange position name parent paths =>
    Text.ofString s!" item {position} (" ++ name ++
      Text.ofString s!"): parent index {parent} out of range for {paths} paths"
  | invalid report => ": " ++ render report

/-- A problem, and the generation whose layout the crate was read in. -/
structure CrateError where
  generation : Generation
  problem : CrateProblem

namespace CrateError

def item (g : Generation) (position : Nat) (p : ItemProblem) : CrateError := ⟨g, .item position p⟩

def invalid (g : Generation) (report : Schema.Report) : CrateError := ⟨g, .invalid report⟩

end CrateError

/-- The picture that the message of a problem shows, if it shows one. -/
def ItemProblem.shown? : ItemProblem → Option Tree
  | notARow shown | invalidName shown | invalidPath shown | invalidDescription shown
  | invalidParent shown | invalidCode (.notInteger shown) => some shown
  | invalidCode (.unknown _) | invalidLetter _ => none

def CrateProblem.shown? : CrateProblem → Option Tree
  | item _ p => p.shown?
  | invalidPathEntry shown | invalidEntry _ shown | entryCode _ (.notInteger shown) => some shown
  | _ => none

/-- Whether the message of a problem cannot be written. -/
def CrateProblem.isTooDeepToShow (p : CrateProblem) : Bool := p.shown?.any (·.isTooDeep)

inductive Cause
  | notUtf8 (d : Utf8.Defect)
  | unknownGeneration (name : String)
  | literal (p : Literal.Problem)
  | noSearchIndex
  | emptySearchIndex
  | noJson
  | unterminatedJson
  | invalidJson (p : Json.Problem) (line column : Nat)
  | jsonTooDeep
  | notCrates
  | noCrates
  | crate (name : Text) (p : CrateProblem)

def Cause.message (render : Schema.Report → String) : Cause → Text
  | notUtf8 d => "payload is not valid UTF-8: " ++ d.message
  | unknownGeneration name => "unknown index version " ++ quote name
  | literal p => p.message
  | noSearchIndex => "payload declares no searchIndex object"
  | emptySearchIndex => "searchIndex holds no crates"
  | noJson => "missing JSON.parse(...) payload"
  | unterminatedJson => "unterminated JSON.parse string"
  | invalidJson p line column =>
    s!"invalid JSON in search index: {p.message} (line {line}, column {column})"
  | jsonTooDeep => "JSON document nested too deep"
  | notCrates => "index document is neither a crate mapping nor a list of crate pairs"
  | noCrates => "search index holds no crates"
  | crate name p => Text.ofString ("crate " ++ name.quoted) ++ p.message render

/-- A payload that is refused: why, at which byte, and as which generation. -/
structure Refusal where
  generation : Option Generation
  offset : Option Nat
  cause : Cause

/-- The message between its generation and its offset, as far as they are known. -/
def Refusal.message (render : Schema.Report → String) (r : Refusal) : Text :=
  let front := match r.generation with
    | some g => s!"[{g.name}] "
    | none => ""
  let back := match r.offset with
    | some n => s!" (at byte {n})"
    | none => ""
  Text.ofString front ++ r.cause.message render ++ Text.ofString back

/-- Why one decoder stopped. An integer that is too long stops decoding altogether, and so does a
problem whose message would show a value that is too deep. -/
inductive Stop
  | refused (r : Refusal)
  | integerTooLong (digits : Nat)
  | tooDeepToShow

inductive Failure
  | refused (r : Refusal)
  /-- Every generation refused, in this order. -/
  | unsupported (attempts : List (Generation × Refusal))
  | integerTooLong (digits : Nat)
  | tooDeepToShow

/-- What a stop of the only decoder that is asked comes to. -/
def Stop.failure : Stop → Failure
  | .refused r => .refused r
  | .integerTooLong digits => .integerTooLong digits
  | .tooDeepToShow => .tooDeepToShow

def tooDeepToShowMessage : String :=
  "maximum recursion depth exceeded while getting the repr of an object"

/-- The message of the attempts, without their offsets. -/
def unsupportedMessage (render : Schema.Report → String) (attempts : List (Generation × Refusal)) :
    Text :=
  let tried : List Text :=
    attempts.map fun (g, r) => Text.ofString (g.name ++ ": ") ++ r.cause.message render
  Text.ofString "the index version is not supported (" ++
    (tried.intersperse (Text.ofString "; ")).flatten ++ Text.ofString ")"

end Payload

end RustdocIndex
