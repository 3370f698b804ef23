import RustdocIndex.Literal.Program
import RustdocIndex.Payload.Columns
import RustdocIndex.Payload.Embedded
import RustdocIndex.Payload.Rows

/-! Decoding of payloads. The end of a payload tells which generation to try first, and no more. -/
namespace RustdocIndex

/-- A payload as it was read. Its text has characters only, which is what bytes are decoded to: a
half of a surrogate pair, which has no place in UTF-8 and no size there to count offsets with, gets in
only by an escape that is read later. -/
inductive Payload
  | text (s : List Char)
  | bytes (b : Bytes)

namespace Payload

variable {α : Type}

/-- A problem with a crate is a refusal, if its message can be written. -/
def crateStop (name : Text) (e : CrateError) : Stop :=
  if e.problem.isTooDeepToShow then .tooDeepToShow
  else .refused ⟨some e.generation, none, .crate name e.problem⟩

/-- The crates of drafts that a generation makes one after the other. -/
def buildAll (g : Generation) (draft : Text → α → Except CrateError Draft)
    (version : Option Text) (entries : List (Text × α)) : Except Stop (List Crate) :=
  entries.mapM fun (name, data) =>
    ((draft name data).bind (·.build g version)).mapError (crateStop name)

/-- The name and the data of a crate, from a pair. -/
def crateEntry? [Document α] (x : α) : Option (Text × α) :=
  match Document.shape x with
  | .array [name, data] =>
    match Document.shape name with
    | .text t => some (t, data)
    | _ => none
  | _ => none

/-- The crates of a document of generation `g`, by name in an object or in a list of pairs. There is at
least one. -/
def crateEntries [Document α] (g : Generation) (x : α) : Except Stop (List (Text × α)) :=
  let found := match Document.shape x with
    | .object fields => some fields
    | .array xs => xs.mapM crateEntry?
    | _ => none
  match found with
  | none => .error (.refused ⟨some g, none, .notCrates⟩)
  | some [] => .error (.refused ⟨some g, none, .noCrates⟩)
  | some entries => .ok entries

/-- A literal program is of the oldest generation. A problem in front of `rest` is at as many bytes as
the text has before. -/
def programRefusal (s : List Char) (p : Literal.Problem) (rest : List Char) : Refusal :=
  ⟨some .v1, some (Utf8.size s - Utf8.size rest), .literal p⟩

/-- A literal program gives its crates as the object `searchIndex`. -/
def programEntries (s : List Char) : Except Stop (List (Text × Literal.Node)) :=
  match Literal.evaluate s with
  | .error (.problem p rest) => .error (.refused (programRefusal s p rest))
  | .error (.integerTooLong digits) => .error (.integerTooLong digits)
  | .ok st =>
    match (st.get? "searchIndex").map Document.shape with
    | some (.object []) => .error (.refused ⟨some .v1, none, .emptySearchIndex⟩)
    | some (.object entries) => .ok entries
    | _ => .error (.refused ⟨some .v1, none, .noSearchIndex⟩)

/-- A crate in rows inside a JSON document, where it could also be in columns. -/
def jsonRowDraft (name : Text) (data : Json) : Except CrateError Draft :=
  if inRows data then rowDraft .v2 name data else .error ⟨.v2, .notInRows⟩

/-- The crates of a text in the layout of one generation. -/
def crates (g : Generation) (version : Option Text) (s : List Char) :
    Except Stop (List Crate) :=
  match g with
  | .v1 => do buildAll .v1 (rowDraft .v1) version (← programEntries s)
  | .v2 => do buildAll .v2 jsonRowDraft version (← crateEntries .v2 (← document .v2 s))
  | .v3 => do buildAll .v3 columnDraft version (← crateEntries .v3 (← document .v3 s))

/-- What texts of a generation end with. -/
def footers : List (String × Generation) := [
  ("initSearch(searchIndex);addSearchOptions(searchIndex);", .v1),
  ("addSearchOptions(searchIndex);initSearch(searchIndex);", .v2),
  ("window.initSearch(searchIndex)", .v3),
  ("exports.searchIndex = searchIndex", .v3)]

/-- The generation of the first footer that stands in the last 512 characters. -/
def detect (s : List Char) : Option Generation :=
  let tail := s.drop (s.length - 512)
  (footers.find? fun (footer, _) => occursIn footer.toList tail).map (·.2)

/-- The detected generation comes first, and the others follow from the newest on. -/
def order (detected : Option Generation) : List Generation :=
  let newestFirst := [Generation.v3, .v2, .v1]
  match detected with
  | none => newestFirst
  | some g => g :: newestFirst.filter (· != g)

/-- The crates from the first generation that does not refuse the text. -/
def firstOf (version : Option Text) (s : List Char) (attempts : List (Generation × Refusal)) :
    List Generation → Except Failure (List Crate)
  | [] => .error (.unsupported attempts)
  | g :: more =>
    match crates g version s with
    | .ok found => .ok found
    | .error (.refused r) => firstOf version s (attempts ++ [(g, r)]) more
    | .error (.integerTooLong digits) => .error (.integerTooLong digits)
    | .error .tooDeepToShow => .error .tooDeepToShow

/-- The crates of a text, in their order. With a hint, only the generation of that name is tried. -/
def decodeText (hint : Option String) (version : Option Text) (s : List Char) :
    Except Failure (List Crate) :=
  match hint with
  | none => firstOf version s [] (order (detect s))
  | some name =>
    match Generation.ofName? name with
    | none => .error (.refused ⟨none, none, .unknownGeneration name⟩)
    | some g => (crates g version s).mapError Stop.failure

/-- The characters of a payload. -/
def chars : Payload → Except Failure (List Char)
  | .text s => .ok s
  | .bytes b => (Utf8.decode b).mapError fun (d, offset) =>
    .refused ⟨none, some offset, .notUtf8 d⟩

/-- The crates of a payload. -/
def decode (hint : Option String) (version : Option Text) (p : Payload) :
    Except Failure (List Crate) := do
  decodeText hint version (← p.chars)

/-- Why no single crate is picked. -/
inductive PickProblem
  | notOne (count : Nat)
  | noCrate (name : Text)

def PickProblem.message : PickProblem → String
  | notOne count => s!"payload holds {count} crates, pass the crate name to pick one"
  | noCrate name => s!"crate {name.quoted} not found in the search index"

/-- The index of the crate of a name, or of the only crate. -/
def pickIndex (name : Option Text) (found : List Crate) : Except PickProblem Index :=
  match name with
  | none =>
    match found with
    | [c] => .ok c.index
    | _ => .error (.notOne found.length)
  | some name =>
    match found.find? (·.name == name) with
    | some c => .ok c.index
    | none => .error (.noCrate name)

end Payload

end RustdocIndex
