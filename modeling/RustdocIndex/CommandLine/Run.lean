import RustdocIndex.CommandLine.Arguments
import RustdocIndex.CommandLine.FileName
import RustdocIndex.Json.Printer
import RustdocIndex.Schema.Response
import RustdocIndex.Web.Service

/-! The command: it looks one path up, in a file or on the network, and prints its address. -/
namespace RustdocIndex.CommandLine

/-- What the command reads from. -/
structure Surroundings where
  readFile : Text → Except FileProblem Bytes
  network : Network

/-- Why the command has no address to print. -/
inductive Failure
  | lookup (e : LookupError)
  | file (e : FileError)
  /-- No file has the name that is given. -/
  | fileName (e : NameError)
  /-- An option was given, but nothing is left of its value. -/
  | noValue (f : Flag)

namespace Failure

/-- The kind and the text of a failure that the command reports. Numbers that cannot be read,
values that cannot be shown, names of no file and values that are missing are none of them: they end
the command. -/
def report? : Failure → Option (String × Text)
  | noValue _ => none
  | fileName _ => none
  | file e => some (e.problem.kind, e.message)
  | lookup (.path e) => some ("PathError", e.message)
  | lookup (.identity (.invalid r)) => some ("ValidationError", r.text)
  | lookup (.identity (.version e)) => some ("InvalidVersionFormatError", e.message)
  | lookup (.identity (.versionType _)) => none
  | lookup (.noCrate e) => some ("CrateDataMissingError", e.message)
  | lookup (.payload (.refused r)) => some ("DecodeError", r.message (·.text))
  | lookup (.payload (.unsupported attempts)) =>
    some ("UnsupportedIndexVersionError", Payload.unsupportedMessage (·.text) attempts)
  | lookup (.payload (.integerTooLong _)) | lookup (.payload .tooDeepToShow) => none
  | lookup (.web e) =>
    match e with
    | .outage .connection => some ("ClientConnectionError", e.message)
    | .outage .timeout => some ("TimeoutError", e.message)
    | .status .. | .declaredTooLarge .. | .tooLarge _ => some ("FetchError", e.message)
    | .noIndexPath _ => some ("IndexNotFoundError", e.message)
    | .invalidIndexName _ | .version _ => some ("InvalidVersionFormatError", e.message)
    | .invalidLength _ | .invalidUrl _ => none

end Failure

abbrev Command := ExceptT Failure (StateM (List String))

/-- The text of an option's value. -/
def valueOf (f : Flag) : OptionValue → Except Failure Text
  | .text s => .ok s
  | .nothing => .error (.noValue f)

/-- The text of the value of an option that may be left out. -/
def valueOf? (f : Flag) (value : Option OptionValue) : Except Failure (Option Text) :=
  value.mapM (valueOf f)

/-- The bytes of a file. -/
def readFile (s : Surroundings) (name : Text) : Except Failure Bytes :=
  let name := normalizeName name
  match nameProblem? name with
  | some p => .error (.fileName ⟨p, name⟩)
  | none => (s.readFile name).mapError fun p => .file ⟨p, name⟩

/-- Looks a path up in a payload. -/
def lookupOffline (net : Network) (path : SimplePath) (payload : Payload)
    (version : Option Text) (std : Bool) : Except LookupError (Outcome × Option Text) := do
  let hosting := if std then .stdlib else CrateIdentity.hostingOf path.crateName
  let id ← (CrateIdentity.make path.crateName version hosting).mapError .identity
  let links ← (CrateLinks.load payload id).mapError .payload
  net.lookIn links path

/-- Looks a path up on the network. -/
def lookupOnline (net : Network) (path : SimplePath) (version : Option Text) (std : Bool) :
    Lookup (Outcome × Option Text) := do
  if std && !path.isStd then
    let links ← net.stdlib
    net.lookIn links path
  else net.findLink path version

/-- Looks up what the arguments name. The standard library is fetched in one version only, so that
no other one is read from the arguments. -/
def lookup (s : Surroundings) (args : Arguments) : Command (SimplePath × Outcome × Option Text) := do
  let path ← (SimplePath.parse args.path).mapError fun e => Failure.lookup (.path e)
  match args.indexFile with
  | some name => do
    let payload ← readFile s (← valueOf .indexFile name)
    let version ← valueOf? .version args.version
    let found ← (lookupOffline s.network path (.bytes payload) version args.std).mapError
      Failure.lookup
    pure (path, found)
  | none => do
    let version ← valueOf? .version (if args.std || path.isStd then none else args.version)
    let found ← ExceptT.adapt Failure.lookup (lookupOnline s.network path version args.std)
    pure (path, found)

/-- What the command printed, and its status. -/
structure Printed where
  status : Nat
  out : Text
  err : Text

/-- How the command ends. -/
inductive Ending
  | printed (p : Printed)
  /-- A failure that the command does not report. -/
  | failed (f : Failure)
  /-- A report that would be no JSON text, and what would stand in it. -/
  | unprintable (t : Text)

def unprintableMessage (t : Text) : String :=
  "Error serializing to JSON: UnicodeEncodeError: " ++ t.unencodableMessage (·.isSurrogate)

def line (t : Text) : Text := t ++ Text.ofString "\n"

/-- The report of a failure, in JSON on the output or as a line beside it. -/
def printError (args : Arguments) (status : Nat) (kind : String) (detail : Text) : Ending :=
  if !args.json then .printed ⟨status, [], line (Text.ofString "error: " ++ detail)⟩
  else
    match [detail, args.path].find? (·.any (·.isSurrogate)) with
    | some t => .unprintable t
    | none =>
      let response : ErrorResponse := ⟨kind, some detail, some args.path⟩
      .printed ⟨status, line response.toJson.print, []⟩

/-- The target and the kind of an outcome that has an address. -/
def targetOf : Outcome → LinkTarget × Option ItemKind
  | .crateRoot _ => (.crateRoot, none)
  | .found r => (.found, some r.item.kind)
  | .notFound _ => (.found, none)

def printLink (args : Arguments) (path : SimplePath) (o : Outcome) (url : Text) : Ending :=
  if args.json then
    let response : LinkResponse := ⟨path.text, (targetOf o).1, (targetOf o).2, url⟩
    .printed ⟨0, line response.toJson.print, []⟩
  else .printed ⟨0, line url, []⟩

/-- What the command prints for a result. -/
def conclude (args : Arguments) :
    Except Failure (SimplePath × Outcome × Option Text) → Ending
  | .ok (path, o, some url) => printLink args path o url
  | .ok (_, _, none) => printError args 1 "NotFound" (Text.ofString "no item found for " ++ args.path)
  | .error f =>
    match f.report? with
    | some (kind, detail) => printError args 2 kind detail
    | none => .failed f

/-- Runs the command on parsed arguments; the addresses that it requested come with its ending. -/
def run (s : Surroundings) (args : Arguments) : Ending × List String :=
  let (result, requests) := (lookup s args).run.run []
  (conclude args result, requests)

end RustdocIndex.CommandLine
