import RustdocIndex.CommandLine.Run

/-! The program: it reads the environment, the arguments and the index file, and prints what the
command answers. It opens no connection, so that every request meets an outage. -/
namespace RustdocIndex.CommandLine

def usage : String :=
  "usage: docsrs-links [-h] [--version VERSION] [--index-file INDEX_FILE] [--std] [--json] [-v] path"

def help : String := "\n".intercalate [
  usage, "",
  "Resolve Rust item paths like anyhow::Context::with_context to their documentation URLs", "",
  "positional arguments:",
  "  path                  Simple path of a crate or item", "",
  "options:",
  "  -h, --help            show this help message and exit",
  "  --version VERSION     Crate version, a semantic version or 'latest' (default: latest)",
  "  --index-file INDEX_FILE",
  "                        Read a downloaded search-index*.js file instead of fetching it",
  "  --std                 Treat the crate as part of the standard library (doc.rust-lang.org)",
  "  --json                Print the result as JSON",
  "  -v, --verbose         Enable debug logging on stderr"]

/-- A file in the way of a directory is noticed when the name is opened, and a directory only when
it is read. -/
def problemOf : IO.Error → FileProblem
  | .noFileOrDirectory .. => .missing
  | .permissionDenied .. => .denied
  | .inappropriateType (some _) _ _ => .notADirectory
  | .inappropriateType none _ _ => .directory
  | .invalidArgument .. => .nameTooLong
  | _ => .missing

def readBytes (name : String) : IO (Except FileProblem Bytes) := do
  try
    let content ← IO.FS.readBinFile name
    pure (.ok content.toList)
  catch e => pure (.error (problemOf e))

/-- The surroundings in which `content` is what reading the index file gives. -/
def surroundings (s : Settings) (content : Except FileProblem Bytes) : Surroundings where
  readFile _ := content
  network := {
    server := fun _ _ => .error .connection
    sites := s.sites
    limits := ⟨s.maxDownloadSize, s.chunkSize.toNat, s.attempts⟩ }

/-- A text, or its quoted form if it is no string. -/
def shown (t : Text) : String := t.toString?.getD t.quoted

def report (ending : Ending) : IO UInt32 := do
  match ending with
  | .printed p => do
    IO.print (shown p.out)
    IO.eprint (shown p.err)
    pure (UInt32.ofNat p.status)
  | .failed (.fileName e) => do
    IO.eprintln e.message
    pure 1
  | .failed (.lookup (.web e)) => do
    IO.eprintln e.message
    pure 1
  | .failed (.lookup (.payload (.integerTooLong digits))) => do
    IO.eprintln (IntegerError.tooLong digits).message
    pure 1
  | .failed (.lookup (.payload .tooDeepToShow)) => do
    IO.eprintln Payload.tooDeepToShowMessage
    pure 1
  | .failed (.noValue f) => do
    IO.eprintln s!"argument {f.name}: no value is left"
    pure 1
  | .failed _ => pure 1
  | .unprintable t => do
    IO.eprintln (unprintableMessage t)
    pure 1

/-- The settings, after the warnings about them. -/
def settings : IO (Option Settings) := do
  let names := ["DOCSRS_URL", "DOCSRS_STDLIB_URL", "DOCSRS_STDLIB_CHANNEL", "DOCSRS_HTTP_TIMEOUT",
    "DOCSRS_MAX_DOWNLOAD_SIZE", "DOCSRS_DOWNLOAD_CHUNK_SIZE", "DOCSRS_HTTP_RETRY_ATTEMPTS",
    "DOCSRS_LOG_LEVEL"]
  let values ← names.mapM fun name => (IO.getEnv name : IO (Option String))
  match Settings.read fun name => ((names.zip values).lookup name).join with
  | .error e => do
    IO.eprintln e.message
    pure none
  | .ok (s, warnings) => do
    for w in warnings do
      IO.eprintln w.message
    pure (some s)

def start (args : List String) : IO UInt32 := do
  let some s ← settings | return 1
  match Arguments.parse (args.map Text.ofString) with
  | .error .help => do
    IO.println help
    pure 0
  | .error (.error e) => do
    IO.eprintln usage
    IO.eprintln ("docsrs-links: error: " ++ shown e.message)
    pure 2
  | .ok args => do
    let content ← match args.indexFile with
      | some (.text name) => readBytes (shown (normalizeName name))
      | some .nothing | none => pure (.error .missing)
    report (run (surroundings s content) args).1

end RustdocIndex.CommandLine

def main (args : List String) : IO UInt32 := RustdocIndex.CommandLine.start args
