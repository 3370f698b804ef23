import RustdocIndex.Link.Page
import RustdocIndex.Number.Reader
import RustdocIndex.Text.Uppercase

/-! Settings from the environment. -/
namespace RustdocIndex

structure Settings where
  sites : Sites
  /-- Seconds that a download may take. -/
  timeout : Binary64
  /-- Bytes that a download may have. -/
  maxDownloadSize : Int
  chunkSize : Int
  /-- How often a download is tried. -/
  attempts : Nat
  logLevel : String

inductive SettingsError
  | invalidNumber (text : String)
  | invalidInteger (e : IntegerError)

def SettingsError.message : SettingsError → String
  | invalidNumber text => "could not convert string to float: " ++ quote text
  | invalidInteger e => e.message

inductive SettingsWarning
  | unknownChannel (name : String)
  | attemptsOutOfRange (n : Int)

def SettingsWarning.message : SettingsWarning → String
  | unknownChannel name => s!"Unknown stdlib channel {quote name}, using 'nightly'"
  | attemptsOutOfRange n => s!"Retry attempts {n} out of range (1-10), using 3"

namespace Settings

/-- The version of this program. -/
def programVersion : String := "0.1.0"

def userAgent : String := "docsrs-links/" ++ programVersion

def standard : Settings where
  sites := ⟨"https://docs.rs", "https://doc.rust-lang.org", "nightly"⟩
  timeout := .ofDecimal false 300 (-1)
  maxDownloadSize := 50 * 1024 * 1024
  chunkSize := 8192
  attempts := 3
  logLevel := "WARNING"

/-- An address without the slashes at its end. -/
def address (value : Option String) (default : String) : String :=
  String.ofList (trimEndBy (· == '/') (value.getD default).toList)

def readFloat (value : Option String) (default : Binary64) : Except SettingsError Binary64 :=
  match value with
  | none => .ok default
  | some s =>
    match Binary64.read? s with
    | some x => .ok x
    | none => .error (.invalidNumber s)

def readInt (value : Option String) (default : Int) : Except SettingsError Int :=
  match value with
  | none => .ok default
  | some s => (readInteger s).mapError .invalidInteger

/-- The channel of a name; one that is unknown gives way to `nightly`. -/
def channel (name : String) : String × List SettingsWarning :=
  match Channel.ofName? name with
  | some _ => (name, [])
  | none => (standard.sites.channel, [.unknownChannel name])

/-- A number of attempts from one to ten; another one gives way to three. -/
def attemptsOf (n : Int) : Nat × List SettingsWarning :=
  if 1 ≤ n ∧ n ≤ 10 then (n.toNat, []) else (standard.attempts, [.attemptsOutOfRange n])

/-- The settings of an environment. -/
def read (env : String → Option String) : Except SettingsError (Settings × List SettingsWarning) := do
  let registry := address (env "DOCSRS_URL") standard.sites.registry
  let stdlib := address (env "DOCSRS_STDLIB_URL") standard.sites.stdlib
  let (channel, unknown) := channel ((env "DOCSRS_STDLIB_CHANNEL").getD standard.sites.channel)
  let timeout ← readFloat (env "DOCSRS_HTTP_TIMEOUT") standard.timeout
  let maxDownloadSize ← readInt (env "DOCSRS_MAX_DOWNLOAD_SIZE") standard.maxDownloadSize
  let chunkSize ← readInt (env "DOCSRS_DOWNLOAD_CHUNK_SIZE") standard.chunkSize
  let (attempts, outOfRange) :=
    attemptsOf (← readInt (env "DOCSRS_HTTP_RETRY_ATTEMPTS") standard.attempts)
  let level := (env "DOCSRS_LOG_LEVEL").getD standard.logLevel
  pure (⟨⟨registry, stdlib, channel⟩, timeout, maxDownloadSize, chunkSize, attempts,
    String.ofList (upperCase level.toList)⟩, unknown ++ outOfRange)

end Settings

end RustdocIndex
