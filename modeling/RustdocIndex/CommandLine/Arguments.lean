import RustdocIndex.Text.Numeral
import RustdocIndex.Text.Split

/-! The arguments of the command. Long options may be shortened as long as they stay unique, and
short ones may be joined to one word. Bytes of an argument that are no UTF-8 come as halves of
surrogate pairs, so arguments are texts. -/
namespace RustdocIndex.CommandLine

inductive Flag
  | help
  | version
  | indexFile
  | std
  | json
  | verbose
  deriving DecidableEq

/-- How an option is written, in the order in which options are searched. -/
def spellings : List (String × Flag) := [
  ("-h", .help), ("--help", .help), ("--version", .version), ("--index-file", .indexFile),
  ("--std", .std), ("--json", .json), ("-v", .verbose), ("--verbose", .verbose)]

namespace Flag

def ofSpelling? (s : Text) : Option Flag :=
  (spellings.find? fun (name, _) => Text.ofString name == s).map (·.2)

/-- The spellings of an option, as messages name it. -/
def name (f : Flag) : String :=
  "/".intercalate ((spellings.filter (·.2 == f)).map (·.1))

def takesValue (f : Flag) : Bool := f == version || f == indexFile

end Flag

inductive ArgumentsError
  | ambiguous (word : Text) (candidates : List String)
  | expectedValue (f : Flag)
  /-- A text attached to an option that takes none. -/
  | ignoredValue (f : Flag) (value : Text)
  | noPath
  | unrecognized (words : List Text)

def ArgumentsError.message : ArgumentsError → Text
  | .ambiguous word candidates =>
    let names := ", ".intercalate candidates
    Text.ofString "ambiguous option: " ++ word ++ Text.ofString s!" could match {names}"
  | .expectedValue f => s!"argument {f.name}: expected one argument"
  | .ignoredValue f value => s!"argument {f.name}: ignored explicit argument {value.quoted}"
  | .noPath => "the following arguments are required: path"
  | .unrecognized words => Text.ofString "unrecognized arguments: " ++ joinWith " " words

def dash : CodePoint := .ofChar '-'

/-- Whether two dashes stand at the front. -/
def isLong (s : Text) : Bool := (after? [dash, dash] s).isSome

/-- What is attached to an option. -/
inductive Attached
  | nothing
  /-- The text after an equals sign. -/
  | value (text : Text)
  /-- The text after a short option, each of its characters being one more of them. -/
  | letters (text : Text)

/-- An equals sign attaches a value to a long option, and letters to a short one. -/
def Attached.afterEquals (spelling text : Text) : Attached :=
  if isLong spelling || text.isEmpty then .value text else .letters text

inductive Word
  | operand
  | option (f : Flag) (attached : Attached)
  | unknown

/-- Digits after a minus, perhaps with a point before the last of them; a line break may follow. -/
def isNegativeNumber (s : Text) : Bool :=
  let isDigit (c : CodePoint) : Bool := (c.toChar?.bind digitValue?).isSome
  match after? [dash] s with
  | some s =>
    let s := if s.getLast? == some (.ofChar '\n') then s.dropLast else s
    match cutAt (.ofChar '.') s with
    | (whole, none) => !whole.isEmpty && whole.all isDigit
    | (whole, some fraction) => whole.all isDigit && !fraction.isEmpty && fraction.all isDigit
  | none => false

/-- The options that a word may stand for, with what is attached to it. -/
def candidates (s : Text) : List (String × Flag × Attached) :=
  if isLong s then
    let (front, value) := cutAt (.ofChar '=') s
    let attached := match value with
      | none => .nothing
      | some value => .value value
    (spellings.filter fun (name, _) => (after? front (Text.ofString name)).isSome).map
      fun (name, f) => (name, f, attached)
  else
    match s with
    | sign :: c :: letters =>
      (spellings.filter fun (name, _) => Text.ofString name == [sign, c]).map
        fun (name, f) => (name, f, .letters letters)
    | _ => []

/-- A word that looks like an option, but stands for none. -/
def wordOfNone (s : Text) : Word :=
  if isNegativeNumber s || s.contains (.ofChar ' ') then .operand else .unknown

/-- The word of an argument in front of the separator. -/
def word (s : Text) : Except ArgumentsError Word :=
  match after? [dash] s with
  | none | some [] => .ok .operand
  | some (_ :: _) =>
    let (front, value) := cutAt (.ofChar '=') s
    match Flag.ofSpelling? s, Flag.ofSpelling? front, value with
    | some f, _, _ => .ok (.option f .nothing)
    | none, some f, some text => .ok (.option f (.afterEquals front text))
    | _, _, _ =>
      match candidates s with
      | [] => .ok (wordOfNone s)
      | [(_, f, attached)] => .ok (.option f attached)
      | several => .error (.ambiguous s (several.map (·.1)))

/-- The short options that the letters after `f` stand for. None of them takes a value. -/
def joined (f : Flag) : Text → Except ArgumentsError (List Flag)
  | [] => .ok []
  | c :: letters =>
    match Flag.ofSpelling? [dash, c] with
    | none => .error (.ignoredValue f (c :: letters))
    | some g => do pure (g :: (← joined g letters))

/-- The value of an option. -/
inductive OptionValue
  | text (s : Text)
  /-- What is left of a separator that is attached to an option. -/
  | nothing

/-- A separator is taken out of the arguments wherever it stands alone, also as a value. -/
def OptionValue.ofAttached (s : Text) : OptionValue :=
  if s = [dash, dash] then .nothing else .text s

structure Arguments where
  path : Text
  version : Option OptionValue
  indexFile : Option OptionValue
  std : Bool
  json : Bool
  verbose : Bool

/-- Arguments while they are read. -/
structure Progress where
  path : Option Text
  version : Option OptionValue
  indexFile : Option OptionValue
  std : Bool
  json : Bool
  verbose : Bool
  unrecognized : List Text
  /-- Whether the word read last was the path. -/
  atPath : Bool

/-- Why reading of arguments ends early. -/
inductive Early
  | help
  | error (e : ArgumentsError)

namespace Progress

def start : Progress := ⟨none, none, none, false, false, false, [], false⟩

/-- The first operand is the path, and there is no other one. -/
def operand (p : Progress) (arg : Text) : Progress :=
  match p.path with
  | none => { p with path := some arg, atPath := true }
  | some _ => { p with unrecognized := p.unrecognized ++ [arg], atPath := false }

def leave (p : Progress) (arg : Text) : Progress :=
  { p with unrecognized := p.unrecognized ++ [arg], atPath := false }

/-- An option that takes no value. -/
def set (p : Progress) (f : Flag) : Except Early Progress :=
  let p := { p with atPath := false }
  match f with
  | .help => .error .help
  | .std => .ok { p with std := true }
  | .json => .ok { p with json := true }
  | .verbose => .ok { p with verbose := true }
  | .version | .indexFile => .ok p

def setAll (p : Progress) : List Flag → Except Early Progress
  | [] => .ok p
  | f :: more => do (← p.set f).setAll more

/-- An option that takes a value. The last value of an option counts. -/
def setValue (p : Progress) (f : Flag) (value : OptionValue) : Progress :=
  let p := { p with atPath := false }
  match f with
  | .version => { p with version := some value }
  | .indexFile => { p with indexFile := some value }
  | .help | .std | .json | .verbose => p

/-- The words in front of the separator. -/
def words (p : Progress) : List (Text × Word) → Except Early Progress
  | [] => .ok p
  | (arg, .operand) :: more => (p.operand arg).words more
  | (arg, .unknown) :: more => (p.leave arg).words more
  | (_, .option f (.letters text)) :: more => do
    let flags ← (joined f text).mapError .error
    (← p.setAll (f :: flags)).words more
  | (_, .option f (.value text)) :: more =>
    if f.takesValue then (p.setValue f (.ofAttached text)).words more
    else .error (.error (.ignoredValue f text))
  | (_, .option f .nothing) :: more =>
    if f.takesValue then
      match more with
      | (value, .operand) :: more => (p.setValue f (.text value)).words more
      | _ => .error (.error (.expectedValue f))
    else do (← p.set f).words more

/-- The arguments behind the separator. It belongs to the path next to it, and is left over if there
is none. -/
def operands (p : Progress) (args : List Text) : Progress :=
  match p.path, args with
  | none, arg :: more => { p with path := some arg, unrecognized := p.unrecognized ++ more }
  | none, [] => p
  | some _, args =>
    let separator := if p.atPath then [] else [[dash, dash]]
    { p with unrecognized := p.unrecognized ++ separator ++ args }

def finish (p : Progress) : Except Early Arguments :=
  match p.path, p.unrecognized with
  | none, _ => .error (.error .noPath)
  | some path, [] => .ok ⟨path, p.version, p.indexFile, p.std, p.json, p.verbose⟩
  | some _, words => .error (.error (.unrecognized words))

end Progress

/-- The arguments before the first separator, and those behind it, if there is one. -/
def cutAtSeparator : List Text → List Text × Option (List Text)
  | [] => ([], none)
  | arg :: more =>
    if arg = [dash, dash] then ([], some more)
    else
      let (front, rest) := cutAtSeparator more
      (arg :: front, rest)

def Arguments.parse (args : List Text) : Except Early Arguments := do
  let (front, rest) := cutAtSeparator args
  let words ← front.mapM fun arg => (word arg).mapError .error
  let p ← Progress.start.words (front.zip words)
  match rest with
  | none => p.finish
  | some args => (p.operands args).finish

end RustdocIndex.CommandLine
