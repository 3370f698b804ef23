import RustdocIndex.Text.Quoted
import RustdocIndex.Text.Split

/-! Names of files, and why a file cannot be read. -/
namespace RustdocIndex.CommandLine

/-- A file name without empty and `.` parts. Two slashes at the front stay two, and more become
one. -/
def normalizeName (name : Text) : Text :=
  let slash := CodePoint.ofChar '/'
  let slashes := (name.takeWhile (· == slash)).length
  let root := if slashes = 0 then [] else if slashes = 2 then [slash, slash] else [slash]
  let parts := (splitAt slash name).filter fun part => !part.isEmpty && part != [.ofChar '.']
  let normal := root ++ joinWith [slash] parts
  if normal.isEmpty then "." else normal

/-- Why no file has a name. -/
inductive NameProblem
  /-- The name holds a half of a surrogate pair that stands for no byte. -/
  | unencodable
  /-- The name holds a null character. -/
  | nullCharacter
  deriving DecidableEq

/-- A half of a surrogate pair that stands for none of the bytes that are no UTF-8. Those that do are
the 128 from `U+DC80` on. -/
def isLost (c : CodePoint) : Bool := c.isSurrogate && !(0xDC80 ≤ c.val && c.val ≤ 0xDCFF)

/-- A name is written in bytes before anything else is made of it. -/
def nameProblem? (name : Text) : Option NameProblem :=
  if name.any isLost then some .unencodable
  else if name.contains (.ofChar '\x00') then some .nullCharacter
  else none

structure NameError where
  problem : NameProblem
  name : Text

def NameError.message (e : NameError) : String :=
  match e.problem with
  | .unencodable => e.name.unencodableMessage isLost
  | .nullCharacter => "embedded null byte"

/-- Why a file is not read. -/
inductive FileProblem
  | missing
  | denied
  | notADirectory
  | directory
  | nameTooLong
  deriving DecidableEq

structure FileError where
  problem : FileProblem
  name : Text

/-- The word for the kind of a problem. -/
def FileProblem.kind : FileProblem → String
  | .missing => "FileNotFoundError"
  | .denied => "PermissionError"
  | .notADirectory => "NotADirectoryError"
  | .directory => "IsADirectoryError"
  | .nameTooLong => "OSError"

def FileError.message (e : FileError) : String :=
  let shown := e.name.quoted
  match e.problem with
  | .missing => s!"[Errno 2] No such file or directory: {shown}"
  | .denied => s!"[Errno 13] Permission denied: {shown}"
  | .notADirectory => s!"[Errno 20] Not a directory: {shown}"
  | .directory => s!"[Errno 21] Is a directory: {shown}"
  | .nameTooLong => s!"[Errno 36] File name too long: {shown}"

end RustdocIndex.CommandLine
