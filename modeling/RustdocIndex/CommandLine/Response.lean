import RustdocIndex.Crate.Kind

/-! What the command answers in JSON. -/
namespace RustdocIndex

/-- What a link leads to. -/
inductive LinkTarget
  | crateRoot
  | found
  deriving DecidableEq

def LinkTarget.name : LinkTarget → String
  | .crateRoot => "crate_root"
  | .found => "found"

def LinkTarget.ofName? (s : String) : Option LinkTarget :=
  [LinkTarget.crateRoot, .found].find? (·.name == s)

structure LinkResponse where
  path : Text
  target : LinkTarget
  kind : Option ItemKind
  url : Text
  deriving DecidableEq

structure ErrorResponse where
  error : Text
  detail : Option Text
  path : Option Text
  deriving DecidableEq

end RustdocIndex
