import RustdocIndex.Document.Shape

/-! The kinds of documented items. -/
namespace RustdocIndex

/-- A kind of item, in the order of the numeric codes. -/
inductive ItemKind
  | module
  | externCrate
  | reexport
  | struct
  | enum
  | function
  | typedef
  | static
  | trait
  | impl
  | requiredMethod
  | method
  | structField
  | variant
  | macroRules
  | primitive
  | associatedType
  | constant
  | associatedConstant
  | union
  | foreignType
  | keyword
  | opaqueType
  | procAttribute
  | procDerive
  | traitAlias
  deriving DecidableEq

namespace ItemKind

def all : List ItemKind := [
  module, externCrate, reexport, struct, enum, function, typedef, static, trait, impl,
  requiredMethod, method, structField, variant, macroRules, primitive, associatedType, constant,
  associatedConstant, union, foreignType, keyword, opaqueType, procAttribute, procDerive,
  traitAlias]

/-- The word that pages and anchors are named with, as in `struct.Error.html`. -/
def tag : ItemKind → String
  | module => "mod"
  | externCrate => "externcrate"
  | reexport => "import"
  | struct => "struct"
  | enum => "enum"
  | function => "fn"
  | typedef => "type"
  | static => "static"
  | trait => "trait"
  | impl => "impl"
  | requiredMethod => "tymethod"
  | method => "method"
  | structField => "structfield"
  | variant => "variant"
  | macroRules => "macro"
  | primitive => "primitive"
  | associatedType => "associatedtype"
  | constant => "constant"
  | associatedConstant => "associatedconstant"
  | union => "union"
  | foreignType => "foreigntype"
  | keyword => "keyword"
  | opaqueType => "opaque"
  | procAttribute => "attr"
  | procDerive => "derive"
  | traitAlias => "traitalias"

def code (k : ItemKind) : Nat := all.idxOf k

def tags : List String := all.map tag

def ofTag? (t : String) : Option ItemKind := all.find? (·.tag == t)

def isProcMacro (k : ItemKind) : Bool := k = procAttribute || k = procDerive

/-- Why a value is no code. -/
inductive CodeProblem
  | notInteger (shown : Tree)
  | unknown (code : Int)

def CodeProblem.message : CodeProblem → String
  | .notInteger shown => "item type must be an integer, got " ++ shown.quoted
  | .unknown code => s!"unknown item type code {code}"

def ofInt (code : Int) : Except CodeProblem ItemKind :=
  match if 0 ≤ code then all[code.toNat]? else none with
  | some k => .ok k
  | none => .error (.unknown code)

/-- The kind of a code in a document. -/
def ofCode {α : Type} [Document α] (x : α) : Except CodeProblem ItemKind :=
  match Document.shape x with
  | .int code => ofInt code
  | _ => .error (.notInteger (Document.picture x))

end ItemKind

end RustdocIndex
