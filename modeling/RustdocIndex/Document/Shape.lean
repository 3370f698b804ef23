import RustdocIndex.Document.Tree

/-! Documents: values that can be looked into one level at a time. A decoder needs no more, so one
decoder serves every notation that a payload is written in. -/
namespace RustdocIndex

/-- What a value is: a scalar, or a container with its parts. -/
inductive Shape (α : Type)
  | null
  | bool (b : Bool)
  | int (n : Int)
  | float (x : Binary64)
  | text (t : Text)
  | array (xs : List α)
  | object (fields : Fields Text α)

namespace Shape

variable {α : Type}

/-- The word for a value's type in messages. -/
def typeName : Shape α → String
  | null => "NoneType"
  | bool _ => "bool"
  | int _ => "int"
  | float _ => "float"
  | text _ => "str"
  | array _ => "list"
  | object _ => "dict"

/-- Null, false, zero and what has no parts. -/
def isEmpty : Shape α → Bool
  | null => true
  | bool b => !b
  | int n => n == 0
  | float x => x.isZero
  | text t => t.isEmpty
  | array xs => xs.isEmpty
  | object fields => fields.isEmpty

def isArray : Shape α → Bool
  | array _ => true
  | _ => false

end Shape

class Document (α : Type) where
  shape : α → Shape α
  /-- The value as messages show it. -/
  picture : α → Tree

namespace Document

variable {α : Type} [Document α]

def quoted (a : α) : String := (picture a).quoted

end Document

end RustdocIndex
