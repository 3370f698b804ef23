import RustdocIndex.Path.Basic
import RustdocIndex.Version.Basic

/-! What crate, in which version and on which site, documentation is linked for. -/
namespace RustdocIndex

/-- Where the documentation of a crate is published. -/
inductive Hosting
  | registry
  | stdlib
  deriving DecidableEq

def Hosting.name : Hosting → String
  | .registry => "registry"
  | .stdlib => "stdlib"

structure CrateIdentity where
  name : Text
  version : Version
  hosting : Hosting
  deriving DecidableEq

namespace CrateIdentity

def isStd (id : CrateIdentity) : Bool := id.hosting = .stdlib

/-- The channel of an identity that no channel applies to. -/
def misplacedChannel? (id : CrateIdentity) : Option Channel :=
  match id.version, id.hosting with
  | .channel c, .registry => some c
  | _, _ => none

/-- A name, and a release channel for the standard library only. -/
def Valid (id : CrateIdentity) : Prop := id.name ≠ [] ∧ id.misplacedChannel? = none

/-- Crates of the standard library are published with it. -/
def hostingOf (name : Text) : Hosting :=
  if stdlibCrates.contains name then .stdlib else .registry

end CrateIdentity

end RustdocIndex
