import RustdocIndex.Link.Identity
import RustdocIndex.Schema.Crate

/-! Identities as JSON. A version is read before anything else is reported, and one that cannot be
read is a fault of its own. -/
namespace RustdocIndex

open Schema

inductive IdentityFault
  | invalid (report : Report)
  | version (e : VersionError)
  /-- The version is no text. -/
  | versionType (typeName : String)

def IdentityFault.versionTypeMessage (typeName : String) : String :=
  "'" ++ typeName ++ "' object has no attribute 'strip'"

namespace Hosting

def ofName? (s : String) : Option Hosting := [registry, stdlib].find? (·.name == s)

def check : Json → Checked Hosting := oneOf (.notTag [registry.name, stdlib.name]) ofName?

def toJson (h : Hosting) : Json := .text h.name

end Hosting

namespace CrateIdentity

/-- A release channel stands only with the standard library. -/
def ensure (id : CrateIdentity) : Checked CrateIdentity :=
  match id.misplacedChannel? with
  | none => .valid id
  | some c =>
    .problem (.invalid s!"release channel {quote c.name} only applies to standard library crates")

def report (id : Checked CrateIdentity) : Except IdentityFault CrateIdentity :=
  (id.toExcept "CrateIdentity").mapError .invalid

/-- The identity of a name, a version as it was asked for, and a hosting. -/
def make (name : Text) (version : Option Text) (hosting : Hosting) :
    Except IdentityFault CrateIdentity := do
  let version ← (Version.parseOption version).mapError .version
  report (((fun name => CrateIdentity.mk name version hosting) <$>
    (nonemptyText name).field "name").andThen ensure)

/-- The identity of a crate that is hosted where its name says. -/
def forCrate (name : Text) (version : Option Text) : Except IdentityFault CrateIdentity :=
  make name version (hostingOf name)

/-- The version of a field that may be left out. -/
def readVersion (fields : Fields Text Json) : Except IdentityFault Version :=
  match Fields.get? (Text.ofString "version") fields with
  | none | some .null => .ok .latest
  | some (.text t) => (Version.parseText t).mapError .version
  | some x => .error (.versionType x.shape.typeName)

def check (source : Source) (x : Json) : Except IdentityFault CrateIdentity :=
  match x with
  | .object fields => do
    let version ← readVersion fields
    report ((model source "CrateIdentity" ["name", "version", "hosting"] (fun fields =>
      (fun name hosting => CrateIdentity.mk name version hosting)
        <$> required "name" nonempty fields
        <*> optional "hosting" .registry Hosting.check fields) x).andThen ensure)
  | _ => report (.problem (.notModel source "CrateIdentity"))

def toJson (id : CrateIdentity) : Json := jsonObject [
  ("name", .text id.name), ("version", .text id.version.text), ("hosting", id.hosting.toJson)]

end CrateIdentity

end RustdocIndex
