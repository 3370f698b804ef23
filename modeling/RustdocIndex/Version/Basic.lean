import RustdocIndex.Text.Blank
import RustdocIndex.Version.Semantic

/-! Versions that documentation is published under. -/
namespace RustdocIndex

/-- The release channels of the standard library. -/
inductive Channel
  | stable
  | beta
  | nightly
  deriving DecidableEq

def Channel.name : Channel → String
  | .stable => "stable"
  | .beta => "beta"
  | .nightly => "nightly"

def Channel.ofName? (s : String) : Option Channel :=
  [Channel.stable, .beta, .nightly].find? (·.name == s)

inductive Version
  | latest
  | channel (c : Channel)
  | semantic (v : SemanticVersion)
  deriving DecidableEq

/-- A text that is no version. -/
structure VersionError where
  text : Text

def VersionError.message (e : VersionError) : String :=
  "version must be 'latest' or a semantic version, got " ++ e.text.quoted

namespace Version

def text : Version → String
  | latest => "latest"
  | channel c => c.name
  | semantic v => String.ofList v.chars

/-- The version of a text with white space around it. No text means the latest. -/
def parse (s : String) : Except VersionError Version :=
  let t := trimBlank s.toList
  if t.isEmpty || String.ofList t == "latest" then .ok latest
  else
    match Channel.ofName? (String.ofList t), SemanticVersion.parse? t with
    | some c, _ => .ok (channel c)
    | none, some v => .ok (semantic v)
    | none, none => .error ⟨Text.ofChars t⟩

/-- The version of a text in which halves of surrogate pairs may stand. None stands in a version. -/
def parseText (t : Text) : Except VersionError Version :=
  match t.toString? with
  | some s => parse s
  | none => .error ⟨t.trimBlank⟩

def parseOption : Option Text → Except VersionError Version
  | none => .ok latest
  | some t => parseText t

end Version

end RustdocIndex
