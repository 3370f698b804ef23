import RustdocIndex.Path.Basic
import RustdocIndex.Schema.Crate

/-! Paths as JSON. Here the names are any texts. -/
namespace RustdocIndex

open Schema

namespace Segment

def check (source : Source) : Json → Checked Segment :=
  model source "PathSegment" ["name", "raw"] fun fields =>
    Segment.mk <$> required "name" nonempty fields <*> optional "raw" false boolean fields

def toJson (s : Segment) : Json := jsonObject [("name", .text s.name), ("raw", .bool s.raw)]

end Segment

namespace SimplePath

def ofSegments : List Segment → Checked SimplePath
  | first :: more => .valid ⟨first, more⟩
  | [] => .problem .tooFewElements

def check (source : Source) : Json → Checked SimplePath :=
  model source "SimplePath" ["segments"] fun fields =>
    required "segments" (fun x =>
      (nonemptyList source (Segment.check source) x).andThen ofSegments) fields

def toJson (p : SimplePath) : Json :=
  jsonObject [("segments", .array (p.segments.map Segment.toJson))]

end SimplePath

end RustdocIndex
