import RustdocIndex.CommandLine.Response
import RustdocIndex.Schema.Crate

/-! Answers as JSON. -/
namespace RustdocIndex

open Schema

namespace LinkTarget

def check : Json → Checked LinkTarget :=
  oneOf (.notWord [crateRoot.name, found.name]) ofName?

end LinkTarget

namespace LinkResponse

def check (source : Source) : Json → Checked LinkResponse :=
  model source "LinkResponse" ["path", "outcome", "kind", "url"] fun fields =>
    LinkResponse.mk <$> required "path" text fields
      <*> required "outcome" LinkTarget.check fields
      <*> optional "kind" none (nullable ItemKind.check) fields
      <*> required "url" text fields

def toJson (r : LinkResponse) : Json := jsonObject [
  ("path", .text r.path), ("outcome", .text r.target.name), ("kind", nullOr ItemKind.toJson r.kind),
  ("url", .text r.url)]

end LinkResponse

namespace ErrorResponse

def check (source : Source) : Json → Checked ErrorResponse :=
  model source "ErrorResponse" ["error", "detail", "path"] fun fields =>
    ErrorResponse.mk <$> required "error" text fields
      <*> optional "detail" none (nullable text) fields
      <*> optional "path" none (nullable text) fields

def toJson (r : ErrorResponse) : Json := jsonObject [
  ("error", .text r.error), ("detail", nullOr .text r.detail), ("path", nullOr .text r.path)]

end ErrorResponse

end RustdocIndex
