import Workbook.Block.Json
import Workbook.Resolution

/-! Resolutions as JSON values. -/

namespace Workbook

namespace Available

def toJson (a : Available) : Json :=
  .object [("name", .text a.name), ("id", a.id.toJson), ("result", a.content.toJson)]

def ofJson? (j : Json) : Option Available :=
  match j.fields? (.atLeast 3) ["name", "id", "result"] with
  | some [some name, some id, some content] => do
    let name ← name.text?
    let id ← BlockId.ofJson? id
    let content ← Content.ofJson? .refused content
    return { name, id, content }
  | _ => none

end Available

namespace Diagnostic

def toJson : Diagnostic → Json
  | .unknown name => .ofVariant "UnresolvedReference" (.text name)
  | .itself name => .ofVariant "SelfReference" (.text name)
  | .mutual name other =>
    .ofVariant "DirectCircularReference" (.object [("name", .text name), ("other", other.toJson)])

def ofJson? (j : Json) : Option Diagnostic :=
  match j.variant? with
  | some ("UnresolvedReference", some value) => value.text?.map .unknown
  | some ("SelfReference", some value) => value.text?.map .itself
  | some ("DirectCircularReference", some value) =>
    match value.fields? .refused ["name", "other"] with
    | some [some name, some other] =>
      match name.text?, BlockId.ofJson? other with
      | some name, some other => some (.mutual name other)
      | _, _ => none
    | _ => none
  | _ => none

end Diagnostic

namespace Resolution

def toJson (r : Resolution) : Json :=
  .object
    [("has_references", .bool r.hasReferences),
      ("invalid_references", .ofList .text r.invalid),
      ("not_ready_references", .ofList .text r.notReady),
      ("available_references", .ofList Available.toJson r.available),
      ("resolved_text", .text r.text),
      ("diagnostics", .ofList Diagnostic.toJson r.diagnostics)]

def ofJson? (j : Json) : Option Resolution :=
  match j.fields? (.atLeast 6) ["has_references", "invalid_references", "not_ready_references",
      "available_references", "resolved_text", "diagnostics"] with
  | some [some hasReferences, some invalid, some notReady, some available, some text,
      some diagnostics] => do
    let hasReferences ← hasReferences.bool?
    let invalid ← invalid.listOf? Json.text?
    let notReady ← notReady.listOf? Json.text?
    let available ← available.listOf? Available.ofJson?
    let text ← text.text?
    let diagnostics ← diagnostics.listOf? Diagnostic.ofJson?
    return { hasReferences, invalid, notReady, available, text, diagnostics }
  | _ => none

end Resolution
end Workbook
