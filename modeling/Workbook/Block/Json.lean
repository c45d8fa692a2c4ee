import Workbook.Block.Basic
import Workbook.Json.Fields

/-! Blocks and their parts as JSON values.  What belongs to a running session is left out. -/

namespace Workbook

namespace BlockId

def toJson (id : BlockId) : Json := .text id.text

def ofJson? (j : Json) : Option BlockId := j.text?.map BlockId.mk

end BlockId

namespace Kind

def code : Kind → String
  | .static => "Static"
  | .generativeText => "GenerativeText"
  | .generativeImage => "GenerativeImage"
  | .separator => "Break"
  | .importedImage => "ImportedImage"

def all : List Kind := [.static, .generativeText, .generativeImage, .separator, .importedImage]

def toJson (k : Kind) : Json := .text k.code

def ofJson? (j : Json) : Option Kind :=
  j.plain?.bind fun name => all.find? (·.code == name)

end Kind

namespace Access

def toJson (a : Access) : Json := .text a.label

def ofJson? (j : Json) : Option Access :=
  j.plain?.bind fun name => [Access.all, .entry, .locked].find? (·.label == name)

end Access

namespace Field

def toJson (f : Field) : Json := .text f.label

def ofJson? (j : Json) : Option Field :=
  j.plain?.bind fun name => Field.all.find? (·.label == name)

end Field

namespace Content

def toJson : Content → Json
  | .text t => .ofVariant "Text" (.text t)
  | .binary mime bytes =>
    .ofVariant "Binary" (.object [("mime", .text mime), ("bytes", .text (Hex.encode bytes))])

def bytes? (j : Json) : Option (List UInt8) := j.text?.bind fun t => (Hex.decode t).toOption

/-- Reads content; `rows` says whether mime type and bytes may also be written as a row. -/
def ofJson? (rows : Json.Rows) (j : Json) : Option Content :=
  match j.variant? with
  | some ("Text", some value) => value.text?.map .text
  | some ("Binary", some value) =>
    match value.fields? rows ["mime", "bytes"] with
    | some [some mime, some bytes] =>
      match mime.text?, bytes? bytes with
      | some mime, some bytes => some (.binary mime bytes)
      | _, _ => none
    | _ => none
  | _ => none

end Content

namespace Block

def fieldNames : List String :=
  ["id", "name", "kind", "data", "transform", "result", "combined_input", "applied_transform",
    "interaction_state"]

/-- A member that is left out when there is nothing to write. -/
def optionalMember (name : String) : Option Json → List (String × Json)
  | none => []
  | some j => [(name, j)]

def toJson (b : Block) : Json :=
  .object
    ([("id", b.id.toJson), ("name", .text b.name), ("kind", b.kind.toJson),
        ("data", .text b.data)] ++
      optionalMember "transform" (b.transform.map .text) ++
      optionalMember "result" (b.content.map Content.toJson) ++
      optionalMember "combined_input" (b.input.map .text) ++
      optionalMember "applied_transform" (b.applied.map .text) ++
      [("interaction_state", b.access.toJson)])

/-- A field with a value to fall back on. -/
def orDefault {α : Type} (default : α) (read : Json → Option α) : Option Json → Option α
  | none => some default
  | some j => read j

/-- Reads a block; `rows` is for its content. -/
def ofJson? (rows : Json.Rows) (j : Json) : Option Block :=
  match j.fields? (.atLeast 3) fieldNames with
  | some [some id, some name, some kind, data, transform, content, input, applied, access] => do
    let id ← BlockId.ofJson? id
    let name ← name.text?
    let kind ← Kind.ofJson? kind
    let data ← orDefault "" Json.text? data
    let transform ← orDefault none (Json.nullOr? Json.text?) transform
    let content ← orDefault none (Json.nullOr? (Content.ofJson? rows)) content
    let input ← orDefault none (Json.nullOr? Json.text?) input
    let applied ← orDefault none (Json.nullOr? Json.text?) applied
    let access ← orDefault Access.all Access.ofJson? access
    return { id, name, kind, data, transform, content, input, applied, access }
  | _ => none

end Block
end Workbook
