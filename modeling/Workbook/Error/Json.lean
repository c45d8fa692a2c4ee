import Workbook.Block.Json
import Workbook.Error

/-! Errors and cycles as JSON values. -/

namespace Workbook

namespace Cycle

def toJson (c : Cycle) : Json := .object [("involved", .ofList BlockId.toJson c.involved)]

def ofJson? (j : Json) : Option Cycle :=
  match j.fields? (.atLeast 1) ["involved"] with
  | some [some involved] => (involved.listOf? BlockId.ofJson?).map Cycle.mk
  | _ => none

end Cycle

namespace Error

/-- The name of the sort of an error. -/
def code : Error → String
  | .channelClosed => "ChannelClosed"
  | .command _ => "Command"
  | .custom _ => "Custom"
  | .cycle _ => "Cycle"
  | .generation _ => "Generation"
  | .io _ => "Io"
  | .locked .. => "Locked"
  | .notFound _ => "NotFound"
  | .serialization _ => "Serialization"

def toJson : Error → Json
  | .channelClosed => .text "ChannelClosed"
  | .command detail => .ofVariant "Command" (.text detail)
  | .custom detail => .ofVariant "Custom" (.text detail)
  | .cycle c => .ofVariant "Cycle" c.toJson
  | .generation detail => .ofVariant "Generation" (.text detail)
  | .io detail => .ofVariant "Io" (.text detail)
  | .locked id field =>
    .ofVariant "Locked" (.object [("id", id.toJson), ("field", field.toJson)])
  | .notFound detail => .ofVariant "NotFound" (.text detail)
  | .serialization detail => .ofVariant "Serialization" (.text detail)

def ofJson? (j : Json) : Option Error :=
  match j.variant? with
  | some ("ChannelClosed", none) => some .channelClosed
  | some ("ChannelClosed", some .null) => some .channelClosed
  | some ("Command", some value) => value.text?.map .command
  | some ("Custom", some value) => value.text?.map .custom
  | some ("Cycle", some value) => (Cycle.ofJson? value).map .cycle
  | some ("Generation", some value) => value.text?.map .generation
  | some ("Io", some value) => value.text?.map .io
  | some ("Locked", some value) =>
    match value.fields? .refused ["id", "field"] with
    | some [some id, some field] =>
      match BlockId.ofJson? id, Field.ofJson? field with
      | some id, some field => some (.locked id field)
      | _, _ => none
    | _ => none
  | some ("NotFound", some value) => value.text?.map .notFound
  | some ("Serialization", some value) => value.text?.map .serialization
  | _ => none

end Error
end Workbook
