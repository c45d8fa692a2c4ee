import Workbook.Block.Json
import Workbook.Command

/-! Commands as JSON values. -/

namespace Workbook
namespace Command

def toJson : Command → Json
  | .load => .text "Load"
  | .create kind name data transform =>
    .ofVariant "Create" (.object [("kind", kind.toJson), ("name", .text name), ("data", .text data),
      ("transform", .ofOption .text transform)])
  | .importImage name mime bytes =>
    .ofVariant "ImportImage" (.object [("name", .text name), ("mime", .text mime),
      ("bytes", .ofList (fun b => .nat b.toNat) bytes)])
  | .editData id data => .ofVariant "EditData" (.list [id.toJson, .text data])
  | .editTransform id transform => .ofVariant "EditTransform" (.list [id.toJson, .text transform])
  | .rename id name => .ofVariant "Rename" (.list [id.toJson, .text name])
  | .setAccess id access => .ofVariant "SetInteractionState" (.list [id.toJson, access.toJson])
  | .delete id => .ofVariant "Delete" id.toJson
  | .duplicate id => .ofVariant "Duplicate" id.toJson
  | .move id index => .ofVariant "Move" (.list [id.toJson, .nat index])
  | .requestUpdate id immediate => .ofVariant "RequestUpdate" (.list [id.toJson, .bool immediate])
  | .flushDeferred => .text "FlushDeferred"
  | .resolve id => .ofVariant "Resolve" id.toJson
  | .getBlocks => .text "GetBlocks"
  | .getEdges => .text "GetEdges"

/-- A block with something else. -/
def withId? {α : Type} (read : Json → Option α) (make : BlockId → α → Command) (j : Json) :
    Option Command :=
  (j.pairOf? BlockId.ofJson? read).map fun p => make p.1 p.2

def byte? (j : Json) : Option UInt8 := (j.natBelow? 256).map UInt8.ofNat

def create? (j : Json) : Option Command :=
  match j.fields? .refused ["kind", "name", "data", "transform"] with
  | some [some kind, some name, some data, transform] => do
    let kind ← Kind.ofJson? kind
    let name ← name.text?
    let data ← data.text?
    let transform ← (transform.getD .null).nullOr? Json.text?
    return .create kind name data transform
  | _ => none

def importImage? (j : Json) : Option Command :=
  match j.fields? .refused ["name", "mime", "bytes"] with
  | some [some name, some mime, some bytes] => do
    let name ← name.text?
    let mime ← mime.text?
    let bytes ← bytes.listOf? byte?
    return .importImage name mime bytes
  | _ => none

/-- A command with which nothing comes. -/
def bare? : String → Option Command
  | "Load" => some .load
  | "FlushDeferred" => some .flushDeferred
  | "GetBlocks" => some .getBlocks
  | "GetEdges" => some .getEdges
  | _ => none

def ofJson? (j : Json) : Option Command :=
  match j.variant? with
  | some (name, none) => bare? name
  | some (name, some .null) => bare? name
  | some (name, some value) =>
    match name with
    | "Create" => create? value
    | "ImportImage" => importImage? value
    | "EditData" => withId? Json.text? .editData value
    | "EditTransform" => withId? Json.text? .editTransform value
    | "Rename" => withId? Json.text? .rename value
    | "SetInteractionState" => withId? Access.ofJson? .setAccess value
    | "Delete" => (BlockId.ofJson? value).map .delete
    | "Duplicate" => (BlockId.ofJson? value).map .duplicate
    | "Move" => withId? Json.nat? .move value
    | "RequestUpdate" => withId? Json.bool? .requestUpdate value
    | "Resolve" => (BlockId.ofJson? value).map .resolve
    | _ => none
  | none => none

end Command
end Workbook
