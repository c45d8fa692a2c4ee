import Workbook.Block.Json
import Workbook.Proofs.Json.RoundTrip

/-!
Blocks and their parts are read as they were written.

Ids, kinds, fields, access and content come back as they are.  An optional field of a block that is
not there is left out and read as missing, so a block comes back but for what belongs to a running
session (`Block.ofJson?_toJson`).
-/

namespace Workbook

open Json (Exact recordMembers)

theorem BlockId.recovers : Json.Recovers BlockId.ofJson? BlockId.toJson where
  read_write _ := rfl
  exact _ := .text _

theorem Kind.recovers : Json.Recovers Kind.ofJson? Kind.toJson where
  read_write k := by cases k <;> decide
  exact _ := .text _

theorem Access.recovers : Json.Recovers Access.ofJson? Access.toJson where
  read_write a := by cases a <;> decide
  exact _ := .text _

theorem Field.recovers : Json.Recovers Field.ofJson? Field.toJson where
  read_write f := by cases f <;> decide
  exact _ := .text _

namespace Content

theorem bytes?_encode (bytes : List UInt8) : bytes? (.text (Hex.encode bytes)) = some bytes := by
  show (Hex.decode (Hex.encode bytes)).toOption = some bytes
  rw [Hex.decode_encode]
  rfl

/-- The members of content that is not text. -/
def binaryMembers (mime : String) (bytes : List UInt8) : List (String × Json) :=
  [("mime", .text mime), ("bytes", .text (Hex.encode bytes))]

theorem exact_toJson (c : Content) : c.toJson.Exact := by
  cases c with
  | text t => exact Json.exact_ofVariant (.text t)
  | binary mime bytes => exact Json.exact_ofVariant (.object (by simp [Exact.text]))

/-- Mime type and bytes are written as members, so it does not matter whether they might also have
come as a row. -/
theorem recovers (rows : Json.Rows) : Json.Recovers (Content.ofJson? rows) Content.toJson where
  read_write
    | .text t => rfl
    | .binary mime bytes => by
      have names : ["mime", "bytes"].Nodup := by decide
      have fields := Json.fields?_object (binaryMembers mime bytes) names rfl rows
      have read : (binary mime bytes).toJson.variant? =
          some ("Binary", some (.object (binaryMembers mime bytes))) := rfl
      simp only [ofJson?, read, fields]
      simp only [binaryMembers, List.map_cons, List.map_nil, bytes?_encode]
      rfl
  exact := exact_toJson

end Content

namespace Block

/-- The fields of a block, with those that may be left out. -/
def fields (b : Block) : List (String × Option Json) :=
  [("id", some b.id.toJson), ("name", some (.text b.name)), ("kind", some b.kind.toJson),
    ("data", some (.text b.data)), ("transform", b.transform.map .text),
    ("result", b.content.map Content.toJson), ("combined_input", b.input.map .text),
    ("applied_transform", b.applied.map .text), ("interaction_state", some b.access.toJson)]

theorem toJson_eq (b : Block) : b.toJson = .object (recordMembers b.fields) := by
  obtain ⟨id, name, kind, data, transform, content, input, applied, access, -, -⟩ := b
  cases transform <;> cases content <;> cases input <;> cases applied <;> rfl

theorem exact_toJson (b : Block) : b.toJson.Exact := by
  have id := BlockId.recovers.exact b.id
  have kind := Kind.recovers.exact b.kind
  have access := Access.recovers.exact b.access
  rw [toJson_eq]
  refine Json.exact_record ?_
  simp [fields, id, kind, access, Exact.text, Content.exact_toJson]

theorem orDefault_map {α : Type} {read : Json → Option α} {write : α → Json}
    (h : Json.Recovers read write) (ne : ∀ a, write a ≠ .null) (a? : Option α) :
    orDefault none (Json.nullOr? read) (a?.map write) = some a? := by
  cases a? with
  | none => rfl
  | some a => exact h.nullOr?_write (ne a)

/-- A block is read as it was written, but for what belongs to a running session. -/
theorem ofJson?_toJson (rows : Json.Rows) (b : Block) : ofJson? rows b.toJson = some b.atRest := by
  have names : fieldNames.Nodup := by decide
  have fields : b.toJson.fields? (.atLeast 3) fieldNames = some (b.fields.map (·.2)) := by
    rw [toJson_eq]
    exact Json.fields?_record names rfl _
  have text := orDefault_map Json.Recovers.text nofun
  have content := orDefault_map (Content.recovers rows) fun c => by cases c <;> nofun
  rw [ofJson?, fields]
  simp only [Block.fields, List.map_cons, List.map_nil, BlockId.recovers.read_write,
    Kind.recovers.read_write, text, content]
  simp only [orDefault, Access.recovers.read_write]
  rfl

end Block
end Workbook
