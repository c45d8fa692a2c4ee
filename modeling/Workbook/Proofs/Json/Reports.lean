import Workbook.Proofs.Json.Blocks
import Workbook.Report.Json
import Workbook.Resolution.Json

/-!
Errors, reports and resolutions are read as they were written.

Each of these is a record or a choice of alternatives whose parts come back (`Json.Recovers`), so it
comes back itself, however long its lists are: as a value, and from the text that the value is
written to (`encodings_recovered`).
-/

namespace Workbook

open Json (Exact)

theorem Cycle.recovers : Json.Recovers Cycle.ofJson? Cycle.toJson where
  read_write c := by
    have names : ["involved"].Nodup := by decide
    have fields := Json.fields?_object [("involved", .ofList BlockId.toJson c.involved)] names rfl
      (.atLeast 1)
    simp only [ofJson?, toJson, fields, List.map_cons, List.map_nil,
      BlockId.recovers.list.read_write]
    rfl
  exact c := by
    have involved := BlockId.recovers.list.exact c.involved
    exact .object (by simpa using involved)

namespace Error

theorem exact_toJson (e : Error) : e.toJson.Exact := by
  cases e with
  | channelClosed => exact .text _
  | cycle c => exact Json.exact_ofVariant (Cycle.recovers.exact c)
  | locked id field =>
    have parts := And.intro (BlockId.recovers.exact id) (Field.recovers.exact field)
    exact Json.exact_ofVariant (.object (by simpa using parts))
  | command detail => exact Json.exact_ofVariant (.text detail)
  | custom detail => exact Json.exact_ofVariant (.text detail)
  | generation detail => exact Json.exact_ofVariant (.text detail)
  | io detail => exact Json.exact_ofVariant (.text detail)
  | notFound detail => exact Json.exact_ofVariant (.text detail)
  | serialization detail => exact Json.exact_ofVariant (.text detail)

theorem recovers : Json.Recovers Error.ofJson? Error.toJson where
  read_write e := by
    cases e with
    | cycle c =>
      show (Cycle.ofJson? c.toJson).map cycle = some (cycle c)
      rw [Cycle.recovers.read_write]
      rfl
    | locked id field =>
      have names : ["id", "field"].Nodup := by decide
      have fields := Json.fields?_object [("id", id.toJson), ("field", field.toJson)] names rfl
        .refused
      have read : (locked id field).toJson.variant? =
          some ("Locked", some (.object [("id", id.toJson), ("field", field.toJson)])) := rfl
      simp only [ofJson?, read, fields, List.map_cons, List.map_nil,
        BlockId.recovers.read_write, Field.recovers.read_write]
    | _ => rfl
  exact := exact_toJson

end Error

namespace Report

def keys : List String := ["computed", "skipped", "failed", "revalidated", "cycle"]

/-- The members that a report is written as. -/
def members (r : Report) : List (String × Json) :=
  [("computed", .ofList BlockId.toJson r.computed),
    ("skipped", .ofList BlockId.toJson r.skipped),
    ("failed", .ofList (fun f => .list [f.1.toJson, f.2.toJson]) r.failed),
    ("revalidated", .ofList BlockId.toJson r.revalidated),
    ("cycle", .ofOption Cycle.toJson r.cycle)]

theorem recovers : Json.Recovers Report.ofJson? Report.toJson where
  read_write r := by
    have names : keys.Nodup := by decide
    have fields : r.toJson.fields? (.atLeast 5) keys = some (r.members.map fun m => some m.2) :=
      Json.fields?_object r.members names rfl (.atLeast 5)
    have ids := BlockId.recovers.list.read_write
    have failed := (BlockId.recovers.pair Error.recovers).list.read_write r.failed
    have cycle := (Cycle.recovers.option nofun).read_write r.cycle
    rw [keys] at fields
    simp only [ofJson?, fields, members, List.map_cons, List.map_nil, ids, failed, Option.getD_some,
      cycle]
    rfl
  exact r := by
    have ids := BlockId.recovers.list.exact
    have failed := (BlockId.recovers.pair Error.recovers).list.exact r.failed
    have cycle := (Cycle.recovers.option nofun).exact r.cycle
    exact .object (by simpa using ⟨ids r.computed, ids r.skipped, failed, ids r.revalidated, cycle⟩)

end Report

theorem Available.recovers : Json.Recovers Available.ofJson? Available.toJson where
  read_write a := by
    have names : ["name", "id", "result"].Nodup := by decide
    have fields := Json.fields?_object
      [("name", .text a.name), ("id", a.id.toJson), ("result", a.content.toJson)] names rfl
      (.atLeast 3)
    have content := (Content.recovers .refused).read_write a.content
    simp only [ofJson?, toJson, fields, List.map_cons, List.map_nil, BlockId.recovers.read_write,
      content]
    rfl
  exact a := by
    have id := BlockId.recovers.exact a.id
    have content := (Content.recovers .refused).exact a.content
    exact .object (by simpa using ⟨Exact.text a.name, id, content⟩)

theorem Diagnostic.recovers : Json.Recovers Diagnostic.ofJson? Diagnostic.toJson where
  read_write
    | .unknown name => rfl
    | .itself name => rfl
    | .mutual name other => by
      have names : ["name", "other"].Nodup := by decide
      have fields := Json.fields?_object [("name", .text name), ("other", other.toJson)] names rfl
        .refused
      have read : (Diagnostic.mutual name other).toJson.variant? = some ("DirectCircularReference",
          some (.object [("name", .text name), ("other", other.toJson)])) := rfl
      simp only [ofJson?, read, fields, List.map_cons, List.map_nil, Json.text?,
        BlockId.recovers.read_write]
  exact
    | .unknown name => Json.exact_ofVariant (.text name)
    | .itself name => Json.exact_ofVariant (.text name)
    | .mutual name other => by
      have parts := And.intro (Exact.text name) (BlockId.recovers.exact other)
      exact Json.exact_ofVariant (.object (by simpa using parts))

namespace Resolution

def keys : List String :=
  ["has_references", "invalid_references", "not_ready_references", "available_references",
    "resolved_text", "diagnostics"]

/-- The members that a resolution is written as. -/
def members (r : Resolution) : List (String × Json) :=
  [("has_references", .bool r.hasReferences),
    ("invalid_references", .ofList .text r.invalid),
    ("not_ready_references", .ofList .text r.notReady),
    ("available_references", .ofList Available.toJson r.available),
    ("resolved_text", .text r.text),
    ("diagnostics", .ofList Diagnostic.toJson r.diagnostics)]

theorem recovers : Json.Recovers Resolution.ofJson? Resolution.toJson where
  read_write r := by
    have names : keys.Nodup := by decide
    have fields : r.toJson.fields? (.atLeast 6) keys = some (r.members.map fun m => some m.2) :=
      Json.fields?_object r.members names rfl (.atLeast 6)
    have texts := Json.Recovers.text.list.read_write
    have available := Available.recovers.list.read_write r.available
    have diagnostics := Diagnostic.recovers.list.read_write r.diagnostics
    rw [keys] at fields
    simp only [ofJson?, fields, members, List.map_cons, List.map_nil, texts, available, diagnostics]
    rfl
  exact r := by
    have texts := Json.Recovers.text.list.exact
    have available := Available.recovers.list.exact r.available
    have diagnostics := Diagnostic.recovers.list.exact r.diagnostics
    exact .object (by simpa using ⟨Exact.bool r.hasReferences, texts r.invalid, texts r.notReady,
      available, Exact.text r.text, diagnostics⟩)

end Resolution

/-- Every error, every report and every resolution is got back from what it is written as, be it the
value or the text of the value. -/
theorem encodings_recovered :
    (∀ e : Error, Error.ofJson? e.toJson = some e ∧
        (Json.parse? e.toJson.render).bind Error.ofJson? = some e) ∧
      (∀ r : Report, Report.ofJson? r.toJson = some r ∧
        (Json.parse? r.toJson.render).bind Report.ofJson? = some r) ∧
      ∀ r : Resolution, Resolution.ofJson? r.toJson = some r ∧
        (Json.parse? r.toJson.render).bind Resolution.ofJson? = some r := by
  refine ⟨fun e => ?_, fun r => ?_, fun r => ?_⟩
  · exact ⟨Error.recovers.read_write e, Error.recovers.bind_parse? e⟩
  · exact ⟨Report.recovers.read_write r, Report.recovers.bind_parse? r⟩
  · exact ⟨Resolution.recovers.read_write r, Resolution.recovers.bind_parse? r⟩

end Workbook
