import Workbook.Error.Json
import Workbook.Report

/-! Reports as JSON values. -/

namespace Workbook
namespace Report

def toJson (r : Report) : Json :=
  .object
    [("computed", .ofList BlockId.toJson r.computed),
      ("skipped", .ofList BlockId.toJson r.skipped),
      ("failed", .ofList (fun f => .list [f.1.toJson, f.2.toJson]) r.failed),
      ("revalidated", .ofList BlockId.toJson r.revalidated),
      ("cycle", .ofOption Cycle.toJson r.cycle)]

/-- Reads a report.  A missing cycle means that there was none. -/
def ofJson? (j : Json) : Option Report :=
  match j.fields? (.atLeast 5) ["computed", "skipped", "failed", "revalidated", "cycle"] with
  | some [some computed, some skipped, some failed, some revalidated, cycle] => do
    let computed ← computed.listOf? BlockId.ofJson?
    let skipped ← skipped.listOf? BlockId.ofJson?
    let failed ← failed.listOf? (Json.pairOf? BlockId.ofJson? Error.ofJson?)
    let revalidated ← revalidated.listOf? BlockId.ofJson?
    let cycle ← (cycle.getD .null).nullOr? Cycle.ofJson?
    return { computed, skipped, failed, revalidated, cycle }
  | _ => none

end Report
end Workbook
