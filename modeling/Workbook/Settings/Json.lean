import Workbook.Json.Fields
import Workbook.Settings

/-! Settings as JSON values. -/

namespace Workbook
namespace Settings

def keys : List String := ["throttle_delay_ms", "max_blocks", "id_length", "max_id_attempts"]

/-- The settings under their keys, in order. -/
def rows (s : Settings) : List (String × Nat) :=
  keys.zip [s.throttleDelay, s.maxBlocks, s.idLength, s.maxIdAttempts]

/-- The settings of four values; those that are missing keep what is usual. -/
def ofValues? : List (Option Nat) → Option Settings
  | [delay, blocks, length, attempts] =>
    let usual : Settings := {}
    some
      { throttleDelay := delay.getD usual.throttleDelay
        maxBlocks := blocks.getD usual.maxBlocks
        idLength := length.getD usual.idLength
        maxIdAttempts := attempts.getD usual.maxIdAttempts }
  | _ => none

def toJson (s : Settings) : Json := .object (s.rows.map fun row => (row.1, .nat row.2))

/-- A value that may be missing, but if it is there has to be a number. -/
def number? : Option Json → Option (Option Nat)
  | none => some none
  | some j => j.nat?.map some

def ofJson? (j : Json) : Option Settings := do
  let fields ← j.fields? (.atLeast 0) keys
  ofValues? (← fields.mapM number?)

end Settings
end Workbook
