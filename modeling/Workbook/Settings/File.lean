import Workbook.File
import Workbook.Settings.Json
import Workbook.Toml.Document

/-! Files of settings: one line for each setting, its key and its value. -/

namespace Workbook
namespace Settings

/-- The settings as the text of a file, unless a value is too large for the format. -/
def fileText? (s : Settings) : Option String :=
  if s.rows.all fun row => decide (row.2 < Toml.intLimit) then
    some (String.join (s.rows.map fun row => row.1 ++ " = " ++ toString row.2 ++ "\n"))
  else none

/-- The value of a setting among the members of a document. -/
def field? (members : List (String × Toml)) (key : String) : Option (Option Nat) :=
  match members.lookup key with
  | none => some none
  | some (.int n) => if 0 ≤ n then some (some n.toNat) else none
  | some _ => none

/-- The settings of a text.  Other keys are passed over. -/
def ofFileText? (text : String) : Option Settings := do
  let members ← Toml.parse? text
  ofValues? (← keys.mapM (field? members))

def malformedFile : Error := .serialization "Toml deserialization error"

def unwritable : Error := .serialization "Toml serialization error"

/-- The settings of a file.  Without a file they are the usual ones. -/
def loadFile (f : File) : Except Error Settings :=
  match f.read with
  | .error e => .error e
  | .ok none => .ok {}
  | .ok (some text) =>
    match ofFileText? text with
    | some s => .ok s
    | none => .error malformedFile

/-- Writes settings to the file.  Their text is made before anything is written. -/
def save (s : Settings) : ExceptT Error (StateM File) Unit := do
  match s.fileText? with
  | none => throw unwritable
  | some text =>
    match (← get).write text with
    | .ok after => set after
    | .error e => throw e

/-- The file after settings were written to it. -/
def saveFile (f : File) (s : Settings) : Except Error File :=
  match s.save.run f with
  | (.ok (), after) => .ok after
  | (.error e, _) => .error e

end Settings
end Workbook
