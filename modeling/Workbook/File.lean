import Workbook.Error
import Workbook.Text.Utf8

/-!
Files: what stands at a path, and what reading and writing there come to.

A file that is not there is no fault when it is read; its directory has to be there when it is
written.
-/

namespace Workbook

/-- What stands at a path. -/
inductive File where
  /-- Nothing, in a directory that is there. -/
  | absent
  /-- Nothing, nor its directory. -/
  | orphaned
  | directory
  | present (bytes : List UInt8)
deriving DecidableEq, Repr

namespace File

def isDirectory : Error := .io "IOError: is a directory"

def invalidData : Error := .io "IOError: invalid data"

def noSuchFile : Error := .notFound "No such file or directory (os error 2)"

/-- The text of a file, if there is one. -/
def read : File → Except Error (Option String)
  | .absent | .orphaned => .ok none
  | .directory => .error isDirectory
  | .present bytes =>
    match Text.ofUtf8? bytes with
    | some text => .ok (some text)
    | none => .error invalidData

/-- What stands at the path after a text was written there. -/
def write (f : File) (text : String) : Except Error File :=
  match f with
  | .orphaned => .error noSuchFile
  | .directory => .error isDirectory
  | .absent | .present _ => .ok (.present (Text.utf8 text))

/-- Whatever was there before is gone. -/
theorem write_eq_ok {f : File} (parent : f ≠ .orphaned) (file : f ≠ .directory) (text : String) :
    f.write text = .ok (.present (Text.utf8 text)) := by
  cases f with
  | orphaned => exact absurd rfl parent
  | directory => exact absurd rfl file
  | absent => rfl
  | present bytes => rfl

theorem read_written (text : String) : (present (Text.utf8 text)).read = .ok (some text) := by
  rw [read, Text.ofUtf8?_utf8]

end File
end Workbook
