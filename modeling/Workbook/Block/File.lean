import Workbook.Block.Json
import Workbook.File

/-! Files of blocks: one list of blocks, written as JSON without space. -/

namespace Workbook
namespace Block

/-- Blocks as the text of a file. -/
def fileText (blocks : List Block) : String := (Json.ofList toJson blocks).render

/-- The blocks of a text.  In a file, content too may be written as a row. -/
def ofFileText? (text : String) : Option (List Block) :=
  (Json.parse? text).bind (·.listOf? (ofJson? (.atLeast 2)))

def malformedFile : Error := .serialization "JSON (de)serialization error"

/-- The blocks of a file.  A file that is not there has none. -/
def loadFile (f : File) : Except Error (List Block) :=
  match f.read with
  | .error e => .error e
  | .ok none => .ok []
  | .ok (some text) =>
    match ofFileText? text with
    | some blocks => .ok blocks
    | none => .error malformedFile

/-- Writes blocks to a file. -/
def saveFile (f : File) (blocks : List Block) : Except Error File := f.write (fileText blocks)

end Block
end Workbook
