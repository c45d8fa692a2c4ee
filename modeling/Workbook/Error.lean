import Workbook.Block.Basic
import Workbook.Text.Quoted

/-!
What can go wrong, and how it is said.

An error is of one of nine sorts.  Collaborators may report any of them with any wording; the errors
that the workbook itself raises are named below, one definition for each cause.
-/

namespace Workbook

/-- Blocks that depend on each other in a circle, in ascending order. -/
structure Cycle where
  involved : List BlockId
deriving DecidableEq, Repr

namespace Cycle

def message (c : Cycle) : String :=
  "Dependency cycle detected between blocks [" ++ BlockId.listed c.involved ++ "]"

end Cycle

inductive Error where
  | channelClosed
  | command (detail : String)
  | custom (detail : String)
  | cycle (cycle : Cycle)
  | generation (detail : String)
  | io (detail : String)
  | locked (id : BlockId) (field : Field)
  | notFound (detail : String)
  | serialization (detail : String)
deriving DecidableEq, Repr

namespace Error

def message : Error → String
  | .channelClosed => "Block service channel closed"
  | .command detail => "Invalid Command: " ++ detail
  | .custom detail => "Custom error: " ++ detail
  | .cycle c => c.message
  | .generation detail => "Generation failed: " ++ detail
  | .io detail => "File System error: " ++ detail
  | .locked id field => "Block " ++ id.text ++ " does not allow editing its " ++ field.label
  | .notFound detail => "Item Not Found: " ++ detail
  | .serialization detail => "(De)Serialization error: " ++ detail

/-- Only the loss of the worker ends a session. -/
def isRecoverable : Error → Bool
  | .channelClosed => false
  | _ => true

/-! ## Causes -/

def unknownBlock (id : BlockId) : Error := .notFound ("block " ++ id.text)

def duplicateId (id : BlockId) : Error := .command ("Duplicate block id '" ++ id.text ++ "'")

def tooManyBlocks (count limit : Nat) : Error :=
  .command (toString count ++ " blocks exceed the configured maximum of " ++ toString limit)

def blockLimit (limit : Nat) : Error :=
  .command ("Block limit of " ++ toString limit ++ " reached")

def idsExhausted (attempts : Nat) : Error :=
  .custom ("Could not generate a unique block id after " ++ toString attempts ++ " attempts")

def noTransform (kind : Kind) (id : BlockId) : Error :=
  .command (kind.label ++ " block " ++ id.text ++ " has no transform")

def noImage (kind : Kind) (id : BlockId) : Error :=
  .command (kind.label ++ " block " ++ id.text ++ " holds no image")

def badHex : Hex.Fault → Error
  | .oddLength => .serialization "Hex decoding failed: Odd number of digits"
  | .badDigit byte place => .serialization
      ("Hex decoding failed: Invalid character " ++ Text.quotedChar (Char.ofNat byte.toNat) ++
        " at position " ++ toString place)

/-- The text of a writer that gave up. -/
def formatting : Error := .custom "an error occurred when formatting an argument"

end Error
end Workbook
