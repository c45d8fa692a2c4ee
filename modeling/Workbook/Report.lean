import Workbook.Error

/-! What a batch did, and the notices that a session sends while it works. -/

namespace Workbook

structure Report where
  /-- Blocks with new content, in the order in which it came. -/
  computed : List BlockId := []
  /-- Blocks left alone: nothing to compute, or nothing changed. -/
  skipped : List BlockId := []
  /-- Blocks whose generation failed; their content stays. -/
  failed : List (BlockId × Error) := []
  /-- Blocks whose references were looked at again, without computing. -/
  revalidated : List BlockId := []
  /-- The first cycle that kept blocks from being computed. -/
  cycle : Option Cycle := none
deriving DecidableEq, Repr

namespace Report

def isClean (r : Report) : Bool := r.failed.isEmpty && r.cycle.isNone

/-- Two reports as one; the first cycle stays. -/
def merge (r other : Report) : Report where
  computed := r.computed ++ other.computed
  skipped := r.skipped ++ other.skipped
  failed := r.failed ++ other.failed
  revalidated := r.revalidated ++ other.revalidated
  cycle := r.cycle.or other.cycle

end Report

inductive Event where
  /-- The graph was made anew after a change to blocks. -/
  | graphChanged
  | statusChanged (id : BlockId) (status : Status)
  | contentUpdated (id : BlockId)
  | cycleDetected (involved : List BlockId)
  | blockRemoved (id : BlockId)
  /-- So many blocks were handed to the archive. -/
  | persisted (count : Nat)
deriving DecidableEq, Repr

namespace Event

def label : Event → String
  | .graphChanged => "GraphChanged"
  | .statusChanged id status => "StatusChanged(" ++ id.text ++ ": " ++ status.label ++ ")"
  | .contentUpdated id => "ResultUpdated(" ++ id.text ++ ")"
  | .cycleDetected ids => "CycleDetected(" ++ BlockId.listed ids ++ ")"
  | .blockRemoved id => "BlockRemoved(" ++ id.text ++ ")"
  | .persisted count => "Persisted(" ++ toString count ++ ")"

/-- An event with all texts in it quoted. -/
def quoted : Event → String
  | .graphChanged => "GraphChanged"
  | .statusChanged id status =>
    "StatusChanged(" ++ quotedId id ++ ", " ++ quotedStatus status ++ ")"
  | .contentUpdated id => "ResultUpdated(" ++ quotedId id ++ ")"
  | .cycleDetected ids => "CycleDetected([" ++ ", ".intercalate (ids.map quotedId) ++ "])"
  | .blockRemoved id => "BlockRemoved(" ++ quotedId id ++ ")"
  | .persisted count => "Persisted(" ++ toString count ++ ")"
where
  quotedId (id : BlockId) : String := "BlockId(" ++ Text.quoted id.text ++ ")"
  quotedStatus : Status → String
    | .failed message => "Error(" ++ Text.quoted message ++ ")"
    | status => status.label

end Event

/-- The error of an event that nobody was there to receive. -/
def Error.undelivered (event : Event) : Error :=
  .io ("Channel update send Error, could not transmit block event " ++ event.quoted)

end Workbook
