import Workbook.Session.Edit

/-!
Commands: every operation of a session as a value, with its outcome.
-/

namespace Workbook

inductive Command where
  | load
  | create (kind : Kind) (name data : String) (transform : Option String)
  | importImage (name mime : String) (bytes : List UInt8)
  | editData (id : BlockId) (data : String)
  | editTransform (id : BlockId) (transform : String)
  | rename (id : BlockId) (name : String)
  | setAccess (id : BlockId) (access : Access)
  | delete (id : BlockId)
  | duplicate (id : BlockId)
  | move (id : BlockId) (index : Nat)
  | requestUpdate (id : BlockId) (immediate : Bool)
  /-- Run all parked requests. -/
  | flushDeferred
  | resolve (id : BlockId)
  | getBlocks
  | getEdges
deriving DecidableEq, Repr

namespace Command

/-- The command without the texts that it carries. -/
def label : Command → String
  | .load => "Load"
  | .create kind name _ _ => "Create(" ++ kind.label ++ ": " ++ name ++ ")"
  | .importImage name mime bytes =>
    "ImportImage(" ++ name ++ ": " ++ mime ++ ", " ++ toString bytes.length ++ " bytes)"
  | .editData id _ => "EditData(" ++ id.text ++ ")"
  | .editTransform id _ => "EditTransform(" ++ id.text ++ ")"
  | .rename id name => "Rename(" ++ id.text ++ " -> " ++ name ++ ")"
  | .setAccess id access => "SetInteractionState(" ++ id.text ++ ": " ++ access.label ++ ")"
  | .delete id => "Delete(" ++ id.text ++ ")"
  | .duplicate id => "Duplicate(" ++ id.text ++ ")"
  | .move id index => "Move(" ++ id.text ++ " -> " ++ toString index ++ ")"
  | .requestUpdate id immediate =>
    "RequestUpdate(" ++ id.text ++ ", immediate: " ++ toString immediate ++ ")"
  | .flushDeferred => "FlushDeferred"
  | .resolve id => "Resolve(" ++ id.text ++ ")"
  | .getBlocks => "GetBlocks"
  | .getEdges => "GetEdges"

end Command

inductive Outcome where
  | ok
  | created (id : BlockId)
  | renamed (name : String)
  | report (report : Report)
  /-- The request was parked. -/
  | deferred
  | resolution (resolution : Resolution)
  | blocks (blocks : List Block)
  | edges (edges : List (BlockId × BlockId))
deriving DecidableEq, Repr

namespace Outcome

def label : Outcome → String
  | .ok => "Ok"
  | .created id => "Created(" ++ id.text ++ ")"
  | .renamed name => "Renamed(" ++ name ++ ")"
  | .report r =>
    "Report(computed: " ++ toString r.computed.length ++
      ", skipped: " ++ toString r.skipped.length ++
      ", failed: " ++ toString r.failed.length ++
      ", revalidated: " ++ toString r.revalidated.length ++
      (if r.cycle.isSome then ", cycle)" else ")")
  | .deferred => "Deferred"
  | .resolution r =>
    "Resolution(available: " ++ toString r.available.length ++
      ", not ready: " ++ toString r.notReady.length ++
      ", invalid: " ++ toString r.invalid.length ++ ")"
  | .blocks bs => "Blocks(" ++ toString bs.length ++ ")"
  | .edges es => "Edges(" ++ toString es.length ++ ")"

/-- The outcome of a request that may have been parked. -/
def ofUpdate : Option Report → Outcome
  | some r => .report r
  | none => .deferred

end Outcome

namespace Session

/-- Carries a command out. -/
def execute (backend : Backend) (s : Session) : Command → Except Error Outcome × Session
  | .load => (s.load backend).map (·.map .report) id
  | .create kind name data transform =>
    (s.create backend kind name data transform).map (·.map .created) id
  | .importImage name mime bytes => (s.importImage backend name mime bytes).map (·.map .created) id
  | .editData block data => (s.editData backend block data).map (·.map .ofUpdate) id
  | .editTransform block transform =>
    (s.editTransform backend block transform).map (·.map .ofUpdate) id
  | .rename block name => (s.rename backend block name).map (·.map .renamed) id
  | .setAccess block access => (s.setAccess block access).map (·.map fun _ => .ok) id
  | .delete block => (s.delete block).map (·.map .report) id
  | .duplicate block => (s.duplicate backend block).map (·.map .created) id
  | .move block index => (s.move block index).map (·.map fun _ => .ok) id
  | .requestUpdate block immediate =>
    (s.requestUpdate backend block immediate).map (·.map .ofUpdate) id
  | .flushDeferred =>
    (s.runDeferred backend).map (fun | some r => .ok (.report r) | none => .ok .ok) id
  | .resolve block => (s.resolve block).map (·.map .resolution) id
  | .getBlocks => (.ok (.blocks s.store.blocks), s)
  | .getEdges => (.ok (.edges s.displayEdges), s)

end Session
end Workbook
