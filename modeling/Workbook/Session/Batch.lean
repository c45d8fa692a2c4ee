import Workbook.Graph.Order
import Workbook.Session.Basic

/-!
Batches: computing blocks and, one after another, the blocks that depend on them.

Blocks without any dependency are asked for together and answered in any order; they form the pool.
All others go through a queue in the order of their dependencies, one request at a time, so that
each sees what the one before it came to.  A block whose content changed puts its dependents into
the queue.  Every block is taken from the queue at most once.  A dependent that was taken already
closes a circle, which is reported, except when the two refer to each other directly: then neither
sees the content of the other.

A batch goes on by steps (`Batch.step`): it takes the next block while no request of the queue is
open, and otherwise waits for an answer.
-/

namespace Workbook

structure Batch where
  session : Session
  /-- Whether blocks are computed even if nothing changed for them. -/
  force : Bool
  /-- The components of the session's graph, which a batch does not change, in the order in which
  their blocks are computed. -/
  components : List (List BlockId)
  queue : List BlockId := []
  /-- Blocks already taken from the queue. -/
  handled : List BlockId := []
  /-- Open requests for blocks without dependencies. -/
  pool : List Request := []
  /-- The open request for a block of the queue. -/
  chain : Option Request := none
  report : Report := {}

/-- What becomes of a block whose turn has come. -/
inductive Turn where
  | skipped
  | applied
  | asked (request : Request)
deriving DecidableEq, Repr

namespace Session

/-- Whether content computed from `input` and `transform` is what the block has already. -/
def isUnchanged (b : Block) (input transform : String) : Bool :=
  b.input == some input && b.applied.getD "" == transform

/-- Resolves a block and computes it, or asks for it. -/
def takeTurn (s : Session) (force : Bool) (id : BlockId) : Turn × Session :=
  match s.store.get? id with
  | none => (.skipped, s)
  | some b =>
    if !b.kind.recomputes then (.skipped, s)
    else
      let (r, s) := s.resolveBlock b
      let s := s.record (.resolved id)
      let transform := b.effectiveTransform.getD ""
      if isUnchanged b r.text transform && !force then (.skipped, s)
      else if b.kind.isGenerative then
        let request : Request :=
          { id, name := b.name, kind := b.kind, input := r.text, transform
            attachments := r.attachments }
        let s := s.modify id fun b => { b with requested := some s.now }
        (.asked request, (s.setStatus id .waiting).record (.asked request s.now))
      else
        let s := s.modify id fun b =>
          { b with content := some (.text r.text), input := some r.text, applied := none }
        (.applied, (s.setStatus id .done).emit (.contentUpdated id))

end Session

namespace Batch

def noteSkipped (b : Batch) (id : BlockId) : Batch :=
  { b with report := { b.report with skipped := b.report.skipped ++ [id] } }

def noteComputed (b : Batch) (id : BlockId) : Batch :=
  { b with report := { b.report with computed := b.report.computed ++ [id] } }

def noteFailed (b : Batch) (id : BlockId) (e : Error) : Batch :=
  { b with report := { b.report with failed := b.report.failed ++ [(id, e)] } }

/-- Reports a cycle; the first one of a batch stays in its report. -/
def noteCycle (b : Batch) (c : Cycle) : Batch :=
  { b with
    session := b.session.emit (.cycleDetected c.involved)
    report := { b.report with cycle := b.report.cycle.or (some c) } }

/-! ## The queue -/

/-- Adds a dependent of `id` to those that wait, unless it was handled.  If it was, and `id` does
not depend on it directly in turn, its component is reported. -/
def weigh (id : BlockId) : Batch × List BlockId → BlockId → Batch × List BlockId
  | (b, waiting), dependent =>
    if b.handled.contains dependent then
      if b.session.graph.hasLink dependent id then (b, waiting)
      else (b.noteCycle ⟨b.session.graph.component dependent⟩, waiting)
    else if waiting.contains dependent then (b, waiting)
    else (b, waiting ++ [dependent])

/-- Makes waiting blocks the queue, in order.  Blocks of a component that holds two of them are
reported and dropped.  Every round but the last drops some, so there are at most so many rounds as
blocks, and one. -/
def enqueue : Nat → Batch → List BlockId → Batch
  | 0, b, _ => { b with queue := [] }
  | rounds + 1, b, waiting =>
    match Graph.pick waiting b.components with
    | .ok order => { b with queue := order }
    | .error c =>
      let kept := waiting.filter fun id => !c.involved.contains id
      if kept.length = waiting.length then { b.noteCycle c with queue := [] }
      else enqueue rounds (b.noteCycle c) kept

/-- Puts the dependents of a block into the queue. -/
def schedule (b : Batch) (id : BlockId) : Batch :=
  match b.session.graph.dependents id with
  | [] => b
  | dependents =>
    let (b, waiting) := dependents.foldl (weigh id) (b, b.queue)
    enqueue (waiting.length + 1) b waiting

/-! ## Steps -/

/-- The open requests. -/
def calls (b : Batch) : List Request := b.pool ++ b.chain.toList

/-- Gives a block without dependencies its turn. -/
def takeIsolated (b : Batch) (id : BlockId) : Batch :=
  let (turn, session) := b.session.takeTurn b.force id
  let b := { b with session }
  match turn with
  | .skipped => b.noteSkipped id
  | .applied => b.noteComputed id
  | .asked request => { b with pool := b.pool ++ [request] }

/-- Gives the first block of the queue its turn. -/
def takeQueued (b : Batch) (id : BlockId) (rest : List BlockId) : Batch :=
  let (turn, session) := b.session.takeTurn b.force id
  let b := { b with session, queue := rest, handled := id :: b.handled }
  match turn with
  | .skipped => b.noteSkipped id
  | .applied => (b.schedule id).noteComputed id
  | .asked request => { b with chain := some request }

/-- Stores an answer.  The flag says whether the block has new content. -/
def store (b : Batch) (request : Request) : Except Error Content → Bool × Batch
  | .ok content =>
    if b.session.store.contains request.id then
      let s := b.session.modify request.id fun blk =>
        { blk with
          content := some content
          input := some request.input
          applied := some request.transform }
      let s := (s.setStatus request.id .done).emit (.contentUpdated request.id)
      (true, ({ b with session := s } : Batch).noteComputed request.id)
    else (false, b)
  | .error e =>
    let s := b.session.setStatus request.id (.failed e.message)
    (false, ({ b with session := s } : Batch).noteFailed request.id e)

/-- Ends an open request with its answer. -/
def finish (backend : Backend) (b : Batch) (request : Request) : Batch :=
  let s := b.session.record (.answered request)
  let b := { b with session := { s with now := s.now + backend.delay request } }
  let answer := backend.answer request
  if b.chain = some request then
    match ({ b with chain := none } : Batch).store request answer with
    | (true, b) => b.schedule request.id
    | (false, b) => b
  else (({ b with pool := b.pool.erase request } : Batch).store request answer).2

/-- One step: the next block of the queue while no request of the queue is open, else the next
answer.  A batch that has nothing left to do stays as it is. -/
def step (backend : Backend) (b : Batch) : Batch :=
  match b.chain, b.queue with
  | none, id :: rest => b.takeQueued id rest
  | _, _ =>
    match backend.pick? b.calls with
    | some request => b.finish backend request
    | none => b

def steps (backend : Backend) : Nat → Batch → Batch
  | 0, b => b
  | n + 1, b => steps backend n (b.step backend)

/-- Whether nothing is left to do. -/
def isDone (b : Batch) : Bool := b.queue.isEmpty && b.pool.isEmpty && b.chain.isNone

/-- An upper bound for the steps that a batch can still make: each block can be taken from the queue
once and answered once, and each request of the pool answered once. -/
def bound (b : Batch) : Nat := 2 * b.session.store.size + b.pool.length

/-- Runs a batch to its end. -/
def run (backend : Backend) (b : Batch) : Batch := steps backend b.bound b

/-- Readies a batch: isolated seeds have their turns, the others are put in order.  If they cannot
be, none of them is computed. -/
def start (s : Session) (seeds : List BlockId) (force : Bool) : Batch :=
  let s := s.regraph
  let unique := (seeds.filter s.store.contains).eraseDups
  let (isolated, related) := unique.partition s.graph.isIsolated
  let b : Batch := { session := s, force, components := s.graph.components }
  let b :=
    match Graph.pick related b.components with
    | .ok order => { b with queue := order }
    | .error c => b.noteCycle c
  isolated.foldl takeIsolated b

end Batch

namespace Session

/-- Computes seeds and all that depends on what changes, and saves the blocks if any did. -/
def propagate (backend : Backend) (s : Session) (seeds : List BlockId) (force : Bool) :
    Report × Session :=
  let b := (Batch.start s seeds force).run backend
  (b.report, if b.report.computed.isEmpty then b.session else b.session.save)

end Session
end Workbook
