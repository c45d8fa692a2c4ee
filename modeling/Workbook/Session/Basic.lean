import Workbook.Backend
import Workbook.Report

/-!
Sessions: a workbook at work.

A session holds the blocks with their graph, the requests that wait for their time, the clock, and
the archive to which the blocks are saved.  Its journal records, in order, what can be seen from
outside: events, requests to the generator and their answers, and when references were resolved.
-/

namespace Workbook

/-- The last list of blocks that was saved, and the errors with which the archive meets the next
attempts to load or to save. -/
structure Archive where
  saved : List Block := []
  loadFault : Option Error := none
  saveFault : Option Error := none
deriving DecidableEq, Repr

/-- Requests that wait, each with the time at which it is due, in ascending order of ids. -/
structure Parking where
  entries : List (BlockId × Nat) := []
deriving DecidableEq, Repr

namespace Parking

def insertEntry (id : BlockId) (due : Nat) : List (BlockId × Nat) → List (BlockId × Nat)
  | [] => [(id, due)]
  | e :: rest =>
    if e.1 = id then (id, due) :: rest
    else if id.le e.1 then (id, due) :: e :: rest
    else e :: insertEntry id due rest

/-- Parks a request; one that waits for the same block gives way. -/
def insert (p : Parking) (id : BlockId) (due : Nat) : Parking := ⟨insertEntry id due p.entries⟩

def erase (p : Parking) (id : BlockId) : Parking := ⟨p.entries.filter (·.1 != id)⟩

def ids (p : Parking) : List BlockId := p.entries.map (·.1)

/-- The earliest time at which a request is due. -/
def earliest? (p : Parking) : Option Nat := (p.entries.map (·.2)).min?

/-- The blocks whose requests are due at a time. -/
def dueAt (p : Parking) (now : Nat) : List BlockId :=
  (p.entries.filter fun e => decide (e.2 ≤ now)).map (·.1)

end Parking

/-- Something that happened in a session. -/
inductive Moment where
  | emitted (event : Event)
  /-- The references of a block were resolved in order to compute it. -/
  | resolved (id : BlockId)
  /-- A request was put to the generator at a time. -/
  | asked (request : Request) (time : Nat)
  | answered (request : Request)
deriving DecidableEq, Repr

structure Session where
  settings : Settings := {}
  store : Store := { settings }
  graph : Graph := {}
  parking : Parking := {}
  /-- Milliseconds since the session began. -/
  now : Nat := 0
  source : IdSource
  archive : Archive := {}
  /-- Whether anybody receives events. -/
  watched : Bool := true
  journal : List Moment := []

namespace Session

/-- A session without blocks. -/
def start (settings : Settings) (source : IdSource) (archive : Archive) (watched : Bool) :
    Session :=
  { settings, store := { settings }, source, archive, watched }

def record (s : Session) (m : Moment) : Session := { s with journal := s.journal ++ [m] }

def emit (s : Session) (e : Event) : Session := if s.watched then s.record (.emitted e) else s

/-- The events of the journal. -/
def events (s : Session) : List Event :=
  s.journal.filterMap fun
    | .emitted e => some e
    | _ => none

/-- Makes the graph anew. -/
def regraph (s : Session) : Session := { s with graph := .ofStore s.store }

/-- Makes the graph anew and says so. -/
def graphChanged (s : Session) : Session := s.regraph.emit .graphChanged

/-- Saves the blocks.  An archive that refuses is not heard of. -/
def save (s : Session) : Session :=
  match s.archive.saveFault with
  | some _ => s
  | none =>
    ({ s with archive := { s.archive with saved := s.store.blocks } } : Session).emit
      (.persisted s.store.size)

/-- Changes a block that may be missing. -/
def modify (s : Session) (id : BlockId) (f : Block → Block) : Session :=
  { s with store := s.store.modify id f }

/-- Gives a block a status and says so, if the block is there. -/
def setStatus (s : Session) (id : BlockId) (status : Status) : Session :=
  if s.store.contains id then
    (s.modify id fun b => { b with status }).emit (.statusChanged id status)
  else s

/-- The links between blocks other than separators. -/
def displayEdges (s : Session) : List (BlockId × BlockId) :=
  let isSeparator (id : BlockId) : Bool := (s.store.get? id).any (·.kind == .separator)
  s.graph.edges.filter fun l => !isSeparator l.1 && !isSeparator l.2

/-- Resolves a block in the present graph, made anew. -/
def resolveBlock (s : Session) (b : Block) : Resolution × Session :=
  let s := s.regraph
  (s.store.resolve s.graph b.data b.name, s)

/-- Resolves the references of a block. -/
def resolve (s : Session) (id : BlockId) : Except Error Resolution × Session :=
  match s.store.need id with
  | .error e => (.error e, s)
  | .ok b =>
    let (r, s) := s.resolveBlock b
    (.ok r, s)

/-- Looks at references again after a block was deleted.  Blocks with invalid ones are marked and
keep their content. -/
def revalidate (s : Session) (ids : List BlockId) : Report × Session :=
  ids.foldl (fun (report, s) id =>
    match s.store.get? id with
    | none => (report, s)
    | some b =>
      let (r, s) := s.resolveBlock b
      let s :=
        if r.invalid.isEmpty then s
        else s.setStatus id (.failed ("invalid references: " ++ ", ".intercalate r.invalid))
      ({ report with revalidated := report.revalidated ++ [id] }, s)) ({}, s)

end Session
end Workbook
