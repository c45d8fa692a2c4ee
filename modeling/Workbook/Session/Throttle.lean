import Workbook.Session.Batch

/-!
Throttling.

A generator is asked about one block at most once in every throttle delay, as far as edits of that
block go.  A request inside the delay is parked until its end.  A later one for the same block takes
its place, and since the delay counts from the last time the generator was asked, is due at the same
time.
-/

namespace Workbook
namespace Session

/-- The time before which a request for a block has to wait. -/
def readyAt? (s : Session) (b : Block) : Option Nat :=
  if b.kind.isGenerative then b.requested.map (· + s.settings.throttleDelay) else none

/-- Computes a block, or parks the request if its time has not come.  There is no report of a parked
request. -/
def requestUpdate (backend : Backend) (s : Session) (id : BlockId) (immediate : Bool) :
    Except Error (Option Report) × Session :=
  match s.store.need id with
  | .error e => (.error e, s)
  | .ok b =>
    let due? := if immediate then none else (s.readyAt? b).filter fun due => decide (s.now < due)
    match due? with
    | some due => (.ok none, { s with parking := s.parking.insert id due })
    | none =>
      let (report, s) := propagate backend { s with parking := s.parking.erase id } [id] false
      (.ok (some report), s)

/-- Computes blocks whose requests were parked, as one batch. -/
def runParked (backend : Backend) (s : Session) (ids : List BlockId) : Option Report × Session :=
  match ids with
  | [] => (none, s)
  | ids =>
    let (report, s) :=
      propagate backend { s with parking := ids.foldl Parking.erase s.parking } ids false
    (some report, s)

/-- Runs the parked requests that are due. -/
def flushDue (backend : Backend) (s : Session) : Option Report × Session :=
  s.runParked backend (s.parking.dueAt s.now)

/-- Runs all parked requests, due or not. -/
def runDeferred (backend : Backend) (s : Session) : Option Report × Session :=
  s.runParked backend s.parking.ids

end Session
end Workbook
