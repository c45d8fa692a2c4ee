import Workbook.Command

/-!
The worker that serves a session to several callers.

It carries commands out one at a time in the order of arrival.  In between it sleeps until the next
parked request is due.  Once it has stopped, no command is answered.
-/

namespace Workbook

structure Worker where
  session : Session
  isRunning : Bool := true

namespace Worker

/-- Runs the parked requests that are due at a time, at that time or at once. -/
def wake (backend : Backend) (s : Session) (due : Nat) : Session :=
  (({ s with now := max s.now due } : Session).flushDue backend).2

/-- Runs the parked requests that are due by `stop`, each at its time, and what became due while
they ran.  Every round runs one at least, so there are at most so many rounds as parked requests. -/
def wakes (backend : Backend) : Nat → Session → Nat → Session
  | 0, s, _ => s
  | rounds + 1, s, stop =>
    match s.parking.earliest? with
    | none => s
    | some due =>
      if due ≤ max stop s.now then wakes backend rounds (wake backend s due) stop else s

/-- Carries a command out, and then what became due meanwhile. -/
def execute (backend : Backend) (w : Worker) (c : Command) : Except Error Outcome × Worker :=
  if w.isRunning then
    let (outcome, s) := w.session.execute backend c
    (outcome, { w with session := wakes backend s.parking.entries.length s s.now })
  else (.error .channelClosed, w)

/-- Carries out commands that arrive together. -/
def executeAll (backend : Backend) (w : Worker) : List Command →
    List (Except Error Outcome) × Worker
  | [] => ([], w)
  | c :: rest =>
    let (outcome, w) := w.execute backend c
    let (outcomes, w) := w.executeAll backend rest
    (outcome :: outcomes, w)

/-- Lets time pass. -/
def sleep (backend : Backend) (w : Worker) (milliseconds : Nat) : Worker :=
  let stop := w.session.now + milliseconds
  let s :=
    if w.isRunning then wakes backend w.session.parking.entries.length w.session stop
    else w.session
  { w with session := { s with now := max s.now stop } }

/-- Runs all parked requests and stops. -/
def stop (backend : Backend) (w : Worker) : Worker :=
  if w.isRunning then { session := (w.session.runDeferred backend).2, isRunning := false } else w

/-- Stops at the wish of a caller. -/
def shutdown (backend : Backend) (w : Worker) : Except Error Unit × Worker :=
  if w.isRunning then (.ok (), w.stop backend) else (.error .channelClosed, w)

end Worker
end Workbook
