import Workbook.Proofs.Batch.Locality
import Workbook.Proofs.Session.Timely
import Workbook.Worker

/-!
Parked requests that are due are run.

Running what is due leaves the requests that are due later than the clock said when it was looked at
(`entries_flushDue`).  While the generator is asked the clock goes on, and more can become due.  A
worker wakes until nothing is due any more, and since every time fewer requests are left
(`Worker.length_wake_lt`), it comes to rest (`Worker.idle_wakes`).  Before it does, commands may
come first (`Session.Rushes`).
-/

namespace Workbook
namespace Batch

variable {backend : Backend} {s : Session} {seeds : List BlockId} {force : Bool}

theorem now_schedule (b : Batch) (id : BlockId) : (b.schedule id).session.now = b.session.now := by
  obtain ⟨queue, cycles, e⟩ := exists_schedule b id
  rw [e, noteCycles_eq]

theorem Moves.now_eq (still : ∀ r, backend.delay r = 0) {pending pending' : List BlockId}
    {b b' : Batch} (hm : Moves backend pending b pending' b') : b'.session.now = b.session.now := by
  have answered : ∀ r, b.session.now + backend.delay r = b.session.now := by
    intro r
    rw [still, Nat.add_zero]
  cases hm with
  | skipped _ ht | askedIsolated ht | askedQueued _ _ ht => exact ht.now_eq
  | applied _ ht => exact (now_schedule ..).trans ht.now_eq
  | filled => exact (now_schedule ..).trans (answered _)
  | refused => exact answered _

/-- Only while the generator is asked does time pass in a batch. -/
theorem Stage.now_eq (still : ∀ r, backend.delay r = 0) {pending : List BlockId} {b : Batch}
    (h : Stage backend s seeds force pending b) : b.session.now = s.now := by
  induction h with
  | opening =>
    rcases opening_cases s seeds force with ⟨-, e⟩ | ⟨c, more, -, e⟩
    · rw [e]
      rfl
    · rw [e]
      show (s.regraph.emit _).now = s.now
      rw [Session.emit_eq]
      rfl
  | move _ hm ih => exact (hm.now_eq still).trans ih

end Batch

namespace Session

variable {backend : Backend} {s t : Session} {id x : BlockId}

theorem now_propagate (hs : s.store.Sound) (still : ∀ r, backend.delay r = 0)
    (seeds : List BlockId) (force : Bool) : (s.propagate backend seeds force).2.now = s.now := by
  have batch := (Batch.stage_run hs backend seeds force).now_eq still
  rcases propagate_cases backend s seeds force with e | e <;> rw [e]
  · exact batch
  · refine Eq.trans ?_ batch
    rcases save_cases ((Batch.start s seeds force).run backend).session with e | e <;> rw [e]
    rw [emit_eq]

/-! ## Running what is due -/

theorem parking_runParked (hs : s.store.Sound) (backend : Backend) (ids : List BlockId) :
    (s.runParked backend ids).2.parking = ids.foldl Parking.erase s.parking := by
  by_cases none : ids = []
  · rw [none]
    rfl
  · rw [runParked_eq none]
    exact parking_propagate (s := { s with parking := ids.foldl Parking.erase s.parking }) hs ..

theorem now_runParked (hs : s.store.Sound) (still : ∀ r, backend.delay r = 0)
    (ids : List BlockId) : (s.runParked backend ids).2.now = s.now := by
  by_cases none : ids = []
  · rw [none]
    rfl
  · rw [runParked_eq none]
    exact now_propagate (s := { s with parking := ids.foldl Parking.erase s.parking }) hs still ..

/-- No parked request is due. -/
def Idle (s : Session) : Prop := ∀ e ∈ s.parking.entries, s.now < e.2

instance (s : Session) : Decidable s.Idle := inferInstanceAs (Decidable (∀ e ∈ _, _))

theorem entries_flushDue (h : s.Reachable) (backend : Backend) :
    (s.flushDue backend).2.parking.entries =
      s.parking.entries.filter fun e => decide (s.now < e.2) := by
  rw [flushDue, parking_runParked h.sound]
  exact Parking.entries_erase_dueAt h.ascends.nodup s.now

/-- If a request is due, fewer are left. -/
theorem length_flushDue_lt (h : s.Reachable) (backend : Backend) (due : ¬ s.Idle) :
    (s.flushDue backend).2.parking.entries.length < s.parking.entries.length := by
  rw [entries_flushDue h, List.length_filter_lt_length_iff_exists]
  simp only [Idle, not_forall] at due
  obtain ⟨e, he, due⟩ := due
  exact ⟨e, he, fun later => due (of_decide_eq_true later)⟩

theorem idle_flushDue (h : s.Reachable) (still : ∀ r, backend.delay r = 0) :
    (s.flushDue backend).2.Idle := by
  intro e he
  rw [entries_flushDue h] at he
  rw [flushDue, now_runParked h.sound still]
  exact of_decide_eq_true (List.mem_filter.mp he).2

/-! ## Waiting -/

/-- Waiting comes from outside: time passes, or what is due is run. -/
inductive Waits : Operation → Prop
  | advance (milliseconds : Nat) : Waits (.advance milliseconds)
  | flushDue : Waits .flushDue

theorem Waits.loadsPast {o : Operation} (h : Waits o) : LoadsPast backend s o := by
  intro isLoad
  rw [isLoad] at h
  exact nomatch h

/-- The session `t` has come from `s` by waiting. -/
def AwaitedFrom (t s : Session) : Prop :=
  ∃ steps : List (Backend × Operation), t = s.performAll steps ∧ ∀ p ∈ steps, Waits p.2

namespace AwaitedFrom

theorem refl (s : Session) : s.AwaitedFrom s := ⟨[], rfl, fun _ hp => nomatch hp⟩

theorem trans {u : Session} (hut : u.AwaitedFrom t) (hts : t.AwaitedFrom s) : u.AwaitedFrom s := by
  obtain ⟨steps, rfl, waits⟩ := hts
  obtain ⟨more, rfl, waits'⟩ := hut
  exact ⟨steps ++ more, (performAll_append s steps more).symm,
    fun p hp => (List.mem_append.mp hp).elim (waits p) (waits' p)⟩

theorem step (backend : Backend) (s : Session) {o : Operation} (ho : Waits o) :
    (s.perform backend o).AwaitedFrom s :=
  ⟨[(backend, o)], rfl, fun _ hp => List.mem_singleton.mp hp ▸ ho⟩

/-- Nothing happens until a time that is not past. -/
theorem until_time (s : Session) {time : Nat} (h : s.now ≤ time) :
    ({ s with now := time } : Session).AwaitedFrom s := by
  have later : ({ s with now := time } : Session) =
      s.perform { answer := fun _ => .error .channelClosed } (.advance (time - s.now)) := by
    show _ = ({ s with now := s.now + (time - s.now) } : Session)
    rw [Nat.add_sub_of_le h]
  rw [later]
  exact step _ s (.advance _)

theorem timely (h : t.AwaitedFrom s) (hs : s.Timely) : t.Timely := by
  obtain ⟨steps, rfl, waits⟩ := h
  exact performAll_induction hs.reachable.sound hs fun t _ ht p hp =>
    ht.perform p.1 p.2 (waits p hp).loadsPast

end AwaitedFrom

/-! ## Commands that come before what is due -/

/-- A session on which a worker is at work without a rest.  It carries out commands that load no
times yet to come and runs what is due, and time passes meanwhile.  If a command has come when a
request is due, either of them can be first. -/
inductive Rushes (s : Session) : Session → Prop
  | refl : Rushes s s
  | command {t : Session} (h : Rushes s t) (backend : Backend) (c : Command)
    (past : LoadsPast backend t (.command c)) : Rushes s (t.perform backend (.command c))
  | wait {t : Session} (h : Rushes s t) (backend : Backend) {o : Operation} (ho : Waits o) :
    Rushes s (t.perform backend o)

theorem Rushes.timely (h : s.Rushes t) (hs : s.Timely) : t.Timely := by
  induction h with
  | refl => exact hs
  | command _ backend c past ih => exact ih.perform backend _ past
  | wait _ backend ho ih => exact ih.perform backend _ ho.loadsPast

end Session

namespace Worker

open Session (AwaitedFrom)

variable {backend : Backend} {s : Session} {w : Worker} {due stop : Nat}

/-! ## Waking -/

theorem awaited_wake (backend : Backend) (s : Session) (due : Nat) :
    (wake backend s due).AwaitedFrom s :=
  (AwaitedFrom.step backend _ .flushDue).trans (.until_time s (Nat.le_max_left ..))

/-- Once a worker has woken, requests are left that are due later. -/
theorem entries_wake (h : s.Timely) (backend : Backend) (due : Nat) :
    (wake backend s due).parking.entries =
      s.parking.entries.filter fun e => decide (max s.now due < e.2) :=
  Session.entries_flushDue
    ((AwaitedFrom.until_time s (Nat.le_max_left ..)).timely h).reachable backend

/-- Whenever a worker wakes, fewer requests are left. -/
theorem length_wake_lt (h : s.Timely) (backend : Backend)
    (earliest : s.parking.earliest? = some due) :
    (wake backend s due).parking.entries.length < s.parking.entries.length := by
  have woken := (AwaitedFrom.until_time s (Nat.le_max_left s.now due)).timely h
  refine Session.length_flushDue_lt woken.reachable backend fun idle => ?_
  obtain ⟨e, he, rfl⟩ := Parking.exists_of_earliest? earliest
  exact Nat.not_lt.mpr (Nat.le_max_right ..) (idle e he)

theorem awaited_wakes (backend : Backend) (rounds : Nat) (s : Session) (stop : Nat) :
    (wakes backend rounds s stop).AwaitedFrom s := by
  induction rounds generalizing s with
  | zero => exact .refl s
  | succ rounds ih =>
    rw [wakes]
    split
    · exact .refl s
    · split
      · exact (ih _).trans (awaited_wake ..)
      · exact .refl s

/-- With a round for every request, none is left that is due. -/
theorem later_of_mem_wakes (h : s.Timely) {rounds : Nat}
    (enough : s.parking.entries.length ≤ rounds) :
    ∀ e ∈ (wakes backend rounds s stop).parking.entries,
      max stop (wakes backend rounds s stop).now < e.2 := by
  induction rounds generalizing s with
  | zero =>
    intro e he
    have none := List.eq_nil_of_length_eq_zero (Nat.le_zero.mp enough)
    change e ∈ s.parking.entries at he
    rw [none] at he
    exact nomatch he
  | succ rounds ih =>
    rw [wakes]
    split
    · rename_i none
      intro e he
      rw [Parking.entries_eq_nil_of_earliest? none] at he
      exact nomatch he
    · rename_i due earliest
      split
      · have fewer := length_wake_lt h backend earliest
        exact ih ((awaited_wake ..).timely h) (by omega)
      · rename_i late
        intro e he
        have le := Parking.earliest?_le earliest he
        omega

/-! ## Being served -/

/-- What becomes of a worker that is given a session.  It first runs what is due, and then it
carries out commands that load no times yet to come, lets time pass, and is stopped.  Commands that
are there already when a request is due may come first; when none is left, the worker runs what is
due, unless it is stopped before. -/
inductive Serves (s : Session) : Worker → Prop
  | spawn (backend : Backend) :
    Serves s { session := wakes backend s.parking.entries.length s s.now }
  | rest {t : Session} (rushes : s.Rushes t) (backend : Backend) :
    Serves s { session := wakes backend t.parking.entries.length t t.now }
  | halt {t : Session} (rushes : s.Rushes t) (backend : Backend) :
    Serves s { session := (t.runDeferred backend).2, isRunning := false }
  | execute {w : Worker} (h : Serves s w) (backend : Backend) (c : Command)
    (past : Session.LoadsPast backend w.session (.command c)) : Serves s (w.execute backend c).2
  | sleep {w : Worker} (h : Serves s w) (backend : Backend) (milliseconds : Nat) :
    Serves s (w.sleep backend milliseconds)
  | stop {w : Worker} (h : Serves s w) (backend : Backend) : Serves s (w.stop backend)

theorem idle_wakes (h : s.Timely) (backend : Backend) :
    (wakes backend s.parking.entries.length s s.now).Idle := fun e he =>
  Nat.lt_of_le_of_lt (Nat.le_max_right ..) (later_of_mem_wakes h (Nat.le_refl _) e he)

theorem timely_runDeferred (h : s.Timely) (backend : Backend) :
    (s.runDeferred backend).2.Timely :=
  .perform h backend (.command .flushDeferred) nofun

theorem Serves.timely_and_idle (h : s.Timely) (hw : Serves s w) :
    w.session.Timely ∧ (w.isRunning = true → w.session.Idle) := by
  induction hw with
  | spawn backend => exact ⟨(awaited_wakes ..).timely h, fun _ => idle_wakes h backend⟩
  | rest rushes backend =>
    have timely := rushes.timely h
    exact ⟨(awaited_wakes ..).timely timely, fun _ => idle_wakes timely backend⟩
  | halt rushes backend => exact ⟨timely_runDeferred (rushes.timely h) backend, nofun⟩
  | @execute w _ backend c past ih =>
    rw [Worker.execute]
    split
    case isTrue running =>
      have executed : (w.session.execute backend c).2.Timely :=
        .perform ih.1 backend (.command c) past
      exact ⟨(awaited_wakes ..).timely executed, fun _ => idle_wakes executed backend⟩
    case isFalse => exact ih
  | @sleep w _ backend milliseconds ih =>
    rw [Worker.sleep]
    dsimp only
    let stop := w.session.now + milliseconds
    cases running : w.isRunning with
    | true =>
      let woken := wakes backend w.session.parking.entries.length w.session stop
      have timely : woken.Timely := (awaited_wakes ..).timely ih.1
      refine ⟨(AwaitedFrom.until_time woken (Nat.le_max_left ..)).timely timely, fun _ e he => ?_⟩
      show max woken.now stop < e.2
      rw [Nat.max_comm]
      exact later_of_mem_wakes ih.1 (Nat.le_refl _) e he
    | false =>
      refine ⟨(AwaitedFrom.until_time w.session (Nat.le_max_left ..)).timely ih.1, fun ran => ?_⟩
      exact nomatch ran
  | @stop w _ backend ih =>
    rw [Worker.stop]
    split
    case isTrue => exact ⟨timely_runDeferred ih.1 backend, nofun⟩
    case isFalse => exact ih

end Worker

namespace Session

variable {s : Session}

/-- In a timely session requests are parked for generative blocks that bear a time, one for each at
most, and are due a throttle delay after that time, and after now, at the latest.  Only a request
for a block that may wait parks one for it, and puts it off no further than a throttle delay after
the generator was last asked about the block.  Running what is due leaves what is due later, and a
worker at rest has no request that is due; it comes to rest since fewer are left whenever it
wakes. -/
theorem parked_requests_timely (h : s.Timely) :
    (s.parking.ids.Nodup ∧
      ∀ x due, (x, due) ∈ s.parking.entries → ∃ b ∈ s.store.blocks, b.id = x ∧
        b.kind.isGenerative = true ∧ ∃ last, b.requested = some last ∧
          due ≤ last + s.settings.throttleDelay ∧ due ≤ s.now + s.settings.throttleDelay) ∧
    (∀ backend o, ∀ e ∈ (s.perform backend o).parking.entries,
      e ∈ s.parking.entries ∨ o.Parks e.1) ∧
    (∀ x (steps : List (Backend × Operation)),
      (∀ n, x ∈ (s.performAll (steps.take n)).parking.ids) →
        ∀ due, (x, due) ∈ (s.performAll steps).parking.entries →
          due ≤ s.now + s.settings.throttleDelay ∨ ∃ time,
            (s.performAll steps).AskedSince s x time ∧ due ≤ time + s.settings.throttleDelay) ∧
    (∀ backend : Backend,
      (s.flushDue backend).2.parking.entries =
        s.parking.entries.filter (fun e => decide (s.now < e.2)) ∧
      (¬ s.Idle → (s.flushDue backend).2.parking.entries.length < s.parking.entries.length) ∧
      ((∀ r, backend.delay r = 0) → (s.flushDue backend).2.Idle)) ∧
    (∀ w, Worker.Serves s w → w.session.Timely ∧ (w.isRunning = true → w.session.Idle)) ∧
    ∀ backend due, s.parking.earliest? = some due →
      (Worker.wake backend s due).parking.entries.Sublist s.parking.entries ∧
      (Worker.wake backend s due).parking.entries.length < s.parking.entries.length := by
  have reachable := h.reachable
  refine ⟨⟨reachable.ascends.nodup, ?_⟩, ?_, ?_, ?_, ?_, ?_⟩
  · intro x due he
    obtain ⟨generates, last, stamp, le⟩ := h.punctual.parked x due he
    have past := h.punctual.past x last stamp
    obtain ⟨b, hb, rfl, requested⟩ := (Store.stamp?_eq_some_iff reachable.sound).mp stamp
    have found := (Store.get?_eq_some_iff reachable.sound).mpr ⟨hb, rfl⟩
    rw [Store.generates, found] at generates
    exact ⟨b, hb, rfl, generates, last, requested, le,
      Nat.le_trans le (Nat.add_le_add_right past _)⟩
  · intro backend o e he
    have performed := perform_performed backend s o
    exact (performed.mem_entries reachable.sound he).imp_right fun parks => parks.1
  · exact fun x steps parked due he => h.due_le parked he
  · exact fun backend => ⟨entries_flushDue reachable backend,
      length_flushDue_lt reachable backend, idle_flushDue reachable⟩
  · exact fun w served => served.timely_and_idle h
  · intro backend due earliest
    refine ⟨?_, Worker.length_wake_lt h backend earliest⟩
    rw [Worker.entries_wake h]
    exact List.filter_sublist

/-- The generator answers at once. -/
def prompt : Backend := { answer := fun r => .ok (.text r.input) }

/-- A new session with two saved blocks, of which one mentions the other. -/
def unopened : Session :=
  start {} { word := fun _ => 0 } { saved := [
    { id := ⟨"x"⟩, name := "X", kind := .generativeText, data := "#S" },
    { id := ⟨"s"⟩, name := "S", kind := .static, data := "a" }] } true

/-- The blocks were loaded a second ago. -/
def opened : Session := (unopened.perform prompt (.command .load)).perform prompt (.advance 1000)

/-- One block is edited and its request is parked. -/
def drafted : Session := opened.perform prompt (.command (.editData ⟨"x"⟩ "#S!"))

/-- The other block is edited, so the generator is asked about the first.  That is edited again. -/
def redrafts : List (Backend × Operation) := [
  (prompt, .advance 1000), (prompt, .command (.editData ⟨"s"⟩ "b")),
  (prompt, .advance 1000), (prompt, .command (.editData ⟨"x"⟩ "#S?"))]

theorem timely_opened : opened.Timely := by
  have past : LoadsPast prompt unopened (.command .load) := by
    intro _ report _ b hb time e
    have untimed : ∀ b ∈ unopened.archive.saved, b.requested = none := by decide
    rw [untimed b hb] at e
    exact nomatch e
  have loaded : (unopened.perform prompt (.command .load)).Timely :=
    .perform (.start ..) prompt _ past
  exact .perform loaded prompt _ fun isLoad => nomatch isLoad

theorem timely_drafted : drafted.Timely :=
  .perform timely_opened prompt _ fun isLoad => nomatch isLoad

theorem parked_in_redrafts (n : Nat) :
    ⟨"x"⟩ ∈ (drafted.performAll (redrafts.take n)).parking.ids := by
  have first : ∀ n ≤ redrafts.length,
      ⟨"x"⟩ ∈ (drafted.performAll (redrafts.take n)).parking.ids := by decide +kernel
  rcases Nat.le_total n redrafts.length with le | le
  · exact first n le
  · rw [List.take_of_length_le le]
    exact first redrafts.length (Nat.le_refl _)

theorem entries_redrafts : (drafted.performAll redrafts).parking.entries = [(⟨"x"⟩, 7000)] := by
  decide +kernel

/-- The request is due when the other block is edited, and the edit comes first. -/
def overtaken : Session :=
  (drafted.perform prompt (.advance 5000)).perform prompt (.command (.editData ⟨"s"⟩ "b"))

theorem rushes_overtaken : drafted.Rushes overtaken :=
  (Rushes.refl.wait prompt (.advance 5000)).command prompt _ nofun

/-- The request was due after five seconds and is due after seven, because the generator was asked
about the block two seconds after the start.  If it is not put off, and the edit of the other block
comes first, a worker runs it before it is at rest. -/
theorem parked_requests_timely_redrafted :
    drafted.Timely ∧ drafted.now = 1000 ∧ drafted.settings.throttleDelay = 5000 ∧
      drafted.parking.entries = [(⟨"x"⟩, 5000)] ∧
      (∀ n, ⟨"x"⟩ ∈ (drafted.performAll (redrafts.take n)).parking.ids) ∧
      (∃ time, (drafted.performAll redrafts).AskedSince drafted ⟨"x"⟩ time ∧
        7000 ≤ time + 5000) ∧
      (drafted.flushDue prompt).2.Idle ∧
      (drafted.Rushes overtaken ∧ ¬ overtaken.Idle ∧
        (Worker.wakes prompt overtaken.parking.entries.length overtaken overtaken.now).Idle) ∧
      (Worker.wake prompt drafted 5000).parking.entries.length < 1 := by
  have known : drafted.now = 1000 ∧ drafted.settings.throttleDelay = 5000 ∧
      drafted.parking.entries = [(⟨"x"⟩, 5000)] ∧ drafted.parking.earliest? = some 5000 := by
    decide +kernel
  obtain ⟨now, delay, entries, earliest⟩ := known
  have late : ¬ overtaken.Idle := by decide +kernel
  obtain ⟨-, -, bound, flushed, served, woken⟩ := parked_requests_timely timely_drafted
  have last : (⟨"x"⟩, 7000) ∈ (drafted.performAll redrafts).parking.entries := by
    rw [entries_redrafts]
    exact List.mem_singleton_self _
  have fewer := (woken prompt 5000 earliest).2
  rw [entries] at fewer
  have rests := (served _ (.rest rushes_overtaken prompt)).2 rfl
  refine ⟨timely_drafted, now, delay, entries, parked_in_redrafts, ?_,
    (flushed prompt).2.2 fun _ => rfl, ⟨rushes_overtaken, late, rests⟩, fewer⟩
  rcases bound _ redrafts parked_in_redrafts 7000 last with early | ⟨time, asked, le⟩
  · rw [now, delay] at early
    omega
  · rw [delay] at le
    exact ⟨time, asked, le⟩

/-- So it is not so that edits cannot put off a parked request beyond a throttle delay after the
edit that parked it. -/
theorem edits_put_off_parked_request :
    ¬ ∀ (s : Session) (backend : Backend) (x : BlockId) (data : String)
        (steps : List (Backend × Operation)),
      s.Timely → x ∉ s.parking.ids →
      (∀ p ∈ steps, (∃ y data, p.2 = .command (.editData y data)) ∨ ∃ ms, p.2 = .advance ms) →
      let t := s.perform backend (.command (.editData x data))
      (∀ n, x ∈ (t.performAll (steps.take n)).parking.ids) →
        ∀ due, (x, due) ∈ (t.performAll steps).parking.entries →
          due ≤ s.now + s.settings.throttleDelay := by
  intro all
  have before : ⟨"x"⟩ ∉ opened.parking.ids ∧ opened.now = 1000 ∧
      opened.settings.throttleDelay = 5000 := by decide +kernel
  have edits : ∀ p ∈ redrafts,
      (∃ y data, p.2 = .command (.editData y data)) ∨ ∃ ms, p.2 = .advance ms := by
    simp [redrafts]
  have last : (⟨"x"⟩, 7000) ∈ (drafted.performAll redrafts).parking.entries := by
    rw [entries_redrafts]
    exact List.mem_singleton_self _
  have early := all opened prompt ⟨"x"⟩ "#S!" redrafts timely_opened before.1 edits
    parked_in_redrafts 7000 last
  rw [before.2.1, before.2.2] at early
  omega

end Session
end Workbook
