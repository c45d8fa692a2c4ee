import Workbook.Proofs.Batch.Places

/-!
The steps of a batch lead from stage to stage, and there are only so many of them.

`remaining` counts what a batch may still have to do: two steps for each block that it has not
drawn, and one for each open request.  Every step of a batch that is not done makes it less.
-/

namespace Workbook
namespace Batch

/-! ## Every step leads to a stage -/

theorem noteCycles_noteComputed (b : Batch) (id : BlockId) (cycles : List Cycle) :
    (b.noteComputed id).noteCycles cycles = (b.noteCycles cycles).noteComputed id := by
  rw [noteCycles_eq, noteCycles_eq]
  rfl

theorem schedule_noteComputed {g : Graph} {b : Batch} (h : g.Graded b.components) (id x : BlockId) :
    (b.noteComputed x).schedule id = (b.schedule id).noteComputed x := by
  rw [schedule_eq h, schedule_eq (b := b.noteComputed x) h]
  split
  · rw [if_pos (by assumption)]
  · rw [if_neg (by assumption)]
    exact noteCycles_noteComputed { b with queue := Graph.alone (b.waiting id) b.components } x
      (b.obstacles id)

theorem steps_add (backend : Backend) (m n : Nat) (b : Batch) :
    steps backend (m + n) b = steps backend n (steps backend m b) := by
  induction m generalizing b with
  | zero => rw [Nat.zero_add]; rfl
  | succ m ih =>
    rw [Nat.succ_add]
    exact ih (b.step backend)

theorem steps_succ (backend : Backend) (n : Nat) (b : Batch) :
    steps backend (n + 1) b = (steps backend n b).step backend := by
  rw [steps_add]
  rfl

theorem mem_of_pick? {backend : Backend} {calls : List Request} {r : Request}
    (h : backend.pick? calls = some r) : r ∈ calls :=
  List.mem_of_getElem? h

theorem pick?_eq_none {backend : Backend} {calls : List Request} (h : backend.pick? calls = none) :
    calls = [] := by
  rw [Backend.pick?, List.getElem?_eq_none_iff] at h
  cases calls with
  | nil => rfl
  | cons r rest =>
    have := Nat.mod_lt (backend.next (r :: rest)) (Nat.succ_pos rest.length)
    exact absurd (Nat.lt_of_lt_of_le this h) (Nat.lt_irrefl _)

/-- Which kind of step comes next does not depend on the session. -/
theorem step_cases_of_session (backend : Backend) (b : Batch) :
    (∃ id rest, b.chain = none ∧ b.queue = id :: rest ∧ ∀ session,
        ({ b with session } : Batch).step backend =
          ({ b with session } : Batch).takeQueued id rest) ∨
      (∃ r ∈ b.calls, (b.chain = none → b.queue = []) ∧ ∀ session,
        ({ b with session } : Batch).step backend = ({ b with session } : Batch).finish backend r) ∨
      (b.isDone = true ∧ ∀ session,
        ({ b with session } : Batch).step backend = { b with session }) := by
  by_cases waits : b.chain = none ∧ b.queue ≠ []
  · obtain ⟨hc, hq⟩ := waits
    obtain ⟨id, rest, hq⟩ := List.exists_cons_of_ne_nil hq
    refine .inl ⟨id, rest, hc, hq, fun session => ?_⟩
    unfold step
    dsimp only
    rw [hc, hq]
  · have blocked : b.chain = none → b.queue = [] := fun hc =>
      by_contra fun hq => waits ⟨hc, hq⟩
    have e : ∀ session, ({ b with session } : Batch).step backend =
        ((backend.pick? b.calls).map (({ b with session } : Batch).finish backend)).getD
          { b with session } := by
      intro session
      have same : ({ b with session } : Batch).calls = b.calls := rfl
      unfold step
      split
      · next id rest hc hq =>
          rw [blocked hc] at hq
          cases hq
      · rw [same]
        cases backend.pick? b.calls <;> rfl
    right
    cases hr : backend.pick? b.calls with
    | some r =>
      refine .inl ⟨r, mem_of_pick? hr, blocked, fun session => ?_⟩
      rw [e, hr]
      rfl
    | none =>
      obtain ⟨hpool, hchain⟩ := List.append_eq_nil_iff.mp (pick?_eq_none hr)
      have hc : b.chain = none := Option.toList_eq_nil_iff.mp hchain
      refine .inr ⟨?_, fun session => ?_⟩
      · rw [isDone, blocked hc, hpool, hc]
        rfl
      · rw [e, hr]
        rfl

/-- What a step does. -/
theorem step_cases (backend : Backend) (b : Batch) :
    (∃ id rest, b.chain = none ∧ b.queue = id :: rest ∧ b.step backend = b.takeQueued id rest) ∨
      (∃ r ∈ b.calls, (b.chain = none → b.queue = []) ∧ b.step backend = b.finish backend r) ∨
      (b.isDone = true ∧ b.step backend = b) := by
  rcases step_cases_of_session backend b with
    ⟨id, rest, hc, hq, e⟩ | ⟨r, hr, blocked, e⟩ | ⟨done, e⟩
  · exact .inl ⟨id, rest, hc, hq, e b.session⟩
  · exact .inr (.inl ⟨r, hr, blocked, e b.session⟩)
  · exact .inr (.inr ⟨done, e b.session⟩)

theorem store_ok {b : Batch} {r : Request} (h : b.session.store.contains r.id = true)
    (content : Content) :
    b.store r (.ok content) = (true, ({ b with
      session := b.session.fill r.id content r.input (some r.transform) } : Batch).noteComputed
        r.id) := by
  rw [store, if_pos h]
  rw [← Session.fill_eq h]

theorem store_error {b : Batch} {r : Request} (h : b.session.store.contains r.id = true)
    (e : Error) :
    b.store r (.error e) = (false, ({ b with
      session := b.session.refuse r.id e.message } : Batch).noteFailed r.id e) := by
  rw [store]
  rw [← Session.refuse_eq h]

theorem finish_chain {b : Batch} {r : Request} (h : b.chain = some r) (backend : Backend) :
    b.finish backend r =
      let stored := ({ b with session := b.answered backend r, chain := none } : Batch).store r
        (backend.answer r)
      if stored.1 then stored.2.schedule r.id else stored.2 := by
  unfold finish
  rw [if_pos h]
  dsimp only
  split
  · next b' hb =>
    have stored : ({ b with session := b.answered backend r, chain := none } : Batch).store r
        (backend.answer r) = (true, b') := hb
    rw [stored]
    rfl
  · next b' hb =>
    have stored : ({ b with session := b.answered backend r, chain := none } : Batch).store r
        (backend.answer r) = (false, b') := hb
    rw [stored]
    rfl

theorem finish_pool {b : Batch} {r : Request} (h : b.chain ≠ some r) (backend : Backend) :
    b.finish backend r =
      (({ b with session := b.answered backend r, pool := b.pool.erase r } : Batch).store r
        (backend.answer r)).2 := by
  unfold finish
  rw [if_neg h]
  rfl

namespace Stage

open Session (takeTurn_taken)

variable {backend : Backend} {s : Session} {seeds : List BlockId} {force : Bool}
  {pending : List BlockId} {b : Batch} {id : BlockId}

theorem takeIsolated (h : Stage backend s seeds force (id :: pending) b) :
    Moves backend (id :: pending) b pending (b.takeIsolated id) := by
  have ht := takeTurn_taken h.framed.ofStore_eq b.force id
  have isolated := (mem_isolatedSeeds.mp (h.pending_subset id (List.mem_cons_self ..))).2
  unfold Batch.takeIsolated
  generalize b.session.takeTurn b.force id = result at ht
  obtain ⟨turn, session⟩ := result
  cases turn with
  | skipped => exact .skipped (.isolated ..) ht
  | applied =>
    have framed := h.framed.turn (.isolated id pending b) ht
    have e : ({ b with session } : Batch).schedule id = { b with session } := by
      apply schedule_of_isolated
      rw [framed.graph_eq]
      exact Graph.dependents_of_isIsolated isolated
    have moves : Moves backend (id :: pending) b pending _ := .applied (.isolated id pending b) ht
    rw [e] at moves
    exact moves
  | asked r =>
    have moves : Moves backend (id :: pending) b pending _ := .askedIsolated ht
    exact moves

theorem takeQueued (h : Stage backend s seeds force [] b) {rest : List BlockId}
    (hc : b.chain = none) (hq : b.queue = id :: rest) :
    Moves backend [] b [] (b.takeQueued id rest) := by
  have ht := takeTurn_taken h.framed.ofStore_eq b.force id
  unfold Batch.takeQueued
  generalize b.session.takeTurn b.force id = result at ht
  obtain ⟨turn, session⟩ := result
  cases turn with
  | skipped => exact .skipped (.queued hc hq) ht
  | applied => exact .applied (.queued hc hq) ht
  | asked r => exact .askedQueued hc hq ht

theorem contains_of_mem_calls (hs : s.store.Sound) (h : Stage backend s seeds force [] b)
    {r : Request} (hr : r ∈ b.calls) : b.session.store.contains r.id = true := by
  have known := (h.places hs).known r.id
    (List.mem_append_left _ (List.mem_append_right _ (List.mem_map_of_mem hr)))
  rw [Graph.nodes_ofStore hs, ← h.ids_eq] at known
  exact Store.contains_iff.mpr known

theorem finish (hs : s.store.Sound) (h : Stage backend s seeds force [] b) {r : Request}
    (hr : r ∈ b.calls) : Moves backend [] b [] (b.finish backend r) := by
  have contains := h.contains_of_mem_calls hs hr
  by_cases hc : b.chain = some r
  · rw [finish_chain hc]
    cases ha : backend.answer r with
    | ok content =>
      have framed := h.framed.answer (.chain hc)
        (.fill (b.answered backend r) r.id content r.input (some r.transform))
      have moves := Moves.filled (.chain hc) ha
      rw [← schedule_noteComputed (framed.graded hs)] at moves
      have contains : ({ b with session := b.answered backend r, chain := none } :
          Batch).session.store.contains r.id = true := contains
      rw [store_ok contains]
      exact moves
    | error e =>
      have contains : ({ b with session := b.answered backend r, chain := none } :
          Batch).session.store.contains r.id = true := contains
      have moves := Moves.refused (.chain hc) ha
      rw [store_error contains]
      exact moves
  · have hpool : r ∈ b.pool := by
      rcases List.mem_append.mp hr with hr | hr
      · exact hr
      · exact absurd (Option.mem_toList.mp hr) hc
    rw [finish_pool hc]
    cases ha : backend.answer r with
    | ok content =>
      have framed := h.framed.answer (.pool hpool hc)
        (.fill (b.answered backend r) r.id content r.input (some r.transform))
      have moves := Moves.filled (.pool hpool hc) ha
      rw [schedule_of_isolated] at moves
      · have contains : ({ b with session := b.answered backend r, pool := b.pool.erase r } :
            Batch).session.store.contains r.id = true := contains
        rw [store_ok contains]
        exact moves
      · rw [framed.graph_eq]
        exact Graph.dependents_of_isIsolated ((h.places hs).pool_isolated r hpool)
    | error e =>
      have contains : ({ b with session := b.answered backend r, pool := b.pool.erase r } :
          Batch).session.store.contains r.id = true := contains
      have moves := Moves.refused (.pool hpool hc) ha
      rw [store_error contains]
      exact moves

/-- A step of a batch is a move, unless it is done. -/
theorem step (hs : s.store.Sound) (h : Stage backend s seeds force [] b) :
    Moves backend [] b [] (b.step backend) ∨ (b.isDone = true ∧ b.step backend = b) := by
  rcases step_cases backend b with ⟨id, rest, hc, hq, e⟩ | ⟨r, hr, -, e⟩ | done
  · left
    rw [e]
    exact h.takeQueued hc hq
  · left
    rw [e]
    exact h.finish hs hr
  · exact .inr done

theorem next (hs : s.store.Sound) (h : Stage backend s seeds force [] b) :
    Stage backend s seeds force [] (b.step backend) := by
  rcases h.step hs with hm | ⟨-, e⟩
  · exact .move h hm
  · rw [e]
    exact h

theorem start (s : Session) (seeds : List BlockId) (force : Bool) :
    Stage backend s seeds force [] (start s seeds force) := by
  have fold : ∀ (pending : List BlockId) (b : Batch), Stage backend s seeds force pending b →
      Stage backend s seeds force [] (pending.foldl Batch.takeIsolated b) := by
    intro pending
    induction pending with
    | nil => exact fun b h => h
    | cons id pending ih => exact fun b h => ih _ (.move h h.takeIsolated)
  rw [start_eq]
  exact fold _ _ .opening

theorem steps (hs : s.store.Sound) (h : Stage backend s seeds force [] b) (n : Nat) :
    Stage backend s seeds force [] (steps backend n b) := by
  induction n with
  | zero => exact h
  | succ n ih =>
    rw [steps_succ]
    exact ih.next hs

end Stage

theorem stage_steps {s : Session} (hs : s.store.Sound) (backend : Backend) (seeds : List BlockId)
    (force : Bool) (n : Nat) :
    Stage backend s seeds force [] (steps backend n (start s seeds force)) :=
  (Stage.start s seeds force).steps hs n

/-! ## There are only so many steps -/

/-- What a batch may still have to do. -/
def remaining (b : Batch) : Nat :=
  2 * (b.session.store.size - b.handled.length) + b.calls.length

theorem handled_takeQueued (b : Batch) (id : BlockId) (rest : List BlockId) :
    (b.takeQueued id rest).handled = id :: b.handled := by
  unfold takeQueued
  generalize b.session.takeTurn b.force id = result
  obtain ⟨turn, session⟩ := result
  cases turn with
  | skipped => rfl
  | applied => exact handled_schedule _ id
  | asked r => rfl

theorem pool_takeQueued (b : Batch) (id : BlockId) (rest : List BlockId) :
    (b.takeQueued id rest).pool = b.pool := by
  unfold takeQueued
  generalize b.session.takeTurn b.force id = result
  obtain ⟨turn, session⟩ := result
  cases turn with
  | skipped => rfl
  | applied => exact pool_schedule _ id
  | asked r => rfl

/-- Storing an answer changes the session and the report only. -/
theorem store_frame (b : Batch) (r : Request) (answer : Except Error Content) :
    (b.store r answer).2 =
      { b with
        session := (b.store r answer).2.session
        report := (b.store r answer).2.report } := by
  unfold store
  split
  · split <;> rfl
  · rfl

theorem handled_finish (backend : Backend) (b : Batch) (r : Request) :
    (b.finish backend r).handled = b.handled := by
  by_cases hc : b.chain = some r
  · rw [finish_chain hc]
    dsimp only
    split
    · rw [handled_schedule, store_frame]
    · rw [store_frame]
  · rw [finish_pool hc, store_frame]

theorem length_calls_finish (backend : Backend) {b : Batch} {r : Request} (hr : r ∈ b.calls) :
    (b.finish backend r).calls.length + 1 = b.calls.length := by
  by_cases hc : b.chain = some r
  · rw [finish_chain hc]
    dsimp only
    split
    · rw [calls, calls, pool_schedule, chain_schedule, store_frame, hc]
      simp
    · rw [calls, calls, store_frame, hc]
      simp
  · have hmem : r ∈ b.pool := by
      rcases List.mem_append.mp hr with hr | hr
      · exact hr
      · exact absurd (Option.mem_toList.mp hr) hc
    have hlen := List.length_erase_of_mem hmem
    have hpos := List.length_pos_of_mem hmem
    rw [finish_pool hc, calls, calls, store_frame, List.length_append, List.length_append]
    show (b.pool.erase r).length + b.chain.toList.length + 1 = _
    omega

theorem length_calls_takeQueued (b : Batch) (id : BlockId) (rest : List BlockId) :
    (b.takeQueued id rest).calls.length ≤ b.pool.length + 1 := by
  rw [calls, pool_takeQueued, List.length_append]
  have : (b.takeQueued id rest).chain.toList.length ≤ 1 := Option.length_toList_le
  omega

theorem Places.length_handled {g : Graph} {hand : List BlockId} {b : Batch}
    (h : Places g hand b) : b.handled.length ≤ g.nodes.length :=
  h.handled_nodup.length_le_of_subset fun x hx => h.known x ((h.mem_handled x).mp hx).2

theorem remaining_step {s : Session} {backend : Backend} {seeds : List BlockId} {force : Bool}
    {b : Batch} (hs : s.store.Sound) (h : Stage backend s seeds force [] b)
    (hd : ¬ b.isDone = true) : (b.step backend).remaining < b.remaining := by
  have size : (b.step backend).session.store.size = b.session.store.size :=
    (h.next hs).framed.alike.size.trans h.framed.alike.size.symm
  unfold remaining
  rw [size]
  rcases step_cases backend b with ⟨id, rest, hc, hq, e⟩ | ⟨r, hr, -, e⟩ | ⟨done, -⟩
  · have bound := ((h.places hs).draw (.queued hc hq)).length_handled
    have nodes : (Graph.ofStore s.store).nodes.length = b.session.store.size := by
      rw [Graph.nodes_ofStore hs, h.framed.alike.size]
      exact List.length_map _
    have hcalls := length_calls_takeQueued b id rest
    have hpool : b.calls.length = b.pool.length := by
      rw [calls, hc]
      simp
    rw [nodes] at bound
    have bound : b.handled.length + 1 ≤ b.session.store.size := bound
    rw [e, handled_takeQueued, List.length_cons]
    omega
  · have hcalls := length_calls_finish backend hr
    rw [e, handled_finish]
    omega
  · exact absurd done hd

theorem step_of_isDone (backend : Backend) {b : Batch} (h : b.isDone = true) :
    b.step backend = b := by
  obtain ⟨hqp, hc⟩ := Bool.and_eq_true_iff.mp h
  obtain ⟨hq, hp⟩ := Bool.and_eq_true_iff.mp hqp
  rw [List.isEmpty_iff] at hq hp
  rw [Option.isNone_iff_eq_none] at hc
  rcases step_cases backend b with ⟨id, rest, -, hq', -⟩ | ⟨r, hr, -, -⟩ | ⟨-, e⟩
  · rw [hq] at hq'
    cases hq'
  · rw [calls, hp, hc] at hr
    cases hr
  · exact e

theorem steps_of_isDone (backend : Backend) {b : Batch} (h : b.isDone = true) (n : Nat) :
    steps backend n b = b := by
  induction n with
  | zero => rfl
  | succ n ih => rw [steps_succ, ih, step_of_isDone backend h]

theorem isDone_steps {s : Session} {backend : Backend} {seeds : List BlockId} {force : Bool}
    {b : Batch} (hs : s.store.Sound) (h : Stage backend s seeds force [] b) {n : Nat}
    (hn : b.remaining ≤ n) : (steps backend n b).isDone = true := by
  induction n generalizing b with
  | zero =>
    show b.isDone = true
    by_cases hd : b.isDone = true
    · exact hd
    · have := remaining_step hs h hd
      omega
  | succ n ih =>
    by_cases hd : b.isDone = true
    · rw [steps_of_isDone backend hd]
      exact hd
    · have := remaining_step hs h hd
      exact ih (h.next hs) (by omega)

/-- Turns of isolated blocks leave the queue alone, and what has to do with it. -/
theorem takeIsolated_frame (b : Batch) (id : BlockId) :
    b.takeIsolated id =
      { b with
        session := (b.takeIsolated id).session
        pool := (b.takeIsolated id).pool
        report := { (b.takeIsolated id).report with cycle := b.report.cycle } } := by
  unfold takeIsolated
  generalize b.session.takeTurn b.force id = result
  obtain ⟨turn, session⟩ := result
  cases turn <;> rfl

theorem foldl_takeIsolated_frame (ids : List BlockId) (b : Batch) :
    ids.foldl takeIsolated b =
      { b with
        session := (ids.foldl takeIsolated b).session
        pool := (ids.foldl takeIsolated b).pool
        report := { (ids.foldl takeIsolated b).report with cycle := b.report.cycle } } := by
  induction ids generalizing b with
  | nil => rfl
  | cons id ids ih =>
    have first := takeIsolated_frame b id
    rw [List.foldl_cons, ih]
    generalize ids.foldl takeIsolated (b.takeIsolated id) = after
    rw [first]

theorem start_frame (s : Session) (seeds : List BlockId) (force : Bool) :
    start s seeds force =
      { opening s seeds force with
        session := (start s seeds force).session
        pool := (start s seeds force).pool
        report :=
          { (start s seeds force).report with cycle := (opening s seeds force).report.cycle } } := by
  rw [start_eq]
  exact foldl_takeIsolated_frame ..

theorem handled_start (s : Session) (seeds : List BlockId) (force : Bool) :
    (start s seeds force).handled = [] := by
  rw [start_frame, opening_frame]
  rfl

theorem chain_start (s : Session) (seeds : List BlockId) (force : Bool) :
    (start s seeds force).chain = none := by
  rw [start_frame, opening_frame]
  rfl

theorem remaining_start (s : Session) (seeds : List BlockId) (force : Bool) :
    (start s seeds force).remaining = (start s seeds force).bound := by
  rw [remaining, bound, calls, handled_start, chain_start]
  simp

/-- A batch ends within its bound, and stays as it is from there on. -/
theorem steps_eq_run {s : Session} (hs : s.store.Sound) (backend : Backend) (seeds : List BlockId)
    (force : Bool) {n : Nat} (hn : (start s seeds force).bound ≤ n) :
    ((start s seeds force).run backend).isDone = true ∧
      steps backend n (start s seeds force) = (start s seeds force).run backend := by
  have done : ((start s seeds force).run backend).isDone = true :=
    isDone_steps hs (.start s seeds force) (Nat.le_of_eq (remaining_start s seeds force))
  refine ⟨done, ?_⟩
  obtain ⟨k, rfl⟩ := Nat.le.dest hn
  rw [steps_add]
  exact steps_of_isDone backend done k

/-- From wherever a batch has come to, its bound is enough to end it. -/
theorem steps_bound {s : Session} (hs : s.store.Sound) (backend : Backend) (seeds : List BlockId)
    (force : Bool) (n : Nat) :
    steps backend (start s seeds force).bound (steps backend n (start s seeds force)) =
      (start s seeds force).run backend := by
  rw [← steps_add]
  exact (steps_eq_run hs backend seeds force (Nat.le_add_left _ n)).2

/-! ## At the end -/

theorem isDone_iff {b : Batch} : b.isDone = true ↔ b.queue = [] ∧ b.calls = [] := by
  rw [isDone, Bool.and_eq_true, Bool.and_eq_true, List.isEmpty_iff, List.isEmpty_iff,
    Option.isNone_iff_eq_none, calls, List.append_eq_nil_iff, Option.toList_eq_nil_iff, and_assoc]

theorem calls_run {s : Session} (hs : s.store.Sound) (backend : Backend) (seeds : List BlockId)
    (force : Bool) : ((start s seeds force).run backend).calls = [] :=
  (isDone_iff.mp (steps_eq_run hs backend seeds force (Nat.le_refl _)).1).2

theorem queue_run {s : Session} (hs : s.store.Sound) (backend : Backend) (seeds : List BlockId)
    (force : Bool) : ((start s seeds force).run backend).queue = [] :=
  (isDone_iff.mp (steps_eq_run hs backend seeds force (Nat.le_refl _)).1).1

theorem stage_run {s : Session} (hs : s.store.Sound) (backend : Backend) (seeds : List BlockId)
    (force : Bool) : Stage backend s seeds force [] ((start s seeds force).run backend) :=
  stage_steps hs backend seeds force (start s seeds force).bound

theorem nodup_settled {s : Session} (hs : s.store.Sound) (backend : Backend)
    (seeds : List BlockId) (force : Bool) :
    ((start s seeds force).run backend).report.settled.Nodup := by
  have places := (stage_run hs backend seeds force).places hs
  exact (List.nodup_append.mp (List.nodup_append.mp places.nodup).1).1

end Batch
end Workbook
