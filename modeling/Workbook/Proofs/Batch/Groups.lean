import Workbook.Proofs.Batch.Complete
import Workbook.Proofs.Batch.Locality
import Workbook.Proofs.Batch.Requests

/-!
What a batch does to a group of blocks.

Two batches agree on a group if they are the same as far as its blocks go (`Agrees`).  What happens
to a block outside of a group leaves the batch the same for the group.  What happens to one of its
blocks in both batches leaves them agreed if whatever feeds the block is in the group: so it is with
related blocks, which only related blocks feed, and with an isolated block, which nothing feeds.
Batches that are linked besides (`Linked`) go on with the same blocks.
-/

namespace Workbook
namespace Batch

variable {backend : Backend} {p : BlockId → Bool} {s : Session} {seeds : List BlockId}
  {force : Bool} {b c d : Batch} {id : BlockId} {r : Request}

/-- The batches are the same as far as the blocks that satisfy `p` go. -/
structure Agrees (p : BlockId → Bool) (b c : Batch) : Prop where
  session : b.session.Coincides p c.session
  force_eq : b.force = c.force
  computed_eq : b.report.computed.filter p = c.report.computed.filter p
  skipped_eq : b.report.skipped.filter p = c.report.skipped.filter p
  failed_eq : (b.report.failed.filter fun e => p e.1) = c.report.failed.filter fun e => p e.1
  pool_eq : (b.pool.filter fun r => p r.id) = c.pool.filter fun r => p r.id

namespace Agrees

theorem refl (p : BlockId → Bool) (b : Batch) : Agrees p b b := ⟨.refl .., rfl, rfl, rfl, rfl, rfl⟩

theorem symm (h : Agrees p b c) : Agrees p c b :=
  ⟨h.session.symm, h.force_eq.symm, h.computed_eq.symm, h.skipped_eq.symm, h.failed_eq.symm,
    h.pool_eq.symm⟩

theorem trans (h : Agrees p b c) (h' : Agrees p c d) : Agrees p b d :=
  ⟨h.session.trans h'.session, h.force_eq.trans h'.force_eq, h.computed_eq.trans h'.computed_eq,
    h.skipped_eq.trans h'.skipped_eq, h.failed_eq.trans h'.failed_eq, h.pool_eq.trans h'.pool_eq⟩

/-- The queue does not matter, nor do the cycle and the request of the queue. -/
theorem of_eq (hs : b.session.Coincides p c.session) (hf : b.force = c.force)
    (hr : b.report = { c.report with cycle := b.report.cycle }) (hp : b.pool = c.pool) :
    Agrees p b c :=
  ⟨hs, hf, by rw [hr], by rw [hr], by rw [hr], by rw [hp]⟩

theorem change (h : Agrees p b c) {t u : Session} (hs : t.Coincides p u) :
    Agrees p { b with session := t } { c with session := u } :=
  ⟨hs, h.force_eq, h.computed_eq, h.skipped_eq, h.failed_eq, h.pool_eq⟩

/-! ### The same in both batches -/

theorem noteSkipped (h : Agrees p b c) (id : BlockId) :
    Agrees p (b.noteSkipped id) (c.noteSkipped id) where
  session := h.session
  force_eq := h.force_eq
  computed_eq := h.computed_eq
  skipped_eq := by
    show (b.report.skipped ++ [id]).filter p = (c.report.skipped ++ [id]).filter p
    rw [List.filter_append, List.filter_append, h.skipped_eq]
  failed_eq := h.failed_eq
  pool_eq := h.pool_eq

theorem noteComputed (h : Agrees p b c) (id : BlockId) :
    Agrees p (b.noteComputed id) (c.noteComputed id) where
  session := h.session
  force_eq := h.force_eq
  computed_eq := by
    show (b.report.computed ++ [id]).filter p = (c.report.computed ++ [id]).filter p
    rw [List.filter_append, List.filter_append, h.computed_eq]
  skipped_eq := h.skipped_eq
  failed_eq := h.failed_eq
  pool_eq := h.pool_eq

theorem noteFailed (h : Agrees p b c) (id : BlockId) (e : Error) :
    Agrees p (b.noteFailed id e) (c.noteFailed id e) where
  session := h.session
  force_eq := h.force_eq
  computed_eq := h.computed_eq
  skipped_eq := h.skipped_eq
  failed_eq := by
    show (b.report.failed ++ [(id, e)]).filter _ = (c.report.failed ++ [(id, e)]).filter _
    rw [List.filter_append, List.filter_append, h.failed_eq]
  pool_eq := h.pool_eq

theorem contains_eq (h : Agrees p b c) (id : BlockId) :
    b.session.store.contains id = c.session.store.contains id :=
  h.session.alike.contains id

theorem store (h : Agrees p b c) (hc : b.session.store.contains r.id = true)
    (answer : Except Error Content) :
    (b.store r answer).1 = (c.store r answer).1 ∧
      Agrees p (b.store r answer).2 (c.store r answer).2 := by
  have hc' := (h.contains_eq r.id).symm.trans hc
  cases answer with
  | ok content =>
    rw [store_ok hc, store_ok hc']
    exact ⟨rfl, (h.change (h.session.fill ..)).noteComputed _⟩
  | error e =>
    rw [store_error hc, store_error hc']
    exact ⟨rfl, (h.change (h.session.refuse ..)).noteFailed ..⟩

/-! ### Outside of the group -/

theorem schedule (p : BlockId → Bool) (b : Batch) (id : BlockId) : Agrees p (b.schedule id) b := by
  refine .of_eq (.of_eq (store_schedule b id) ?_ ?_ (requests_schedule b id)) ?_ ?_
    (pool_schedule b id) <;> rw [schedule_frame]

theorem scheduled (h : Agrees p b c) (id : BlockId) :
    Agrees p (b.schedule id) (c.schedule id) :=
  (schedule p b id).trans (h.trans (schedule p c id).symm)

theorem touch {session : Session} (hid : p id = false) (touches : session.Touches id b.session)
    (continues : session.Continues b.session) (now : session.now = b.session.now) :
    Agrees p { b with session } b :=
  .of_eq ((Session.Coincides.refl p b.session).touch hid touches continues now) rfl rfl rfl

theorem skip (b : Batch) (hid : p id = false) : Agrees p (b.noteSkipped id) b := by
  refine ⟨.refl .., rfl, rfl, ?_, rfl, rfl⟩
  show (b.report.skipped ++ [id]).filter p = _
  rw [List.filter_append, List.filter_singleton, hid]
  exact List.append_nil _

theorem compute (b : Batch) (hid : p id = false) : Agrees p (b.noteComputed id) b := by
  refine ⟨.refl .., rfl, ?_, rfl, rfl, rfl⟩
  show (b.report.computed ++ [id]).filter p = _
  rw [List.filter_append, List.filter_singleton, hid]
  exact List.append_nil _

theorem fail (b : Batch) (hid : p id = false) (e : Error) : Agrees p (b.noteFailed id e) b := by
  refine ⟨.refl .., rfl, rfl, rfl, ?_, rfl⟩
  show (b.report.failed ++ [(id, e)]).filter _ = _
  rw [List.filter_append, List.filter_singleton, hid]
  exact List.append_nil _

end Agrees

/-! ## Turns -/

theorem Framed.turn_taken (h : Framed s force b) (id : BlockId) :
    b.session.Taken b.force id (b.session.takeTurn b.force id).1
      (b.session.takeTurn b.force id).2 :=
  Session.takeTurn_taken h.ofStore_eq b.force id

/-- A block of the group has the same turn in both batches if all that feeds it is in the group. -/
theorem Agrees.turn (h : Agrees p b c) (framed : Framed s force b) (framed' : Framed s force c)
    (hs : s.store.Sound) (hid : p id = true)
    (feeds : ∀ a, (Graph.ofStore s.store).Feeds a id → p a = true) :
    ∃ turn t u, b.session.takeTurn b.force id = (turn, t) ∧
      c.session.takeTurn c.force id = (turn, u) ∧ t.Coincides p u := by
  have ht := framed.turn_taken id
  have hu := framed'.turn_taken id
  rw [← framed'.alike.ofStore] at feeds
  generalize b.session.takeTurn b.force id = result at ht
  rw [← h.force_eq] at hu ⊢
  generalize c.session.takeTurn b.force id = result' at hu
  obtain ⟨turns, coincides⟩ := h.session.taken (framed'.alike.sound hs) hid feeds ht hu
  exact ⟨result.1, result.2, result'.2, rfl, Prod.ext turns.symm rfl, coincides⟩

theorem agrees_takeIsolated (framed : Framed s force b) (hid : p id = false) :
    Agrees p (b.takeIsolated id) b := by
  have ht := framed.turn_taken id
  unfold takeIsolated
  generalize b.session.takeTurn b.force id = result at ht
  obtain ⟨turn, session⟩ := result
  have touched : Agrees p { b with session } b :=
    .touch hid ht.touches ht.continues ht.now_eq
  cases turn with
  | skipped => exact (Agrees.skip _ hid).trans touched
  | applied => exact (Agrees.compute _ hid).trans touched
  | asked r =>
    refine ⟨touched.session, rfl, rfl, rfl, rfl, ?_⟩
    have hrid : r.id = id := ht.id_asked
    show (b.pool ++ [r]).filter _ = _
    rw [List.filter_append, List.filter_singleton, hrid, hid]
    exact List.append_nil _

theorem agrees_takeQueued (framed : Framed s force b) (hid : p id = false) (rest : List BlockId) :
    Agrees p (b.takeQueued id rest) b := by
  have ht := framed.turn_taken id
  unfold takeQueued
  generalize b.session.takeTurn b.force id = result at ht
  obtain ⟨turn, session⟩ := result
  have touched : Agrees p { b with session, queue := rest, handled := id :: b.handled } b :=
    .of_eq ((Session.Coincides.refl p b.session).touch hid ht.touches ht.continues ht.now_eq)
      rfl rfl rfl
  cases turn with
  | skipped => exact (Agrees.skip _ hid).trans touched
  | applied => exact (Agrees.compute _ hid).trans ((Agrees.schedule ..).trans touched)
  | asked r => exact .of_eq touched.session rfl rfl rfl

/-! ## Answers -/

theorem agrees_store (hc : b.session.store.contains r.id = true) (hr : p r.id = false)
    (answer : Except Error Content) : Agrees p (b.store r answer).2 b := by
  cases answer with
  | ok content =>
    rw [store_ok hc]
    exact (Agrees.compute _ hr).trans (.touch hr (.fill ..) (.fill ..) rfl)
  | error e =>
    rw [store_error hc]
    exact (Agrees.fail _ hr e).trans (.touch hr (.refuse ..) (.refuse ..) rfl)

section
variable (hd : ∀ r, backend.delay r = 0)

include hd

theorem now_answered (b : Batch) (r : Request) : (b.answered backend r).now = b.session.now := by
  show b.session.now + backend.delay r = b.session.now
  rw [hd, Nat.add_zero]

/-- That an answer has come does not matter; what is made of it does. -/
theorem coincides_answered (p : BlockId → Bool) (b : Batch) (r : Request) :
    (b.answered backend r).Coincides p b.session :=
  .of_eq rfl rfl (now_answered hd b r) (requests_answered backend b r)

theorem Agrees.answered {backend' : Backend} (h : Agrees p b c)
    (hd' : ∀ r, backend'.delay r = 0) (r : Request) :
    (b.answered backend r).Coincides p (c.answered backend' r) :=
  ((coincides_answered hd p b r).trans h.session).trans (coincides_answered hd' p c r).symm

theorem agrees_finish (hc : b.session.store.contains r.id = true) (hr : p r.id = false) :
    Agrees p (b.finish backend r) b := by
  by_cases h : b.chain = some r
  · let closed : Batch := { b with session := b.answered backend r, chain := none }
    have same : Agrees p closed b := .of_eq (coincides_answered hd p b r) rfl rfl rfl
    have stored := (agrees_store (b := closed) hc hr (backend.answer r)).trans same
    rw [finish_chain h]
    dsimp only
    split
    · exact (Agrees.schedule ..).trans stored
    · exact stored
  · let closed : Batch := { b with session := b.answered backend r, pool := b.pool.erase r }
    have same : Agrees p closed b := by
      refine ⟨coincides_answered hd p b r, rfl, rfl, rfl, rfl, ?_⟩
      show (b.pool.erase r).filter _ = _
      rw [← List.erase_filter, List.erase_of_not_mem]
      intro hmem
      rw [(List.mem_filter.mp hmem).2] at hr
      cases hr
    rw [finish_pool h]
    exact (agrees_store (b := closed) hc hr (backend.answer r)).trans same

end

/-! ## The related blocks -/

/-- The batches go on in the same way, as far as the queue goes. -/
structure Linked (b c : Batch) : Prop where
  graph_eq : b.session.graph = c.session.graph
  components_eq : b.components = c.components
  queue_eq : b.queue = c.queue
  handled_eq : b.handled = c.handled
  chain_eq : b.chain = c.chain
  cycle_eq : b.report.cycle = c.report.cycle

namespace Linked

theorem symm (h : Linked b c) : Linked c b :=
  ⟨h.graph_eq.symm, h.components_eq.symm, h.queue_eq.symm, h.handled_eq.symm, h.chain_eq.symm,
    h.cycle_eq.symm⟩

theorem trans (h : Linked b c) (h' : Linked c d) : Linked b d :=
  ⟨h.graph_eq.trans h'.graph_eq, h.components_eq.trans h'.components_eq,
    h.queue_eq.trans h'.queue_eq, h.handled_eq.trans h'.handled_eq, h.chain_eq.trans h'.chain_eq,
    h.cycle_eq.trans h'.cycle_eq⟩

theorem noteSkipped (h : Linked b c) (id : BlockId) :
    Linked (b.noteSkipped id) (c.noteSkipped id) :=
  ⟨h.graph_eq, h.components_eq, h.queue_eq, h.handled_eq, h.chain_eq, h.cycle_eq⟩

theorem noteComputed (h : Linked b c) (id : BlockId) :
    Linked (b.noteComputed id) (c.noteComputed id) :=
  ⟨h.graph_eq, h.components_eq, h.queue_eq, h.handled_eq, h.chain_eq, h.cycle_eq⟩

/-- Storing an answer has nothing to do with the queue. -/
theorem store (b : Batch) (hc : b.session.store.contains r.id = true)
    (answer : Except Error Content) : Linked (b.store r answer).2 b := by
  cases answer with
  | ok content =>
    rw [store_ok hc]
    exact ⟨rfl, rfl, rfl, rfl, rfl, rfl⟩
  | error e =>
    rw [store_error hc]
    exact ⟨rfl, rfl, rfl, rfl, rfl, rfl⟩

theorem schedule {g : Graph} (h : Linked b c) (hb : g.Graded b.components) (id : BlockId) :
    Linked (b.schedule id) (c.schedule id) := by
  have fresh : ∀ xs, b.fresh xs = c.fresh xs := by
    intro xs
    rw [Batch.fresh, h.handled_eq, Batch.fresh]
  have waiting : b.waiting id = c.waiting id := by
    rw [Batch.waiting, fresh, h.graph_eq, h.queue_eq, Batch.waiting]
  have obstacles : b.obstacles id = c.obstacles id := by
    rw [Batch.obstacles, closing, jams, waiting, h.graph_eq, h.handled_eq, h.components_eq]
    rfl
  rw [schedule_eq hb, schedule_eq (h.components_eq ▸ hb), h.graph_eq]
  split
  · exact h
  · rw [noteCycles_eq, noteCycles_eq, obstacles, waiting]
    exact ⟨h.graph_eq, h.components_eq, by rw [h.components_eq], h.handled_eq, h.chain_eq,
      by rw [h.cycle_eq]⟩

end Linked

theorem takeQueued_of_agrees (framed : Framed s force b) (framed' : Framed s force c)
    (hs : s.store.Sound) (h : Agrees p b c) (linked : Linked b c) (hid : p id = true)
    (feeds : ∀ a, (Graph.ofStore s.store).Feeds a id → p a = true) (rest : List BlockId) :
    Agrees p (b.takeQueued id rest) (c.takeQueued id rest) ∧
      Linked (b.takeQueued id rest) (c.takeQueued id rest) := by
  obtain ⟨turn, t, u, hb, hc, coincides⟩ := h.turn framed framed' hs hid feeds
  have taken : Agrees p { b with session := t, queue := rest, handled := id :: b.handled }
      { c with session := u, queue := rest, handled := id :: c.handled } :=
    ⟨coincides, h.force_eq, h.computed_eq, h.skipped_eq, h.failed_eq, h.pool_eq⟩
  have drawn : Linked { b with session := t, queue := rest, handled := id :: b.handled }
      { c with session := u, queue := rest, handled := id :: c.handled } :=
    ⟨coincides.graph_eq, linked.components_eq, rfl, congrArg (id :: ·) linked.handled_eq,
      linked.chain_eq, linked.cycle_eq⟩
  unfold takeQueued
  rw [hb, hc]
  cases turn with
  | skipped => exact ⟨taken.noteSkipped id, drawn.noteSkipped id⟩
  | applied =>
    exact ⟨(taken.scheduled id).noteComputed id,
      (drawn.schedule (framed.graded hs) id).noteComputed id⟩
  | asked r =>
    exact ⟨⟨coincides, h.force_eq, h.computed_eq, h.skipped_eq, h.failed_eq, h.pool_eq⟩,
      drawn.graph_eq, drawn.components_eq, drawn.queue_eq, drawn.handled_eq, rfl, drawn.cycle_eq⟩

theorem finish_of_agrees {backend' : Backend} (hd : ∀ r, backend.delay r = 0)
    (hd' : ∀ r, backend'.delay r = 0) (ha : backend.answer = backend'.answer)
    (framed : Framed s force b) (hs : s.store.Sound) (h : Agrees p b c) (linked : Linked b c)
    (hr : b.chain = some r) (hc : b.session.store.contains r.id = true) :
    Agrees p (b.finish backend r) (c.finish backend' r) ∧
      Linked (b.finish backend r) (c.finish backend' r) := by
  let closed : Batch := { b with session := b.answered backend r, chain := none }
  let closed' : Batch := { c with session := c.answered backend' r, chain := none }
  have agrees : Agrees p closed closed' :=
    ⟨h.answered hd hd' r, h.force_eq, h.computed_eq, h.skipped_eq, h.failed_eq, h.pool_eq⟩
  have drawn : Linked closed closed' :=
    ⟨linked.graph_eq, linked.components_eq, linked.queue_eq, linked.handled_eq, rfl,
      linked.cycle_eq⟩
  obtain ⟨flags, stored⟩ := agrees.store hc (backend.answer r)
  have contains := (agrees.contains_eq r.id).symm.trans hc
  have linked' := ((Linked.store closed hc (backend.answer r)).trans drawn).trans
    (Linked.store closed' contains (backend.answer r)).symm
  have graded :
      (Graph.ofStore s.store).Graded (closed.store r (backend.answer r)).2.components := by
    rw [store_frame]
    exact framed.graded hs
  rw [finish_chain hr, finish_chain (linked.chain_eq ▸ hr), ← ha]
  dsimp only
  rw [← flags]
  split
  · exact ⟨stored.scheduled r.id, linked'.schedule graded r.id⟩
  · exact ⟨stored, linked'⟩

/-! ## An isolated block -/

theorem takeIsolated_of_agrees (framed : Framed s force b) (framed' : Framed s force c)
    (hs : s.store.Sound) (h : Agrees p b c) (hid : p id = true)
    (isolated : (Graph.ofStore s.store).isIsolated id = true) :
    Agrees p (b.takeIsolated id) (c.takeIsolated id) := by
  obtain ⟨turn, t, u, hb, hc, coincides⟩ := h.turn framed framed' hs hid
    fun a hf => absurd isolated hf.not_isIsolated.2
  have taken := h.change coincides
  unfold takeIsolated
  rw [hb, hc]
  cases turn with
  | skipped => exact taken.noteSkipped id
  | applied => exact taken.noteComputed id
  | asked r =>
    refine ⟨coincides, h.force_eq, h.computed_eq, h.skipped_eq, h.failed_eq, ?_⟩
    show (b.pool ++ [r]).filter _ = (c.pool ++ [r]).filter _
    rw [List.filter_append, List.filter_append, h.pool_eq]

theorem finish_pool_of_agrees {backend' : Backend} (hd : ∀ r, backend.delay r = 0)
    (hd' : ∀ r, backend'.delay r = 0) (ha : backend.answer = backend'.answer) (h : Agrees p b c)
    (hb : b.chain ≠ some r) (hb' : c.chain ≠ some r)
    (hc : b.session.store.contains r.id = true) :
    Agrees p (b.finish backend r) (c.finish backend' r) := by
  let closed : Batch := { b with session := b.answered backend r, pool := b.pool.erase r }
  let closed' : Batch := { c with session := c.answered backend' r, pool := c.pool.erase r }
  have agrees : Agrees p closed closed' := by
    refine ⟨h.answered hd hd' r, h.force_eq, h.computed_eq, h.skipped_eq, h.failed_eq, ?_⟩
    show (b.pool.erase r).filter _ = (c.pool.erase r).filter _
    rw [← List.erase_filter, ← List.erase_filter, h.pool_eq]
  rw [finish_pool hb, finish_pool hb', ← ha]
  exact (agrees.store hc (backend.answer r)).2

/-- Turns of isolated blocks outside of the group. -/
theorem agrees_foldl {ids rest : List BlockId} (h : Stage backend s seeds force (ids ++ rest) b)
    (outside : ∀ x ∈ ids, p x = false) :
    Agrees p (ids.foldl takeIsolated b) b ∧
      Stage backend s seeds force rest (ids.foldl takeIsolated b) := by
  induction ids generalizing b with
  | nil => exact ⟨.refl p b, h⟩
  | cons id ids ih =>
    have first := agrees_takeIsolated h.framed (outside id (List.mem_cons_self ..))
    obtain ⟨others, stage⟩ := ih (.move h h.takeIsolated)
      fun x hx => outside x (List.mem_cons_of_mem id hx)
    exact ⟨others.trans first, stage⟩

end Batch
end Workbook
