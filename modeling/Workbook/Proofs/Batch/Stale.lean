import Workbook.Proofs.Batch.Locality
import Workbook.Proofs.Batch.Complete
import Workbook.Proofs.Batch.Records
import Workbook.Proofs.Store.Uncomputed

/-!
A batch that computes every block does not see what was computed before.

Such a batch goes the same way over twin stores, step for step (`step_onto`).  A block has its turn
when all that feeds it is settled, as long as no cycle is reported, and settled blocks are the same
in both stores: they were filled anew with the same content.  In the end all blocks are settled, so
the stores are the same (`run_onto`).
-/

namespace Workbook

/-- With `force`, the turn of a block does not depend on what it was computed from. -/
theorem Store.Twins.turn_eq {s t : Store} (h : s.Twins t) (hs : s.Sound) {id : BlockId}
    (fed : ∀ a, (Graph.ofStore s).Feeds a id → t.contentOf? a = s.contentOf? a) :
    t.turn true id = s.turn true id := by
  unfold turn
  cases hb : s.get? id with
  | none =>
    have found := h.get? id
    rw [hb, Option.map_none, eq_comm, Option.map_eq_none_iff] at found
    rw [found]
  | some b =>
    obtain ⟨c, hc, e⟩ := h.exists_get? hb
    rw [hc]
    simp only [Bool.not_true, Bool.and_false, Bool.false_eq_true, if_false]
    rw [requestFor_eq_of_feeds hs h.alike.symm hb hc fed,
      Block.kind_eq_of_outline (Block.outline_eq_of_uncomputed e)]

namespace Session

/-- The session with another store and another archive. -/
def onto (s : Session) (store : Store) (archive : Archive) : Session := { s with store, archive }

theorem Taken.skipped_forced {s session : Session} {id : BlockId}
    (h : s.Taken true id .skipped session) :
    session = s ∧ ∀ b, s.store.get? id = some b → b.kind.recomputes = false := by
  cases h with
  | inert hi => exact ⟨rfl, hi⟩
  | current _ _ _ _ hf => cases hf

/-- A turn over twin stores comes to the same. -/
theorem takeTurn_onto {t : Session} (hg : t.graph = .ofStore t.store) (hs : t.store.Sound)
    {w : Store} {done : List BlockId} (meet : Store.MeetAt done t.store w) {id : BlockId}
    (fed : ∀ a, (Graph.ofStore t.store).Feeds a id → a ∈ done) (archive : Archive) :
    ∃ turn u w', t.takeTurn true id = (turn, u) ∧
      (t.onto w archive).takeTurn true id = (turn, u.onto w' archive) ∧
      Store.MeetAt done u.store w' ∧
      (turn.requests = [] → Store.MeetAt (id :: done) u.store w') := by
  have same : ∀ a, (Graph.ofStore t.store).Feeds a id → w.contentOf? a = t.store.contentOf? a :=
    fun a hf => Store.contentOf?_congr (meet.same a (fed a hf)).symm
  have ht := takeTurn_taken hg true id
  have hu := takeTurn_taken (s := t.onto w archive) (hg.trans meet.twins.alike.ofStore) true id
  have turns := (hu.turn_eq.trans (meet.twins.turn_eq hs same)).trans ht.turn_eq.symm
  generalize t.takeTurn true id = result at ht turns
  generalize (t.onto w archive).takeTurn true id = result' at hu turns
  obtain ⟨turn, u⟩ := result
  obtain ⟨turn', u'⟩ := result'
  have turns : turn' = turn := turns
  subst turns
  cases turn' with
  | skipped =>
    obtain ⟨rfl, inert⟩ := ht.skipped_forced
    obtain ⟨rfl, -⟩ := hu.skipped_forced
    exact ⟨_, _, w, rfl, rfl, meet, fun _ => meet.inert inert⟩
  | applied =>
    obtain ⟨b, hb, hk, rfl⟩ := ht.applied_cases
    obtain ⟨c, hc, -, rfl⟩ := hu.applied_cases
    have text : w.resolvedText c = t.store.resolvedText b :=
      Store.resolvedText_eq_of_feeds hs meet.twins.alike.symm hb hc same
    have filled := meet.fill (.text (t.store.resolvedText b)) (t.store.resolvedText b) none hb
      (by rw [hk]; rfl)
    refine ⟨.applied, _, w.modify id (.filled (.text (t.store.resolvedText b))
      (t.store.resolvedText b) none), rfl, ?_, ?_, fun _ => filled⟩
    · refine congrArg (Prod.mk Turn.applied) ?_
      show ((t.onto w archive).record (.resolved id)).fill id (.text (w.resolvedText c))
        (w.resolvedText c) none = _
      rw [text]
      rfl
    · exact filled.mono fun x hx => List.mem_cons_of_mem _ hx
  | asked r =>
    obtain rfl := ht.asked_eq
    obtain rfl := hu.asked_eq
    exact ⟨.asked r, _, w.modify r.id (.awaiting t.now), rfl, rfl, meet.await r.id t.now,
      fun none => by cases none⟩

end Session

namespace Batch

variable {backend : Backend} {s : Session} {seeds : List BlockId} {b : Batch} {w : Store}
  {id : BlockId} {r : Request} {content : Content}

/-- The batch with another store and another archive. -/
def onto (b : Batch) (store : Store) (archive : Archive) : Batch :=
  { b with session := b.session.onto store archive }

/-- The batch goes on over the other store, which is the same for all blocks that are settled. -/
def Meets (b : Batch) (w : Store) : Prop := Store.MeetAt b.report.settled b.session.store w

theorem schedule_onto {g : Graph} (h : g.Graded b.components) (id : BlockId) (w : Store)
    (archive : Archive) : (b.onto w archive).schedule id = (b.schedule id).onto w archive := by
  rw [schedule_eq (b := b.onto w archive) h, schedule_eq h]
  show (if b.session.graph.dependents id = [] then _ else _) = _
  split
  · rfl
  · rw [noteCycles_eq, noteCycles_eq]
    rfl

theorem settled_schedule (b : Batch) (id : BlockId) :
    (b.schedule id).report.settled = b.report.settled := by
  rw [schedule_frame]
  rfl

theorem Meets.noteSkipped (h : Store.MeetAt (id :: b.report.settled) b.session.store w) :
    (b.noteSkipped id).Meets w := by
  refine h.mono fun x hx => ?_
  simp only [Batch.noteSkipped, Report.mem_settled, List.mem_append, List.mem_singleton] at hx
  rw [List.mem_cons, Report.mem_settled]
  tauto

theorem Meets.noteComputed (h : Store.MeetAt (id :: b.report.settled) b.session.store w) :
    (b.noteComputed id).Meets w := by
  refine h.mono fun x hx => ?_
  simp only [Batch.noteComputed, Report.mem_settled, List.mem_append, List.mem_singleton] at hx
  rw [List.mem_cons, Report.mem_settled]
  tauto

theorem Meets.schedule (h : b.Meets w) (id : BlockId) : (b.schedule id).Meets w := by
  unfold Meets
  rw [settled_schedule, store_schedule]
  exact h

theorem Meets.compute (h : Store.MeetAt (id :: b.report.settled) b.session.store w) :
    ((b.schedule id).noteComputed id).Meets w := by
  refine Meets.noteComputed ?_
  rw [settled_schedule, store_schedule]
  exact h

section
variable (framed : Framed s true b) (hs : s.store.Sound) (meets : b.Meets w)
  (fed : ∀ a, (Graph.ofStore s.store).Feeds a id → a ∈ b.report.settled)

include framed hs meets fed

theorem takeTurn_onto (archive : Archive) :
    ∃ turn u w', b.session.takeTurn b.force id = (turn, u) ∧
      (b.onto w archive).session.takeTurn (b.onto w archive).force id = (turn, u.onto w' archive) ∧
      Store.MeetAt b.report.settled u.store w' ∧
      (turn.requests = [] → Store.MeetAt (id :: b.report.settled) u.store w') := by
  rw [show (b.onto w archive).force = b.force from rfl, framed.force_eq]
  refine Session.takeTurn_onto framed.ofStore_eq (framed.alike.sound hs) meets (fun a hf => ?_)
    archive
  rw [framed.alike.ofStore] at hf
  exact fed a hf

theorem takeIsolated_onto (archive : Archive) :
    ∃ w', (b.onto w archive).takeIsolated id = (b.takeIsolated id).onto w' archive ∧
      (b.takeIsolated id).Meets w' := by
  obtain ⟨turn, u, w', hb, hw, meet, settles⟩ := takeTurn_onto framed hs meets fed archive
  refine ⟨w', ?_⟩
  unfold takeIsolated
  rw [hb, hw]
  cases turn with
  | skipped => exact ⟨rfl, .noteSkipped (b := { b with session := u }) (settles rfl)⟩
  | applied => exact ⟨rfl, .noteComputed (b := { b with session := u }) (settles rfl)⟩
  | asked r => exact ⟨rfl, meet⟩

theorem takeQueued_onto (rest : List BlockId) (archive : Archive) :
    ∃ w', (b.onto w archive).takeQueued id rest = (b.takeQueued id rest).onto w' archive ∧
      (b.takeQueued id rest).Meets w' := by
  obtain ⟨turn, u, w', hb, hw, meet, settles⟩ := takeTurn_onto framed hs meets fed archive
  let drawn : Batch := { b with session := u, queue := rest, handled := id :: b.handled }
  refine ⟨w', ?_⟩
  unfold takeQueued
  rw [hb, hw]
  cases turn with
  | skipped => exact ⟨rfl, .noteSkipped (b := drawn) (settles rfl)⟩
  | applied =>
    have scheduled : (drawn.onto w' archive).schedule id = (drawn.schedule id).onto w' archive :=
      schedule_onto (b := drawn) (framed.graded hs) id w' archive
    exact ⟨congrArg (noteComputed · id) scheduled, .compute (b := drawn) (settles rfl)⟩
  | asked r => exact ⟨rfl, meet⟩

end

theorem finish_chain_ok (hc : b.chain = some r) (contains : b.session.store.contains r.id = true)
    (ha : backend.answer r = .ok content) :
    b.finish backend r =
      (({ b with
        session := (b.answered backend r).fill r.id content r.input (some r.transform)
        chain := none } : Batch).noteComputed r.id).schedule r.id := by
  let closed : Batch := { b with session := b.answered backend r, chain := none }
  rw [finish_chain hc, ha, store_ok (b := closed) contains]
  rfl

theorem finish_pool_ok (hc : b.chain ≠ some r) (contains : b.session.store.contains r.id = true)
    (ha : backend.answer r = .ok content) :
    b.finish backend r =
      ({ b with
        session := (b.answered backend r).fill r.id content r.input (some r.transform)
        pool := b.pool.erase r } : Batch).noteComputed r.id := by
  let closed : Batch := { b with session := b.answered backend r, pool := b.pool.erase r }
  rw [finish_pool hc, ha, store_ok (b := closed) contains]

section
variable (hs : s.store.Sound) (hok : ∀ r, ∃ content, backend.answer r = .ok content)
  (h : Stage backend s seeds true [] b) (meets : b.Meets w)

include hs hok h meets

theorem finish_onto (hr : r ∈ b.calls) (archive : Archive) :
    ∃ w', (b.onto w archive).finish backend r = (b.finish backend r).onto w' archive ∧
      (b.finish backend r).Meets w' := by
  obtain ⟨content, ha⟩ := hok r
  have contains := h.contains_of_mem_calls hs hr
  have contains' : (b.onto w archive).session.store.contains r.id = true := by
    show w.contains r.id = true
    rw [← meets.twins.alike.contains, contains]
  obtain ⟨blk, hb, hk⟩ : ∃ blk, b.session.store.get? r.id = some blk ∧
      blk.kind.recomputes = true := by
    obtain ⟨new, asks⟩ := h.asks hs
    have asked := asks.generates_of_mem (List.mem_append_right _ (List.mem_map_of_mem hr))
    rw [← h.framed.generates_eq hs] at asked
    obtain ⟨blk, hb, hk⟩ := Store.exists_of_generates asked
    exact ⟨blk, hb, Kind.recomputes_of_isGenerative hk⟩
  have filled := meets.fill content r.input (some r.transform) hb hk
  refine ⟨w.modify r.id (.filled content r.input (some r.transform)), ?_⟩
  by_cases hc : b.chain = some r
  · rw [finish_chain_ok hc contains ha, finish_chain_ok (b := b.onto w archive) hc contains' ha]
    let closed : Batch :=
      { b with
        session := (b.answered backend r).fill r.id content r.input (some r.transform)
        chain := none }
    exact ⟨schedule_onto (b := closed.noteComputed r.id) (h.framed.graded hs) ..,
      Meets.schedule (b := closed.noteComputed r.id) (.noteComputed (b := closed) filled) r.id⟩
  · rw [finish_pool_ok hc contains ha, finish_pool_ok (b := b.onto w archive) hc contains' ha]
    let closed : Batch :=
      { b with
        session := (b.answered backend r).fill r.id content r.input (some r.transform)
        pool := b.pool.erase r }
    exact ⟨rfl, .noteComputed (b := closed) filled⟩

/-- A step over twin stores comes to the same. -/
theorem step_onto (hn : b.report.cycle = none) (all : ∀ x ∈ s.store.ids, x ∈ seeds)
    (archive : Archive) :
    ∃ w', (b.onto w archive).step backend = (b.step backend).onto w' archive ∧
      (b.step backend).Meets w' := by
  rcases step_cases_of_session backend b with ⟨id, rest, hc, hq, e⟩ | ⟨r, hr, -, e⟩ | ⟨-, e⟩
  · have takes : b.Takes id := ⟨hc, by rw [hq]; rfl⟩
    have same := e b.session
    have other := e (b.session.onto w archive)
    obtain ⟨w', after, meets'⟩ := takeQueued_onto h.framed hs meets
      (fun a hf => h.mem_settled_of_feeds hs hn all takes hf) rest archive
    exact ⟨w', other.trans (same ▸ after), same ▸ meets'⟩
  · obtain ⟨w', after, meets'⟩ := finish_onto hs hok h meets hr archive
    have same := e b.session
    have other := e (b.session.onto w archive)
    exact ⟨w', other.trans (same ▸ after), same ▸ meets'⟩
  · have same := e b.session
    have other := e (b.session.onto w archive)
    exact ⟨w, other.trans (same ▸ rfl), same ▸ meets⟩

end

theorem noteCycle_onto (b : Batch) (c : Cycle) (w : Store) (archive : Archive) :
    (b.onto w archive).noteCycle c = (b.noteCycle c).onto w archive := by
  unfold noteCycle
  rw [Session.emit_eq, Session.emit_eq]
  rfl

theorem seedsOf_onto (twins : s.store.Twins w) (seeds : List BlockId) (archive : Archive) :
    seedsOf (s.onto w archive) seeds = seedsOf s seeds := by
  have contains : w.contains = s.store.contains := funext twins.symm.alike.contains
  show (seeds.filter w.contains).eraseDups = _
  rw [contains]
  rfl

theorem opening_onto (twins : s.store.Twins w) (seeds : List BlockId) (force : Bool)
    (archive : Archive) :
    isolatedSeeds (s.onto w archive) seeds = isolatedSeeds s seeds ∧
      opening (s.onto w archive) seeds force = (opening s seeds force).onto w archive := by
  have graph : Graph.ofStore (s.onto w archive).store = .ofStore s.store := twins.symm.alike.ofStore
  have isolated : isolatedSeeds (s.onto w archive) seeds = isolatedSeeds s seeds := by
    rw [isolatedSeeds, seedsOf_onto twins, graph]
    rfl
  have related : relatedSeeds (s.onto w archive) seeds = relatedSeeds s seeds := by
    rw [relatedSeeds, seedsOf_onto twins, graph]
    rfl
  have began : (s.onto w archive).regraph = s.regraph.onto w archive := by
    rw [Session.regraph, graph]
    rfl
  refine ⟨isolated, ?_⟩
  unfold opening
  dsimp only
  rw [related, began, graph]
  cases Graph.pick (relatedSeeds s seeds) (Graph.ofStore s.store).components with
  | ok order => rfl
  | error c => exact noteCycle_onto (bare s force) c w archive

theorem start_onto (hs : s.store.Sound) (twins : s.store.Twins w) (backend : Backend)
    (seeds : List BlockId) (archive : Archive) :
    ∃ w', start (s.onto w archive) seeds true = (start s seeds true).onto w' archive ∧
      (start s seeds true).Meets w' := by
  have fold : ∀ (pending : List BlockId) (b : Batch) (w : Store),
      Stage backend s seeds true pending b → b.Meets w →
      ∃ w', pending.foldl takeIsolated (b.onto w archive) =
          (pending.foldl takeIsolated b).onto w' archive ∧
        (pending.foldl takeIsolated b).Meets w' := by
    intro pending
    induction pending with
    | nil => exact fun b w _ meets => ⟨w, rfl, meets⟩
    | cons id pending ih =>
      intro b w h meets
      have isolated := (mem_isolatedSeeds.mp (h.pending_subset id (List.mem_cons_self ..))).2
      obtain ⟨w', e, meets'⟩ := takeIsolated_onto h.framed hs meets
        (fun a hf => absurd isolated hf.not_isIsolated.2) archive
      rw [List.foldl_cons, List.foldl_cons, e]
      exact ih _ w' (.move h h.takeIsolated) meets'
  obtain ⟨isolated, opened⟩ := opening_onto twins seeds true archive
  rw [start_eq, start_eq, isolated, opened]
  refine fold _ _ w .opening ?_
  have unsettled : (opening s seeds true).report.settled = [] := by
    rw [opening_frame]
    rfl
  rw [Meets, unsettled, store_opening]
  exact .of_twins twins

/-- A batch that computes all blocks, in a graph without circles and with a generator that does not
fail, comes to the same over twin stores. -/
theorem run_onto (hs : s.store.Sound) (acyclic : (Graph.ofStore s.store).Acyclic)
    (hok : ∀ r, ∃ content, backend.answer r = .ok content) (all : ∀ x ∈ s.store.ids, x ∈ seeds)
    (twins : s.store.Twins w) (archive : Archive) :
    (start (s.onto w archive) seeds true).run backend =
      ((start s seeds true).run backend).onto ((start s seeds true).run backend).session.store
        archive := by
  obtain ⟨w₀, began, meets₀⟩ := start_onto hs twins backend seeds archive
  have follows : ∀ n, ∃ w', steps backend n ((start s seeds true).onto w₀ archive) =
      (steps backend n (start s seeds true)).onto w' archive ∧
        (steps backend n (start s seeds true)).Meets w' := by
    intro n
    induction n with
    | zero => exact ⟨w₀, rfl, meets₀⟩
    | succ n ih =>
      obtain ⟨w', e, meets⟩ := ih
      have stage := stage_steps hs backend seeds true n
      rw [steps_succ, steps_succ, e]
      exact step_onto hs hok stage meets (stage.cycle_of_acyclic hs acyclic) all archive
  have bound : ((start s seeds true).onto w₀ archive).bound = (start s seeds true).bound := by
    show 2 * w₀.size + _ = 2 * _ + _
    rw [meets₀.twins.alike.size]
    rfl
  obtain ⟨w', e, meets⟩ := follows (start s seeds true).bound
  have ended : (start s seeds true).run backend =
      steps backend (start s seeds true).bound (start s seeds true) := rfl
  have framed := Session.framed_run hs backend seeds true
  rw [began, run, bound, e, ← ended]
  rw [← ended] at meets
  congr 1
  refine meets.twins.symm.alike.eq_of_get? (framed.alike.sound hs) fun x => ?_
  by_cases known : x ∈ s.store.ids
  · exact (meets.same x (mem_settled_of_mem_seeds hs (cycle_run hs acyclic backend seeds true)
      (all x known) known)).symm
  · have absent : ∀ c, ((start s seeds true).run backend).session.store.get? x = some c →
        c.kind.recomputes = false := by
      intro c hc
      rw [← framed.alike.ids] at known
      exact absurd (Store.mem_ids.mpr ⟨c, Store.mem_of_get? hc⟩) known
    exact ((meets.inert absent).same x (List.mem_cons_self ..)).symm

end Batch
end Workbook
