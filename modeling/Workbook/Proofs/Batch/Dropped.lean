import Mathlib.Data.Nat.Find
import Workbook.Proofs.Batch.Complete
import Workbook.Proofs.Graph.Arrange

/-!
Blocks that are dropped from the queue.

What can be in the queue after a step is what was in it and the dependents of what the step
computed, but for blocks that were taken (`Contends`).  Of these, the ones that are joined with no
other are in the queue indeed (`Stage.mem_queue_step`); the others are dropped.  A batch does not
remember what it dropped.  A block that was dropped comes back if another block that it mentions is
computed later, and if nothing that contends then is joined with it; from its last drop on, it is
this alone that decides what becomes of it (`dropped_settled_iff`).
-/

namespace Workbook
namespace Batch

/-- If there is nothing against it, the block is in the queue after a move from `b` to `b'`: it was
in it before, or mentions a block that the move has computed, and it has not been taken. -/
def Contends (b b' : Batch) (x : BlockId) : Prop :=
  (x ∈ b.queue ∨ ∃ a ∈ b'.report.computed, a ∉ b.report.computed ∧
    b.session.graph.hasLink a x = true) ∧ x ∉ b'.handled

/-- The next step of the batch drops a block that contends for a place in the queue. -/
def Drops (backend : Backend) (b : Batch) (x : BlockId) : Prop :=
  Contends b (b.step backend) x ∧ x ∉ (b.step backend).queue

instance (b b' : Batch) (x : BlockId) : Decidable (Contends b b' x) :=
  inferInstanceAs (Decidable ((_ ∨ ∃ a ∈ _, _) ∧ _))

instance (backend : Backend) (b : Batch) (x : BlockId) : Decidable (b.Drops backend x) :=
  inferInstanceAs (Decidable (_ ∧ _))

variable {backend : Backend} {g : Graph} {s : Session} {seeds : List BlockId} {force : Bool}
  {hand pending pending' : List BlockId} {b b₁ b' : Batch} {id x : BlockId}

/-! ## The queue after a move -/

theorem Places.mem_queue_iff (h : Places g hand b) : x ∈ b.queue ↔ x ∈ b.queue ∧ x ∉ b.handled :=
  (and_iff_left_of_imp fun hx => (h.queued x hx).2.2).symm

theorem Draws.mem_queue_iff (hd : Draws pending b id pending' b') (h : Places g pending b) :
    x ∈ b'.queue ↔ x ∈ b.queue ∧ x ∉ b'.handled := by
  have drawn := (h.draw hd).mem_queue_iff (x := x)
  cases hd with
  | isolated => exact drawn
  | queued hc hq =>
    rw [drawn, hq, List.mem_cons, List.mem_cons, not_or]
    constructor
    · exact fun given => ⟨.inr given.1, given.2⟩
    · exact fun given => ⟨given.1.resolve_left given.2.1, given.2⟩

theorem Closes.mem_queue_iff {r : Request} (hr : Closes b r b') (h : Places g pending b) :
    x ∈ b'.queue ↔ x ∈ b.queue ∧ x ∉ b'.handled := by
  rw [hr.frame]
  exact h.mem_queue_iff

/-- No two blocks of the queue are joined. -/
theorem Places.eq_of_joined (h : Places g hand b) {y : BlockId} (hx : x ∈ b.queue)
    (hy : y ∈ b.queue) (hxy : g.Joined x y) : y = x := by
  by_contra hne
  have first := h.arranged.idxOf_lt hx hy (Ne.symm hne) hxy.1
  have second := h.arranged.idxOf_lt hy hx hne hxy.2
  exact Nat.lt_asymm first second

/-- In the queue are those that wait and are joined with no other that does. -/
theorem Places.mem_queue_schedule_iff (h : Places (.ofStore s.store) hand b) (hs : s.store.Sound)
    (framed : Framed s force b) :
    x ∈ (b.schedule id).queue ↔ x ∈ b.waiting id ∧
      ∀ y ∈ b.waiting id, (Graph.ofStore s.store).Joined x y → y = x := by
  have hg := Graph.sound_ofStore hs
  have mem (y : BlockId) : y ∈ b.waiting id ↔
      y ∈ b.queue ∨ (Graph.ofStore s.store).hasLink id y = true ∧ y ∉ b.handled :=
    mem_waiting framed.graph_eq
  rw [schedule_eq (framed.graded hs)]
  split
  case isTrue hd =>
    have unlinked : ∀ y, ¬ (Graph.ofStore s.store).hasLink id y = true := by
      intro y hl
      rw [← Graph.mem_dependents, ← framed.graph_eq, hd] at hl
      exact absurd hl List.not_mem_nil
    have same : ∀ y, y ∈ b.waiting id ↔ y ∈ b.queue := fun y =>
      (mem y).trans (or_iff_left fun hl => unlinked y hl.1)
    simp only [same]
    exact (and_iff_left_of_imp fun hx y hy hxy => h.eq_of_joined hx hy hxy).symm
  case isFalse hd =>
    rw [noteCycles_eq]
    constructor
    · intro hx
      exact (Graph.mem_alone_iff (framed.graded hs) (Graph.mem_of_mem_alone hx).2).mp hx
    · intro hx
      refine (Graph.mem_alone_iff (framed.graded hs) ?_).mpr hx
      rw [framed.components_eq, Graph.mem_components hg]
      rcases (mem x).mp hx.1 with hx | ⟨hl, -⟩
      · exact (h.queued x hx).1
      · exact (hg.ends_mem (Graph.hasLink_iff.mp hl)).2

/-- Who contends if the move has computed nothing. -/
theorem contends_of_computed_eq (hc : b'.report.computed = b.report.computed) :
    Contends b b' x ↔ x ∈ b.queue ∧ x ∉ b'.handled := by
  rw [Contends, hc]
  refine and_congr_left fun _ => or_iff_left ?_
  rintro ⟨a, ha, hna, -⟩
  exact hna ha

/-- Who contends if the move has computed block `id`, which was drawn or had its request ended. -/
theorem contends_of_compute (hg : b.session.graph = g) (hg' : b₁.session.graph = g)
    (fresh : id ∉ b.report.computed) (hc : b₁.report.computed = b.report.computed)
    (hq : ∀ x, x ∈ b₁.queue ↔ x ∈ b.queue ∧ x ∉ b₁.handled) :
    Contends b ((b₁.schedule id).noteComputed id) x ↔ x ∈ b₁.waiting id := by
  have computed : ∀ a, (a ∈ ((b₁.schedule id).noteComputed id).report.computed ∧
      a ∉ b.report.computed ∧ g.hasLink a x = true) ↔ a = id ∧ g.hasLink id x = true := by
    intro a
    rw [noteComputed, computed_schedule, hc, List.mem_append, List.mem_singleton]
    constructor
    · rintro ⟨ha, hna, hl⟩
      have e := ha.resolve_left hna
      exact ⟨e, e ▸ hl⟩
    · rintro ⟨e, hl⟩
      subst e
      exact ⟨.inr rfl, fresh, hl⟩
  rw [mem_waiting hg', hq, Contends, hg]
  simp only [computed, exists_eq_left]
  show _ ∧ x ∉ (b₁.schedule id).handled ↔ _
  rw [handled_schedule, or_and_right]

/-- In the queue after a move are the blocks that contend and are joined with no other that does. -/
theorem Moves.mem_queue_iff (hm : Moves backend pending b pending' b') (hs : s.store.Sound)
    (framed : Framed s force b) (places : Places (.ofStore s.store) pending b)
    (places' : Places (.ofStore s.store) pending' b') :
    x ∈ b'.queue ↔ Contends b b' x ∧
      ∀ y, Contends b b' y → (Graph.ofStore s.store).Joined x y → y = x := by
  -- where nothing is computed, whoever contends has been in the queue, where no two are joined
  have idle : b'.report.computed = b.report.computed →
      (∀ x, x ∈ b'.queue ↔ x ∈ b.queue ∧ x ∉ b'.handled) →
      (x ∈ b'.queue ↔ Contends b b' x ∧
        ∀ y, Contends b b' y → (Graph.ofStore s.store).Joined x y → y = x) := by
    intro hc hq
    simp only [contends_of_computed_eq hc, ← hq]
    exact (and_iff_left_of_imp fun hx y hy hxy => places'.eq_of_joined hx hy hxy).symm
  cases hm with
  | @skipped _ _ _ b₁ _ session hd ht =>
    have same : b₁.report.computed = b.report.computed := congrArg Report.computed hd.report_eq
    exact idle same fun x => hd.mem_queue_iff places
  | @applied _ _ _ b₁ id session hd ht =>
    have drawn := places.draw hd
    have turned := framed.turn hd ht
    have fresh : id ∉ b.report.computed := fun hid =>
      drawn.not_mem_settled (hd.report_eq ▸ Report.mem_settled.mpr (.inl hid))
    have contends := fun x => contends_of_compute (x := x) framed.graph_eq turned.graph_eq fresh
      (congrArg Report.computed hd.report_eq) fun x => hd.mem_queue_iff places
    simp only [contends]
    exact (drawn.session session).mem_queue_schedule_iff hs turned
  | askedIsolated => exact idle rfl fun x => places.mem_queue_iff
  | @askedQueued _ _ _ _ _ hc hq =>
    exact idle rfl fun x => (Draws.queued hc hq).mem_queue_iff places
  | @filled _ b₁ r content hr =>
    have closed := places.close hr
    have filled := framed.fill backend hr content
    have fresh : r.id ∉ b.report.computed := fun hid =>
      closed.not_mem_settled (hr.report_eq ▸ Report.mem_settled.mpr (.inl hid))
    have contends := fun x => contends_of_compute (x := x) framed.graph_eq filled.graph_eq fresh
      (congrArg Report.computed hr.report_eq) fun x => hr.mem_queue_iff places
    simp only [contends]
    exact (closed.session _).mem_queue_schedule_iff hs filled
  | @refused _ b₁ r e hr =>
    have same : b₁.report.computed = b.report.computed := congrArg Report.computed hr.report_eq
    exact idle same fun x => hr.mem_queue_iff places

theorem Stage.mem_queue_step (hs : s.store.Sound) (h : Stage backend s seeds force [] b) :
    x ∈ (b.step backend).queue ↔ Contends b (b.step backend) x ∧
      ∀ y, Contends b (b.step backend) y → (Graph.ofStore s.store).Joined x y → y = x := by
  rcases h.step hs with hm | ⟨done, e⟩
  · exact hm.mem_queue_iff hs h.framed (h.places hs) ((h.next hs).places hs)
  · have empty := (isDone_iff.mp done).1
    rw [e, contends_of_computed_eq rfl, empty]
    simp

/-! ## What becomes of dropped blocks -/

/-- A block is dropped for another that is joined with it, which is dropped too. -/
theorem Stage.drops_together (hs : s.store.Sound) (h : Stage backend s seeds force [] b)
    (hx : b.Drops backend x) :
    ∃ y, y ≠ x ∧ b.Drops backend y ∧ (Graph.ofStore s.store).Joined x y := by
  obtain ⟨contends, out⟩ := hx
  have crowded := mt (h.mem_queue_step hs).mpr out
  push Not at crowded
  obtain ⟨y, hy, hxy, hne⟩ := crowded contends
  refine ⟨y, hne, ⟨hy, fun hmem => ?_⟩, hxy⟩
  exact hne (((h.mem_queue_step hs).mp hmem).2 x contends hxy.symm).symm

theorem not_drops_of_isDone (h : b.isDone = true) : ¬ b.Drops backend x := by
  rintro ⟨contends, -⟩
  rw [step_of_isDone backend h, contends_of_computed_eq rfl, (isDone_iff.mp h).1] at contends
  exact absurd contends.1 List.not_mem_nil

/-- What becomes so between two numbers becomes so at some number. -/
theorem exists_turning {p : Nat → Prop} {m n : Nat} (hm : ¬ p m) (hn : p n) (h : m ≤ n) :
    ∃ k, m ≤ k ∧ k < n ∧ ¬ p k ∧ p (k + 1) := by
  induction n, h using Nat.le_induction with
  | base => exact absurd hn hm
  | succ n h ih =>
    by_cases before : p n
    · obtain ⟨k, hk, lt, turning⟩ := ih before
      exact ⟨k, hk, Nat.lt_succ_of_lt lt, turning⟩
    · exact ⟨n, h, Nat.lt_succ_self n, before, hn⟩

section
variable (hs : s.store.Sound) (h : Stage backend s seeds force [] b)
  (kept : ∀ m, ¬ (steps backend m b).Drops backend x)

include kept

/-- A block that waits goes on waiting or is taken, as long as it is not dropped. -/
theorem waits_of_kept (hx : x ∈ b.queue ∨ x ∈ b.handled) (n : Nat) :
    x ∈ (steps backend n b).queue ∨ x ∈ (steps backend n b).handled := by
  induction n with
  | zero => exact hx
  | succ n ih =>
    rw [steps_succ]
    by_cases taken : x ∈ ((steps backend n b).step backend).handled
    · exact .inr taken
    · left
      by_contra out
      rcases ih with hx | hx
      · exact kept n ⟨⟨.inl hx, taken⟩, out⟩
      · exact taken ((handled_suffix_steps backend (steps backend n b) 1).subset hx)

include hs h

/-- A block that is not dropped any more and does not wait is taken in the end if and only if a
block that it mentions is computed. -/
theorem mem_handled_iff_of_kept (out : x ∉ b.queue) (untaken : x ∉ b.handled) {n : Nat}
    (done : (steps backend n b).isDone = true) :
    x ∈ (steps backend n b).handled ↔ ∃ a ∈ (steps backend n b).report.computed,
      a ∉ b.report.computed ∧ (Graph.ofStore s.store).hasLink a x = true := by
  have stage := h.steps hs
  constructor
  · intro taken
    obtain ⟨m, hm, takes⟩ := exists_takes untaken taken
    -- it does not wait now and it does when it is taken, so it came into the queue in between
    obtain ⟨k, -, hk, before, after⟩ := exists_turning
      (p := fun k => x ∈ (steps backend k b).queue) (m := 0) out (List.mem_of_head? takes.2)
      (Nat.zero_le m)
    rw [steps_succ, (stage k).mem_queue_step hs] at after
    obtain ⟨⟨waited | ⟨a, ha, new, hl⟩, -⟩, -⟩ := after
    · exact absurd waited before
    · obtain ⟨j, rfl⟩ := Nat.le.dest (Nat.succ_le_of_lt (Nat.lt_trans hk hm))
      rw [(stage k).framed.graph_eq] at hl
      rw [← steps_succ] at ha
      refine ⟨a, ?_, fun ha => new ((report_extends_steps hs h k).computed.subset ha), hl⟩
      rw [steps_add]
      exact (report_extends_steps hs (stage (k + 1)) j).computed.subset ha
  · rintro ⟨a, ha, new, hl⟩
    obtain ⟨k, -, hk, before, after⟩ := exists_turning
      (p := fun k => a ∈ (steps backend k b).report.computed) (m := 0) new ha (Nat.zero_le n)
    obtain ⟨j, rfl⟩ := Nat.le.dest (Nat.succ_le_of_lt hk)
    rw [steps_add] at done ⊢
    rw [← (stage k).framed.graph_eq] at hl
    have waits : x ∈ (steps backend (k + 1) b).queue ∨ x ∈ (steps backend (k + 1) b).handled := by
      by_contra gone
      obtain ⟨out, untaken⟩ := not_or.mp gone
      rw [steps_succ] at out untaken after
      exact kept k ⟨⟨.inr ⟨a, after, before, hl⟩, untaken⟩, out⟩
    have later := waits_of_kept (fun m => by rw [← steps_add]; exact kept _) waits j
    rw [(isDone_iff.mp done).1] at later
    exact later.resolve_left List.not_mem_nil

end

/-- A block that can be in the queue is settled by a batch if the batch takes it. -/
theorem mem_settled_run_iff (hs : s.store.Sound)
    (related : ¬ (Graph.ofStore s.store).isIsolated x = true) :
    x ∈ ((start s seeds force).run backend).report.settled ↔
      x ∈ ((start s seeds force).run backend).handled := by
  have places := (stage_run hs backend seeds force).places hs
  rw [places.mem_handled, mem_accounted_run hs, and_iff_right related]

theorem mem_handled_run_of_takes (hs : s.store.Sound) {n : Nat}
    (takes : (steps backend n (start s seeds force)).Takes x) :
    x ∈ ((start s seeds force).run backend).handled := by
  have turned := handled_step_of_takes backend takes
  rw [← steps_bound hs backend seeds force (n + 1), steps_succ]
  apply (handled_suffix_steps backend _ _).subset
  rw [turned]
  exact List.mem_cons_self ..

theorem Stage.not_isIsolated_of_contends (hs : s.store.Sound)
    (h : Stage backend s seeds force pending b) (hx : Contends b b' x) :
    ¬ (Graph.ofStore s.store).isIsolated x = true := by
  obtain ⟨waited | ⟨a, -, -, hl⟩, -⟩ := hx
  · exact ((h.places hs).queued x waited).2.1
  · rw [h.framed.graph_eq] at hl
    exact fun isolated => (Graph.isIsolated_iff.mp isolated a).2 hl

/-- A batch that is over drops nothing, so there is a last time that a block is dropped. -/
theorem exists_last_drop (hs : s.store.Sound) {n : Nat}
    (dropped : (steps backend n (start s seeds force)).Drops backend x) :
    ∃ last, n ≤ last ∧ (steps backend last (start s seeds force)).Drops backend x ∧
      ∀ m, last < m → ¬ (steps backend m (start s seeds force)).Drops backend x := by
  let p := fun m => (steps backend m (start s seeds force)).Drops backend x
  let bound := (start s seeds force).bound
  have within : ∀ m, p m → m ≤ bound := by
    intro m drops
    by_contra late
    obtain ⟨done, e⟩ := steps_eq_run hs backend seeds force (Nat.le_of_not_le late)
    rw [← e] at done
    exact not_drops_of_isDone done drops
  refine ⟨Nat.findGreatest p bound, Nat.le_findGreatest (within n dropped) dropped,
    Nat.findGreatest_spec (P := p) (within n dropped) dropped, fun m hm drops => ?_⟩
  exact Nat.findGreatest_is_greatest hm (within m drops) drops

/-- A block that was dropped from the queue was dropped together with one that is joined with it,
and there is a last time that it is dropped.  It is settled at the end if and only if a block that
it mentions is computed after that.  If not, it does not have its turn at all, and is as it was
before the batch. -/
theorem dropped_settled_iff (h : s.Reachable) (backend : Backend) (seeds : List BlockId)
    (force : Bool) {n : Nat} {x : BlockId}
    (dropped : (steps backend n (start s seeds force)).Drops backend x) :
    let g := Graph.ofStore s.store
    let after := fun m => steps backend m (start s seeds force)
    let outcome := s.propagate backend seeds force
    (∃ y, y ≠ x ∧ (after n).Drops backend y ∧ g.Joined x y) ∧
    (∃ last, n ≤ last ∧ (after last).Drops backend x ∧
      (∀ m, last < m → ¬ (after m).Drops backend x) ∧
      (x ∈ outcome.1.settled ↔ ∃ a ∈ outcome.1.computed,
        a ∉ (after (last + 1)).report.computed ∧ g.hasLink a x = true)) ∧
    (x ∉ outcome.1.settled → (∀ m, ¬ (after m).Takes x) ∧
      outcome.2.store.get? x = s.store.get? x) := by
  intro g after outcome
  have hs := h.sound
  have stage := stage_steps hs backend seeds force
  have settled_iff : x ∈ outcome.1.settled ↔ x ∈ ((start s seeds force).run backend).handled :=
    mem_settled_run_iff hs ((stage n).not_isIsolated_of_contends hs dropped.1)
  refine ⟨(stage n).drops_together hs dropped, ?_, fun unsettled => ⟨fun m takes => ?_, ?_⟩⟩
  · obtain ⟨last, hn, drops, final⟩ := exists_last_drop hs dropped
    refine ⟨last, hn, drops, final, settled_iff.trans ?_⟩
    have untaken : x ∉ (after (last + 1)).handled := by
      show x ∉ (steps backend (last + 1) _).handled
      rw [steps_succ]
      exact drops.1.2
    have out : x ∉ (after (last + 1)).queue := by
      show x ∉ (steps backend (last + 1) _).queue
      rw [steps_succ]
      exact drops.2
    have kept : ∀ m, ¬ (steps backend m (after (last + 1))).Drops backend x := by
      intro m
      show ¬ (steps backend m (steps backend (last + 1) _)).Drops backend x
      rw [← steps_add]
      exact final _ (by omega)
    have ended := steps_bound hs backend seeds force (last + 1)
    have done := (steps_eq_run hs backend seeds force (Nat.le_refl _)).1
    rw [← ended] at done
    have taken := mem_handled_iff_of_kept hs (stage (last + 1)) kept out untaken done
    rw [ended] at taken
    exact taken
  · exact unsettled (settled_iff.mpr (mem_handled_run_of_takes hs takes))
  · show (s.propagate backend seeds force).2.store.get? x = _
    rw [store_propagate]
    exact ((stage_run hs backend seeds force).spares hs
      (mt (mem_accounted_run hs).mp unsettled)).get?_eq

/-- Two blocks that mention each other, both of which mention a third; and one that mentions the
third too and is mentioned by one of the two. -/
def revived : Session :=
  Session.ofBlocks
    [{ id := ⟨"1"⟩, name := "a", kind := .static, data := "x" },
      { id := ⟨"2"⟩, name := "b", kind := .static, data := "[a][c][d]" },
      { id := ⟨"3"⟩, name := "c", kind := .static, data := "[a][b]" },
      { id := ⟨"4"⟩, name := "d", kind := .static, data := "[a]" }]

theorem reachable_revived : revived.Reachable := Session.reachable_ofBlocks _

/-- When the third block is computed, the two are dropped together.  Then the block that one of them
mentions is computed, which puts that one into the queue again. -/
theorem dropped_and_settled_in_revived :
    let backend : Backend := { answer := fun r => .ok (.text r.input) }
    let g := Graph.ofStore revived.store
    let after := fun m => steps backend m (start revived [⟨"1"⟩] true)
    let outcome := revived.propagate backend [⟨"1"⟩] true
    revived.Reachable ∧ (after 0).Drops backend ⟨"2"⟩ ∧
      (∃ y, y ≠ ⟨"2"⟩ ∧ (after 0).Drops backend y ∧ g.Joined ⟨"2"⟩ y) ∧
      outcome.1.computed = [⟨"1"⟩, ⟨"4"⟩, ⟨"2"⟩, ⟨"3"⟩] ∧
      ∃ last, (after last).Drops backend ⟨"2"⟩ ∧
        (∀ m, last < m → ¬ (after m).Drops backend ⟨"2"⟩) ∧
        ∃ a ∈ outcome.1.computed, a ∉ (after (last + 1)).report.computed ∧
          g.hasLink a ⟨"2"⟩ = true := by
  intro backend g after outcome
  have dropped : (after 0).Drops backend ⟨"2"⟩ := by decide +kernel
  have computed : outcome.1.computed = [⟨"1"⟩, ⟨"4"⟩, ⟨"2"⟩, ⟨"3"⟩] := by decide +kernel
  have settled : ⟨"2"⟩ ∈ outcome.1.settled := by
    rw [Report.mem_settled, computed]
    exact .inl (by decide)
  obtain ⟨together, ⟨last, -, drops, final, settles⟩, -⟩ :=
    dropped_settled_iff reachable_revived backend [⟨"1"⟩] true dropped
  exact ⟨reachable_revived, dropped, together, computed, last, drops, final, settles.mp settled⟩

/-- So it is not so that a block that was dropped from the queue is not settled by the batch. -/
theorem not_all_dropped_unsettled :
    ¬ ∀ (s : Session) (backend : Backend) (seeds : List BlockId) (force : Bool) (n : Nat)
      (x : BlockId), s.Reachable → (steps backend n (start s seeds force)).Drops backend x →
        x ∉ (s.propagate backend seeds force).1.settled := by
  intro all
  let backend : Backend := { answer := fun r => .ok (.text r.input) }
  have outcome : (steps backend 0 (start revived [⟨"1"⟩] true)).Drops backend ⟨"2"⟩ ∧
      ⟨"2"⟩ ∈ (revived.propagate backend [⟨"1"⟩] true).1.settled := by decide +kernel
  exact all revived backend [⟨"1"⟩] true 0 _ reachable_revived outcome.1 outcome.2

end Batch
end Workbook
