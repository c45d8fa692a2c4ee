import Workbook.Proofs.Graph.Components
import Workbook.Proofs.Session.Turn

/-!
How the queue changes when the dependents of a block are put into it.

`schedule_eq` says it in full: the queue becomes those blocks of the old one and of the unhandled
dependents that share their component with no other of them, in order.  A cycle is reported for each
handled dependent that does not lead back directly, and then for each component that was in the way.
The number of rounds that `enqueue` is given does not matter as long as it exceeds the number of
blocks that wait (`enqueue_eq`).
-/

namespace Workbook
namespace Batch

open Workbook.Graph (alone crowded)

/-- Reports cycles, one after another. -/
def noteCycles (b : Batch) (cycles : List Cycle) : Batch := cycles.foldl noteCycle b

theorem noteCycles_eq (b : Batch) (cycles : List Cycle) :
    b.noteCycles cycles =
      { b with
        session := { b.session with
          journal := b.session.journal ++
            cycles.flatMap fun c => b.session.told (.cycleDetected c.involved) }
        report := { b.report with cycle := b.report.cycle.or cycles.head? } } := by
  induction cycles generalizing b with
  | nil =>
    show b = _
    simp
  | cons c cycles ih =>
    show (b.noteCycle c).noteCycles cycles = _
    rw [ih]
    simp only [noteCycle, Session.emit_eq, Session.told, List.flatMap_cons, List.append_assoc,
      Option.or_assoc]
    cases b.report.cycle <;> rfl

theorem components_noteCycles (b : Batch) (cycles : List Cycle) :
    (b.noteCycles cycles).components = b.components := by
  rw [noteCycles_eq]

theorem noteCycles_append (b : Batch) (cycles more : List Cycle) :
    b.noteCycles (cycles ++ more) = (b.noteCycles cycles).noteCycles more :=
  List.foldl_append

theorem noteCycles_queue (b : Batch) (cycles : List Cycle) (queue : List BlockId) :
    ({ b with queue } : Batch).noteCycles cycles = { b.noteCycles cycles with queue } := by
  rw [noteCycles_eq, noteCycles_eq]

theorem requests_noteCycles (b : Batch) (cycles : List Cycle) :
    (b.noteCycles cycles).session.requests = b.session.requests := by
  induction cycles generalizing b with
  | nil => rfl
  | cons c cycles ih =>
    show ((b.noteCycle c).noteCycles cycles).session.requests = _
    rw [ih]
    exact Session.requests_emit ..

/-! ## Filling the queue -/

/-- The cycles that keep blocks from being computed. -/
def jams (b : Batch) (waiting : List BlockId) : List Cycle :=
  (crowded waiting b.components).map fun c => ⟨BlockId.sorted c⟩

/-- A crowded component takes some of the waiting blocks with it. -/
theorem length_filter_lt {g : Graph} {cs : List (List BlockId)} (h : g.Graded cs)
    {waiting c : List BlockId} (hc : c ∈ crowded waiting cs) :
    (waiting.filter fun id => !(BlockId.sorted c).contains id).length < waiting.length := by
  obtain ⟨-, x, hx, -, -, -, hxc, -⟩ := Graph.exists_of_mem_crowded h hc
  refine List.length_filter_lt_length_iff_exists.mpr ⟨x, hx, ?_⟩
  simpa using BlockId.mem_sorted.mpr hxc

theorem enqueue_eq {g : Graph} {b : Batch} (h : g.Graded b.components) {rounds : Nat}
    {waiting : List BlockId} (hr : waiting.length < rounds) :
    enqueue rounds b waiting =
      ({ b with queue := alone waiting b.components } : Batch).noteCycles (b.jams waiting) := by
  induction rounds generalizing b waiting with
  | zero => exact absurd hr (Nat.not_lt_zero _)
  | succ rounds ih =>
    unfold enqueue
    rw [Graph.pick_eq]
    unfold jams
    cases hc : crowded waiting b.components with
    | nil => rfl
    | cons c more =>
      -- the members of the component are dropped, which leaves the others as they are
      let kept := waiting.filter fun id => !(BlockId.sorted c).contains id
      have hk : ∀ x, x ∈ kept ↔ x ∈ waiting ∧ x ∉ c := by
        intro x
        rw [List.mem_filter, Bool.not_eq_true', ← Bool.not_eq_true, List.contains_iff_mem,
          BlockId.mem_sorted]
      obtain ⟨halone, hcrowded⟩ := Graph.crowded_drop h hc hk
      have hlt : kept.length < waiting.length :=
        length_filter_lt h (hc ▸ List.mem_cons_self .. : c ∈ crowded waiting _)
      show (if kept.length = waiting.length then _ else enqueue rounds _ kept) = _
      rw [if_neg (Nat.ne_of_lt hlt), ih (b := b.noteCycle _) h (by omega)]
      show ({ b.noteCycle _ with queue := alone kept b.components } : Batch).noteCycles
        ((crowded kept b.components).map _) = _
      rw [halone, hcrowded]
      rfl

/-! ## Putting dependents into the queue -/

/-- The handled ones of some dependents of a block that do not lead back to it directly. -/
def closing (b : Batch) (id : BlockId) (dependents : List BlockId) : List BlockId :=
  dependents.filter fun x => b.handled.contains x && !b.session.graph.hasLink x id

def fresh (b : Batch) (dependents : List BlockId) : List BlockId :=
  dependents.filter fun x => !b.handled.contains x

theorem graph_noteCycle (b : Batch) (c : Cycle) :
    (b.noteCycle c).session.graph = b.session.graph := by
  show (b.session.emit _).graph = _
  rw [Session.emit_eq]

theorem weigh_handled {b : Batch} {id x : BlockId} (h : x ∈ b.handled) (waiting : List BlockId) :
    weigh id (b, waiting) x =
      (if b.session.graph.hasLink x id then b
        else b.noteCycle ⟨b.session.graph.component x⟩, waiting) := by
  rw [weigh, if_pos (List.contains_iff_mem.mpr h)]
  split <;> rfl

theorem weigh_fresh {b : Batch} {id x : BlockId} (h : x ∉ b.handled) (waiting : List BlockId) :
    weigh id (b, waiting) x = (b, if waiting.contains x then waiting else waiting ++ [x]) := by
  rw [weigh, if_neg (mt List.contains_iff_mem.mp h)]
  split <;> rfl

theorem foldl_weigh (id : BlockId) (dependents : List BlockId) (hn : dependents.Nodup) (b : Batch)
    (waiting : List BlockId) :
    dependents.foldl (weigh id) (b, waiting) =
      (b.noteCycles ((b.closing id dependents).map fun x => ⟨b.session.graph.component x⟩),
        waiting ++ (b.fresh dependents).filter fun x => !waiting.contains x) := by
  induction dependents generalizing b waiting with
  | nil =>
    show (b, waiting) = (b, waiting ++ [])
    rw [List.append_nil]
  | cons x rest ih =>
    obtain ⟨hx, hrest⟩ := List.nodup_cons.mp hn
    rw [List.foldl_cons]
    by_cases hh : x ∈ b.handled
    · have hfresh : b.fresh (x :: rest) = b.fresh rest := by simp [fresh, hh]
      rw [weigh_handled hh, hfresh]
      by_cases hl : b.session.graph.hasLink x id = true
      · have hclosing : b.closing id (x :: rest) = b.closing id rest := by simp [closing, hl]
        rw [if_pos hl, ih hrest, hclosing]
      · have hclosing : b.closing id (x :: rest) = x :: b.closing id rest := by
          simp [closing, hl, hh]
        have same : (b.noteCycle ⟨b.session.graph.component x⟩).closing id rest =
            b.closing id rest := by
          rw [closing, graph_noteCycle]
          rfl
        rw [if_neg hl, ih hrest, hclosing, same, graph_noteCycle]
        rfl
    · have hfresh : b.fresh (x :: rest) = x :: b.fresh rest := by simp [fresh, hh]
      have hclosing : b.closing id (x :: rest) = b.closing id rest := by simp [closing, hh]
      rw [weigh_fresh hh, ih hrest, hclosing, hfresh]
      by_cases hw : x ∈ waiting
      · rw [if_pos (List.contains_iff_mem.mpr hw)]
        simp [hw]
      · rw [if_neg (mt List.contains_iff_mem.mp hw)]
        have same : (b.fresh rest).filter (fun y => !(waiting ++ [x]).contains y) =
            (b.fresh rest).filter fun y => !waiting.contains y := by
          apply List.filter_congr
          intro y hy
          have hne : y ≠ x := by
            intro e
            exact hx (e ▸ (List.mem_filter.mp hy).1)
          simp [hne]
        rw [same]
        simp [hw]

/-- The queue, with the unhandled dependents of a block that are not in it. -/
def waiting (b : Batch) (id : BlockId) : List BlockId :=
  b.queue ++ (b.fresh (b.session.graph.dependents id)).filter fun x => !b.queue.contains x

/-- The cycles that are reported when the dependents of a block are put into the queue. -/
def obstacles (b : Batch) (id : BlockId) : List Cycle :=
  ((b.closing id (b.session.graph.dependents id)).map fun x => ⟨b.session.graph.component x⟩) ++
    b.jams (b.waiting id)

theorem schedule_eq {g : Graph} {b : Batch} (h : g.Graded b.components) (id : BlockId) :
    b.schedule id =
      if b.session.graph.dependents id = [] then b
      else ({ b with queue := alone (b.waiting id) b.components } : Batch).noteCycles
        (b.obstacles id) := by
  unfold schedule
  cases hd : b.session.graph.dependents id with
  | nil => rfl
  | cons x rest =>
    have hn : (x :: rest).Nodup := hd ▸ BlockId.nodup_sorted _
    let cycles := (b.closing id (x :: rest)).map fun x =>
      (⟨b.session.graph.component x⟩ : Cycle)
    let folded := (x :: rest).foldl (weigh id) (b, b.queue)
    have e : folded = (b.noteCycles cycles, b.waiting id) := by
      rw [waiting, hd]
      exact foldl_weigh id _ hn b b.queue
    have hc : (b.noteCycles cycles).components = b.components := components_noteCycles b cycles
    show enqueue (folded.2.length + 1) folded.1 folded.2 = _
    rw [if_neg (List.cons_ne_nil x rest), e, obstacles, noteCycles_append, hd]
    calc enqueue ((b.waiting id).length + 1) (b.noteCycles cycles) (b.waiting id)
        = ({ b.noteCycles cycles with
            queue := alone (b.waiting id) (b.noteCycles cycles).components } : Batch).noteCycles
              ((b.noteCycles cycles).jams (b.waiting id)) :=
          enqueue_eq (hc.symm ▸ h) (Nat.lt_succ_self _)
      _ = (({ b with queue := alone (b.waiting id) (b.noteCycles cycles).components } :
            Batch).noteCycles cycles).noteCycles ((b.noteCycles cycles).jams (b.waiting id)) :=
          congrArg (noteCycles · _) (noteCycles_queue b cycles _).symm
      _ = _ := by
          rw [jams, jams, hc]

/-! ## What putting dependents into the queue leaves alone -/

theorem exists_enqueue (rounds : Nat) (b : Batch) (waiting : List BlockId) :
    ∃ queue cycles, enqueue rounds b waiting = ({ b with queue } : Batch).noteCycles cycles := by
  induction rounds generalizing b waiting with
  | zero => exact ⟨[], [], rfl⟩
  | succ rounds ih =>
    unfold enqueue
    split
    case h_1 order _ => exact ⟨order, [], rfl⟩
    case h_2 c _ =>
      dsimp only
      split
      · exact ⟨[], [c], (noteCycles_queue b [c] []).symm⟩
      · obtain ⟨queue, cycles, e⟩ := ih (b.noteCycle c)
          (waiting.filter fun id => !c.involved.contains id)
        refine ⟨queue, c :: cycles, e.trans ?_⟩
        exact congrArg (noteCycles · cycles) (noteCycles_queue b [c] queue).symm

theorem exists_foldl_weigh (id : BlockId) (dependents : List BlockId) (b : Batch)
    (waiting : List BlockId) :
    ∃ cycles, (dependents.foldl (weigh id) (b, waiting)).1 = b.noteCycles cycles := by
  induction dependents generalizing b waiting with
  | nil => exact ⟨[], rfl⟩
  | cons x rest ih =>
    rw [List.foldl_cons]
    by_cases hh : x ∈ b.handled
    · rw [weigh_handled hh]
      split
      · exact ih b waiting
      · obtain ⟨cycles, e⟩ := ih (b.noteCycle ⟨b.session.graph.component x⟩) waiting
        exact ⟨_ :: cycles, e⟩
    · rw [weigh_fresh hh]
      exact ih b _

theorem exists_schedule (b : Batch) (id : BlockId) :
    ∃ queue cycles, b.schedule id = ({ b with queue } : Batch).noteCycles cycles := by
  unfold schedule
  split
  · exact ⟨b.queue, [], rfl⟩
  · let folded := (b.session.graph.dependents id).foldl (weigh id) (b, b.queue)
    obtain ⟨cycles, e⟩ := exists_foldl_weigh id (b.session.graph.dependents id) b b.queue
    obtain ⟨queue, more, e'⟩ := exists_enqueue (folded.2.length + 1) folded.1 folded.2
    refine ⟨queue, cycles ++ more, ?_⟩
    show enqueue (folded.2.length + 1) folded.1 folded.2 = _
    rw [e', noteCycles_append, noteCycles_queue b cycles, ← e]

/-- Putting dependents into the queue changes nothing but the queue, the reported cycle and the
journal. -/
theorem schedule_frame (b : Batch) (id : BlockId) :
    b.schedule id =
      { b with
        session := { b.session with journal := (b.schedule id).session.journal }
        queue := (b.schedule id).queue
        report := { b.report with cycle := (b.schedule id).report.cycle } } := by
  obtain ⟨queue, cycles, e⟩ := exists_schedule b id
  rw [e, noteCycles_eq]

section
variable (b : Batch) (id : BlockId)

@[simp]
theorem handled_schedule : (b.schedule id).handled = b.handled := by
  rw [schedule_frame]

@[simp]
theorem pool_schedule : (b.schedule id).pool = b.pool := by
  rw [schedule_frame]

@[simp]
theorem chain_schedule : (b.schedule id).chain = b.chain := by
  rw [schedule_frame]

@[simp]
theorem store_schedule : (b.schedule id).session.store = b.session.store := by
  rw [schedule_frame]

@[simp]
theorem computed_schedule : (b.schedule id).report.computed = b.report.computed := by
  rw [schedule_frame]

@[simp]
theorem skipped_schedule : (b.schedule id).report.skipped = b.report.skipped := by
  rw [schedule_frame]

@[simp]
theorem failed_schedule : (b.schedule id).report.failed = b.report.failed := by
  rw [schedule_frame]

@[simp]
theorem requests_schedule : (b.schedule id).session.requests = b.session.requests := by
  obtain ⟨queue, cycles, e⟩ := exists_schedule b id
  rw [e, requests_noteCycles]

end

theorem schedule_of_isolated {b : Batch} {id : BlockId} (h : b.session.graph.dependents id = []) :
    b.schedule id = b := by
  unfold schedule
  rw [h]

/-! ## What becomes of the queue -/

theorem mem_waiting {g : Graph} {b : Batch} (hg : b.session.graph = g) {id x : BlockId} :
    x ∈ b.waiting id ↔ x ∈ b.queue ∨ (g.hasLink id x = true ∧ x ∉ b.handled) := by
  rw [waiting, fresh, hg]
  simp only [List.mem_append, List.mem_filter, Graph.mem_dependents, Bool.not_eq_true',
    ← Bool.not_eq_true, List.contains_iff_mem]
  by_cases hx : x ∈ b.queue
  · simp [hx]
  · simp [hx]

section
variable {g : Graph} {b : Batch} (h : g.Graded b.components) (hg : b.session.graph = g)

include h

theorem arranged_schedule (ha : g.Arranged b.queue) (id : BlockId) :
    g.Arranged (b.schedule id).queue := by
  rw [schedule_eq h]
  split
  · exact ha
  · rw [noteCycles_eq]
    exact Graph.arranged_alone h _

include hg

theorem mem_queue_schedule {id x : BlockId} (hx : x ∈ (b.schedule id).queue) :
    x ∈ b.queue ∨ (g.hasLink id x = true ∧ x ∉ b.handled) := by
  rw [schedule_eq h] at hx
  split at hx
  · exact .inl hx
  · rw [noteCycles_eq] at hx
    exact (mem_waiting hg).mp (Graph.mem_of_mem_alone hx).1

/-- If no cycle is reported, all that waits is in the queue. -/
theorem schedule_of_cycle_eq_none {id : BlockId} (hc : (b.schedule id).report.cycle = none)
    (covers : ∀ x ∈ b.waiting id, ∃ c ∈ b.components, x ∈ c) :
    b.report.cycle = none ∧ (∀ x, g.hasLink id x = true → x ∈ b.handled → g.hasLink x id = true) ∧
      ∀ x ∈ b.waiting id, x ∈ (b.schedule id).queue := by
  rw [schedule_eq h] at hc ⊢
  split at hc
  case isTrue hd =>
    have none : ∀ x, g.hasLink id x ≠ true := by
      intro x hl
      rw [← Graph.mem_dependents, ← hg, hd] at hl
      exact absurd hl List.not_mem_nil
    rw [if_pos hd]
    refine ⟨hc, fun x hl => absurd hl (none x), fun x hx => ?_⟩
    exact ((mem_waiting hg).mp hx).resolve_right fun hl => none x hl.1
  case isFalse hd =>
    rw [if_neg hd]
    rw [noteCycles_eq] at hc ⊢
    obtain ⟨hb, hhead⟩ := Option.or_eq_none_iff.mp hc
    have empty := List.head?_eq_none_iff.mp hhead
    obtain ⟨hclosing, hjams⟩ := List.append_eq_nil_iff.mp empty
    refine ⟨hb, fun x hl hx => ?_, fun x hx => ?_⟩
    · have hnot := List.filter_eq_nil_iff.mp (List.map_eq_nil_iff.mp hclosing) x
        (Graph.mem_dependents.mpr (hg ▸ hl))
      simpa [hx, hg] using hnot
    · obtain ⟨c, hc, hxc⟩ := covers x hx
      refine Graph.mem_alone_of_not_mem_crowded hc ?_ hxc hx
      rw [List.map_eq_nil_iff.mp hjams]
      exact List.not_mem_nil

/-- No cycle is reported where no two nodes are joined and no handled dependent is in the way. -/
theorem cycle_schedule {id : BlockId} (hj : ∀ x y, g.Joined x y → x = y)
    (hn : ∀ x, g.hasLink id x = true → x ∈ b.handled → g.hasLink x id = true) :
    (b.schedule id).report.cycle = b.report.cycle := by
  rw [schedule_eq h]
  split
  · rfl
  · have hclosing : b.closing id (b.session.graph.dependents id) = [] := by
      rw [closing, List.filter_eq_nil_iff]
      intro x hx
      rw [hg, Graph.mem_dependents] at hx
      by_cases hh : x ∈ b.handled
      · simp [hg, hn x hx hh]
      · simp [hh]
    have hjams : b.jams (b.waiting id) = [] := by
      rw [jams, List.map_eq_nil_iff, List.eq_nil_iff_forall_not_mem]
      intro c hc
      obtain ⟨-, x, -, y, -, hne, -, -, hxy⟩ := Graph.exists_of_mem_crowded h hc
      exact hne (hj x y hxy)
    rw [noteCycles_eq, obstacles, hclosing, hjams]
    exact Option.or_none

end

end Batch
end Workbook
