import Mathlib.Data.List.Nodup
import Workbook.Proofs.Graph.Arrange
import Workbook.Proofs.Session.Run

/-!
The rounds in which waiting blocks become the queue.

Every round but the last reports one component and lets its blocks drop out.  `Sorts` is these
rounds without a bound on their number; that a batch comes to such an end (`sorts_enqueue`) says
that there is a last round and that each of those before it drops a block, so that the queue is
never given up.  What the rounds leave is `Requeued`, and the components that they report are
`Jammed`.
-/

namespace Workbook
namespace Graph

section
variable {g : Graph} {cs : List (List BlockId)}

/-! ## Nodes picked twice -/

theorem Graded.nodup_flatten (h : g.Graded cs) : cs.flatten.Nodup := by
  refine List.nodup_flatten.mpr ⟨h.nodup, h.ordered.imp fun apart => ?_⟩
  intro x hx hy
  exact apart x hx x hy (.refl x)

theorem alone_sublist (wanted : List BlockId) (cs : List (List BlockId)) :
    (alone wanted cs).Sublist cs.flatten := by
  induction cs with
  | nil => exact .slnil
  | cons c cs ih =>
    unfold alone at ih ⊢
    rw [List.flatMap_cons, List.flatten_cons]
    refine List.Sublist.append ?_ ih
    split
    · rename_i a e
      rw [← e]
      exact List.filter_sublist
    · exact List.nil_sublist c

/-- Two lists of nodes picked from the same components have the nodes of both in the same order. -/
theorem alone_filter_comm (h : g.Graded cs) (wanted others : List BlockId) :
    (alone wanted cs).filter (alone others cs).contains =
      (alone others cs).filter (alone wanted cs).contains := by
  have first : ((alone wanted cs).filter (alone others cs).contains).Sublist cs.flatten :=
    List.filter_sublist.trans (alone_sublist wanted cs)
  have second : ((alone others cs).filter (alone wanted cs).contains).Sublist cs.flatten :=
    List.filter_sublist.trans (alone_sublist others cs)
  refine (h.nodup_flatten.perm_iff_eq_of_sublist first second).mp ?_
  refine (List.perm_ext_iff_of_nodup (first.nodup h.nodup_flatten)
    (second.nodup h.nodup_flatten)).mpr fun x => ?_
  rw [mem_filter_contains, mem_filter_contains]
  exact and_comm

/-- Nodes that were picked are picked again. -/
theorem pick_alone (h : g.Graded cs) (wanted : List BlockId) :
    pick (alone wanted cs) cs = .ok (alone wanted cs) := by
  have single : ∀ x ∈ alone wanted cs, ∀ y ∈ alone wanted cs, g.Joined x y → y = x := by
    intro x hx y hy joined
    obtain ⟨-, covered⟩ := mem_of_mem_alone hx
    exact ((mem_alone_iff h covered).mp hx).2 y (mem_of_mem_alone hy).1 joined
  have uncrowded : crowded (alone wanted cs) cs = [] :=
    (crowded_eq_nil_iff h).mpr fun x hx y hy _ joined => (single x hx y hy joined).symm
  have same : alone (alone wanted cs) cs = alone wanted cs := by
    refine (h.nodup_flatten.perm_iff_eq_of_sublist (alone_sublist ..) (alone_sublist ..)).mp ?_
    refine (List.perm_ext_iff_of_nodup ((alone_sublist ..).nodup h.nodup_flatten)
      ((alone_sublist ..).nodup h.nodup_flatten)).mpr fun x => ⟨fun hx => ?_, fun hx => ?_⟩
    · exact (mem_of_mem_alone hx).1
    · exact (mem_alone_iff h (mem_of_mem_alone hx).2).mpr ⟨hx, single x hx⟩
  rw [pick_eq, uncrowded, same]

theorem pick_eq_ok {wanted order : List BlockId} (h : pick wanted cs = .ok order) :
    crowded wanted cs = [] ∧ alone wanted cs = order := by
  rw [pick_eq] at h
  split at h
  · rename_i e
    exact ⟨e, Except.ok.inj h⟩
  · cases h

/-! ## Crowded components -/

theorem nodup_map_crowded (h : g.Graded cs) (wanted : List BlockId) :
    ((crowded wanted cs).map BlockId.sorted).Nodup := by
  have apart := h.ordered.sublist (List.filter_sublist : (crowded wanted cs).Sublist cs)
  refine List.pairwise_map.mpr (apart.imp_of_mem ?_)
  intro c d hc _ apart same
  -- a member of the first component would be one of the second too
  obtain ⟨-, x, -, -, -, -, hxc, -⟩ := exists_of_mem_crowded h hc
  have hxd : x ∈ d := BlockId.mem_sorted.mp (same ▸ BlockId.mem_sorted.mpr hxc)
  exact apart x hxc x hxd (.refl x)

/-- The crowded components are those of two different wanted nodes that are joined. -/
theorem Condensed.mem_map_crowded (h : g.Condensed cs) (hg : g.Sound) {wanted c : List BlockId} :
    c ∈ (crowded wanted cs).map BlockId.sorted ↔ ∃ x y, g.Tangled wanted x y ∧
      c = g.component x := by
  constructor
  · intro hc
    obtain ⟨d, hd, rfl⟩ := List.mem_map.mp hc
    have blocking := h.blocking hg hd
    obtain ⟨x, y, tangled, hxc, -⟩ := blocking.tangled
    exact ⟨x, y, tangled, blocking.eq_component x hxc⟩
  · rintro ⟨x, y, ⟨⟨hx, known⟩, ⟨hy, -⟩, hne, joined⟩, rfl⟩
    obtain ⟨d, hd, hxd⟩ := (h.covers x).mpr known
    refine List.mem_map.mpr ⟨d, ?_, sorted_eq_component hg h.toGraded hd hxd known⟩
    -- were it not crowded, `x` would be alone
    by_contra uncrowded
    have alone := mem_alone_of_not_mem_crowded hd uncrowded hxd hx
    exact hne (((mem_alone_iff h.toGraded ⟨d, hd, hxd⟩).mp alone).2 y hy joined).symm

end

end Graph

namespace Batch

open Workbook.Graph (alone crowded)

/-! ## Rounds -/

/-- How waiting blocks become the queue of a batch: if two of them share a component, it is reported
and its blocks, of which there are some, wait no longer. -/
inductive Sorts : Batch → List BlockId → Batch → Prop where
  | done {b : Batch} {waiting order : List BlockId}
      (sorted : b.session.graph.arrange waiting = .ok order) :
      Sorts b waiting { b with queue := order }
  | drop {b b' : Batch} {waiting : List BlockId} {c : Cycle}
      (blocked : b.session.graph.arrange waiting = .error c)
      (fewer : (waiting.filter fun id => !c.involved.contains id).length < waiting.length)
      (rest : Sorts (b.noteCycle c) (waiting.filter fun id => !c.involved.contains id) b') :
      Sorts b waiting b'

theorem sorts_enqueue {rounds : Nat} {b : Batch} (hg : b.session.graph.Sound)
    (hc : b.components = b.session.graph.components) {waiting : List BlockId}
    (hr : waiting.length < rounds) : Sorts b waiting (enqueue rounds b waiting) := by
  induction rounds generalizing b waiting with
  | zero => exact absurd hr (Nat.not_lt_zero _)
  | succ rounds ih =>
    have graded : b.session.graph.Graded b.components := hc ▸ (Graph.graded_components hg).1
    have arranged : b.session.graph.arrange waiting = Graph.pick waiting b.components := by
      rw [hc]
      rfl
    unfold enqueue
    cases picked : Graph.pick waiting b.components with
    | ok order => exact .done (arranged.trans picked)
    | error c =>
      have fewer : (waiting.filter fun id => !c.involved.contains id).length < waiting.length := by
        rw [Graph.pick_eq] at picked
        split at picked
        · cases picked
        · rename_i d more e
          cases picked
          exact length_filter_lt graded (e ▸ List.mem_cons_self .. : d ∈ crowded waiting _)
      have later : (b.noteCycle c).session.graph = b.session.graph := graph_noteCycle b c
      dsimp only
      rw [if_neg (Nat.ne_of_lt fewer)]
      refine .drop (arranged.trans picked) fewer (ih (later ▸ hg) ?_ (by omega))
      rw [later]
      exact hc

/-! ## What the rounds leave -/

/-- The block is in the queue, or depends on block `id` and has not been taken from the queue. -/
def Waits (b : Batch) (id x : BlockId) : Prop :=
  x ∈ b.queue ∨ (b.session.graph.hasLink id x = true ∧ x ∉ b.handled)

/-- The queue of `b'` is what is to be computed after block `id`: what waits, except for blocks that
share a component with another one that waits, each once and after all of them that it depends on,
also through others.  What was in the queue before stays in the order in which it was. -/
structure Requeued (b : Batch) (id : BlockId) (b' : Batch) : Prop where
  nodup : b'.queue.Nodup
  mem_iff : ∀ x, x ∈ b'.queue ↔
    b.Waits id x ∧ ∀ y, b.Waits id y → b.session.graph.Joined x y → y = x
  before : ∀ x ∈ b'.queue, ∀ y ∈ b'.queue, x ≠ y → b.session.graph.Reaches x y →
    b'.queue.idxOf x < b'.queue.idxOf y
  sorted : b.session.graph.arrange b'.queue = .ok b'.queue
  kept : b'.queue.filter b.queue.contains = b.queue.filter b'.queue.contains

/-- The lists are the components in which two blocks wait, each once. -/
structure Jammed (b : Batch) (id : BlockId) (jammed : List (List BlockId)) : Prop where
  nodup : jammed.Nodup
  mem_iff : ∀ c, c ∈ jammed ↔ ∃ x y, b.Waits id x ∧ b.Waits id y ∧ x ≠ y ∧
    b.session.graph.Joined x y ∧ c = b.session.graph.component x

/-- The components of the dependents of block `id` that were taken from the queue before, but for
those that it depends on directly. -/
def closed (b : Batch) (id : BlockId) : List (List BlockId) :=
  (b.closing id (b.session.graph.dependents id)).map b.session.graph.component

section
variable {b : Batch} {id : BlockId}

theorem mem_waiting_iff {x : BlockId} : x ∈ b.waiting id ↔ b.Waits id x := mem_waiting rfl

theorem Waits.mem_nodes {x : BlockId} (waits : b.Waits id x) (hg : b.session.graph.Sound)
    (hq : b.session.graph.arrange b.queue = .ok b.queue) : x ∈ b.session.graph.nodes := by
  rcases waits with hx | ⟨linked, -⟩
  · obtain ⟨-, sorted⟩ := Graph.pick_eq_ok hq
    exact (Graph.mem_components hg).mp (Graph.mem_of_mem_alone (sorted.symm ▸ hx)).2
  · exact (hg.ends_mem (Graph.hasLink_iff.mp linked)).2

/-- Where nothing depends on the block, the queue is as it should be already. -/
theorem schedule_of_sorted (hg : b.session.graph.Sound)
    (hc : b.components = b.session.graph.components)
    (hq : b.session.graph.arrange b.queue = .ok b.queue) :
    b.schedule id =
      ({ b with queue := alone (b.waiting id) b.components } : Batch).noteCycles
        (b.obstacles id) := by
  rw [schedule_eq (hc ▸ (Graph.graded_components hg).1 : b.session.graph.Graded b.components)]
  split
  case isFalse => rfl
  case isTrue none =>
    obtain ⟨uncrowded, sorted⟩ := Graph.pick_eq_ok hq
    have waiting : b.waiting id = b.queue := by
      rw [Batch.waiting, none]
      exact List.append_nil _
    have obstacles : b.obstacles id = [] := by
      rw [Batch.obstacles, jams, waiting, none, hc, uncrowded]
      rfl
    rw [obstacles, waiting, hc, sorted]
    show b = { b with components := b.session.graph.components }
    rw [← hc]

theorem requeued_schedule (hg : b.session.graph.Sound)
    (hc : b.components = b.session.graph.components)
    (hq : b.session.graph.arrange b.queue = .ok b.queue) : Requeued b id (b.schedule id) := by
  have condensed := Graph.condensed_components hg
  have graded := condensed.toGraded
  have queue : (b.schedule id).queue = alone (b.waiting id) b.session.graph.components := by
    rw [schedule_of_sorted hg hc hq, noteCycles_eq, hc]
  obtain ⟨-, sorted⟩ := Graph.pick_eq_ok hq
  have arranged := Graph.arranged_alone graded (b.waiting id)
  refine ⟨?_, fun x => ?_, ?_, ?_, ?_⟩
  · rw [queue]
    exact arranged.nodup
  · rw [queue]
    constructor
    · intro hx
      have alone := (Graph.mem_alone_iff graded (Graph.mem_of_mem_alone hx).2).mp hx
      exact ⟨mem_waiting_iff.mp alone.1, fun y hy => alone.2 y (mem_waiting_iff.mpr hy)⟩
    · rintro ⟨waits, single⟩
      have covered := (condensed.covers x).mpr (waits.mem_nodes hg hq)
      refine (Graph.mem_alone_iff graded covered).mpr ⟨mem_waiting_iff.mpr waits, ?_⟩
      exact fun y hy => single y (mem_waiting_iff.mp hy)
  · rw [queue]
    exact fun x hx y hy => arranged.idxOf_lt hx hy
  · rw [queue]
    exact Graph.pick_alone graded _
  · rw [queue]
    have comm := Graph.alone_filter_comm graded (b.waiting id) b.queue
    rwa [sorted] at comm

theorem jammed_crowded (hg : b.session.graph.Sound)
    (hq : b.session.graph.arrange b.queue = .ok b.queue) :
    Jammed b id ((crowded (b.waiting id) b.session.graph.components).map BlockId.sorted) := by
  have condensed := Graph.condensed_components hg
  refine ⟨Graph.nodup_map_crowded condensed.toGraded _, fun c => ?_⟩
  rw [condensed.mem_map_crowded hg]
  constructor
  · rintro ⟨x, y, ⟨⟨hx, -⟩, ⟨hy, -⟩, hne, joined⟩, rfl⟩
    exact ⟨x, y, mem_waiting_iff.mp hx, mem_waiting_iff.mp hy, hne, joined, rfl⟩
  · rintro ⟨x, y, hx, hy, hne, joined, rfl⟩
    exact ⟨x, y, ⟨⟨mem_waiting_iff.mpr hx, hx.mem_nodes hg hq⟩,
      ⟨mem_waiting_iff.mpr hy, hy.mem_nodes hg hq⟩, hne, joined⟩, rfl⟩

theorem sorts_schedule (hg : b.session.graph.Sound)
    (hc : b.components = b.session.graph.components)
    (hq : b.session.graph.arrange b.queue = .ok b.queue) :
    let weighed := (b.session.graph.dependents id).foldl (weigh id) (b, b.queue)
    Sorts weighed.1 weighed.2 (b.schedule id) := by
  intro weighed
  cases hd : b.session.graph.dependents id with
  | nil =>
    have same : weighed = (b, b.queue) := by
      show (b.session.graph.dependents id).foldl _ _ = _
      rw [hd]
      rfl
    rw [same, schedule_of_isolated hd]
    exact .done hq
  | cons x rest =>
    obtain ⟨cycles, noted⟩ := exists_foldl_weigh id (b.session.graph.dependents id) b b.queue
    have noted : weighed.1 = b.noteCycles cycles := noted
    have graph : weighed.1.session.graph = b.session.graph := by
      rw [noted, noteCycles_eq]
    have components : weighed.1.components = b.components := by
      rw [noted, components_noteCycles]
    have e : b.schedule id = enqueue (weighed.2.length + 1) weighed.1 weighed.2 := by
      unfold schedule
      show _ = (let folded := (b.session.graph.dependents id).foldl (weigh id) (b, b.queue)
        enqueue (folded.2.length + 1) folded.1 folded.2)
      rw [hd]
    rw [e]
    exact sorts_enqueue (graph.symm ▸ hg) (by rw [components, graph, hc]) (Nat.lt_succ_self _)

/-- The cycles that are reported, as those of handled dependents and those of crowded components. -/
theorem obstacles_eq (hc : b.components = b.session.graph.components) :
    b.obstacles id = (b.closed id ++
      (crowded (b.waiting id) b.session.graph.components).map BlockId.sorted).map Cycle.mk := by
  rw [obstacles, closed, jams, hc, List.map_append, List.map_map, List.map_map]
  rfl

/-- When the dependents of block `id` are put into the queue, the rounds end and never give the
queue up.  They leave what waits in order, without the blocks of components in which two wait, and
what is reported is each handled dependent that the block does not depend on directly, by its
component, and then each component in which two blocks wait, once.  Nothing else of the batch
changes. -/
theorem schedule_requeues {store : Store} {b : Batch} (hg : b.session.graph = .ofStore store)
    (hc : b.components = b.session.graph.components)
    (hq : b.session.graph.arrange b.queue = .ok b.queue) (id : BlockId) :
    let b' := b.schedule id
    let weighed := (b.session.graph.dependents id).foldl (weigh id) (b, b.queue)
    Sorts weighed.1 weighed.2 b' ∧ Requeued b id b' ∧
      ∃ jammed, Jammed b id jammed ∧
        let cycles := b.closed id ++ jammed
        b' = { b with
          queue := b'.queue
          session := { b.session with
            journal := b.session.journal ++
              cycles.flatMap fun c => b.session.told (.cycleDetected c) }
          report := { b.report with cycle := b.report.cycle.or (cycles.head?.map Cycle.mk) } } := by
  intro b' weighed
  have sound : b.session.graph.Sound := hg ▸ Graph.sound_rebuild store
  refine ⟨sorts_schedule sound hc hq, requeued_schedule sound hc hq, _, jammed_crowded sound hq, ?_⟩
  show b.schedule id = { b with queue := (b.schedule id).queue, session := _, report := _ }
  rw [schedule_of_sorted sound hc hq, obstacles_eq hc, noteCycles_eq, List.flatMap_map,
    List.head?_map]

/-- A batch in which `a` has just been computed, after `g` and `h` of the circle that it closes.
Its dependents `b` and `c` mention each other; its dependent `d` is mentioned by `e`, which waits
already. -/
def entangled : Batch :=
  let s := (Session.ofBlocks
    [{ id := ⟨"1"⟩, name := "a", kind := .static, data := "[h]" },
      { id := ⟨"2"⟩, name := "g", kind := .static, data := "[a]" },
      { id := ⟨"3"⟩, name := "h", kind := .static, data := "[g]" },
      { id := ⟨"4"⟩, name := "b", kind := .static, data := "[a][c]" },
      { id := ⟨"5"⟩, name := "c", kind := .static, data := "[a][b]" },
      { id := ⟨"6"⟩, name := "e", kind := .static, data := "[d]" },
      { id := ⟨"7"⟩, name := "d", kind := .static, data := "[a]" }]).regraph
  { session := s, force := false, components := s.graph.components, queue := [⟨"6"⟩]
    handled := [⟨"1"⟩, ⟨"3"⟩, ⟨"2"⟩] }

/-- Of what waits then, `d` and `e` are left, and both circles are reported. -/
theorem schedule_requeues_entangled :
    let b := entangled
    let b' := b.schedule ⟨"1"⟩
    b.session.graph = .ofStore b.session.store ∧
      b.components = b.session.graph.components ∧
      b.session.graph.arrange b.queue = .ok b.queue ∧
      Requeued b ⟨"1"⟩ b' ∧ (∃ jammed, Jammed b ⟨"1"⟩ jammed) ∧
      b.closed ⟨"1"⟩ = [[⟨"1"⟩, ⟨"2"⟩, ⟨"3"⟩]] ∧
      b'.queue = [⟨"7"⟩, ⟨"6"⟩] ∧ b'.report.cycle = some ⟨[⟨"1"⟩, ⟨"2"⟩, ⟨"3"⟩]⟩ ∧
      b'.session.journal = b.session.journal ++
        [.emitted (.cycleDetected [⟨"1"⟩, ⟨"2"⟩, ⟨"3"⟩]),
          .emitted (.cycleDetected [⟨"4"⟩, ⟨"5"⟩])] := by
  intro b b'
  have regraphed (s : Session) : s.regraph.graph = .ofStore s.regraph.store := rfl
  have graph : b.session.graph = .ofStore b.session.store := regraphed _
  have components : b.components = b.session.graph.components := by decide +kernel
  have sorted : b.session.graph.arrange b.queue = .ok b.queue := by decide +kernel
  obtain ⟨-, requeued, jammed, hj, -⟩ := schedule_requeues graph components sorted ⟨"1"⟩
  refine ⟨graph, components, sorted, requeued, ⟨jammed, hj⟩, ?_⟩
  decide +kernel

end

end Batch
end Workbook
