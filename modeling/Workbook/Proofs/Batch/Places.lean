import Mathlib.Data.List.Perm.Basic
import Workbook.Proofs.Batch.Stage

/-!
Where the blocks of a batch are.

A block that a batch has drawn is settled, or a request for it is open, or it is in hand: drawn and
not yet put anywhere.  No block is in two of these places or in one of them twice, and `handled`
holds those of them that are not isolated (`Places`).  Drawing a block, ending a request, and
settling a block or asking for it each move one block from one place to another, so the list of all
of them changes in its order only.
-/

namespace Workbook

/-- The blocks that a batch is done with. -/
def Report.settled (r : Report) : List BlockId := r.computed ++ r.skipped ++ r.failed.map (·.1)

theorem Report.mem_settled {r : Report} {x : BlockId} :
    x ∈ r.settled ↔ x ∈ r.computed ∨ x ∈ r.skipped ∨ x ∈ r.failed.map (·.1) := by
  rw [settled, List.mem_append, List.mem_append, or_assoc]

namespace Batch

/-- All blocks that a batch has drawn, with those in hand. -/
def accounted (hand : List BlockId) (b : Batch) : List BlockId :=
  b.report.settled ++ b.calls.map (·.id) ++ hand

@[simp]
theorem accounted_schedule (hand : List BlockId) (b : Batch) (id : BlockId) :
    accounted hand (b.schedule id) = accounted hand b := by
  simp only [accounted, Report.settled, calls, pool_schedule, chain_schedule, computed_schedule,
    skipped_schedule, failed_schedule]

structure Places (g : Graph) (hand : List BlockId) (b : Batch) : Prop where
  arranged : g.Arranged b.queue
  queued : ∀ x ∈ b.queue, x ∈ g.nodes ∧ ¬ g.isIsolated x = true ∧ x ∉ b.handled
  mem_handled : ∀ x, x ∈ b.handled ↔ ¬ g.isIsolated x = true ∧ x ∈ accounted hand b
  handled_nodup : b.handled.Nodup
  nodup : (accounted hand b).Nodup
  known : ∀ x ∈ accounted hand b, x ∈ g.nodes
  pool_isolated : ∀ r ∈ b.pool, g.isIsolated r.id = true

namespace Places

variable {g : Graph} {hand hand' : List BlockId} {b b' : Batch}

theorem of_perm (h : Places g hand b) (hp : (accounted hand' b').Perm (accounted hand b))
    (hq : b'.queue = b.queue) (hh : b'.handled = b.handled)
    (hi : ∀ r ∈ b'.pool, g.isIsolated r.id = true) : Places g hand' b' where
  arranged := hq ▸ h.arranged
  queued := by
    rw [hq, hh]
    exact h.queued
  mem_handled x := by
    rw [hh, hp.mem_iff]
    exact h.mem_handled x
  handled_nodup := hh ▸ h.handled_nodup
  nodup := hp.nodup_iff.mpr h.nodup
  known x hx := h.known x (hp.mem_iff.mp hx)
  pool_isolated := hi

theorem session (h : Places g hand b) (session : Session) :
    Places g hand { b with session } :=
  h.of_perm (.refl _) rfl rfl h.pool_isolated

/-! ## Into hand -/

theorem draw {pending pending' : List BlockId} {id : BlockId} (h : Places g pending b)
    (hd : Draws pending b id pending' b') : Places g (id :: pending') b' := by
  cases hd with
  | isolated => exact h
  | queued hc hq =>
    obtain ⟨node, related, fresh⟩ := h.queued id (hq ▸ List.mem_cons_self ..)
    have arranged := h.arranged
    rw [hq] at arranged
    obtain ⟨later, arranged⟩ := List.pairwise_cons.mp arranged
    have unaccounted : id ∉ accounted [] b :=
      fun hid => fresh ((h.mem_handled id).mpr ⟨related, hid⟩)
    have accounted_eq : ∀ x, x ∈ accounted [id] b ↔ x = id ∨ x ∈ accounted [] b := by
      intro x
      simp only [accounted, List.append_nil, List.mem_append, List.mem_singleton]
      exact or_comm
    constructor
    · exact arranged
    · intro x hx
      obtain ⟨hn, hr, hf⟩ := h.queued x (hq ▸ List.mem_cons_of_mem id hx)
      refine ⟨hn, hr, fun hmem => ?_⟩
      rcases List.mem_cons.mp hmem with rfl | hmem
      · exact later x hx (.refl x)
      · exact hf hmem
    · intro x
      show x ∈ id :: b.handled ↔ _ ∧ x ∈ accounted [id] b
      rw [List.mem_cons, h.mem_handled, accounted_eq]
      constructor
      · intro given
        rcases given with rfl | ⟨hr, hx⟩
        · exact ⟨related, .inl rfl⟩
        · exact ⟨hr, .inr hx⟩
      · intro given
        rcases given with ⟨hr, rfl | hx⟩
        · exact .inl rfl
        · exact .inr ⟨hr, hx⟩
    · exact List.nodup_cons.mpr ⟨fresh, h.handled_nodup⟩
    · show (accounted [id] b).Nodup
      have hp : (accounted [id] b).Perm (id :: accounted [] b) := by
        simp only [accounted, List.append_nil]
        exact List.perm_append_comm
      exact hp.nodup_iff.mpr (List.nodup_cons.mpr ⟨unaccounted, h.nodup⟩)
    · intro x hx
      rcases (accounted_eq x).mp hx with rfl | hx
      · exact node
      · exact h.known x hx
    · exact h.pool_isolated

theorem close {r : Request} (h : Places g [] b) (hr : Closes b r b') : Places g [r.id] b' := by
  cases hr with
  | chain hc =>
    refine h.of_perm ?_ rfl rfl h.pool_isolated
    simp only [accounted, calls, hc, Option.toList_none, Option.toList_some, List.append_nil,
      List.map_append, List.append_assoc]
    exact .refl _
  | pool hr hc =>
    refine h.of_perm ?_ rfl rfl fun q hq => h.pool_isolated q (List.mem_of_mem_erase hq)
    have hp := (Closes.pool hr hc).calls_perm
    have hp := ((hp.trans (List.perm_append_singleton r _).symm).map (·.id)).append_left
      b.report.settled
    simpa [accounted] using hp.symm

/-! ## Out of hand -/

theorem skip {id : BlockId} (h : Places g (id :: hand) b) : Places g hand (b.noteSkipped id) := by
  refine h.of_perm (List.perm_iff_count.mpr fun a => ?_) rfl rfl h.pool_isolated
  simp only [accounted, Report.settled, noteSkipped, calls, List.count_append, List.count_cons,
    List.count_nil]
  omega

theorem compute {id : BlockId} (h : Places g (id :: hand) b) :
    Places g hand (b.noteComputed id) := by
  refine h.of_perm (List.perm_iff_count.mpr fun a => ?_) rfl rfl h.pool_isolated
  simp only [accounted, Report.settled, noteComputed, calls, List.count_append, List.count_cons,
    List.count_nil]
  omega

theorem fail {id : BlockId} {e : Error} (h : Places g (id :: hand) b) :
    Places g hand (b.noteFailed id e) := by
  refine h.of_perm (List.perm_iff_count.mpr fun a => ?_) rfl rfl h.pool_isolated
  simp only [accounted, Report.settled, noteFailed, calls, List.count_append, List.count_cons,
    List.count_nil, List.map_append, List.map_cons, List.map_nil]
  omega

theorem askPool {r : Request} (h : Places g (r.id :: hand) b) (hi : g.isIsolated r.id = true) :
    Places g hand { b with pool := b.pool ++ [r] } := by
  refine h.of_perm (List.perm_iff_count.mpr fun a => ?_) rfl rfl fun q hq => ?_
  · simp only [accounted, calls, List.count_append, List.count_cons, List.count_nil,
      List.map_append, List.map_cons, List.map_nil]
    omega
  · rcases List.mem_append.mp hq with hq | hq
    · exact h.pool_isolated q hq
    · rw [List.mem_singleton.mp hq]
      exact hi

theorem askChain {r : Request} (h : Places g (r.id :: hand) b) (hc : b.chain = none) :
    Places g hand { b with chain := some r } := by
  refine h.of_perm (List.perm_iff_count.mpr fun a => ?_) rfl rfl h.pool_isolated
  simp only [accounted, calls, hc, Option.toList_none, Option.toList_some, List.count_append,
    List.count_cons, List.count_nil, List.map_append, List.map_cons, List.map_nil]
  omega

/-! ## The queue -/

theorem schedule {s : Session} {force : Bool} (h : Places (.ofStore s.store) hand b)
    (hs : s.store.Sound) (framed : Framed s force b) (id : BlockId) :
    Places (.ofStore s.store) hand (b.schedule id) where
  arranged := arranged_schedule (framed.graded hs) h.arranged id
  queued x hx := by
    rw [handled_schedule]
    rcases mem_queue_schedule (framed.graded hs) framed.graph_eq hx with hx | ⟨hl, hf⟩
    · exact h.queued x hx
    · have ends := (Graph.sound_ofStore hs).ends_mem (Graph.hasLink_iff.mp hl)
      exact ⟨ends.2, fun hi => (Graph.isIsolated_iff.mp hi id).2 hl, hf⟩
  mem_handled x := by
    rw [handled_schedule, accounted_schedule]
    exact h.mem_handled x
  handled_nodup := by
    rw [handled_schedule]
    exact h.handled_nodup
  nodup := by
    rw [accounted_schedule]
    exact h.nodup
  known := by
    rw [accounted_schedule]
    exact h.known
  pool_isolated := by
    rw [pool_schedule]
    exact h.pool_isolated

theorem opening {s : Session} (hs : s.store.Sound) (seeds : List BlockId) (force : Bool) :
    Places (.ofStore s.store) (isolatedSeeds s seeds) (opening s seeds force) := by
  have hg := Graph.sound_ofStore hs
  have accounted_eq : accounted (isolatedSeeds s seeds) (Batch.opening s seeds force) =
      isolatedSeeds s seeds := by
    rw [opening_frame]
    rfl
  have handled_eq : (Batch.opening s seeds force).handled = [] := by
    rw [opening_frame]
    rfl
  have pool_eq : (Batch.opening s seeds force).pool = [] := by
    rw [opening_frame]
    rfl
  constructor
  · rcases opening_cases s seeds force with ⟨-, e⟩ | ⟨c, more, -, e⟩
    · rw [e]
      exact Graph.arranged_alone (Graph.graded_components hg).1 _
    · rw [e]
      exact .nil
  · intro x hx
    rw [handled_eq]
    rcases opening_cases s seeds force with ⟨-, e⟩ | ⟨c, more, -, e⟩
    · rw [e] at hx
      obtain ⟨hw, hc⟩ := Graph.mem_of_mem_alone hx
      exact ⟨(Graph.mem_components hg).mp hc, (mem_relatedSeeds.mp hw).2, List.not_mem_nil⟩
    · rw [e] at hx
      exact absurd hx List.not_mem_nil
  · intro x
    rw [handled_eq, accounted_eq]
    constructor
    · intro hx
      exact absurd hx List.not_mem_nil
    · intro given
      obtain ⟨hr, hx⟩ := given
      exact absurd (mem_isolatedSeeds.mp hx).2 hr
  · rw [handled_eq]
    exact List.nodup_nil
  · rw [accounted_eq]
    exact (nodup_eraseDups _).filter _
  · intro x hx
    rw [accounted_eq] at hx
    rw [Graph.nodes_ofStore hs]
    exact (mem_seedsOf.mp (mem_isolatedSeeds.mp hx).1).2
  · rw [pool_eq]
    exact fun r hr => absurd hr List.not_mem_nil

end Places

namespace Moves

variable {backend : Backend} {s : Session} {seeds : List BlockId} {force : Bool}
  {pending pending' : List BlockId} {b b' : Batch}

theorem places (hm : Moves backend pending b pending' b') (hs : s.store.Sound)
    (framed : Framed s force b) (isolated : ∀ x ∈ pending, x ∈ isolatedSeeds s seeds)
    (h : Places (.ofStore s.store) pending b) : Places (.ofStore s.store) pending' b' := by
  cases hm with
  | skipped hd _ => exact ((h.draw hd).session _).skip
  | applied hd ht => exact (((h.draw hd).session _).schedule hs (framed.turn hd ht) _).compute
  | askedIsolated ht =>
    have isolated := (mem_isolatedSeeds.mp (isolated _ (List.mem_cons_self ..))).2
    have hid := ht.id_asked
    subst hid
    exact (h.session _).askPool isolated
  | askedQueued hc hq ht =>
    have hid := ht.id_asked
    subst hid
    exact ((h.draw (.queued hc hq)).session _).askChain hc
  | filled hr _ =>
    exact (((h.close hr).session _).schedule hs (framed.fill backend hr _) _).compute
  | refused hr _ => exact ((h.close hr).session _).fail

end Moves

theorem Stage.places {backend : Backend} {s : Session} {seeds : List BlockId} {force : Bool}
    {pending : List BlockId} {b : Batch} (hs : s.store.Sound)
    (h : Stage backend s seeds force pending b) : Places (.ofStore s.store) pending b := by
  induction h with
  | opening => exact .opening hs seeds force
  | move h hm ih => exact hm.places hs h.framed h.pending_subset ih

end Batch
end Workbook
