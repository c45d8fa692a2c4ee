import Workbook.Proofs.Batch.Fresh
import Workbook.Proofs.Graph.Acyclic

/-!
Batches that come to all they were given.

As long as a batch reports no cycle, whatever waits in it is drawn in the end, so every seed that is
there is settled (`mem_settled_of_mem_seeds`).  A batch reports a cycle only where blocks reach each
other, so in a graph without circles it never does (`cycle_run`).  Cycles do not keep a block from
being drawn that is joined with no other, once it waits (`mem_settled_of_lone`).
-/

namespace Workbook
namespace Batch

open Workbook.Graph (crowded)

variable {backend : Backend} {g : Graph} {s : Session} {seeds : List BlockId} {force : Bool}
  {hand pending pending' : List BlockId} {b b' : Batch} {id x : BlockId}

/-! ## Graphs without circles -/

theorem cycle_schedule_of_acyclic (h : g.Acyclic) (graded : g.Graded b.components)
    (e : b.session.graph = g) (back : ∀ y ∈ b.handled, g.Reaches id y → g.Reaches y id) :
    (b.schedule id).report.cycle = b.report.cycle := by
  apply cycle_schedule graded e (fun x y => h.eq_of_joined)
  intro x hl hx
  exact absurd (back x hx (.of_link (Graph.hasLink_iff.mp hl))) (h id x hl)

theorem Moves.cycle_of_acyclic (hm : Moves backend pending b pending' b') (hs : s.store.Sound)
    (ha : (Graph.ofStore s.store).Acyclic) (framed : Framed s force b)
    (isolated : ∀ x ∈ pending, x ∈ isolatedSeeds s seeds)
    (places : Places (.ofStore s.store) pending b) (ordered : Ordered (.ofStore s.store) b) :
    b'.report.cycle = b.report.cycle := by
  have isolated := fun x hx => (mem_isolatedSeeds.mp (isolated x hx)).2
  cases hm with
  | skipped hd =>
    rw [← hd.report_eq]
    rfl
  | @applied _ _ _ b₁ id session hd ht =>
    have framed := framed.turn hd ht
    have back := ordered.back_of_draw isolated hd
    rw [← hd.report_eq]
    exact cycle_schedule_of_acyclic ha (framed.graded hs) framed.graph_eq back
  | askedIsolated => rfl
  | askedQueued => rfl
  | @filled _ b₁ r content hr _ =>
    have framed := framed.fill backend hr content
    have back := ordered.back_of_close places.pool_isolated hr
    rw [← hr.report_eq]
    exact cycle_schedule_of_acyclic ha (framed.graded hs) framed.graph_eq back
  | refused hr =>
    rw [← hr.report_eq]
    rfl

/-- The related seeds can be put in order if no two seeds are joined. -/
theorem crowded_relatedSeeds_eq_nil_iff (hs : s.store.Sound) :
    crowded (relatedSeeds s seeds) (Graph.ofStore s.store).components = [] ↔
      ∀ x ∈ seedsOf s seeds, ∀ y ∈ seedsOf s seeds,
        (Graph.ofStore s.store).Joined x y → x = y := by
  have hg := Graph.sound_ofStore hs
  have covered : ∀ x ∈ relatedSeeds s seeds, ∃ c ∈ (Graph.ofStore s.store).components, x ∈ c := by
    intro x hx
    rw [Graph.mem_components hg, Graph.nodes_ofStore hs]
    exact (mem_seedsOf.mp (mem_relatedSeeds.mp hx).1).2
  rw [Graph.crowded_eq_nil_iff (Graph.graded_components hg).1]
  constructor
  · intro apart x hx y hy hxy
    by_contra hne
    obtain ⟨rx, ry⟩ := hxy.1.not_isIsolated hne
    have hx := mem_relatedSeeds.mpr ⟨hx, rx⟩
    exact hne (apart x hx y (mem_relatedSeeds.mpr ⟨hy, ry⟩) (covered x hx) hxy)
  · intro apart x hx y hy _ hxy
    exact apart x (mem_relatedSeeds.mp hx).1 y (mem_relatedSeeds.mp hy).1 hxy

theorem crowded_of_acyclic (hs : s.store.Sound) (ha : (Graph.ofStore s.store).Acyclic)
    (seeds : List BlockId) :
    crowded (relatedSeeds s seeds) (Graph.ofStore s.store).components = [] :=
  (crowded_relatedSeeds_eq_nil_iff hs).mpr fun _ _ _ _ hxy => ha.eq_of_joined hxy

theorem Stage.cycle_of_acyclic (hs : s.store.Sound) (ha : (Graph.ofStore s.store).Acyclic)
    (h : Stage backend s seeds force pending b) : b.report.cycle = none := by
  induction h with
  | opening =>
    rcases opening_cases s seeds force with ⟨-, e⟩ | ⟨c, more, hc, -⟩
    · rw [e]
      rfl
    · rw [crowded_of_acyclic hs ha] at hc
      cases hc
  | move h hm ih =>
    rw [hm.cycle_of_acyclic hs ha h.framed h.pending_subset (h.places hs) (h.ordered hs)]
    exact ih

/-- In a graph without circles a batch reports no cycle. -/
theorem cycle_run (hs : s.store.Sound) (ha : (Graph.ofStore s.store).Acyclic) (backend : Backend)
    (seeds : List BlockId) (force : Bool) :
    ((start s seeds force).run backend).report.cycle = none :=
  (stage_run hs backend seeds force).cycle_of_acyclic hs ha

/-! ## What waits is drawn -/

theorem Draws.waits_cases (h : Draws pending b id pending' b') (hx : x ∈ pending ∨ x ∈ b.queue) :
    x = id ∨ x ∈ pending' ∨ x ∈ b'.queue := by
  cases h with
  | isolated =>
    rcases hx with hx | hx
    · exact (List.mem_cons.mp hx).imp_right .inl
    · exact .inr (.inr hx)
  | queued hc hq =>
    rw [hq] at hx
    rcases hx with hx | hx
    · exact absurd hx List.not_mem_nil
    · exact (List.mem_cons.mp hx).imp_right .inr

/-- What waits in a batch goes on waiting, or is drawn, if it is not dropped when dependents are put
into the queue. -/
theorem Moves.waits_or_drawn_of_kept (hm : Moves backend pending b pending' b')
    (framed : Framed s force b) (places : Places (.ofStore s.store) pending b)
    (kept : ∀ b₁ id, Framed s force b₁ → Places (.ofStore s.store) (id :: pending') b₁ →
      b' = (b₁.schedule id).noteComputed id → x ∈ b₁.queue → x ∈ b'.queue)
    (hx : x ∈ pending ∨ x ∈ b.queue) :
    (x ∈ pending' ∨ x ∈ b'.queue) ∨ x ∈ accounted [] b' := by
  cases hm with
  | skipped hd ht =>
    rcases hd.waits_cases hx with rfl | hx
    · exact .inr (mem_accounted_nil.mpr (.inl (mem_settled_noteSkipped ..)))
    · exact .inl hx
  | @applied _ _ _ b₁ id session hd ht =>
    have places := (places.draw hd).session session
    rcases hd.waits_cases hx with rfl | hx | hx
    · exact .inr (mem_accounted_nil.mpr (.inl (mem_settled_noteComputed ..)))
    · exact .inl (.inl hx)
    · exact .inl (.inr (kept _ id (framed.turn hd ht) places rfl hx))
  | @askedIsolated _ _ id session r ht =>
    rcases (Draws.isolated id pending' b).waits_cases hx with rfl | hx
    · refine .inr (mem_accounted_nil.mpr (.inr (List.mem_map.mpr ⟨r, ?_, ht.id_asked⟩)))
      exact List.mem_append_left _ (List.mem_append_right _ (List.mem_singleton_self r))
    · exact .inl hx
  | @askedQueued _ id rest session r hc hq ht =>
    rcases (Draws.queued hc hq).waits_cases hx with rfl | hx
    · refine .inr (mem_accounted_nil.mpr (.inr (List.mem_map.mpr ⟨r, ?_, ht.id_asked⟩)))
      exact List.mem_append_right _ (List.mem_singleton_self r)
    · exact .inl hx
  | @filled _ b₁ r content hr _ =>
    let session := (b.answered backend r).fill r.id content r.input (some r.transform)
    have places := (places.close hr).session session
    refine .inl (hx.imp_right fun hx => kept _ r.id (framed.fill backend hr content) places rfl ?_)
    rw [hr.frame]
    exact hx
  | refused hr _ =>
    rw [hr.frame]
    exact .inl hx

/-- What waits in a batch without a cycle goes on waiting, or is drawn. -/
theorem Moves.waits_or_drawn (hm : Moves backend pending b pending' b') (hs : s.store.Sound)
    (framed : Framed s force b) (places : Places (.ofStore s.store) pending b)
    (hn : b'.report.cycle = none) (hx : x ∈ pending ∨ x ∈ b.queue) :
    (x ∈ pending' ∨ x ∈ b'.queue) ∨ x ∈ accounted [] b' := by
  refine hm.waits_or_drawn_of_kept framed places (fun b₁ id framed places e hx => ?_) hx
  subst e
  exact (places.scheduled hs framed hn).kept x hx

theorem mem_queue_opening (hs : s.store.Sound)
    (hc : crowded (relatedSeeds s seeds) (Graph.ofStore s.store).components = [])
    (hx : x ∈ relatedSeeds s seeds) : x ∈ (opening s seeds force).queue := by
  have known : x ∈ (Graph.ofStore s.store).nodes := by
    rw [Graph.nodes_ofStore hs]
    exact (mem_seedsOf.mp (mem_relatedSeeds.mp hx).1).2
  obtain ⟨c, hcs, hxc⟩ := (Graph.mem_components (Graph.sound_ofStore hs)).mpr known
  rcases opening_cases s seeds force with ⟨-, e⟩ | ⟨d, more, hd, -⟩
  · rw [e]
    refine Graph.mem_alone_of_not_mem_crowded hcs ?_ hxc hx
    rw [hc]
    exact List.not_mem_nil
  · rw [hc] at hd
    cases hd

theorem Stage.seed_waits_or_drawn (hs : s.store.Sound) (h : Stage backend s seeds force pending b)
    (hn : b.report.cycle = none) (hx : x ∈ seedsOf s seeds) :
    (x ∈ pending ∨ x ∈ b.queue) ∨ x ∈ accounted [] b := by
  induction h with
  | opening =>
    left
    by_cases hi : (Graph.ofStore s.store).isIsolated x = true
    · exact .inl (mem_isolatedSeeds.mpr ⟨hx, hi⟩)
    · rcases opening_cases s seeds force with ⟨hc, -⟩ | ⟨c, more, -, e⟩
      · exact .inr (mem_queue_opening hs hc (mem_relatedSeeds.mpr ⟨hx, hi⟩))
      · rw [e] at hn
        cases hn
  | move h hm ih =>
    rcases ih (hm.cycle_eq_none hn) with hx | hx
    · exact hm.waits_or_drawn hs h.framed (h.places hs) hn hx
    · exact .inr (hm.accounted_subset hx)

/-- All seeds that are there are in the report of a batch without a cycle. -/
theorem mem_settled_of_mem_seeds (hs : s.store.Sound)
    (hn : ((start s seeds force).run backend).report.cycle = none) (hx : x ∈ seeds)
    (known : x ∈ s.store.ids) : x ∈ ((start s seeds force).run backend).report.settled := by
  have seed := mem_seedsOf.mpr ⟨hx, known⟩
  rcases (stage_run hs backend seeds force).seed_waits_or_drawn hs hn seed with (hx | hx) | hx
  · exact absurd hx List.not_mem_nil
  · rw [queue_run hs] at hx
    exact absurd hx List.not_mem_nil
  · exact (mem_accounted_run hs).mp hx

/-- Where all blocks are seeds and no cycle is reported, what feeds a block is settled before its
turn. -/
theorem Stage.mem_settled_of_feeds (hs : s.store.Sound) (h : Stage backend s seeds force [] b)
    (hn : b.report.cycle = none) (all : ∀ y ∈ s.store.ids, y ∈ seeds) (takes : b.Takes id)
    (hf : (Graph.ofStore s.store).Feeds x id) : x ∈ b.report.settled := by
  have places := h.places hs
  have hl := Graph.hasLink_iff.mp hf.1
  have known : x ∈ s.store.ids := by
    rw [← Graph.nodes_ofStore hs]
    exact ((Graph.sound_ofStore hs).ends_mem hl).1
  obtain ⟨rest, hq⟩ := List.head?_eq_some_iff.mp takes.2
  rcases h.seed_waits_or_drawn hs hn (mem_seedsOf.mpr ⟨all x known, known⟩) with (hx | hx) | hx
  · exact absurd hx List.not_mem_nil
  · have arranged := places.arranged
    rw [hq] at arranged hx
    rcases List.mem_cons.mp hx with rfl | hx
    · exact absurd hf.1 hf.2
    · exact absurd (.of_link hl) ((List.pairwise_cons.mp arranged).1 x hx)
  · exact (places.mem_settled_of_takes takes
      ((places.mem_handled x).mpr ⟨hf.not_isIsolated.1, hx⟩)).1

/-! ## Blocks that are joined with no other -/

/-- A block that is joined with no other is not dropped from the queue. -/
theorem mem_queue_schedule_of_lone (h : g.Graded b.components) (hg : b.session.graph = g)
    (lone : ∀ y, g.Joined x y → y = x) (covered : ∃ c ∈ b.components, x ∈ c) (hx : x ∈ b.queue)
    (id : BlockId) : x ∈ (b.schedule id).queue := by
  rw [schedule_eq h]
  split
  · exact hx
  · rw [noteCycles_eq]
    exact (Graph.mem_alone_iff h covered).mpr
      ⟨(mem_waiting hg).mpr (.inl hx), fun y _ hxy => lone y hxy⟩

/-- A block that waits at the beginning and is joined with no other goes on waiting, or is drawn,
whatever cycles are reported. -/
theorem Stage.lone_waits_or_drawn (hs : s.store.Sound)
    (h : Stage backend s seeds force pending b)
    (lone : ∀ y, (Graph.ofStore s.store).Joined x y → y = x)
    (hx : x ∈ isolatedSeeds s seeds ∨ x ∈ (Batch.opening s seeds force).queue) :
    (x ∈ pending ∨ x ∈ b.queue) ∨ x ∈ accounted [] b := by
  induction h with
  | opening => exact .inl hx
  | move h hm ih =>
    rcases ih with hx | hx
    · refine hm.waits_or_drawn_of_kept h.framed (h.places hs) ?_ hx
      intro b₁ id framed places e hx
      subst e
      refine mem_queue_schedule_of_lone (framed.graded hs) framed.graph_eq lone ?_ hx id
      rw [framed.components_eq]
      exact (Graph.mem_components (Graph.sound_ofStore hs)).mpr (places.queued x hx).1
    · exact .inr (hm.accounted_subset hx)

/-- A block that waits at the beginning and is joined with no other is settled at the end. -/
theorem mem_settled_of_lone (hs : s.store.Sound)
    (lone : ∀ y, (Graph.ofStore s.store).Joined x y → y = x)
    (hx : x ∈ isolatedSeeds s seeds ∨ x ∈ (opening s seeds force).queue) :
    x ∈ ((start s seeds force).run backend).report.settled := by
  rcases (stage_run hs backend seeds force).lone_waits_or_drawn hs lone hx with (hx | hx) | hx
  · exact absurd hx List.not_mem_nil
  · rw [queue_run hs] at hx
    exact absurd hx List.not_mem_nil
  · exact (mem_accounted_run hs).mp hx

end Batch
end Workbook
