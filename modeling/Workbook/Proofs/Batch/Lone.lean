import Workbook.Proofs.Batch.Records
import Workbook.Proofs.Batch.Refusal

/-!
What becomes of a seed that is joined with no other block.

Such a seed is not dropped, and what it reads does not change from when it was drawn, whatever
cycles a batch reports.  So it is current at the end, or has failed, if it is drawn at all.  It is
not if it has links and two other seeds are joined, for then no seed that has links is taken.
-/

namespace Workbook
namespace Batch

variable {backend : Backend} {s : Session} {seeds : List BlockId} {force : Bool}
  {pending : List BlockId} {b : Batch} {x : BlockId}

/-- A settled block of a kind that is computed has failed, or it is current. -/
theorem Stage.failed_or_current (hs : s.store.Sound) (h : Stage backend s seeds force pending b)
    {p : BlockId → Prop} (fresh : FreshOn p b) (hp : p x) (hx : x ∈ b.report.settled) {c : Block}
    (hc : b.session.store.get? x = some c) (hk : c.kind.recomputes = true) :
    (∃ message, c.status = .failed message) ∨ c.IsCurrent b.session.store := by
  rcases fresh.current_or_failed hp hx hc hk with current | failed
  · exact .inr current
  · obtain ⟨⟨y, e⟩, he, hy⟩ := List.mem_map.mp failed
    have hy : y = x := hy
    subst hy
    obtain ⟨d, hd, failed⟩ := h.status_failed hs _ he
    have e' : d = c := Option.some.inj (hd.symm.trans hc)
    exact .inl ⟨e.message, e' ▸ failed⟩

/-- A seed that is joined with no other block fails or is current in the end, unless it has links
and two seeds are joined; then it is left as it was. -/
theorem lone_seed_cases (hs : s.store.Sound) (hx : x ∈ seedsOf s seeds)
    (lone : ∀ y, (Graph.ofStore s.store).Joined x y → y = x) {c : Block}
    (hc : (s.propagate backend seeds force).2.store.get? x = some c)
    (hk : c.kind.recomputes = true) :
    let taken := (Graph.ofStore s.store).isIsolated x = true ∨
      ∀ y ∈ seedsOf s seeds, ∀ z ∈ seedsOf s seeds, (Graph.ofStore s.store).Joined y z → y = z
    (taken → (∃ message, c.status = .failed message) ∨
      c.IsCurrent (s.propagate backend seeds force).2.store) ∧
    (¬ taken → s.store.get? x = some c) := by
  intro taken
  have run := stage_run hs backend seeds force
  have settled_iff : x ∈ ((start s seeds force).run backend).report.settled ↔ taken := by
    rw [mem_settled_iff_of_lone hs hx lone, crowded_relatedSeeds_eq_nil_iff hs]
  rw [store_propagate] at hc ⊢
  constructor
  · intro given
    exact run.failed_or_current hs (run.fresh_of_lone hs) lone (settled_iff.mpr given) hc hk
  · intro refused
    have undrawn := mt (mem_accounted_run hs).mp (mt settled_iff.mp refused)
    rw [← (run.spares hs undrawn).get?_eq]
    exact hc

end Batch
end Workbook
