import Workbook.Proofs.Batch.Idempotence
import Workbook.Proofs.Batch.Records

/-!
What blocks say of themselves after a batch without a failure and without a cycle.

A block that was computed is done.  One that was skipped is left as it was, and that goes for its
status too: if its last request failed, or if its references were invalid when they were last looked
at, it says so still, although it is current and its references may be valid again
(`not_all_errors_cleared`).  Errors stay in no other way (`errors_after_clean_batch`).
-/

namespace Workbook
namespace Batch

variable {s : Session}

/-- After a clean batch, blocks that were computed are done, and blocks that were skipped are
current and as they were.  So if a block of either kind says that it failed, it was skipped, for
want of a change, and has said so before. -/
theorem errors_after_clean_batch (h : s.Reachable) (backend : Backend) (seeds : List BlockId)
    (force : Bool) (clean : (s.propagate backend seeds force).1.isClean = true) :
    let report := (s.propagate backend seeds force).1
    let t := (s.propagate backend seeds force).2
    (∀ x ∈ report.computed, ∃ c, t.store.get? x = some c ∧ c.kind.recomputes = true ∧
      c.status = .done ∧ c.IsCurrent t.store) ∧
    (∀ x ∈ report.skipped, t.store.get? x = s.store.get? x ∧ t.store.IsCurrentAt x) ∧
    ∀ x, x ∈ report.computed ∨ x ∈ report.skipped → ∀ c, t.store.get? x = some c →
      c.kind.recomputes = true → ∀ message, c.status = .failed message →
        x ∈ report.skipped ∧ force = false ∧ s.store.get? x = some c := by
  intro report t
  have hs := h.sound
  have cycle : report.cycle = none :=
    Option.isNone_iff_eq_none.mp (Bool.and_eq_true_iff.mp clean).2
  have stage := stage_run hs backend seeds force
  have store : t.store = ((start s seeds force).run backend).session.store :=
    store_propagate backend s seeds force
  have kept : ∀ x ∈ report.skipped, t.store.get? x = s.store.get? x := by
    rw [store]
    exact stage.get?_skipped hs
  refine ⟨fun x hx => ?_, fun x hx => ?_, fun x hx c hc hk message failed => ?_⟩
  · obtain ⟨c, hc, hk, current⟩ := (stage.fresh hs cycle).computed x hx
    have done := stage.status_computed hs x hx c hc
    rw [← store] at hc current
    exact ⟨c, hc, hk, done, current⟩
  · exact ⟨kept x hx, isCurrentAt_propagate hs cycle (.inr hx)⟩
  · have found : ((start s seeds force).run backend).session.store.get? x = some c := store ▸ hc
    rcases hx with hx | hx
    · have done := stage.status_computed hs x hx c found
      rw [failed] at done
      cases done
    · refine ⟨hx, ?_, (kept x hx).symm.trans hc⟩
      rw [← Bool.not_eq_true]
      intro forced
      subst forced
      rw [stage.skipped_forced hs x hx c found] at hk
      cases hk

/-- A block whose text was changed to one that the generator refuses, and back again; the block that
it mentions; and one that was never computed. -/
def retyped : Session :=
  let backend : Backend :=
    { answer := fun r => if r.input = "y" then .error .channelClosed else .ok (.text r.input) }
  let commands : List Command :=
    [.requestUpdate ⟨"1715609d"⟩ true, .editData ⟨"1715609d"⟩ "y",
      .requestUpdate ⟨"1715609d"⟩ true, .editData ⟨"1715609d"⟩ "[a]"]
  commands.foldl (fun s c => s.perform backend (.command c))
    (Session.ofTexts [(.static, "a", "x"), (.generativeText, "b", "[a]"),
      (.generativeText, "c", "z")])

theorem reachable_retyped : retyped.Reachable :=
  (Session.reachable_ofTexts _).foldl_perform _ .command _

/-- The block that was never computed is computed and done; the one with its old text again is
skipped, and still says that it failed. -/
theorem error_kept_after_retyping :
    let backend : Backend := { answer := fun r => .ok (.text r.input) }
    let seeds : List BlockId := [⟨"1715609d"⟩, ⟨"8ff34781"⟩]
    let report := (retyped.propagate backend seeds false).1
    let t := (retyped.propagate backend seeds false).2
    retyped.Reachable ∧ report.isClean = true ∧ report.computed = [⟨"8ff34781"⟩] ∧
      report.skipped = [⟨"1715609d"⟩] ∧
      (∃ c, t.store.get? ⟨"8ff34781"⟩ = some c ∧ c.kind.recomputes = true ∧ c.status = .done ∧
        c.IsCurrent t.store) ∧
      t.store.get? ⟨"1715609d"⟩ = retyped.store.get? ⟨"1715609d"⟩ ∧
      t.store.IsCurrentAt ⟨"1715609d"⟩ ∧
      (t.store.get? ⟨"1715609d"⟩).map (·.status) = some (.failed Error.channelClosed.message) := by
  intro backend seeds report t
  have outcome : report.isClean = true ∧ report.computed = [⟨"8ff34781"⟩] ∧
      report.skipped = [⟨"1715609d"⟩] ∧
      (t.store.get? ⟨"1715609d"⟩).map (·.status) =
        some (.failed Error.channelClosed.message) := by decide +kernel
  obtain ⟨clean, computed, skipped, status⟩ := outcome
  have after := errors_after_clean_batch reachable_retyped backend seeds false clean
  have drawn : ⟨"8ff34781"⟩ ∈ report.computed ∧ ⟨"1715609d"⟩ ∈ report.skipped := by
    rw [computed, skipped]
    exact ⟨List.mem_cons_self .., List.mem_cons_self ..⟩
  obtain ⟨kept, current⟩ := after.2.1 _ drawn.2
  exact ⟨reachable_retyped, clean, computed, skipped, after.1 _ drawn.1, kept, current, status⟩

/-- So it is not so that after a clean batch no block that was computed or skipped says that it
failed while all its references are valid. -/
theorem not_all_errors_cleared :
    ¬ ∀ (s : Session) (backend : Backend) (seeds : List BlockId) (force : Bool), s.Reachable →
      (s.propagate backend seeds force).1.isClean = true →
      ∀ x c, x ∈ (s.propagate backend seeds force).1.computed ∨
          x ∈ (s.propagate backend seeds force).1.skipped →
        (s.propagate backend seeds force).2.store.get? x = some c → c.kind.recomputes = true →
        ((s.propagate backend seeds force).2.store.resolve
          (.ofStore (s.propagate backend seeds force).2.store) c.data c.name).invalid = [] →
        ∀ message, c.status ≠ .failed message := by
  intro all
  let backend : Backend := { answer := fun r => .ok (.text r.input) }
  let ended := retyped.propagate backend [⟨"1715609d"⟩] false
  have outcome : ended.1.isClean = true ∧ ⟨"1715609d"⟩ ∈ ended.1.skipped ∧
      ∃ c ∈ ended.2.store.get? ⟨"1715609d"⟩, c.kind.recomputes = true ∧
        (ended.2.store.resolve (.ofStore ended.2.store) c.data c.name).invalid = [] ∧
        c.status = .failed Error.channelClosed.message := by decide +kernel
  obtain ⟨clean, skipped, c, hc, hk, valid, failed⟩ := outcome
  exact all retyped backend [⟨"1715609d"⟩] false reachable_retyped clean _ c (.inr skipped) hc hk
    valid _ failed

end Batch
end Workbook
