import Workbook.Proofs.Batch.Settled

/-!
What a move adds to the report and to the open requests.

An entry of the report that was not there before a move says what the move has done, and so does a
request that was not open before it.  What settled blocks and open requests have in common is proved
of every stage of a batch by looking at additions only.
-/

namespace Workbook
namespace Batch

variable {backend : Backend} {pending pending' : List BlockId} {b b' : Batch}

/-- A block that is new among the skipped ones was skipped at its turn. -/
theorem Moves.skipped_cases (hm : Moves backend pending b pending' b') {x : BlockId}
    (hx : x ∈ b'.report.skipped) : x ∈ b.report.skipped ∨
      ∃ session, b.session.Taken b.force x .skipped session ∧ b'.session.store = session.store ∧
        ∃ b₁, Draws pending b x pending' b₁ := by
  cases hm with
  | @skipped _ _ _ b₁ id session hd ht =>
    have hx : x ∈ b₁.report.skipped ++ [id] := hx
    rcases List.mem_append.mp hx with hx | hx
    · rw [hd.report_eq] at hx
      exact .inl hx
    · rw [List.mem_singleton.mp hx]
      exact .inr ⟨session, ht, rfl, b₁, hd⟩
  | @applied _ _ _ b₁ id session hd ht =>
    rw [noteComputed, skipped_schedule] at hx
    have hx : x ∈ b₁.report.skipped := hx
    rw [hd.report_eq] at hx
    exact .inl hx
  | askedIsolated => exact .inl hx
  | askedQueued => exact .inl hx
  | @filled _ b₁ r content hr _ =>
    rw [noteComputed, skipped_schedule] at hx
    have hx : x ∈ b₁.report.skipped := hx
    rw [hr.report_eq] at hx
    exact .inl hx
  | @refused _ b₁ r e hr _ =>
    have hx : x ∈ b₁.report.skipped := hx
    rw [hr.report_eq] at hx
    exact .inl hx

/-- A block that is new among the computed ones was computed at its turn, or by an answer. -/
theorem Moves.computed_cases (hm : Moves backend pending b pending' b') {x : BlockId}
    (hx : x ∈ b'.report.computed) : x ∈ b.report.computed ∨
      (∃ session, b.session.Taken b.force x .applied session ∧
        b'.session.store = session.store) ∨
      ∃ r ∈ b.calls, r.id = x ∧ ∃ content, backend.answer r = .ok content ∧
        b'.session.store =
          b.session.store.modify r.id (.filled content r.input (some r.transform)) := by
  cases hm with
  | @skipped _ _ _ b₁ id session hd ht =>
    have hx : x ∈ b₁.report.computed := hx
    rw [hd.report_eq] at hx
    exact .inl hx
  | @applied _ _ _ b₁ id session hd ht =>
    rw [noteComputed, computed_schedule] at hx
    have hx : x ∈ b₁.report.computed ++ [id] := hx
    rcases List.mem_append.mp hx with hx | hx
    · rw [hd.report_eq] at hx
      exact .inl hx
    · rw [List.mem_singleton.mp hx]
      exact .inr (.inl ⟨session, ht, store_schedule _ id⟩)
  | askedIsolated => exact .inl hx
  | askedQueued => exact .inl hx
  | @filled _ b₁ r content hr ha =>
    rw [noteComputed, computed_schedule] at hx
    have hx : x ∈ b₁.report.computed ++ [r.id] := hx
    rcases List.mem_append.mp hx with hx | hx
    · rw [hr.report_eq] at hx
      exact .inl hx
    · rw [List.mem_singleton.mp hx]
      exact .inr (.inr ⟨r, hr.mem_calls, rfl, content, ha, store_schedule _ r.id⟩)
  | @refused _ b₁ r e hr _ =>
    have hx : x ∈ b₁.report.computed := hx
    rw [hr.report_eq] at hx
    exact .inl hx

/-- An entry that is new among the failed blocks was refused by the generator. -/
theorem Moves.failed_cases (hm : Moves backend pending b pending' b') {x : BlockId × Error}
    (hx : x ∈ b'.report.failed) : x ∈ b.report.failed ∨
      ∃ r ∈ b.calls, r.id = x.1 ∧ backend.answer r = .error x.2 ∧
        b'.session.store = b.session.store.modify r.id (.refused x.2.message) := by
  cases hm with
  | @skipped _ _ _ b₁ id session hd ht =>
    have hx : x ∈ b₁.report.failed := hx
    rw [hd.report_eq] at hx
    exact .inl hx
  | @applied _ _ _ b₁ id session hd ht =>
    rw [noteComputed, failed_schedule] at hx
    have hx : x ∈ b₁.report.failed := hx
    rw [hd.report_eq] at hx
    exact .inl hx
  | askedIsolated => exact .inl hx
  | askedQueued => exact .inl hx
  | @filled _ b₁ r content hr _ =>
    rw [noteComputed, failed_schedule] at hx
    have hx : x ∈ b₁.report.failed := hx
    rw [hr.report_eq] at hx
    exact .inl hx
  | @refused _ b₁ r e hr ha =>
    have hx : x ∈ b₁.report.failed ++ [(r.id, e)] := hx
    rcases List.mem_append.mp hx with hx | hx
    · rw [hr.report_eq] at hx
      exact .inl hx
    · rw [List.mem_singleton.mp hx]
      exact .inr ⟨r, hr.mem_calls, rfl, ha, rfl⟩

/-- A request that is new among the open ones was put at the turn of its block. -/
theorem Moves.calls_cases (hm : Moves backend pending b pending' b') {r : Request}
    (hr : r ∈ b'.calls) : r ∈ b.calls ∨
      ∃ session, b.session.Taken b.force r.id (.asked r) session ∧ b'.session = session := by
  cases hm with
  | skipped hd ht =>
    rw [hd.frame] at hr
    exact .inl hr
  | applied hd ht =>
    rw [hd.frame, calls, noteComputed, pool_schedule, chain_schedule] at hr
    exact .inl hr
  | @askedIsolated _ _ id session q ht =>
    rw [calls, List.append_assoc, List.mem_append, List.mem_append, List.mem_singleton] at hr
    rcases hr with hr | rfl | hr
    · exact .inl (List.mem_append_left _ hr)
    · exact .inr ⟨session, ht.id_asked.symm ▸ ht, rfl⟩
    · exact .inl (List.mem_append_right _ hr)
  | @askedQueued _ id rest session q hc hq ht =>
    rw [calls, List.mem_append] at hr
    rcases hr with hr | hr
    · exact .inl (List.mem_append_left _ hr)
    · rw [Option.toList_some, List.mem_singleton] at hr
      subst hr
      exact .inr ⟨session, ht.id_asked.symm ▸ ht, rfl⟩
  | @filled _ b₁ q content hq _ =>
    rw [calls, noteComputed, pool_schedule, chain_schedule] at hr
    exact .inl (hq.calls_perm.mem_iff.mpr (List.mem_cons_of_mem q hr))
  | @refused _ b₁ q e hq _ =>
    exact .inl (hq.calls_perm.mem_iff.mpr (List.mem_cons_of_mem q hr))

end Batch
end Workbook
