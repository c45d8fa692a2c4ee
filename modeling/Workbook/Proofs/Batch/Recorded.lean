import Workbook.Proofs.Batch.Refusal

/-!
What the journal of a batch tells of its report.

A batch only adds to the journal.  Among what it has added are the requests for all blocks that
failed, and the cycle of its report, if anybody receives events (`propagate_recorded`).
-/

namespace Workbook

theorem Session.Continues.told_eq {s t : Session} (h : t.Continues s) (e : Event) :
    t.told e = s.told e := by
  rw [told, told, h.session_eq]

theorem Session.Taken.journal_asked {s session : Session} {force : Bool} {id : BlockId}
    {r : Request} (h : s.Taken force id (.asked r) session) :
    ∃ more, session.journal = s.journal ++ more ∧ .asked r s.now ∈ more := by
  cases h with
  | asked b =>
    let told := (s.record (.resolved id)).told (.statusChanged (s.store.requestFor b).id .waiting)
    refine ⟨.resolved id :: (told ++ [.asked (s.store.requestFor b) s.now]), ?_, by simp⟩
    show (s.journal ++ [.resolved id]) ++ (told ++ [.asked (s.store.requestFor b) s.now]) = _
    rw [List.append_assoc]
    rfl

namespace Batch

variable {backend : Backend} {s : Session} {seeds : List BlockId} {force : Bool}
  {pending pending' : List BlockId} {b b' b'' : Batch} {new : List Moment}

/-- The journal of `b'` goes on from that of `b`.  If `b'` reports a cycle that `b` does not, what
is added says so to those who receive events of session `s`. -/
def Tells (s : Session) (b' b : Batch) : Prop :=
  ∃ more, b'.session.journal = b.session.journal ++ more ∧
    ∀ c, b'.report.cycle = some c → b.report.cycle = some c ∨
      ∀ m ∈ s.told (.cycleDetected c.involved), m ∈ more

namespace Tells

theorem of_adds (h : b'.session.Adds (fun _ => True) b.session)
    (hr : b'.report.cycle = b.report.cycle) : Tells s b' b := by
  obtain ⟨more, e, -⟩ := h
  exact ⟨more, e, fun c hc => .inl (hr ▸ hc)⟩

theorem trans (h : Tells s b'' b') (h' : Tells s b' b) : Tells s b'' b := by
  obtain ⟨more, e, cycle⟩ := h
  obtain ⟨more', e', cycle'⟩ := h'
  refine ⟨more' ++ more, by rw [e, e', List.append_assoc], fun c hc => ?_⟩
  rcases cycle c hc with hc | told
  · exact (cycle' c hc).imp_right fun told m hm => List.mem_append_left _ (told m hm)
  · exact .inr fun m hm => List.mem_append_right _ (told m hm)

theorem schedule (framed : Framed s force b) (id : BlockId) : Tells s (b.schedule id) b := by
  obtain ⟨queue, cycles, e⟩ := exists_schedule b id
  rw [e, noteCycles_eq]
  refine ⟨_, rfl, fun c hc => ?_⟩
  rcases Option.or_eq_some_iff.mp hc with hc | ⟨-, hc⟩
  · exact .inl hc
  · refine .inr fun m hm => List.mem_flatMap.mpr ⟨c, List.mem_of_head? hc, ?_⟩
    exact (framed.continues.told_eq _).symm ▸ hm

end Tells

/-- A move adds to the journal, and to it the cycle that it reports. -/
theorem Moves.tells (hm : Moves backend pending b pending' b') (framed : Framed s force b) :
    Tells s b' b := by
  have answered (r : Request) : (b.answered backend r).Adds (fun _ => True) b.session :=
    answered_adds trivial backend b
  cases hm with
  | @skipped _ _ _ b₁ id session hd ht =>
    have same : b₁.report.cycle = b.report.cycle := congrArg Report.cycle hd.report_eq
    exact .of_adds (ht.adds trivial) same
  | @applied _ _ _ b₁ id session hd ht =>
    have drawn : Tells s { b₁ with session } b :=
      .of_adds (ht.adds trivial) (congrArg Report.cycle hd.report_eq)
    exact (Tells.schedule (framed.turn hd ht) id).trans drawn
  | askedIsolated ht => exact .of_adds (ht.adds trivial) rfl
  | askedQueued _ _ ht => exact .of_adds (ht.adds trivial) rfl
  | @filled _ b₁ r content hr _ =>
    let session := (b.answered backend r).fill r.id content r.input (some r.transform)
    have filled : session.Adds (fun _ => True) b.session := (Session.Adds.fill trivial ..).trans
      (answered r)
    have closed : Tells s { b₁ with session } b :=
      .of_adds filled (congrArg Report.cycle hr.report_eq)
    exact (Tells.schedule (framed.fill backend hr content) r.id).trans closed
  | @refused _ b₁ r e hr _ =>
    have same : b₁.report.cycle = b.report.cycle := congrArg Report.cycle hr.report_eq
    exact .of_adds ((Session.Adds.refuse trivial ..).trans (answered r)) same

/-- The journal of a batch that began in session `s` goes on with `new`, which holds its open
requests, the ones that were refused, and the cycle of its report. -/
structure Recorded (backend : Backend) (s : Session) (new : List Moment) (b : Batch) : Prop where
  journal : b.session.journal = s.journal ++ new
  calls : ∀ r ∈ b.calls, ∃ time, .asked r time ∈ new
  failed : ∀ e ∈ b.report.failed,
    ∃ r time, .asked r time ∈ new ∧ backend.answer r = .error e.2
  cycle : ∀ c, b.report.cycle = some c → ∀ m ∈ s.told (.cycleDetected c.involved), m ∈ new

theorem Recorded.opening (backend : Backend) (s : Session) (seeds : List BlockId) (force : Bool) :
    ∃ new, Recorded backend s new (opening s seeds force) := by
  have calls : ∀ r ∈ (Batch.opening s seeds force).calls, False := by
    rw [opening_frame]
    exact fun r hr => List.not_mem_nil hr
  have failed : ∀ e ∈ (Batch.opening s seeds force).report.failed, False := by
    rw [opening_frame]
    exact fun e he => List.not_mem_nil he
  rcases opening_cases s seeds force with ⟨-, e⟩ | ⟨c, more, -, e⟩
  · refine ⟨[], ?_, fun r hr => (calls r hr).elim, fun e he => (failed e he).elim, fun d hd => ?_⟩
    · rw [e]
      exact (List.append_nil _).symm
    · rw [e] at hd
      cases hd
  · refine ⟨s.told (.cycleDetected (BlockId.sorted c)), ?_, fun r hr => (calls r hr).elim,
      fun e he => (failed e he).elim, fun d hd m hm => ?_⟩
    · rw [e]
      show (s.regraph.emit _).journal = _
      rw [Session.emit_eq]
      rfl
    · rw [e] at hd
      cases hd
      exact hm

theorem Moves.recorded (hm : Moves backend pending b pending' b') (framed : Framed s force b)
    (h : Recorded backend s new b) : ∃ new, Recorded backend s new b' := by
  obtain ⟨more, e, cycle⟩ := hm.tells framed
  refine ⟨new ++ more, ?_, fun r hr => ?_, fun x hx => ?_, fun c hc m hm => ?_⟩
  · rw [e, h.journal, List.append_assoc]
  · rcases hm.calls_cases hr with hr | ⟨session, ht, same⟩
    · obtain ⟨time, hr⟩ := h.calls r hr
      exact ⟨time, List.mem_append_left _ hr⟩
    · obtain ⟨turn, e', hr⟩ := ht.journal_asked
      rw [same, e', List.append_cancel_left_eq] at e
      exact ⟨b.session.now, List.mem_append_right _ (e ▸ hr)⟩
  · rcases hm.failed_cases hx with hx | ⟨r, hr, -, refuses, -⟩
    · obtain ⟨r, time, hr, refuses⟩ := h.failed x hx
      exact ⟨r, time, List.mem_append_left _ hr, refuses⟩
    · obtain ⟨time, hr⟩ := h.calls r hr
      exact ⟨r, time, List.mem_append_left _ hr, refuses⟩
  · rcases cycle c hc with hc | told
    · exact List.mem_append_left _ (h.cycle c hc m hm)
    · exact List.mem_append_right _ (told m hm)

theorem Stage.recorded (h : Stage backend s seeds force pending b) :
    ∃ new, Recorded backend s new b := by
  induction h with
  | opening => exact Recorded.opening backend s seeds force
  | move h hm ih =>
    obtain ⟨new, ih⟩ := ih
    exact hm.recorded h.framed ih

/-- What a batch adds to the journal holds a request for each block that failed, with the error that
it was answered with; and the cycle that is reported, if anybody receives events. -/
theorem propagate_recorded (hs : s.store.Sound) (backend : Backend) (seeds : List BlockId)
    (force : Bool) :
    ∃ new, (s.propagate backend seeds force).2.journal = s.journal ++ new ∧
      (∀ e ∈ (s.propagate backend seeds force).1.failed,
        ∃ r time, .asked r time ∈ new ∧ backend.answer r = .error e.2) ∧
      ∀ c, (s.propagate backend seeds force).1.cycle = some c → s.watched = true →
        .emitted (.cycleDetected c.involved) ∈ new := by
  obtain ⟨new, h⟩ := (stage_run hs backend seeds force).recorded
  obtain ⟨saved, e, -⟩ := propagate_journal backend s seeds force
  refine ⟨new ++ saved, ?_, fun x hx => ?_, fun c hc watched => ?_⟩
  · rw [e, h.journal, List.append_assoc]
  · obtain ⟨r, time, hr, refuses⟩ := h.failed x hx
    exact ⟨r, time, List.mem_append_left _ hr, refuses⟩
  · refine List.mem_append_left _ (h.cycle c hc _ ?_)
    rw [Session.told_of_watched watched]
    exact List.mem_singleton_self _

end Batch
end Workbook
