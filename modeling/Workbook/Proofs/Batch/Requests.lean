import Workbook.Proofs.Session.Run

/-!
Every block once, and every request once.

The requests that a batch puts to the generator are one for each generative block that it computed,
that failed, or that a request is open for (`Stage.asked`).  At the end no request is open.
-/

namespace Workbook

/-- Whether the content of a block is asked of the generator. -/
def Store.generates (s : Store) (id : BlockId) : Bool := (s.get? id).any (·.kind.isGenerative)

theorem Store.exists_of_generates {s : Store} {id : BlockId} (h : s.generates id = true) :
    ∃ b, s.get? id = some b ∧ b.kind.isGenerative = true := by
  unfold Store.generates at h
  cases hb : s.get? id with
  | none =>
    rw [hb] at h
    cases h
  | some b =>
    rw [hb] at h
    exact ⟨b, rfl, h⟩

theorem Store.Alike.generates {s t : Store} (h : s.Alike t) (hs : s.Sound) (id : BlockId) :
    s.generates id = t.generates id := by
  have ht := h.symm.sound hs
  unfold Store.generates
  cases hb : s.get? id with
  | none =>
    have : t.get? id = none := by
      rw [Store.get?_eq_none_iff] at hb ⊢
      rwa [← h.ids]
    rw [this]
  | some b =>
    obtain ⟨c, hc, e⟩ := h.get? ht hb
    rw [hc]
    show b.kind.isGenerative = c.kind.isGenerative
    rw [Block.kind_eq_of_outline e]

theorem Session.Taken.generates {s session : Session} {force : Bool} {id : BlockId} {r : Request}
    (h : s.Taken force id (.asked r) session) : s.store.generates r.id = true := by
  cases h with
  | asked b hb hk =>
    show (s.store.get? b.id).any _ = true
    rw [(Store.mem_of_get? hb).2, hb]
    exact hk

theorem Session.Taken.not_generates {s session : Session} {force : Bool} {id : BlockId}
    (h : s.Taken force id .applied session) : s.store.generates id = false := by
  cases h with
  | applied b hb hk =>
    rw [Store.generates, hb]
    show b.kind.isGenerative = false
    rw [hk]
    rfl

namespace Batch

/-- The blocks that a request was put to the generator for. -/
def asked (s : Store) (b : Batch) : List BlockId :=
  b.report.computed.filter s.generates ++ b.report.failed.map (·.1) ++ b.calls.map (·.id)

/-- The requests of a batch that began in session `s`. -/
structure Asks (s : Session) (new : List Request) (b : Batch) : Prop where
  requests_eq : b.session.requests = s.requests ++ new
  perm : (new.map (·.id)).Perm (b.asked s.store)
  generates : ∀ r ∈ new, s.store.generates r.id = true

theorem requests_answered (backend : Backend) (b : Batch) (r : Request) :
    (b.answered backend r).requests = b.session.requests :=
  Session.requests_record_answered b.session r

theorem asked_schedule (s : Store) (b : Batch) (id : BlockId) :
    (b.schedule id).asked s = b.asked s := by
  simp only [asked, calls, pool_schedule, chain_schedule, computed_schedule, failed_schedule]

theorem asked_noteComputed (s : Store) (b : Batch) (id : BlockId) :
    ((b.noteComputed id).asked s).Perm
      ((if s.generates id = true then [id] else []) ++ b.asked s) := by
  apply List.perm_iff_count.mpr
  intro a
  have e : (b.report.computed ++ [id]).filter s.generates =
      b.report.computed.filter s.generates ++ if s.generates id = true then [id] else [] := by
    rw [List.filter_append, List.filter_singleton, Bool.cond_eq_ite]
  show List.count a ((b.report.computed ++ [id]).filter s.generates ++ _ ++ _) = _
  rw [e]
  simp only [asked, noteComputed, calls, List.count_append]
  omega

/-- Ending a request leaves its block to be reported. -/
theorem Closes.asked_perm {s : Store} {b b' : Batch} {r : Request} (h : Closes b r b') :
    (b.asked s).Perm (r.id :: b'.asked s) := by
  have hp := (h.calls_perm.map (·.id)).append_left
    (b.report.computed.filter s.generates ++ b.report.failed.map (·.1))
  have e : b'.report = b.report := by
    rw [h.frame]
  rw [asked, asked, e]
  exact hp.trans List.perm_middle

namespace Asks

variable {s : Session} {new : List Request} {b : Batch}

theorem ask (h : Asks s new b) {r : Request} (hr : s.store.generates r.id = true) {b' : Batch}
    (hs : b'.session.requests = b.session.requests ++ [r])
    (hp : (b'.asked s.store).Perm (b.asked s.store ++ [r.id])) : Asks s (new ++ [r]) b' where
  requests_eq := by
    rw [hs, h.requests_eq, List.append_assoc]
  perm := by
    rw [List.map_append]
    exact (h.perm.append_right _).trans hp.symm
  generates q hq := by
    rcases List.mem_append.mp hq with hq | hq
    · exact h.generates q hq
    · rw [List.mem_singleton.mp hq]
      exact hr

theorem of_perm (h : Asks s new b) {b' : Batch} (hs : b'.session.requests = b.session.requests)
    (hp : (b'.asked s.store).Perm (b.asked s.store)) : Asks s new b' where
  requests_eq := hs.trans h.requests_eq
  perm := h.perm.trans hp.symm
  generates := h.generates

/-- Only generative blocks are asked for. -/
theorem generates_of_mem (h : Asks s new b) {id : BlockId} (hid : id ∈ b.asked s.store) :
    s.store.generates id = true := by
  obtain ⟨r, hr, rfl⟩ := List.mem_map.mp (h.perm.mem_iff.mpr hid)
  exact h.generates r hr

end Asks

theorem Framed.generates_eq {s : Session} {force : Bool} {b : Batch} (h : Framed s force b)
    (hs : s.store.Sound) (id : BlockId) : b.session.store.generates id = s.store.generates id :=
  h.alike.generates (h.alike.sound hs) id

theorem Asks.opening (s : Session) (seeds : List BlockId) (force : Bool) :
    Asks s [] (opening s seeds force) := by
  rcases opening_cases s seeds force with ⟨-, e⟩ | ⟨c, more, -, e⟩
  · rw [e]
    exact ⟨(List.append_nil _).symm, .refl _, by simp⟩
  · rw [e]
    exact ⟨(Session.requests_emit ..).trans (List.append_nil _).symm, .refl _, by simp⟩

theorem Moves.asks {backend : Backend} {s : Session} {force : Bool}
    {pending pending' : List BlockId} {b b' : Batch} (hm : Moves backend pending b pending' b')
    (hs : s.store.Sound) (framed : Framed s force b) {new : List Request} (h : Asks s new b) :
    ∃ new, Asks s new b' := by
  cases hm with
  | skipped hd ht =>
    refine ⟨new, h.of_perm (ht.requests_eq.trans (List.append_nil _)) ?_⟩
    rw [hd.frame]
    exact .refl _
  | @applied _ _ _ b' id session hd ht =>
    refine ⟨new, h.of_perm ?_ ?_⟩
    · show (schedule _ _).session.requests = _
      rw [requests_schedule]
      exact ht.requests_eq.trans (List.append_nil _)
    · have hid : s.store.generates id = false :=
        (framed.generates_eq hs id).symm.trans ht.not_generates
      apply (asked_noteComputed ..).trans
      rw [hid, asked_schedule, hd.frame]
      exact .refl _
  | @askedIsolated _ _ id session r ht =>
    refine ⟨new ++ [r], h.ask ?_ ht.requests_eq ?_⟩
    · rw [← framed.generates_eq hs]
      exact ht.generates
    · simp only [asked, calls, List.map_append, List.map_cons, List.map_nil]
      apply List.perm_iff_count.mpr
      intro a
      simp only [List.count_append]
      omega
  | @askedQueued _ id rest session r hc hq ht =>
    refine ⟨new ++ [r], h.ask ?_ ht.requests_eq ?_⟩
    · rw [← framed.generates_eq hs]
      exact ht.generates
    · simp only [asked, calls, hc, Option.toList_none, Option.toList_some, List.append_nil,
        List.map_append, List.map_cons, List.map_nil, List.append_assoc]
      exact .refl _
  | @filled _ b' r content hr _ =>
    refine ⟨new, h.of_perm ?_ ?_⟩
    · show (schedule _ _).session.requests = _
      rw [requests_schedule]
      exact (Session.requests_fill ..).trans (requests_answered backend b r)
    · have hid : s.store.generates r.id = true :=
        h.generates_of_mem (hr.asked_perm.mem_iff.mpr (List.mem_cons_self ..))
      apply (asked_noteComputed ..).trans
      rw [hid, asked_schedule]
      exact hr.asked_perm.symm
  | @refused _ b' r e hr _ =>
    refine ⟨new, h.of_perm ?_ ?_⟩
    · exact (Session.requests_refuse ..).trans (requests_answered backend b r)
    · refine List.Perm.trans ?_ hr.asked_perm.symm
      simp only [asked, noteFailed, calls, List.map_append, List.map_cons, List.map_nil]
      apply List.perm_iff_count.mpr
      intro a
      simp only [List.count_append, List.count_cons, List.count_nil]
      omega

/-- The requests of a batch are one for each of the blocks that were asked for. -/
theorem Stage.asks {backend : Backend} {s : Session} {seeds : List BlockId} {force : Bool}
    {pending : List BlockId} {b : Batch} (hs : s.store.Sound)
    (h : Stage backend s seeds force pending b) : ∃ new, Asks s new b := by
  induction h with
  | opening => exact ⟨[], .opening s seeds force⟩
  | move h hm ih =>
    obtain ⟨new, ih⟩ := ih
    exact hm.asks hs h.framed ih

theorem requests_propagate (backend : Backend) (s : Session) (seeds : List BlockId)
    (force : Bool) : (s.propagate backend seeds force).2.requests =
      ((start s seeds force).run backend).session.requests := by
  rcases s.propagate_cases backend seeds force with e | e <;> rw [e]
  exact Session.requests_save _

/-- A batch ends.  It reports no block twice, and puts one request to the generator for each
generative block that it computed or that failed, and none for any other. -/
theorem propagate_ends_with_each_once {s : Session} (h : s.Reachable) (backend : Backend)
    (seeds : List BlockId) (force : Bool) :
    ((start s seeds force).run backend).isDone = true ∧
      (∀ n, (start s seeds force).bound ≤ n →
        steps backend n (start s seeds force) = (start s seeds force).run backend) ∧
      (∀ b : Batch, b.components = (Graph.ofStore s.store).components → ∀ waiting rounds,
        waiting.length < rounds →
          enqueue rounds b waiting = enqueue (waiting.length + 1) b waiting) ∧
      ((s.propagate backend seeds force).1.computed ++ (s.propagate backend seeds force).1.skipped ++
        (s.propagate backend seeds force).1.failed.map (·.1)).Nodup ∧
      ∃ new : List Request,
        (s.propagate backend seeds force).2.requests = s.requests ++ new ∧
        (new.map (·.id)).Nodup ∧
        ∀ id, id ∈ new.map (·.id) ↔
          (id ∈ (s.propagate backend seeds force).1.computed ∨
            id ∈ (s.propagate backend seeds force).1.failed.map (·.1)) ∧
          s.store.generates id = true := by
  have hs := h.sound
  have ended := fun n hn => steps_eq_run hs backend seeds force (n := n) hn
  have nodup := nodup_settled hs backend seeds force
  refine ⟨(ended _ (Nat.le_refl _)).1, fun n hn => (ended n hn).2, ?_, nodup, ?_⟩
  · intro b hb waiting rounds hr
    have graded : (Graph.ofStore s.store).Graded b.components := by
      rw [hb]
      exact (Graph.graded_components (Graph.sound_ofStore hs)).1
    rw [enqueue_eq graded hr, enqueue_eq graded (Nat.lt_succ_self _)]
  · obtain ⟨new, asks⟩ := (stage_steps hs backend seeds force (start s seeds force).bound).asks hs
    have asked_eq : ((start s seeds force).run backend).asked s.store =
        ((start s seeds force).run backend).report.computed.filter s.store.generates ++
          ((start s seeds force).run backend).report.failed.map (·.1) := by
      rw [asked, calls_run hs, List.map_nil, List.append_nil]
    have perm := asks.perm
    rw [show steps backend _ (start s seeds force) = (start s seeds force).run backend from rfl,
      asked_eq] at perm
    refine ⟨new, ?_, ?_, fun id => ?_⟩
    · rw [requests_propagate]
      exact asks.requests_eq
    · refine perm.nodup_iff.mpr (List.Nodup.sublist ?_ nodup)
      exact ((List.filter_sublist).trans (List.sublist_append_left _ _)).append (.refl _)
    · have failed : id ∈ ((start s seeds force).run backend).report.failed.map (·.1) →
          s.store.generates id = true := fun hid =>
        asks.generates_of_mem (List.mem_append_left _ (List.mem_append_right _ hid))
      rw [perm.mem_iff, List.mem_append, List.mem_filter]
      constructor
      · intro given
        rcases given with ⟨hc, hg⟩ | hf
        · exact ⟨.inl hc, hg⟩
        · exact ⟨.inr hf, failed hf⟩
      · intro given
        rcases given with ⟨hc | hf, hg⟩
        · exact .inl ⟨hc, hg⟩
        · exact .inr hf

set_option maxRecDepth 10000 in
theorem each_once_in_circle :
    let backend : Backend :=
      { answer := fun r => if r.name = "d" then .error .channelClosed else .ok (.text r.input) }
    let seeds : List BlockId := [⟨"9e3779b9"⟩, ⟨"08d12e65"⟩, ⟨"absent"⟩, ⟨"9e3779b9"⟩]
    let report := (Session.circle.propagate backend seeds true).1
    Session.circle.Reachable ∧ report.computed = [⟨"9e3779b9"⟩, ⟨"1715609d"⟩, ⟨"8ff34781"⟩] ∧
      report.failed = [(⟨"08d12e65"⟩, .channelClosed)] ∧ report.cycle.isSome = true ∧
      (report.computed ++ report.skipped ++ report.failed.map (·.1)).Nodup ∧
      ∃ new : List Request,
        (Session.circle.propagate backend seeds true).2.requests =
          Session.circle.requests ++ new ∧
        (new.map (·.id)).Nodup ∧
        ∀ id, id ∈ new.map (·.id) ↔
          (id ∈ report.computed ∨ id ∈ report.failed.map (·.1)) ∧
          Session.circle.store.generates id = true := by
  intro backend seeds report
  have ends := propagate_ends_with_each_once Session.reachable_circle backend seeds true
  have computed : report.computed = [⟨"9e3779b9"⟩, ⟨"1715609d"⟩, ⟨"8ff34781"⟩] ∧
      report.failed = [(⟨"08d12e65"⟩, .channelClosed)] ∧ report.cycle.isSome = true := by
    decide +kernel
  refine ⟨Session.reachable_circle, computed.1, computed.2.1, computed.2.2, ?_, ?_⟩
  · exact ends.2.2.2.1
  · exact ends.2.2.2.2

end Batch
end Workbook
