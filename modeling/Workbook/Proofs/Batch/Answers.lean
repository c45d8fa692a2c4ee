import Mathlib.Data.List.Nodup
import Workbook.Proofs.Batch.Recorded
import Workbook.Proofs.Batch.Records

/-!
What stands in the blocks that a batch has computed, and what it leaves alone.

However many requests are open at once, and in whatever order they are answered, an answer comes to
the block that it was asked for, together with the text and the transform of that request
(`Stage.holds`).  A batch puts one request at most to the generator for each block (`asks_run`), so
there is only one that the content of a block can have come from.  Blocks that are not reported as
computed or failed keep their records (`propagate_spares`), and nothing is left waiting for an
answer (`noneWaits_propagate`).
-/

namespace Workbook

/-- What a block holds that was computed while `asked` was put to the generator: its resolved text,
or the answer to a request for it. -/
inductive Block.Holds (backend : Backend) (asked : List Request) (b : Block) : Prop where
  | shown (hk : b.kind = .static) (text : String) (input : b.input = some text)
    (content : b.content = some (.text text)) (applied : b.applied = none)
  | answered (hk : b.kind.isGenerative = true) (r : Request) (hr : r ∈ asked) (hid : r.id = b.id)
    (answer : Content) (ha : backend.answer r = .ok answer) (input : b.input = some r.input)
    (content : b.content = some answer) (applied : b.applied = some r.transform)

theorem Block.Holds.mono {backend : Backend} {asked more : List Request} {b : Block}
    (h : b.Holds backend asked) (hsub : ∀ r ∈ asked, r ∈ more) : b.Holds backend more := by
  cases h with
  | shown hk text input content applied => exact .shown hk text input content applied
  | answered hk r hr hid answer ha input content applied =>
    exact .answered hk r (hsub r hr) hid answer ha input content applied

/-- No block waits for an answer. -/
def NoneWaits (blocks : List Block) : Prop := ∀ b ∈ blocks, b.status ≠ .waiting

instance (blocks : List Block) : Decidable (NoneWaits blocks) :=
  inferInstanceAs (Decidable (∀ b ∈ blocks, b.status ≠ .waiting))

/-- Of requests for different blocks, one is for the block of each. -/
theorem filter_id_eq {requests : List Request} (hn : (requests.map (·.id)).Nodup) {r : Request}
    (hr : r ∈ requests) : requests.filter (fun q => q.id = r.id) = [r] := by
  refine List.perm_singleton.mp ((List.perm_ext_iff_of_nodup
    ((List.Nodup.of_map _ hn).filter _) (List.nodup_singleton r)).mpr fun q => ?_)
  rw [List.mem_filter, List.mem_singleton, decide_eq_true_eq]
  constructor
  · exact fun hq => List.inj_on_of_nodup_map hn hq.1 hr hq.2
  · rintro rfl
    exact ⟨hr, rfl⟩

namespace Batch

variable {backend : Backend} {s : Session} {seeds : List BlockId} {force : Bool}
  {pending : List BlockId} {b : Batch} {x : BlockId}

/-! ## Contents and requests -/

theorem holds_of_applied {t session : Session} {c : Block} {asked : List Request}
    (h : t.Taken force x .applied session) (hc : session.store.get? x = some c) :
    c.Holds backend asked := by
  cases h with
  | applied d hd hk =>
    have found := Store.get?_modify_self
      (f := .filled (.text (t.store.resolvedText d)) (t.store.resolvedText d) none)
      (fun _ => rfl) hd
    have e : d.filled (.text (t.store.resolvedText d)) (t.store.resolvedText d) none = c :=
      Option.some.inj (found.symm.trans hc)
    rw [← e]
    exact .shown hk _ rfl rfl rfl

/-- What a batch has added to the journal holds the requests that its computed blocks hold the
answers to. -/
theorem Stage.holds (hs : s.store.Sound) (h : Stage backend s seeds force pending b) :
    ∃ new, Recorded backend s new b ∧ ∀ x ∈ b.report.computed, ∀ c,
      b.session.store.get? x = some c → c.Holds backend (new.filterMap Moment.request?) := by
  induction h with
  | opening =>
    obtain ⟨new, recorded⟩ := Recorded.opening backend s seeds force
    refine ⟨new, recorded, fun x hx => ?_⟩
    rw [opening_frame] at hx
    exact absurd hx List.not_mem_nil
  | @move pending _ b b' h hm ih =>
    obtain ⟨new, recorded, ih⟩ := ih
    obtain ⟨new', recorded'⟩ := hm.recorded h.framed recorded
    obtain ⟨more, e, -⟩ := hm.tells h.framed
    have longer : new' = new ++ more := by
      rw [recorded'.journal, recorded.journal, List.append_assoc] at e
      exact List.append_cancel_left e
    subst longer
    have kept : ∀ r ∈ new.filterMap Moment.request?,
        r ∈ (new ++ more).filterMap Moment.request? := by
      intro r hr
      rw [List.filterMap_append]
      exact List.mem_append_left _ hr
    refine ⟨new ++ more, recorded', fun x hx c hc => ?_⟩
    rcases hm.computed_cases hx with hx | ⟨session, ht, stored⟩ | ⟨r, hr, rfl, answer, ha, stored⟩
    · have settled := Report.mem_settled.mpr (.inl hx)
      rw [(hm.spares (h.places hs) settled).get?_eq] at hc
      exact (ih x hx c hc).mono kept
    · rw [stored] at hc
      exact holds_of_applied ht hc
    · -- the request was open, so it was recorded when it was put to the generator
      obtain ⟨time, asked⟩ := recorded.calls r hr
      have asked : r ∈ new.filterMap Moment.request? := List.mem_filterMap.mpr ⟨_, asked, rfl⟩
      obtain ⟨_, asks⟩ := h.asks hs
      have generates : s.store.generates r.id = true :=
        asks.generates_of_mem (List.mem_append_right _ (List.mem_map_of_mem hr))
      rw [← h.framed.generates_eq hs] at generates
      obtain ⟨d, hd, hk⟩ := Store.exists_of_generates generates
      have found := Store.get?_modify_self
        (f := .filled answer r.input (some r.transform)) (fun _ => rfl) hd
      rw [stored, found] at hc
      cases hc
      exact .answered hk r (kept r asked) (Store.mem_of_get? hd).2.symm answer ha rfl rfl rfl

/-- The requests of a batch, one for each generative block that it computed or that failed. -/
theorem asks_run (hs : s.store.Sound) (backend : Backend) (seeds : List BlockId) (force : Bool) :
    let report := (s.propagate backend seeds force).1
    ∃ new, (s.propagate backend seeds force).2.requests = s.requests ++ new ∧
      (new.map (·.id)).Nodup ∧
      (new.map (·.id)).Perm
        (report.computed.filter s.store.generates ++ report.failed.map (·.1)) := by
  intro report
  obtain ⟨new, asks⟩ := (stage_run hs backend seeds force).asks hs
  have asked : ((start s seeds force).run backend).asked s.store =
      report.computed.filter s.store.generates ++ report.failed.map (·.1) := by
    rw [asked, calls_run hs, List.map_nil, List.append_nil]
    rfl
  have perm := asks.perm
  rw [asked] at perm
  refine ⟨new, ?_, perm.nodup_iff.mpr ?_, perm⟩
  · rw [requests_propagate]
    exact asks.requests_eq
  · refine List.Nodup.sublist ?_ (nodup_settled hs backend seeds force)
    exact (List.filter_sublist.trans (List.sublist_append_left _ _)).append (.refl _)

/-- A block that a batch computed holds what it shows, or the answer to the one request that the
batch has put to the generator for it. -/
theorem propagate_holds (hs : s.store.Sound) (backend : Backend) (seeds : List BlockId)
    (force : Bool) :
    ∃ new, (s.propagate backend seeds force).2.requests = s.requests ++ new ∧
      (new.map (·.id)).Nodup ∧
      ∀ x ∈ (s.propagate backend seeds force).1.computed, ∀ c,
        (s.propagate backend seeds force).2.store.get? x = some c → c.Holds backend new := by
  obtain ⟨new, requests, nodup, -⟩ := asks_run hs backend seeds force
  obtain ⟨moments, recorded, holds⟩ := (stage_run hs backend seeds force).holds hs
  have same : moments.filterMap Moment.request? = new := by
    rw [requests_propagate, Session.requests, recorded.journal, List.filterMap_append] at requests
    exact List.append_cancel_left requests
  refine ⟨new, requests, nodup, fun x hx c hc => ?_⟩
  rw [store_propagate] at hc
  rw [← same]
  exact holds x hx c hc

/-! ## Blocks that are left alone -/

theorem propagate_spares (hs : s.store.Sound) (backend : Backend) (seeds : List BlockId)
    (force : Bool) {x : BlockId} (computed : x ∉ (s.propagate backend seeds force).1.computed)
    (failed : x ∉ (s.propagate backend seeds force).1.failed.map (·.1)) :
    (s.propagate backend seeds force).2.store.get? x = s.store.get? x := by
  have stage := stage_run hs backend seeds force
  rw [store_propagate]
  by_cases skipped : x ∈ ((start s seeds force).run backend).report.skipped
  · exact stage.get?_skipped hs x skipped
  · refine (stage.spares hs fun accounted => ?_).get?_eq
    rcases Report.mem_settled.mp ((mem_accounted_run hs).mp accounted) with hx | hx | hx
    · exact computed hx
    · exact skipped hx
    · exact failed hx

/-- A block that failed has got a new status, and the time of its request. -/
theorem propagate_fails (hs : s.store.Sound) (backend : Backend) (seeds : List BlockId)
    (force : Bool) : ∀ e ∈ (s.propagate backend seeds force).1.failed,
      ∃ c, (s.propagate backend seeds force).2.store.get? e.1 = some c ∧
        c.status = .failed e.2.message ∧
        (s.store.get? e.1).map Block.atRest = some c.atRest := by
  intro e he
  have stage := stage_run hs backend seeds force
  obtain ⟨c, hc, status⟩ := stage.status_failed hs e he
  have uncomputed : e.1 ∉ ((start s seeds force).run backend).report.computed := by
    intro computed
    have apart := List.nodup_append.mp (nodup_settled hs backend seeds force)
    exact apart.2.2 _ (List.mem_append_left _ computed) _ (List.mem_map_of_mem he) rfl
  refine ⟨c, (congrArg (·.get? e.1) (store_propagate backend s seeds force)).trans hc, status, ?_⟩
  rw [← stage.atRest_eq uncomputed, hc]
  rfl

/-- A batch answers for every request that it makes: if no block waited before, none does after. -/
theorem noneWaits_propagate (hs : s.store.Sound) (backend : Backend) (seeds : List BlockId)
    (force : Bool) (h : NoneWaits s.store.blocks) :
    NoneWaits (s.propagate backend seeds force).2.store.blocks := by
  have stage := stage_run hs backend seeds force
  have sound := Session.sound_propagate hs backend seeds force
  intro c hc waiting
  have found := sound.get? hc
  by_cases computed : c.id ∈ (s.propagate backend seeds force).1.computed
  · rw [store_propagate] at found
    have done := stage.status_computed hs c.id computed c found
    rw [waiting] at done
    cases done
  · by_cases failed : c.id ∈ (s.propagate backend seeds force).1.failed.map (·.1)
    · obtain ⟨e, he, same⟩ := List.mem_map.mp failed
      obtain ⟨d, hd, status, -⟩ := propagate_fails hs backend seeds force e he
      rw [same, found] at hd
      cases hd
      rw [waiting] at status
      cases status
    · rw [propagate_spares hs backend seeds force computed failed] at found
      exact h c (Store.mem_of_get? found).1 waiting

end Batch
end Workbook
