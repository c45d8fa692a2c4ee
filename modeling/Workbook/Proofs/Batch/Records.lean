import Workbook.Proofs.Batch.Additions
import Workbook.Proofs.Batch.Requests

/-!
What a batch leaves in the records of blocks.

A block that was not computed keeps its content and what the content was computed from, whatever
became of it (`Stage.atRest_eq`).  One that failed says so (`Stage.status_failed`), one that was
computed has content (`Stage.content_computed`), and a static one that was computed shows what it
was computed from (`Stage.static_computed`).
-/

namespace Workbook

/-- The block shows the text that it was computed from. -/
def Block.ShowsInput (b : Block) : Prop :=
  ∃ text, b.input = some text ∧ b.content = some (.text text)

namespace Batch

variable {backend : Backend} {s : Session} {seeds : List BlockId} {force : Bool}
  {pending : List BlockId} {b : Batch} {x : BlockId}

/-! ## Blocks that were not computed -/

theorem map_atRest_modify {t : Store} {id : BlockId} {f : Block → Block}
    (hi : ∀ b, (f b).id = b.id) (hf : ∀ b, (f b).atRest = b.atRest) :
    ((t.modify id f).get? x).map Block.atRest = (t.get? x).map Block.atRest := by
  rw [Store.get?_modify hi, Option.map_map]
  refine congrArg (Option.map · (t.get? x)) (funext fun c => ?_)
  show (if c.id = id then f c else c).atRest = c.atRest
  split
  · exact hf c
  · rfl

theorem map_atRest_taken {t session : Session} {id : BlockId} {turn : Turn}
    (h : t.Taken force id turn session) (hne : turn ≠ .applied) :
    (session.store.get? x).map Block.atRest = (t.store.get? x).map Block.atRest := by
  cases h with
  | inert => rfl
  | current => rfl
  | applied => exact absurd rfl hne
  | asked => exact map_atRest_modify (fun _ => rfl) fun _ => rfl

theorem Moves.atRest_eq {pending' : List BlockId} {b' : Batch}
    (hm : Moves backend pending b pending' b') (hx : x ∉ b'.report.computed) :
    (b'.session.store.get? x).map Block.atRest = (b.session.store.get? x).map Block.atRest := by
  cases hm with
  | skipped hd ht => exact map_atRest_taken ht (by simp)
  | @applied _ _ _ b₁ id session hd ht =>
    have hne : x ≠ id := by
      intro e
      subst e
      exact hx (List.mem_append_right _ (List.mem_singleton_self x))
    show ((schedule _ id).session.store.get? x).map _ = _
    rw [store_schedule]
    exact congrArg (Option.map Block.atRest) (ht.touches.get?_eq x hne)
  | askedIsolated ht => exact map_atRest_taken ht (by simp)
  | askedQueued hc hq ht => exact map_atRest_taken ht (by simp)
  | @filled _ b₁ r content hr _ =>
    have hne : x ≠ r.id := by
      intro e
      subst e
      exact hx (List.mem_append_right _ (List.mem_singleton_self r.id))
    show ((schedule _ r.id).session.store.get? x).map _ = _
    rw [store_schedule]
    exact congrArg (Option.map Block.atRest) (Store.get?_modify_ne (fun _ => rfl) hne)
  | refused => exact map_atRest_modify (fun _ => rfl) fun _ => rfl

/-- A block that was not computed keeps its content, and what the content was computed from. -/
theorem Stage.atRest_eq (h : Stage backend s seeds force pending b) (hx : x ∉ b.report.computed) :
    (b.session.store.get? x).map Block.atRest = (s.store.get? x).map Block.atRest := by
  induction h with
  | opening =>
    rw [store_opening]
  | move h hm ih =>
    rw [hm.atRest_eq hx]
    exact ih fun hx' => hx (hm.report_extends.computed.subset hx')

/-! ## Blocks that failed -/

theorem Stage.status_failed (hs : s.store.Sound) (h : Stage backend s seeds force pending b) :
    ∀ e ∈ b.report.failed, ∃ c, b.session.store.get? e.1 = some c ∧
      c.status = .failed e.2.message := by
  induction h with
  | opening =>
    intro e he
    rw [opening_frame] at he
    exact absurd he List.not_mem_nil
  | @move pending _ b _ h hm ih =>
    intro e he
    rcases hm.failed_cases he with he | ⟨r, hr, hid, -, stored⟩
    · have settled := Report.mem_settled.mpr (.inr (.inr (List.mem_map_of_mem (f := (·.1)) he)))
      rw [(hm.spares (h.places hs) settled).get?_eq]
      exact ih e he
    · have known := (h.places hs).known r.id
        (List.mem_append_left _ (List.mem_append_right _ (List.mem_map_of_mem hr)))
      rw [Graph.nodes_ofStore hs, ← h.ids_eq] at known
      obtain ⟨c, hc⟩ := Store.exists_get? known
      rw [stored, ← hid]
      exact ⟨_, Store.get?_modify_self (fun _ => rfl) hc, rfl⟩

theorem Stage.generates_of_failed (hs : s.store.Sound) (h : Stage backend s seeds force pending b)
    (hx : x ∈ b.report.failed.map (·.1)) : s.store.generates x = true := by
  obtain ⟨new, asks⟩ := h.asks hs
  exact asks.generates_of_mem (List.mem_append_left _ (List.mem_append_right _ hx))

/-- No block fails if the generator does not. -/
theorem Stage.failed_of_ok (hok : ∀ r, ∃ content, backend.answer r = .ok content)
    (h : Stage backend s seeds force pending b) : b.report.failed = [] := by
  induction h with
  | opening => rw [opening_frame]
  | move h hm ih =>
    rw [List.eq_nil_iff_forall_not_mem]
    intro e he
    rcases hm.failed_cases he with he | ⟨r, -, -, refuses, -⟩
    · rw [ih] at he
      exact absurd he List.not_mem_nil
    · obtain ⟨content, answers⟩ := hok r
      rw [answers] at refuses
      cases refuses

/-! ## Blocks that were computed or skipped -/

/-- A block that was computed was filled, and nothing has happened to it since. -/
theorem Stage.filled_computed (hs : s.store.Sound) (h : Stage backend s seeds force pending b) :
    ∀ x ∈ b.report.computed, ∀ c, b.session.store.get? x = some c →
      ∃ d content input applied, c = Block.filled content input applied d := by
  have filled : ∀ {t : Store} {id : BlockId} {content : Content} {input : String}
      {applied : Option String} {c : Block},
      (t.modify id (.filled content input applied)).get? id = some c →
        ∃ d content input applied, c = Block.filled content input applied d := by
    intro t id content input applied c hc
    rw [Store.get?_modify (f := .filled content input applied) fun _ => rfl] at hc
    obtain ⟨b, hb, e⟩ := Option.map_eq_some_iff.mp hc
    rw [if_pos (Store.mem_of_get? hb).2] at e
    exact ⟨b, content, input, applied, e.symm⟩
  induction h with
  | opening =>
    intro x hx
    rw [opening_frame] at hx
    exact absurd hx List.not_mem_nil
  | @move pending _ b b' h hm ih =>
    intro x hx c hc
    rcases hm.computed_cases hx with hx | ⟨session, ht, stored⟩ | ⟨r, -, rfl, content, -, stored⟩
    · have settled := Report.mem_settled.mpr (.inl hx)
      rw [(hm.spares (h.places hs) settled).get?_eq] at hc
      exact ih x hx c hc
    · rw [stored] at hc
      cases ht with
      | applied => exact filled hc
    · rw [stored] at hc
      exact filled hc

theorem Stage.content_computed (hs : s.store.Sound) (h : Stage backend s seeds force pending b) :
    ∀ x ∈ b.report.computed, ∀ c, b.session.store.get? x = some c → c.content.isSome = true := by
  intro x hx c hc
  obtain ⟨d, content, input, applied, rfl⟩ := h.filled_computed hs x hx c hc
  rfl

theorem Stage.status_computed (hs : s.store.Sound) (h : Stage backend s seeds force pending b) :
    ∀ x ∈ b.report.computed, ∀ c, b.session.store.get? x = some c → c.status = .done := by
  intro x hx c hc
  obtain ⟨d, content, input, applied, rfl⟩ := h.filled_computed hs x hx c hc
  rfl

/-- A block that was skipped is as it was when the batch began. -/
theorem Stage.get?_skipped (hs : s.store.Sound) (h : Stage backend s seeds force pending b) :
    ∀ x ∈ b.report.skipped, b.session.store.get? x = s.store.get? x := by
  induction h with
  | opening =>
    intro x hx
    rw [opening_frame] at hx
    exact absurd hx List.not_mem_nil
  | @move pending _ b b' h hm ih =>
    intro x hx
    rcases hm.skipped_cases hx with hx | ⟨session, ht, stored, _, hd⟩
    · have settled := Report.mem_settled.mpr (.inr (.inl hx))
      rw [(hm.spares (h.places hs) settled).get?_eq]
      exact ih x hx
    · -- a block that is skipped has its turn in this very move, so nothing has happened to it
      have untouched := (h.spares hs ((h.places hs).not_accounted_of_draws hd)).get?_eq
      rw [stored]
      cases ht with
      | inert => exact untouched
      | current => exact untouched

theorem showsInput_of_applied {t session : Session} {c : Block}
    (h : t.Taken force x .applied session) (hc : session.store.get? x = some c) :
    c.ShowsInput := by
  cases h with
  | applied b hb =>
    have found := Store.get?_modify_self
      (f := .filled (.text (t.store.resolvedText b)) (t.store.resolvedText b) none)
      (fun _ => rfl) hb
    have e : b.filled (.text (t.store.resolvedText b)) (t.store.resolvedText b) none = c :=
      Option.some.inj (found.symm.trans hc)
    rw [← e]
    exact ⟨_, rfl, rfl⟩

theorem Stage.static_computed (hs : s.store.Sound) (h : Stage backend s seeds force pending b) :
    ∀ x ∈ b.report.computed, ∀ c, b.session.store.get? x = some c → c.kind = .static →
      c.ShowsInput := by
  induction h with
  | opening =>
    intro x hx
    rw [opening_frame] at hx
    exact absurd hx List.not_mem_nil
  | @move pending _ b b' h hm ih =>
    intro x hx c hc hk
    rcases hm.computed_cases hx with hx | ⟨session, ht, stored⟩ | ⟨r, hr, rfl, -⟩
    · have settled := Report.mem_settled.mpr (.inl hx)
      rw [(hm.spares (h.places hs) settled).get?_eq] at hc
      exact ih x hx c hc hk
    · rw [stored] at hc
      exact showsInput_of_applied ht hc
    · obtain ⟨new, asks⟩ := h.asks hs
      have generates : s.store.generates r.id = true :=
        asks.generates_of_mem (List.mem_append_right _ (List.mem_map_of_mem hr))
      rw [← (hm.framed h.framed).generates_eq hs, Store.generates, hc] at generates
      have generates : c.kind.isGenerative = true := generates
      rw [hk] at generates
      cases generates

/-- A batch that computes whatever it comes to skips only what is not computed at all. -/
theorem Stage.skipped_forced (hs : s.store.Sound) (h : Stage backend s seeds true pending b) :
    ∀ x ∈ b.report.skipped, ∀ c, b.session.store.get? x = some c → c.kind.recomputes = false := by
  induction h with
  | opening =>
    intro x hx
    rw [opening_frame] at hx
    exact absurd hx List.not_mem_nil
  | @move pending _ b b' h hm ih =>
    intro x hx c hc
    rcases hm.skipped_cases hx with hx | ⟨session, ht, stored, -⟩
    · have settled := Report.mem_settled.mpr (.inr (.inl hx))
      rw [(hm.spares (h.places hs) settled).get?_eq] at hc
      exact ih x hx c hc
    · rw [stored] at hc
      cases ht with
      | inert hi => exact hi c hc
      | current b _ _ _ hf =>
        rw [h.framed.force_eq] at hf
        cases hf

end Batch
end Workbook
