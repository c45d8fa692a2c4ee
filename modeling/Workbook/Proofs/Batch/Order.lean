import Workbook.Proofs.Batch.Settled
import Workbook.Proofs.Session.Run

/-!
The order in which a batch takes blocks.

A block that waits never reaches a block that was taken before it, unless that one reaches it in
turn (`Ordered`).  Putting dependents of a block into the queue keeps this because the block was the
last one taken: what it reaches, its dependents reach, and what was taken before it and reaches it
reaches them.  So of two blocks of which one reaches the other and is not reached by it, the first
is done with before the second has its turn (`mem_handled_of_takes`).
-/

namespace Workbook

theorem Graph.Reaches.eq_of_isIsolated {g : Graph} {a b : BlockId} (hab : g.Reaches a b)
    (h : g.isIsolated a = true) : b = a := by
  refine hab.closed (p := fun x => x = a) (fun x y hl hx => ?_) rfl
  subst hx
  exact absurd (hasLink_iff.mpr hl) (isIsolated_iff.mp h y).1

theorem Graph.Reaches.not_isIsolated {g : Graph} {a b : BlockId} (hab : g.Reaches a b)
    (hne : a ≠ b) : ¬ g.isIsolated a = true ∧ ¬ g.isIsolated b = true := by
  refine ⟨fun h => hne (hab.eq_of_isIsolated h).symm, fun h => ?_⟩
  cases hab with
  | refl => exact hne rfl
  | step _ hl => exact (isIsolated_iff.mp h _).2 hl

theorem Session.Spares.save (x : BlockId) (s : Session) : s.save.Spares x s := by
  rcases s.save_cases with e | e
  · rw [e]
    exact .refl x s
  · rw [e]
    have quiet : (Event.persisted s.store.size).about? ≠ some x := by simp [Event.about?]
    exact (Session.Spares.emit _ quiet).trans (.of_eq rfl rfl)

namespace Batch

/-- What was taken before a block, and is reached by it, reaches it in turn. -/
structure Ordered (g : Graph) (b : Batch) : Prop where
  queue : ∀ x ∈ b.queue, ∀ y ∈ b.handled, g.Reaches x y → g.Reaches y x
  handled : b.handled.Pairwise fun later earlier =>
    g.Reaches later earlier → g.Reaches earlier later
  head : ∀ r, b.chain = some r → b.handled.head? = some r.id

namespace Ordered

variable {g : Graph} {b b' : Batch} {id : BlockId}

theorem draw {pending pending' : List BlockId} (h : Ordered g b) (places : Places g pending b)
    (hd : Draws pending b id pending' b') : Ordered g b' := by
  cases hd with
  | isolated => exact h
  | queued hc hq =>
    have arranged := places.arranged
    rw [hq] at arranged
    obtain ⟨later, -⟩ := List.pairwise_cons.mp arranged
    constructor
    · intro x hx y hy hxy
      rcases List.mem_cons.mp hy with rfl | hy
      · exact absurd hxy (later x hx)
      · exact h.queue x (hq ▸ List.mem_cons_of_mem id hx) y hy hxy
    · exact List.pairwise_cons.mpr ⟨h.queue id (hq ▸ List.mem_cons_self ..), h.handled⟩
    · intro r hr
      rw [show b.chain = some r from hr] at hc
      cases hc

/-- A block that was drawn is reached by all it reaches among those taken before. -/
theorem back_of_draw {pending pending' : List BlockId} (h : Ordered g b)
    (isolated : ∀ x ∈ pending, g.isIsolated x = true) (hd : Draws pending b id pending' b') :
    ∀ y ∈ b'.handled, g.Reaches id y → g.Reaches y id := by
  intro y hy hid
  cases hd with
  | isolated =>
    rw [hid.eq_of_isIsolated (isolated id (List.mem_cons_self ..))]
    exact .refl id
  | queued hc hq =>
    rcases List.mem_cons.mp hy with rfl | hy
    · exact hid
    · exact h.queue id (hq ▸ List.mem_cons_self ..) y hy hid

theorem close {r : Request} (h : Ordered g b) (hr : Closes b r b') : Ordered g b' := by
  cases hr with
  | chain hc => exact ⟨h.queue, h.handled, fun q hq => by cases hq⟩
  | pool => exact ⟨h.queue, h.handled, h.head⟩

theorem report (h : Ordered g b) (session : Session) (report : Report) :
    Ordered g { b with session, report } :=
  ⟨h.queue, h.handled, h.head⟩

theorem back_of_close {r : Request} (h : Ordered g b)
    (isolated : ∀ r ∈ b.pool, g.isIsolated r.id = true) (hr : Closes b r b') :
    ∀ y ∈ b'.handled, g.Reaches r.id y → g.Reaches y r.id := by
  intro y hy hid
  cases hr with
  | chain hc =>
    obtain ⟨rest, e⟩ := List.head?_eq_some_iff.mp (h.head r hc)
    have pairwise := h.handled
    rw [e] at pairwise
    rw [show ({ b with chain := none } : Batch).handled = r.id :: rest from e] at hy
    rcases List.mem_cons.mp hy with rfl | hy
    · exact hid
    · exact (List.pairwise_cons.mp pairwise).1 y hy hid
  | pool hr =>
    rw [hid.eq_of_isIsolated (isolated r hr)]
    exact .refl _

theorem schedule {s : Session} {force : Bool} (h : Ordered (.ofStore s.store) b)
    (hs : s.store.Sound) (framed : Framed s force b)
    (back : ∀ y ∈ b.handled, (Graph.ofStore s.store).Reaches id y →
      (Graph.ofStore s.store).Reaches y id) : Ordered (.ofStore s.store) (b.schedule id) where
  queue x hx y hy hxy := by
    rw [handled_schedule] at hy
    rcases mem_queue_schedule (framed.graded hs) framed.graph_eq hx with hx | ⟨hl, -⟩
    · exact h.queue x hx y hy hxy
    · have hidx : (Graph.ofStore s.store).Reaches id x := .of_link (Graph.hasLink_iff.mp hl)
      exact (back y hy (hidx.trans hxy)).trans hidx
  handled := by
    rw [handled_schedule]
    exact h.handled
  head r hr := by
    rw [chain_schedule] at hr
    rw [handled_schedule]
    exact h.head r hr

end Ordered

theorem Moves.ordered {backend : Backend} {s : Session} {seeds : List BlockId} {force : Bool}
    {pending pending' : List BlockId} {b b' : Batch} (hm : Moves backend pending b pending' b')
    (hs : s.store.Sound) (framed : Framed s force b)
    (isolated : ∀ x ∈ pending, x ∈ isolatedSeeds s seeds)
    (places : Places (.ofStore s.store) pending b) (h : Ordered (.ofStore s.store) b) :
    Ordered (.ofStore s.store) b' := by
  have isolated := fun x hx => (mem_isolatedSeeds.mp (isolated x hx)).2
  cases hm with
  | skipped hd _ => exact (h.draw places hd).report _ _
  | @applied _ _ _ b₁ _ session hd ht =>
    have drawn := (h.draw places hd).report session b₁.report
    have back := h.back_of_draw isolated hd
    exact (drawn.schedule hs (framed.turn hd ht) back).report _ _
  | askedIsolated => exact ⟨h.queue, h.handled, h.head⟩
  | askedQueued hc hq ht =>
    have drawn := h.draw places (.queued hc hq)
    refine ⟨drawn.queue, drawn.handled, fun r hr => ?_⟩
    cases hr
    rw [ht.id_asked]
    rfl
  | @filled _ b₁ r content hr _ =>
    have closed := (h.close hr).report ((b.answered backend r).fill r.id content r.input
      (some r.transform)) b₁.report
    have back := h.back_of_close places.pool_isolated hr
    exact (closed.schedule hs (framed.fill backend hr content) back).report _ _
  | refused hr _ => exact (h.close hr).report _ _

theorem Ordered.opening (s : Session) (seeds : List BlockId) (force : Bool) :
    Ordered (.ofStore s.store) (opening s seeds force) := by
  rw [opening_frame]
  exact ⟨fun _ _ _ hy => absurd hy List.not_mem_nil, .nil, fun r hr => by cases hr⟩

theorem Stage.ordered {backend : Backend} {s : Session} {seeds : List BlockId} {force : Bool}
    {pending : List BlockId} {b : Batch} (hs : s.store.Sound)
    (h : Stage backend s seeds force pending b) : Ordered (.ofStore s.store) b := by
  induction h with
  | opening => exact .opening s seeds force
  | move h hm ih => exact hm.ordered hs h.framed h.pending_subset (h.places hs) ih

/-! ## Turns -/

/-- The next step of the batch gives a block its turn: references are resolved then, and not
before. -/
def Takes (b : Batch) (id : BlockId) : Prop := b.chain = none ∧ b.queue.head? = some id

instance (b : Batch) (id : BlockId) : Decidable (b.Takes id) :=
  inferInstanceAs (Decidable (_ ∧ _))

theorem handled_step_of_takes (backend : Backend) {b : Batch} {id : BlockId} (h : b.Takes id) :
    (b.step backend).handled = id :: b.handled := by
  obtain ⟨hc, hq⟩ := h
  obtain ⟨rest, hq⟩ := List.head?_eq_some_iff.mp hq
  have e : b.step backend = b.takeQueued id rest := by
    unfold step
    rw [hc, hq]
  rw [e]
  exact handled_takeQueued b id rest

theorem handled_step_cases (backend : Backend) (b : Batch) :
    (∃ id, b.Takes id ∧ (b.step backend).handled = id :: b.handled) ∨
      (b.step backend).handled = b.handled := by
  rcases step_cases backend b with ⟨id, rest, hc, hq, -⟩ | ⟨r, -, -, e⟩ | ⟨-, e⟩
  · have takes : b.Takes id := ⟨hc, by rw [hq]; rfl⟩
    exact .inl ⟨id, takes, handled_step_of_takes backend takes⟩
  · rw [e]
    exact .inr (handled_finish backend b r)
  · rw [e]
    exact .inr rfl

theorem handled_suffix_steps (backend : Backend) (b : Batch) (n : Nat) :
    b.handled <:+ (steps backend n b).handled := by
  induction n with
  | zero => exact List.suffix_refl _
  | succ n ih =>
    rw [steps_succ]
    rcases handled_step_cases backend (steps backend n b) with ⟨id, -, e⟩ | e
    · rw [e]
      exact ih.trans (List.suffix_cons _ _)
    · rw [e]
      exact ih

/-- What was taken from the queue had its turn at some step. -/
theorem exists_takes {backend : Backend} {b : Batch} {x : BlockId} (hx : x ∉ b.handled) {n : Nat}
    (hn : x ∈ (steps backend n b).handled) : ∃ m < n, (steps backend m b).Takes x := by
  induction n with
  | zero => exact absurd hn hx
  | succ n ih =>
    rw [steps_succ] at hn
    by_cases before : x ∈ (steps backend n b).handled
    · obtain ⟨m, hm, takes⟩ := ih before
      exact ⟨m, Nat.lt_succ_of_lt hm, takes⟩
    · rcases handled_step_cases backend (steps backend n b) with ⟨id, takes, e⟩ | e
      · rw [e] at hn
        rcases List.mem_cons.mp hn with rfl | hn
        · exact ⟨n, Nat.lt_succ_self n, takes⟩
        · exact absurd hn before
      · rw [e] at hn
        exact absurd hn before

/-- The blocks taken before the one whose turn it is are settled. -/
theorem Places.mem_settled_of_takes {g : Graph} {b : Batch} (h : Places g [] b) {id x : BlockId}
    (takes : b.Takes id) (hx : x ∈ b.handled) :
    x ∈ b.report.settled ∧ x ∉ b.calls.map (·.id) := by
  obtain ⟨related, hx⟩ := (h.mem_handled x).mp hx
  have uncalled : x ∉ b.calls.map (·.id) := by
    intro hx
    obtain ⟨r, hr, rfl⟩ := List.mem_map.mp hx
    rw [calls, takes.1, Option.toList_none, List.append_nil] at hr
    exact related (h.pool_isolated r hr)
  rcases mem_accounted_nil.mp hx with hx | hx
  · exact ⟨hx, uncalled⟩
  · exact absurd hx uncalled

theorem Places.not_accounted_of_takes {g : Graph} {b : Batch} (h : Places g [] b) {id : BlockId}
    (takes : b.Takes id) : id ∉ accounted [] b := by
  obtain ⟨rest, hq⟩ := List.head?_eq_some_iff.mp takes.2
  obtain ⟨-, related, fresh⟩ := h.queued id (hq ▸ List.mem_cons_self ..)
  exact fun hid => fresh ((h.mem_handled id).mpr ⟨related, hid⟩)

/-- What was taken at any time and is not related to a block as later blocks are to earlier ones was
taken before it. -/
theorem mem_handled_of_takes {backend : Backend} {b : Batch} {x y : BlockId} (takes : b.Takes y)
    {n : Nat} (hx : x ∈ (steps backend n b).handled) {R : BlockId → BlockId → Prop}
    (pairwise : (steps backend n b).handled.Pairwise R) (hne : x ≠ y) (hR : ¬ R x y) :
    x ∈ b.handled := by
  cases n with
  | zero => exact hx
  | succ n =>
    have suffix := handled_suffix_steps backend (b.step backend) n
    rw [handled_step_of_takes backend takes] at suffix
    obtain ⟨later, e⟩ := suffix
    have e : later ++ y :: b.handled = (steps backend (n + 1) b).handled := e
    rw [← e] at hx pairwise
    rcases List.mem_append.mp hx with hx | hx
    · exact absurd ((List.pairwise_append.mp pairwise).2.2 x hx y (List.mem_cons_self ..)) hR
    · exact (List.mem_cons.mp hx).resolve_left hne

theorem exists_takes_of_mem_run {s : Session} {backend : Backend} {seeds : List BlockId}
    {force : Bool} {x : BlockId} (hx : x ∈ ((start s seeds force).run backend).handled) :
    ∃ n, (steps backend n (start s seeds force)).Takes x := by
  have fresh : x ∉ (start s seeds force).handled := by
    rw [handled_start]
    exact List.not_mem_nil
  obtain ⟨n, -, takes⟩ := exists_takes fresh hx
  exact ⟨n, takes⟩

theorem spares_propagate {s : Session} (hs : s.store.Sound) (backend : Backend)
    (seeds : List BlockId) (force : Bool) (n : Nat) {x : BlockId}
    (hx : x ∈ (steps backend n (start s seeds force)).report.settled) :
    (s.propagate backend seeds force).2.Spares x
      (steps backend n (start s seeds force)).session := by
  have rest := spares_steps hs (stage_steps hs backend seeds force n) hx (start s seeds force).bound
  rw [steps_bound hs] at rest
  rcases Session.propagate_cases backend s seeds force with e | e
  · rw [e]
    exact rest
  · rw [e]
    exact (Session.Spares.save x _).trans rest

/-- If one block reaches another and is not reached by it, and a batch comes to both, then the other
has its turn at some step.  At that step nothing has been recorded about it, and the one is settled:
no request for it is open, and nothing will happen to it or be recorded about it in what is left of
the batch. -/
theorem propagate_in_order {s : Session} (h : s.Reachable) (backend : Backend)
    (seeds : List BlockId) (force : Bool) {x y : BlockId}
    (hx : x ∈ (s.propagate backend seeds force).1.settled)
    (hy : y ∈ (s.propagate backend seeds force).1.settled)
    (hxy : (Graph.ofStore s.store).Reaches x y) (hyx : ¬ (Graph.ofStore s.store).Reaches y x) :
    (∃ n, (steps backend n (start s seeds force)).Takes y) ∧
      ∀ n, (steps backend n (start s seeds force)).Takes y →
        (steps backend n (start s seeds force)).session.Spares y s ∧
        x ∈ (steps backend n (start s seeds force)).report.settled ∧
        x ∉ (steps backend n (start s seeds force)).calls.map (·.id) ∧
        (s.propagate backend seeds force).2.Spares x
          (steps backend n (start s seeds force)).session := by
  have hs := h.sound
  have hne : x ≠ y := by
    intro e
    subst e
    exact hyx hxy
  obtain ⟨hix, hiy⟩ := hxy.not_isIsolated hne
  have run := stage_run hs backend seeds force
  have handled : ∀ {z}, z ∈ (s.propagate backend seeds force).1.settled →
      ¬ (Graph.ofStore s.store).isIsolated z = true →
      z ∈ ((start s seeds force).run backend).handled :=
    fun hz hi => ((run.places hs).mem_handled _).mpr ⟨hi, (mem_accounted_run hs).mpr hz⟩
  refine ⟨exists_takes_of_mem_run (handled hy hiy), fun n takes => ?_⟩
  have stage := stage_steps hs backend seeds force n
  have ended := handled hx hix
  have pairwise := (run.ordered hs).handled
  rw [← steps_bound hs backend seeds force n] at ended pairwise
  have before := mem_handled_of_takes takes ended pairwise hne fun back => hyx (back hxy)
  obtain ⟨settled, uncalled⟩ := (stage.places hs).mem_settled_of_takes takes before
  exact ⟨stage.spares hs ((stage.places hs).not_accounted_of_takes takes), settled, uncalled,
    spares_propagate hs backend seeds force n settled⟩

set_option maxRecDepth 10000 in
/-- The block in the middle of the line is no seed, and a seed waits for it. -/
theorem in_order_along_line :
    let backend : Backend := { answer := fun r => .ok (.text r.input) }
    let seeds : List BlockId := [⟨"8ff34781"⟩, ⟨"9e3779b9"⟩]
    let report := (Session.line.propagate backend seeds true).1
    let before := steps backend 3 (start Session.line seeds true)
    Session.line.Reachable ∧
      (⟨"9e3779b9"⟩ ∈ report.settled ∧ ⟨"8ff34781"⟩ ∈ report.settled) ∧
      ((Graph.ofStore Session.line.store).Reaches ⟨"9e3779b9"⟩ ⟨"8ff34781"⟩ ∧
        ¬ (Graph.ofStore Session.line.store).Reaches ⟨"8ff34781"⟩ ⟨"9e3779b9"⟩) ∧
      before.Takes ⟨"8ff34781"⟩ ∧ before.session.Spares ⟨"8ff34781"⟩ Session.line ∧
      ⟨"9e3779b9"⟩ ∈ before.report.settled ∧
      (Session.line.propagate backend seeds true).2.Spares ⟨"9e3779b9"⟩ before.session := by
  intro backend seeds report before
  have graph := Graph.sound_ofStore Session.reachable_line.sound
  have known : ⟨"9e3779b9"⟩ ∈ (Graph.ofStore Session.line.store).nodes ∧
      ⟨"8ff34781"⟩ ∈ (Graph.ofStore Session.line.store).nodes := by decide +kernel
  have reach : ⟨"8ff34781"⟩ ∈ (Graph.ofStore Session.line.store).reach ⟨"9e3779b9"⟩ ∧
      ⟨"9e3779b9"⟩ ∉ (Graph.ofStore Session.line.store).reach ⟨"8ff34781"⟩ := by decide +kernel
  rw [Graph.mem_reach graph known.1, Graph.mem_reach graph known.2] at reach
  have settled : ⟨"9e3779b9"⟩ ∈ report.settled ∧ ⟨"8ff34781"⟩ ∈ report.settled := by
    decide +kernel
  have takes : before.Takes ⟨"8ff34781"⟩ := by decide +kernel
  have ordered := propagate_in_order Session.reachable_line backend seeds true settled.1 settled.2
    reach.1 reach.2
  obtain ⟨spared, done, -, rest⟩ := ordered.2 3 takes
  exact ⟨Session.reachable_line, settled, reach, takes, spared, done, rest⟩

end Batch
end Workbook
