import Workbook.Proofs.Batch.Additions
import Workbook.Proofs.Batch.Order

/-!
Nothing a batch is done with goes stale, as long as it reports no cycle.

A block feeds another if it is mentioned there and does not mention the other in turn (`Feeds`);
what a block resolves to depends on the content of the blocks that feed it, and on nothing else that
a batch changes.  When a block gets new content, what it feeds waits in the queue from there on
(`Fed`), so what was drawn before reads nothing of it.  A move therefore does not change what a
drawn block reads (`Moves.contentOf?_eq`), and the blocks that are settled stay as current as they
were when they were settled (`Fresh`).
-/

namespace Workbook

/-- The content of the one block takes the place of its mentions in the other. -/
def Graph.Feeds (g : Graph) (a x : BlockId) : Prop := g.hasLink a x = true ∧ ¬ g.hasLink x a = true

theorem Graph.Feeds.not_isIsolated {g : Graph} {a x : BlockId} (h : g.Feeds a x) :
    ¬ g.isIsolated a = true ∧ ¬ g.isIsolated x = true :=
  ⟨fun hi => (isIsolated_iff.mp hi x).1 h.1, fun hi => (isIsolated_iff.mp hi a).2 h.1⟩

/-- The request is what would be put to the generator for its block now. -/
def Request.IsCurrent (r : Request) (s : Store) : Prop :=
  ∃ b, s.get? r.id = some b ∧ b.kind.recomputes = true ∧ r.input = s.resolvedText b ∧
    r.transform = b.effectiveTransform.getD ""

theorem Kind.recomputes_of_isGenerative {k : Kind} (h : k.isGenerative = true) :
    k.recomputes = true := by
  cases k with
  | generativeText => rfl
  | generativeImage => rfl
  | static => cases h
  | separator => cases h
  | importedImage => cases h

theorem Store.requestFor_isCurrent {s : Store} {id : BlockId} {b : Block} (hb : s.get? id = some b)
    (hk : b.kind.isGenerative = true) : (s.requestFor b).IsCurrent s := by
  have hid : s.get? b.id = some b := by
    rw [(Store.mem_of_get? hb).2]
    exact hb
  exact ⟨b, hid, Kind.recomputes_of_isGenerative hk, rfl, rfl⟩

theorem Request.IsCurrent.of_alike {s t : Store} {r : Request} (h : r.IsCurrent s) (hs : s.Sound)
    (ht : t.Alike s)
    (same : ∀ a, (Graph.ofStore s).Feeds a r.id → t.contentOf? a = s.contentOf? a) :
    r.IsCurrent t := by
  obtain ⟨b, hb, hk, hi, ha⟩ := h
  obtain ⟨c, hc, e⟩ := ht.symm.get? (ht.sound hs) hb
  obtain ⟨hmem, hid⟩ := Store.mem_of_get? hb
  refine ⟨c, hc, Block.kind_eq_of_outline e ▸ hk, hi.trans ?_, ?_⟩
  · refine (Store.resolvedText_eq_of_alike hs ht hmem ?_ e).symm
    intro a hl hl'
    rw [hid] at hl hl'
    exact same a ⟨hl, Bool.not_eq_true _ ▸ hl'⟩
  · rw [ha, Block.effectiveTransform_eq_of_outline e]

/-- A block that is filled with what its text resolves to is current. -/
theorem Store.isCurrent_filled {s : Store} (hs : s.Sound) {id : BlockId} {b : Block}
    (hb : s.get? id = some b) (content : Content) {applied : Option String}
    (ha : applied.getD "" = b.effectiveTransform.getD "") :
    ∃ c, (s.modify id (.filled content (s.resolvedText b) applied)).get? id = some c ∧
      c.kind = b.kind ∧ c.IsCurrent (s.modify id (.filled content (s.resolvedText b) applied)) := by
  have found := Store.get?_modify_self (f := .filled content (s.resolvedText b) applied)
    (fun _ => rfl) hb
  have alike : (s.modify id (.filled content (s.resolvedText b) applied)).Alike s :=
    Store.alike_modify fun _ => rfl
  obtain ⟨hmem, rfl⟩ := Store.mem_of_get? hb
  refine ⟨_, found, rfl, ?_, ha⟩
  have e : (b.filled content (s.resolvedText b) applied).outline = b.outline := rfl
  rw [Store.resolvedText_eq_of_alike hs alike hmem ?_ e]
  · rfl
  · intro a hl hl'
    have hne : a ≠ b.id := by
      intro e
      subst e
      rw [hl] at hl'
      cases hl'
    exact Store.contentOf?_congr (Store.get?_modify_ne (fun _ => rfl) hne)

theorem Request.IsCurrent.fill {r : Request} {t : Store} (h : r.IsCurrent t)
    (ht : t.Sound) (content : Content) :
    ∃ c, (t.modify r.id (.filled content r.input (some r.transform))).get? r.id = some c ∧
      c.kind.recomputes = true ∧
      c.IsCurrent (t.modify r.id (.filled content r.input (some r.transform))) := by
  obtain ⟨b, hb, hk, hi, ha⟩ := h
  have ha : (some r.transform).getD "" = b.effectiveTransform.getD "" := ha
  obtain ⟨c, hc, e, hcur⟩ := Store.isCurrent_filled ht hb content ha
  rw [← hi] at hc hcur
  exact ⟨c, hc, e ▸ hk, hcur⟩

namespace Batch

variable {backend : Backend} {g : Graph} {s : Session} {seeds : List BlockId} {force : Bool}
  {hand pending pending' : List BlockId} {b b' : Batch} {id : BlockId}

/-! ## Without a cycle -/

theorem cycle_of_schedule (h : (b.schedule id).report.cycle = none) : b.report.cycle = none := by
  obtain ⟨queue, cycles, e⟩ := exists_schedule b id
  rw [e, noteCycles_eq] at h
  exact (Option.or_eq_none_iff.mp h).1

/-- A batch that reports no cycle has not reported one before. -/
theorem Moves.cycle_eq_none (hm : Moves backend pending b pending' b')
    (h : b'.report.cycle = none) : b.report.cycle = none := by
  cases hm with
  | skipped hd =>
    rw [← hd.report_eq]
    exact h
  | applied hd =>
    have before := cycle_of_schedule h
    rw [← hd.report_eq]
    exact before
  | askedIsolated => exact h
  | askedQueued => exact h
  | filled hr =>
    have before := cycle_of_schedule h
    rw [← hr.report_eq]
    exact before
  | refused hr =>
    rw [← hr.report_eq]
    exact h

/-- What putting dependents into the queue comes to without a cycle. -/
structure Scheduled (g : Graph) (b : Batch) (id : BlockId) : Prop where
  handled : ∀ x ∈ b.handled, ¬ g.Feeds id x
  kept : ∀ x ∈ b.queue, x ∈ (b.schedule id).queue
  queued : ∀ x, g.Feeds id x → x ∈ (b.schedule id).queue

theorem Places.scheduled (h : Places (.ofStore s.store) hand b) (hs : s.store.Sound)
    (framed : Framed s force b) (hn : (b.schedule id).report.cycle = none) :
    Scheduled (.ofStore s.store) b id := by
  have hg := Graph.sound_ofStore hs
  have e := framed.graph_eq
  have covers : ∀ x ∈ b.waiting id, ∃ c ∈ b.components, x ∈ c := by
    intro x hx
    rw [framed.components_eq, Graph.mem_components hg]
    rcases (mem_waiting e).mp hx with hx | ⟨hl, -⟩
    · exact (h.queued x hx).1
    · exact (hg.ends_mem (Graph.hasLink_iff.mp hl)).2
  obtain ⟨-, back, waits⟩ := schedule_of_cycle_eq_none (framed.graded hs) e hn covers
  have handled : ∀ x ∈ b.handled, ¬ (Graph.ofStore s.store).Feeds id x :=
    fun x hx hf => hf.2 (back x hf.1 hx)
  refine ⟨handled, fun x hx => waits x ((mem_waiting e).mpr (.inl hx)), fun x hf => ?_⟩
  exact waits x ((mem_waiting e).mpr (.inr ⟨hf.1, fun hx => handled x hx hf⟩))

/-! ## What computed blocks feed -/

/-- What a computed block feeds waits, or was taken after it. -/
structure Fed (g : Graph) (b : Batch) : Prop where
  waits : ∀ a ∈ b.report.computed, ∀ x, g.Feeds a x → x ∈ b.queue ∨ x ∈ b.handled
  handled : b.handled.Pairwise fun later earlier =>
    later ∈ b.report.computed → ¬ g.Feeds later earlier

namespace Fed

theorem draw (h : Fed g b) (places : Places g pending b) (hd : Draws pending b id pending' b') :
    Fed g b' := by
  have fresh := hd.report_eq ▸ (places.draw hd).not_mem_settled
  cases hd with
  | isolated => exact h
  | queued hc hq =>
    refine ⟨fun a ha x hf => ?_, List.pairwise_cons.mpr ⟨fun x _ ha => ?_, h.handled⟩⟩
    · rcases h.waits a ha x hf with hx | hx
      · rw [hq] at hx
        rcases List.mem_cons.mp hx with rfl | hx
        · exact .inr (List.mem_cons_self ..)
        · exact .inl hx
      · exact .inr (List.mem_cons_of_mem _ hx)
    · exact absurd (Report.mem_settled.mpr (.inl ha)) fresh

theorem close {r : Request} (h : Fed g b) (hr : Closes b r b') : Fed g b' := by
  cases hr with
  | chain => exact ⟨h.waits, h.handled⟩
  | pool => exact ⟨h.waits, h.handled⟩

theorem compute (h : Fed g b) (hs : Scheduled g b id) :
    Fed g ((b.schedule id).noteComputed id) := by
  have mem : ∀ {a}, a ∈ ((b.schedule id).noteComputed id).report.computed →
      a ∈ b.report.computed ∨ a = id := by
    intro a ha
    rw [noteComputed, computed_schedule] at ha
    rcases List.mem_append.mp ha with ha | ha
    · exact .inl ha
    · exact .inr (List.mem_singleton.mp ha)
  constructor
  · intro a ha x hf
    show x ∈ (b.schedule id).queue ∨ x ∈ (b.schedule id).handled
    rw [handled_schedule]
    rcases mem ha with ha | rfl
    · exact (h.waits a ha x hf).imp (hs.kept x) fun hx => hx
    · exact .inl (hs.queued x hf)
  · show (b.schedule id).handled.Pairwise _
    rw [handled_schedule]
    apply h.handled.imp_of_mem
    intro later earlier _ he before ha
    rcases mem ha with ha | rfl
    · exact before ha
    · exact hs.handled earlier he

theorem of_eq (h : Fed g b) (hq : b'.queue = b.queue) (hh : b'.handled = b.handled)
    (hc : b'.report.computed = b.report.computed) : Fed g b' where
  waits := by
    rw [hq, hh, hc]
    exact h.waits
  handled := by
    rw [hh, hc]
    exact h.handled

theorem opening (s : Session) (seeds : List BlockId) (force : Bool) :
    Fed (.ofStore s.store) (opening s seeds force) := by
  rw [opening_frame]
  exact ⟨fun a ha => absurd ha List.not_mem_nil, .nil⟩

end Fed

theorem Moves.fed (hm : Moves backend pending b pending' b') (hs : s.store.Sound)
    (framed : Framed s force b) (places : Places (.ofStore s.store) pending b)
    (hn : b'.report.cycle = none) (h : Fed (.ofStore s.store) b) : Fed (.ofStore s.store) b' := by
  cases hm with
  | skipped hd _ => exact (h.draw places hd).of_eq rfl rfl rfl
  | @applied _ _ _ b₁ _ session hd ht =>
    have drawn : Fed (.ofStore s.store) { b₁ with session } :=
      (h.draw places hd).of_eq rfl rfl rfl
    exact drawn.compute (((places.draw hd).session _).scheduled hs (framed.turn hd ht) hn)
  | askedIsolated => exact h.of_eq rfl rfl rfl
  | askedQueued hc hq ht => exact (h.draw places (.queued hc hq)).of_eq rfl rfl rfl
  | @filled _ b₁ r content hr _ =>
    let session := (b.answered backend r).fill r.id content r.input (some r.transform)
    have closed : Fed (.ofStore s.store) { b₁ with session } := (h.close hr).of_eq rfl rfl rfl
    have framed := framed.fill backend hr content
    exact closed.compute (((places.close hr).session _).scheduled hs framed hn)
  | refused hr _ => exact (h.close hr).of_eq rfl rfl rfl

theorem Stage.fed (hs : s.store.Sound) (h : Stage backend s seeds force pending b)
    (hn : b.report.cycle = none) : Fed (.ofStore s.store) b := by
  induction h with
  | opening => exact .opening s seeds force
  | move h hm ih => exact hm.fed hs h.framed (h.places hs) hn (ih (hm.cycle_eq_none hn))

/-! ## What drawn blocks read -/

theorem mem_accounted_of_compute (hand : List BlockId) {x : BlockId}
    (hx : x ∈ accounted [] ((b.schedule id).noteComputed id)) : x ∈ accounted (id :: hand) b := by
  have e : accounted [] ((b.schedule id).noteComputed id) = accounted [] (b.noteComputed id) := by
    simp only [accounted, Report.settled, calls, noteComputed, pool_schedule, chain_schedule,
      computed_schedule, skipped_schedule, failed_schedule]
  rw [e, mem_accounted_nil, Report.mem_settled] at hx
  rw [accounted, List.mem_append, List.mem_append, Report.mem_settled, List.mem_cons]
  rcases hx with (hx | hx | hx) | hx
  · rcases List.mem_append.mp hx with hx | hx
    · exact .inl (.inl (.inl hx))
    · exact .inr (.inl (List.mem_singleton.mp hx))
  · exact .inl (.inl (.inr (.inl hx)))
  · exact .inl (.inl (.inr (.inr hx)))
  · exact .inl (.inr hx)

/-- A block that is being computed feeds none that was drawn. -/
theorem Scheduled.not_feeds (h : Scheduled g b id) (places : Places g (id :: hand) b) {x : BlockId}
    (hx : x ∈ accounted [] ((b.schedule id).noteComputed id)) : ¬ g.Feeds id x := by
  intro hf
  have hx := mem_accounted_of_compute hand hx
  exact h.handled x ((places.mem_handled x).mpr ⟨hf.not_isIsolated.2, hx⟩) hf

theorem contentOf?_taken {t session : Session} {turn : Turn} (h : t.Taken force id turn session)
    (hne : turn ≠ .applied) (a : BlockId) :
    session.store.contentOf? a = t.store.contentOf? a := by
  cases h with
  | inert => rfl
  | current => rfl
  | applied => exact absurd rfl hne
  | asked => exact Store.contentOf?_modify (fun _ => rfl) fun _ => rfl

/-- A move changes no content, or it computes one block.  Then `b₁` is the batch with the new
content of the block, before its dependents are put into the queue. -/
theorem Moves.compute_cases (hm : Moves backend pending b pending' b') (framed : Framed s force b)
    (places : Places (.ofStore s.store) pending b) :
    (∀ a, b'.session.store.contentOf? a = b.session.store.contentOf? a) ∨
      ∃ id hand b₁, b' = (b₁.schedule id).noteComputed id ∧ Framed s force b₁ ∧
        Places (.ofStore s.store) (id :: hand) b₁ ∧
        (∀ a, a ≠ id → b'.session.store.contentOf? a = b.session.store.contentOf? a) ∧
        (Ordered (.ofStore s.store) b →
          (∀ x ∈ pending, (Graph.ofStore s.store).isIsolated x = true) →
          ∀ y ∈ b₁.handled, (Graph.ofStore s.store).Reaches id y →
            (Graph.ofStore s.store).Reaches y id) := by
  cases hm with
  | skipped hd ht => exact .inl (contentOf?_taken ht (by simp))
  | @applied _ _ _ b₁ id session hd ht =>
    have back := fun (ordered : Ordered (.ofStore s.store) b) isolated =>
      ordered.back_of_draw isolated hd
    refine .inr ⟨id, pending', { b₁ with session }, rfl, framed.turn hd ht,
      (places.draw hd).session session, fun a hne => ?_, back⟩
    show (schedule _ id).session.store.contentOf? a = _
    rw [store_schedule]
    exact Store.contentOf?_congr (ht.touches.get?_eq a hne)
  | askedIsolated ht => exact .inl (contentOf?_taken ht (by simp))
  | askedQueued hc hq ht => exact .inl (contentOf?_taken ht (by simp))
  | @filled _ b₁ r content hr _ =>
    let session := (b.answered backend r).fill r.id content r.input (some r.transform)
    have back := fun (ordered : Ordered (.ofStore s.store) b) =>
      ordered.back_of_close places.pool_isolated hr
    refine .inr ⟨r.id, [], { b₁ with session }, rfl, framed.fill backend hr content,
      (places.close hr).session session, fun a hne => ?_, fun ordered _ => back ordered⟩
    show (schedule _ r.id).session.store.contentOf? a = _
    rw [store_schedule]
    exact Store.contentOf?_congr (Store.get?_modify_ne (fun _ => rfl) hne)
  | refused hr _ => exact .inl fun a => Store.contentOf?_modify (fun _ => rfl) fun _ => rfl

/-- A move does not change what a drawn block reads. -/
theorem Moves.contentOf?_eq (hm : Moves backend pending b pending' b') (hs : s.store.Sound)
    (framed : Framed s force b) (places : Places (.ofStore s.store) pending b)
    (hn : b'.report.cycle = none) {a x : BlockId} (hx : x ∈ accounted [] b')
    (hf : (Graph.ofStore s.store).Feeds a x) :
    b'.session.store.contentOf? a = b.session.store.contentOf? a := by
  rcases hm.compute_cases framed places with same | ⟨id, hand, b₁, rfl, framed, places, same, -⟩
  · exact same a
  · refine same a fun e => ?_
    subst e
    exact (places.scheduled hs framed hn).not_feeds places hx hf

/-- Whatever cycles there are, a move does not change what a drawn block reads that is joined with
no other. -/
theorem Moves.contentOf?_eq_of_lone (hm : Moves backend pending b pending' b')
    (framed : Framed s force b) (places : Places (.ofStore s.store) pending b)
    (ordered : Ordered (.ofStore s.store) b)
    (isolated : ∀ x ∈ pending, (Graph.ofStore s.store).isIsolated x = true) {a x : BlockId}
    (lone : ∀ y, (Graph.ofStore s.store).Joined x y → y = x) (hx : x ∈ accounted [] b')
    (hf : (Graph.ofStore s.store).Feeds a x) :
    b'.session.store.contentOf? a = b.session.store.contentOf? a := by
  rcases hm.compute_cases framed places with same | ⟨id, hand, b₁, rfl, -, places, same, back⟩
  · exact same a
  · refine same a fun e => ?_
    subst e
    -- `x` was drawn before `a` is computed, so it reaches `a` in turn
    have drawn := (places.mem_handled x).mpr
      ⟨hf.not_isIsolated.2, mem_accounted_of_compute hand hx⟩
    have reaches : (Graph.ofStore s.store).Reaches a x := .of_link (Graph.hasLink_iff.mp hf.1)
    have e : a = x := lone a ⟨back ordered isolated x drawn reaches, reaches⟩
    rw [e] at hf
    exact hf.2 hf.1

/-! ## Freshness -/

/-- Settled blocks are current, and so are the open requests.  Of the blocks that were skipped this
holds as far as they are of a kind that is computed. -/
structure Fresh (b : Batch) : Prop where
  computed : ∀ x ∈ b.report.computed, ∃ c, b.session.store.get? x = some c ∧
    c.kind.recomputes = true ∧ c.IsCurrent b.session.store
  skipped : ∀ x ∈ b.report.skipped, ∀ c, b.session.store.get? x = some c →
    c.kind.recomputes = true → c.IsCurrent b.session.store
  calls : ∀ r ∈ b.calls, r.IsCurrent b.session.store

/-- The same for the blocks that satisfy `p`. -/
structure FreshOn (p : BlockId → Prop) (b : Batch) : Prop where
  computed : ∀ x ∈ b.report.computed, p x → ∃ c, b.session.store.get? x = some c ∧
    c.kind.recomputes = true ∧ c.IsCurrent b.session.store
  skipped : ∀ x ∈ b.report.skipped, p x → ∀ c, b.session.store.get? x = some c →
    c.kind.recomputes = true → c.IsCurrent b.session.store
  calls : ∀ r ∈ b.calls, p r.id → r.IsCurrent b.session.store

theorem FreshOn.fresh (h : FreshOn (fun _ => True) b) : Fresh b :=
  ⟨fun x hx => h.computed x hx trivial, fun x hx => h.skipped x hx trivial,
    fun r hr => h.calls r hr trivial⟩

theorem Fresh.on (h : Fresh b) (p : BlockId → Prop) : FreshOn p b :=
  ⟨fun x hx _ => h.computed x hx, fun x hx _ => h.skipped x hx, fun r hr _ => h.calls r hr⟩

/-- A settled block of a kind that is computed is current, unless it is reported as failed. -/
theorem FreshOn.current_or_failed {p : BlockId → Prop} (h : FreshOn p b) {x : BlockId} (hp : p x)
    (hx : x ∈ b.report.settled) {c : Block} (hc : b.session.store.get? x = some c)
    (hk : c.kind.recomputes = true) :
    c.IsCurrent b.session.store ∨ x ∈ b.report.failed.map (·.1) := by
  rcases Report.mem_settled.mp hx with hx | hx | hx
  · obtain ⟨d, hd, -, current⟩ := h.computed x hx hp
    have e : d = c := Option.some.inj (hd.symm.trans hc)
    exact .inl (e ▸ current)
  · exact .inl (h.skipped x hx hp c hc hk)
  · exact .inr hx

theorem FreshOn.opening (p : BlockId → Prop) (s : Session) (seeds : List BlockId) (force : Bool) :
    FreshOn p (opening s seeds force) := by
  rw [opening_frame]
  exact ⟨fun x hx => absurd hx List.not_mem_nil, fun x hx => absurd hx List.not_mem_nil,
    fun r hr => absurd hr List.not_mem_nil⟩

theorem isCurrent_skipped {t session : Session} (h : t.Taken force id .skipped session) {c : Block}
    (hc : session.store.get? id = some c) (hk : c.kind.recomputes = true) :
    c.IsCurrent session.store := by
  cases h with
  | inert hi =>
    rw [hi c hc] at hk
    cases hk
  | current b hb _ hcur =>
    have e : b = c := Option.some.inj (hb.symm.trans hc)
    subst e
    exact hcur

theorem isCurrent_applied {t session : Session} (ht : t.store.Sound)
    (h : t.Taken force id .applied session) : ∃ c, session.store.get? id = some c ∧
      c.kind.recomputes = true ∧ c.IsCurrent session.store := by
  cases h with
  | applied b hb hk =>
    have ha : (none : Option String).getD "" = b.effectiveTransform.getD "" := by
      rw [Block.effectiveTransform, hk]
      rfl
    obtain ⟨c, hc, e, hcur⟩ := Store.isCurrent_filled ht hb (.text (t.store.resolvedText b)) ha
    refine ⟨c, hc, ?_, hcur⟩
    rw [e, hk]
    rfl

theorem isCurrent_asked {t session : Session} {r : Request}
    (h : t.Taken force id (.asked r) session) : r.IsCurrent t.store := by
  cases h with
  | asked b hb hk => exact Store.requestFor_isCurrent hb hk

section
variable (hm : Moves backend pending b pending' b') (hs : s.store.Sound) (framed : Framed s force b)

include hm hs framed

/-- A settled block stays current in a move that does not change what it reads. -/
theorem Moves.isCurrent_settled (places : Places (.ofStore s.store) pending b) {x : BlockId}
    (hx : x ∈ b.report.settled) (kept : ∀ a, (Graph.ofStore s.store).Feeds a x →
      b'.session.store.contentOf? a = b.session.store.contentOf? a) {c : Block}
    (hc : b.session.store.get? x = some c) (hcur : c.IsCurrent b.session.store) :
    b'.session.store.get? x = some c ∧ c.IsCurrent b'.session.store := by
  have found := (hm.spares places hx).get?_eq.trans hc
  have alike := (hm.framed framed).alike.trans framed.alike.symm
  obtain ⟨-, rfl⟩ := Store.mem_of_get? hc
  refine ⟨found, hcur.of_alike (framed.alike.sound hs) alike hc fun a hl hl' => ?_⟩
  rw [framed.alike.ofStore] at hl hl'
  exact kept a ⟨hl, Bool.not_eq_true _ ▸ hl'⟩

/-- A request stays current in a move that does not change what its block reads. -/
theorem Moves.isCurrent_request {r : Request} (kept : ∀ a, (Graph.ofStore s.store).Feeds a r.id →
      b'.session.store.contentOf? a = b.session.store.contentOf? a)
    (hcur : r.IsCurrent b.session.store) : r.IsCurrent b'.session.store := by
  have alike := (hm.framed framed).alike.trans framed.alike.symm
  apply hcur.of_alike (framed.alike.sound hs) alike
  intro a hf
  rw [framed.alike.ofStore] at hf
  exact kept a hf

theorem Moves.freshOn {p : BlockId → Prop} (places : Places (.ofStore s.store) pending b)
    (kept : ∀ a x, p x → x ∈ accounted [] b' → (Graph.ofStore s.store).Feeds a x →
      b'.session.store.contentOf? a = b.session.store.contentOf? a) (h : FreshOn p b) :
    FreshOn p b' where
  computed := by
    have sound := framed.alike.sound hs
    intro x hx hp
    rcases hm.computed_cases hx with hx | ⟨session, ht, e⟩ | ⟨r, hr, rfl, content, -, e⟩
    · obtain ⟨c, hc, hk, hcur⟩ := h.computed x hx hp
      have settled := Report.mem_settled.mpr (.inl hx)
      have drawn := hm.accounted_subset (mem_accounted_nil.mpr (.inl settled))
      have current := hm.isCurrent_settled hs framed places settled
        (fun a => kept a x hp drawn) hc hcur
      exact ⟨c, current.1, hk, current.2⟩
    · rw [e]
      exact isCurrent_applied sound ht
    · rw [e]
      exact (h.calls r hr hp).fill sound content
  skipped := by
    intro x hx hp c hc hk
    rcases hm.skipped_cases hx with hx | ⟨session, ht, e, -⟩
    · have settled : x ∈ b.report.settled := Report.mem_settled.mpr (.inr (.inl hx))
      have drawn := hm.accounted_subset (mem_accounted_nil.mpr (.inl settled))
      have before := (hm.spares places settled).get?_eq.symm.trans hc
      have hcur := h.skipped x hx hp c before hk
      exact (hm.isCurrent_settled hs framed places settled (fun a => kept a x hp drawn) before
        hcur).2
    · rw [e] at hc ⊢
      exact isCurrent_skipped ht hc hk
  calls := by
    intro r hr hp
    have drawn : r.id ∈ accounted [] b' := mem_accounted_nil.mpr (.inr (List.mem_map_of_mem hr))
    have kept := fun a => kept a r.id hp drawn
    rcases hm.calls_cases hr with hr | ⟨session, ht, -⟩
    · exact hm.isCurrent_request hs framed kept (h.calls r hr hp)
    · exact hm.isCurrent_request hs framed kept (isCurrent_asked ht)

end

theorem Stage.fresh (hs : s.store.Sound) (h : Stage backend s seeds force pending b)
    (hn : b.report.cycle = none) : Fresh b := by
  refine FreshOn.fresh ?_
  induction h with
  | opening => exact .opening _ s seeds force
  | move h hm ih =>
    refine hm.freshOn hs h.framed (h.places hs) (fun a x _ hx hf => ?_) (ih (hm.cycle_eq_none hn))
    exact hm.contentOf?_eq hs h.framed (h.places hs) hn hx hf

/-- Blocks that are joined with no other are fresh whatever cycles are reported. -/
theorem Stage.fresh_of_lone (hs : s.store.Sound) (h : Stage backend s seeds force pending b) :
    FreshOn (fun x => ∀ y, (Graph.ofStore s.store).Joined x y → y = x) b := by
  induction h with
  | opening => exact .opening _ s seeds force
  | move h hm ih =>
    have isolated := fun x hx => (mem_isolatedSeeds.mp (h.pending_subset x hx)).2
    refine hm.freshOn hs h.framed (h.places hs) (fun a x lone hx hf => ?_) ih
    exact hm.contentOf?_eq_of_lone h.framed (h.places hs) (h.ordered hs) isolated lone hx hf

/-! ## At the end of a batch -/

theorem store_propagate (backend : Backend) (s : Session) (seeds : List BlockId) (force : Bool) :
    (s.propagate backend seeds force).2.store =
      ((start s seeds force).run backend).session.store := by
  rcases s.propagate_cases backend seeds force with e | e
  · rw [e]
  · rw [e, Session.store_save]

/-- A block that is computed in the end is computed as soon as it is settled. -/
theorem mem_computed_of_settled (hs : s.store.Sound) {x : BlockId} {n : Nat}
    (hx : x ∈ (s.propagate backend seeds force).1.computed)
    (settled : x ∈ (steps backend n (start s seeds force)).report.settled) :
    x ∈ (steps backend n (start s seeds force)).report.computed := by
  have nodup := nodup_settled hs backend seeds force
  have added := report_extends_steps hs (stage_steps hs backend seeds force n)
    (start s seeds force).bound
  rw [steps_bound hs] at added
  rw [Report.settled, List.append_assoc] at nodup
  have apart := (List.nodup_append.mp nodup).2.2 x hx
  rcases Report.mem_settled.mp settled with h | h | h
  · exact h
  · exact absurd rfl (apart x (List.mem_append_left _ (added.skipped.subset h)))
  · exact absurd rfl (apart x (List.mem_append_right _ ((added.failed.map _).subset h)))

/-- If a batch reports no cycle, what it computed is current at its end, and so is what it skipped
as far as it is computed at all.  Each block that mentions a computed one, and is not mentioned by
it, is in the report too, and had its turn when the new content of that one had been stored. -/
theorem propagate_leaves_nothing_stale (h : s.Reachable) (backend : Backend)
    (seeds : List BlockId) (force : Bool)
    (hn : (s.propagate backend seeds force).1.cycle = none) :
    (∀ x ∈ (s.propagate backend seeds force).1.computed,
      ∃ c, (s.propagate backend seeds force).2.store.get? x = some c ∧
        c.kind.recomputes = true ∧ c.IsCurrent (s.propagate backend seeds force).2.store) ∧
    (∀ x ∈ (s.propagate backend seeds force).1.skipped,
      ∀ c, (s.propagate backend seeds force).2.store.get? x = some c →
        c.kind.recomputes = true → c.IsCurrent (s.propagate backend seeds force).2.store) ∧
    ∀ a ∈ (s.propagate backend seeds force).1.computed,
      ∀ x, (Graph.ofStore s.store).hasLink a x = true →
        ¬ (Graph.ofStore s.store).hasLink x a = true →
        x ∈ (s.propagate backend seeds force).1.settled ∧
        (∃ n, (steps backend n (start s seeds force)).Takes x) ∧
        ∀ n, (steps backend n (start s seeds force)).Takes x →
          (steps backend n (start s seeds force)).session.Spares x s ∧
          a ∈ (steps backend n (start s seeds force)).report.computed ∧
          (s.propagate backend seeds force).2.Spares a
            (steps backend n (start s seeds force)).session := by
  have hs := h.sound
  have stage := stage_run hs backend seeds force
  have fresh := stage.fresh hs hn
  have fed := stage.fed hs hn
  have places := stage.places hs
  rw [store_propagate]
  refine ⟨fresh.computed, fresh.skipped, fun a ha x hax hxa => ?_⟩
  have feeds : (Graph.ofStore s.store).Feeds a x := ⟨hax, hxa⟩
  have taken : x ∈ ((start s seeds force).run backend).handled := by
    rcases fed.waits a ha x feeds with hx | hx
    · rw [queue_run hs] at hx
      exact absurd hx List.not_mem_nil
    · exact hx
  refine ⟨?_, exists_takes_of_mem_run taken, fun n takes => ?_⟩
  · have drawn := ((places.mem_handled x).mp taken).2
    exact (mem_accounted_run hs).mp drawn
  · have before := stage_steps hs backend seeds force n
    have ended : a ∈ ((start s seeds force).run backend).handled :=
      (places.mem_handled a).mpr
        ⟨feeds.not_isIsolated.1, (mem_accounted_run hs).mpr (Report.mem_settled.mpr (.inl ha))⟩
    have hne : a ≠ x := by
      intro e
      subst e
      exact hxa hax
    have handled : a ∈ (steps backend n (start s seeds force)).handled := by
      have pairwise := fed.handled
      rw [← steps_bound hs backend seeds force n] at ended pairwise
      apply mem_handled_of_takes takes ended pairwise hne
      intro unfed
      rw [steps_bound hs] at unfed
      exact unfed ha feeds
    obtain ⟨settled, -⟩ := (before.places hs).mem_settled_of_takes takes handled
    exact ⟨before.spares hs ((before.places hs).not_accounted_of_takes takes),
      mem_computed_of_settled hs ha settled, spares_propagate hs backend seeds force n settled⟩

set_option maxRecDepth 10000 in
/-- The first block of the line gets content, and the blocks after it change with it. -/
theorem nothing_stale_along_line :
    let backend : Backend := { answer := fun r => .ok (.text (r.input ++ "!")) }
    let seeds : List BlockId := [⟨"9e3779b9"⟩]
    let report := (Session.line.propagate backend seeds false).1
    let ended := (Session.line.propagate backend seeds false).2
    Session.line.Reachable ∧ report.cycle = none ∧
      report.computed = [⟨"9e3779b9"⟩, ⟨"1715609d"⟩, ⟨"8ff34781"⟩] ∧
      (∀ x ∈ report.computed, ∃ c, ended.store.get? x = some c ∧ c.kind.recomputes = true ∧
        c.IsCurrent ended.store) ∧
      (Graph.ofStore Session.line.store).hasLink ⟨"9e3779b9"⟩ ⟨"1715609d"⟩ = true ∧
      ¬ (Graph.ofStore Session.line.store).hasLink ⟨"1715609d"⟩ ⟨"9e3779b9"⟩ = true ∧
      ⟨"1715609d"⟩ ∈ report.settled ∧
      (steps backend 2 (start Session.line seeds false)).Takes ⟨"1715609d"⟩ ∧
      ⟨"9e3779b9"⟩ ∈ (steps backend 2 (start Session.line seeds false)).report.computed ∧
      ended.Spares ⟨"9e3779b9"⟩ (steps backend 2 (start Session.line seeds false)).session := by
  intro backend seeds report ended
  have outcome : report.cycle = none ∧
      report.computed = [⟨"9e3779b9"⟩, ⟨"1715609d"⟩, ⟨"8ff34781"⟩] := by decide +kernel
  have links : (Graph.ofStore Session.line.store).hasLink ⟨"9e3779b9"⟩ ⟨"1715609d"⟩ = true ∧
      ¬ (Graph.ofStore Session.line.store).hasLink ⟨"1715609d"⟩ ⟨"9e3779b9"⟩ = true := by
    decide +kernel
  have takes : (steps backend 2 (start Session.line seeds false)).Takes ⟨"1715609d"⟩ := by
    decide +kernel
  have fresh := propagate_leaves_nothing_stale Session.reachable_line backend seeds false outcome.1
  have first : (⟨"9e3779b9"⟩ : BlockId) ∈ report.computed := by
    rw [outcome.2]
    exact List.mem_cons_self ..
  obtain ⟨settled, -, turn⟩ := fresh.2.2 _ first _ links.1 links.2
  obtain ⟨-, computed, rest⟩ := turn 2 takes
  exact ⟨Session.reachable_line, outcome.1, outcome.2, fresh.1, links.1, links.2, settled, takes,
    computed, rest⟩

end Batch
end Workbook
