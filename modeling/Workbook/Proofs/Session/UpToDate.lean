import Workbook.Proofs.Batch.Lone
import Workbook.Proofs.Resolution.Offers
import Workbook.Proofs.Session.Parking

/-!
Blocks stay up to date.

A block that was computed once is current, or a request for it is parked, or it says that it has
failed (`Store.Keeps`), and a static one shows what it was computed from.  An edit leaves this so
for all but the blocks that the change concerns (`UpToDateBut.of_edit`).  These are the seeds of the
batch that follows, which makes up for them (`UpToDateBut.propagate`), or their request is parked.
-/

namespace Workbook

/-- If the block was ever computed, it is current, or waits to be computed, or has failed. -/
def Store.Keeps (s : Store) (parked : List BlockId) (b : Block) : Prop :=
  b.kind.recomputes = true → b.input ≠ none →
    b.IsCurrent s ∨ b.id ∈ parked ∨ ∃ message, b.status = .failed message

theorem Store.Keeps.of_parked {s : Store} {parked parked' : List BlockId} {b : Block}
    (h : s.Keeps parked b) (hp : b.id ∈ parked → b.id ∈ parked') : s.Keeps parked' b :=
  fun hk hi => (h hk hi).imp_right (.imp_left hp)

/-- If the block is static and was ever computed, it shows what it was computed from. -/
def Block.ShowsIfStatic (b : Block) : Prop := b.kind = .static → b.input ≠ none → b.ShowsInput

/-- What was computed for block `b` is what was computed for `c`. -/
structure Block.Follows (c b : Block) : Prop where
  id : c.id = b.id
  kind : c.kind = b.kind
  content : c.content = b.content
  input : c.input = b.input
  applied : c.applied = b.applied
  status : c.status = b.status

theorem Block.Follows.refl (b : Block) : b.Follows b := ⟨rfl, rfl, rfl, rfl, rfl, rfl⟩

namespace Session

/-- All blocks are up to date, but maybe the given ones. -/
structure UpToDateBut (s : Session) (ids : List BlockId) : Prop where
  keeps : ∀ b ∈ s.store.blocks, b.id ∉ ids → s.store.Keeps s.parking.ids b
  shows : ∀ b ∈ s.store.blocks, b.ShowsIfStatic

variable {s t : Session} {seeds : List BlockId} {force : Bool}

/-! ## Batches -/

theorem contentOf?_of_atRest {u v : Store} {x : BlockId}
    (h : (u.get? x).map Block.atRest = (v.get? x).map Block.atRest) :
    u.contentOf? x = v.contentOf? x := by
  have e : ∀ w : Store, w.contentOf? x = ((w.get? x).map Block.atRest).bind (·.content) := by
    intro w
    rw [Store.contentOf?]
    cases w.get? x <;> rfl
  rw [e u, e v, h]

/-- A batch that reports neither a cycle nor a failure leaves the blocks that it settles current. -/
theorem isCurrent_of_settled (hs : s.store.Sound) {backend : Backend}
    (quiet : (s.propagate backend seeds force).1.cycle = none)
    (unfailed : (s.propagate backend seeds force).1.failed = []) {c : Block}
    (hc : c ∈ (s.propagate backend seeds force).2.store.blocks) (hk : c.kind.recomputes = true)
    (settled : c.id ∈ (s.propagate backend seeds force).1.settled) :
    c.IsCurrent (s.propagate backend seeds force).2.store := by
  have fresh := ((Batch.stage_run hs backend seeds force).fresh hs quiet).on fun _ => True
  have found := (sound_propagate hs backend seeds force).get? hc
  rw [Batch.store_propagate] at found ⊢
  refine (fresh.current_or_failed trivial settled found hk).resolve_right fun failed => ?_
  obtain ⟨e, he, -⟩ := List.mem_map.mp failed
  exact absurd he (List.eq_nil_iff_forall_not_mem.mp unfailed e)

/-- A batch that reports no cycle settles its seeds, and a block that it does not settle stays
current. -/
theorem isCurrent_of_unsettled (hs : s.store.Sound) {backend : Backend}
    (quiet : (s.propagate backend seeds force).1.cycle = none) {c : Block}
    (hc : c ∈ (s.propagate backend seeds force).2.store.blocks)
    (unsettled : c.id ∉ (s.propagate backend seeds force).1.settled) :
    c.id ∉ seeds ∧ s.store.get? c.id = some c ∧
      (c.IsCurrent s.store → c.IsCurrent (s.propagate backend seeds force).2.store) := by
  have stage := Batch.stage_run hs backend seeds force
  have fed := stage.fed hs quiet
  have alike := stage.framed.alike
  rw [Batch.store_propagate] at hc ⊢
  have before : s.store.get? c.id = some c := by
    rw [← (stage.spares hs (mt (Batch.mem_accounted_run hs).mp unsettled)).get?_eq]
    exact (alike.sound hs).get? hc
  have known : c.id ∈ s.store.ids := Store.mem_ids.mpr ⟨c, Store.mem_of_get? before⟩
  refine ⟨fun hseed => unsettled (Batch.mem_settled_of_mem_seeds hs quiet hseed known), before,
    fun hcur => hcur.of_alike hs alike before fun a hl hl' => ?_⟩
  -- were `a` computed, `c` would have been taken after it
  have uncomputed : a ∉ ((Batch.start s seeds force).run backend).report.computed := by
    intro hcomputed
    apply unsettled
    rcases fed.waits a hcomputed c.id ⟨hl, Bool.not_eq_true _ ▸ hl'⟩ with hq | hh
    · rw [Batch.queue_run hs] at hq
      exact absurd hq List.not_mem_nil
    · exact (Batch.mem_accounted_run hs).mp (((stage.places hs).mem_handled c.id).mp hh).2
  exact contentOf?_of_atRest (stage.atRest_eq uncomputed)

theorem keeps_propagate (hs : s.store.Sound) (ha : (Graph.ofStore s.store).Acyclic)
    (backend : Backend) (force : Bool)
    (h : ∀ b ∈ s.store.blocks, b.id ∉ seeds → s.store.Keeps s.parking.ids b) :
    ∀ c ∈ (s.propagate backend seeds force).2.store.blocks,
      (s.propagate backend seeds force).2.store.Keeps
        (s.propagate backend seeds force).2.parking.ids c := by
  have stage := Batch.stage_run hs backend seeds force
  have quiet := Batch.cycle_run hs ha backend seeds force
  rw [parking_propagate hs]
  intro c hc hk hi
  by_cases hx : c.id ∈ (s.propagate backend seeds force).1.settled
  · rw [Batch.store_propagate] at hc ⊢
    have found := (stage.framed.alike.sound hs).get? hc
    exact (stage.failed_or_current hs ((stage.fresh hs quiet).on fun _ => True) trivial hx found
      hk).elim (fun failed => .inr (.inr failed)) .inl
  · obtain ⟨unseeded, before, stays⟩ := isCurrent_of_unsettled hs quiet hc hx
    exact (h c (Store.mem_of_get? before).1 unseeded hk hi).imp_left stays

theorem shows_propagate (hs : s.store.Sound) (ha : (Graph.ofStore s.store).Acyclic)
    (backend : Backend)
    (h : ∀ b ∈ s.store.blocks, (b.id ∈ seeds ∧ force = true) ∨ b.ShowsIfStatic) :
    ∀ c ∈ (s.propagate backend seeds force).2.store.blocks, c.ShowsIfStatic := by
  have stage := Batch.stage_run hs backend seeds force
  have quiet := Batch.cycle_run hs ha backend seeds force
  have sound := stage.framed.alike.sound hs
  rw [Batch.store_propagate]
  intro c hc hk hi
  have found := sound.get? hc
  by_cases hx : c.id ∈ ((Batch.start s seeds force).run backend).report.computed
  · exact stage.static_computed hs c.id hx c found hk
  · have e := stage.atRest_eq hx
    rw [found] at e
    obtain ⟨b, hb, e⟩ := Option.map_eq_some_iff.mp e.symm
    obtain ⟨mem, hid⟩ := Store.mem_of_get? hb
    have hkind : b.kind = c.kind := by
      show b.atRest.kind = c.atRest.kind
      rw [e]
    have hinput : b.input = c.input := by
      show b.atRest.input = c.atRest.input
      rw [e]
    have hcontent : b.content = c.content := by
      show b.atRest.content = c.atRest.content
      rw [e]
    rcases h b mem with ⟨hseed, hforce⟩ | shows
    · subst hforce
      rw [hid] at hseed
      have known : c.id ∈ s.store.ids := Store.mem_ids.mpr ⟨b, mem, hid⟩
      rcases Report.mem_settled.mp (Batch.mem_settled_of_mem_seeds hs quiet hseed known) with
        hx' | hx' | hx'
      · exact absurd hx' hx
      · have := stage.skipped_forced hs c.id hx' c found
        rw [hk] at this
        cases this
      · have generates := stage.generates_of_failed hs hx'
        rw [Store.generates, hb] at generates
        have generates : b.kind.isGenerative = true := generates
        rw [hkind, hk] at generates
        cases generates
    · obtain ⟨text, hin, hcon⟩ := shows (hkind.trans hk) (hinput ▸ hi)
      exact ⟨text, hinput ▸ hin, hcontent ▸ hcon⟩

namespace UpToDateBut

/-- A batch makes up for its seeds. -/
theorem propagate (h : s.UpToDateBut seeds) (hs : s.store.Sound)
    (ha : (Graph.ofStore s.store).Acyclic) (backend : Backend) (force : Bool) :
    (s.propagate backend seeds force).2.UpToDateBut [] where
  keeps c hc _ := keeps_propagate hs ha backend force h.keeps c hc
  shows := shows_propagate hs ha backend fun b hb => .inr (h.shows b hb)

/-! ## Edits -/

theorem congr {ids : List BlockId} (h : s.UpToDateBut ids) (hs : t.store = s.store)
    (hp : t.parking = s.parking) : t.UpToDateBut ids where
  keeps := by
    rw [hs, hp]
    exact h.keeps
  shows := by
    rw [hs]
    exact h.shows

/-- An edit leaves a block up to date if it neither changes the text and the transform of the block
nor what the block reads. -/
theorem of_edit {ids : List BlockId} (h : s.UpToDateBut []) (hs : s.store.Sound)
    (ht : t.store.Sound) (has : (Graph.ofStore s.store).Acyclic)
    (hat : (Graph.ofStore t.store).Acyclic)
    (parked : ∀ x ∈ s.parking.ids, x ∈ t.store.ids → x ∈ t.parking.ids)
    (follows : ∀ c ∈ t.store.blocks, c.kind.recomputes = true → c.input ≠ none →
      ∃ b ∈ s.store.blocks, c.Follows b ∧ (c.id ∉ ids → c.data = b.data ∧
        c.transform = b.transform ∧ ∀ name ∈ referencedNames b.data, ∀ content,
          t.store.Offers c.id name content ↔ s.store.Offers b.id name content)) :
    t.UpToDateBut ids where
  keeps c hc hids hk hi := by
    obtain ⟨b, hb, hf, text⟩ := follows c hc hk hi
    obtain ⟨hd, htr, offers⟩ := text hids
    have hk := hf.kind ▸ hk
    have hi := hf.input ▸ hi
    rcases h.keeps b hb List.not_mem_nil hk hi with hcur | hparked | ⟨message, failed⟩
    · left
      have e : t.store.resolvedText c = s.store.resolvedText b :=
        Store.resolvedText_eq_of_offers hs ht has hat hb hc hd offers
      have transform : c.effectiveTransform = b.effectiveTransform := by
        rw [Block.effectiveTransform, hf.kind, htr, Block.effectiveTransform]
      rw [Block.IsCurrent, e, hf.input, hf.applied, transform]
      exact hcur
    · exact .inr (.inl (parked c.id (hf.id ▸ hparked) (Store.mem_ids.mpr ⟨c, hc, rfl⟩)))
    · exact .inr (.inr ⟨message, hf.status.trans failed⟩)
  shows c hc hk hi := by
    obtain ⟨b, hb, hf, -⟩ := follows c hc (hk ▸ rfl) hi
    obtain ⟨text, hin, hcon⟩ := h.shows b hb (hf.kind ▸ hk) (hf.input ▸ hi)
    exact ⟨text, hf.input.trans hin, hf.content.trans hcon⟩

/-- An edit of a single block. -/
theorem of_modify {ids : List BlockId} {id : BlockId} {f : Block → Block} (h : s.UpToDateBut [])
    (hs : s.store.Sound) (ht : t.store.Sound) (has : (Graph.ofStore s.store).Acyclic)
    (hat : (Graph.ofStore t.store).Acyclic) (parking : t.parking = s.parking)
    (store : t.store = s.store.modify id f)
    (follows : ∀ b ∈ s.store.blocks, b.id = id → b.kind.recomputes = true → (f b).Follows b)
    (kind : ∀ b, (f b).kind = b.kind)
    (text : id ∈ ids ∨ ∀ b, (f b).data = b.data ∧ (f b).transform = b.transform)
    (offers : ∀ b ∈ s.store.blocks, b.id ∉ ids → ∀ name ∈ referencedNames b.data, ∀ content,
      (s.store.modify id f).Offers b.id name content ↔ s.store.Offers b.id name content) :
    t.UpToDateBut ids := by
  apply h.of_edit hs ht has hat (fun x hx _ => parking ▸ hx)
  intro c hc hk hi
  rw [store] at hc ⊢
  obtain ⟨b, hb, rfl⟩ := Store.mem_modify.mp hc
  by_cases e : b.id = id
  · rw [if_pos e] at hk hi ⊢
    have hf := follows b hb e (kind b ▸ hk)
    refine ⟨b, hb, hf, fun hids => ?_⟩
    rw [hf.id] at hids ⊢
    rcases text with hid | text
    · exact absurd (e ▸ hid) hids
    · exact ⟨(text b).1, (text b).2, offers b hb hids⟩
  · rw [if_neg e]
    exact ⟨b, hb, .refl b, fun hids => ⟨rfl, rfl, offers b hb hids⟩⟩

/-- An edit that leaves all blocks as they are, but for one that was never computed. -/
theorem of_blocks {ids : List BlockId} (h : s.UpToDateBut []) (hs : s.store.Sound)
    (ht : t.store.Sound) (has : (Graph.ofStore s.store).Acyclic)
    (hat : (Graph.ofStore t.store).Acyclic)
    (parked : ∀ x ∈ s.parking.ids, x ∈ t.store.ids → x ∈ t.parking.ids)
    (old : ∀ c ∈ t.store.blocks, c.input ≠ none → c ∈ s.store.blocks)
    (offers : ∀ c ∈ t.store.blocks, c.input ≠ none → c.id ∉ ids → ∀ name ∈ referencedNames c.data,
      ∀ content, t.store.Offers c.id name content ↔ s.store.Offers c.id name content) :
    t.UpToDateBut ids :=
  h.of_edit hs ht has hat parked fun c hc _ hi =>
    ⟨c, old c hc hi, .refl c, fun hids => ⟨rfl, rfl, offers c hc hi hids⟩⟩

end UpToDateBut

end Session
end Workbook
