import Workbook.Proofs.Batch.Refusal
import Workbook.Proofs.Session.Parking

/-!
What becomes of parked requests.

Requests are parked for blocks that are there, and go with them (`Reachable.parksKnown`).  When
parked requests are run, they are seeds of one batch, and what has become of a block afterwards
depends on the others: one that is joined with no other block is settled, unless it has dependencies
and two others of the seeds are joined (`runParked_settles_iff`).  Then its request is gone and
nothing was done about it.
-/

namespace Workbook
namespace Session

/-- Requests are parked for blocks that are there. -/
def ParksKnown (s : Session) : Prop := ∀ x ∈ s.parking.ids, x ∈ s.store.ids

variable {backend : Backend} {s t : Session} {id : BlockId}

/-! ## Parked requests are for blocks that are there -/

namespace ParksKnown

theorem of_subset (h : s.ParksKnown) (hp : ∀ x ∈ t.parking.ids, x ∈ s.parking.ids)
    (hs : ∀ x ∈ s.store.ids, x ∈ t.store.ids) : t.ParksKnown :=
  fun x hx => hs x (h x (hp x hx))

theorem of_eq (h : s.ParksKnown) (hp : t.parking = s.parking)
    (hs : ∀ x ∈ s.store.ids, x ∈ t.store.ids) : t.ParksKnown :=
  h.of_subset (fun x hx => by rwa [hp] at hx) hs

theorem propagate (h : s.ParksKnown) (hs : s.store.Sound) (seeds : List BlockId)
    (force : Bool) : (s.propagate backend seeds force).2.ParksKnown :=
  h.of_eq (parking_propagate hs ..) fun _ hx => (alike_propagate hs ..).ids ▸ hx

theorem propagateSome (h : s.ParksKnown) (hs : s.store.Sound) (ids : List BlockId) :
    (s.propagateSome backend ids).ParksKnown := by
  unfold Session.propagateSome
  split
  · exact h
  · exact h.propagate hs _ false

theorem save (h : s.ParksKnown) : s.save.ParksKnown :=
  h.of_eq (parking_save s) fun _ hx => (store_save s).symm ▸ hx

theorem of_perm (h : s.ParksKnown) {b : Block} (perm : t.store.blocks.Perm (b :: s.store.blocks))
    (hp : t.parking = s.parking) : t.ParksKnown :=
  h.of_eq hp fun _ hx => (perm.map (·.id)).mem_iff.mpr (List.mem_cons_of_mem _ hx)

theorem modify (h : s.ParksKnown) {f : Block → Block} (hs : t.store = s.store.modify id f)
    (hp : t.parking = s.parking) (hf : ∀ b, (f b).id = b.id) : t.ParksKnown := by
  refine h.of_eq hp fun x hx => ?_
  rw [hs, Store.ids_modify hf]
  exact hx

theorem graphChanged_save (h : s.ParksKnown) : s.graphChanged.save.ParksKnown :=
  h.of_eq (parking_graphChanged_save s) fun _ hx => (store_graphChanged_save s).symm ▸ hx

theorem adopt (h : s.ParksKnown) (hs : s.store.Sound) (first : List BlockId) :
    (s.adopt backend id first).ParksKnown := by
  exact h.graphChanged_save.propagateSome (sound_graphChanged_save hs) _

theorem erase (h : s.ParksKnown) (ids : List BlockId) :
    ({ s with parking := ids.foldl Parking.erase s.parking } : Session).ParksKnown :=
  h.of_subset (fun _ hx => (Parking.mem_ids_foldl_erase.mp hx).1) fun _ hx => hx

theorem requested {immediate : Bool} (h : s.ParksKnown) (hs : s.store.Sound)
    (hr : s.Requested backend id immediate t) : t.ParksKnown := by
  cases hr with
  | parked b due hb =>
    intro x hx
    rcases Parking.mem_ids_insert.mp hx with rfl | hx
    · obtain ⟨hmem, hid⟩ := Store.mem_of_get? hb
      exact Store.mem_ids.mpr ⟨b, hmem, hid⟩
    · exact h x hx
  | computed => exact (h.erase [id]).propagate hs _ false

theorem recheck (h : s.ParksKnown) (id : BlockId) : (s.recheck id).ParksKnown := by
  refine h.of_eq ?_ fun x hx => (alike_recheck s id).ids ▸ hx
  rcases s.recheck_cases id with e | e | ⟨message, e⟩ <;> rw [e] <;> rfl

theorem revalidate (h : s.ParksKnown) (ids : List BlockId) : (s.revalidate ids).2.ParksKnown := by
  rw [revalidate_eq]
  induction ids generalizing s with
  | nil => exact h
  | cons id ids ih => exact ih (h.recheck id)

end ParksKnown

theorem Performed.parksKnown {o : Operation} (hp : s.Performed backend o t) (hs : s.store.Sound)
    (h : s.ParksKnown) : t.ParksKnown := by
  cases hp with
  | unchanged => exact h.of_eq rfl fun _ hx => hx
  | @load store hl =>
    have loaded : ({ s with store, parking := {} } : Session).graphChanged.ParksKnown := by
      intro x hx
      rw [parking_graphChanged] at hx
      exact absurd hx List.not_mem_nil
    exact loaded.propagate (sound_loaded hl) _ _
  | @create kind name data transform id store source hc =>
    have hi := congrArg Prod.fst hc
    have created : ({ s with store, source } : Session).ParksKnown :=
      h.of_perm (Store.perm_insertAt hi) rfl
    exact created.adopt (Store.Sound.insertAt hs hi) _
  | @importImage name mime bytes id store source hc =>
    have hi := congrArg Prod.fst hc
    have created : ({ s with store, source } : Session).ParksKnown :=
      h.of_perm (Store.perm_insertAt hi) rfl
    let imported : Session :=
      { s with
        store := store.modify id fun b => { b with content := some (.binary mime bytes) }
        source }
    have imported : imported.ParksKnown := created.modify rfl rfl fun _ => rfl
    refine imported.adopt ?_ _
    exact (Store.Sound.insertAt hs hi).modify (fun _ => rfl) fun _ => rfl
  | @editData id data store _ hc ht =>
    obtain ⟨-, e⟩ := Store.setData_eq_ok hc
    have edited : ({ s with store } : Session).ParksKnown := h.modify e rfl fun _ => rfl
    exact edited.graphChanged_save.requested (sound_graphChanged_save (hs.setData hc)) ht
  | @editTransform id transform store _ hc ht =>
    obtain ⟨-, e⟩ := Store.setTransform_eq_ok hc
    have edited : ({ s with store } : Session).ParksKnown := h.modify e rfl fun _ => rfl
    exact edited.save.requested (sound_save (hs.setTransform hc)) ht
  | @rename id name applied store hr =>
    obtain ⟨-, -, e⟩ := Store.rename_eq_ok hr
    have renamed : ({ s.regraph with store } : Session).ParksKnown := h.modify e rfl fun _ => rfl
    exact renamed.graphChanged_save.propagateSome (sound_graphChanged_save (hs.rename hr)) _
  | @setAccess id access store hc =>
    obtain ⟨-, e⟩ := Store.update_eq_ok hc
    have edited : ({ s with store } : Session).ParksKnown := h.modify e rfl fun _ => rfl
    exact edited.save
  | @delete id b store hd =>
    obtain ⟨rfl, perm, -⟩ := Store.perm_delete hs hd
    refine ParksKnown.revalidate (ParksKnown.graphChanged_save ?_) _
    intro x hx
    rw [parking_emit, Parking.mem_ids_erase] at hx
    rw [store_emit]
    obtain ⟨c, hc, rfl⟩ := Store.mem_ids.mp (h x hx.1)
    rcases List.mem_cons.mp (perm.mem_iff.mpr hc) with rfl | hc
    · exact absurd rfl hx.2
    · exact Store.mem_ids.mpr ⟨c, hc, rfl⟩
  | @duplicate id copy store source hc =>
    obtain ⟨b, index, -, hi⟩ := Store.duplicate_eq_ok (congrArg Prod.fst hc)
    have copied : ({ s with store, source } : Session).ParksKnown :=
      h.of_perm (Store.perm_insertAt hi) rfl
    exact copied.adopt (hs.insertAt hi) _
  | @move id index store hm =>
    have perm := (Store.perm_moveTo hs hm).1
    have moved : ({ s with store } : Session).ParksKnown :=
      h.of_eq rfl fun _ hx => (perm.map (·.id)).mem_iff.mpr hx
    exact moved.save
  | requestUpdate ht => exact h.requested hs ht
  | flushDeferred => exact (h.erase _).propagate hs _ _
  | flushDue => exact (h.erase _).propagate hs _ _
  | @replaceImage id mime bytes b hb hk =>
    have replaced :
        (s.modify id fun b => { b with content := some (.binary mime bytes) }).ParksKnown :=
      h.modify rfl rfl fun _ => rfl
    refine ParksKnown.propagate (replaced.save.of_eq ?_ fun _ hx => ?_) (sound_replaced hs ..) _ _
    · rw [parking_regraph, parking_emit]
    · rw [store_regraph, store_emit]
      exact hx
  | propagate seeds force => exact h.propagate hs _ _
  | revalidate ids => exact h.revalidate ids
  | advance => exact h.of_eq rfl fun _ hx => hx
  | rearchive => exact h.of_eq rfl fun _ hx => hx

theorem Reachable.parksKnown (h : s.Reachable) : s.ParksKnown := by
  induction h with
  | start settings => exact fun x hx => absurd hx List.not_mem_nil
  | @perform s h backend o _ _ ih =>
    exact (perform_performed backend s o).parksKnown (ReachedBy.reachable h).sound ih

/-! ## Running parked requests -/

/-- What parked requests come to when they are run for some blocks. -/
theorem runParked_eq {ids : List BlockId} (h : ids ≠ []) (backend : Backend) (s : Session) :
    s.runParked backend ids =
      (some (propagate backend
          { s with parking := ids.foldl Parking.erase s.parking } ids false).1,
        (propagate backend
          { s with parking := ids.foldl Parking.erase s.parking } ids false).2) := by
  unfold runParked
  split
  · exact absurd rfl h
  · rfl

theorem runParked_settles_iff (h : s.Reachable) (backend : Backend) {ids : List BlockId}
    (parked : ∀ x ∈ ids, x ∈ s.parking.ids) {z : BlockId} (hz : z ∈ ids)
    (lone : ∀ y, (Graph.ofStore s.store).Joined z y → y = z) :
    ∃ report, (s.runParked backend ids).1 = some report ∧
      z ∉ (s.runParked backend ids).2.parking.ids ∧
      (z ∈ report.settled ↔ (Graph.ofStore s.store).isIsolated z = true ∨
        ∀ x ∈ ids, ∀ y ∈ ids, (Graph.ofStore s.store).Joined x y → x = y) ∧
      (z ∉ report.settled →
        (s.runParked backend ids).2.store.get? z = s.store.get? z) := by
  have hs := h.sound
  let erased : Session := { s with parking := ids.foldl Parking.erase s.parking }
  have seedsOf_iff : ∀ x, x ∈ Batch.seedsOf erased ids ↔ x ∈ ids := by
    intro x
    rw [Batch.mem_seedsOf]
    exact and_iff_left_of_imp fun hx => h.parksKnown x (parked x hx)
  have settles : z ∈ ((Batch.start erased ids false).run backend).report.settled ↔ _ :=
    Batch.mem_settled_iff_of_lone (s := erased) hs ((seedsOf_iff z).mpr hz) lone
  rw [Batch.crowded_relatedSeeds_eq_nil_iff (s := erased) hs] at settles
  simp only [seedsOf_iff] at settles
  rw [runParked_eq (List.ne_nil_of_mem hz)]
  refine ⟨_, rfl, ?_, settles, fun unsettled => ?_⟩
  · show z ∉ (erased.propagate backend ids false).2.parking.ids
    rw [parking_propagate (s := erased) hs]
    intro hmem
    exact (Parking.mem_ids_foldl_erase.mp hmem).2 hz
  · show (erased.propagate backend ids false).2.store.get? z = _
    rw [Batch.store_propagate]
    have unaccounted := mt (Batch.mem_accounted_run (s := erased) hs).mp unsettled
    have run := Batch.stage_run (s := erased) hs backend ids false
    exact (Batch.Stage.spares (s := erased) hs run unaccounted).get?_eq

/-- A parked request for a block that is joined with no other is gone when it is run.  The block is
settled then, unless it has dependencies and two of the blocks with requests run with it are joined;
in that case it is left as it was. -/
theorem parked_settled_iff (h : s.Reachable) (backend : Backend) {z : BlockId}
    (lone : ∀ y, (Graph.ofStore s.store).Joined z y → y = z) :
    let g := Graph.ofStore s.store
    (z ∈ s.parking.ids →
      ∃ report, (s.runDeferred backend).1 = some report ∧
        z ∉ (s.runDeferred backend).2.parking.ids ∧
        (z ∈ report.settled ↔ g.isIsolated z = true ∨
          ∀ x ∈ s.parking.ids, ∀ y ∈ s.parking.ids, g.Joined x y → x = y) ∧
        (z ∉ report.settled → (s.runDeferred backend).2.store.get? z = s.store.get? z)) ∧
    ∀ due, (z, due) ∈ s.parking.entries → due ≤ s.now →
      ∃ report, (s.flushDue backend).1 = some report ∧
        z ∉ (s.flushDue backend).2.parking.ids ∧
        (z ∈ report.settled ↔ g.isIsolated z = true ∨
          ∀ x ∈ s.parking.dueAt s.now, ∀ y ∈ s.parking.dueAt s.now, g.Joined x y → x = y) ∧
        (z ∉ report.settled → (s.flushDue backend).2.store.get? z = s.store.get? z) := by
  intro g
  refine ⟨fun hz => runParked_settles_iff h backend (fun _ hx => hx) hz lone, fun due he hn => ?_⟩
  refine runParked_settles_iff h backend (fun x hx => ?_) (Parking.mem_dueAt.mpr ⟨due, he, hn⟩) lone
  obtain ⟨due, he, -⟩ := Parking.mem_dueAt.mp hx
  exact Parking.mem_ids.mpr ⟨(x, due), he, rfl⟩

/-- Two blocks that mention each other, and one that mentions a third, all with parked requests. -/
def tangle : Session :=
  let backend : Backend := { answer := fun r => .ok (.text r.input) }
  let commands : List Command :=
    [.requestUpdate ⟨"9e3779b9"⟩ true, .requestUpdate ⟨"1715609d"⟩ true,
      .requestUpdate ⟨"08d12e65"⟩ true, .editData ⟨"9e3779b9"⟩ "[b]", .editData ⟨"1715609d"⟩ "[a]",
      .editData ⟨"08d12e65"⟩ "[c]!"]
  commands.foldl (fun s c => s.perform backend (.command c))
    (ofTexts [(.generativeText, "a", "x"), (.generativeText, "b", "y"), (.static, "c", "z"),
      (.generativeText, "d", "[c]")])

theorem reachable_tangle : tangle.Reachable :=
  (reachable_ofTexts _).foldl_perform _ .command _

/-- The third of the blocks is joined with no other. -/
theorem lone_in_tangle :
    ∀ y, (Graph.ofStore tangle.store).Joined ⟨"08d12e65"⟩ y → y = ⟨"08d12e65"⟩ := by
  intro y hy
  have known : ⟨"08d12e65"⟩ ∈ (Graph.ofStore tangle.store).nodes ∧
      (Graph.ofStore tangle.store).reach ⟨"08d12e65"⟩ = [⟨"08d12e65"⟩] := by decide +kernel
  have reached := (Graph.mem_reach (Graph.sound_ofStore reachable_tangle.sound) known.1).mpr hy.1
  rw [known.2] at reached
  exact List.mem_singleton.mp reached

/-- In the tangle the request of the third block is dropped, and the block is as before. -/
theorem parked_dropped_in_tangle :
    let backend : Backend := { answer := fun r => .ok (.text r.input) }
    let g := Graph.ofStore tangle.store
    tangle.Reachable ∧ (∀ y, g.Joined ⟨"08d12e65"⟩ y → y = ⟨"08d12e65"⟩) ∧
      ⟨"08d12e65"⟩ ∈ tangle.parking.ids ∧
      ∃ report, (tangle.runDeferred backend).1 = some report ∧
        ⟨"08d12e65"⟩ ∉ (tangle.runDeferred backend).2.parking.ids ∧
        ⟨"08d12e65"⟩ ∉ report.settled ∧
        (tangle.runDeferred backend).2.store.get? ⟨"08d12e65"⟩ =
          tangle.store.get? ⟨"08d12e65"⟩ := by
  intro backend g
  have parked : ∀ x ∈ [(⟨"08d12e65"⟩ : BlockId), ⟨"9e3779b9"⟩, ⟨"1715609d"⟩],
      x ∈ tangle.parking.ids := by decide +kernel
  have graph : ¬ g.isIsolated ⟨"08d12e65"⟩ = true ∧
      (⟨"9e3779b9"⟩, ⟨"1715609d"⟩) ∈ g.links ∧ (⟨"1715609d"⟩, ⟨"9e3779b9"⟩) ∈ g.links := by
    decide +kernel
  obtain ⟨report, e, unparked, settles, left⟩ :=
    (parked_settled_iff reachable_tangle backend lone_in_tangle).1 (parked _ (by decide))
  have unsettled : ⟨"08d12e65"⟩ ∉ report.settled := by
    rw [settles]
    intro given
    rcases given with isolated | apart
    · exact graph.1 isolated
    · have same := apart ⟨"9e3779b9"⟩ (parked _ (by decide)) ⟨"1715609d"⟩ (parked _ (by decide))
        ⟨.of_link graph.2.1, .of_link graph.2.2⟩
      exact absurd same (by decide)
  exact ⟨reachable_tangle, lone_in_tangle, parked _ (by decide), report, e, unparked, unsettled,
    left unsettled⟩

/-- So it is not so that every parked request for a block that is joined with no other leads to its
being settled. -/
theorem not_all_parked_settled :
    ¬ ∀ (s : Session) (backend : Backend) (z : BlockId), s.Reachable →
      (∀ y, (Graph.ofStore s.store).Joined z y → y = z) → z ∈ s.parking.ids →
      z ∉ (s.runDeferred backend).2.parking.ids →
      ∃ report, (s.runDeferred backend).1 = some report ∧ z ∈ report.settled := by
  intro all
  let backend : Backend := { answer := fun r => .ok (.text r.input) }
  have outcome : ⟨"08d12e65"⟩ ∈ tangle.parking.ids ∧
      ⟨"08d12e65"⟩ ∉ (tangle.runDeferred backend).2.parking.ids ∧
      ∀ report ∈ (tangle.runDeferred backend).1, ⟨"08d12e65"⟩ ∉ report.settled := by
    decide +kernel
  obtain ⟨report, e, settled⟩ :=
    all tangle backend ⟨"08d12e65"⟩ reachable_tangle lone_in_tangle outcome.1 outcome.2.1
  exact outcome.2.2 report e settled

end Session
end Workbook
