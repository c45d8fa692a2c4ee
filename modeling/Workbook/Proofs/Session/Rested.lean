import Workbook.Proofs.Batch.Answers
import Workbook.Proofs.Session.Durable

/-!
What batches do to blocks, and that none is left waiting.

`propagate_touches_reported` collects what a batch leaves alone and what it leaves behind: other
blocks than those that it reports as computed or failed keep their records, and each of these says
what has become of it.  As all requests are answered within a batch, no block waits for an answer
between operations (`Rested.performed`), unless one is loaded that does.
-/

namespace Workbook

/-! ## Blocks that wait -/

namespace NoneWaits

variable {s t : Store}

theorem modify (h : NoneWaits s.blocks) (id : BlockId) {f : Block → Block}
    (hf : ∀ b, b.status ≠ .waiting → (f b).status ≠ .waiting) :
    NoneWaits (s.modify id f).blocks := by
  intro c hc
  obtain ⟨b, hb, rfl⟩ := Store.mem_modify.mp hc
  split
  · exact hf b (h b hb)
  · exact h b hb

theorem of_perm_cons (h : NoneWaits s.blocks) {b : Block} (perm : t.blocks.Perm (b :: s.blocks))
    (hb : b.status ≠ .waiting) : NoneWaits t.blocks := by
  intro c hc
  rcases List.mem_cons.mp (perm.mem_iff.mp hc) with rfl | hc
  · exact hb
  · exact h c hc

theorem insertAt (h : NoneWaits s.blocks) {source : IdSource} {index : Nat} {b : Block}
    {id : BlockId} (e : (s.insertAt source index b).1 = .ok (id, t)) (hb : b.status ≠ .waiting) :
    NoneWaits t.blocks :=
  h.of_perm_cons (Store.perm_insertAt e) hb

/-- Blocks that are loaded stand as they did in the archive. -/
theorem replaceAll {blocks : List Block} (h : NoneWaits blocks)
    (e : s.replaceAll blocks = .ok t) : NoneWaits t.blocks := by
  have same : t.blocks.map (·.status) = blocks.map (·.status) :=
    Store.map_replaceAll (fun _ _ => rfl) e
  intro c hc waiting
  have listed : c.status ∈ blocks.map (·.status) := same ▸ List.mem_map_of_mem hc
  obtain ⟨b, hb, status⟩ := List.mem_map.mp listed
  exact h b hb (status.trans waiting)

end NoneWaits

/-- If the operation exchanges the archive, it is for one in which no block waits. -/
def Operation.Rests (o : Operation) : Prop :=
  ∀ archive, o = .rearchive archive → NoneWaits archive.saved

namespace Session

/-- No block waits, neither in the session nor in its archive. -/
structure Rested (s : Session) : Prop where
  blocks : NoneWaits s.store.blocks
  archived : NoneWaits s.archive.saved

variable {s t : Session} {backend : Backend} {id : BlockId}

namespace Rested

theorem congr (h : s.Rested) (blocks : t.store.blocks = s.store.blocks)
    (archive : t.archive = s.archive) : t.Rested where
  blocks := blocks ▸ h.blocks
  archived := archive ▸ h.archived

theorem handed {a : Archive} {blocks : List Block} (ha : NoneWaits a.saved)
    (hb : NoneWaits blocks) : NoneWaits (a.handed blocks).saved := by
  unfold Archive.handed
  split
  · exact ha
  · exact hb

theorem save (h : s.Rested) : s.save.Rested where
  blocks := by
    rw [store_save]
    exact h.blocks
  archived := by
    rw [archive_save]
    exact handed h.archived h.blocks

theorem graphChanged (h : s.Rested) : s.graphChanged.Rested := by
  refine h.congr ?_ (archive_emit ..)
  rw [store_graphChanged]

theorem propagate (h : s.Rested) (hs : s.store.Sound) (backend : Backend) (seeds : List BlockId)
    (force : Bool) : (s.propagate backend seeds force).2.Rested := by
  have blocks := Batch.noneWaits_propagate hs backend seeds force h.blocks
  refine ⟨blocks, ?_⟩
  rw [archive_propagate hs]
  split
  · exact h.archived
  · exact handed h.archived blocks

theorem propagateSome (h : s.Rested) (hs : s.store.Sound) (backend : Backend)
    (ids : List BlockId) : (s.propagateSome backend ids).Rested := by
  unfold Session.propagateSome
  split
  · exact h
  · exact h.propagate hs ..

theorem adopt (h : s.Rested) (hs : s.store.Sound) (backend : Backend) (id : BlockId)
    (first : List BlockId) : (s.adopt backend id first).Rested :=
  h.graphChanged.save.propagateSome (sound_graphChanged_save hs) ..

theorem revalidate (h : s.Rested) (ids : List BlockId) : (s.revalidate ids).2.Rested := by
  rw [revalidate_eq]
  induction ids generalizing s with
  | nil => exact h
  | cons id ids ih =>
    refine ih ⟨?_, (archive_recheck s id) ▸ h.archived⟩
    rcases s.recheck_cases id with e | e | ⟨message, e⟩ <;> rw [e]
    · exact h.blocks
    · exact h.blocks
    · exact h.blocks.modify id fun _ _ => by simp [Block.refused]

theorem requested {immediate : Bool} (h : s.Rested) (hs : s.store.Sound)
    (ht : s.Requested backend id immediate t) : t.Rested := by
  cases ht with
  | parked => exact h.congr rfl rfl
  | computed =>
    exact (h.congr (t := { s with parking := s.parking.erase id }) rfl rfl).propagate hs ..

end Rested

/-! ## One operation, and runs -/

theorem Rested.performed {o : Operation} (h : s.Rested) (hs : s.store.Sound)
    (ht : s.Performed backend o t) (ho : o.Rests) : t.Rested := by
  cases ht with
  | unchanged => exact h.congr rfl rfl
  | @load store e =>
    have loaded : ({ s with store, parking := {} } : Session).Rested :=
      ⟨h.archived.replaceAll e, h.archived⟩
    exact loaded.graphChanged.propagate (sound_loaded e) ..
  | @create _ _ _ _ id store source e =>
    have e := congrArg Prod.fst e
    have created : ({ s with store, source } : Session).Rested :=
      ⟨h.blocks.insertAt e (by simp), h.archived⟩
    exact created.adopt (hs.insertAt e) ..
  | @importImage name mime bytes id store source e =>
    have e := congrArg Prod.fst e
    let store := store.modify id fun b => { b with content := some (.binary mime bytes) }
    have imported : ({ s with store, source } : Session).Rested :=
      ⟨(h.blocks.insertAt e (by simp)).modify id fun _ hb => hb, h.archived⟩
    exact imported.adopt ((hs.insertAt e).modify (fun _ => rfl) fun _ => rfl) ..
  | @editData id data store _ e requested =>
    have edited : ({ s with store } : Session).Rested :=
      ⟨(Store.setData_eq_ok e).2 ▸ h.blocks.modify id fun _ hb => hb, h.archived⟩
    exact edited.graphChanged.save.requested (sound_graphChanged_save (hs.setData e)) requested
  | @editTransform id transform store _ e requested =>
    have edited : ({ s with store } : Session).Rested :=
      ⟨(Store.setTransform_eq_ok e).2 ▸ h.blocks.modify id fun _ hb => hb, h.archived⟩
    exact edited.save.requested (sound_save (hs.setTransform e)) requested
  | @rename id name applied store e =>
    have renamed : ({ s.regraph with store } : Session).Rested :=
      ⟨(Store.rename_eq_ok e).2.2 ▸ h.blocks.modify id fun _ hb => hb, h.archived⟩
    exact renamed.graphChanged.save.propagateSome (sound_graphChanged_save (hs.rename e)) ..
  | @setAccess id access store e =>
    have edited : ({ s with store } : Session).Rested :=
      ⟨(Store.update_eq_ok e).2 ▸ h.blocks.modify id fun _ hb => hb, h.archived⟩
    exact edited.save
  | @delete id b store e =>
    obtain ⟨-, perm, -⟩ := Store.perm_delete hs e
    have blocks : NoneWaits store.blocks := fun c hc =>
      h.blocks c (perm.mem_iff.mp (List.mem_cons_of_mem b hc))
    let deleted : Session :=
      { s.regraph with
        store, graph := (Graph.ofStore s.store).removeNode id, parking := s.parking.erase id }
    have rested : (deleted.emit (.blockRemoved id)).Rested := by
      refine Rested.congr (s := deleted) ⟨blocks, h.archived⟩ ?_ (archive_emit ..)
      rw [store_emit]
    exact rested.graphChanged.save.revalidate _
  | @duplicate id copy store source e =>
    obtain ⟨b, index, -, inserted⟩ := Store.duplicate_eq_ok (congrArg Prod.fst e)
    have copied : ({ s with store, source } : Session).Rested :=
      ⟨h.blocks.insertAt inserted (by simp [Block.atRest]), h.archived⟩
    exact copied.adopt (hs.insertAt inserted) ..
  | @move id index store e =>
    have moved : ({ s with store } : Session).Rested :=
      ⟨fun c hc => h.blocks c ((Store.perm_moveTo hs e).1.mem_iff.mp hc), h.archived⟩
    exact moved.save
  | requestUpdate requested => exact h.requested hs requested
  | flushDeferred =>
    let unparked : Session :=
      { s with parking := s.parking.ids.foldl Parking.erase s.parking }
    exact (h.congr (t := unparked) rfl rfl).propagate hs ..
  | flushDue =>
    let unparked : Session :=
      { s with parking := (s.parking.dueAt s.now).foldl Parking.erase s.parking }
    exact (h.congr (t := unparked) rfl rfl).propagate hs ..
  | @replaceImage id mime bytes b hb hk =>
    let edited : Session := s.modify id fun b => { b with content := some (.binary mime bytes) }
    have rested : edited.Rested := ⟨h.blocks.modify id fun _ hb => hb, h.archived⟩
    have noticed : (edited.save.emit (.contentUpdated id)).regraph.Rested := by
      refine rested.save.congr ?_ (archive_emit ..)
      rw [store_regraph, store_emit]
    exact noticed.propagate (sound_replaced hs ..) ..
  | propagate seeds force => exact h.propagate hs backend seeds force
  | revalidate ids => exact h.revalidate ids
  | advance => exact h.congr rfl rfl
  | rearchive archive => exact ⟨h.blocks, ho archive rfl⟩

theorem Rested.performAll (h : s.Rested) (hs : s.store.Sound)
    {steps : List (Backend × Operation)} (ho : ∀ p ∈ steps, p.2.Rests) :
    (s.performAll steps).Rested :=
  performAll_induction hs h fun t ht rested p hp =>
    rested.performed ht (perform_performed p.1 t p.2) (ho p hp)

theorem rested_start (settings : Settings) (source : IdSource) {archive : Archive}
    (archived : NoneWaits archive.saved) (watched : Bool) :
    (start settings source archive watched).Rested :=
  ⟨fun _ hb => absurd hb List.not_mem_nil, archived⟩

/-! ## Batches -/

/-- A batch keeps the blocks in their order with all that users edit, and the parked requests.
Blocks that it neither computed nor failed to compute keep their records; one that failed keeps its
content and what that came from, and says with which error it failed; one that was computed is done,
with its resolved text or with the answer to the one request that was made for it.  If no block
waited before, none does after; so none ever waits between operations, if none does in the
archive. -/
theorem propagate_touches_reported :
    (∀ (s : Session) (backend : Backend) (seeds : List BlockId) (force : Bool), s.Reachable →
      let report := (s.propagate backend seeds force).1
      let t := (s.propagate backend seeds force).2
      t.store.blocks.map Block.outline = s.store.blocks.map Block.outline ∧
      t.parking = s.parking ∧
      (∀ x, x ∉ report.computed → x ∉ report.failed.map (·.1) →
        t.store.get? x = s.store.get? x) ∧
      (∀ e ∈ report.failed, ∃ b c, s.store.get? e.1 = some b ∧ t.store.get? e.1 = some c ∧
        c.content = b.content ∧ c.input = b.input ∧ c.applied = b.applied ∧
        c.status = .failed e.2.message) ∧
      (∃ new, t.requests = s.requests ++ new ∧ ∀ x ∈ report.computed,
        ∃ c, t.store.get? x = some c ∧ c.status = .done ∧
          ((c.kind = .static ∧ ∃ text, c.input = some text ∧ c.content = some (.text text) ∧
              c.applied = none) ∨
            (c.kind.isGenerative = true ∧ ∃ r answer, new.filter (fun q => q.id = x) = [r] ∧
              backend.answer r = .ok answer ∧ c.content = some answer ∧
              c.input = some r.input ∧ c.applied = some r.transform))) ∧
      (NoneWaits s.store.blocks → NoneWaits t.store.blocks)) ∧
    ∀ (settings : Settings) (source : IdSource) (archive : Archive) (watched : Bool)
      (steps : List (Backend × Operation)), NoneWaits archive.saved → (∀ p ∈ steps, p.2.Rests) →
        NoneWaits ((start settings source archive watched).performAll steps).store.blocks := by
  refine ⟨fun s backend seeds force h => ?_, ?_⟩
  · intro report t
    have hs := h.sound
    have alike : t.store.Alike s.store := alike_propagate hs backend seeds force
    have sound : t.store.Sound := alike.sound hs
    refine ⟨alike.outlines, parking_propagate hs backend seeds force,
      fun x => Batch.propagate_spares hs backend seeds force, fun e he => ?_, ?_,
      Batch.noneWaits_propagate hs backend seeds force⟩
    · obtain ⟨c, hc, status, kept⟩ := Batch.propagate_fails hs backend seeds force e he
      obtain ⟨b, hb, same⟩ := Option.map_eq_some_iff.mp kept
      have content : b.atRest.content = c.atRest.content := congrArg Block.content same
      have input : b.atRest.input = c.atRest.input := congrArg Block.input same
      have applied : b.atRest.applied = c.atRest.applied := congrArg Block.applied same
      exact ⟨b, c, hb, hc, content.symm, input.symm, applied.symm, status⟩
    · obtain ⟨new, requests, nodup, holds⟩ := Batch.propagate_holds hs backend seeds force
      refine ⟨new, requests, fun x hx => ?_⟩
      have stage := Batch.stage_run hs backend seeds force
      have store : t.store = ((Batch.start s seeds force).run backend).session.store :=
        Batch.store_propagate backend s seeds force
      have known : x ∈ t.store.ids := by
        rw [alike.ids, ← Graph.nodes_ofStore hs]
        exact (stage.places hs).known x
          (Batch.mem_accounted_nil.mpr (.inl (Report.mem_settled.mpr (.inl hx))))
      obtain ⟨c, hc⟩ := Store.exists_get? known
      refine ⟨c, hc, stage.status_computed hs x hx c (store ▸ hc), ?_⟩
      cases holds x hx c hc with
      | shown hk text input content applied => exact .inl ⟨hk, text, input, content, applied⟩
      | answered hk r hr hid answer ha input content applied =>
        have single := filter_id_eq nodup hr
        rw [hid, (Store.mem_of_get? hc).2] at single
        exact .inr ⟨hk, r, answer, single, ha, content, input, applied⟩
  · intro settings source archive watched steps archived rests
    have sound : (start settings source archive watched).store.Sound := Store.sound_empty settings
    exact ((rested_start settings source archived watched).performAll sound rests).blocks

/-- Two blocks for the generator, a static one that mentions the first, and one by itself. -/
def divided : Session :=
  ofTexts [(.generativeText, "a", "x"), (.generativeText, "b", "y"), (.static, "c", "[a]"),
    (.static, "d", "z")]

theorem reachable_divided : divided.Reachable := reachable_ofTexts _

/-- The generator refuses the second block and answers for the first one last, so the third one is
computed after that.  The fourth one is left alone.  In the run no block is left waiting either. -/
theorem touches_reported_in_divided :
    let backend : Backend :=
      { answer := fun r =>
          if r.name = "b" then .error .channelClosed else .ok (.text (r.input ++ "!"))
        next := fun calls => calls.length - 1 }
    let outcome := divided.propagate backend [⟨"9e3779b9"⟩, ⟨"1715609d"⟩] false
    let archive : Archive := { saved := [{ id := ⟨"1"⟩, name := "b", kind := .generativeText }] }
    let steps : List (Backend × Operation) := [(backend, .command .load)]
    divided.Reachable ∧ NoneWaits divided.store.blocks ∧
      outcome.1.computed = [⟨"9e3779b9"⟩, ⟨"8ff34781"⟩] ∧
      outcome.1.failed = [(⟨"1715609d"⟩, .channelClosed)] ∧
      outcome.2.store.get? ⟨"08d12e65"⟩ = divided.store.get? ⟨"08d12e65"⟩ ∧
      (∃ c, outcome.2.store.get? ⟨"1715609d"⟩ = some c ∧
        c.status = .failed Error.channelClosed.message) ∧
      (∃ c, outcome.2.store.get? ⟨"9e3779b9"⟩ = some c ∧ c.status = .done) ∧
      NoneWaits (divided.propagate backend [⟨"9e3779b9"⟩, ⟨"1715609d"⟩] false).2.store.blocks ∧
      NoneWaits archive.saved ∧ (∀ p ∈ steps, p.2.Rests) ∧
      NoneWaits ((start {} { word := fun _ => 0 } archive true).performAll steps).store.blocks := by
  intro backend outcome archive steps
  obtain ⟨batches, runs⟩ := propagate_touches_reported
  have reported : outcome.1.computed = [⟨"9e3779b9"⟩, ⟨"8ff34781"⟩] ∧
      outcome.1.failed = [(⟨"1715609d"⟩, .channelClosed)] := by decide +kernel
  obtain ⟨computed, failed⟩ := reported
  have rested : NoneWaits divided.store.blocks := by decide +kernel
  have archived : NoneWaits archive.saved := by decide +kernel
  obtain ⟨-, -, spares, fails, ⟨new, -, holds⟩, waits⟩ :=
    batches divided backend [⟨"9e3779b9"⟩, ⟨"1715609d"⟩] false reachable_divided
  have uncomputed : ⟨"08d12e65"⟩ ∉ outcome.1.computed := by
    rw [computed]
    decide
  have unrefused : ⟨"08d12e65"⟩ ∉ outcome.1.failed.map (·.1) := by
    rw [failed]
    decide
  have refused : (⟨"1715609d"⟩, .channelClosed) ∈ outcome.1.failed := by
    rw [failed]
    exact List.mem_singleton_self _
  have answered : ⟨"9e3779b9"⟩ ∈ outcome.1.computed := by
    rw [computed]
    exact List.mem_cons_self ..
  have loads : ∀ p ∈ steps, p.2.Rests := by
    intro p hp archive e
    rw [List.mem_singleton.mp hp] at e
    cases e
  have ran := runs {} { word := fun _ => 0 } archive true steps archived loads
  obtain ⟨-, b, -, hb, -, -, -, status⟩ := fails _ refused
  obtain ⟨c, hc, done, -⟩ := holds _ answered
  exact ⟨reachable_divided, rested, computed, failed, spares _ uncomputed unrefused,
    ⟨b, hb, status⟩, ⟨c, hc, done⟩, waits rested, archived, loads, ran⟩

end Session
end Workbook
