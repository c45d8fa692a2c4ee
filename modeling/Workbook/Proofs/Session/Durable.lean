import Workbook.Proofs.Batch.Fresh
import Workbook.Proofs.Batch.Records
import Workbook.Proofs.Session.Run

/-!
The archive keeps up with the blocks.

Edits save before the blocks that they concern are computed, and a batch saves at its end if it
computed anything.  A batch that computed nothing has changed nothing that is saved
(`Batch.Stage.atRest_eq`), and neither has a look at references (`atRest_revalidate`).  So as long
as the archive takes what it is handed, it holds what the blocks are at rest after every operation
(`Durable.perform`).  Only loading can break this, and only if the names in the archive are not
apart, for then blocks are renamed (`durable_load`).
-/

namespace Workbook

/-- Stores with the same records at rest are the same at rest. -/
theorem Store.Alike.map_atRest_eq {s t : Store} (h : t.Alike s) (hs : s.Sound)
    (same : ∀ id, (t.get? id).map Block.atRest = (s.get? id).map Block.atRest) :
    t.blocks.map Block.atRest = s.blocks.map Block.atRest := by
  have records : ∀ {u : Store}, u.Sound →
      u.blocks.map Block.atRest = u.ids.filterMap fun id => (u.get? id).map Block.atRest := by
    intro u hu
    have e := congrArg (List.map Block.atRest) hu.blocks_eq
    rwa [List.map_filterMap] at e
  rw [records (h.sound hs), records hs, h.ids]
  exact List.filterMap_congr fun id _ => same id

theorem Archive.handed_of_accepts {a : Archive} (h : a.saveFault = none) (blocks : List Block) :
    a.handed blocks = { a with saved := blocks } := by
  rw [handed, h]

namespace Session

/-- The archive holds what the blocks are at rest. -/
def Archived (s : Session) : Prop :=
  s.archive.saved.map Block.atRest = s.store.blocks.map Block.atRest

instance (s : Session) : Decidable s.Archived := inferInstanceAs (Decidable (_ = _))

/-- The archive takes what it is handed, and holds what the blocks are at rest. -/
structure Durable (s : Session) : Prop where
  accepts : s.archive.saveFault = none
  archived : s.Archived

variable {s t : Session} {backend : Backend} {id : BlockId}

theorem archive_emit (s : Session) (e : Event) : (s.emit e).archive = s.archive := by
  rw [emit_eq]

/-- What is saved is archived. -/
theorem durable_save (accepts : s.archive.saveFault = none) : s.save.Durable where
  accepts := by
    rw [archive_save, Archive.handed_of_accepts accepts]
    exact accepts
  archived := by
    rw [Archived, archive_save, Archive.handed_of_accepts accepts, store_save]

/-! ## Looking at references again -/

theorem atRest_recheck (s : Session) (id : BlockId) :
    (s.recheck id).store.blocks.map Block.atRest = s.store.blocks.map Block.atRest := by
  rcases s.recheck_cases id with e | e | ⟨message, e⟩ <;> rw [e]
  · rfl
  · show (s.store.modify id (.refused message)).blocks.map Block.atRest = _
    rw [Store.modify, List.map_map]
    refine List.map_congr_left fun b _ => ?_
    show (if b.id = id then b.refused message else b).atRest = b.atRest
    split <;> rfl

theorem archive_recheck (s : Session) (id : BlockId) : (s.recheck id).archive = s.archive := by
  rcases s.recheck_cases id with e | e | ⟨message, e⟩ <;> rw [e] <;> rfl

/-! ## What keeps the archive up -/

namespace Durable

theorem congr (h : s.Durable) (archive : t.archive = s.archive)
    (blocks : t.store.blocks.map Block.atRest = s.store.blocks.map Block.atRest) : t.Durable where
  accepts := archive ▸ h.accepts
  archived := by
    rw [Archived, archive, blocks]
    exact h.archived

theorem propagate (h : s.Durable) (hs : s.store.Sound) (backend : Backend) (seeds : List BlockId)
    (force : Bool) : (s.propagate backend seeds force).2.Durable := by
  have archive := archive_propagate hs backend seeds force
  split at archive
  case isTrue idle =>
    have stage := Batch.stage_run hs backend seeds force
    have uncomputed : ∀ x, x ∉ ((Batch.start s seeds force).run backend).report.computed := by
      intro x hx
      exact List.ne_nil_of_mem hx (List.isEmpty_iff.mp idle)
    refine h.congr archive ?_
    rw [Batch.store_propagate]
    exact stage.framed.alike.map_atRest_eq hs fun x => stage.atRest_eq (uncomputed x)
  case isFalse =>
    rw [Archive.handed_of_accepts h.accepts] at archive
    constructor
    · rw [archive]
      exact h.accepts
    · rw [Archived, archive]

theorem propagateSome (h : s.Durable) (hs : s.store.Sound) (backend : Backend)
    (ids : List BlockId) : (s.propagateSome backend ids).Durable := by
  unfold Session.propagateSome
  split
  · exact h
  · exact h.propagate hs ..

theorem revalidate (h : s.Durable) (ids : List BlockId) : (s.revalidate ids).2.Durable := by
  rw [revalidate_eq]
  induction ids generalizing s with
  | nil => exact h
  | cons id ids ih => exact ih (h.congr (archive_recheck s id) (atRest_recheck s id))

theorem requested {immediate : Bool} (h : s.Durable) (hs : s.store.Sound)
    (ht : s.Requested backend id immediate t) : t.Durable := by
  cases ht with
  | parked => exact h.congr rfl rfl
  | computed =>
    exact (h.congr (t := { s with parking := s.parking.erase id }) rfl rfl).propagate hs ..

end Durable

theorem durable_adopt (accepts : s.archive.saveFault = none) (hs : s.store.Sound)
    (backend : Backend) (id : BlockId) (first : List BlockId) :
    (s.adopt backend id first).Durable := by
  have saved : s.graphChanged.save.Durable := by
    apply durable_save
    rw [graphChanged, archive_emit]
    exact accepts
  exact saved.propagateSome (sound_graphChanged_save hs) ..

/-! ## Loading -/

/-- Blocks that are loaded under their own names are what the archive holds. -/
theorem durable_load (accepts : s.archive.saveFault = none) {store : Store}
    (names : (s.archive.saved.map fun b => Name.normalize b.name).Nodup)
    (h : s.store.replaceAll s.archive.saved = .ok store) (backend : Backend) :
    (({ s with store, parking := {} } : Session).graphChanged.propagate backend store.ids
      true).2.Durable := by
  have sound : store.Sound := (Store.Sound.replaceAll h).1
  obtain ⟨-, -, rfl⟩ := (Store.replaceAll_eq_ok_iff names).mp h
  let loaded : Session :=
    { s with store := { s.store with blocks := s.archive.saved }, parking := {} }
  have durable : loaded.Durable := ⟨accepts, rfl⟩
  have noticed : loaded.graphChanged.Durable := by
    refine durable.congr (archive_emit ..) ?_
    rw [store_graphChanged]
  refine noticed.propagate ?_ ..
  rw [store_graphChanged]
  exact sound

theorem Durable.names_nodup (h : s.Durable) (hs : s.store.Sound) :
    (s.archive.saved.map fun b => Name.normalize b.name).Nodup := by
  have alike : ({ s.store with blocks := s.archive.saved } : Store).Alike s.store :=
    Store.alike_of_atRest h.archived rfl
  exact (alike.sound hs).names_nodup

/-! ## One operation, and runs -/

theorem Durable.performed {o : Operation} (h : s.Durable) (hs : s.store.Sound)
    (ht : s.Performed backend o t) (ho : ∀ archive, o ≠ .rearchive archive) : t.Durable := by
  -- edits end with a save, or save before anything is computed
  have saves : ∀ u : Session, u.archive = s.archive → u.save.Durable := by
    intro u e
    exact durable_save (e ▸ h.accepts)
  cases ht with
  | unchanged => exact h.congr rfl rfl
  | load e => exact durable_load h.accepts (h.names_nodup hs) e backend
  | @create _ _ _ _ id store source e =>
    have sound : store.Sound := hs.insertAt (congrArg Prod.fst e)
    exact durable_adopt (s := { s with store, source }) h.accepts sound ..
  | @importImage name mime bytes id store source e =>
    have sound : store.Sound := hs.insertAt (congrArg Prod.fst e)
    let store := store.modify id fun b => { b with content := some (.binary mime bytes) }
    exact durable_adopt (s := { s with store, source }) h.accepts
      (sound.modify (fun _ => rfl) fun _ => rfl) ..
  | @editData id data store _ e requested =>
    have saved := saves ({ s with store } : Session).graphChanged (archive_emit _ _)
    exact saved.requested (sound_graphChanged_save (hs.setData e)) requested
  | @editTransform id transform store _ e requested =>
    have saved := saves { s with store } rfl
    exact saved.requested (sound_save (hs.setTransform e)) requested
  | @rename id name applied store e =>
    have saved := saves ({ s.regraph with store } : Session).graphChanged (archive_emit _ _)
    exact saved.propagateSome (sound_graphChanged_save (hs.rename e)) ..
  | @setAccess _ _ store => exact saves { s with store } rfl
  | @delete id b store e =>
    let edited : Session :=
      { s.regraph with
        store, graph := (Graph.ofStore s.store).removeNode id, parking := s.parking.erase id }
    have noticed : (edited.emit (.blockRemoved id)).graphChanged.archive = s.archive := by
      rw [graphChanged, archive_emit]
      exact archive_emit edited _
    exact (saves _ noticed).revalidate _
  | @duplicate id copy store source e =>
    obtain ⟨b, index, -, inserted⟩ := Store.duplicate_eq_ok (congrArg Prod.fst e)
    exact durable_adopt (s := { s with store, source }) h.accepts (hs.insertAt inserted) ..
  | @move _ _ store => exact saves { s with store } rfl
  | requestUpdate requested => exact h.requested hs requested
  | flushDeferred =>
    let unparked : Session :=
      { s with parking := s.parking.ids.foldl Parking.erase s.parking }
    have durable : unparked.Durable := h.congr rfl rfl
    exact durable.propagate hs ..
  | flushDue =>
    let unparked : Session :=
      { s with parking := (s.parking.dueAt s.now).foldl Parking.erase s.parking }
    have durable : unparked.Durable := h.congr rfl rfl
    exact durable.propagate hs ..
  | @replaceImage id mime bytes b hb hk =>
    let edited : Session := s.modify id fun b => { b with content := some (.binary mime bytes) }
    have noticed : (edited.save.emit (.contentUpdated id)).regraph.Durable := by
      refine (saves edited rfl).congr (archive_emit _ _) ?_
      rw [store_regraph, store_emit]
    exact noticed.propagate (sound_replaced hs ..) ..
  | propagate seeds force => exact h.propagate hs backend seeds force
  | revalidate ids => exact h.revalidate ids
  | advance => exact h.congr rfl rfl
  | rearchive archive => exact absurd rfl (ho archive)

theorem Durable.performAll (h : s.Durable) (hs : s.store.Sound)
    {steps : List (Backend × Operation)} (ho : ∀ p ∈ steps, ∀ archive, p.2 ≠ .rearchive archive) :
    (s.performAll steps).Durable :=
  performAll_induction hs h fun t ht durable p hp =>
    durable.performed ht (perform_performed p.1 t p.2) (ho p hp)

/-- While the archive takes what it is handed, it holds what the blocks are at rest after every
operation, whether it fails or not and whatever the generator answers, and after all of them.  After
loading it does so in any case, if the names in it are apart. -/
theorem archive_keeps_up (h : s.Reachable) (accepts : s.archive.saveFault = none) :
    (s.Archived → ∀ steps : List (Backend × Operation),
      (∀ p ∈ steps, ∀ archive, p.2 ≠ .rearchive archive) → (s.performAll steps).Archived) ∧
    ∀ (backend : Backend) (report : Report), (s.load backend).1 = .ok report →
      (s.archive.saved.map fun b => Name.normalize b.name).Nodup →
        (s.load backend).2.Archived := by
  refine ⟨fun archived steps allowed => ?_, fun backend report loaded names => ?_⟩
  · have durable : s.Durable := ⟨accepts, archived⟩
    exact (durable.performAll h.sound allowed).archived
  · unfold load at loaded ⊢
    cases fault : s.archive.loadFault with
    | some e =>
      rw [fault] at loaded
      cases loaded
    | none =>
      simp only [fault] at loaded ⊢
      cases e : s.store.replaceAll s.archive.saved with
      | error e =>
        rw [e] at loaded
        cases loaded
      | ok store =>
        have durable := durable_load accepts names e backend
        dsimp only
        rw [store_graphChanged]
        exact durable.archived

set_option maxRecDepth 10000 in
/-- The generator refuses to answer, so nothing is computed and nothing saved, and the marks of the
failure are not in the archive; the block deleted before is not there either.  Then the archive is
exchanged, and loading makes up for that. -/
theorem archive_keeps_up_through_refusal :
    let answers : Backend := { answer := fun r => .ok (.text r.input) }
    let refuses : Backend := { answer := fun _ => .error .channelClosed }
    let s := ofTexts [(.generativeText, "a", "x"), (.static, "b", "[a]"), (.static, "c", "[b]")]
    let steps : List (Backend × Operation) := [
      (answers, .command (.requestUpdate ⟨"9e3779b9"⟩ true)),
      (answers, .command (.delete ⟨"1715609d"⟩)),
      (refuses, .propagate [⟨"9e3779b9"⟩] true)]
    let t := s.performAll steps
    let u := t.perform answers (.rearchive
      { saved := [{ id := ⟨"1"⟩, name := "a", kind := .generativeText, data := "y" }] })
    s.Reachable ∧ s.archive.saveFault = none ∧ s.Archived ∧
      t.archive.saved ≠ t.store.blocks ∧ t.Archived ∧
      ¬ u.Archived ∧ (u.load refuses).1 = .ok { failed := [(⟨"1"⟩, .channelClosed)] } ∧
      (u.load refuses).2.Archived := by
  intro answers refuses s steps t u
  have reachable : s.Reachable := reachable_ofTexts _
  have archived : s.Archived := by decide +kernel
  have reached : u.Reachable := .perform (reachable.performAll steps) answers _ trivial trivial
  have loaded : (u.load refuses).1 = .ok { failed := [(⟨"1"⟩, .channelClosed)] } := by
    decide +kernel
  have keeps : t.Archived := by
    refine (archive_keeps_up reachable (by decide +kernel)).1 archived steps ?_
    intro p hp archive e
    simp only [steps, List.mem_cons, List.not_mem_nil, or_false] at hp
    rcases hp with rfl | rfl | rfl <;> cases e
  exact ⟨reachable, by decide +kernel, archived, by decide +kernel, keeps, by decide +kernel,
    loaded, (archive_keeps_up reached (by decide +kernel)).2 refuses _ loaded (by decide +kernel)⟩

end Session
end Workbook
