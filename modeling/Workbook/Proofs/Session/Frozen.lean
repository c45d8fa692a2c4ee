import Workbook.Proofs.Session.Run

/-!
Frozen fields stay.

The access of a block freezes some of its fields.  Only the three edits of fields ask for it, but
names, texts and transforms pass through many other hands: names are made free when blocks come in,
blocks are copied, moved and filled, and batches write to them.  No operation changes a frozen field
of a block that was there before, and none but `setAccess` its access, as long as the block is not
deleted and nothing is loaded (`Performed.retains`).  So a frozen field holds what it held until the
access is changed (`retains_performAll`).
-/

namespace Workbook

namespace Block

/-- What stands in a field. -/
def field (b : Block) : Field → Option String
  | .name => some b.name
  | .data => some b.data
  | .transform => b.transform

/-- The block with another text in a field. -/
def set (field : Field) (value : String) (b : Block) : Block :=
  match field with
  | .name => { b with name := value }
  | .data => { b with data := value }
  | .transform => { b with transform := some value }

theorem id_set (field : Field) (value : String) (b : Block) : (b.set field value).id = b.id := by
  cases field <;> rfl

theorem access_set (field : Field) (value : String) (b : Block) :
    (b.set field value).access = b.access := by
  cases field <;> rfl

theorem field_set_ne {field other : Field} (hne : other ≠ field) (value : String) (b : Block) :
    (b.set field value).field other = b.field other := by
  cases field <;> cases other <;> first | rfl | exact absurd rfl hne

/-- The block `c` has the access of `b`, and `b`'s frozen fields. -/
structure Retains (c b : Block) : Prop where
  access_eq : c.access = b.access
  field_eq : ∀ f ∈ b.access.frozen, c.field f = b.field f

namespace Retains

variable {a b c : Block}

theorem refl (b : Block) : b.Retains b := ⟨rfl, fun _ _ => rfl⟩

theorem trans (hcb : c.Retains b) (hba : b.Retains a) : c.Retains a where
  access_eq := hcb.access_eq.trans hba.access_eq
  field_eq f hf := (hcb.field_eq f (hba.access_eq ▸ hf)).trans (hba.field_eq f hf)

/-- The outline holds the access and all fields. -/
theorem of_outline (h : c.outline = b.outline) : c.Retains b where
  access_eq := by
    show c.outline.access = b.outline.access
    rw [h]
  field_eq f _ := by
    have read : ∀ d : Block, d.field f = d.outline.field f := fun d => by cases f <;> rfl
    rw [read c, read b, h]

theorem set {field : Field} (allowed : field ∉ b.access.frozen) (value : String) :
    (b.set field value).Retains b where
  access_eq := access_set field value b
  field_eq f hf := by
    refine field_set_ne ?_ value b
    rintro rfl
    exact allowed hf

end Retains
end Block

namespace Store

/-- The store still has block `b`, with its access and its frozen fields. -/
def Retains (t : Store) (b : Block) : Prop := ∃ c, t.get? b.id = some c ∧ c.Retains b

variable {s t : Store} {b : Block}

theorem Sound.retains (hs : s.Sound) (hb : b ∈ s.blocks) : s.Retains b := ⟨b, hs.get? hb, .refl b⟩

theorem Retains.alike (h : s.Retains b) (ht : t.Alike s) (hs : s.Sound) : t.Retains b := by
  obtain ⟨c, hc, retains⟩ := h
  obtain ⟨d, hd, same⟩ := ht.symm.get? (ht.sound hs) hc
  exact ⟨d, hd, (Block.Retains.of_outline same).trans retains⟩

theorem retains_modify (hs : s.Sound) (hb : b ∈ s.blocks) {id : BlockId} {f : Block → Block}
    (hf : ∀ c, (f c).id = c.id) (hr : b.id = id → (f b).Retains b) : (s.modify id f).Retains b := by
  by_cases e : b.id = id
  · refine ⟨f b, ?_, hr e⟩
    rw [← e]
    exact get?_modify_self hf (hs.get? hb)
  · refine ⟨b, ?_, .refl b⟩
    rw [get?_modify_ne hf e]
    exact hs.get? hb

/-! ## Edits ask for the access -/

theorem not_frozen_of_editable {id : BlockId} {field : Field} {c : Block}
    (h : s.editable id field = .ok c) : s.get? id = some c ∧ field ∉ c.access.frozen := by
  unfold editable at h
  split at h
  · cases h
  · next b hb =>
    split at h
    · next allowed =>
      cases h
      refine ⟨hb, ?_⟩
      simpa [Access.allows] using allowed
    · cases h

theorem retains_set (hs : s.Sound) (hb : b ∈ s.blocks) {id : BlockId} {field : Field} {c : Block}
    (h : s.editable id field = .ok c) (value : String) :
    (s.modify id (Block.set field value)).Retains b := by
  obtain ⟨hc, allowed⟩ := not_frozen_of_editable h
  refine retains_modify hs hb (Block.id_set field value) fun e => ?_
  have same : b = c := Option.some.inj ((hs.get? hb).symm.trans (e ▸ hc))
  exact .set (same ▸ allowed) value

theorem retains_rename (hs : s.Sound) (hb : b ∈ s.blocks) {id : BlockId} {name applied : String}
    (h : s.rename id name = .ok (applied, t)) : t.Retains b := by
  obtain ⟨-, -, rfl⟩ := rename_eq_ok h
  unfold rename at h
  split at h
  · cases h
  · next c hc => exact retains_set hs hb hc applied

theorem retains_setData (hs : s.Sound) (hb : b ∈ s.blocks) {id : BlockId} {data : String}
    (h : s.setData id data = .ok t) : t.Retains b := by
  obtain ⟨-, rfl⟩ := setData_eq_ok h
  unfold setData at h
  split at h
  · cases h
  · next c hc => exact retains_set hs hb hc data

theorem retains_setTransform (hs : s.Sound) (hb : b ∈ s.blocks) {id : BlockId} {transform : String}
    (h : s.setTransform id transform = .ok t) : t.Retains b := by
  obtain ⟨-, rfl⟩ := setTransform_eq_ok h
  unfold setTransform at h
  split at h
  · cases h
  · next c hc => exact retains_set hs hb hc transform

/-- A block that comes in leaves those that are there alone. -/
theorem retains_insertAt (hs : s.Sound) (hb : b ∈ s.blocks) {source : IdSource} {index : Nat}
    {c : Block} {id : BlockId} (h : (s.insertAt source index c).1 = .ok (id, t)) : t.Retains b :=
  (hs.insertAt h).retains ((perm_insertAt h).mem_iff.mpr (List.mem_cons_of_mem _ hb))

theorem retains_delete (hs : s.Sound) (hb : b ∈ s.blocks) {id : BlockId} {c : Block}
    (h : s.delete id = .ok (c, t)) (hne : b.id ≠ id) : t.Retains b := by
  obtain ⟨hid, perm, -⟩ := perm_delete hs h
  have mem := (perm.mem_iff (a := b)).mpr hb
  refine (hs.delete h).retains ((List.mem_cons.mp mem).resolve_left ?_)
  rintro rfl
  exact hne hid

end Store

/-- The operation does not take the place of block `id`, nor give it another access. -/
structure Operation.Leaves (o : Operation) (id : BlockId) : Prop where
  not_load : o ≠ .command .load
  not_delete : o ≠ .command (.delete id)
  not_setAccess : ∀ access, o ≠ .command (.setAccess id access)

namespace Session

open Store

variable {backend : Backend} {s t : Session} {b : Block}

/-! ## One operation -/

theorem retains_adopt (hs : s.store.Sound) (h : s.store.Retains b) (backend : Backend)
    (id : BlockId) (first : List BlockId) : (s.adopt backend id first).store.Retains b :=
  h.alike (alike_adopt hs backend id first) hs

theorem Performed.retains {o : Operation} (h : s.Performed backend o t) (hs : s.store.Sound)
    (hb : b ∈ s.store.blocks) (ho : o.Leaves b.id) : t.store.Retains b := by
  have kept : s.store.Retains b := hs.retains hb
  cases h with
  | unchanged => exact kept
  | load => exact absurd rfl ho.not_load
  | create h =>
    have e := congrArg Prod.fst h
    exact retains_adopt (s := { s with store := _, source := _ }) (Sound.insertAt hs e)
      (retains_insertAt hs hb e) ..
  | @importImage _ mime bytes id store _ h =>
    have e := congrArg Prod.fst h
    have retains : store.Retains b := retains_insertAt hs hb e
    have alike : (store.modify id fun b => { b with content := some (.binary mime bytes) }).Alike
        store := alike_modify fun _ => rfl
    exact retains_adopt (alike.sound (hs.insertAt e)) (retains.alike alike (hs.insertAt e)) ..
  | @editData _ _ store _ h ht =>
    have sound := sound_graphChanged_save (s := { s with store }) (hs.setData h)
    refine Retains.alike ?_ (ht.alike sound) sound
    rw [store_graphChanged_save]
    exact retains_setData hs hb h
  | @editTransform _ _ store _ h ht =>
    have sound := sound_save (s := { s with store }) (hs.setTransform h)
    refine Retains.alike ?_ (ht.alike sound) sound
    rw [store_save]
    exact retains_setTransform hs hb h
  | @rename id name applied store h =>
    have sound : ({ s.regraph with store } : Session).graphChanged.save.store.Sound :=
      sound_graphChanged_save (hs.rename h)
    refine Retains.alike ?_ (alike_propagateSome sound ..) sound
    rw [store_graphChanged_save]
    exact retains_rename hs hb h
  | @setAccess id access store h =>
    rw [store_save]
    show store.Retains b
    rw [(update_eq_ok h).2]
    refine retains_modify hs hb (fun _ => rfl) fun e => ?_
    exact absurd (congrArg (Operation.command <| Command.setAccess · access) e.symm)
      (ho.not_setAccess access)
  | @delete id c store h =>
    have hne : b.id ≠ id := by
      rintro rfl
      exact ho.not_delete rfl
    refine Retains.alike ?_ (alike_revalidate _ _) ?_
    · rw [store_graphChanged_save, store_emit]
      exact retains_delete hs hb h hne
    · rw [store_graphChanged_save, store_emit]
      exact hs.delete h
  | duplicate h =>
    obtain ⟨c, index, -, e⟩ := duplicate_eq_ok (congrArg Prod.fst h)
    exact retains_adopt (s := { s with store := _, source := _ }) (hs.insertAt e)
      (retains_insertAt hs hb e) ..
  | move h =>
    rw [store_save]
    exact (hs.moveTo h).retains ((perm_moveTo hs h).1.mem_iff.mpr hb)
  | requestUpdate ht => exact kept.alike (ht.alike hs) hs
  | flushDeferred =>
    refine kept.alike ?_ hs
    refine alike_propagate ?_ ..
    exact hs
  | flushDue =>
    refine kept.alike ?_ hs
    refine alike_propagate ?_ ..
    exact hs
  | @replaceImage id mime bytes c hc hk =>
    have alike : (s.store.modify id fun b => { b with content := some (.binary mime bytes) }).Alike
        s.store := alike_modify fun _ => rfl
    refine Retains.alike ?_ (alike_propagate (sound_replaced hs id mime bytes) ..)
      (sound_replaced hs id mime bytes)
    rw [store_regraph, store_emit, store_save]
    exact kept.alike alike hs
  | propagate seeds force => exact kept.alike (alike_propagate hs ..) hs
  | revalidate ids => exact kept.alike (alike_revalidate s ids) hs
  | advance => exact kept
  | rearchive => exact kept

/-- Giving a block another access changes none of its fields. -/
theorem Performed.field_setAccess {access : Access}
    (h : s.Performed backend (.command (.setAccess b.id access)) t) (hs : s.store.Sound)
    (hb : b ∈ s.store.blocks) :
    ∃ c, t.store.get? b.id = some c ∧ ∀ f, c.field f = b.field f := by
  cases h with
  | unchanged => exact ⟨b, hs.get? hb, fun _ => rfl⟩
  | @setAccess _ _ store h =>
    refine ⟨{ b with access }, ?_, fun f => by cases f <;> rfl⟩
    rw [store_save]
    show store.get? b.id = _
    rw [(update_eq_ok h).2]
    exact get?_modify_self (fun _ => rfl) (hs.get? hb)

/-- Whatever is done, but for loading and for deleting the block, a block keeps the fields that its
access freezes; and it keeps its access unless that is what is done. -/
theorem keeps_frozen (h : s.Reachable) (backend : Backend) {o : Operation}
    (hb : b ∈ s.store.blocks) (hl : o ≠ .command .load) (hd : o ≠ .command (.delete b.id)) :
    ∃ c, (s.perform backend o).store.get? b.id = some c ∧
      (∀ f ∈ b.access.frozen, c.field f = b.field f) ∧
      ((∀ access, o ≠ .command (.setAccess b.id access)) → c.access = b.access) := by
  have performed := perform_performed backend s o
  by_cases ha : ∃ access, o = .command (.setAccess b.id access)
  · obtain ⟨access, rfl⟩ := ha
    obtain ⟨c, hc, fields⟩ := performed.field_setAccess h.sound hb
    exact ⟨c, hc, fun f _ => fields f, fun others => absurd rfl (others access)⟩
  · have leaves : o.Leaves b.id := ⟨hl, hd, fun access e => ha ⟨access, e⟩⟩
    obtain ⟨c, hc, retains⟩ := performed.retains h.sound hb leaves
    exact ⟨c, hc, retains.field_eq, fun _ => retains.access_eq⟩

/-- A block of which only the text may be edited. -/
def guarded : Session :=
  ofBlocks [{ id := ⟨"1"⟩, name := "a", kind := .generativeText, data := "x",
              transform := some "y", access := .entry }]

/-- An edit of the text leaves the rest of the block. -/
theorem keeps_frozen_guarded :
    let backend : Backend := { answer := fun r => .ok (.text r.input) }
    ∃ b ∈ guarded.store.blocks, b.access.frozen = [.name, .transform] ∧
      ∃ c, (guarded.perform backend (.command (.editData b.id "z"))).store.get? b.id = some c ∧
        (∀ f ∈ b.access.frozen, c.field f = b.field f) ∧ c.access = b.access := by
  intro backend
  have block : ∃ b ∈ guarded.store.blocks, b.access.frozen = [.name, .transform] := by
    decide +kernel
  obtain ⟨b, hb, frozen⟩ := block
  have reachable : guarded.Reachable := reachable_ofBlocks _
  obtain ⟨c, hc, fields, access⟩ :=
    keeps_frozen reachable backend (o := .command (.editData b.id "z")) hb nofun nofun
  exact ⟨b, hb, frozen, c, hc, fields, access nofun⟩

/-! ## Many operations -/

/-- A frozen field holds what it held until the access is changed. -/
theorem retains_performAll (h : s.Reachable) (hb : b ∈ s.store.blocks)
    {steps : List (Backend × Operation)} (ho : ∀ p ∈ steps, p.2.Leaves b.id) :
    (s.performAll steps).store.Retains b := by
  refine performAll_induction (motive := fun t => t.store.Retains b) h.sound (h.sound.retains hb)
    fun t ht kept p hp => ?_
  obtain ⟨c, hc, retains⟩ := kept
  obtain ⟨mem, same⟩ := mem_of_get? hc
  have leaves : p.2.Leaves c.id := same ▸ ho p hp
  obtain ⟨d, hd, retains'⟩ := (perform_performed p.1 t p.2).retains ht mem leaves
  exact ⟨d, same ▸ hd, retains'.trans retains⟩

end Session
end Workbook
