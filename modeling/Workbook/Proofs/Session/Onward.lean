import Workbook.Proofs.Batch.Refusal

/-!
How time goes on.

A block bears the time at which the generator was last asked about it (`Store.stamp?`).  `Onward`
says of two sessions that the one has come from the other in the course of time: the clock was not
set back, the journal goes on, and a block bears the time that it bore, or one at which the journal
says it was asked about since.  Batches are of this kind (`Onward.propagate`), and so is every
operation as far as the blocks go that are there after it (`Performed.onward`), but for loading,
which takes the times from the archive.

What an operation does apart from its batch is `Silent`: the generator is asked nothing.  That an
operation is a silent part and then a batch, if any, is said once (`Performed.byBatch`), and what
holds of both holds of every operation.
-/

namespace Workbook

/-- The time that the block with an id bears. -/
def Store.stamp? (s : Store) (id : BlockId) : Option Nat := (s.get? id).bind (·.requested)

namespace Store

variable {s t : Store} {id x : BlockId}

theorem stamp?_eq_some_iff (h : s.Sound) {time : Nat} :
    s.stamp? id = some time ↔ ∃ b ∈ s.blocks, b.id = id ∧ b.requested = some time := by
  simp only [stamp?, Option.bind_eq_some_iff, get?_eq_some_iff h, and_assoc]

theorem stamp?_modify {f : Block → Block} (hi : ∀ b, (f b).id = b.id)
    (hr : ∀ b, (f b).requested = b.requested) : (s.modify x f).stamp? id = s.stamp? id := by
  rw [stamp?, get?_modify hi, stamp?]
  cases s.get? id with
  | none => rfl
  | some b =>
    show (if b.id = x then f b else b).requested = b.requested
    split
    · exact hr b
    · rfl

theorem generates_modify {f : Block → Block} (hi : ∀ b, (f b).id = b.id)
    (hk : ∀ b, (f b).kind = b.kind) : (s.modify x f).generates id = s.generates id := by
  rw [generates, get?_modify hi, generates]
  cases s.get? id with
  | none => rfl
  | some b =>
    show (if b.id = x then f b else b).kind.isGenerative = b.kind.isGenerative
    split
    · rw [hk b]
    · rfl

end Store

namespace Session

/-- The generator was asked about a block at a time between the sessions `s` and `t`. -/
structure AskedSince (t s : Session) (id : BlockId) (time : Nat) : Prop where
  after : s.now ≤ time
  before : time ≤ t.now
  noted : ∃ new, t.journal = s.journal ++ new ∧ ∃ r, r.id = id ∧ .asked r time ∈ new

/-- The session `t` has come from `s` in the course of time, as far as a block goes. -/
structure Onward (id : BlockId) (t s : Session) : Prop where
  settings_eq : t.settings = s.settings
  now_le : s.now ≤ t.now
  journal_prefix : s.journal <+: t.journal
  generates : s.store.generates id = true → t.store.generates id = true
  stamp : t.store.stamp? id = s.store.stamp? id ∨
    ∃ time, t.AskedSince s id time ∧ t.store.stamp? id = some time

variable {s t u : Session} {id : BlockId}

namespace AskedSince

variable {time : Nat}

theorem later (h : t.AskedSince s id time) (now : t.now ≤ u.now)
    (journal : t.journal <+: u.journal) : u.AskedSince s id time where
  after := h.after
  before := Nat.le_trans h.before now
  noted := by
    obtain ⟨new, e, r, hid, mem⟩ := h.noted
    obtain ⟨more, e'⟩ := journal
    exact ⟨new ++ more, by rw [← e', e, List.append_assoc], r, hid, List.mem_append_left _ mem⟩

theorem earlier (h : u.AskedSince t id time) (now : s.now ≤ t.now)
    (journal : s.journal <+: t.journal) : u.AskedSince s id time where
  after := Nat.le_trans now h.after
  before := h.before
  noted := by
    obtain ⟨more, e, r, hid, mem⟩ := h.noted
    obtain ⟨new, e'⟩ := journal
    exact ⟨new ++ more, by rw [e, ← e', List.append_assoc], r, hid, List.mem_append_right _ mem⟩

end AskedSince

namespace Onward

theorem of_get?_eq (settings : t.settings = s.settings) (now : s.now ≤ t.now)
    (journal : s.journal <+: t.journal) (same : t.store.get? id = s.store.get? id) :
    t.Onward id s where
  settings_eq := settings
  now_le := now
  journal_prefix := journal
  generates := by
    rw [Store.generates, Store.generates, same]
    exact fun h => h
  stamp := .inl (by rw [Store.stamp?, same, Store.stamp?])

theorem refl (id : BlockId) (s : Session) : s.Onward id s :=
  .of_get?_eq rfl (Nat.le_refl _) (List.prefix_refl _) rfl

theorem trans (hut : u.Onward id t) (hts : t.Onward id s) : u.Onward id s where
  settings_eq := hut.settings_eq.trans hts.settings_eq
  now_le := Nat.le_trans hts.now_le hut.now_le
  journal_prefix := hts.journal_prefix.trans hut.journal_prefix
  generates := fun h => hut.generates (hts.generates h)
  stamp := by
    rcases hut.stamp with e | ⟨time, asked, e⟩
    · rw [e]
      exact hts.stamp.imp_right fun ⟨time, asked, e'⟩ =>
        ⟨time, asked.later hut.now_le hut.journal_prefix, e'⟩
    · exact .inr ⟨time, asked.earlier hts.now_le hts.journal_prefix, e⟩

/-- A change of blocks that leaves their kinds and times alone. -/
theorem of_modify {x : BlockId} {f : Block → Block} (settings : t.settings = s.settings)
    (now : t.now = s.now) (journal : s.journal <+: t.journal)
    (store : t.store = s.store.modify x f) (hi : ∀ b, (f b).id = b.id)
    (hk : ∀ b, (f b).kind = b.kind) (hr : ∀ b, (f b).requested = b.requested) :
    t.Onward id s where
  settings_eq := settings
  now_le := Nat.le_of_eq now.symm
  journal_prefix := journal
  generates := by
    rw [store, Store.generates_modify hi hk]
    exact fun h => h
  stamp := .inl (by rw [store, Store.stamp?_modify hi hr])

theorem journal (id : BlockId) (s : Session) (new : List Moment) :
    ({ s with journal := s.journal ++ new } : Session).Onward id s :=
  .of_get?_eq rfl (Nat.le_refl _) (List.prefix_append ..) rfl

theorem emit (id : BlockId) (s : Session) (e : Event) : (s.emit e).Onward id s := by
  rw [emit_eq]
  exact .journal id s _

/-! ## Batches -/

theorem fill (id : BlockId) (s : Session) (x : BlockId) (content : Content) (input : String)
    (applied : Option String) : (s.fill x content input applied).Onward id s :=
  .of_modify rfl rfl (List.prefix_append ..) rfl (fun _ => rfl) (fun _ => rfl) fun _ => rfl

theorem refuse (id : BlockId) (s : Session) (x : BlockId) (message : String) :
    (s.refuse x message).Onward id s :=
  .of_modify rfl rfl (List.prefix_append ..) rfl (fun _ => rfl) (fun _ => rfl) fun _ => rfl

theorem await (id : BlockId) (s : Session) (r : Request) : (s.await r).Onward id s := by
  have hi : ∀ b, (Block.awaiting s.now b).id = b.id := fun _ => rfl
  have hk : ∀ b, (Block.awaiting s.now b).kind = b.kind := fun _ => rfl
  have store : (s.await r).store = s.store.modify r.id (.awaiting s.now) := rfl
  refine ⟨rfl, Nat.le_refl _, List.prefix_append .., ?_, ?_⟩
  · rw [store, Store.generates_modify hi hk]
    exact fun h => h
  · rw [store, Store.stamp?, Store.stamp?, Store.get?_modify hi]
    cases hb : s.store.get? id with
    | none => exact .inl rfl
    | some b =>
      have hid := (Store.mem_of_get? hb).2
      rw [Option.map_some, Option.bind_some, Option.bind_some]
      split
      case isTrue same =>
        have noted : Moment.asked r s.now ∈
            s.told (.statusChanged r.id .waiting) ++ [.asked r s.now] :=
          List.mem_append_right _ (List.mem_singleton_self _)
        have asked : (s.await r).AskedSince s id s.now :=
          ⟨Nat.le_refl _, Nat.le_refl _, _, rfl, r, same.symm.trans hid, noted⟩
        exact .inr ⟨s.now, asked, rfl⟩
      case isFalse => exact .inl rfl

end Onward

theorem Taken.onward {force : Bool} {x : BlockId} {turn : Turn} (h : s.Taken force x turn t)
    (id : BlockId) : t.Onward id s := by
  cases h with
  | inert => exact .refl id s
  | current => exact .journal id s _
  | applied => exact (Onward.fill ..).trans (.journal id s _)
  | asked => exact (Onward.await ..).trans (.journal id s _)

end Session

namespace Batch

open Session (Onward)

theorem onward_answered (id : BlockId) (backend : Backend) (b : Batch) (r : Request) :
    (b.answered backend r).Onward id b.session :=
  .of_get?_eq rfl (Nat.le_add_right ..) (List.prefix_append ..) rfl

theorem onward_schedule (id : BlockId) (b : Batch) (x : BlockId) :
    (b.schedule x).session.Onward id b.session := by
  obtain ⟨queue, cycles, e⟩ := exists_schedule b x
  rw [e, noteCycles_eq]
  exact .journal id b.session _

theorem Moves.onward {backend : Backend} {pending pending' : List BlockId} {b b' : Batch}
    (hm : Moves backend pending b pending' b') (id : BlockId) :
    b'.session.Onward id b.session := by
  cases hm with
  | skipped _ ht | askedIsolated ht | askedQueued _ _ ht => exact ht.onward id
  | applied _ ht => exact (onward_schedule id _ _).trans (ht.onward id)
  | filled =>
    exact (onward_schedule id _ _).trans ((Onward.fill ..).trans (onward_answered id ..))
  | refused => exact (Onward.refuse ..).trans (onward_answered id ..)

theorem Stage.onward {backend : Backend} {s : Session} {seeds : List BlockId} {force : Bool}
    {pending : List BlockId} {b : Batch} (h : Stage backend s seeds force pending b)
    (id : BlockId) : b.session.Onward id s := by
  have regraphed : s.regraph.Onward id s :=
    .of_get?_eq rfl (Nat.le_refl _) (List.prefix_refl _) rfl
  induction h with
  | opening =>
    rcases opening_cases s seeds force with ⟨-, e⟩ | ⟨c, more, -, e⟩
    · rw [e]
      exact regraphed
    · rw [e]
      exact (Onward.emit id s.regraph _).trans regraphed
  | move _ hm ih => exact (hm.onward id).trans ih

end Batch

namespace Session

variable {s t u : Session} {id : BlockId}

namespace Onward

theorem save (id : BlockId) (s : Session) : s.save.Onward id s := by
  rcases s.save_cases with e | e <;> rw [e]
  · exact .refl id s
  · refine (Onward.emit ..).trans ?_
    exact .of_get?_eq rfl (Nat.le_refl _) (List.prefix_refl _) rfl

theorem propagate (hs : s.store.Sound) (id : BlockId) (backend : Backend) (seeds : List BlockId)
    (force : Bool) : (s.propagate backend seeds force).2.Onward id s := by
  have batch := (Batch.stage_run hs backend seeds force).onward id
  rcases propagate_cases backend s seeds force with e | e <;> rw [e]
  · exact batch
  · exact (Onward.save ..).trans batch

theorem regraph (id : BlockId) (s : Session) : s.regraph.Onward id s :=
  .of_get?_eq rfl (Nat.le_refl _) (List.prefix_refl _) rfl

/-- A new block bears no time. -/
theorem insert {store : Store} (ht : store.Sound) (hs : s.store.Sound) {b : Block}
    (perm : store.blocks.Perm (b :: s.store.blocks)) (new : b.requested = none)
    (source : IdSource) (id : BlockId) :
    ({ s with store, source } : Session).Onward id s := by
  by_cases same : id = b.id
  · have absent : s.store.get? id = none := by
      rw [Store.get?_eq_none_iff, same]
      exact (List.nodup_cons.mp ((perm.map (·.id)).nodup_iff.mp ht.ids_nodup)).1
    have present : store.get? id = some b :=
      (Store.get?_eq_some_iff ht).mpr ⟨perm.mem_iff.mpr (List.mem_cons_self ..), same.symm⟩
    refine ⟨rfl, Nat.le_refl _, List.prefix_refl _, ?_, .inl ?_⟩
    · rw [Store.generates, absent]
      intro h
      cases h
    · show store.stamp? id = s.store.stamp? id
      rw [Store.stamp?, Store.stamp?, absent, present]
      exact new
  · exact .of_get?_eq rfl (Nat.le_refl _) (List.prefix_refl _)
      (Store.get?_of_perm_cons ht hs perm same)

end Onward

/-! ## Operations and their batches -/

/-- The session `t` has come from `s` in the course of time, and the generator was asked nothing. -/
structure Silent (id : BlockId) (t s : Session) : Prop extends Onward id t s where
  requests_eq : t.requests = s.requests

namespace Silent

theorem trans (hut : u.Silent id t) (hts : t.Silent id s) : u.Silent id s :=
  ⟨hut.toOnward.trans hts.toOnward, hut.requests_eq.trans hts.requests_eq⟩

theorem of_get?_eq (settings : t.settings = s.settings) (now : s.now ≤ t.now)
    (journal : t.journal = s.journal) (same : t.store.get? id = s.store.get? id) :
    t.Silent id s :=
  ⟨.of_get?_eq settings now (journal ▸ List.prefix_refl _) same,
    congrArg (List.filterMap Moment.request?) journal⟩

theorem refl (id : BlockId) (s : Session) : s.Silent id s :=
  ⟨.refl id s, rfl⟩

/-- A change of blocks that leaves their kinds and times alone. -/
theorem of_modify {x : BlockId} {f : Block → Block} (settings : t.settings = s.settings)
    (now : t.now = s.now) (journal : t.journal = s.journal)
    (store : t.store = s.store.modify x f) (hi : ∀ b, (f b).id = b.id)
    (hk : ∀ b, (f b).kind = b.kind) (hr : ∀ b, (f b).requested = b.requested) :
    t.Silent id s :=
  ⟨.of_modify settings now (journal ▸ List.prefix_refl _) store hi hk hr,
    congrArg (List.filterMap Moment.request?) journal⟩

/-- What is parked has no part in this. -/
theorem repark (id : BlockId) (s : Session) (parking : Parking) :
    ({ s with parking } : Session).Silent id s :=
  .of_get?_eq rfl (Nat.le_refl _) rfl rfl

theorem emit (id : BlockId) (s : Session) (e : Event) : (s.emit e).Silent id s :=
  ⟨.emit id s e, requests_emit s e⟩

theorem save (id : BlockId) (s : Session) : s.save.Silent id s :=
  ⟨.save id s, requests_save s⟩

theorem regraph (id : BlockId) (s : Session) : s.regraph.Silent id s :=
  ⟨.regraph id s, rfl⟩

theorem graphChanged_save (id : BlockId) (s : Session) : s.graphChanged.save.Silent id s :=
  (Silent.save id s.graphChanged).trans ((Silent.emit id s.regraph _).trans (.regraph id s))

/-- What comes before the request of an edit. -/
theorem setData {store : Store} {x : BlockId} {data : String}
    (h : s.store.setData x data = .ok store) (id : BlockId) :
    ({ s with store } : Session).graphChanged.save.Silent id s := by
  obtain ⟨-, e⟩ := Store.setData_eq_ok h
  have changed : ({ s with store } : Session).Silent id s :=
    .of_modify rfl rfl rfl e (fun _ => rfl) (fun _ => rfl) fun _ => rfl
  exact (Silent.graphChanged_save ..).trans changed

theorem setTransform {store : Store} {x : BlockId} {transform : String}
    (h : s.store.setTransform x transform = .ok store) (id : BlockId) :
    ({ s with store } : Session).save.Silent id s := by
  obtain ⟨-, e⟩ := Store.setTransform_eq_ok h
  have changed : ({ s with store } : Session).Silent id s :=
    .of_modify rfl rfl rfl e (fun _ => rfl) (fun _ => rfl) fun _ => rfl
  exact (Silent.save ..).trans changed

theorem fill (id : BlockId) (s : Session) (x : BlockId) (content : Content) (input : String)
    (applied : Option String) : (s.fill x content input applied).Silent id s :=
  ⟨.fill id s x content input applied, requests_fill s x content input applied⟩

theorem refuse (id : BlockId) (s : Session) (x : BlockId) (message : String) :
    (s.refuse x message).Silent id s :=
  ⟨.refuse id s x message, requests_refuse s x message⟩

theorem revalidate (id : BlockId) (s : Session) (ids : List BlockId) :
    (s.revalidate ids).2.Silent id s := by
  rw [revalidate_eq]
  induction ids generalizing s with
  | nil => exact .refl id s
  | cons x ids ih =>
    refine (ih (s.recheck x)).trans ?_
    rcases s.recheck_cases x with e | e | ⟨message, e⟩ <;> rw [e]
    · exact .refl id s
    · exact .regraph id s
    · exact (Silent.refuse id s.regraph x message).trans (.regraph id s)

end Silent

/-- The session `t` has come from `s` and the generator was asked nothing, or it was by a batch
with which this ended. -/
inductive ByBatch (backend : Backend) (id : BlockId) (s : Session) : Session → Prop
  | silent {t : Session} (h : t.Silent id s) : ByBatch backend id s t
  | batch {u : Session} (h : u.Silent id s) (hu : u.store.Sound) (seeds : List BlockId)
    (force : Bool) : ByBatch backend id s (u.propagate backend seeds force).2

namespace ByBatch

variable {backend : Backend}

theorem onward (h : ByBatch backend id s t) : t.Onward id s := by
  cases h with
  | silent h => exact h.toOnward
  | batch h hu seeds force => exact (Onward.propagate hu ..).trans h.toOnward

theorem propagateSome (h : u.Silent id s) (hu : u.store.Sound) (ids : List BlockId) :
    ByBatch backend id s (u.propagateSome backend ids) := by
  unfold Session.propagateSome
  split
  · exact .silent h
  · exact .batch h hu _ false

theorem adopt (h : u.Silent id s) (hu : u.store.Sound) (x : BlockId) (first : List BlockId) :
    ByBatch backend id s (u.adopt backend x first) := by
  exact .propagateSome ((Silent.graphChanged_save id u).trans h) (sound_graphChanged_save hu) _

theorem unparked (h : u.Silent id s) (hu : u.store.Sound) (parking : Parking)
    (seeds : List BlockId) (force : Bool) :
    ByBatch backend id s (({ u with parking } : Session).propagate backend seeds force).2 :=
  .batch ((Silent.repark id u parking).trans h) hu seeds force

theorem requested {x : BlockId} {immediate : Bool} (h : u.Silent id s) (hu : u.store.Sound)
    (hr : u.Requested backend x immediate t) : ByBatch backend id s t := by
  cases hr with
  | parked => exact .silent ((Silent.repark id u _).trans h)
  | computed => exact .unparked h hu _ [x] false

end ByBatch

/-- An operation asks the generator by its batch, if at all, as far as a block goes that is there
after it.  Only loading replaces the blocks first. -/
theorem Performed.byBatch {backend : Backend} {o : Operation} (hp : s.Performed backend o t)
    (hs : s.store.Sound) (hx : id ∈ t.store.ids) :
    ByBatch backend id s t ∨ ∃ store, o = .command .load ∧
      s.store.replaceAll s.archive.saved = .ok store ∧ t.parking = {} ∧
        ByBatch backend id { s with store, parking := {} } t := by
  have here : s.Silent id s := .refl id s
  cases hp with
  | unchanged => exact .inl (.silent (.of_get?_eq rfl (Nat.le_refl _) rfl rfl))
  | @load store hl =>
    let loaded : Session := { s with store, parking := {} }
    have sound : loaded.graphChanged.store.Sound := sound_loaded hl
    refine .inr ⟨store, rfl, hl, ?_, ?_⟩
    · rw [parking_propagate sound, parking_graphChanged]
    · exact .batch ((Silent.emit id loaded.regraph _).trans (.regraph id loaded)) sound _ true
  | @create kind name data transform x store source hc =>
    left
    have hi := congrArg Prod.fst hc
    have sound : store.Sound := hs.insertAt hi
    let created : Session := { s with store, source }
    have added : created.Silent id s :=
      ⟨.insert sound hs (Store.perm_insertAt hi) rfl source id, rfl⟩
    exact .adopt added sound x _
  | @importImage name mime bytes x store source hc =>
    left
    have hi := congrArg Prod.fst hc
    have sound : store.Sound := hs.insertAt hi
    let created : Session := { s with store, source }
    have added : created.Silent id s :=
      ⟨.insert sound hs (Store.perm_insertAt hi) rfl source id, rfl⟩
    let imported : Session :=
      { s with
        store := store.modify x fun b => { b with content := some (.binary mime bytes) }
        source }
    have changed : imported.Silent id created :=
      .of_modify rfl rfl rfl rfl (fun _ => rfl) (fun _ => rfl) fun _ => rfl
    exact .adopt (changed.trans added) (sound.modify (fun _ => rfl) fun _ => rfl) x []
  | editData hc ht =>
    exact .inl (.requested (.setData hc id) (sound_graphChanged_save (hs.setData hc)) ht)
  | editTransform hc ht =>
    exact .inl (.requested (.setTransform hc id) (sound_save (hs.setTransform hc)) ht)
  | @rename x name applied store hr =>
    left
    obtain ⟨-, -, e⟩ := Store.rename_eq_ok hr
    let renamed : Session := { s.regraph with store }
    have changed : renamed.Silent id s :=
      .of_modify rfl rfl rfl e (fun _ => rfl) (fun _ => rfl) fun _ => rfl
    have sound : renamed.graphChanged.save.store.Sound := sound_graphChanged_save (hs.rename hr)
    exact .propagateSome ((Silent.graphChanged_save id renamed).trans changed) sound _
  | @setAccess x access store hc =>
    left
    obtain ⟨-, e⟩ := Store.update_eq_ok hc
    let edited : Session := { s with store }
    have changed : edited.Silent id s :=
      .of_modify rfl rfl rfl e (fun _ => rfl) (fun _ => rfl) fun _ => rfl
    exact .silent ((Silent.save id edited).trans changed)
  | @delete x b store hd =>
    left
    obtain ⟨rfl, perm, -⟩ := Store.perm_delete hs hd
    let deleted : Session :=
      { s.regraph with
        store, graph := (Graph.ofStore s.store).removeNode b.id
        parking := s.parking.erase b.id }
    let noticed : Session := (deleted.emit (.blockRemoved b.id)).graphChanged.save
    have there : id ∈ store.ids := by
      rw [(alike_revalidate noticed _).ids, store_graphChanged_save, store_emit] at hx
      exact hx
    have other : id ≠ b.id := by
      have nodup := (perm.map (·.id)).nodup_iff.mpr hs.ids_nodup
      rintro rfl
      exact (List.nodup_cons.mp nodup).1 there
    have same : store.get? id = s.store.get? id :=
      (Store.get?_of_perm_cons hs (hs.delete hd) perm.symm other).symm
    have changed : deleted.Silent id s :=
      .of_get?_eq rfl (Nat.le_refl _) rfl same
    have told : noticed.Silent id deleted :=
      (Silent.graphChanged_save ..).trans (.emit id deleted _)
    exact .silent ((Silent.revalidate id noticed _).trans (told.trans changed))
  | @duplicate x copy store source hc =>
    left
    obtain ⟨b, index, -, hi⟩ := Store.duplicate_eq_ok (congrArg Prod.fst hc)
    have sound : store.Sound := hs.insertAt hi
    let copied : Session := { s with store, source }
    have added : copied.Silent id s :=
      ⟨.insert sound hs (Store.perm_insertAt hi) rfl source id, rfl⟩
    exact .adopt added sound copy []
  | @move x index store hm =>
    left
    have perm := (Store.perm_moveTo hs hm).1
    let moved : Session := { s with store }
    have same : store.get? id = s.store.get? id :=
      Store.get?_eq_of_mem_iff (hs.moveTo hm) hs fun _ _ => perm.mem_iff
    have changed : moved.Silent id s :=
      .of_get?_eq rfl (Nat.le_refl _) rfl same
    exact .silent ((Silent.save id moved).trans changed)
  | requestUpdate ht => exact .inl (.requested here hs ht)
  | flushDeferred => exact .inl (.unparked here hs ..)
  | flushDue => exact .inl (.unparked here hs ..)
  | @replaceImage x mime bytes b hb hk =>
    left
    let replaced : Session := s.modify x fun b => { b with content := some (.binary mime bytes) }
    have changed : replaced.Silent id s :=
      .of_modify rfl rfl rfl rfl (fun _ => rfl) (fun _ => rfl) fun _ => rfl
    have noticed : (replaced.save.emit (.contentUpdated x)).regraph.Silent id replaced :=
      (Silent.regraph ..).trans ((Silent.emit ..).trans (.save id replaced))
    exact .batch (noticed.trans changed) (sound_replaced hs ..) _ false
  | propagate seeds force => exact .inl (.batch here hs seeds force)
  | revalidate ids => exact .inl (.silent (.revalidate id s ids))
  | advance ms => exact .inl (.silent (.of_get?_eq rfl (Nat.le_add_right ..) rfl rfl))
  | rearchive => exact .inl (.silent (.of_get?_eq rfl (Nat.le_refl _) rfl rfl))

/-- An operation is a course of time for the blocks that are there after it.  Only loading replaces
the blocks first. -/
theorem Performed.onward {backend : Backend} {o : Operation} (hp : s.Performed backend o t)
    (hs : s.store.Sound) (hx : id ∈ t.store.ids) :
    t.Onward id s ∨ ∃ store, o = .command .load ∧
      s.store.replaceAll s.archive.saved = .ok store ∧ t.parking = {} ∧
        t.Onward id { s with store, parking := {} } := by
  rcases hp.byBatch hs hx with h | ⟨store, isLoad, loads, gone, h⟩
  · exact .inl h.onward
  · exact .inr ⟨store, isLoad, loads, gone, h.onward⟩

end Session
end Workbook
