import Workbook.Proofs.Session.Durable
import Workbook.Proofs.Session.Onward
import Workbook.Proofs.Session.Parked

/-!
When parked requests are due.

A session is `Timely` if a new one comes to it by operations, and no block that was loaded bore a
time that was yet to come.  In such a session the block of a parked request bears a time, and the
request is due a throttle delay after that time at the latest (`Punctual`).

One operation parks one request at most (`Performed.parking_cases`), and that of a block which bears
a time by which the request is put off.  So what puts off a request that stays parked is not the
edits, but that the generator was asked about the block in between (`Timely.due_le`).
-/

namespace Workbook

/-- Operations that may park a request for a block. -/
inductive Operation.Parks (id : BlockId) : Operation → Prop
  | requestUpdate : Parks id (.command (.requestUpdate id false))
  | editData (data : String) : Parks id (.command (.editData id data))
  | editTransform (transform : String) : Parks id (.command (.editTransform id transform))

namespace Session

variable {backend : Backend} {s t u : Session} {o : Operation} {id x : BlockId}

/-! ## What an operation parks -/

theorem parking_propagateSome (hs : s.store.Sound) (backend : Backend) (ids : List BlockId) :
    (s.propagateSome backend ids).parking = s.parking := by
  unfold propagateSome
  split
  · rfl
  · exact parking_propagate hs ..

theorem parking_adopt (hs : s.store.Sound) (backend : Backend) (id : BlockId)
    (first : List BlockId) : (s.adopt backend id first).parking = s.parking := by
  exact (parking_propagateSome (sound_graphChanged_save hs) backend _).trans
    (parking_graphChanged_save s)

theorem parking_recheck (s : Session) (id : BlockId) : (s.recheck id).parking = s.parking := by
  rcases s.recheck_cases id with e | e | ⟨message, e⟩ <;> rw [e] <;> rfl

theorem parking_revalidate (s : Session) (ids : List BlockId) :
    (s.revalidate ids).2.parking = s.parking := by
  rw [revalidate_eq]
  induction ids generalizing s with
  | nil => rfl
  | cons id ids ih => exact (ih (s.recheck id)).trans (parking_recheck s id)

/-- A request was parked in `s` for a block, which bears the time that puts it off. -/
inductive Parked (s : Session) (id : BlockId) (t : Session) : Prop
  | intro (b : Block) (due : Nat) (parking : t.parking = s.parking.insert id due)
    (there : t.store.get? id = some b) (ready : t.readyAt? b = some due) (early : t.now < due)

theorem Requested.parking_cases {immediate : Bool} (h : s.Requested backend id immediate t)
    (hs : s.store.Sound) :
    t.parking.entries.Sublist s.parking.entries ∨ immediate = false ∧ s.Parked id t := by
  cases h with
  | parked b due hb hi hd hn => exact .inr ⟨hi, b, due, rfl, hb, hd, hn⟩
  | computed =>
    left
    rw [parking_propagate (s := { s with parking := s.parking.erase id }) hs]
    exact List.filter_sublist

/-- An operation that takes requests away runs them. -/
theorem sublist_unparked (hs : s.store.Sound) (backend : Backend) (ids : List BlockId) :
    (({ s with parking := ids.foldl Parking.erase s.parking } : Session).propagate backend ids
      false).2.parking.entries.Sublist s.parking.entries := by
  rw [parking_propagate (s := { s with parking := ids.foldl Parking.erase s.parking }) hs,
    Parking.entries_foldl_erase]
  exact List.filter_sublist

theorem Parked.of_parking_eq (h : s.Parked id t) (e : s.parking = u.parking) : u.Parked id t := by
  obtain ⟨b, due, parking, there, ready, early⟩ := h
  exact ⟨b, due, e ▸ parking, there, ready, early⟩

/-- An operation takes parked requests away, or parks one for the block that it is about. -/
theorem Performed.parking_cases (hp : s.Performed backend o t) (hs : s.store.Sound) :
    t.parking.entries.Sublist s.parking.entries ∨ ∃ id, o.Parks id ∧ s.Parked id t := by
  have same : ∀ {u : Session}, u.parking = s.parking →
      u.parking.entries.Sublist s.parking.entries ∨ ∃ id, o.Parks id ∧ s.Parked id u := by
    intro u e
    rw [e]
    exact .inl (List.Sublist.refl _)
  cases hp with
  | unchanged => exact same rfl
  | @load store hl =>
    left
    rw [parking_propagate (sound_loaded hl), parking_graphChanged]
    exact List.nil_sublist _
  | @create kind name data transform x store source hc =>
    have sound : store.Sound := hs.insertAt (congrArg Prod.fst hc)
    exact same (parking_adopt (s := { s with store, source }) sound ..)
  | @importImage name mime bytes x store source hc =>
    have sound : store.Sound := hs.insertAt (congrArg Prod.fst hc)
    let store := store.modify x fun b => { b with content := some (.binary mime bytes) }
    exact same (parking_adopt (s := { s with store, source })
      (sound.modify (fun _ => rfl) fun _ => rfl) ..)
  | @editData x data store _ hc ht =>
    let edited : Session := { s with store }
    have kept : edited.graphChanged.save.parking = s.parking := parking_graphChanged_save edited
    rw [← kept]
    exact (ht.parking_cases (sound_graphChanged_save (hs.setData hc))).imp_right fun parked =>
      ⟨x, .editData data, parked.2.of_parking_eq kept⟩
  | @editTransform x transform store _ hc ht =>
    let edited : Session := { s with store }
    have kept : edited.save.parking = s.parking := parking_save edited
    rw [← kept]
    exact (ht.parking_cases (sound_save (hs.setTransform hc))).imp_right fun parked =>
      ⟨x, .editTransform transform, parked.2.of_parking_eq kept⟩
  | @rename x name applied store hr =>
    let renamed : Session := { s.regraph with store }
    have sound : renamed.graphChanged.save.store.Sound :=
      sound_graphChanged_save (hs.rename hr)
    exact same ((parking_propagateSome sound ..).trans (parking_graphChanged_save renamed))
  | @setAccess _ _ store => exact same (parking_save { s with store })
  | @delete x b store hd =>
    left
    rw [parking_revalidate, parking_graphChanged_save, parking_emit]
    exact List.filter_sublist
  | @duplicate x copy store source hc =>
    obtain ⟨b, index, -, hi⟩ := Store.duplicate_eq_ok (congrArg Prod.fst hc)
    exact same (parking_adopt (s := { s with store, source }) (hs.insertAt hi) ..)
  | @move _ _ store => exact same (parking_save { s with store })
  | @requestUpdate x immediate _ ht =>
    refine (ht.parking_cases hs).imp_right fun parked => ?_
    obtain ⟨rfl, parked⟩ := parked
    exact ⟨x, .requestUpdate, parked⟩
  | flushDeferred => exact .inl (sublist_unparked hs ..)
  | flushDue => exact .inl (sublist_unparked hs ..)
  | @replaceImage x mime bytes b hb hk =>
    let replaced : Session := s.modify x fun b => { b with content := some (.binary mime bytes) }
    refine same ((parking_propagate (sound_replaced hs ..) ..).trans ?_)
    rw [parking_regraph, parking_emit, parking_save]
    rfl
  | propagate seeds force => exact same (parking_propagate hs ..)
  | revalidate ids => exact same (parking_revalidate s ids)
  | advance => exact same rfl
  | rearchive => exact same rfl

theorem Performed.ascends (hp : s.Performed backend o t) (hs : s.store.Sound)
    (h : s.parking.Ascends) : t.parking.Ascends := by
  rcases hp.parking_cases hs with sub | ⟨id, -, b, due, e, -⟩
  · exact h.of_sublist sub
  · rw [e]
    exact h.insert id due

theorem Reachable.ascends (h : s.Reachable) : s.parking.Ascends := by
  induction h with
  | start => exact List.Pairwise.nil
  | @perform s h backend o _ _ ih =>
    exact (perform_performed backend s o).ascends (ReachedBy.reachable h).sound ih

/-- A request that is parked after an operation was parked before it, or the operation parked it
because of the time that its block bears. -/
theorem Performed.mem_entries (hp : s.Performed backend o t) (hs : s.store.Sound) {due : Nat}
    (he : (x, due) ∈ t.parking.entries) :
    (x, due) ∈ s.parking.entries ∨
      o.Parks x ∧ ∃ b, t.store.get? x = some b ∧ t.readyAt? b = some due := by
  rcases hp.parking_cases hs with sub | ⟨id, parks, b, due', parking, there, ready, -⟩
  · exact .inl (sub.subset he)
  · rw [parking] at he
    rcases Parking.mem_entries_insert he with e | old
    · cases e
      exact .inr ⟨parks, b, there, ready⟩
    · exact .inl old

/-! ## The times that blocks bear -/

/-- If the operation loads blocks, none of them bears a time that is yet to come. -/
def LoadsPast (backend : Backend) (s : Session) (o : Operation) : Prop :=
  o = .command .load → ∀ report, (s.load backend).1 = .ok report →
    ∀ b ∈ s.archive.saved, ∀ time, b.requested = some time → time ≤ s.now

/-- The sessions that a new one comes to by operations that load no times yet to come. -/
inductive Timely : Session → Prop
  | start (settings : Settings) (source : IdSource) (archive : Archive) (watched : Bool) :
    Timely (start settings source archive watched)
  | perform {s : Session} (h : Timely s) (backend : Backend) (o : Operation)
    (past : LoadsPast backend s o) : Timely (s.perform backend o)

theorem Timely.reachable (h : s.Timely) : s.Reachable := by
  induction h with
  | start => exact .start ..
  | perform _ backend o _ ih => exact .perform ih backend o trivial trivial

/-- No block bears a time yet to come, and a parked request is for a generative block that bears a
time.  The request is due a throttle delay later at the latest. -/
structure Punctual (s : Session) : Prop where
  past : ∀ x time, s.store.stamp? x = some time → time ≤ s.now
  parked : ∀ x due, (x, due) ∈ s.parking.entries → s.store.generates x = true ∧
    ∃ time, s.store.stamp? x = some time ∧ due ≤ time + s.settings.throttleDelay

/-- A block that is loaded bears the time that it was saved with. -/
theorem stamp?_replaceAll {store : Store} {blocks : List Block}
    (e : s.store.replaceAll blocks = .ok store) {time : Nat} (h : store.stamp? x = some time) :
    ∃ b ∈ blocks, b.requested = some time := by
  obtain ⟨b, hb, -, stamp⟩ := (Store.stamp?_eq_some_iff (Store.Sound.replaceAll e).1).mp h
  have times : store.blocks.map (·.requested) = blocks.map (·.requested) :=
    Store.map_replaceAll (fun _ _ => rfl) e
  have there : b.requested ∈ blocks.map (·.requested) := times ▸ List.mem_map_of_mem hb
  obtain ⟨c, hc, same⟩ := List.mem_map.mp there
  exact ⟨c, hc, same.trans stamp⟩

theorem readyAt?_eq_some_iff {b : Block} {due : Nat} : s.readyAt? b = some due ↔
    b.kind.isGenerative = true ∧
      ∃ time, b.requested = some time ∧ time + s.settings.throttleDelay = due := by
  unfold readyAt?
  split
  case isTrue generative => simp only [generative, true_and, Option.map_eq_some_iff]
  case isFalse other => simp only [other, false_and, reduceCtorEq]

namespace Punctual

theorem stamp_le (h : s.Punctual) (ho : t.Onward x s) {time : Nat}
    (stamp : t.store.stamp? x = some time) : time ≤ t.now := by
  rcases ho.stamp with same | ⟨time', asked, e⟩
  · exact Nat.le_trans (h.past x time (same ▸ stamp)) ho.now_le
  · rw [e] at stamp
    cases stamp
    exact asked.before

/-- A request that was parked keeps its bound, for the time that the block bears goes forward. -/
theorem due_le (h : s.Punctual) (ho : t.Onward x s) {due : Nat}
    (he : (x, due) ∈ s.parking.entries) : t.store.generates x = true ∧
      ∃ time, t.store.stamp? x = some time ∧ due ≤ time + t.settings.throttleDelay := by
  obtain ⟨generates, time, stamp, le⟩ := h.parked x due he
  refine ⟨ho.generates generates, ?_⟩
  rw [ho.settings_eq]
  rcases ho.stamp with same | ⟨time', asked, e⟩
  · exact ⟨time, same.trans stamp, le⟩
  · have later := Nat.le_trans (h.past x time stamp) asked.after
    exact ⟨time', e, Nat.le_trans le (Nat.add_le_add_right later _)⟩

theorem performed (h : s.Punctual) (hs : s.store.Sound) (known : s.ParksKnown)
    (hp : s.Performed backend o t)
    (past : o = .command .load → ∀ b ∈ s.archive.saved, ∀ time, b.requested = some time →
      time ≤ s.now) : t.Punctual where
  past := by
    intro x time stamp
    have there : x ∈ t.store.ids := by
      obtain ⟨b, hb, -⟩ := Option.bind_eq_some_iff.mp stamp
      obtain ⟨hmem, rfl⟩ := Store.mem_of_get? hb
      exact Store.mem_ids.mpr ⟨b, hmem, rfl⟩
    rcases hp.onward hs there with ho | ⟨store, isLoad, e, -, ho⟩
    · exact h.stamp_le ho stamp
    · have loaded : ({ s with store, parking := {} } : Session).Punctual := by
        refine ⟨fun y time stamp => ?_, fun y due he => nomatch he⟩
        obtain ⟨b, hb, e⟩ := stamp?_replaceAll e stamp
        exact past isLoad b hb time e
      exact loaded.stamp_le ho stamp
  parked := by
    intro x due he
    have there : x ∈ t.store.ids :=
      hp.parksKnown hs known x (Parking.mem_ids.mpr ⟨(x, due), he, rfl⟩)
    rcases hp.mem_entries hs he with old | ⟨-, b, hb, ready⟩
    · rcases hp.onward hs there with ho | ⟨store, -, -, e, -⟩
      · exact h.due_le ho old
      · rw [e] at he
        exact nomatch he
    · obtain ⟨generative, time, stamp, rfl⟩ := readyAt?_eq_some_iff.mp ready
      refine ⟨?_, time, ?_, Nat.le_refl _⟩
      · rw [Store.generates, hb]
        exact generative
      · rw [Store.stamp?, hb]
        exact stamp

theorem perform (h : s.Punctual) (hs : s.store.Sound) (known : s.ParksKnown)
    (past : LoadsPast backend s o) : (s.perform backend o).Punctual := by
  have performed := perform_performed backend s o
  rcases load_cases backend s with ⟨e, failed⟩ | ⟨-, store, -, report, loaded⟩
  · by_cases isLoad : o = .command .load
    · subst isLoad
      show (s.load backend).2.Punctual
      rw [failed]
      exact h
    · exact h.performed hs known performed fun load => absurd load isLoad
  · exact h.performed hs known performed fun isLoad => past isLoad report (by rw [loaded])

end Punctual

theorem Timely.punctual (h : s.Timely) : s.Punctual := by
  induction h with
  | start =>
    constructor
    · exact fun x time stamp => nomatch stamp
    · exact fun x due he => nomatch he
  | @perform s h backend o past ih =>
    exact ih.perform h.reachable.sound h.reachable.parksKnown past

/-! ## Requests that stay parked -/

/-- Loading takes all requests away. -/
theorem parking_load {report : Report} (h : (s.load backend).1 = .ok report) :
    (s.load backend).2.parking = {} := by
  rcases load_cases backend s with ⟨_, refused⟩ | ⟨-, store, e, report, loads⟩
  · rw [refused] at h
    cases h
  · rw [loads, parking_propagate (sound_loaded e), parking_graphChanged]

/-- While a request stays parked, the block goes through a course of time. -/
theorem onward_performAll (h : s.Reachable) {steps : List (Backend × Operation)}
    (parked : ∀ n, x ∈ (s.performAll (steps.take n)).parking.ids) :
    (s.performAll steps).Onward x s := by
  induction steps generalizing s with
  | nil => exact .refl x s
  | cons step steps ih =>
    have reached : (s.perform step.1 step.2).Reachable := .perform h step.1 step.2 trivial trivial
    have still : x ∈ (s.perform step.1 step.2).parking.ids := parked 1
    refine (ih reached fun n => parked (n + 1)).trans ?_
    rcases (perform_performed step.1 s step.2).onward h.sound (reached.parksKnown x still) with
      ho | ⟨store, -, -, e, -⟩
    · exact ho
    · rw [e] at still
      exact nomatch still

theorem Timely.performAll (h : s.Timely) {steps : List (Backend × Operation)}
    (parked : ∀ n, x ∈ (s.performAll (steps.take n)).parking.ids) :
    (s.performAll steps).Timely := by
  induction steps generalizing s with
  | nil => exact h
  | cons step steps ih =>
    refine ih (h.perform step.1 step.2 fun isLoad report loaded => ?_) fun n => parked (n + 1)
    have still : x ∈ (s.perform step.1 step.2).parking.ids := parked 1
    have gone : (s.perform step.1 step.2).parking = {} := by
      rw [isLoad]
      exact parking_load loaded
    rw [gone] at still
    exact nomatch still

/-- A request that stays parked is due a throttle delay after now at the latest, or after the
generator was asked about its block. -/
theorem Timely.due_le (h : s.Timely) {steps : List (Backend × Operation)}
    (parked : ∀ n, x ∈ (s.performAll (steps.take n)).parking.ids) {due : Nat}
    (he : (x, due) ∈ (s.performAll steps).parking.entries) :
    due ≤ s.now + s.settings.throttleDelay ∨ ∃ time,
      (s.performAll steps).AskedSince s x time ∧ due ≤ time + s.settings.throttleDelay := by
  obtain ⟨-, time, stamp, le⟩ := (h.performAll parked).punctual.parked x due he
  have ho := onward_performAll h.reachable parked
  rw [ho.settings_eq] at le
  rcases ho.stamp with same | ⟨time', asked, e⟩
  · have past := h.punctual.past x time (same ▸ stamp)
    exact .inl (Nat.le_trans le (Nat.add_le_add_right past _))
  · rw [e] at stamp
    cases stamp
    exact .inr ⟨time, asked, le⟩

end Session
end Workbook
