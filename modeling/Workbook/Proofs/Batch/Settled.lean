import Workbook.Proofs.Batch.Steps

/-!
Each move of a batch is about one block, which is not settled.

`Session.Touches` says of two sessions that the one has come from the other by something that
happened to a single block.  Every move is of this kind (`Moves.touches`), and its block is one that
the batch is not done with.  So a block is spared from when it is settled (`spares_steps`), and it
is spared until it is drawn (`Stage.spares`): it keeps its record, and nothing is recorded about it.
-/

namespace Workbook

def Event.about? : Event → Option BlockId
  | .statusChanged id _ => some id
  | .contentUpdated id => some id
  | .blockRemoved id => some id
  | _ => none

/-- The block that an entry of the journal is about, if it is about one. -/
def Moment.about? : Moment → Option BlockId
  | .emitted e => e.about?
  | .resolved id => some id
  | .asked r _ => some r.id
  | .answered r => some r.id

namespace Session

/-- The session `t` has come from `s` by something that happened to block `id` alone. -/
structure Touches (id : BlockId) (t s : Session) : Prop where
  get?_eq : ∀ x, x ≠ id → t.store.get? x = s.store.get? x
  journal_eq : ∃ new, t.journal = s.journal ++ new ∧ ∀ m ∈ new, ∀ x, m.about? = some x → x = id

/-- The session `t` has come from `s` by things that did not happen to block `x`. -/
structure Spares (x : BlockId) (t s : Session) : Prop where
  get?_eq : t.store.get? x = s.store.get? x
  journal_eq : ∃ new, t.journal = s.journal ++ new ∧ ∀ m ∈ new, m.about? ≠ some x

namespace Spares

variable {x : BlockId} {s t u : Session}

theorem of_eq (hs : t.store = s.store) (hj : t.journal = s.journal) : t.Spares x s :=
  ⟨by rw [hs], [], by rw [hj, List.append_nil], fun _ hm => absurd hm List.not_mem_nil⟩

theorem refl (x : BlockId) (s : Session) : s.Spares x s := .of_eq rfl rfl

theorem trans (hut : u.Spares x t) (hts : t.Spares x s) : u.Spares x s where
  get?_eq := hut.get?_eq.trans hts.get?_eq
  journal_eq := by
    obtain ⟨new, e, about⟩ := hts.journal_eq
    obtain ⟨more, e', about'⟩ := hut.journal_eq
    refine ⟨new ++ more, by rw [e', e, List.append_assoc], fun m hm => ?_⟩
    rcases List.mem_append.mp hm with hm | hm
    · exact about m hm
    · exact about' m hm

theorem emit (s : Session) {e : Event} (h : e.about? ≠ some x) : (s.emit e).Spares x s := by
  rw [emit_eq]
  refine ⟨rfl, s.told e, rfl, fun m hm => ?_⟩
  rw [eq_of_mem_told hm]
  exact h

end Spares

theorem Touches.spares {x id : BlockId} {s t : Session} (h : t.Touches id s) (hx : x ≠ id) :
    t.Spares x s where
  get?_eq := h.get?_eq x hx
  journal_eq := by
    obtain ⟨new, e, about⟩ := h.journal_eq
    exact ⟨new, e, fun m hm hm' => hx (about m hm x hm')⟩

namespace Touches

variable {id : BlockId} {s t u : Session}

theorem trans (hut : u.Touches id t) (hts : t.Touches id s) : u.Touches id s where
  get?_eq x hx := (hut.get?_eq x hx).trans (hts.get?_eq x hx)
  journal_eq := by
    obtain ⟨new, e, about⟩ := hts.journal_eq
    obtain ⟨more, e', about'⟩ := hut.journal_eq
    refine ⟨new ++ more, by rw [e', e, List.append_assoc], fun m hm => ?_⟩
    rcases List.mem_append.mp hm with hm | hm
    · exact about m hm
    · exact about' m hm

theorem journal (new : List Moment) (h : ∀ m ∈ new, ∀ x, m.about? = some x → x = id)
    (hs : t.store = s.store) (hj : t.journal = s.journal ++ new) : t.Touches id s :=
  ⟨fun x _ => by rw [hs], new, hj, h⟩

theorem refl (id : BlockId) (s : Session) : s.Touches id s :=
  .journal [] (by simp) rfl (List.append_nil _).symm

theorem about_told {e : Event} (h : ∀ x, e.about? = some x → x = id) :
    ∀ m ∈ s.told e, ∀ x, m.about? = some x → x = id := by
  intro m hm
  rw [eq_of_mem_told hm]
  exact h

theorem resolved (id : BlockId) (s : Session) : (s.record (.resolved id)).Touches id s :=
  .journal [.resolved id] (by simp [Moment.about?]) rfl rfl

theorem fill (s : Session) (id : BlockId) (content : Content) (input : String)
    (applied : Option String) : (s.fill id content input applied).Touches id s where
  get?_eq x hx := Store.get?_modify_ne (fun _ => rfl) hx
  journal_eq := by
    refine ⟨_, rfl, fun m hm => ?_⟩
    rcases List.mem_append.mp hm with hm | hm
    · exact about_told (by simp [Event.about?]) m hm
    · exact about_told (by simp [Event.about?]) m hm

theorem await (s : Session) (r : Request) : (s.await r).Touches r.id s where
  get?_eq x hx := Store.get?_modify_ne (fun _ => rfl) hx
  journal_eq := by
    refine ⟨_, rfl, fun m hm => ?_⟩
    rcases List.mem_append.mp hm with hm | hm
    · exact about_told (by simp [Event.about?]) m hm
    · rw [List.mem_singleton.mp hm]
      simp [Moment.about?]

theorem refuse (s : Session) (id : BlockId) (message : String) :
    (s.refuse id message).Touches id s where
  get?_eq x hx := Store.get?_modify_ne (fun _ => rfl) hx
  journal_eq := ⟨_, rfl, about_told (by simp [Event.about?])⟩

end Touches

theorem Taken.touches {s session : Session} {force : Bool} {id : BlockId} {turn : Turn}
    (h : s.Taken force id turn session) : session.Touches id s := by
  cases h with
  | inert => exact .refl id s
  | current => exact .resolved id s
  | applied => exact (Touches.fill ..).trans (.resolved id s)
  | asked b hb =>
    have hid : (s.store.requestFor b).id = id := (Store.mem_of_get? hb).2
    have awaited := Touches.await (s.record (.resolved id)) (s.store.requestFor b)
    rw [hid] at awaited
    exact awaited.trans (.resolved id s)

end Session

namespace Batch

theorem schedule_touches (b : Batch) (x id : BlockId) :
    (b.schedule x).session.Touches id b.session := by
  obtain ⟨queue, cycles, e⟩ := exists_schedule b x
  rw [e, noteCycles_eq]
  refine .journal (cycles.flatMap fun c => b.session.told (.cycleDetected c.involved)) ?_ rfl rfl
  intro m hm
  obtain ⟨c, -, hm⟩ := List.mem_flatMap.mp hm
  exact Session.Touches.about_told (by simp [Event.about?]) m hm

theorem answered_touches (backend : Backend) (b : Batch) (r : Request) :
    (b.answered backend r).Touches r.id b.session :=
  .journal [.answered r] (by simp [Moment.about?]) rfl rfl

/-- A report to which more was added. -/
structure Extends (after before : Report) : Prop where
  computed : before.computed <+: after.computed
  skipped : before.skipped <+: after.skipped
  failed : before.failed <+: after.failed

theorem Extends.refl (r : Report) : Extends r r :=
  ⟨List.prefix_refl _, List.prefix_refl _, List.prefix_refl _⟩

theorem Extends.trans {r s t : Report} (hts : Extends t s) (hsr : Extends s r) : Extends t r :=
  ⟨hsr.computed.trans hts.computed, hsr.skipped.trans hts.skipped, hsr.failed.trans hts.failed⟩

theorem Extends.mem_settled {r s : Report} (h : Extends s r) {x : BlockId} (hx : x ∈ r.settled) :
    x ∈ s.settled := by
  rw [Report.mem_settled] at hx ⊢
  rcases hx with hx | hx | hx
  · exact .inl (h.computed.subset hx)
  · exact .inr (.inl (h.skipped.subset hx))
  · exact .inr (.inr ((h.failed.map _).subset hx))

theorem extends_schedule (b : Batch) (id : BlockId) :
    Extends (b.schedule id).report b.report := by
  refine ⟨⟨[], ?_⟩, ⟨[], ?_⟩, ⟨[], ?_⟩⟩
  · rw [List.append_nil, computed_schedule]
  · rw [List.append_nil, skipped_schedule]
  · rw [List.append_nil, failed_schedule]

theorem extends_noteSkipped (b : Batch) (id : BlockId) :
    Extends (b.noteSkipped id).report b.report :=
  ⟨List.prefix_refl _, List.prefix_append _ _, List.prefix_refl _⟩

theorem extends_noteComputed (b : Batch) (id : BlockId) :
    Extends (b.noteComputed id).report b.report :=
  ⟨List.prefix_append _ _, List.prefix_refl _, List.prefix_refl _⟩

theorem extends_noteFailed (b : Batch) (id : BlockId) (e : Error) :
    Extends (b.noteFailed id e).report b.report :=
  ⟨List.prefix_refl _, List.prefix_refl _, List.prefix_append _ _⟩

theorem mem_settled_noteSkipped (b : Batch) (id : BlockId) :
    id ∈ (b.noteSkipped id).report.settled :=
  Report.mem_settled.mpr (.inr (.inl (List.mem_append_right _ (List.mem_singleton_self id))))

theorem mem_settled_noteComputed (b : Batch) (id : BlockId) :
    id ∈ (b.noteComputed id).report.settled :=
  Report.mem_settled.mpr (.inl (List.mem_append_right _ (List.mem_singleton_self id)))

theorem mem_settled_noteFailed (b : Batch) (id : BlockId) (e : Error) :
    id ∈ (b.noteFailed id e).report.settled := by
  refine Report.mem_settled.mpr (.inr (.inr (List.mem_map.mpr ⟨(id, e), ?_, rfl⟩)))
  exact List.mem_append_right _ (List.mem_singleton_self _)

theorem Draws.report_eq {pending pending' : List BlockId} {b b' : Batch} {id : BlockId}
    (h : Draws pending b id pending' b') : b'.report = b.report := by
  rw [h.frame]

theorem Closes.report_eq {b b' : Batch} {r : Request} (h : Closes b r b') :
    b'.report = b.report := by
  rw [h.frame]

theorem Places.not_mem_accounted {g : Graph} {id : BlockId} {hand : List BlockId} {b : Batch}
    (h : Places g (id :: hand) b) : id ∉ accounted [] b := by
  intro hid
  have apart := (List.nodup_append.mp h.nodup).2.2
  rw [accounted, List.append_nil] at hid
  exact apart id hid id (List.mem_cons_self ..) rfl

theorem Places.not_mem_settled {g : Graph} {id : BlockId} {hand : List BlockId} {b : Batch}
    (h : Places g (id :: hand) b) : id ∉ b.report.settled :=
  fun hid => h.not_mem_accounted (List.mem_append_left _ (List.mem_append_left _ hid))

/-- A block is drawn once only. -/
theorem Places.not_accounted_of_draws {g : Graph} {pending pending' : List BlockId} {b b' : Batch}
    {id : BlockId} (h : Places g pending b) (hd : Draws pending b id pending' b') :
    id ∉ accounted [] b := by
  have fresh := (h.draw hd).not_mem_accounted
  rw [hd.frame] at fresh
  exact fresh

namespace Moves

variable {backend : Backend} {g : Graph} {pending pending' : List BlockId} {b b' : Batch}

theorem report_extends (hm : Moves backend pending b pending' b') : Extends b'.report b.report := by
  cases hm with
  | skipped hd ht =>
    rw [← hd.report_eq]
    exact extends_noteSkipped ..
  | applied hd ht =>
    rw [← hd.report_eq]
    exact (extends_noteComputed ..).trans (extends_schedule ..)
  | askedIsolated ht => exact .refl _
  | askedQueued hc hq ht => exact .refl _
  | filled hr _ =>
    rw [← hr.report_eq]
    exact (extends_noteComputed ..).trans (extends_schedule ..)
  | refused hr _ =>
    rw [← hr.report_eq]
    exact extends_noteFailed ..

/-- A move is about one block, which is not settled before it. -/
theorem touches (hm : Moves backend pending b pending' b') (h : Places g pending b) :
    ∃ id, b'.session.Touches id b.session ∧ id ∉ b.report.settled ∧
      id ∈ b'.report.settled ++ b'.calls.map (·.id) := by
  cases hm with
  | @skipped _ _ _ _ id _ hd ht =>
    refine ⟨id, ht.touches, hd.report_eq ▸ (h.draw hd).not_mem_settled, ?_⟩
    exact List.mem_append_left _ (mem_settled_noteSkipped _ id)
  | @applied _ _ _ _ id _ hd ht =>
    refine ⟨id, (schedule_touches _ _ _).trans ht.touches,
      hd.report_eq ▸ (h.draw hd).not_mem_settled, ?_⟩
    exact List.mem_append_left _ (mem_settled_noteComputed _ id)
  | @askedIsolated _ _ id _ r ht =>
    refine ⟨id, ht.touches, h.not_mem_settled, ?_⟩
    refine List.mem_append_right _ (List.mem_map.mpr ⟨r, ?_, ht.id_asked⟩)
    exact List.mem_append_left _ (List.mem_append_right _ (List.mem_singleton_self r))
  | @askedQueued _ id rest _ r hc hq ht =>
    refine ⟨id, ht.touches, (h.draw (.queued hc hq)).not_mem_settled, ?_⟩
    refine List.mem_append_right _ (List.mem_map.mpr ⟨r, ?_, ht.id_asked⟩)
    exact List.mem_append_right _ (List.mem_singleton_self r)
  | @filled _ _ r _ hr _ =>
    refine ⟨r.id, ?_, hr.report_eq ▸ (h.close hr).not_mem_settled, ?_⟩
    · exact (schedule_touches _ _ _).trans
        ((Session.Touches.fill ..).trans (answered_touches backend b r))
    · exact List.mem_append_left _ (mem_settled_noteComputed _ r.id)
  | @refused _ _ r e hr _ =>
    refine ⟨r.id, ?_, hr.report_eq ▸ (h.close hr).not_mem_settled, ?_⟩
    · exact (Session.Touches.refuse ..).trans (answered_touches backend b r)
    · exact List.mem_append_left _ (mem_settled_noteFailed _ r.id e)

end Moves

theorem report_extends_steps {s : Session} (hs : s.store.Sound) {backend : Backend}
    {seeds : List BlockId} {force : Bool} {b : Batch} (h : Stage backend s seeds force [] b)
    (n : Nat) : Extends (steps backend n b).report b.report := by
  induction n generalizing b with
  | zero => exact .refl _
  | succ n ih =>
    rcases h.step hs with hm | ⟨-, e⟩
    · exact (ih (h.next hs)).trans hm.report_extends
    · show Extends (steps backend n (b.step backend)).report b.report
      rw [e]
      exact ih h

/-! ## From when a block is settled -/

theorem Moves.spares {backend : Backend} {g : Graph} {pending pending' : List BlockId}
    {b b' : Batch} (hm : Moves backend pending b pending' b') (h : Places g pending b)
    {x : BlockId} (hx : x ∈ b.report.settled) : b'.session.Spares x b.session := by
  obtain ⟨id, touches, hid, -⟩ := hm.touches h
  exact touches.spares fun e => hid (e ▸ hx)

theorem spares_steps {s : Session} (hs : s.store.Sound) {backend : Backend} {seeds : List BlockId}
    {force : Bool} {b : Batch} (h : Stage backend s seeds force [] b) {x : BlockId}
    (hx : x ∈ b.report.settled) (n : Nat) : (steps backend n b).session.Spares x b.session := by
  induction n generalizing b with
  | zero => exact .refl x b.session
  | succ n ih =>
    rcases h.step hs with hm | ⟨-, e⟩
    · have later := ih (h.next hs) (hm.report_extends.mem_settled hx)
      exact later.trans (hm.spares (h.places hs) hx)
    · show (steps backend n (b.step backend)).session.Spares x b.session
      rw [e]
      exact ih h hx

/-! ## Until a block is drawn -/

theorem mem_accounted_nil {b : Batch} {x : BlockId} :
    x ∈ accounted [] b ↔ x ∈ b.report.settled ∨ x ∈ b.calls.map (·.id) := by
  rw [accounted, List.append_nil, List.mem_append]

/-- At the end of a batch all blocks that it has drawn are settled. -/
theorem mem_accounted_run {s : Session} (hs : s.store.Sound) {backend : Backend}
    {seeds : List BlockId} {force : Bool} {x : BlockId} :
    x ∈ accounted [] ((start s seeds force).run backend) ↔
      x ∈ ((start s seeds force).run backend).report.settled := by
  rw [mem_accounted_nil, calls_run hs]
  exact or_iff_left List.not_mem_nil

/-- What a batch has drawn it does not lose. -/
theorem Moves.accounted_subset {backend : Backend} {pending pending' : List BlockId} {b b' : Batch}
    (hm : Moves backend pending b pending' b') {x : BlockId} (hx : x ∈ accounted [] b) :
    x ∈ accounted [] b' := by
  rw [mem_accounted_nil] at hx ⊢
  rcases hx with hx | hx
  · exact .inl (hm.report_extends.mem_settled hx)
  · cases hm with
    | skipped hd ht =>
      rw [hd.frame]
      exact .inr hx
    | applied hd ht =>
      rw [hd.frame, calls, noteComputed, pool_schedule, chain_schedule]
      exact .inr hx
    | askedIsolated ht =>
      rw [calls, List.append_assoc, List.map_append]
      rw [calls, List.map_append] at hx
      rcases List.mem_append.mp hx with hx | hx
      · exact .inr (List.mem_append_left _ hx)
      · rw [List.map_append]
        exact .inr (List.mem_append_right _ (List.mem_append_right _ hx))
    | askedQueued hc hq ht =>
      rw [calls, hc, Option.toList_none, List.append_nil] at hx
      rw [calls, List.map_append]
      exact .inr (List.mem_append_left _ hx)
    | @filled _ _ r _ hr _ =>
      have hx := (hr.calls_perm.map (·.id)).mem_iff.mp hx
      rcases List.mem_cons.mp hx with rfl | hx
      · exact .inl (mem_settled_noteComputed ..)
      · rw [calls, noteComputed, pool_schedule, chain_schedule]
        exact .inr hx
    | @refused _ _ r _ hr _ =>
      have hx := (hr.calls_perm.map (·.id)).mem_iff.mp hx
      rcases List.mem_cons.mp hx with rfl | hx
      · exact .inl (mem_settled_noteFailed ..)
      · exact .inr hx

theorem Stage.spares {backend : Backend} {s : Session} {seeds : List BlockId} {force : Bool}
    {pending : List BlockId} {b : Batch} (hs : s.store.Sound)
    (h : Stage backend s seeds force pending b) {x : BlockId} (hx : x ∉ accounted [] b) :
    b.session.Spares x s := by
  induction h with
  | opening =>
    rcases opening_cases s seeds force with ⟨-, e⟩ | ⟨c, more, -, e⟩
    · rw [e]
      exact .of_eq rfl rfl
    · rw [e]
      have spared : (s.regraph.emit (.cycleDetected (BlockId.sorted c))).Spares x s.regraph :=
        .emit _ (by simp [Event.about?])
      exact spared.trans (.of_eq rfl rfl)
  | move h hm ih =>
    obtain ⟨id, touches, -, hid⟩ := hm.touches (h.places hs)
    have hne : x ≠ id := fun e => hx (mem_accounted_nil.mpr (List.mem_append.mp (e ▸ hid)))
    exact (touches.spares hne).trans (ih fun hx' => hx (hm.accounted_subset hx'))

end Batch
end Workbook
