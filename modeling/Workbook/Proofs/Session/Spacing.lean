import Workbook.Proofs.Batch.Answers
import Workbook.Proofs.Session.Waking

/-!
How far apart the generator is asked about one block.

A block bears the time at which the generator was last asked about it, as long as it stays where it
is and the blocks that are loaded are asked about (`Tracked`).  So an edit that makes the generator
be asked about its block comes a throttle delay after all that was asked about it before.

A parked request is due a throttle delay after all that had been asked about its block when it was
parked.  Nothing puts it off if the generator is asked about the block meanwhile, for other reasons
than edits of the block.  So it comes a throttle delay after all that was asked about its block in
the run before, but for what was asked in steps at which it was parked already, and has stayed so
ever since (`requests_spaced`).  After those it may come too early (`not_all_requests_spaced`).
-/

namespace Workbook

/-- The time at which the generator was asked about a block, if that is what happened. -/
def Moment.askedAt? (id : BlockId) : Moment → Option Nat
  | .asked r time => if r.id = id then some time else none
  | _ => none

namespace Session

/-- The times at which the generator was asked about a block, in order. -/
def askedAt (s : Session) (id : BlockId) : List Nat := s.journal.filterMap (Moment.askedAt? id)

variable {backend : Backend} {s t u : Session} {o : Operation} {id x : BlockId}

theorem length_askedAt (s : Session) (id : BlockId) :
    (s.askedAt id).length = (s.requests.map (·.id)).count id := by
  unfold askedAt requests
  induction s.journal with
  | nil => rfl
  | cons m journal ih =>
    cases m with
    | asked r time =>
      have request : Moment.request? (.asked r time) = some r := rfl
      rw [List.filterMap_cons_some request, List.map_cons, List.count_cons, ← ih]
      by_cases same : r.id = id
      · have noted : Moment.askedAt? id (.asked r time) = some time := if_pos same
        rw [List.filterMap_cons_some noted, List.length_cons, if_pos (beq_iff_eq.mpr same)]
      · have other : Moment.askedAt? id (.asked r time) = none := if_neg same
        rw [List.filterMap_cons_none other, if_neg (mt beq_iff_eq.mp same), Nat.add_zero]
    | emitted | resolved | answered =>
      rw [List.filterMap_cons_none rfl, List.filterMap_cons_none rfl, ih]

/-- In a batch the generator is asked about a block once at most. -/
theorem length_askedAt_propagate_le (hs : s.store.Sound) (backend : Backend)
    (seeds : List BlockId) (force : Bool) (id : BlockId) :
    ((s.propagate backend seeds force).2.askedAt id).length ≤ (s.askedAt id).length + 1 := by
  obtain ⟨new, requests, nodup, -⟩ := Batch.asks_run hs backend seeds force
  rw [length_askedAt, length_askedAt, requests, List.map_append, List.count_append]
  exact Nat.add_le_add_left (List.nodup_iff_count_le_one.mp nodup id) _

/-! ## The time that a block bears -/

/-- The session `t` has come from `s`, and whenever the generator was asked about the block
meanwhile, the block bears that time or a later one. -/
structure Tracked (id : BlockId) (t s : Session) : Prop where
  settings_eq : t.settings = s.settings
  now_le : s.now ≤ t.now
  asked : ∃ new, t.askedAt id = s.askedAt id ++ new ∧ ∀ time ∈ new, s.now ≤ time ∧
    time ≤ t.now ∧ ∃ stamp, t.store.stamp? id = some stamp ∧ time ≤ stamp

/-- Of two sessions, in the later one the block bears the same time, or one that has come since. -/
def StampHolds (id : BlockId) (t s : Session) : Prop :=
  t.store.stamp? id = s.store.stamp? id ∨ ∃ stamp, t.store.stamp? id = some stamp ∧ s.now ≤ stamp

theorem Onward.stampHolds (h : t.Onward id s) : t.StampHolds id s :=
  h.stamp.imp_right fun ⟨time, asked, stamp⟩ => ⟨time, stamp, asked.after⟩

theorem Tracked.trans (hut : u.Tracked id t) (hts : t.Tracked id s) (holds : u.StampHolds id t) :
    u.Tracked id s where
  settings_eq := hut.settings_eq.trans hts.settings_eq
  now_le := Nat.le_trans hts.now_le hut.now_le
  asked := by
    obtain ⟨new, e, within⟩ := hts.asked
    obtain ⟨more, e', within'⟩ := hut.asked
    refine ⟨new ++ more, by rw [e', e, List.append_assoc], fun time h => ?_⟩
    rcases List.mem_append.mp h with h | h
    · obtain ⟨after, before, stamp, bears, le⟩ := within time h
      refine ⟨after, Nat.le_trans before hut.now_le, ?_⟩
      rcases holds with same | ⟨later, bears', le'⟩
      · exact ⟨stamp, same.trans bears, le⟩
      · exact ⟨later, bears', Nat.le_trans before le'⟩
    · obtain ⟨after, rest⟩ := within' time h
      exact ⟨Nat.le_trans hts.now_le after, rest⟩

theorem Tracked.refl (id : BlockId) (s : Session) : s.Tracked id s where
  settings_eq := rfl
  now_le := Nat.le_refl _
  asked := ⟨[], (List.append_nil _).symm, fun _ h => absurd h List.not_mem_nil⟩

namespace Silent

theorem askedAt_eq (h : t.Silent id s) : t.askedAt id = s.askedAt id := by
  obtain ⟨new, journal⟩ := h.journal_prefix
  have unasked : new.filterMap Moment.request? = [] := by
    have requests := h.requests_eq
    rw [Session.requests, ← journal, List.filterMap_append] at requests
    exact List.append_right_eq_self.mp requests
  have untimed : new.filterMap (Moment.askedAt? id) = [] := by
    rw [List.filterMap_eq_nil_iff] at unasked ⊢
    intro m hm
    cases m with
    | asked r time => exact absurd (unasked _ hm) (Option.some_ne_none r)
    | emitted | resolved | answered => rfl
  rw [askedAt, ← journal, List.filterMap_append, untimed, List.append_nil, askedAt]

theorem tracked (h : t.Silent id s) : t.Tracked id s where
  settings_eq := h.settings_eq
  now_le := h.now_le
  asked := ⟨[], by rw [h.askedAt_eq, List.append_nil], fun _ h => absurd h List.not_mem_nil⟩

end Silent

theorem askedAt_await (s : Session) (r : Request) (id : BlockId) :
    (s.await r).askedAt id = s.askedAt id ++ if r.id = id then [s.now] else [] := by
  have untimed : (s.told (.statusChanged r.id .waiting)).filterMap (Moment.askedAt? id) = [] := by
    unfold told
    split <;> rfl
  rw [askedAt, await, List.filterMap_append, List.filterMap_append, untimed, List.nil_append]
  refine congrArg (s.askedAt id ++ ·) ?_
  split
  case isTrue same =>
    have noted : Moment.askedAt? id (.asked r s.now) = some s.now := if_pos same
    rw [List.filterMap_cons_some noted, List.filterMap_nil]
  case isFalse other =>
    have silent : Moment.askedAt? id (.asked r s.now) = none := if_neg other
    rw [List.filterMap_cons_none silent, List.filterMap_nil]

/-- When the generator is asked about a block, this bears the time. -/
theorem tracked_await {r : Request} {b : Block} (hb : s.store.get? r.id = some b) (id : BlockId) :
    (s.await r).Tracked id s where
  settings_eq := rfl
  now_le := Nat.le_refl _
  asked := by
    refine ⟨_, askedAt_await s r id, fun time h => ?_⟩
    split at h
    case isTrue same =>
      obtain rfl := List.mem_singleton.mp h
      refine ⟨Nat.le_refl _, Nat.le_refl _, s.now, ?_, Nat.le_refl _⟩
      have found : (s.await r).store.get? id = some (b.awaiting s.now) := by
        rw [← same]
        exact Store.get?_modify_self (fun _ => rfl) hb
      rw [Store.stamp?, found]
      rfl
    case isFalse => exact absurd h List.not_mem_nil

theorem Taken.tracked {force : Bool} {turn : Turn} (h : s.Taken force x turn t) (id : BlockId) :
    t.Tracked id s := by
  have looked : (s.record (.resolved x)).Silent id s :=
    ⟨.journal id s _, requests_record_resolved s x⟩
  cases h with
  | inert => exact .refl id s
  | current => exact looked.tracked
  | applied => exact ((Silent.fill ..).trans looked).tracked
  | asked b hb =>
    obtain rfl := (Store.mem_of_get? hb).2
    have asked := tracked_await (s := s.record (.resolved b.id)) (r := s.store.requestFor b) hb id
    exact asked.trans looked.tracked (Onward.await id _ _).stampHolds

end Session

namespace Batch

open Session (Onward Silent Tracked)

variable {backend : Backend} {s : Session} {seeds pending pending' : List BlockId} {force : Bool}
  {b b' : Batch}

theorem silent_answered (id : BlockId) (backend : Backend) (b : Batch) (r : Request) :
    (b.answered backend r).Silent id b.session :=
  ⟨onward_answered id backend b r, requests_answered backend b r⟩

theorem silent_schedule (id : BlockId) (b : Batch) (x : BlockId) :
    (b.schedule x).session.Silent id b.session :=
  ⟨onward_schedule id b x, requests_schedule b x⟩

theorem Moves.tracked (hm : Moves backend pending b pending' b') (id : BlockId) :
    b'.session.Tracked id b.session := by
  cases hm with
  | skipped _ ht | askedIsolated ht | askedQueued _ _ ht => exact ht.tracked id
  | @applied _ _ _ drawn x session _ ht =>
    have scheduled := silent_schedule id { drawn with session } x
    exact scheduled.tracked.trans (ht.tracked id) scheduled.stampHolds
  | filled =>
    exact ((silent_schedule id _ _).trans
      ((Silent.fill ..).trans (silent_answered id ..))).tracked
  | refused => exact ((Silent.refuse ..).trans (silent_answered id ..)).tracked

theorem Stage.tracked (h : Stage backend s seeds force pending b) (id : BlockId) :
    b.session.Tracked id s := by
  induction h with
  | opening =>
    rcases opening_cases s seeds force with ⟨-, e⟩ | ⟨c, more, -, e⟩
    · rw [e]
      exact (Silent.regraph id s).tracked
    · rw [e]
      exact ((Silent.emit id s.regraph _).trans (.regraph id s)).tracked
  | move _ hm ih => exact (hm.tracked id).trans ih (hm.onward id).stampHolds

end Batch

namespace Session

variable {backend : Backend} {s t u : Session} {o : Operation} {id x : BlockId}

theorem Tracked.propagate (hs : s.store.Sound) (id : BlockId) (backend : Backend)
    (seeds : List BlockId) (force : Bool) : (s.propagate backend seeds force).2.Tracked id s := by
  have batch := (Batch.stage_run hs backend seeds force).tracked id
  rcases propagate_cases backend s seeds force with e | e <;> rw [e]
  · exact batch
  · have saved := Silent.save id ((Batch.start s seeds force).run backend).session
    exact saved.tracked.trans batch saved.stampHolds

/-- When an operation asks the generator about a block, this bears the time. -/
theorem ByBatch.tracked (h : ByBatch backend id s t) : t.Tracked id s := by
  cases h with
  | silent h => exact h.tracked
  | batch h hu seeds force =>
    exact (Tracked.propagate hu ..).trans h.tracked (Onward.propagate hu ..).stampHolds

/-- An operation asks the generator about a block once at most. -/
theorem ByBatch.asked (h : ByBatch backend id s t) :
    ∃ new, t.askedAt id = s.askedAt id ++ new ∧ new.length ≤ 1 ∧ ∀ time ∈ new, s.now ≤ time := by
  have le : (t.askedAt id).length ≤ (s.askedAt id).length + 1 := by
    cases h with
    | silent h =>
      rw [h.askedAt_eq]
      exact Nat.le_succ _
    | batch h hu seeds force =>
      rw [← h.askedAt_eq]
      exact length_askedAt_propagate_le hu ..
  obtain ⟨new, e, within⟩ := h.tracked.asked
  rw [e, List.length_append] at le
  exact ⟨new, e, Nat.le_of_add_le_add_left le, fun time mem => (within time mem).1⟩

/-! ## Runs in which a block is kept -/

/-- After the operation a block is there, and if blocks were loaded, the generator was asked about
this one. -/
def Keeps (x : BlockId) (backend : Backend) (s : Session) (o : Operation) : Prop :=
  x ∈ (s.perform backend o).store.ids ∧
    (o = .command .load → ∀ report, (s.load backend).1 = .ok report →
      (s.perform backend o).askedAt x ≠ s.askedAt x)

/-- Every operation of a run keeps a block. -/
def KeepsIn (x : BlockId) (s : Session) (steps : List (Backend × Operation)) : Prop :=
  ∀ n (hn : n < steps.length), Keeps x steps[n].1 (s.performAll (steps.take n)) steps[n].2

/-- The times at which the generator was asked about a block in one step of a run. -/
def askedIn (s : Session) (x : BlockId) (steps : List (Backend × Operation)) (n : Nat) : List Nat :=
  ((s.performAll (steps.take (n + 1))).askedAt x).drop
    ((s.performAll (steps.take n)).askedAt x).length

theorem askedAt_perform (hs : s.store.Sound) (backend : Backend) (o : Operation)
    (hx : x ∈ (s.perform backend o).store.ids) :
    ∃ new, (s.perform backend o).askedAt x = s.askedAt x ++ new := by
  rcases (perform_performed backend s o).byBatch hs hx with h | ⟨store, -, -, -, h⟩
  · obtain ⟨new, e, -⟩ := h.asked
    exact ⟨new, e⟩
  · obtain ⟨new, e, -⟩ := h.asked
    exact ⟨new, e⟩

theorem Tracked.perform (h : t.Tracked x s) (ht : t.store.Sound) (keeps : Keeps x backend t o) :
    (t.perform backend o).Tracked x s := by
  rcases (perform_performed backend t o).byBatch ht keeps.1 with hb | ⟨store, isLoad, -, -, hb⟩
  · exact hb.tracked.trans h hb.onward.stampHolds
  -- A block that is loaded bears what the archive says, until the generator is asked about it.
  obtain ⟨settings, forward, new, e, within⟩ := hb.tracked
  rcases load_cases backend t with ⟨_, refused⟩ | ⟨-, _, -, report, loads⟩
  · have same : t.perform backend o = t := by
      rw [isLoad]
      exact congrArg Prod.snd refused
    rw [same]
    exact h
  · have asked := keeps.2 isLoad report (congrArg Prod.fst loads)
    have some_new : new ≠ [] := fun none => asked (by rw [e, none, List.append_nil]; rfl)
    obtain ⟨time, more, rfl⟩ := List.exists_cons_of_ne_nil some_new
    obtain ⟨after, -, stamp, bears, le⟩ := within time (List.mem_cons_self ..)
    have tracked : (t.perform backend o).Tracked x t := ⟨settings, forward, _, e, within⟩
    exact tracked.trans h (.inr ⟨stamp, bears, Nat.le_trans after le⟩)

variable {steps more : List (Backend × Operation)} {n : Nat}

/-- What comes first in a run that keeps a block keeps it too. -/
theorem KeepsIn.left (kept : KeepsIn x s (steps ++ more)) : KeepsIn x s steps := by
  intro n hn
  have keeps := kept n (by rw [List.length_append]; omega)
  rwa [List.getElem_append_left hn, List.take_append_of_le_length (Nat.le_of_lt hn)] at keeps

theorem askedAt_take_succ (h : s.Reachable) (kept : KeepsIn x s steps) (hn : n < steps.length) :
    (s.performAll (steps.take (n + 1))).askedAt x =
      (s.performAll (steps.take n)).askedAt x ++ s.askedIn x steps n := by
  have sound := (h.performAll (steps.take n)).sound
  obtain ⟨new, e⟩ := askedAt_perform sound steps[n].1 steps[n].2 (kept n hn).1
  rw [← performAll_take_succ s hn] at e
  rw [askedIn, e, List.drop_left]

/-- What is asked about a block in a run is what is asked in its steps. -/
theorem askedAt_take (h : s.Reachable) (kept : KeepsIn x s steps) (hn : n ≤ steps.length) :
    (s.performAll (steps.take n)).askedAt x =
      s.askedAt x ++ (List.range n).flatMap (s.askedIn x steps) := by
  induction n with
  | zero => exact (List.append_nil _).symm
  | succ n ih =>
    rw [askedAt_take_succ h kept hn, ih (Nat.le_of_succ_le hn), List.range_succ,
      List.flatMap_append, List.flatMap_singleton, List.append_assoc]

theorem tracked_take (h : s.Reachable) (kept : KeepsIn x s steps) (hn : n ≤ steps.length) :
    (s.performAll (steps.take n)).Tracked x s := by
  induction n with
  | zero => exact .refl x s
  | succ n ih =>
    rw [performAll_take_succ s hn]
    exact (ih (Nat.le_of_succ_le hn)).perform (h.performAll _).sound (kept n hn)

/-- The block bears the time of every step before that asked about it, or a later one. -/
theorem exists_stamp_of_askedIn (h : s.Reachable) (kept : KeepsIn x s steps) {m earlier : Nat}
    (hm : m ≤ steps.length) (hn : n < m) (mem : earlier ∈ s.askedIn x steps n) :
    ∃ stamp, (s.performAll (steps.take m)).store.stamp? x = some stamp ∧ earlier ≤ stamp := by
  obtain ⟨new, e, within⟩ := (tracked_take h kept hm).asked
  rw [askedAt_take h kept hm] at e
  obtain rfl := List.append_cancel_left e
  exact (within earlier (List.mem_flatMap.mpr ⟨n, List.mem_range.mpr hn, mem⟩)).2.2

/-! ## Requests that are parked -/

/-- A request that is parked has been so since some step of the run, if it was not from the
beginning, and is due a throttle delay after all that was asked about its block before that. -/
theorem exists_parked_since (h : s.Reachable) (kept : KeepsIn x s steps) {m due : Nat}
    (hm : m ≤ steps.length) (parked : (x, due) ∈ (s.performAll (steps.take m)).parking.entries) :
    ∃ first ≤ m,
      (∀ k, first ≤ k → k ≤ m → (x, due) ∈ (s.performAll (steps.take k)).parking.entries) ∧
      ∀ n < first, ∀ earlier ∈ s.askedIn x steps n,
        earlier + s.settings.throttleDelay ≤ due := by
  induction m with
  | zero =>
    exact ⟨0, Nat.le_refl _, fun k _ hk => Nat.le_zero.mp hk ▸ parked,
      fun _ hn => absurd hn (Nat.not_lt_zero _)⟩
  | succ m ih =>
    have performed := perform_performed steps[m].1 (s.performAll (steps.take m)) steps[m].2
    rw [← performAll_take_succ s hm] at performed
    rcases performed.mem_entries (h.performAll _).sound parked with before | ⟨-, b, hb, ready⟩
    · obtain ⟨first, hf, stays, spaced⟩ := ih (Nat.le_of_succ_le hm) before
      refine ⟨first, Nat.le_succ_of_le hf, fun k ge le => ?_, spaced⟩
      rcases Nat.le_succ_iff.mp le with le | rfl
      · exact stays k ge le
      · exact parked
    · refine ⟨m + 1, Nat.le_refl _, fun k ge le => Nat.le_antisymm le ge ▸ parked,
        fun n hn earlier mem => ?_⟩
      obtain ⟨-, time, stamp, rfl⟩ := readyAt?_eq_some_iff.mp ready
      obtain ⟨time', bears, le⟩ := exists_stamp_of_askedIn h kept hm hn mem
      rw [Store.stamp?, hb, Option.bind_some, stamp] at bears
      cases bears
      rw [(tracked_take h kept hm).settings_eq]
      exact Nat.add_le_add_right le _

/-! ## Requests that are made -/

/-- Between `u` and `v` the generator was asked nothing, and in `v` the block need not wait. -/
structure Ready (x : BlockId) (v u : Session) : Prop where
  silent : v.Silent x u
  sound : v.store.Sound
  ready : ∃ b, v.store.get? x = some b ∧ ∀ due, v.readyAt? b = some due → due ≤ v.now

/-- An operation that may park a request asks the generator nothing, or it computes a block that
need not wait. -/
theorem Performed.parks_cases (hp : u.Performed backend o t) (parks : o.Parks x)
    (hu : u.store.Sound) :
    t.Silent x u ∨ ∃ v : Session, v.Ready x u ∧ t = (v.propagate backend [x] false).2 := by
  have requested : ∀ v : Session, v.Silent x u → v.store.Sound → v.Requested backend x false t →
      t.Silent x u ∨ ∃ v : Session, v.Ready x u ∧ t = (v.propagate backend [x] false).2 := by
    intro v silent sound hr
    cases hr with
    | parked => exact .inl ((Silent.repark x v _).trans silent)
    | computed b hb waited =>
      have erased := Silent.repark x v (v.parking.erase x)
      exact .inr ⟨_, ⟨erased.trans silent, sound, b, hb, waited.resolve_left Bool.false_ne_true⟩,
        rfl⟩
  have unchanged : ∀ source graph, ({ u with source, graph } : Session).Silent x u :=
    fun _ _ => .of_get?_eq rfl (Nat.le_refl _) rfl rfl
  cases parks with
  | requestUpdate =>
    cases hp with
    | unchanged => exact .inl (unchanged ..)
    | requestUpdate ht => exact requested u (.refl x u) hu ht
  | editData =>
    cases hp with
    | unchanged => exact .inl (unchanged ..)
    | editData hc ht =>
      exact requested _ (.setData hc x) (sound_graphChanged_save (hu.setData hc)) ht
  | editTransform =>
    cases hp with
    | unchanged => exact .inl (unchanged ..)
    | editTransform hc ht =>
      exact requested _ (.setTransform hc x) (sound_save (hu.setTransform hc)) ht

/-- If the generator is asked about a generative block that need not wait, this comes a throttle
delay after all that was asked about it before. -/
theorem Ready.spaced {v : Session} (h : v.Ready x u) (hu : u.Tracked x s)
    (generates : u.store.generates x = true) {old : List Nat}
    (e : u.askedAt x = s.askedAt x ++ old) : ∀ earlier ∈ old,
      earlier + s.settings.throttleDelay ≤ v.now := by
  intro earlier mem
  obtain ⟨silent, -, b, hb, ready⟩ := h
  obtain ⟨settings, -, old', e', within⟩ := silent.tracked.trans hu silent.stampHolds
  have same : old' = old := by
    rw [silent.askedAt_eq, e] at e'
    exact (List.append_cancel_left e').symm
  obtain ⟨-, -, stamp, bears, le⟩ := within earlier (same ▸ mem)
  have generative : b.kind.isGenerative = true := by
    have still := silent.generates generates
    rwa [Store.generates, hb] at still
  have requested : b.requested = some stamp := by
    rwa [Store.stamp?, hb] at bears
  have due := ready _ (readyAt?_eq_some_iff.mpr ⟨generative, stamp, requested, rfl⟩)
  rw [settings] at due
  exact Nat.le_trans (Nat.add_le_add_right le _) due

theorem Performed.byBatch_flushDue (hp : u.Performed backend .flushDue t) (hu : u.store.Sound)
    (x : BlockId) : ByBatch backend x u t := by
  cases hp with
  | unchanged => exact .silent (.of_get?_eq rfl (Nat.le_refl _) rfl rfl)
  | flushDue => exact .unparked (.refl x u) hu ..

/-- In a run that keeps a block, an edit of it that makes the generator be asked about it comes a
throttle delay after all that was asked about it before.  So does a parked request that was due, but
for what was asked in steps at which the request was parked already, and has stayed so ever since.
Either asks about the block once at most. -/
theorem requests_spaced (h : s.Reachable) (kept : KeepsIn x s steps) (backend : Backend) :
    let u := s.performAll steps
    u.askedAt x = s.askedAt x ++ (List.range steps.length).flatMap (s.askedIn x steps) ∧
      (∀ o : Operation, o.Parks x → u.store.generates x = true →
        ∃ new, (u.perform backend o).askedAt x = u.askedAt x ++ new ∧ new.length ≤ 1 ∧
          ∀ time ∈ new, ∀ n < steps.length, ∀ earlier ∈ s.askedIn x steps n,
            earlier + s.settings.throttleDelay ≤ time) ∧
      ∀ due, (x, due) ∈ u.parking.entries → due ≤ u.now →
        ∃ new, (u.perform backend .flushDue).askedAt x = u.askedAt x ++ new ∧ new.length ≤ 1 ∧
          ∀ time ∈ new, ∀ n < steps.length, ∀ earlier ∈ s.askedIn x steps n,
            earlier + s.settings.throttleDelay ≤ time ∨
              ∀ m, n ≤ m → (x, due) ∈ (s.performAll (steps.take m)).parking.entries := by
  intro u
  have whole : s.performAll (steps.take steps.length) = u := by rw [List.take_length]
  have sound : u.store.Sound := (h.performAll steps).sound
  have tracked : u.Tracked x s := whole ▸ tracked_take h kept (Nat.le_refl _)
  have e : u.askedAt x = s.askedAt x ++ (List.range steps.length).flatMap (s.askedIn x steps) :=
    whole ▸ askedAt_take h kept (Nat.le_refl _)
  refine ⟨e, fun o parks generates => ?_, fun due parked late => ?_⟩
  · rcases (perform_performed backend u o).parks_cases parks sound with silent | ⟨v, ready, ends⟩
    · exact ⟨[], by rw [silent.askedAt_eq, List.append_nil], Nat.zero_le _,
        fun _ h => absurd h List.not_mem_nil⟩
    · have spaced := ready.spaced tracked generates e
      have batch : ByBatch backend x v (v.propagate backend [x] false).2 :=
        .batch (.refl x v) ready.sound [x] false
      obtain ⟨new, e', once, after⟩ := batch.asked
      rw [ends, ← ready.silent.askedAt_eq]
      refine ⟨new, e', once, fun time ht n hn earlier he => ?_⟩
      have mem := List.mem_flatMap.mpr ⟨n, List.mem_range.mpr hn, he⟩
      exact Nat.le_trans (spaced earlier mem) (after time ht)
  · obtain ⟨first, -, stays, spaced⟩ :=
      exists_parked_since h kept (Nat.le_refl _) (whole.symm ▸ parked)
    obtain ⟨new, e', once, after⟩ :=
      ((perform_performed backend u .flushDue).byBatch_flushDue sound x).asked
    refine ⟨new, e', once, fun time ht n hn earlier he => ?_⟩
    rcases Nat.lt_or_ge n first with before | since
    · exact .inl (Nat.le_trans (spaced n before earlier he) (Nat.le_trans late (after time ht)))
    · refine .inr fun m ge => ?_
      rcases Nat.le_total m steps.length with hm | hm
      · exact stays m (Nat.le_trans since ge) hm
      · rw [List.take_of_length_le hm]
        exact parked

/-- Two blocks are loaded, and the generator is asked about the one that mentions the other.  That
one is edited and its request is parked.  The other one is edited, so the generator is asked about
the first, and deleted, so that the text of the first is another one.  Then the request is due. -/
def orphaning : List (Backend × Operation) := [
  (prompt, .command .load), (prompt, .advance 1000),
  (prompt, .command (.editData ⟨"x"⟩ "#S!")), (prompt, .advance 1000),
  (prompt, .command (.editData ⟨"s"⟩ "b")), (prompt, .command (.delete ⟨"s"⟩)),
  (prompt, .advance 3000)]

def orphaned : Session := unopened.performAll orphaning

/-- The request is left for two seconds more. -/
def resting : List (Backend × Operation) := orphaning ++ [(prompt, .advance 2000)]

/-- The loading asks about the block, and no operation after it takes the block away. -/
theorem keepsIn_resting : KeepsIn ⟨"x"⟩ unopened resting := by
  have stays : ∀ n < resting.length,
      ⟨"x"⟩ ∈ (unopened.performAll (resting.take (n + 1))).store.ids := by decide +kernel
  have loads : (unopened.perform prompt (.command .load)).askedAt ⟨"x"⟩ ≠
      unopened.askedAt ⟨"x"⟩ := by decide +kernel
  have once : ∀ p ∈ resting.tail, p.2 ≠ .command .load := by simp [resting, orphaning]
  intro n hn
  refine ⟨performAll_take_succ unopened hn ▸ stays n hn, fun isLoad _ _ => ?_⟩
  match n, hn with
  | 0, _ => exact loads
  | n + 1, hn => exact absurd isLoad (once _ (List.getElem_mem (Nat.lt_of_succ_lt_succ hn)))

theorem asked_in_orphaned :
    unopened.askedIn ⟨"x"⟩ orphaning 0 = [0] ∧ unopened.askedIn ⟨"x"⟩ orphaning 4 = [2000] ∧
      orphaned.askedAt ⟨"x"⟩ = [0, 2000] ∧
      (orphaned.perform prompt .flushDue).askedAt ⟨"x"⟩ = [0, 2000] ++ [5000] ∧
      (⟨"x"⟩, 5000) ∈ orphaned.parking.entries ∧ 5000 ≤ orphaned.now := by decide +kernel

/-- The request comes at five seconds, three after the generator was asked about the block in the
fifth step, while the request was parked.  When it was asked about the block before, at the loading,
the request was not parked yet, so it comes five seconds after that.  If it is left for two seconds
more, an edit makes the generator be asked at once, five seconds after. -/
theorem requests_spaced_orphaned :
    let rested := unopened.performAll resting
    let parkedFrom := fun n => ∀ m, n ≤ m →
      (⟨"x"⟩, 5000) ∈ (unopened.performAll (orphaning.take m)).parking.entries
    unopened.Reachable ∧ KeepsIn ⟨"x"⟩ unopened orphaning ∧ KeepsIn ⟨"x"⟩ unopened resting ∧
      (⟨"x"⟩, 5000) ∈ orphaned.parking.entries ∧ 5000 ≤ orphaned.now ∧
      (orphaned.perform prompt .flushDue).askedAt ⟨"x"⟩ = orphaned.askedAt ⟨"x"⟩ ++ [5000] ∧
      (0 ∈ unopened.askedIn ⟨"x"⟩ orphaning 0 ∧ ¬ parkedFrom 0 ∧
        0 + unopened.settings.throttleDelay ≤ 5000) ∧
      (2000 ∈ unopened.askedIn ⟨"x"⟩ orphaning 4 ∧ parkedFrom 4 ∧
        ¬ 2000 + unopened.settings.throttleDelay ≤ 5000) ∧
      rested.store.generates ⟨"x"⟩ = true ∧
      (rested.perform prompt (.command (.editData ⟨"x"⟩ "#S?"))).askedAt ⟨"x"⟩ =
        rested.askedAt ⟨"x"⟩ ++ [7000] ∧
      2000 ∈ unopened.askedIn ⟨"x"⟩ resting 4 ∧
      2000 + unopened.settings.throttleDelay ≤ 7000 := by
  intro rested parkedFrom
  have reachable : unopened.Reachable := .start ..
  have kept : KeepsIn ⟨"x"⟩ unopened orphaning := keepsIn_resting.left
  obtain ⟨loading, meanwhile, before, after, parked, late⟩ := asked_in_orphaned
  have first : 0 ∈ unopened.askedIn ⟨"x"⟩ orphaning 0 := by
    rw [loading]
    exact List.mem_singleton_self _
  have second : 2000 ∈ unopened.askedIn ⟨"x"⟩ orphaning 4 := by
    rw [meanwhile]
    exact List.mem_singleton_self _
  have unparked : ¬ parkedFrom 0 := fun stays => nomatch stays 0 (Nat.le_refl _)
  have early : ¬ 2000 + unopened.settings.throttleDelay ≤ 5000 := by decide
  obtain ⟨-, -, flushed⟩ := requests_spaced reachable kept prompt
  obtain ⟨new, e, -, spaced⟩ := flushed 5000 parked late
  change (orphaned.perform prompt .flushDue).askedAt ⟨"x"⟩ = orphaned.askedAt ⟨"x"⟩ ++ new at e
  rw [after, before] at e
  obtain rfl := List.append_cancel_left e
  have spaced := spaced 5000 (List.mem_singleton_self _)
  have edited : rested.store.generates ⟨"x"⟩ = true ∧
      (rested.perform prompt (.command (.editData ⟨"x"⟩ "#S?"))).askedAt ⟨"x"⟩ =
        rested.askedAt ⟨"x"⟩ ++ [7000] ∧
      2000 ∈ unopened.askedIn ⟨"x"⟩ resting 4 := by decide +kernel
  obtain ⟨generates, asks, third⟩ := edited
  obtain ⟨-, edits, -⟩ := requests_spaced reachable keepsIn_resting prompt
  obtain ⟨new, e, -, spaced'⟩ := edits _ (.editData "#S?") generates
  change (rested.perform prompt _).askedAt ⟨"x"⟩ = rested.askedAt ⟨"x"⟩ ++ new at e
  rw [asks] at e
  obtain rfl := List.append_cancel_left e
  exact ⟨reachable, kept, keepsIn_resting, parked, late, by rw [after, before],
    ⟨first, unparked, (spaced 0 (by decide) 0 first).resolve_right unparked⟩,
    ⟨second, (spaced 4 (by decide) 2000 second).resolve_left early, early⟩,
    generates, asks, third, spaced' 7000 (List.mem_singleton_self _) 4 (by decide) 2000 third⟩

/-- Not every request that was due comes a throttle delay after all that was asked about its block
before. -/
theorem not_all_requests_spaced :
    ¬ ∀ (s : Session) (backend : Backend) (x : BlockId) (due : Nat) (new : List Nat), s.Reachable →
      (x, due) ∈ s.parking.entries → due ≤ s.now →
      (s.perform backend .flushDue).askedAt x = s.askedAt x ++ new →
        ∀ time ∈ new, ∀ earlier ∈ s.askedAt x, earlier + s.settings.throttleDelay ≤ time := by
  intro all
  obtain ⟨-, -, before, after, parked, late⟩ := asked_in_orphaned
  have reachable : orphaned.Reachable := Reachable.performAll (.start ..) orphaning
  have earlier : 2000 ∈ orphaned.askedAt ⟨"x"⟩ := by
    rw [before]
    decide
  have spaced := all orphaned prompt ⟨"x"⟩ 5000 [5000] reachable parked late
    (by rw [after, before]) 5000 (List.mem_singleton_self _) 2000 earlier
  have early : ¬ 2000 + orphaned.settings.throttleDelay ≤ 5000 := by decide +kernel
  exact early spaced

end Session
end Workbook
