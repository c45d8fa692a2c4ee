import Workbook.Entries
import Workbook.Proofs.Batch.Recorded
import Workbook.Proofs.Batch.Records

/-!
Events, report and statuses tell one story.

A batch keeps three records: it sends events while it works, collects a report, and writes statuses
to blocks.  `Narrates` says that between two stages of a batch all three have grown by the same: the
report by what the events say, the statuses by what they say, and of each block just so much is told
as has become of it (`Fate`).  Every move narrates some events (`Moves.narrates`), and narrations go
on from one another (`Narrates.trans`), so a whole batch narrates its events; `propagate_told` reads
off what they are.
-/

namespace Workbook

/-! ## What events say -/

namespace Event

/-- The block that has new content. -/
def updated? : Event → Option BlockId
  | .contentUpdated id => some id
  | _ => none

/-- The block that failed, and the text with which it says so. -/
def failure? : Event → Option (BlockId × String)
  | .statusChanged id (.failed message) => some (id, message)
  | _ => none

def cycle? : Event → Option Cycle
  | .cycleDetected involved => some ⟨involved⟩
  | _ => none

def isPersisted : Event → Bool
  | .persisted _ => true
  | _ => false

/-- The events about a block. -/
def about (x : BlockId) (events : List Event) : List Event :=
  events.filter fun e => e.about? == some x

/-- The statuses of blocks after an event. -/
def mark (statuses : List (BlockId × Status)) : Event → List (BlockId × Status)
  | .statusChanged id status => statuses.map fun p => if p.1 = id then (id, status) else p
  | _ => statuses

theorem about_append (x : BlockId) (events more : List Event) :
    about x (events ++ more) = about x events ++ about x more :=
  List.filter_append ..

theorem about_of_all {x : BlockId} {events : List Event} (h : ∀ e ∈ events, e.about? = some x) :
    about x events = events :=
  List.filter_eq_self.mpr fun e he => beq_iff_eq.mpr (h e he)

theorem about_of_none {x : BlockId} {events : List Event} (h : ∀ e ∈ events, e.about? ≠ some x) :
    about x events = [] :=
  List.filter_eq_nil_iff.mpr fun e he => by simpa using h e he

theorem cycle?_of_about {x : BlockId} {e : Event} (h : e.about? = some x) : e.cycle? = none := by
  unfold cycle?
  split
  · cases h
  · rfl

theorem isPersisted_of_about {x : BlockId} {e : Event} (h : e.about? = some x) :
    e.isPersisted = false := by
  unfold isPersisted
  split
  · cases h
  · rfl

end Event

/-- The statuses of the blocks of a store. -/
def Store.statuses (s : Store) : List (BlockId × Status) := s.blocks.map fun b => (b.id, b.status)

theorem Store.statuses_modify {s : Store} {id : BlockId} {status : Status} {f : Block → Block}
    (hi : ∀ b, (f b).id = b.id) (hs : ∀ b, (f b).status = status) :
    (s.modify id f).statuses = Event.mark s.statuses (.statusChanged id status) := by
  show (s.blocks.map _).map _ = (s.blocks.map _).map _
  rw [List.map_map, List.map_map]
  refine List.map_congr_left fun b _ => ?_
  show ((if b.id = id then f b else b).id, (if b.id = id then f b else b).status) =
    if b.id = id then (id, status) else (b.id, b.status)
  split
  · next e => rw [hi, hs, e]
  · rfl

/-- What is told of a block when it has had its turn. -/
def Turn.told (id : BlockId) : Turn → List Event
  | .skipped => []
  | .applied => [.statusChanged id .done, .contentUpdated id]
  | .asked _ => [.statusChanged id .waiting]

namespace Session

/-- From `s` to `t`, the events and the statuses of blocks have changed by what is told. -/
structure Recounts (told : List Event) (t s : Session) : Prop where
  events : t.events = s.events ++ told
  statuses : t.store.statuses = told.foldl Event.mark s.store.statuses

namespace Recounts

variable {s t u : Session} {told more : List Event}

theorem nothing (hs : t.store = s.store) (he : t.events = s.events) : Recounts [] t s :=
  ⟨by rw [he, List.append_nil], by rw [hs, List.foldl_nil]⟩

theorem trans (hut : Recounts more u t) (hts : Recounts told t s) :
    Recounts (told ++ more) u s where
  events := by rw [hut.events, hts.events, List.append_assoc]
  statuses := by rw [hut.statuses, hts.statuses, List.foldl_append]

theorem emit (watched : s.watched = true) (e : Event) (silent : ∀ l, Event.mark l e = l) :
    Recounts [e] (s.emit e) s where
  events := by
    rw [emit_eq, told_of_watched watched, Session.events, List.filterMap_append]
    rfl
  statuses := by
    rw [emit_eq]
    exact (silent _).symm

theorem resolved (s : Session) (id : BlockId) : Recounts [] (s.record (.resolved id)) s :=
  .nothing rfl <| by
    rw [Session.events, record, List.filterMap_append]
    exact List.append_nil _

theorem answered (s : Session) (r : Request) (now : Nat) :
    Recounts [] { s.record (.answered r) with now } s :=
  .nothing rfl <| by
    rw [Session.events, record, List.filterMap_append]
    exact List.append_nil _

section
variable (watched : s.watched = true)
include watched

theorem fill (id : BlockId) (content : Content) (input : String) (applied : Option String) :
    Recounts [.statusChanged id .done, .contentUpdated id] (s.fill id content input applied) s where
  events := by
    rw [Session.events, Session.fill, told_of_watched watched, told_of_watched watched,
      List.filterMap_append]
    rfl
  statuses := Store.statuses_modify (fun _ => rfl) fun _ => rfl

theorem await (r : Request) : Recounts [.statusChanged r.id .waiting] (s.await r) s where
  events := by
    rw [Session.events, Session.await, told_of_watched watched, List.filterMap_append]
    rfl
  statuses := Store.statuses_modify (fun _ => rfl) fun _ => rfl

theorem refuse (id : BlockId) (message : String) :
    Recounts [.statusChanged id (.failed message)] (s.refuse id message) s where
  events := by
    rw [Session.events, Session.refuse, told_of_watched watched, List.filterMap_append]
    rfl
  statuses := Store.statuses_modify (fun _ => rfl) fun _ => rfl

/-- Saving is told of if the archive takes the blocks. -/
theorem save : Recounts (if s.archive.saveFault = none then [.persisted s.store.size] else [])
    s.save s := by
  unfold Session.save
  cases s.archive.saveFault with
  | some e => exact .nothing rfl rfl
  | none =>
    have saved := emit (s := { s with archive := { s.archive with saved := s.store.blocks } })
      watched (.persisted s.store.size) fun _ => rfl
    exact ⟨saved.events, saved.statuses⟩

end

end Recounts

theorem Taken.recounts {s session : Session} (watched : s.watched = true) {force : Bool}
    {id : BlockId} {turn : Turn} (h : s.Taken force id turn session) :
    Recounts (turn.told id) session s := by
  have looked := Recounts.resolved s id
  cases h with
  | inert => exact .nothing rfl rfl
  | current => exact looked
  | applied => exact (Recounts.fill (s := s.record (.resolved id)) watched ..).trans looked
  | asked b hb =>
    have hid : (s.store.requestFor b).id = id := (Store.mem_of_get? hb).2
    have waits := Recounts.await (s := s.record (.resolved id)) watched (s.store.requestFor b)
    rw [hid] at waits
    exact waits.trans looked

end Session

/-! ## What becomes of a block -/

/-- The things that can have become of a block in a batch. -/
inductive Fate where
  | untold
  | asked
  /-- Computed without asking. -/
  | shown
  | answered
  | refused (message : String)

/-- All that has been told of a block. -/
def Fate.events (x : BlockId) : Fate → List Event
  | .untold => []
  | .asked => [.statusChanged x .waiting]
  | .shown => [.statusChanged x .done, .contentUpdated x]
  | .answered => [.statusChanged x .waiting, .statusChanged x .done, .contentUpdated x]
  | .refused message => [.statusChanged x .waiting, .statusChanged x (.failed message)]

namespace Batch

/-- What has become of a block in a batch that began with store `s`. -/
def fate (s : Store) (b : Batch) (x : BlockId) : Fate :=
  if x ∈ b.calls.map (·.id) then .asked
  else if x ∈ b.report.computed then if s.generates x then .answered else .shown
  else
    match b.report.failed.lookup x with
    | some e => .refused e.message
    | none => .untold

section
variable {s : Store} {b b' : Batch} {x id : BlockId}

theorem fate_congr (hc : x ∈ b'.calls.map (·.id) ↔ x ∈ b.calls.map (·.id))
    (hm : x ∈ b'.report.computed ↔ x ∈ b.report.computed)
    (hf : b'.report.failed.lookup x = b.report.failed.lookup x) : b'.fate s x = b.fate s x := by
  simp only [fate, hc, hm, hf]

theorem fate_of_mem_calls (h : x ∈ b.calls.map (·.id)) : b.fate s x = .asked := if_pos h

theorem fate_of_computed (hc : x ∉ b.calls.map (·.id)) (hm : x ∈ b.report.computed) :
    b.fate s x = if s.generates x then .answered else .shown := by
  rw [fate, if_neg hc, if_pos hm]

theorem lookup_failed_eq_some (hn : (b.report.failed.map (·.1)).Nodup) {e : BlockId × Error}
    (he : e ∈ b.report.failed) : b.report.failed.lookup e.1 = some e.2 :=
  lookup_eq_some_of_mem hn he

theorem fate_of_refused (hc : x ∉ b.calls.map (·.id)) (hm : x ∉ b.report.computed) {e : Error}
    (hf : b.report.failed.lookup x = some e) : b.fate s x = .refused e.message := by
  rw [fate, if_neg hc, if_neg hm, hf]

theorem fate_of_untold (hc : x ∉ b.calls.map (·.id)) (hm : x ∉ b.report.computed)
    (hf : x ∉ b.report.failed.map (·.1)) : b.fate s x = .untold := by
  rw [fate, if_neg hc, if_neg hm, lookup_eq_none_of_notMem hf]

theorem apart_of_not_accounted (h : x ∉ accounted [] b) :
    x ∉ b.calls.map (·.id) ∧ x ∉ b.report.computed ∧ x ∉ b.report.failed.map (·.1) := by
  rw [mem_accounted_nil, Report.mem_settled, not_or, not_or, not_or] at h
  exact ⟨h.2, h.1.1, h.1.2.2⟩

theorem fate_of_not_accounted (h : x ∉ accounted [] b) : b.fate s x = .untold := by
  obtain ⟨calls, computed, failed⟩ := apart_of_not_accounted h
  exact fate_of_untold calls computed failed

theorem fate_noteComputed (h : x ≠ id) : (b.noteComputed id).fate s x = b.fate s x := by
  refine fate_congr .rfl ?_ rfl
  rw [noteComputed, List.mem_append, List.mem_singleton]
  exact or_iff_left h

theorem fate_noteComputed_self (h : id ∉ b.calls.map (·.id)) :
    (b.noteComputed id).fate s id = if s.generates id then .answered else .shown :=
  fate_of_computed h (List.mem_append_right _ (List.mem_singleton_self id))

theorem fate_noteFailed_self (h : id ∉ accounted [] b) (e : Error) :
    (b.noteFailed id e).fate s id = .refused e.message := by
  obtain ⟨calls, computed, failed⟩ := apart_of_not_accounted h
  refine fate_of_refused (b := b.noteFailed id e) calls computed ?_
  rw [noteFailed, List.lookup_append, lookup_eq_none_of_notMem failed]
  exact List.lookup_cons_self

theorem fate_noteFailed (h : x ≠ id) (e : Error) :
    (b.noteFailed id e).fate s x = b.fate s x := by
  refine fate_congr .rfl .rfl ?_
  have other : [(id, e)].lookup x = none := by
    rw [List.lookup_cons, beq_false_of_ne h]
    rfl
  rw [noteFailed, List.lookup_append, other, Option.or_none]

theorem Closes.fate {r : Request} (hr : Closes b r b') (h : x ≠ r.id) :
    b'.fate s x = b.fate s x := by
  refine fate_congr ?_ ?_ ?_
  · rw [(hr.calls_perm.map (·.id)).mem_iff, List.map_cons, List.mem_cons]
    exact (or_iff_right h).symm
  · rw [hr.report_eq]
  · rw [hr.report_eq]

end

/-! ## Narration -/

/-- From `b` to `b'`, all that a batch keeps has changed by what is told. -/
structure Narrates (s : Store) (told : List Event) (b' b : Batch) : Prop where
  recounts : b'.session.Recounts told b.session
  computed : b'.report.computed = b.report.computed ++ told.filterMap Event.updated?
  failed : (b'.report.failed.map fun e => (e.1, e.2.message)) =
    (b.report.failed.map fun e => (e.1, e.2.message)) ++ told.filterMap Event.failure?
  cycle : b'.report.cycle = b.report.cycle.or (told.filterMap Event.cycle?).head?
  fates : ∀ x, (b'.fate s x).events x = (b.fate s x).events x ++ Event.about x told
  unsaved : ∀ e ∈ told, e.isPersisted = false

namespace Narrates

variable {s : Store} {b b' b'' : Batch} {told more : List Event} {id : BlockId}

theorem trans (h : Narrates s more b'' b') (h' : Narrates s told b' b) :
    Narrates s (told ++ more) b'' b where
  recounts := h.recounts.trans h'.recounts
  computed := by rw [h.computed, h'.computed, List.filterMap_append, List.append_assoc]
  failed := by rw [h.failed, h'.failed, List.filterMap_append, List.append_assoc]
  cycle := by rw [h.cycle, h'.cycle, List.filterMap_append, List.head?_append, Option.or_assoc]
  fates x := by rw [h.fates, h'.fates, Event.about_append, List.append_assoc]
  unsaved e he := (List.mem_append.mp he).elim (h'.unsaved e) (h.unsaved e)

/-- Nothing is told. -/
theorem silent (hs : b'.session.Recounts [] b.session) (hc : b'.calls = b.calls)
    (hm : b'.report.computed = b.report.computed) (hf : b'.report.failed = b.report.failed)
    (hy : b'.report.cycle = b.report.cycle) : Narrates s [] b' b where
  recounts := hs
  computed := by rw [hm, List.filterMap_nil, List.append_nil]
  failed := by rw [hf, List.filterMap_nil, List.append_nil]
  cycle := by rw [hy, List.filterMap_nil, List.head?_nil, Option.or_none]
  fates x := by
    have same : b'.fate s x = b.fate s x := fate_congr (by rw [hc]) (by rw [hm]) (by rw [hf])
    rw [same]
    exact (List.append_nil _).symm
  unsaved _ he := absurd he List.not_mem_nil

/-- A cycle is told and reported, and matters to no block. -/
theorem noteCycle (watched : b.session.watched = true) (c : Cycle) :
    Narrates s [.cycleDetected c.involved] (b.noteCycle c) b where
  recounts := .emit watched _ fun _ => rfl
  computed := (List.append_nil _).symm
  failed := (List.append_nil _).symm
  cycle := rfl
  fates x := (List.append_nil _).symm
  unsaved e he := by
    rw [List.mem_singleton.mp he]
    rfl

theorem noteCycles (watched : b.session.watched = true) (cycles : List Cycle) :
    Narrates s (cycles.map fun c => .cycleDetected c.involved) (b.noteCycles cycles) b := by
  induction cycles generalizing b with
  | nil => exact .silent (.nothing rfl rfl) rfl rfl rfl rfl
  | cons c cycles ih =>
    have watched' : (b.noteCycle c).session.watched = true := by
      show (b.session.emit _).watched = true
      rw [Session.emit_eq]
      exact watched
    exact (ih watched').trans (.noteCycle watched c)

/-- The dependents of a block are put into the queue before the block is reported. -/
theorem schedule {b₁ : Batch} (watched : b₁.session.watched = true)
    (h : Narrates s told (b₁.noteComputed id) b) :
    ∃ cycles : List Cycle, Narrates s (told ++ cycles.map fun c => .cycleDetected c.involved)
      ((b₁.schedule id).noteComputed id) b := by
  obtain ⟨queue, cycles, e⟩ := exists_schedule b₁ id
  rw [e, ← noteCycles_noteComputed]
  have queued : Narrates s [] (({ b₁ with queue } : Batch).noteComputed id) (b₁.noteComputed id) :=
    .silent (.nothing rfl rfl) rfl rfl rfl rfl
  have later := (noteCycles (b := ({ b₁ with queue } : Batch).noteComputed id) watched cycles).trans
    queued
  exact ⟨cycles, later.trans h⟩

/-- One block is told of, and the fates of the others stay as they are. -/
theorem single (id : BlockId) (about : ∀ e ∈ told, e.about? = some id)
    (recounts : b'.session.Recounts told b.session)
    (computed : b'.report.computed = b.report.computed ++ told.filterMap Event.updated?)
    (failed : (b'.report.failed.map fun e => (e.1, e.2.message)) =
      (b.report.failed.map fun e => (e.1, e.2.message)) ++ told.filterMap Event.failure?)
    (cycle : b'.report.cycle = b.report.cycle)
    (own : (b'.fate s id).events id = (b.fate s id).events id ++ told)
    (others : ∀ x, x ≠ id → b'.fate s x = b.fate s x) : Narrates s told b' b where
  recounts := recounts
  computed := computed
  failed := failed
  cycle := by
    have none : told.filterMap Event.cycle? = [] :=
      List.filterMap_eq_nil_iff.mpr fun e he => Event.cycle?_of_about (about e he)
    rw [cycle, none, List.head?_nil, Option.or_none]
  fates x := by
    by_cases e : x = id
    · rw [e, Event.about_of_all about, own]
    · have none : Event.about x told = [] :=
        Event.about_of_none fun m hm same => e (Option.some.inj (same.symm.trans (about m hm)))
      rw [others x e, none, List.append_nil]
  unsaved e he := Event.isPersisted_of_about (about e he)

/-- A block has been computed; `b₁` is the batch before this was reported. -/
theorem compute {b₁ : Batch}
    (recounts : b₁.session.Recounts [.statusChanged id .done, .contentUpdated id] b.session)
    (report : b₁.report = b.report) (calls : id ∉ b₁.calls.map (·.id))
    (own : (if s.generates id then Fate.answered else .shown).events id =
      (b.fate s id).events id ++ [.statusChanged id .done, .contentUpdated id])
    (others : ∀ x, x ≠ id → b₁.fate s x = b.fate s x) :
    Narrates s [.statusChanged id .done, .contentUpdated id] (b₁.noteComputed id) b := by
  refine .single id ?_ recounts ?_ ?_ ?_ ?_ fun x hx => ?_
  · simp [Event.about?]
  · rw [noteComputed, report]
    rfl
  · rw [noteComputed, report]
    exact (List.append_nil _).symm
  · rw [noteComputed, report]
  · rw [fate_noteComputed_self calls, own]
  · exact (fate_noteComputed hx).trans (others x hx)

/-- The generator has refused to answer; `b₁` is the batch before this was reported. -/
theorem refuse {b₁ : Batch} {e : Error}
    (recounts : b₁.session.Recounts [.statusChanged id (.failed e.message)] b.session)
    (report : b₁.report = b.report) (fresh : id ∉ accounted [] b₁)
    (asked : b.fate s id = .asked) (others : ∀ x, x ≠ id → b₁.fate s x = b.fate s x) :
    Narrates s [.statusChanged id (.failed e.message)] (b₁.noteFailed id e) b := by
  refine .single id ?_ recounts ?_ ?_ ?_ ?_ fun x hx => ?_
  · simp [Event.about?]
  · rw [noteFailed, report]
    exact (List.append_nil _).symm
  · rw [noteFailed, report, List.map_append]
    rfl
  · rw [noteFailed, report]
  · rw [fate_noteFailed_self fresh, asked]
    rfl
  · exact (fate_noteFailed hx e).trans (others x hx)

/-- A block has been asked for. -/
theorem ask (fresh : id ∉ accounted [] b)
    (recounts : b'.session.Recounts [.statusChanged id .waiting] b.session)
    (report : b'.report = b.report)
    (calls : ∀ x, x ∈ b'.calls.map (·.id) ↔ x = id ∨ x ∈ b.calls.map (·.id)) :
    Narrates s [.statusChanged id .waiting] b' b := by
  refine .single id ?_ recounts ?_ ?_ (congrArg Report.cycle report) ?_ fun x hx => ?_
  · simp [Event.about?]
  · rw [report]
    exact (List.append_nil _).symm
  · rw [report]
    exact (List.append_nil _).symm
  · rw [fate_of_mem_calls ((calls id).mpr (.inl rfl)), fate_of_not_accounted fresh]
    rfl
  · refine fate_congr ?_ (by rw [report]) (by rw [report])
    rw [calls]
    exact or_iff_right hx

end Narrates

variable {backend : Backend} {s : Session} {seeds : List BlockId} {force : Bool}
  {pending pending' : List BlockId} {b b' : Batch}

/-- Every move tells something. -/
theorem Moves.narrates (hm : Moves backend pending b pending' b') (hs : s.store.Sound)
    (watched : s.watched = true) (framed : Framed s force b)
    (places : Places (.ofStore s.store) pending b) {new : List Request} (asks : Asks s new b) :
    ∃ told, Narrates s.store told b' b := by
  have watching : b.session.watched = true := framed.watched_eq.trans watched
  cases hm with
  | @skipped _ _ _ b₁ id session hd ht =>
    rw [hd.frame]
    exact ⟨[], .silent (ht.recounts watching) rfl rfl rfl rfl⟩
  | @applied _ _ _ b₁ id session hd ht =>
    have fresh := places.not_accounted_of_draws hd
    obtain ⟨calls, -⟩ := apart_of_not_accounted fresh
    have computed : Narrates s.store (Turn.applied.told id)
        (({ b₁ with session } : Batch).noteComputed id) b := by
      rw [hd.frame]
      refine .compute (ht.recounts watching) rfl calls ?_ fun x hx => rfl
      rw [fate_of_not_accounted fresh, ← framed.generates_eq hs, ht.not_generates]
      rfl
    obtain ⟨cycles, narrates⟩ :=
      computed.schedule ((framed.turn hd ht).watched_eq.trans watched)
    exact ⟨_, narrates⟩
  | @askedIsolated _ _ id session r ht =>
    have hid := ht.id_asked
    subst hid
    refine ⟨_, .ask places.not_mem_accounted (ht.recounts watching) rfl fun x => ?_⟩
    simp only [calls, List.map_append, List.mem_append, List.map_cons, List.map_nil,
      List.mem_singleton]
    exact or_assoc.trans or_left_comm
  | @askedQueued _ id rest session r hc hq ht =>
    have fresh := places.not_accounted_of_draws (.queued hc hq)
    have hid := ht.id_asked
    subst hid
    refine ⟨_, .ask fresh (ht.recounts watching) rfl fun x => ?_⟩
    simp only [calls, hc, List.map_append, List.mem_append, Option.toList_some,
      Option.toList_none, List.map_cons, List.map_nil, List.mem_singleton, List.append_nil]
    exact or_comm
  | @filled _ b₁ r content hr _ =>
    have opened : r.id ∈ b.calls.map (·.id) := List.mem_map_of_mem hr.mem_calls
    obtain ⟨calls, -⟩ := apart_of_not_accounted (places.close hr).not_mem_accounted
    have generates := asks.generates_of_mem (List.mem_append_right _ opened)
    let session := (b.answered backend r).fill r.id content r.input (some r.transform)
    have filled : Narrates s.store [.statusChanged r.id .done, .contentUpdated r.id]
        (({ b₁ with session } : Batch).noteComputed r.id) b := by
      refine .compute ?_ hr.report_eq calls ?_ fun x hx => hr.fate hx
      · exact (Session.Recounts.fill (s := b.answered backend r) watching ..).trans (.answered ..)
      · rw [fate_of_mem_calls opened, if_pos generates]
        rfl
    obtain ⟨cycles, narrates⟩ :=
      filled.schedule ((framed.fill backend hr content).watched_eq.trans watched)
    exact ⟨_, narrates⟩
  | @refused _ b₁ r e hr _ =>
    have opened : r.id ∈ b.calls.map (·.id) := List.mem_map_of_mem hr.mem_calls
    refine ⟨_, .refuse ?_ hr.report_eq (places.close hr).not_mem_accounted
      (fate_of_mem_calls opened) fun x hx => hr.fate hx⟩
    exact (Session.Recounts.refuse (s := b.answered backend r) watching ..).trans (.answered ..)

/-- A batch has told of all that it has done so far. -/
theorem Stage.narrates (hs : s.store.Sound) (watched : s.watched = true)
    (h : Stage backend s seeds force pending b) :
    ∃ told, Narrates s.store told b (bare s force) := by
  induction h with
  | opening =>
    rcases opening_cases s seeds force with ⟨-, e⟩ | ⟨c, more, -, e⟩
    · rw [e]
      exact ⟨[], .silent (.nothing rfl rfl) rfl rfl rfl rfl⟩
    · rw [e]
      exact ⟨_, .noteCycle watched _⟩
  | move h hm ih =>
    obtain ⟨told, narrates⟩ := ih
    obtain ⟨new, asks⟩ := h.asks hs
    obtain ⟨more, later⟩ := hm.narrates hs watched h.framed (h.places hs) asks
    exact ⟨told ++ more, later.trans narrates⟩

/-! ## Whole batches -/

/-- The event with which a batch ends that has computed something, if the archive takes it. -/
def farewell (s t : Session) (r : Report) : List Event :=
  if r.computed ≠ [] ∧ s.archive.saveFault = none then [.persisted t.store.size] else []

/-- Between sessions `s` and `t`, a batch with report `r` has sent the events `told`. -/
structure Story (s t : Session) (r : Report) (told : List Event) : Prop where
  events : t.events = s.events ++ told
  /-- Contents are told of in the order of the report. -/
  computed : told.filterMap Event.updated? = r.computed
  /-- So are failures. -/
  failed : told.filterMap Event.failure? = r.failed.map fun e => (e.1, e.2.message)
  /-- The reported cycle is the first that is told of. -/
  cycle : r.cycle = (told.filterMap Event.cycle?).head?
  of_computed : ∀ x ∈ r.computed, Event.about x told =
    (if s.store.generates x then [.statusChanged x .waiting] else []) ++
      [.statusChanged x .done, .contentUpdated x]
  of_failed : ∀ e ∈ r.failed, s.store.generates e.1 = true ∧
    Event.about e.1 told = [.statusChanged e.1 .waiting, .statusChanged e.1 (.failed e.2.message)]
  of_skipped : ∀ x ∈ r.skipped, Event.about x told = []
  of_others : ∀ x, x ∉ r.settled → Event.about x told = []
  /-- That the blocks were saved is told at the end, and only then. -/
  saved : ∃ work, told = work ++ farewell s t r ∧ ∀ e ∈ work, e.isPersisted = false
  statuses : t.store.statuses = told.foldl Event.mark s.store.statuses

theorem mem_farewell {s t : Session} {r : Report} {e : Event} (h : e ∈ farewell s t r) :
    e = .persisted t.store.size := by
  unfold farewell at h
  split at h
  · exact List.mem_singleton.mp h
  · exact absurd h List.not_mem_nil

theorem filterMap_farewell {β : Type} {f : Event → Option β} (hf : ∀ n, f (.persisted n) = none)
    (s t : Session) (r : Report) : (farewell s t r).filterMap f = [] :=
  List.filterMap_eq_nil_iff.mpr fun e he => by rw [mem_farewell he, hf]

theorem about_farewell (x : BlockId) (s t : Session) (r : Report) :
    Event.about x (farewell s t r) = [] :=
  Event.about_of_none fun e he => by
    rw [mem_farewell he]
    exact Option.some_ne_none x |>.symm

/-- After its last move a batch has only to save. -/
theorem recounts_propagate (hs : s.store.Sound) (watched : s.watched = true) (backend : Backend)
    (seeds : List BlockId) (force : Bool) :
    (s.propagate backend seeds force).2.Recounts
      (farewell s (s.propagate backend seeds force).2 (s.propagate backend seeds force).1)
      ((start s seeds force).run backend).session := by
  have framed := (stage_run hs backend seeds force).framed
  have saves := Session.Recounts.save (framed.watched_eq.trans watched)
  rw [framed.archive_eq] at saves
  unfold Session.propagate farewell
  dsimp only
  by_cases none : ((start s seeds force).run backend).report.computed = []
  · rw [none]
    exact .nothing rfl rfl
  · simp only [List.isEmpty_iff, none, ne_eq, not_false_eq_true, true_and, if_false,
      Session.store_save]
    exact saves

/-- Events, report and statuses of a batch tell one story. -/
theorem propagate_told (h : s.Reachable) (watched : s.watched = true) (backend : Backend)
    (seeds : List BlockId) (force : Bool) :
    ∃ told, Story s (s.propagate backend seeds force).2 (s.propagate backend seeds force).1
      told := by
  have hs := h.sound
  have stage := stage_run hs backend seeds force
  obtain ⟨work, narrates⟩ := stage.narrates hs watched
  have last := (recounts_propagate hs watched backend seeds force).trans narrates.recounts
  -- no request is open at the end, and no block is in two parts of the report
  have calls : ∀ x, x ∉ ((start s seeds force).run backend).calls.map (·.id) := by
    rw [calls_run hs]
    exact fun x => List.not_mem_nil
  obtain ⟨done, failed, apart⟩ := List.nodup_append.mp (nodup_settled hs backend seeds force)
  obtain ⟨-, -, apart'⟩ := List.nodup_append.mp done
  have about : ∀ x, Event.about x (work ++ farewell s (s.propagate backend seeds force).2
      (s.propagate backend seeds force).1) =
        (((start s seeds force).run backend).fate s.store x).events x := by
    intro x
    have untold : (bare s force).fate s.store x = .untold :=
      fate_of_untold List.not_mem_nil List.not_mem_nil List.not_mem_nil
    rw [Event.about_append, about_farewell, List.append_nil, narrates.fates, untold]
    rfl
  refine ⟨_, last.events, ?_, ?_, ?_, fun x hx => ?_, fun e he => ?_, fun x hx => ?_,
    fun x hx => ?_, ⟨work, rfl, narrates.unsaved⟩, last.statuses⟩
  · rw [List.filterMap_append, filterMap_farewell fun _ => rfl, List.append_nil]
    exact narrates.computed.symm
  · rw [List.filterMap_append, filterMap_farewell fun _ => rfl, List.append_nil]
    exact narrates.failed.symm
  · rw [List.filterMap_append, filterMap_farewell fun _ => rfl, List.append_nil]
    exact narrates.cycle
  · rw [about, fate_of_computed (calls x) hx]
    cases s.store.generates x <;> rfl
  · have computed : e.1 ∉ ((start s seeds force).run backend).report.computed := fun hc =>
      apart e.1 (List.mem_append_left _ hc) e.1 (List.mem_map_of_mem he) rfl
    refine ⟨stage.generates_of_failed hs (List.mem_map_of_mem he), ?_⟩
    rw [about, fate_of_refused (calls e.1) computed (lookup_failed_eq_some failed he)]
    rfl
  · rw [about, fate_of_untold (calls x)]
    · rfl
    · exact fun hc => apart' x hc x hx rfl
    · exact fun hf => apart x (List.mem_append_right _ hx) x hf rfl
  · rw [Report.mem_settled, not_or, not_or] at hx
    rw [about, fate_of_untold (calls x) hx.1 hx.2.2]
    rfl

/-- A circle that is entered at one block, and a block beside it that the generator refuses to
answer for. -/
theorem propagate_told_circle :
    let backend : Backend :=
      { answer := fun r => if r.input = "x" then .error .channelClosed else .ok (.text r.input) }
    let a : BlockId := ⟨"9e3779b9"⟩
    let b : BlockId := ⟨"1715609d"⟩
    let c : BlockId := ⟨"8ff34781"⟩
    let d : BlockId := ⟨"08d12e65"⟩
    let outcome := Session.circle.propagate backend [a, d] false
    let told : List Event :=
      [.statusChanged d .waiting, .statusChanged a .waiting,
        .statusChanged d (.failed Error.channelClosed.message),
        .statusChanged a .done, .contentUpdated a, .statusChanged b .done, .contentUpdated b,
        .statusChanged c .done, .contentUpdated c, .cycleDetected [b, c, a], .persisted 4]
    Session.circle.Reachable ∧ Session.circle.watched = true ∧
      Story Session.circle outcome.2 outcome.1 told := by
  intro backend a b c d outcome told
  have watched : Session.circle.watched = true := by decide +kernel
  have events : outcome.2.events = Session.circle.events ++ told := by decide +kernel
  obtain ⟨told', story⟩ := propagate_told Session.reachable_circle watched backend [a, d] false
  have same : told' = told := List.append_cancel_left (story.events.symm.trans events)
  exact ⟨Session.reachable_circle, watched, same ▸ story⟩

end Batch
end Workbook
