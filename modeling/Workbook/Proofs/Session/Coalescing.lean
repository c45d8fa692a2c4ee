import Workbook.Proofs.Batch.Answers
import Workbook.Proofs.Graph.Arrange
import Workbook.Proofs.Session.Timely

/-!
Edits inside the throttle delay come to one request.

While the delay of a block lasts, edits of its text and of its transform change these and nothing
else, and park a request for the time at which the delay ends (`drafts_parked`).  They do not put it
off, for only a request that is made gives a block another time.  When the parked request is run,
its block is the only seed and has its turn before anything else happens (`first_turn`), so what is
asked of the generator is what was written last (`drafts_coalesce`).
-/

namespace Workbook
namespace Batch

variable {backend : Backend} {s : Session} {seeds : List BlockId} {force : Bool} {b : Batch}
  {id : BlockId}

/-! ## A batch for one block -/

/-- A batch only adds to the requests. -/
theorem requests_steps (hs : s.store.Sound) (h : Stage backend s seeds force [] b) (n : Nat) :
    ∃ more, (steps backend n b).session.requests = b.session.requests ++ more := by
  induction n generalizing b with
  | zero => exact ⟨[], (List.append_nil _).symm⟩
  | succ n ih =>
    obtain ⟨more, e⟩ := ih (h.next hs)
    rcases h.step hs with hm | ⟨-, same⟩
    · obtain ⟨first, journal, -⟩ := hm.tells h.framed
      refine ⟨first.filterMap Moment.request? ++ more, e.trans ?_⟩
      rw [Session.requests, journal, List.filterMap_append, List.append_assoc]
      rfl
    · rw [same] at e
      exact ⟨more, (congrArg (fun b => (steps backend n b).session.requests) same).trans e⟩

/-- What a turn of a generative block leaves: the block is skipped, or a request is made for it. -/
structure Turned (s : Session) (c : Block) (b : Batch) : Prop where
  skips : c.IsCurrent s.store → c.id ∈ b.report.skipped
  asks : ¬ c.IsCurrent s.store → b.session.requests = s.requests ++ [s.store.requestFor c]

section
variable {c : Block} {b' : Batch} (framed : Framed s false b) (store : b.session.store = s.store)
  (requests : b.session.requests = s.requests) (hc : s.store.get? c.id = some c)
  (hk : c.kind.isGenerative = true)

include store requests hc hk

theorem turned_of_taken {turn : Turn} {session : Session}
    (ht : b.session.Taken false c.id turn session)
    (skips : turn = .skipped → c.id ∈ b'.report.skipped)
    (asks : ∀ r, turn = .asked r → b'.session = session) : Turned s c b' := by
  have hc : b.session.store.get? c.id = some c := store ▸ hc
  have asked := ht.requests_eq
  cases ht with
  | inert h =>
    have inert := h c hc
    cases kind : c.kind <;> rw [kind] at hk inert <;> cases hk <;> cases inert
  | current d hd _ current =>
    cases hc.symm.trans hd
    rw [store] at current
    exact ⟨fun _ => skips rfl, fun stale => absurd current stale⟩
  | applied d hd static =>
    cases hc.symm.trans hd
    rw [static] at hk
    cases hk
  | asked d hd _ forced =>
    cases hc.symm.trans hd
    rw [store] at asked forced
    refine ⟨fun current => Bool.noConfusion (forced current), fun _ => ?_⟩
    rw [asks _ (congrArg (fun t => Turn.asked (t.requestFor c)) store), store, asked, requests]
    rfl

include framed

theorem turned_takeIsolated : Turned s c (b.takeIsolated c.id) := by
  have ht := Session.takeTurn_taken framed.ofStore_eq false c.id
  unfold takeIsolated
  rw [framed.force_eq]
  generalize b.session.takeTurn false c.id = result at ht
  obtain ⟨turn, session⟩ := result
  refine turned_of_taken store requests hc hk ht ?_ ?_
  · rintro rfl
    exact List.mem_append_right _ (List.mem_singleton_self _)
  · rintro r rfl
    rfl

theorem turned_takeQueued (rest : List BlockId) : Turned s c (b.takeQueued c.id rest) := by
  have ht := Session.takeTurn_taken framed.ofStore_eq false c.id
  unfold takeQueued
  rw [framed.force_eq]
  generalize b.session.takeTurn false c.id = result at ht
  obtain ⟨turn, session⟩ := result
  refine turned_of_taken store requests hc hk ht ?_ ?_
  · rintro rfl
    exact List.mem_append_right _ (List.mem_singleton_self _)
  · rintro r rfl
    rfl

end

theorem seedsOf_singleton (h : id ∈ s.store.ids) : seedsOf s [id] = [id] := by
  have known := Store.contains_iff.mpr h
  rw [seedsOf, List.filter_cons_of_pos known]
  rfl

/-- A single seed with dependencies or dependents is in the queue when the batch begins. -/
theorem queue_opening_singleton (hs : s.store.Sound) (h : id ∈ s.store.ids)
    (related : ¬ (Graph.ofStore s.store).isIsolated id = true) :
    (opening s [id] force).queue = [id] := by
  have condensed := Graph.condensed_components (Graph.sound_ofStore hs)
  have seeds : relatedSeeds s [id] = [id] := by
    rw [relatedSeeds, seedsOf_singleton h, List.filter_cons_of_pos (by simpa using related)]
    rfl
  have uncrowded : Graph.crowded [id] (Graph.ofStore s.store).components = [] := by
    refine (Graph.crowded_eq_nil_iff condensed.toGraded).mpr fun x hx y hy _ _ => ?_
    exact (List.mem_singleton.mp hx).trans (List.mem_singleton.mp hy).symm
  have ordering := condensed.ordering uncrowded
  rcases opening_cases s [id] force with ⟨-, e⟩ | ⟨d, more, e, -⟩
  · rw [e, seeds]
    refine List.perm_singleton.mp ((List.perm_ext_iff_of_nodup ordering.nodup
      (List.nodup_singleton id)).mpr fun x => ?_)
    rw [ordering.mem_iff, Graph.nodes_ofStore hs, List.mem_singleton]
    exact and_iff_left_of_imp fun e => e ▸ h
  · rw [seeds, uncrowded] at e
    cases e

/-- The only seed of a batch has its turn before anything else happens. -/
theorem first_turn (hs : s.store.Sound) (backend : Backend) {c : Block}
    (hc : s.store.get? c.id = some c) (hk : c.kind.isGenerative = true) :
    ∃ n, Turned s c (steps backend n (start s [c.id] false)) := by
  have known : c.id ∈ s.store.ids := Store.mem_ids.mpr ⟨c, Store.mem_of_get? hc⟩
  have framed := Framed.opening s [c.id] false
  have store := store_opening s [c.id] false
  have requests : (opening s [c.id] false).session.requests = s.requests :=
    (Asks.opening s [c.id] false).requests_eq.trans (List.append_nil _)
  by_cases isolated : (Graph.ofStore s.store).isIsolated c.id = true
  · have pending : isolatedSeeds s [c.id] = [c.id] := by
      rw [isolatedSeeds, seedsOf_singleton known, List.filter_cons_of_pos isolated]
      rfl
    refine ⟨0, ?_⟩
    show Turned s c (start s [c.id] false)
    rw [start_eq, pending]
    exact turned_takeIsolated framed store requests hc hk
  · have pending : isolatedSeeds s [c.id] = [] := by
      rw [isolatedSeeds, seedsOf_singleton known, List.filter_cons_of_neg isolated]
      rfl
    have begun : start s [c.id] false = opening s [c.id] false := by
      rw [start_eq, pending]
      rfl
    have queue : (opening s [c.id] false).queue = [c.id] :=
      queue_opening_singleton hs known isolated
    have chain : (opening s [c.id] false).chain = none := begun ▸ chain_start s [c.id] false
    refine ⟨1, ?_⟩
    show Turned s c ((start s [c.id] false).step backend)
    have taken : (opening s [c.id] false).step backend =
        (opening s [c.id] false).takeQueued c.id [] := by
      unfold step
      rw [chain, queue]
    rw [begun, taken]
    exact turned_takeQueued framed store requests hc hk []

/-- What a batch with one generative seed asks about it: nothing if the block is current, else what
its text and its transform are when the batch begins. -/
theorem requests_of_seed (hs : s.store.Sound) (backend : Backend) {c : Block}
    (hc : s.store.get? c.id = some c) (hk : c.kind.isGenerative = true) :
    ∃ new, (s.propagate backend [c.id] false).2.requests = s.requests ++ new ∧
      (c.IsCurrent s.store → new.filter (fun r => r.id = c.id) = []) ∧
      (¬ c.IsCurrent s.store →
        new.filter (fun r => r.id = c.id) = [s.store.requestFor c]) := by
  obtain ⟨new, requests, nodup, perm⟩ := asks_run hs backend [c.id] false
  obtain ⟨n, turned⟩ := first_turn hs backend hc hk
  have ended := steps_bound hs backend [c.id] false n
  have stage := stage_steps hs backend [c.id] false n
  refine ⟨new, requests, fun current => ?_, fun stale => ?_⟩
  · have skipped : c.id ∈ (s.propagate backend [c.id] false).1.skipped := by
      have extended := report_extends_steps hs stage (start s [c.id] false).bound
      rw [ended] at extended
      exact extended.skipped.subset (turned.skips current)
    rw [List.filter_eq_nil_iff]
    intro r hr e
    have e : r.id = c.id := of_decide_eq_true e
    have apart := List.nodup_append.mp (nodup_settled hs backend [c.id] false)
    have asked := perm.mem_iff.mp (List.mem_map_of_mem (f := (·.id)) hr)
    rw [e] at asked
    rcases List.mem_append.mp asked with computed | failed
    · exact (List.nodup_append.mp apart.1).2.2 _ (List.mem_filter.mp computed).1 _ skipped rfl
    · exact apart.2.2 _ (List.mem_append_right _ skipped) _ failed rfl
  · obtain ⟨more, e⟩ := requests_steps hs stage (start s [c.id] false).bound
    rw [ended, turned.asks stale, ← requests_propagate, requests, List.append_assoc,
      List.append_cancel_left_eq] at e
    have first : s.store.requestFor c ∈ new := e ▸ List.mem_cons_self ..
    exact filter_id_eq nodup first

end Batch

/-- What a user does to a block while working on it: give it a text or a transform, or ask for its
content. -/
inductive Draft where
  | data (text : String)
  | transform (text : String)
  | request
deriving DecidableEq, Repr

namespace Draft

def command (id : BlockId) : Draft → Command
  | .data text => .editData id text
  | .transform text => .editTransform id text
  | .request => .requestUpdate id false

def text? : Draft → Option String
  | .data text => some text
  | _ => none

def transform? : Draft → Option String
  | .transform text => some text
  | _ => none

/-- The time that a row of drafts takes, if each comes some time after the one before. -/
def elapsed : List (Nat × Draft) → Nat
  | [] => 0
  | (wait, _) :: rest => wait + elapsed rest

/-- Of what drafts write, the last that is of the kind that `written` looks for. -/
def last? (written : Draft → Option String) (ds : List Draft) : Option String :=
  (ds.filterMap written).getLast?

theorem last?_cons (written : Draft → Option String) (d : Draft) (ds : List Draft) :
    last? written (d :: ds) = (last? written ds).or (written d) := by
  unfold last?
  cases h : written d with
  | none => rw [List.filterMap_cons_none h, Option.or_none]
  | some text =>
    rw [List.filterMap_cons_some h, List.getLast?_cons]
    cases (ds.filterMap written).getLast? <;> rfl

end Draft

/-- The block with the text and the transform that were written last. -/
def Block.redrafted (ds : List Draft) (b : Block) : Block :=
  { b with
    data := (Draft.last? Draft.text? ds).getD b.data
    transform := (Draft.last? Draft.transform? ds).or b.transform }

theorem Block.redrafted_cons (d : Draft) (ds : List Draft) (b : Block) :
    b.redrafted (d :: ds) = (b.redrafted [d]).redrafted ds := by
  unfold redrafted
  simp only [Draft.last?_cons]
  cases Draft.last? Draft.text? ds <;> cases Draft.last? Draft.transform? ds <;> rfl

theorem Store.modify_eq_self {s : Store} {id : BlockId} {f : Block → Block}
    (h : ∀ b ∈ s.blocks, f b = b) : s.modify id f = s := by
  refine Store.ext_blocks ((List.map_congr_left fun b hb => ?_).trans (List.map_id _)) rfl
  show (if b.id = id then f b else b) = b
  split
  · exact h b hb
  · rfl

namespace Session

variable {backend : Backend} {s t u : Session} {id : BlockId} {b : Block} {due time : Nat}

/-- Drafts for a block, each some time after the one before, with what is answered to each. -/
def draftAll (backend : Backend) (id : BlockId) (s : Session) :
    List (Nat × Draft) → List (Except Error Outcome) × Session
  | [] => ([], s)
  | (wait, d) :: rest =>
    let (answer, t) := ({ s with now := s.now + wait } : Session).execute backend (d.command id)
    let (answers, u) := t.draftAll backend id rest
    (answer :: answers, u)

/-! ## One draft -/

/-- A session in which a draft was parked. -/
structure Drafted (id : BlockId) (due : Nat) (d : Draft) (t s : Session) : Prop where
  now_eq : t.now = s.now
  settings_eq : t.settings = s.settings
  requests_eq : t.requests = s.requests
  store_eq : t.store = s.store.modify id (Block.redrafted [d])
  parking_eq : t.parking = s.parking.insert id due

theorem now_save (s : Session) : s.save.now = s.now := by
  rcases s.save_cases with e | e <;> rw [e]
  rw [emit_eq]

theorem settings_save (s : Session) : s.save.settings = s.settings := by
  rcases s.save_cases with e | e <;> rw [e]
  rw [emit_eq]

theorem now_graphChanged (s : Session) : s.graphChanged.now = s.now := by
  rw [graphChanged, emit_eq]
  rfl

theorem settings_graphChanged (s : Session) : s.graphChanged.settings = s.settings := by
  rw [graphChanged, emit_eq]
  rfl

theorem requestUpdate_parks (backend : Backend) (hb : s.store.get? id = some b)
    (ready : s.readyAt? b = some due) (early : s.now < due) :
    s.requestUpdate backend id false =
      (.ok none, { s with parking := s.parking.insert id due }) := by
  rw [requestUpdate, Store.need, hb]
  dsimp only
  rw [ready, if_neg Bool.false_ne_true, Option.filter_some_pos (by simpa using early)]

/-- A draft that is accepted before a block may be asked about again is parked. -/
theorem draft_parked (hb : s.store.get? id = some b) (generative : b.kind.isGenerative = true)
    (stamp : b.requested = some time) (early : s.now < time + s.settings.throttleDelay)
    (backend : Backend) (d : Draft) {o : Outcome}
    (accepted : (s.execute backend (d.command id)).1 = .ok o) :
    o = .deferred ∧ (s.execute backend (d.command id)).2.Drafted id
      (time + s.settings.throttleDelay) d s := by
  -- Whatever was written, the request is made in a session like `s` but for the store.
  have parks : ∀ t : Session, t.now = s.now → t.settings = s.settings → t.requests = s.requests →
      t.store = s.store.modify id (Block.redrafted [d]) → t.parking = s.parking →
      (t.requestUpdate backend id false).1 = .ok none ∧
        (t.requestUpdate backend id false).2.Drafted id (time + s.settings.throttleDelay) d s := by
    intro t now settings requests store parking
    have there : t.store.get? id = some (b.redrafted [d]) := by
      rw [store]
      exact Store.get?_modify_self (fun _ => rfl) hb
    have ready : t.readyAt? (b.redrafted [d]) = some (time + s.settings.throttleDelay) :=
      readyAt?_eq_some_iff.mpr ⟨generative, time, stamp, by rw [settings]⟩
    rw [requestUpdate_parks backend there ready (now ▸ early)]
    refine ⟨rfl, now, settings, requests, store, ?_⟩
    rw [← parking]
  cases d with
  | data text =>
    change (s.editData backend id text).1.map .ofUpdate = .ok o at accepted
    show o = .deferred ∧ (s.editData backend id text).2.Drafted ..
    unfold editData at accepted ⊢
    cases edit : s.store.setData id text with
    | error e =>
      rw [edit] at accepted
      cases accepted
    | ok store =>
      rw [edit] at accepted
      dsimp only at accepted ⊢
      let edited : Session := { s with store }
      obtain ⟨answer, drafted⟩ := parks edited.graphChanged.save
        ((now_save _).trans (now_graphChanged edited))
        ((settings_save _).trans (settings_graphChanged edited))
        ((requests_save _).trans (requests_emit ..))
        ((store_graphChanged_save edited).trans (Store.setData_eq_ok edit).2)
        (parking_graphChanged_save edited)
      rw [answer] at accepted
      cases accepted
      exact ⟨rfl, drafted⟩
  | transform text =>
    change (s.editTransform backend id text).1.map .ofUpdate = .ok o at accepted
    show o = .deferred ∧ (s.editTransform backend id text).2.Drafted ..
    unfold editTransform at accepted ⊢
    cases edit : s.store.setTransform id text with
    | error e =>
      rw [edit] at accepted
      cases accepted
    | ok store =>
      rw [edit] at accepted
      dsimp only at accepted ⊢
      let edited : Session := { s with store }
      obtain ⟨answer, drafted⟩ := parks edited.save (now_save edited) (settings_save edited)
        (requests_save edited) ((store_save edited).trans (Store.setTransform_eq_ok edit).2)
        (parking_save edited)
      rw [answer] at accepted
      cases accepted
      exact ⟨rfl, drafted⟩
  | request =>
    change (s.requestUpdate backend id false).1.map .ofUpdate = .ok o at accepted
    show o = .deferred ∧ (s.requestUpdate backend id false).2.Drafted ..
    have same : s.store = s.store.modify id (Block.redrafted [.request]) :=
      (Store.modify_eq_self fun _ _ => rfl).symm
    obtain ⟨answer, drafted⟩ := parks s rfl rfl rfl same rfl
    rw [answer] at accepted
    cases accepted
    exact ⟨rfl, drafted⟩

/-! ## Drafts one after another -/

/-- If no other block has a request parked, none has after a request for the block was parked. -/
theorem entries_insert_alone {p : Parking} (nodup : p.ids.Nodup) (alone : ∀ x ∈ p.ids, x = id) :
    (p.insert id due).entries = [(id, due)] := by
  obtain ⟨entries⟩ := p
  show Parking.insertEntry id due entries = [(id, due)]
  match entries with
  | [] => rfl
  | [e] =>
    have same : e.1 = id := alone e.1 (List.mem_singleton_self _)
    rw [Parking.insertEntry, if_pos same]
  | e :: e' :: rest =>
    have first : e.1 = id := alone e.1 (List.mem_cons_self ..)
    have second : e'.1 = id := alone e'.1 (List.mem_cons_of_mem _ (List.mem_cons_self ..))
    have twice : e.1 ∈ (e' :: rest).map (·.1) := by
      rw [first, ← second]
      exact List.mem_cons_self ..
    exact absurd twice (List.nodup_cons.mp nodup).1

/-- What a row of drafts comes to, if none of them is refused and the last one comes before the
block may be asked about again. -/
structure Coalesced (id : BlockId) (due : Nat) (drafts : List (Nat × Draft)) (t s : Session) :
    Prop where
  now_eq : t.now = s.now + Draft.elapsed drafts
  settings_eq : t.settings = s.settings
  requests_eq : t.requests = s.requests
  store_eq : t.store = s.store.modify id (Block.redrafted (drafts.map (·.2)))
  entries_eq : t.parking.entries = if drafts = [] then s.parking.entries else [(id, due)]

theorem Coalesced.nil (id : BlockId) (due : Nat) (s : Session) : s.Coalesced id due [] s where
  now_eq := rfl
  settings_eq := rfl
  requests_eq := rfl
  store_eq := (Store.modify_eq_self fun _ _ => rfl).symm
  entries_eq := rfl

theorem Coalesced.cons {wait : Nat} {d : Draft} {drafts : List (Nat × Draft)}
    (step : t.Drafted id due d { s with now := s.now + wait })
    (entries : t.parking.entries = [(id, due)]) (rest : u.Coalesced id due drafts t) :
    u.Coalesced id due ((wait, d) :: drafts) s where
  now_eq := by
    rw [rest.now_eq, step.now_eq, Draft.elapsed, Nat.add_assoc]
  settings_eq := rest.settings_eq.trans step.settings_eq
  requests_eq := rest.requests_eq.trans step.requests_eq
  store_eq := by
    rw [rest.store_eq, step.store_eq, Store.modify_modify (f := Block.redrafted [d]) fun _ => rfl]
    exact congrArg _ (funext fun b => (Block.redrafted_cons d _ b).symm)
  entries_eq := by
    rw [rest.entries_eq, entries, ite_self]
    exact (if_neg (List.cons_ne_nil _ _)).symm

/-- Drafts that come before a block may be asked about again are parked, and come to what was
written last. -/
theorem drafts_parked (backend : Backend) {drafts : List (Nat × Draft)}
    (hb : s.store.get? id = some b) (generative : b.kind.isGenerative = true)
    (stamp : b.requested = some time) (nodup : s.parking.ids.Nodup)
    (alone : ∀ x ∈ s.parking.ids, x = id)
    (early : s.now + Draft.elapsed drafts < time + s.settings.throttleDelay)
    (accepted : ∀ answer ∈ (s.draftAll backend id drafts).1, ∃ o, answer = .ok o) :
    (∀ answer ∈ (s.draftAll backend id drafts).1, answer = .ok .deferred) ∧
      (s.draftAll backend id drafts).2.Coalesced id (time + s.settings.throttleDelay) drafts s := by
  induction drafts generalizing s b with
  | nil => exact ⟨fun answer h => absurd h List.not_mem_nil, .nil id _ s⟩
  | cons draft drafts ih =>
    obtain ⟨wait, d⟩ := draft
    rw [Draft.elapsed] at early
    let waited : Session := { s with now := s.now + wait }
    let drafted := waited.execute backend (d.command id)
    obtain ⟨o, ok⟩ := accepted drafted.1 (List.mem_cons_self ..)
    have before : waited.now < time + waited.settings.throttleDelay := by
      show s.now + wait < time + s.settings.throttleDelay
      omega
    obtain ⟨rfl, step⟩ := draft_parked (s := waited) hb generative stamp before backend d ok
    have settings : drafted.2.settings = s.settings := step.settings_eq
    have there : drafted.2.store.get? id = some (b.redrafted [d]) := by
      rw [step.store_eq]
      exact Store.get?_modify_self (fun _ => rfl) hb
    have entries : drafted.2.parking.entries = [(id, time + s.settings.throttleDelay)] := by
      rw [step.parking_eq]
      exact entries_insert_alone nodup alone
    have ids : drafted.2.parking.ids = [id] := by
      rw [Parking.ids, entries]
      rfl
    have later : drafted.2.now + Draft.elapsed drafts <
        time + drafted.2.settings.throttleDelay := by
      rw [step.now_eq, settings]
      show s.now + wait + _ < time + s.settings.throttleDelay
      omega
    obtain ⟨deferred, rest⟩ := ih there generative stamp (ids ▸ List.nodup_singleton id)
      (fun x hx => List.mem_singleton.mp (ids ▸ hx)) later
      fun answer h => accepted answer (List.mem_cons_of_mem _ h)
    rw [settings] at rest
    refine ⟨fun answer h => ?_, .cons step entries rest⟩
    rcases List.mem_cons.mp h with rfl | h
    · exact ok
    · exact deferred answer h

/-! ## The request that was parked -/

section
variable (entries : s.parking.entries = [(id, due)])

include entries

theorem flushDue_early (backend : Backend) (early : s.now < due) :
    s.flushDue backend = (none, s) := by
  have none_due : s.parking.dueAt s.now = [] := by
    rw [Parking.dueAt, entries, List.filter_cons_of_neg (by simpa using early)]
    rfl
  rw [flushDue, none_due]
  rfl

theorem flushDue_late (backend : Backend) (late : due ≤ s.now) :
    ∃ rest : Session, rest = { s with parking := {} } ∧ s.flushDue backend =
      (some (rest.propagate backend [id] false).1, (rest.propagate backend [id] false).2) := by
  have one_due : s.parking.dueAt s.now = [id] := by
    rw [Parking.dueAt, entries, List.filter_cons_of_pos (by simpa using late)]
    rfl
  have gone : s.parking.erase id = {} := by
    rw [Parking.erase, entries, List.filter_cons_of_neg (by simp)]
    rfl
  rw [flushDue, one_due]
  exact ⟨_, rfl, by rw [← gone]; rfl⟩

end

/-- Drafts that come before a block may be asked about again come to one request.  Each of them is
parked, and so the store changes by what was written last and nothing else.  The request is due at
the end of the delay, and not run before.  When it is run it asks the generator for what was written
last, unless the content came from that already. -/
theorem drafts_coalesce (h : s.Reachable) (hb : s.store.get? id = some b)
    (generative : b.kind.isGenerative = true) (stamp : b.requested = some time)
    (alone : ∀ x ∈ s.parking.ids, x = id) (backend : Backend) {drafts : List (Nat × Draft)}
    (some_draft : drafts ≠ [])
    (early : s.now + Draft.elapsed drafts < time + s.settings.throttleDelay)
    (accepted : ∀ answer ∈ (s.draftAll backend id drafts).1, ∃ o, answer = .ok o) :
    let due := time + s.settings.throttleDelay
    let u := (s.draftAll backend id drafts).2
    let c := b.redrafted (drafts.map (·.2))
    (∀ answer ∈ (s.draftAll backend id drafts).1, answer = .ok .deferred) ∧
      u.requests = s.requests ∧ u.parking.entries = [(id, due)] ∧
      u.store = s.store.modify id (Block.redrafted (drafts.map (·.2))) ∧
      ∀ (later : Backend) (wait : Nat),
        let v : Session := { u with now := u.now + wait }
        (v.now < due → v.flushDue later = (none, v)) ∧
          (due ≤ v.now → ∃ report new, (v.flushDue later).1 = some report ∧
            (v.flushDue later).2.parking.entries = [] ∧
            (v.flushDue later).2.requests = s.requests ++ new ∧
            (b.input = some (u.store.resolvedText c) ∧ b.applied.getD "" = c.transform.getD "" →
              new.filter (fun r => r.id = id) = []) ∧
            (¬ (b.input = some (u.store.resolvedText c) ∧
                b.applied.getD "" = c.transform.getD "") →
              ∃ r, new.filter (fun r => r.id = id) = [r] ∧ r.input = u.store.resolvedText c ∧
                r.transform = c.transform.getD "")) := by
  intro due u c
  obtain ⟨deferred, coalesced⟩ :=
    drafts_parked backend hb generative stamp h.ascends.nodup alone early accepted
  have entries : u.parking.entries = [(id, due)] := by
    rw [coalesced.entries_eq, if_neg some_draft]
  have hc : u.store.get? id = some c := by
    rw [coalesced.store_eq]
    exact Store.get?_modify_self (fun _ => rfl) hb
  have hid : c.id = id := (Store.mem_of_get? hc).2
  have sound : u.store.Sound := by
    rw [coalesced.store_eq]
    exact h.sound.modify (fun _ => rfl) fun _ => rfl
  have transform : c.effectiveTransform = c.transform := if_pos generative
  refine ⟨deferred, coalesced.requests_eq, entries, coalesced.store_eq, fun later wait => ?_⟩
  intro v
  refine ⟨flushDue_early (s := v) entries later, fun late => ?_⟩
  obtain ⟨rest, unparked, flushed⟩ := flushDue_late (s := v) entries later late
  have store : rest.store = u.store := by rw [unparked]
  have requests : rest.requests = s.requests := by
    rw [unparked]
    exact coalesced.requests_eq
  have seed : rest.store.get? c.id = some c := by rw [store, hid, hc]
  obtain ⟨new, asked, current, stale⟩ :=
    Batch.requests_of_seed (store ▸ sound) later seed generative
  rw [hid] at asked current stale
  rw [store] at current stale
  rw [flushed]
  refine ⟨_, new, rfl, ?_, asked.trans (congrArg (· ++ new) requests), fun same => ?_,
    fun differs => ?_⟩
  · rw [parking_propagate (store ▸ sound), unparked]
  · exact current ⟨same.1, same.2.trans (congrArg (·.getD "") transform.symm)⟩
  · refine ⟨_, stale fun same => differs ⟨same.1, ?_⟩, rfl, congrArg (·.getD "") transform⟩
    exact same.2.trans (congrArg (·.getD "") transform)

/-- A block that mentions another one, after the generator answered for it. -/
def composed : Session :=
  ofBlocks [{ id := ⟨"s"⟩, name := "S", kind := .static, data := "a" },
    { id := ⟨"x"⟩, name := "X", kind := .generativeText, data := "#S" }]

/-- Four drafts in three seconds are parked, and the generator is asked once when five have passed,
with the last text and the transform. -/
theorem drafts_coalesce_composed :
    let backend : Backend := { answer := fun r => .ok (.text r.input) }
    let drafts : List (Nat × Draft) := [(1000, .data "#S!"), (500, .transform "short"),
      (1000, .request), (500, .data "#S?")]
    let u := (composed.draftAll backend ⟨"x"⟩ drafts).2
    let v : Session := { u with now := u.now + 1000 }
    let w : Session := { u with now := u.now + 2000 }
    composed.Reachable ∧
      (∃ b, composed.store.get? ⟨"x"⟩ = some b ∧ b.kind.isGenerative = true ∧
        b.requested = some 0 ∧ b.input = some "a" ∧ b.applied = some "") ∧
      composed.parking.ids = [] ∧ composed.now + Draft.elapsed drafts < 0 + 5000 ∧
      (∀ answer ∈ (composed.draftAll backend ⟨"x"⟩ drafts).1, answer = .ok .deferred) ∧
      u.requests = composed.requests ∧ u.parking.entries = [(⟨"x"⟩, 5000)] ∧
      v.flushDue backend = (none, v) ∧
      ∃ new r, (w.flushDue backend).2.requests = composed.requests ++ new ∧
        new.filter (fun r => r.id = ⟨"x"⟩) = [r] ∧ r.input = "a?" ∧ r.transform = "short" := by
  intro backend drafts u v w
  have reachable : composed.Reachable := reachable_ofBlocks _
  have begun : ∃ b, composed.store.get? ⟨"x"⟩ = some b ∧ b.kind.isGenerative = true ∧
      b.requested = some 0 ∧ b.input = some "a" ∧ b.applied = some "" :=
    ⟨(composed.store.get? ⟨"x"⟩).get (by decide +kernel), by decide +kernel⟩
  have unparked : composed.parking.ids = [] := by decide +kernel
  have early : composed.now + Draft.elapsed drafts < 0 + composed.settings.throttleDelay := by
    decide +kernel
  have accepted : ∀ answer ∈ (composed.draftAll backend ⟨"x"⟩ drafts).1,
      answer = .ok .deferred := by decide +kernel
  have times : v.now < 0 + composed.settings.throttleDelay ∧
      0 + composed.settings.throttleDelay ≤ w.now := by decide +kernel
  obtain ⟨b, hb, generative, stamp, input, applied⟩ := begun
  have alone : ∀ x ∈ composed.parking.ids, x = ⟨"x"⟩ := by
    rw [unparked]
    exact fun x hx => absurd hx List.not_mem_nil
  obtain ⟨deferred, requests, entries, store, flushed⟩ := drafts_coalesce reachable hb generative
    stamp alone backend (List.cons_ne_nil _ _) early fun answer h => ⟨_, accepted answer h⟩
  obtain ⟨-, new, -, -, asked, -, stale⟩ := (flushed backend 2000).2 times.2
  have there : u.store.get? ⟨"x"⟩ = some (b.redrafted (drafts.map (·.2))) := by
    rw [store]
    exact Store.get?_modify_self (fun _ => rfl) hb
  have resolved : (u.store.get? ⟨"x"⟩).map u.store.resolvedText = some "a?" := by decide +kernel
  rw [there] at resolved
  have text : u.store.resolvedText (b.redrafted (drafts.map (·.2))) = "a?" :=
    Option.some.inj resolved
  have differs : ¬ (b.input = some (u.store.resolvedText (b.redrafted (drafts.map (·.2)))) ∧
      b.applied.getD "" = (b.redrafted (drafts.map (·.2))).transform.getD "") := by
    rw [text, input]
    exact fun same => absurd same.1 (by decide)
  obtain ⟨r, single, read, brief⟩ := stale differs
  exact ⟨reachable, ⟨b, hb, generative, stamp, input, applied⟩, unparked, early, deferred, requests,
    entries, (flushed backend 1000).1 times.1, new, r, asked, single, read.trans text, brief⟩

end Session
end Workbook
