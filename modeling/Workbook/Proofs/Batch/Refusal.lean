import Mathlib.Data.List.Nodup
import Workbook.Proofs.Batch.Complete
import Workbook.Proofs.Batch.Requests

/-!
Batches whose related seeds are refused.

If two seeds are joined, the queue of a batch stays empty.  Only isolated seeds have turns then, and
nothing depends on those, so nothing comes into the queue later (`Quiet`).  All that such a batch
records, but for the cycle that it began with, is about isolated blocks.  If no two seeds are
joined, all related ones wait from the beginning (`propagate_refuses_or_takes_seeds`).
-/

namespace Workbook

/-- The members of the cycle that an entry of the journal reports, if it reports one. -/
def Moment.cycle? : Moment → Option (List BlockId)
  | .emitted (.cycleDetected ids) => some ids
  | _ => none

theorem Moment.cycle?_of_about {m : Moment} {x : BlockId} (h : m.about? = some x) :
    m.cycle? = none := by
  unfold cycle?
  split
  · cases h
  · rfl

namespace Session

theorem cycle?_told (s : Session) (ids : List BlockId) :
    (s.told (.cycleDetected ids)).filterMap Moment.cycle? = if s.watched then [ids] else [] := by
  unfold told
  split <;> rfl

/-- Saving adds no more to the journal than that it was done. -/
theorem journal_save (s : Session) :
    ∃ new, s.save.journal = s.journal ++ new ∧
      ∀ m ∈ new, m = .emitted (.persisted s.store.size) := by
  rcases s.save_cases with e | e
  · exact ⟨[], by rw [e, List.append_nil], fun _ hm => absurd hm List.not_mem_nil⟩
  · exact ⟨s.told (.persisted s.store.size), by rw [e, emit_eq]; rfl, fun _ => eq_of_mem_told⟩

/-- The journal of `t` goes on from that of `s` with entries about blocks that satisfy `p`. -/
def Adds (p : BlockId → Prop) (t s : Session) : Prop :=
  ∃ new, t.journal = s.journal ++ new ∧ ∀ m ∈ new, ∃ x, m.about? = some x ∧ p x

namespace Adds

variable {p : BlockId → Prop} {s t u : Session} {id : BlockId}

theorem of_eq (h : t.journal = s.journal) : t.Adds p s :=
  ⟨[], by rw [h, List.append_nil], fun _ hm => absurd hm List.not_mem_nil⟩

theorem trans (hut : u.Adds p t) (hts : t.Adds p s) : u.Adds p s := by
  obtain ⟨new, e, about⟩ := hts
  obtain ⟨more, e', about'⟩ := hut
  refine ⟨new ++ more, by rw [e', e, List.append_assoc], fun m hm => ?_⟩
  rcases List.mem_append.mp hm with hm | hm
  · exact about m hm
  · exact about' m hm

theorem single (hp : p id) {m : Moment} (hm : m.about? = some id)
    (h : t.journal = s.journal ++ [m]) : t.Adds p s := by
  refine ⟨[m], h, fun m' hm' => ⟨id, ?_, hp⟩⟩
  rw [List.mem_singleton.mp hm']
  exact hm

theorem told (hp : p id) {e : Event} (he : e.about? = some id)
    (h : t.journal = s.journal ++ s.told e) : t.Adds p s := by
  unfold Session.told at h
  split at h
  · exact .single hp (m := .emitted e) he h
  · exact .of_eq (h.trans (List.append_nil _))

theorem resolved (hp : p id) (s : Session) : (s.record (.resolved id)).Adds p s :=
  .single hp rfl rfl

theorem fill (hp : p id) (s : Session) (content : Content) (input : String)
    (applied : Option String) : (s.fill id content input applied).Adds p s := by
  have done : ({ s with journal := s.journal ++ s.told (.statusChanged id .done) } :
      Session).Adds p s := .told hp rfl rfl
  exact (told hp (e := .contentUpdated id) rfl (List.append_assoc ..).symm).trans done

theorem await {r : Request} (hp : p r.id) (s : Session) : (s.await r).Adds p s := by
  have waiting : ({ s with journal := s.journal ++ s.told (.statusChanged r.id .waiting) } :
      Session).Adds p s := .told hp rfl rfl
  exact (single hp (m := .asked r s.now) rfl (List.append_assoc ..).symm).trans waiting

theorem refuse (hp : p id) (s : Session) (message : String) : (s.refuse id message).Adds p s :=
  .told hp (e := .statusChanged id (.failed message)) rfl rfl

end Adds

theorem Taken.adds {p : BlockId → Prop} {s session : Session} {force : Bool} {id : BlockId}
    {turn : Turn} (h : s.Taken force id turn session) (hp : p id) : session.Adds p s := by
  cases h with
  | inert => exact .of_eq rfl
  | current => exact .resolved hp s
  | applied => exact (Adds.fill hp ..).trans (.resolved hp s)
  | asked b hb =>
    have hid : (s.store.requestFor b).id = id := (Store.mem_of_get? hb).2
    exact (Adds.await (by rw [hid]; exact hp) _).trans (.resolved hp s)

end Session

namespace Batch

open Workbook.Graph (alone crowded)

variable {backend : Backend} {s : Session} {seeds : List BlockId} {force : Bool}
  {pending pending' : List BlockId} {b b' : Batch}

/-! ## Batches in which only isolated blocks have turns -/

/-- A batch in which nothing has come into the queue, and that has done nothing since it began in
`b₀` but to compute isolated blocks. -/
structure Quiet (g : Graph) (b₀ b : Batch) : Prop where
  queue : b.queue = []
  chain : b.chain = none
  handled : b.handled = []
  cycle : b.report.cycle = b₀.report.cycle
  adds : b.session.Adds (fun x => g.isIsolated x = true) b₀.session

namespace Quiet

variable {g : Graph} {b₀ : Batch} {id : BlockId} {session : Session}

theorem draw (h : Quiet g b₀ b) (hd : Draws pending b id pending' b') :
    pending = id :: pending' ∧ b' = b := by
  cases hd with
  | isolated => exact ⟨rfl, rfl⟩
  | queued _ hq =>
    rw [h.queue] at hq
    cases hq

theorem close (h : Quiet g b₀ b) {r : Request} (hr : Closes b r b') :
    r ∈ b.pool ∧ b' = { b with pool := b.pool.erase r } := by
  cases hr with
  | chain hc =>
    rw [h.chain] at hc
    cases hc
  | pool hr => exact ⟨hr, rfl⟩

theorem go (h : Quiet g b₀ b)
    (hs : b'.session.Adds (fun x => g.isIsolated x = true) b.session)
    (hq : b'.queue = b.queue) (hc : b'.chain = b.chain) (hh : b'.handled = b.handled)
    (hr : b'.report.cycle = b.report.cycle) : Quiet g b₀ b' :=
  ⟨hq.trans h.queue, hc.trans h.chain, hh.trans h.handled, hr.trans h.cycle, hs.trans h.adds⟩

theorem compute (h : Quiet g b₀ b) (hg : b.session.graph = g) (hi : g.isIsolated id = true) :
    Quiet g b₀ ((b.schedule id).noteComputed id) := by
  rw [schedule_of_isolated]
  · exact h.go (.of_eq rfl) rfl rfl rfl rfl
  · rw [hg]
    exact Graph.dependents_of_isIsolated hi

end Quiet

theorem answered_adds {p : BlockId → Prop} {r : Request} (hp : p r.id) (backend : Backend)
    (b : Batch) : (b.answered backend r).Adds p b.session :=
  .single hp (m := .answered r) rfl rfl

theorem Moves.quiet (hm : Moves backend pending b pending' b') (framed : Framed s force b)
    (isolated : ∀ x ∈ pending, x ∈ isolatedSeeds s seeds)
    (places : Places (.ofStore s.store) pending b) {b₀ : Batch}
    (h : Quiet (.ofStore s.store) b₀ b) : Quiet (.ofStore s.store) b₀ b' := by
  have isolated := fun x hx => (mem_isolatedSeeds.mp (isolated x hx)).2
  cases hm with
  | skipped hd ht =>
    obtain ⟨rfl, rfl⟩ := h.draw hd
    exact h.go (ht.adds (isolated _ (List.mem_cons_self ..))) rfl rfl rfl rfl
  | @applied _ _ _ b₁ id session hd ht =>
    have turned := framed.turn hd ht
    obtain ⟨rfl, rfl⟩ := h.draw hd
    have hi := isolated id (List.mem_cons_self ..)
    have taken : Quiet (.ofStore s.store) b₀ { b₁ with session } :=
      h.go (ht.adds hi) rfl rfl rfl rfl
    exact taken.compute turned.graph_eq hi
  | askedIsolated ht =>
    exact h.go (ht.adds (isolated _ (List.mem_cons_self ..))) rfl rfl rfl rfl
  | askedQueued _ hq =>
    rw [h.queue] at hq
    cases hq
  | @filled _ b₁ r content hr _ =>
    have framed := framed.fill backend hr content
    obtain ⟨hmem, rfl⟩ := h.close hr
    have hi := places.pool_isolated r hmem
    have filled : Quiet (.ofStore s.store) b₀
        { b with
          session := (b.answered backend r).fill r.id content r.input (some r.transform)
          pool := b.pool.erase r } :=
      h.go ((Session.Adds.fill hi ..).trans (answered_adds hi backend b)) rfl rfl rfl rfl
    exact filled.compute framed.graph_eq hi
  | @refused _ _ r e hr =>
    obtain ⟨hmem, rfl⟩ := h.close hr
    have hi := places.pool_isolated r hmem
    exact h.go ((Session.Adds.refuse hi ..).trans (answered_adds hi backend b)) rfl rfl rfl rfl

theorem Stage.quiet (hs : s.store.Sound) (h : Stage backend s seeds force pending b)
    (hq : (Batch.opening s seeds force).queue = []) :
    Quiet (.ofStore s.store) (Batch.opening s seeds force) b := by
  induction h with
  | opening =>
    refine ⟨hq, ?_, ?_, rfl, .of_eq rfl⟩
    · rw [opening_frame]
      rfl
    · rw [opening_frame]
      rfl
  | move h hm ih => exact hm.quiet h.framed h.pending_subset (h.places hs) ih

/-- A quiet batch does not come to a block that is not isolated. -/
theorem Quiet.not_accounted {b₀ : Batch} {g : Graph} (h : Quiet g b₀ b) (places : Places g [] b)
    {x : BlockId} (hx : ¬ g.isIsolated x = true) : x ∉ accounted [] b := by
  intro drawn
  have handled := (places.mem_handled x).mpr ⟨hx, drawn⟩
  rw [h.handled] at handled
  exact absurd handled List.not_mem_nil

/-! ## Seeds that are joined -/

theorem opening_of_crowded (hs : s.store.Sound)
    (hc : crowded (relatedSeeds s seeds) (Graph.ofStore s.store).components ≠ []) (force : Bool) :
    ∃ x ∈ seedsOf s seeds, ∃ y ∈ seedsOf s seeds, x ≠ y ∧ (Graph.ofStore s.store).Joined x y ∧
      opening s seeds force =
        (bare s force).noteCycle ⟨(Graph.ofStore s.store).component x⟩ := by
  have hg := Graph.sound_ofStore hs
  have graded := (Graph.graded_components hg).1
  rcases opening_cases s seeds force with ⟨empty, -⟩ | ⟨c, more, e, opened⟩
  · exact absurd empty hc
  · obtain ⟨member, x, hx, y, hy, hne, hxc, -, hxy⟩ :=
      Graph.exists_of_mem_crowded graded (e ▸ List.mem_cons_self .. : c ∈ crowded _ _)
    have known : x ∈ (Graph.ofStore s.store).nodes := by
      rw [Graph.nodes_ofStore hs]
      exact (mem_seedsOf.mp (mem_relatedSeeds.mp hx).1).2
    rw [Graph.sorted_eq_component hg graded member hxc known] at opened
    exact ⟨x, (mem_relatedSeeds.mp hx).1, y, (mem_relatedSeeds.mp hy).1, hne, hxy, opened⟩

/-- If two seeds are joined, a batch is quiet. -/
theorem quiet_run (hs : s.store.Sound)
    (hc : crowded (relatedSeeds s seeds) (Graph.ofStore s.store).components ≠ [])
    (backend : Backend) (force : Bool) :
    Quiet (.ofStore s.store) (opening s seeds force) ((start s seeds force).run backend) := by
  obtain ⟨_, -, _, -, -, -, opened⟩ := opening_of_crowded hs hc force
  exact (stage_run hs backend seeds force).quiet hs (by rw [opened]; rfl)

/-- A seed that is joined with no other block is settled, unless it has dependencies and the related
seeds were refused. -/
theorem mem_settled_iff_of_lone (hs : s.store.Sound) {x : BlockId} (hx : x ∈ seedsOf s seeds)
    (lone : ∀ y, (Graph.ofStore s.store).Joined x y → y = x) :
    x ∈ ((start s seeds force).run backend).report.settled ↔
      (Graph.ofStore s.store).isIsolated x = true ∨
        crowded (relatedSeeds s seeds) (Graph.ofStore s.store).components = [] := by
  constructor
  · intro settled
    by_contra hnot
    obtain ⟨related, hc⟩ := not_or.mp hnot
    have places := (stage_run hs backend seeds force).places hs
    have accounted := (mem_accounted_run hs).mpr settled
    exact (quiet_run hs hc backend force).not_accounted places related accounted
  · intro given
    apply mem_settled_of_lone hs lone
    by_cases hi : (Graph.ofStore s.store).isIsolated x = true
    · exact .inl (mem_isolatedSeeds.mpr ⟨hx, hi⟩)
    · exact .inr (mem_queue_opening hs (given.resolve_left hi) (mem_relatedSeeds.mpr ⟨hx, hi⟩))

theorem propagate_journal (backend : Backend) (s : Session) (seeds : List BlockId)
    (force : Bool) : ∃ new, (s.propagate backend seeds force).2.journal =
        ((start s seeds force).run backend).session.journal ++ new ∧
      ∀ m ∈ new, ∃ size, m = .emitted (.persisted size) := by
  rcases s.propagate_cases backend seeds force with e | e
  · exact ⟨[], by rw [e, List.append_nil], fun _ hm => absurd hm List.not_mem_nil⟩
  · obtain ⟨new, e', saved⟩ := ((start s seeds force).run backend).session.journal_save
    exact ⟨new, by rw [e, e'], fun m hm => ⟨_, saved m hm⟩⟩

/-- What a batch records that has refused its related seeds. -/
theorem journal_of_quiet {c : List BlockId}
    (opened : opening s seeds force = (bare s force).noteCycle ⟨c⟩)
    (quiet : Quiet (.ofStore s.store) (opening s seeds force) ((start s seeds force).run backend)) :
    ∃ new, (s.propagate backend seeds force).2.journal = s.journal ++ new ∧
      new.filterMap Moment.cycle? = (if s.watched then [c] else []) ∧
      ∀ r time, .asked r time ∈ new → (Graph.ofStore s.store).isIsolated r.id = true := by
  obtain ⟨turns, e, about⟩ := quiet.adds
  obtain ⟨saved, e', persisted⟩ := propagate_journal backend s seeds force
  have told : (opening s seeds force).session.journal = s.journal ++ s.told (.cycleDetected c) := by
    rw [opened]
    show (s.regraph.emit _).journal = _
    rw [Session.emit_eq]
    rfl
  have silent : (turns ++ saved).filterMap Moment.cycle? = [] := by
    rw [List.filterMap_eq_nil_iff]
    intro m hm
    rcases List.mem_append.mp hm with hm | hm
    · obtain ⟨x, hx, -⟩ := about m hm
      exact Moment.cycle?_of_about hx
    · obtain ⟨size, rfl⟩ := persisted m hm
      rfl
  refine ⟨s.told (.cycleDetected c) ++ (turns ++ saved), ?_, ?_, fun r time hm => ?_⟩
  · rw [e', e, told, List.append_assoc, List.append_assoc]
  · rw [List.filterMap_append, Session.cycle?_told, silent, List.append_nil]
  · rcases List.mem_append.mp hm with hm | hm
    · unfold Session.told at hm
      split at hm
      · cases List.mem_singleton.mp hm
      · exact absurd hm List.not_mem_nil
    · rcases List.mem_append.mp hm with hm | hm
      · obtain ⟨x, hx, isolated⟩ := about _ hm
        cases hx
        exact isolated
      · obtain ⟨size, e⟩ := persisted _ hm
        cases e

/-- If two seeds are joined, a batch changes and asks for isolated blocks only, and reports one
cycle, the ascending ids of a component that holds two seeds.  If no two are, all seeds have their
turns or wait for them when it begins, and one that does not have it in the end was dropped for a
cycle found on the way. -/
theorem propagate_refuses_or_takes_seeds {s : Session} (h : s.Reachable) (backend : Backend)
    (seeds : List BlockId) (force : Bool) :
    let g := Graph.ofStore s.store
    let outcome := s.propagate backend seeds force
    ((∃ x ∈ seeds, ∃ y ∈ seeds, x ∈ s.store.ids ∧ y ∈ s.store.ids ∧ x ≠ y ∧ g.Joined x y) →
      (∀ z, ¬ g.isIsolated z = true → outcome.2.store.get? z = s.store.get? z) ∧
      (∃ x ∈ seeds, ∃ y ∈ seeds, x ∈ s.store.ids ∧ y ∈ s.store.ids ∧ x ≠ y ∧ g.Joined x y ∧
        (∀ z, z ∈ g.component x ↔ g.Joined x z) ∧
        (g.component x).Pairwise (fun a b => a.text < b.text) ∧
        outcome.1.cycle = some ⟨g.component x⟩ ∧
        ∃ new, outcome.2.journal = s.journal ++ new ∧
          new.filterMap Moment.cycle? = (if s.watched then [g.component x] else []) ∧
          ∀ r time, .asked r time ∈ new → g.isIsolated r.id = true) ∧
      ∀ z ∈ seeds, z ∈ s.store.ids → g.isIsolated z = true → outcome.1.settled.count z = 1) ∧
    ((∀ x ∈ seeds, ∀ y ∈ seeds, x ∈ s.store.ids → y ∈ s.store.ids → g.Joined x y → x = y) →
      (start s seeds force).report.cycle = none ∧
      ∀ x ∈ seeds, x ∈ s.store.ids →
        (x ∈ (start s seeds force).queue ∨ x ∈ (start s seeds force).report.settled ∨
          x ∈ (start s seeds force).calls.map (·.id)) ∧
        (x ∈ outcome.1.settled ∨ outcome.1.cycle ≠ none)) := by
  intro g outcome
  have hs := h.sound
  have hg := Graph.sound_ofStore hs
  have run := stage_run hs backend seeds force
  have isolated_settled : ∀ z ∈ seeds, z ∈ s.store.ids → g.isIsolated z = true →
      z ∈ outcome.1.settled := by
    intro z hz known hi
    have seed := mem_seedsOf.mpr ⟨hz, known⟩
    exact (mem_settled_iff_of_lone hs seed fun y hy => hy.1.eq_of_isIsolated hi).mpr (.inl hi)
  constructor
  · intro given
    have hc : crowded (relatedSeeds s seeds) g.components ≠ [] := by
      intro empty
      obtain ⟨x, hx, y, hy, kx, ky, hne, hxy⟩ := given
      exact hne ((crowded_relatedSeeds_eq_nil_iff hs).mp empty x (mem_seedsOf.mpr ⟨hx, kx⟩) y
        (mem_seedsOf.mpr ⟨hy, ky⟩) hxy)
    obtain ⟨x, hx, y, hy, hne, hxy, opened⟩ := opening_of_crowded hs hc force
    obtain ⟨hx, kx⟩ := mem_seedsOf.mp hx
    obtain ⟨hy, ky⟩ := mem_seedsOf.mp hy
    have quiet := quiet_run hs hc backend force
    refine ⟨fun z hz => ?_, ⟨x, hx, y, hy, kx, ky, hne, hxy, fun z => ?_,
      BlockId.pairwise_sorted _, ?_, ?_⟩, ?_⟩
    · show (s.propagate backend seeds force).2.store.get? z = _
      rw [store_propagate]
      exact (run.spares hs (quiet.not_accounted (run.places hs) hz)).get?_eq
    · exact Graph.mem_component hg (Graph.nodes_ofStore hs ▸ kx)
    · exact quiet.cycle.trans (by rw [opened]; rfl)
    · exact journal_of_quiet opened quiet
    · intro z hz known hi
      exact List.count_eq_one_of_mem (nodup_settled hs backend seeds force)
        (isolated_settled z hz known hi)
  · intro apart
    have hc : crowded (relatedSeeds s seeds) g.components = [] := by
      refine (crowded_relatedSeeds_eq_nil_iff hs).mpr fun x hx y hy hxy => ?_
      obtain ⟨hx, kx⟩ := mem_seedsOf.mp hx
      obtain ⟨hy, ky⟩ := mem_seedsOf.mp hy
      exact apart x hx y hy kx ky hxy
    have began : (start s seeds force).report.cycle = none := by
      rw [start_frame]
      rcases opening_cases s seeds force with ⟨-, e⟩ | ⟨c, more, e, -⟩
      · rw [e]
        rfl
      · rw [hc] at e
        cases e
    refine ⟨began, fun x hx known => ⟨?_, ?_⟩⟩
    · have seed := mem_seedsOf.mpr ⟨hx, known⟩
      have begun : Stage backend s seeds force [] (start s seeds force) := .start s seeds force
      have begun := begun.seed_waits_or_drawn hs began seed
      rw [mem_accounted_nil] at begun
      exact begun.imp_left fun hx => hx.resolve_left List.not_mem_nil
    · by_cases hn : outcome.1.cycle = none
      · exact .inl (mem_settled_of_mem_seeds hs hn hx known)
      · exact .inr hn

set_option maxRecDepth 10000 in
/-- Two seeds in the circle are refused and the block by itself is computed; one seed in the circle
is taken, and a cycle is found later. -/
theorem refuses_or_takes_seeds_in_circle :
    let backend : Backend := { answer := fun r => .ok (.text r.input) }
    let g := Graph.ofStore Session.circle.store
    let joined : List BlockId := [⟨"9e3779b9"⟩, ⟨"08d12e65"⟩, ⟨"1715609d"⟩, ⟨"absent"⟩]
    let apart : List BlockId := [⟨"9e3779b9"⟩, ⟨"08d12e65"⟩]
    let refused := Session.circle.propagate backend joined true
    let taken := Session.circle.propagate backend apart true
    Session.circle.Reachable ∧
      (∃ x ∈ joined, ∃ y ∈ joined, x ∈ Session.circle.store.ids ∧ y ∈ Session.circle.store.ids ∧
        x ≠ y ∧ g.Joined x y) ∧
      (∀ z, ¬ g.isIsolated z = true → refused.2.store.get? z = Session.circle.store.get? z) ∧
      refused.1.cycle = some ⟨[⟨"1715609d"⟩, ⟨"8ff34781"⟩, ⟨"9e3779b9"⟩]⟩ ∧
      refused.1.settled.count ⟨"08d12e65"⟩ = 1 ∧
      (∀ x ∈ apart, ∀ y ∈ apart, g.Joined x y → x = y) ∧
      (start Session.circle apart true).report.cycle = none ∧ taken.1.cycle ≠ none ∧
      ∀ x ∈ apart, x ∈ taken.1.settled ∨ taken.1.cycle ≠ none := by
  intro backend g joined apart refused taken
  have graph := Graph.sound_ofStore Session.reachable_circle.sound
  have known : ∀ x ∈ joined, x ≠ ⟨"absent"⟩ → x ∈ Session.circle.store.ids := by decide +kernel
  have seeds : (⟨"9e3779b9"⟩ ∈ joined ∧ ⟨"1715609d"⟩ ∈ joined ∧ ⟨"08d12e65"⟩ ∈ joined) ∧
      ∀ x ∈ apart, x ∈ Session.circle.store.ids := by decide +kernel
  have isolated : g.isIsolated ⟨"08d12e65"⟩ = true := by decide +kernel
  have nodes : ⟨"9e3779b9"⟩ ∈ g.nodes ∧ ⟨"1715609d"⟩ ∈ g.nodes := by decide +kernel
  have reach : ⟨"1715609d"⟩ ∈ g.reach ⟨"9e3779b9"⟩ ∧ ⟨"9e3779b9"⟩ ∈ g.reach ⟨"1715609d"⟩ := by
    decide +kernel
  rw [Graph.mem_reach graph nodes.1, Graph.mem_reach graph nodes.2] at reach
  have cycles : refused.1.cycle = some ⟨[⟨"1715609d"⟩, ⟨"8ff34781"⟩, ⟨"9e3779b9"⟩]⟩ ∧
      taken.1.cycle ≠ none := by decide +kernel
  have pair : ∃ x ∈ joined, ∃ y ∈ joined, x ∈ Session.circle.store.ids ∧
      y ∈ Session.circle.store.ids ∧ x ≠ y ∧ g.Joined x y :=
    ⟨_, seeds.1.1, _, seeds.1.2.1, known _ seeds.1.1 (by decide), known _ seeds.1.2.1 (by decide),
      by decide, reach⟩
  have lone : ∀ x ∈ apart, ∀ y ∈ apart, g.Joined x y → x = y := by
    intro x hx y hy hxy
    by_contra hne
    have related := hxy.1.not_isIsolated hne
    rcases List.mem_pair.mp hx with rfl | rfl
    · rcases List.mem_pair.mp hy with rfl | rfl
      · exact hne rfl
      · exact related.2 isolated
    · exact related.1 isolated
  have refuses := (propagate_refuses_or_takes_seeds Session.reachable_circle backend joined
    true).1 pair
  have takes := (propagate_refuses_or_takes_seeds Session.reachable_circle backend apart true).2
    fun x hx y hy _ _ => lone x hx y hy
  refine ⟨Session.reachable_circle, pair, refuses.1, cycles.1, ?_, lone, takes.1, cycles.2, ?_⟩
  · exact refuses.2.2 _ seeds.1.2.2 (known _ seeds.1.2.2 (by decide)) isolated
  · exact fun x hx => (takes.2 x hx (seeds.2 x hx)).2

end Batch
end Workbook
