import Workbook.Proofs.Batch.Complete

/-!
A batch over blocks that are current does nothing.

What a batch computed or skipped is current at its end if it reports no cycle.  So the next batch,
if it is not forced, finds nothing to compute at any of these blocks: it skips each of them, so
nothing changes that would put another block into the queue.  `Still` is the invariant of such a
batch, and `Idle` what it comes to.

Blocks that share a component cannot be asked for together, even if all of them are current.  Seeds
of a batch that reported no cycle do not share one.
-/

namespace Workbook

/-- The block, if there is one and it is of a kind that is computed, is current. -/
def Store.IsCurrentAt (s : Store) (id : BlockId) : Prop :=
  ∀ b, s.get? id = some b → b.kind.recomputes = true → b.IsCurrent s

namespace Session

/-- The session after the references of some blocks were looked at. -/
def looked (s : Session) (ids : List BlockId) : Session :=
  { s with journal := s.journal ++ ids.map .resolved }

theorem looked_nil (s : Session) : s.looked [] = s := by
  rw [looked, List.map_nil, List.append_nil]

theorem record_looked (s : Session) (ids : List BlockId) (id : BlockId) :
    (s.looked ids).record (.resolved id) = s.looked (ids ++ [id]) := by
  rw [record, looked, looked, List.map_append, ← List.append_assoc]
  rfl

theorem requests_looked (s : Session) (ids : List BlockId) :
    (s.looked ids).requests = s.requests := by
  have none : (ids.map Moment.resolved).filterMap Moment.request? = [] := by
    simp [Moment.request?]
  rw [looked, requests, List.filterMap_append, none, List.append_nil]
  rfl

theorem events_looked (s : Session) (ids : List BlockId) :
    (s.looked ids).events = s.events := by
  rw [events, events, looked, List.filterMap_append, List.filterMap_map]
  simp

end Session

namespace Batch

open Workbook.Graph (alone crowded)

variable {backend later : Backend} {s t : Session} {seeds ids : List BlockId} {force : Bool}
  {pending pending' : List BlockId} {b b' : Batch}

/-! ## Seeds that are not joined -/

/-- A batch that reports no cycle has not been refused its seeds. -/
theorem Stage.crowded_eq_nil (h : Stage backend s seeds force pending b)
    (hn : b.report.cycle = none) :
    crowded (relatedSeeds s seeds) (Graph.ofStore s.store).components = [] := by
  induction h with
  | opening =>
    rcases opening_cases s seeds force with ⟨hc, -⟩ | ⟨c, more, -, e⟩
    · exact hc
    · rw [e] at hn
      cases hn
  | move h hm ih => exact ih (hm.cycle_eq_none hn)

/-! ## Nothing to compute -/

/-- A block that is current is skipped, and at most its references are looked at. -/
theorem taken_of_isCurrentAt {turn : Turn} {session : Session} {id : BlockId}
    (h : s.Taken false id turn session) (current : s.store.IsCurrentAt id) :
    turn = .skipped ∧ (session = s ∨ session = s.record (.resolved id)) := by
  cases h with
  | inert => exact ⟨rfl, .inl rfl⟩
  | current => exact ⟨rfl, .inr rfl⟩
  | applied b hb hk hc =>
    have recomputes : b.kind.recomputes = true := by
      rw [hk]
      rfl
    exact absurd (hc (current b hb recomputes)) Bool.false_ne_true
  | asked b hb hk hc =>
    have recomputes := Kind.recomputes_of_isGenerative hk
    exact absurd (hc (current b hb recomputes)) Bool.false_ne_true

/-- What a batch satisfies that has skipped whatever was taken. -/
structure Still (t : Session) (seeds : List BlockId) (b : Batch) : Prop where
  session_eq : ∃ ids, b.session = t.regraph.looked ids
  force_eq : b.force = false
  calls_eq : b.calls = []
  report_eq : b.report = { skipped := b.report.skipped }
  queue_subset : ∀ x ∈ b.queue, x ∈ seedsOf t seeds
  skipped_subset : ∀ x ∈ b.report.skipped, x ∈ seedsOf t seeds

theorem Still.opening
    (hc : crowded (relatedSeeds t seeds) (Graph.ofStore t.store).components = []) :
    Still t seeds (opening t seeds false) := by
  rcases opening_cases t seeds false with ⟨-, e⟩ | ⟨c, more, hc', -⟩
  · rw [e]
    refine ⟨⟨[], (Session.looked_nil _).symm⟩, rfl, rfl, rfl, fun x hx => ?_, fun x hx => ?_⟩
    · obtain ⟨hx, -⟩ := Graph.mem_of_mem_alone hx
      exact (mem_relatedSeeds.mp hx).1
    · exact absurd hx List.not_mem_nil
  · rw [hc] at hc'
    cases hc'

namespace Still

variable (h : Still t seeds b)

include h

theorem store_eq : b.session.store = t.store := by
  obtain ⟨ids, e⟩ := h.session_eq
  rw [e]
  rfl

/-- The block that is drawn is a seed, and so are those that go on waiting. -/
theorem draw {id : BlockId} (hd : Draws pending b id pending' b')
    (hp : ∀ x ∈ pending, x ∈ seedsOf t seeds) :
    id ∈ seedsOf t seeds ∧ ∀ x ∈ b'.queue, x ∈ seedsOf t seeds := by
  cases hd with
  | isolated => exact ⟨hp id (List.mem_cons_self ..), h.queue_subset⟩
  | queued hc hq =>
    have waits := h.queue_subset
    rw [hq] at waits
    exact ⟨waits id (List.mem_cons_self ..), fun x hx => waits x (List.mem_cons_of_mem id hx)⟩

theorem taken {turn : Turn} {session : Session} {id : BlockId}
    (ht : b.session.Taken b.force id turn session) (current : t.store.IsCurrentAt id) :
    turn = .skipped ∧ ∃ ids, session = t.regraph.looked ids := by
  rw [h.force_eq] at ht
  obtain ⟨skipped, kept⟩ := taken_of_isCurrentAt ht (h.store_eq ▸ current)
  obtain ⟨ids, e⟩ := h.session_eq
  refine ⟨skipped, ?_⟩
  rcases kept with rfl | rfl
  · exact ⟨ids, e⟩
  · exact ⟨ids ++ [id], by rw [e, Session.record_looked]⟩

theorem not_closes {r : Request} : ¬ Closes b r b' := by
  intro hr
  have perm := hr.calls_perm
  rw [h.calls_eq] at perm
  exact absurd perm.length_eq (Nat.zero_ne_add_one _)

theorem move (hm : Moves later pending b pending' b') (hp : ∀ x ∈ pending, x ∈ seedsOf t seeds)
    (current : ∀ x ∈ seedsOf t seeds, t.store.IsCurrentAt x) : Still t seeds b' := by
  cases hm with
  | @skipped _ _ _ b₁ id session hd ht =>
    obtain ⟨seed, queue⟩ := h.draw hd hp
    obtain ⟨-, looked⟩ := h.taken ht (current id seed)
    rw [hd.frame]
    refine ⟨looked, h.force_eq, h.calls_eq, ?_, queue, fun x hx => ?_⟩
    · show { b.report with skipped := b.report.skipped ++ [id] } =
        ({ skipped := b.report.skipped ++ [id] } : Report)
      rw [h.report_eq]
    · rcases List.mem_append.mp hx with hx | hx
      · exact h.skipped_subset x hx
      · rw [List.mem_singleton.mp hx]
        exact seed
  | applied hd ht =>
    obtain ⟨seed, -⟩ := h.draw hd hp
    cases (h.taken ht (current _ seed)).1
  | askedIsolated ht =>
    have seed := hp _ (List.mem_cons_self ..)
    cases (h.taken ht (current _ seed)).1
  | askedQueued hc hq ht =>
    obtain ⟨seed, -⟩ := h.draw (.queued hc hq) hp
    cases (h.taken ht (current _ seed)).1
  | filled hr => exact absurd hr h.not_closes
  | refused hr => exact absurd hr h.not_closes

end Still

theorem Stage.still (h : Stage later t seeds false pending b)
    (hc : crowded (relatedSeeds t seeds) (Graph.ofStore t.store).components = [])
    (current : ∀ x ∈ seedsOf t seeds, t.store.IsCurrentAt x) : Still t seeds b := by
  induction h with
  | opening => exact .opening hc
  | move h hm ih =>
    have seeds := fun x hx => (mem_isolatedSeeds.mp (h.pending_subset x hx)).1
    exact ih.move hm seeds current

/-! ## Idle batches -/

/-- The batch skipped the blocks asked for, each once, and did nothing else: there is nothing in its
report but them, and all that was recorded is that references were looked at.  Requests and events
are those of before, and nothing was saved. -/
structure Idle (t : Session) (asked : List BlockId) (outcome : Report × Session) : Prop where
  report_eq : outcome.1 = { skipped := outcome.1.skipped }
  skipped_perm : outcome.1.skipped.Perm asked
  session_eq : ∃ ids, outcome.2 = t.looked ids
  requests_eq : outcome.2.requests = t.requests
  events_eq : outcome.2.events = t.events
  archive_eq : outcome.2.archive = t.archive
  store_eq : outcome.2.store = t.store

/-- A batch over blocks that are current, no two of them joined. -/
theorem idle_propagate (hs : t.store.Sound) (hg : t.graph = .ofStore t.store)
    (current : ∀ x ∈ seedsOf t seeds, t.store.IsCurrentAt x)
    (apart : ∀ x ∈ seedsOf t seeds, ∀ y ∈ seedsOf t seeds, t.graph.Joined x y → x = y)
    (later : Backend) : Idle t (seedsOf t seeds) (t.propagate later seeds false) := by
  let ended := (start t seeds false).run later
  rw [hg] at apart
  have hc := (crowded_relatedSeeds_eq_nil_iff hs).mpr apart
  have still : Still t seeds ended := (stage_run hs later seeds false).still hc current
  have unsaved : t.propagate later seeds false = (ended.report, ended.session) := by
    unfold Session.propagate
    show (ended.report, if ended.report.computed.isEmpty then _ else _) = _
    rw [still.report_eq]
    rfl
  have cycle : ended.report.cycle = none := by
    rw [still.report_eq]
  have settled : ended.report.settled = ended.report.skipped := by
    rw [still.report_eq]
    exact List.append_nil _
  have nodup := nodup_settled hs later seeds false
  -- neither list holds a block twice, so it is enough that they have the same members
  have perm : ended.report.skipped.Perm (seedsOf t seeds) := by
    rw [← settled]
    refine (List.perm_ext_iff_of_nodup nodup (nodup_eraseDups _)).mpr fun x => ?_
    constructor
    · intro hx
      rw [settled] at hx
      exact still.skipped_subset x hx
    · intro hx
      obtain ⟨seed, known⟩ := mem_seedsOf.mp hx
      exact mem_settled_of_mem_seeds hs cycle seed known
  have regraph : t.regraph = t := by
    rw [Session.regraph, ← hg]
  obtain ⟨ids, e⟩ := still.session_eq
  rw [regraph] at e
  rw [unsaved, e]
  exact ⟨still.report_eq, perm, ⟨ids, rfl⟩, t.requests_looked ids, t.events_looked ids, rfl, rfl⟩

/-! ## After a batch -/

/-- What a batch settled without failing is current at its end, if it reports no cycle. -/
theorem isCurrentAt_propagate (hs : s.store.Sound)
    (hn : (s.propagate backend seeds force).1.cycle = none) {x : BlockId}
    (hx : x ∈ (s.propagate backend seeds force).1.computed ∨
      x ∈ (s.propagate backend seeds force).1.skipped) :
    (s.propagate backend seeds force).2.store.IsCurrentAt x := by
  have fresh := (stage_run hs backend seeds force).fresh hs hn
  rw [store_propagate]
  rcases hx with hx | hx
  · obtain ⟨c, hc, -, current⟩ := fresh.computed x hx
    intro b hb _
    rw [hc] at hb
    cases hb
    exact current
  · exact fresh.skipped x hx

/-- If a batch reports neither a failure nor a cycle, the next one, not forced, is idle: over any
blocks that the first computed or skipped, if no two of them share a component, and over the seeds
of the first. -/
theorem propagate_idempotent {s : Session} (h : s.Reachable) (backend : Backend)
    (seeds : List BlockId) (force : Bool)
    (clean : (s.propagate backend seeds force).1.isClean = true) (later : Backend) :
    let report := (s.propagate backend seeds force).1
    let t := (s.propagate backend seeds force).2
    (∀ ids : List BlockId, (∀ x ∈ ids, x ∈ report.computed ∨ x ∈ report.skipped) →
      (∀ x ∈ ids, ∀ y ∈ ids, t.graph.Joined x y → x = y) →
      Idle t ids.eraseDups (t.propagate later ids false)) ∧
    Idle t (seeds.filter t.store.contains).eraseDups (t.propagate later seeds false) := by
  intro report t
  have hs := h.sound
  have alike : t.store.Alike s.store := Session.alike_propagate hs backend seeds force
  have sound : t.store.Sound := alike.sound hs
  have graph : t.graph = .ofStore t.store := by
    rw [alike.ofStore]
    exact Session.graph_propagate hs backend seeds force
  obtain ⟨failed, cycle⟩ := Bool.and_eq_true_iff.mp clean
  have failed : report.failed = [] := List.isEmpty_iff.mp failed
  have cycle : report.cycle = none := Option.isNone_iff_eq_none.mp cycle
  have stage := stage_run hs backend seeds force
  have known : ∀ x ∈ report.settled, x ∈ t.store.ids := by
    intro x hx
    rw [alike.ids, ← Graph.nodes_ofStore hs]
    exact (stage.places hs).known x ((mem_accounted_run hs).mpr hx)
  constructor
  · intro ids drawn apart
    have kept : ids.filter t.store.contains = ids := by
      refine List.filter_eq_self.mpr fun x hx => ?_
      refine Store.contains_iff.mpr (known x (Report.mem_settled.mpr ?_))
      exact (drawn x hx).imp_right .inl
    have asked : seedsOf t ids = ids.eraseDups := by
      rw [seedsOf, kept]
    rw [← asked]
    refine idle_propagate sound graph (fun x hx => ?_) (fun x hx y hy => ?_) later
    · exact isCurrentAt_propagate hs cycle (drawn x (mem_seedsOf.mp hx).1)
    · exact apart x (mem_seedsOf.mp hx).1 y (mem_seedsOf.mp hy).1
  · have same : ∀ x, x ∈ seedsOf t seeds ↔ x ∈ seedsOf s seeds := by
      intro x
      rw [mem_seedsOf, mem_seedsOf, alike.ids]
    refine idle_propagate sound graph (fun x hx => ?_) (fun x hx y hy joined => ?_) later
    · obtain ⟨seed, present⟩ := mem_seedsOf.mp ((same x).mp hx)
      have settled : x ∈ report.settled := mem_settled_of_mem_seeds hs cycle seed present
      refine isCurrentAt_propagate hs cycle ?_
      rcases Report.mem_settled.mp settled with hx | hx | hx
      · exact .inl hx
      · exact .inr hx
      · rw [failed] at hx
        exact absurd hx List.not_mem_nil
    · -- the first batch would have been refused two joined seeds
      have uncrowded := stage.crowded_eq_nil cycle
      rw [graph, alike.ofStore] at joined
      exact (crowded_relatedSeeds_eq_nil_iff hs).mp uncrowded x ((same x).mp hx) y ((same y).mp hy)
        joined

set_option maxRecDepth 10000 in
/-- Two blocks that mention each other, one that mentions one of them, and an image.  The next batch
asks for the one of the two that the first did not begin with. -/
theorem idempotent_around_pair :
    let backend : Backend := { answer := fun r => .ok (.text r.input) }
    let later : Backend := { answer := fun _ => .error .channelClosed }
    let pair := Session.ofTexts [(.generativeText, "a", "[b]"), (.static, "b", "[a]!"),
      (.static, "c", "[b]?"), (.importedImage, "d", "")]
    let seeds : List BlockId := [⟨"9e3779b9"⟩, ⟨"absent"⟩, ⟨"08d12e65"⟩]
    let ids : List BlockId := [⟨"8ff34781"⟩, ⟨"1715609d"⟩, ⟨"08d12e65"⟩, ⟨"8ff34781"⟩]
    let outcome := pair.propagate backend seeds true
    pair.Reachable ∧ outcome.1.isClean = true ∧
      outcome.1.computed = [⟨"9e3779b9"⟩, ⟨"1715609d"⟩, ⟨"8ff34781"⟩] ∧
      outcome.1.skipped = [⟨"08d12e65"⟩] ∧
      Idle outcome.2 [⟨"8ff34781"⟩, ⟨"1715609d"⟩, ⟨"08d12e65"⟩]
        (outcome.2.propagate later ids false) ∧
      Idle outcome.2 [⟨"9e3779b9"⟩, ⟨"08d12e65"⟩] (outcome.2.propagate later seeds false) := by
  intro backend later pair seeds ids outcome
  have reachable : pair.Reachable := Session.reachable_ofTexts _
  have report : outcome.1.isClean = true ∧
      outcome.1.computed = [⟨"9e3779b9"⟩, ⟨"1715609d"⟩, ⟨"8ff34781"⟩] ∧
      outcome.1.skipped = [⟨"08d12e65"⟩] := by decide +kernel
  obtain ⟨idle, again⟩ :=
    propagate_idempotent reachable backend seeds true report.1 later
  have drawn : ∀ x ∈ ids, x ∈ outcome.1.computed ∨ x ∈ outcome.1.skipped := by decide +kernel
  have apart : ∀ x ∈ ids, ∀ y ∈ ids, outcome.2.graph.Joined x y → x = y := by
    have graph : outcome.2.graph.Sound := by
      have made : outcome.2.graph = .ofStore pair.store :=
        Session.graph_propagate reachable.sound backend seeds true
      rw [made]
      exact Graph.sound_ofStore reachable.sound
    have known : ∀ x ∈ ids, x ∈ outcome.2.graph.nodes := by decide +kernel
    have components : ∀ x ∈ ids, ∀ y ∈ ids, y ∈ outcome.2.graph.component x → x = y := by
      decide +kernel
    intro x hx y hy joined
    exact components x hx y hy ((Graph.mem_component graph (known x hx)).mpr joined)
  have asked : ids.eraseDups = [⟨"8ff34781"⟩, ⟨"1715609d"⟩, ⟨"08d12e65"⟩] := by decide +kernel
  have present : (seeds.filter outcome.2.store.contains).eraseDups =
      [⟨"9e3779b9"⟩, ⟨"08d12e65"⟩] := by decide +kernel
  rw [← asked, ← present]
  exact ⟨reachable, report.1, report.2.1, report.2.2, idle ids drawn apart, again⟩

end Batch
end Workbook
