import Mathlib.Data.List.Nodup
import Workbook.Proofs.Batch.Groups

/-!
Batches come to the same end in whatever order their requests are answered.

A batch does the same to the related blocks whatever the isolated seeds do meanwhile
(`agrees_related`), and the same to an isolated block whatever all others do (`agrees_lone`,
`agrees_bare`).
-/

namespace Workbook

/-- A backend that gives the same answers, without delay and in the order of the requests. -/
def Backend.prompt (backend : Backend) : Backend := { answer := backend.answer }

namespace Batch

variable {backend : Backend} {s : Session} {seeds : List BlockId} {force : Bool} {b c : Batch}
  {id x : BlockId} {r : Request}

/-! ## The related blocks -/

theorem step_of_queued (backend : Backend) {rest : List BlockId} (hc : b.chain = none)
    (hq : b.queue = id :: rest) : b.step backend = b.takeQueued id rest := by
  unfold step
  rw [hc, hq]

theorem step_of_chain (backend : Backend) (hr : b.chain = some r) (hp : b.pool = []) :
    b.step backend = b.finish backend r := by
  have picked : backend.pick? b.calls = some r := by
    rw [calls, hp, hr, Backend.pick?]
    show [r][backend.next [r] % 1]? = some r
    rw [Nat.mod_one]
    rfl
  unfold step
  rw [hr]
  dsimp only
  rw [picked]

theorem pool_finish_of_chain (backend : Backend) (hr : b.chain = some r) :
    (b.finish backend r).pool = b.pool := by
  rw [finish_chain hr]
  dsimp only
  split
  · rw [pool_schedule, store_frame]
  · rw [store_frame]

/-- The blocks that have dependencies. -/
def related (s : Session) (id : BlockId) : Bool := !(Graph.ofStore s.store).isIsolated id

theorem related_eq_true {s : Session} {id : BlockId} :
    related s id = true ↔ ¬ (Graph.ofStore s.store).isIsolated id = true := by
  rw [related, Bool.not_eq_true', Bool.not_eq_true]

theorem related_eq_false {s : Session} {id : BlockId} :
    related s id = false ↔ (Graph.ofStore s.store).isIsolated id = true := by
  rw [related, Bool.not_eq_false']

theorem step_of_agrees {seeds' : List BlockId} (hs : s.store.Sound)
    (hd : ∀ r, backend.delay r = 0) (h : Stage backend s seeds force [] b)
    (h' : Stage backend.prompt s seeds' force [] c) (agrees : Agrees (related s) b c)
    (linked : Linked b c) (hp : c.pool = []) :
    ∃ c', (c' = c ∨ c' = c.step backend.prompt) ∧ Agrees (related s) (b.step backend) c' ∧
      Linked (b.step backend) c' ∧ c'.pool = [] := by
  have places := h.places hs
  rcases step_cases backend b with ⟨id, rest, hc, hq, e⟩ | ⟨r, hr, -, e⟩ | ⟨-, e⟩
  · have hid := (places.queued id (hq ▸ List.mem_cons_self ..)).2.1
    refine ⟨c.takeQueued id rest, .inr ?_, ?_⟩
    · exact (step_of_queued _ (linked.chain_eq ▸ hc) (linked.queue_eq ▸ hq)).symm
    · rw [e, pool_takeQueued]
      obtain ⟨after, next⟩ := takeQueued_of_agrees h.framed h'.framed hs agrees linked
        (related_eq_true.mpr hid) (fun a hf => related_eq_true.mpr hf.not_isIsolated.1) rest
      exact ⟨after, next, hp⟩
  · have contains := h.contains_of_mem_calls hs hr
    by_cases hc : b.chain = some r
    · have hc' := linked.chain_eq ▸ hc
      refine ⟨c.finish backend.prompt r, .inr (step_of_chain _ hc' hp).symm, ?_⟩
      rw [e, pool_finish_of_chain _ hc']
      have prompt : ∀ r, backend.prompt.delay r = 0 := fun _ => rfl
      obtain ⟨after, next⟩ := finish_of_agrees hd prompt rfl
        h.framed hs agrees linked hc contains
      exact ⟨after, next, hp⟩
    · have isolated : related s r.id = false := by
        rcases List.mem_append.mp hr with hr | hr
        · exact related_eq_false.mpr (places.pool_isolated r hr)
        · exact absurd (Option.mem_toList.mp hr) hc
      refine ⟨c, .inl rfl, ?_, ?_, hp⟩
      · rw [e]
        exact (agrees_finish hd contains isolated).trans agrees
      · rw [e, finish_pool hc]
        let closed : Batch := { b with session := b.answered backend r, pool := b.pool.erase r }
        have same : Linked closed b := ⟨rfl, rfl, rfl, rfl, rfl, rfl⟩
        exact ((Linked.store closed contains _).trans same).trans linked
  · rw [e]
    exact ⟨c, .inl rfl, agrees, linked, hp⟩

theorem opening_congr {seeds' : List BlockId}
    (same : ∀ x, x ∈ relatedSeeds s seeds ↔ x ∈ relatedSeeds s seeds') :
    opening s seeds force = opening s seeds' force := by
  have e : (relatedSeeds s seeds).contains = (relatedSeeds s seeds').contains := by
    funext x
    rw [Bool.eq_iff_iff, List.contains_iff_mem, List.contains_iff_mem]
    exact same x
  unfold opening
  dsimp only
  rw [Graph.pick_eq, Graph.pick_eq, Graph.alone, Graph.crowded, e]
  rfl

/-- With no isolated seeds, a batch starts with the turn of the first block of the queue. -/
theorem start_relatedSeeds (s : Session) (seeds : List BlockId) (force : Bool) :
    start s (relatedSeeds s seeds) force = opening s seeds force := by
  have none : isolatedSeeds s (relatedSeeds s seeds) = [] := by
    rw [List.eq_nil_iff_forall_not_mem]
    intro x hx
    obtain ⟨hx, isolated⟩ := mem_isolatedSeeds.mp hx
    exact (mem_relatedSeeds.mp (mem_seedsOf.mp hx).1).2 isolated
  rw [start_eq, none]
  refine opening_congr fun x => ?_
  rw [mem_relatedSeeds, mem_seedsOf, mem_relatedSeeds, mem_seedsOf]
  constructor
  · exact fun hx => hx.1.1
  · exact fun hx => ⟨⟨hx, hx.1.2⟩, hx.2⟩

theorem agrees_start_related (backend : Backend) (s : Session) (seeds : List BlockId)
    (force : Bool) :
    Agrees (related s) (start s seeds force) (start s (relatedSeeds s seeds) force) ∧
      Linked (start s seeds force) (start s (relatedSeeds s seeds) force) := by
  have started : Stage backend s seeds force [] (start s seeds force) := .start s seeds force
  rw [start_relatedSeeds]
  constructor
  · rw [start_eq]
    have opened : Stage backend s seeds force (isolatedSeeds s seeds ++ [])
        (opening s seeds force) := by
      rw [List.append_nil]
      exact .opening
    refine (agrees_foldl opened fun x hx => ?_).1
    exact related_eq_false.mpr (mem_isolatedSeeds.mp hx).2
  · have graph := started.framed.graph_eq.trans (Framed.opening s seeds force).graph_eq.symm
    rw [start_frame] at graph ⊢
    exact ⟨graph, rfl, rfl, rfl, rfl, rfl⟩

/-- A batch goes the same way for the related blocks whatever the isolated seeds do meanwhile. -/
theorem agrees_related (hs : s.store.Sound) (hd : ∀ r, backend.delay r = 0)
    (seeds : List BlockId) (force : Bool) :
    Agrees (related s) ((start s seeds force).run backend)
        ((start s (relatedSeeds s seeds) force).run backend.prompt) ∧
      ((start s seeds force).run backend).report.cycle =
        ((start s (relatedSeeds s seeds) force).run backend.prompt).report.cycle := by
  let first := start s (relatedSeeds s seeds) force
  have follows : ∀ n, ∃ m, Agrees (related s) (steps backend n (start s seeds force))
        (steps backend.prompt m first) ∧
      Linked (steps backend n (start s seeds force)) (steps backend.prompt m first) ∧
      (steps backend.prompt m first).pool = [] := by
    intro n
    induction n with
    | zero =>
      obtain ⟨agrees, linked⟩ := agrees_start_related backend s seeds force
      refine ⟨0, agrees, linked, ?_⟩
      show (start s (relatedSeeds s seeds) force).pool = []
      rw [start_relatedSeeds, opening_frame]
      rfl
    | succ n ih =>
      obtain ⟨m, agrees, linked, hp⟩ := ih
      obtain ⟨c, hc, after⟩ := step_of_agrees hs hd (stage_steps hs backend seeds force n)
        (stage_steps hs backend.prompt (relatedSeeds s seeds) force m) agrees linked hp
      rw [steps_succ]
      rcases hc with rfl | rfl
      · exact ⟨m, after⟩
      · exact ⟨m + 1, by rw [steps_succ]; exact after⟩
  obtain ⟨m, agrees, linked, hp⟩ := follows (start s seeds force).bound
  have ended : (steps backend.prompt m first).isDone = true := by
    have chain := (List.append_eq_nil_iff.mp (calls_run hs backend seeds force)).2
    rw [isDone_iff, calls, hp, ← linked.queue_eq, ← linked.chain_eq]
    exact ⟨queue_run hs backend seeds force, chain⟩
  have last := steps_bound hs backend.prompt (relatedSeeds s seeds) force m
  rw [steps_of_isDone _ ended] at last
  rw [← last]
  exact ⟨agrees, linked.cycle_eq⟩

/-! ## An isolated block -/

theorem agrees_opening (p : BlockId → Bool) (s : Session) (seeds : List BlockId) (force : Bool) :
    Agrees p (opening s seeds force) (bare s force) := by
  rcases opening_cases s seeds force with ⟨-, e⟩ | ⟨c, more, -, e⟩
  · rw [e]
    exact .of_eq (.refl ..) rfl rfl rfl
  · rw [e]
    refine .of_eq (.of_eq (Session.store_emit ..) (Session.graph_emit ..) ?_ ?_) rfl rfl rfl
    · show (s.regraph.emit _).now = s.regraph.now
      rw [Session.emit_eq]
    · exact Session.requests_emit ..

theorem framed_bare (s : Session) (force : Bool) : Framed s force (bare s force) :=
  ⟨.refl _, rfl, rfl⟩

/-- The one block. -/
def only (x : BlockId) (id : BlockId) : Bool := id == x

@[simp]
theorem only_self (x : BlockId) : only x x = true := by
  rw [only, beq_self_eq_true]

theorem only_eq_false {x id : BlockId} (h : id ≠ x) : only x id = false := by
  rw [only, beq_eq_false_iff_ne]
  exact h

/-- What is left of a batch for a single isolated block, after its turn and the answer. -/
def lone (backend : Backend) (s : Session) (force : Bool) (x : BlockId) : Batch :=
  match ((bare s force).takeIsolated x).pool with
  | [] => (bare s force).takeIsolated x
  | r :: _ => ((bare s force).takeIsolated x).finish backend.prompt r

theorem pool_takeIsolated_bare (s : Session) (force : Bool) (x : BlockId) :
    ((bare s force).takeIsolated x).pool = [] ∨
      ∃ r, r.id = x ∧ ((bare s force).takeIsolated x).pool = [r] := by
  have ht := (framed_bare s force).turn_taken x
  unfold takeIsolated
  generalize (bare s force).session.takeTurn (bare s force).force x = result at ht
  obtain ⟨turn, session⟩ := result
  cases turn with
  | skipped => exact .inl rfl
  | applied => exact .inl rfl
  | asked r => exact .inr ⟨r, ht.id_asked, rfl⟩

theorem chain_takeIsolated_bare (s : Session) (force : Bool) (x : BlockId) :
    ((bare s force).takeIsolated x).chain = none := by
  rw [takeIsolated_frame]
  rfl

theorem pool_lone (backend : Backend) (s : Session) (force : Bool) (x : BlockId) :
    (lone backend s force x).pool = [] := by
  unfold lone
  rcases pool_takeIsolated_bare s force x with hp | ⟨r, -, hp⟩
  · rw [hp]
    exact hp
  · have hc := chain_takeIsolated_bare s force x
    rw [hp]
    dsimp only
    rw [finish_pool (by rw [hc]; simp), store_frame, hp]
    show [r].erase r = []
    rw [List.erase_cons_head]

section
variable (hs : s.store.Sound) (hd : ∀ r, backend.delay r = 0)
  (hi : (Graph.ofStore s.store).isIsolated x = true) (h : Stage backend s seeds force [] b)

include hs hd hi h

/-- A step leaves an isolated block alone, but for the end of the request for it. -/
theorem agrees_step_cases :
    Agrees (only x) (b.step backend) b ∨
      ∃ r ∈ b.pool, r.id = x ∧ b.chain ≠ some r ∧ b.step backend = b.finish backend r := by
  have places := h.places hs
  rcases step_cases backend b with ⟨id, rest, hc, hq, e⟩ | ⟨r, hr, -, e⟩ | ⟨-, e⟩
  · left
    have hne : id ≠ x := by
      rintro rfl
      exact (places.queued id (hq ▸ List.mem_cons_self ..)).2.1 hi
    rw [e]
    exact agrees_takeQueued h.framed (only_eq_false hne) rest
  · rw [e]
    by_cases hx : r.id = x
    · right
      have hc : b.chain ≠ some r := by
        intro hc
        have handled := List.mem_of_mem_head? (Option.mem_def.mpr ((h.ordered hs).head r hc))
        exact ((places.mem_handled r.id).mp handled).1 (hx ▸ hi)
      have hpool := (List.mem_append.mp hr).resolve_right fun hr => hc (Option.mem_toList.mp hr)
      exact ⟨r, hpool, hx, hc, rfl⟩
    · exact .inl (agrees_finish hd (h.contains_of_mem_calls hs hr) (only_eq_false hx))
  · rw [e]
    exact .inl (.refl ..)

/-- Where no request is open for it, an isolated block is left alone. -/
theorem agrees_step_of_pool_eq_nil (agrees : Agrees (only x) b c) (hp : c.pool = []) :
    Agrees (only x) (b.step backend) c := by
  rcases agrees_step_cases hs hd hi h with after | ⟨r, hr, rfl, -⟩
  · exact after.trans agrees
  · have hmem : r ∈ b.pool.filter fun q => only r.id q.id :=
      List.mem_filter.mpr ⟨hr, only_self r.id⟩
    rw [agrees.pool_eq, hp] at hmem
    exact absurd hmem List.not_mem_nil

theorem agrees_step_lone (agrees : Agrees (only x) b ((bare s force).takeIsolated x)) :
    Agrees (only x) (b.step backend) ((bare s force).takeIsolated x) ∨
      Agrees (only x) (b.step backend) (lone backend s force x) := by
  rcases agrees_step_cases hs hd hi h with after | ⟨r, hr, rfl, hc, e⟩
  · exact .inl (after.trans agrees)
  · right
    have hmem : r ∈ b.pool.filter fun q => only r.id q.id :=
      List.mem_filter.mpr ⟨hr, only_self r.id⟩
    rw [agrees.pool_eq] at hmem
    have hmem := (List.mem_filter.mp hmem).1
    rcases pool_takeIsolated_bare s force r.id with hp | ⟨q, -, hp⟩
    · rw [hp] at hmem
      exact absurd hmem List.not_mem_nil
    · rw [hp, List.mem_singleton] at hmem
      subst hmem
      have contains := h.contains_of_mem_calls hs (List.mem_append_left _ hr)
      have hc' : ((bare s force).takeIsolated r.id).chain ≠ some r := by
        rw [chain_takeIsolated_bare]
        simp
      rw [e, lone, hp]
      exact finish_pool_of_agrees hd (fun _ => rfl) rfl agrees hc hc' contains

end

theorem agrees_start_lone (hs : s.store.Sound) (backend : Backend)
    (hi : (Graph.ofStore s.store).isIsolated x = true) (hx : x ∈ seedsOf s seeds) :
    Agrees (only x) (start s seeds force) ((bare s force).takeIsolated x) := by
  obtain ⟨before, after, e⟩ := List.append_of_mem (mem_isolatedSeeds.mpr ⟨hx, hi⟩)
  have nodup : (isolatedSeeds s seeds).Nodup := (nodup_eraseDups _).filter _
  rw [e, List.nodup_middle, List.nodup_cons, List.mem_append, not_or] at nodup
  obtain ⟨⟨notBefore, notAfter⟩, -⟩ := nodup
  have outside : ∀ {ids : List BlockId}, x ∉ ids → ∀ y ∈ ids, only x y = false := by
    intro ids hx y hy
    refine only_eq_false ?_
    rintro rfl
    exact hx hy
  have opened : Stage backend s seeds force (before ++ x :: after) (opening s seeds force) := by
    rw [← e]
    exact .opening
  obtain ⟨first, stage⟩ := agrees_foldl opened (outside notBefore)
  have turn := takeIsolated_of_agrees stage.framed (framed_bare s force) hs
    (first.trans (agrees_opening (only x) s seeds force)) (only_self x) hi
  have moved : Stage backend s seeds force (after ++ [])
      ((before.foldl takeIsolated (opening s seeds force)).takeIsolated x) := by
    rw [List.append_nil]
    exact .move stage stage.takeIsolated
  rw [start_eq, e, List.foldl_append, List.foldl_cons]
  exact (agrees_foldl moved (outside notAfter)).1.trans turn

section
variable (hs : s.store.Sound) (hd : ∀ r, backend.delay r = 0)
  (hi : (Graph.ofStore s.store).isIsolated x = true)

include hs hd hi

/-- An isolated block that is no seed is left alone. -/
theorem agrees_bare (hx : x ∉ seedsOf s seeds) :
    Agrees (only x) ((start s seeds force).run backend) (bare s force) := by
  have follows : ∀ n, Agrees (only x) (steps backend n (start s seeds force)) (bare s force) := by
    intro n
    induction n with
    | zero =>
      have opened : Stage backend s seeds force (isolatedSeeds s seeds ++ [])
          (opening s seeds force) := by
        rw [List.append_nil]
        exact .opening
      show Agrees (only x) (start s seeds force) (bare s force)
      rw [start_eq]
      refine (agrees_foldl opened fun y hy => only_eq_false ?_).1.trans (agrees_opening ..)
      rintro rfl
      exact hx (mem_isolatedSeeds.mp hy).1
    | succ n ih =>
      rw [steps_succ]
      exact agrees_step_of_pool_eq_nil hs hd hi (stage_steps hs backend seeds force n) ih rfl
  exact follows _

/-- An isolated seed goes the same way whatever all others do. -/
theorem agrees_lone (hx : x ∈ seedsOf s seeds) (force : Bool) :
    Agrees (only x) ((start s seeds force).run backend) (lone backend s force x) := by
  have follows : ∀ n,
      Agrees (only x) (steps backend n (start s seeds force)) ((bare s force).takeIsolated x) ∨
      Agrees (only x) (steps backend n (start s seeds force)) (lone backend s force x) := by
    intro n
    induction n with
    | zero => exact .inl (agrees_start_lone hs backend hi hx)
    | succ n ih =>
      have stage := stage_steps hs backend seeds force n
      rw [steps_succ]
      rcases ih with ih | ih
      · exact agrees_step_lone hs hd hi stage ih
      · exact .inr (agrees_step_of_pool_eq_nil hs hd hi stage ih (pool_lone ..))
  rcases follows (start s seeds force).bound with agrees | agrees
  · -- no request is open in the end, so there was none
    have ended := (List.append_eq_nil_iff.mp (calls_run hs backend seeds force)).1
    rcases pool_takeIsolated_bare s force x with hp | ⟨r, rfl, hp⟩
    · unfold lone
      rw [hp]
      exact agrees
    · have opened := agrees.pool_eq
      have ended : (steps backend (start s seeds force).bound (start s seeds force)).pool = [] :=
        ended
      rw [hp, ended, List.filter_singleton, only_self] at opened
      cases opened
  · exact agrees

end

/-! ## Two runs -/

/-- Lists are the same up to order if their entries for each group are. -/
theorem perm_of_filter {α : Type} [DecidableEq α] (key : α → BlockId) {p : BlockId → Bool}
    {xs ys : List α} (group : (xs.filter fun a => p (key a)) = ys.filter fun a => p (key a))
    (rest : ∀ x, p x = false →
      (xs.filter fun a => only x (key a)) = ys.filter fun a => only x (key a)) :
    xs.Perm ys := by
  rw [List.perm_iff_count]
  intro a
  have of_filter : ∀ q : α → Bool, q a = true → xs.filter q = ys.filter q →
      xs.count a = ys.count a := by
    intro q hq e
    rw [← List.count_filter hq, e, List.count_filter hq]
  cases ha : p (key a) with
  | true => exact of_filter _ ha group
  | false => exact of_filter _ (only_self (key a)) (rest (key a) ha)

/-- Two batches that began in session `s` have come to the same end. -/
structure SameEnd (s : Session) (b c : Batch) : Prop where
  store_eq : b.session.store = c.session.store
  computed : b.report.computed.Perm c.report.computed
  skipped : b.report.skipped.Perm c.report.skipped
  failed : b.report.failed.Perm c.report.failed
  cycle_eq : b.report.cycle = c.report.cycle
  requests : ∃ new new', b.session.requests = s.requests ++ new ∧
    c.session.requests = s.requests ++ new' ∧ new.Perm new' ∧
    (new.filter fun r => related s r.id) = new'.filter fun r => related s r.id

theorem mem_seedsOf_congr {seeds' : List BlockId}
    (same : ∀ x ∈ s.store.ids, x ∈ seeds ↔ x ∈ seeds') (x : BlockId) :
    x ∈ seedsOf s seeds ↔ x ∈ seedsOf s seeds' := by
  rw [mem_seedsOf, mem_seedsOf]
  exact and_congr_left fun known => same x known

section
variable {backend' : Backend} {seeds' : List BlockId} (hs : s.store.Sound)
  (ha : backend.answer = backend'.answer) (hd : ∀ r, backend.delay r = 0)
  (hd' : ∀ r, backend'.delay r = 0) (same : ∀ x ∈ s.store.ids, x ∈ seeds ↔ x ∈ seeds')
  (force : Bool)

include hs ha hd hd' same

theorem agrees_related_of_same :
    Agrees (related s) ((start s seeds force).run backend)
        ((start s seeds' force).run backend') ∧
      ((start s seeds force).run backend).report.cycle =
        ((start s seeds' force).run backend').report.cycle := by
  have prompt : backend.prompt = backend'.prompt := by
    rw [Backend.prompt, ha]
    rfl
  have first : start s (relatedSeeds s seeds) force = start s (relatedSeeds s seeds') force := by
    rw [start_relatedSeeds, start_relatedSeeds]
    refine opening_congr fun x => ?_
    rw [mem_relatedSeeds, mem_relatedSeeds, mem_seedsOf_congr same]
  have group := agrees_related hs hd seeds force
  have group' := agrees_related hs hd' seeds' force
  rw [first, prompt] at group
  exact ⟨group.1.trans group'.1.symm, group.2.trans group'.2.symm⟩

theorem agrees_isolated_of_same {x : BlockId} (hx : related s x = false) :
    Agrees (only x) ((start s seeds force).run backend)
      ((start s seeds' force).run backend') := by
  have isolated := related_eq_false.mp hx
  have seeded := mem_seedsOf_congr same x
  by_cases seed : x ∈ seedsOf s seeds
  · have agrees := agrees_lone hs hd isolated seed force
    have agrees' := agrees_lone hs hd' isolated (seeded.mp seed) force
    have e : lone backend s force x = lone backend' s force x := by
      rw [lone, Backend.prompt, ha]
      rfl
    exact agrees.trans (e ▸ agrees'.symm)
  · have unseeded := mt seeded.mpr seed
    exact (agrees_bare hs hd isolated seed).trans (agrees_bare hs hd' isolated unseeded).symm

/-- The answers may come in any order, and so may the seeds. -/
theorem sameEnd_run :
    SameEnd s ((start s seeds force).run backend) ((start s seeds' force).run backend') := by
  obtain ⟨agrees, cycle⟩ := agrees_related_of_same hs ha hd hd' same force
  have others := fun x => agrees_isolated_of_same hs ha hd hd' same force (x := x)
  obtain ⟨new, asks⟩ := (stage_run hs backend seeds force).asks hs
  obtain ⟨new', asks'⟩ := (stage_run hs backend' seeds' force).asks hs
  have added : ∀ p, Agrees p ((start s seeds force).run backend)
      ((start s seeds' force).run backend') →
      (new.filter fun r => p r.id) = new'.filter fun r => p r.id := by
    intro p h
    have e := h.session.requests_eq
    rwa [asks.requests_eq, asks'.requests_eq, List.filter_append, List.filter_append,
      List.append_cancel_left_eq] at e
  have requests := perm_of_filter Request.id (added _ agrees) fun x hx => added _ (others x hx)
  have sound := (Session.framed_run hs backend' seeds' force).alike.sound hs
  refine ⟨?_, ?_, ?_, ?_, cycle, new, new', asks.requests_eq, asks'.requests_eq, requests,
    added _ agrees⟩
  · refine agrees.session.alike.eq_of_get? sound fun x => ?_
    cases hx : related s x with
    | true => exact agrees.session.get?_eq x hx
    | false => exact (others x hx).session.get?_eq x (only_self x)
  · exact perm_of_filter (fun x => x) agrees.computed_eq fun x hx => (others x hx).computed_eq
  · exact perm_of_filter (fun x => x) agrees.skipped_eq fun x hx => (others x hx).skipped_eq
  · exact perm_of_filter Prod.fst agrees.failed_eq fun x hx => (others x hx).failed_eq

end

/-- If a generator answers without delay, neither the order of its answers nor the order of the
seeds makes a difference to what a batch leaves, and blocks with dependencies are asked for in one
order. -/
theorem propagate_confluent {s : Session} (h : s.Reachable) {backend backend' : Backend}
    (ha : backend.answer = backend'.answer) (hd : ∀ r, backend.delay r = 0)
    (hd' : ∀ r, backend'.delay r = 0) {seeds seeds' : List BlockId}
    (same : ∀ x ∈ s.store.ids, x ∈ seeds ↔ x ∈ seeds') (force : Bool) :
    let outcome := s.propagate backend seeds force
    let outcome' := s.propagate backend' seeds' force
    outcome.2.store = outcome'.2.store ∧ outcome.2.parking = outcome'.2.parking ∧
      outcome.2.archive = outcome'.2.archive ∧
      outcome.1.computed.Perm outcome'.1.computed ∧ outcome.1.skipped.Perm outcome'.1.skipped ∧
      outcome.1.failed.Perm outcome'.1.failed ∧ outcome.1.cycle = outcome'.1.cycle ∧
      ∃ new new', outcome.2.requests = s.requests ++ new ∧
        outcome'.2.requests = s.requests ++ new' ∧ new.Perm new' ∧
        (new.filter fun r => !(Graph.ofStore s.store).isIsolated r.id) =
          new'.filter fun r => !(Graph.ofStore s.store).isIsolated r.id := by
  intro outcome outcome'
  have hs := h.sound
  have ended := sameEnd_run hs ha hd hd' same force
  have stores : outcome.2.store = outcome'.2.store := by
    rw [store_propagate, store_propagate]
    exact ended.store_eq
  have computed : outcome.1.computed.Perm outcome'.1.computed := ended.computed
  refine ⟨stores, ?_, ?_, computed, ended.skipped, ended.failed, ended.cycle_eq, ?_⟩
  · rw [Session.parking_propagate hs, Session.parking_propagate hs]
  · rw [Session.archive_propagate hs, Session.archive_propagate hs, computed.isEmpty_eq, stores]
  · rw [requests_propagate, requests_propagate]
    exact ended.requests

set_option maxRecDepth 10000 in
/-- Two orders of seeds and of answers, in which the blocks are computed in different orders. -/
theorem confluent_in_circle :
    let backend : Backend := { answer := fun r => .ok (.text r.input) }
    let backend' : Backend :=
      { answer := fun r => .ok (.text r.input), next := fun calls => calls.length - 1 }
    let seeds : List BlockId := [⟨"9e3779b9"⟩, ⟨"08d12e65"⟩]
    let seeds' : List BlockId := [⟨"08d12e65"⟩, ⟨"absent"⟩, ⟨"9e3779b9"⟩, ⟨"9e3779b9"⟩]
    let outcome := Session.circle.propagate backend seeds true
    let outcome' := Session.circle.propagate backend' seeds' true
    Session.circle.Reachable ∧ backend.answer = backend'.answer ∧
      (∀ r, backend.delay r = 0) ∧ (∀ r, backend'.delay r = 0) ∧
      (∀ x ∈ Session.circle.store.ids, x ∈ seeds ↔ x ∈ seeds') ∧
      outcome.1.computed ≠ outcome'.1.computed ∧
      outcome.1.computed.Perm outcome'.1.computed ∧ outcome.1.cycle = outcome'.1.cycle ∧
      outcome.2.store = outcome'.2.store := by
  intro backend backend' seeds seeds' outcome outcome'
  have same : ∀ x ∈ Session.circle.store.ids, x ∈ seeds ↔ x ∈ seeds' := by decide +kernel
  have delays : ∀ r, backend.delay r = 0 := fun _ => rfl
  have delays' : ∀ r, backend'.delay r = 0 := fun _ => rfl
  have answers : backend.answer = backend'.answer := rfl
  have orders : outcome.1.computed ≠ outcome'.1.computed := by decide +kernel
  obtain ⟨stores, -, -, computed, -, -, cycle, -⟩ :=
    propagate_confluent Session.reachable_circle answers delays delays' same true
  exact ⟨Session.reachable_circle, answers, delays, delays', same, orders, computed, cycle, stores⟩

end Batch
end Workbook
