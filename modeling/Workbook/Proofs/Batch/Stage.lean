import Workbook.Proofs.Batch.Queue
import Workbook.Graph.Reach

/-!
The stages of a batch.

A batch begins with its queue filled and with isolated seeds that have not had their turns
(`opening`).  It goes on by giving a block its turn (`Draws`) or by ending a request (`Closes`).
`Moves` says what it can do next.  `Stage` collects the stages that it can come to, so what every
move keeps holds of all of them; the batch is at one after any number of steps (`stage_steps`).

A batch leaves the outlines of blocks alone, and of the rest of a session it changes the clock and
the journal only (`Framed`).
-/

namespace Workbook
namespace Batch

open Workbook.Graph (alone crowded)

/-! ## The beginning -/

/-- The seeds that are there, each once. -/
def seedsOf (s : Session) (seeds : List BlockId) : List BlockId :=
  (seeds.filter s.store.contains).eraseDups

def isolatedSeeds (s : Session) (seeds : List BlockId) : List BlockId :=
  (seedsOf s seeds).filter (Graph.ofStore s.store).isIsolated

def relatedSeeds (s : Session) (seeds : List BlockId) : List BlockId :=
  (seedsOf s seeds).filter fun id => !(Graph.ofStore s.store).isIsolated id

/-- A batch before the first turn. -/
def opening (s : Session) (seeds : List BlockId) (force : Bool) : Batch :=
  let b : Batch :=
    { session := s.regraph, force, components := (Graph.ofStore s.store).components }
  match Graph.pick (relatedSeeds s seeds) b.components with
  | .ok order => { b with queue := order }
  | .error c => b.noteCycle c

theorem nodup_eraseDups (xs : List BlockId) : xs.eraseDups.Nodup := by
  match xs with
  | [] => exact List.nodup_nil
  | x :: rest =>
    rw [List.eraseDups_cons, List.nodup_cons]
    refine ⟨?_, nodup_eraseDups (rest.filter fun y => !y == x)⟩
    rw [List.mem_eraseDups, List.mem_filter]
    simp
termination_by xs.length
decreasing_by exact Nat.lt_succ_of_le (List.length_filter_le ..)

theorem mem_seedsOf {s : Session} {seeds : List BlockId} {x : BlockId} :
    x ∈ seedsOf s seeds ↔ x ∈ seeds ∧ x ∈ s.store.ids := by
  rw [seedsOf, List.mem_eraseDups, List.mem_filter, Store.contains_iff]

theorem mem_isolatedSeeds {s : Session} {seeds : List BlockId} {x : BlockId} :
    x ∈ isolatedSeeds s seeds ↔
      x ∈ seedsOf s seeds ∧ (Graph.ofStore s.store).isIsolated x = true :=
  List.mem_filter

theorem mem_relatedSeeds {s : Session} {seeds : List BlockId} {x : BlockId} :
    x ∈ relatedSeeds s seeds ↔
      x ∈ seedsOf s seeds ∧ ¬ (Graph.ofStore s.store).isIsolated x = true := by
  rw [relatedSeeds, List.mem_filter, Bool.not_eq_true', Bool.not_eq_true]

/-- A batch in which nothing waits and nothing was done. -/
def bare (s : Session) (force : Bool) : Batch :=
  { session := s.regraph, force, components := (Graph.ofStore s.store).components }

theorem opening_cases (s : Session) (seeds : List BlockId) (force : Bool) :
    (crowded (relatedSeeds s seeds) (Graph.ofStore s.store).components = [] ∧
      opening s seeds force =
        { bare s force with
          queue := alone (relatedSeeds s seeds) (Graph.ofStore s.store).components }) ∨
    ∃ c more, crowded (relatedSeeds s seeds) (Graph.ofStore s.store).components = c :: more ∧
      opening s seeds force = (bare s force).noteCycle ⟨BlockId.sorted c⟩ := by
  unfold opening
  dsimp only
  rw [Graph.pick_eq]
  cases crowded (relatedSeeds s seeds) (Graph.ofStore s.store).components with
  | nil => exact .inl ⟨rfl, rfl⟩
  | cons c more => exact .inr ⟨c, more, rfl, rfl⟩

/-- Before the first turn nothing has been done but to fill the queue. -/
theorem opening_frame (s : Session) (seeds : List BlockId) (force : Bool) :
    opening s seeds force =
      { bare s force with
        session := (opening s seeds force).session
        queue := (opening s seeds force).queue
        report := { cycle := (opening s seeds force).report.cycle } } := by
  rcases opening_cases s seeds force with ⟨-, e⟩ | ⟨c, more, -, e⟩
  · rw [e]
    rfl
  · rw [e]
    rfl

theorem store_opening (s : Session) (seeds : List BlockId) (force : Bool) :
    (opening s seeds force).session.store = s.store := by
  rcases opening_cases s seeds force with ⟨-, e⟩ | ⟨c, more, -, e⟩
  · rw [e]
    rfl
  · rw [e]
    show (s.regraph.emit _).store = s.store
    rw [Session.emit_eq]
    rfl

theorem start_eq (s : Session) (seeds : List BlockId) (force : Bool) :
    start s seeds force = (isolatedSeeds s seeds).foldl takeIsolated (opening s seeds force) := by
  simp only [start, List.partition_eq_filter_filter]
  rfl

/-! ## Drawing blocks and ending requests -/

/-- A block is taken from those that wait for their turns. -/
inductive Draws : List BlockId → Batch → BlockId → List BlockId → Batch → Prop
  | isolated (id : BlockId) (pending : List BlockId) (b : Batch) :
    Draws (id :: pending) b id pending b
  | queued {b : Batch} {id : BlockId} {rest : List BlockId} (hc : b.chain = none)
    (hq : b.queue = id :: rest) :
    Draws [] b id [] { b with queue := rest, handled := id :: b.handled }

/-- An open request is ended. -/
inductive Closes (b : Batch) : Request → Batch → Prop
  | chain {r : Request} (h : b.chain = some r) : Closes b r { b with chain := none }
  | pool {r : Request} (h : r ∈ b.pool) (hc : b.chain ≠ some r) :
    Closes b r { b with pool := b.pool.erase r }

/-- The session at the time of an answer. -/
def answered (backend : Backend) (b : Batch) (r : Request) : Session :=
  { b.session.record (.answered r) with now := b.session.now + backend.delay r }

/-- What a batch can do next.  The lists are the isolated seeds that have not had their turns. -/
inductive Moves (backend : Backend) : List BlockId → Batch → List BlockId → Batch → Prop
  | skipped {pending pending' : List BlockId} {b b' : Batch} {id : BlockId} {session : Session}
    (hd : Draws pending b id pending' b') (ht : b.session.Taken b.force id .skipped session) :
    Moves backend pending b pending' (({ b' with session } : Batch).noteSkipped id)
  | applied {pending pending' : List BlockId} {b b' : Batch} {id : BlockId} {session : Session}
    (hd : Draws pending b id pending' b') (ht : b.session.Taken b.force id .applied session) :
    Moves backend pending b pending' ((({ b' with session } : Batch).schedule id).noteComputed id)
  | askedIsolated {pending : List BlockId} {b : Batch} {id : BlockId} {session : Session}
    {r : Request} (ht : b.session.Taken b.force id (.asked r) session) :
    Moves backend (id :: pending) b pending { b with session, pool := b.pool ++ [r] }
  | askedQueued {b : Batch} {id : BlockId} {rest : List BlockId} {session : Session} {r : Request}
    (hc : b.chain = none) (hq : b.queue = id :: rest)
    (ht : b.session.Taken b.force id (.asked r) session) :
    Moves backend [] b []
      { b with session, queue := rest, handled := id :: b.handled, chain := some r }
  | filled {b b' : Batch} {r : Request} {content : Content} (hr : Closes b r b')
    (ha : backend.answer r = .ok content) :
    Moves backend [] b []
      ((({ b' with
        session := (b.answered backend r).fill r.id content r.input (some r.transform) } :
          Batch).schedule r.id).noteComputed r.id)
  | refused {b b' : Batch} {r : Request} {e : Error} (hr : Closes b r b')
    (ha : backend.answer r = .error e) :
    Moves backend [] b []
      (({ b' with session := (b.answered backend r).refuse r.id e.message } : Batch).noteFailed
        r.id e)

/-- The stages that a batch can come to. -/
inductive Stage (backend : Backend) (s : Session) (seeds : List BlockId) (force : Bool) :
    List BlockId → Batch → Prop
  | opening : Stage backend s seeds force (isolatedSeeds s seeds) (opening s seeds force)
  | move {pending pending' : List BlockId} {b b' : Batch}
    (h : Stage backend s seeds force pending b) (hm : Moves backend pending b pending' b') :
    Stage backend s seeds force pending' b'

/-! ## What a batch leaves alone -/

/-- What stays the same in a batch that began in session `s`. -/
structure Framed (s : Session) (force : Bool) (b : Batch) : Prop where
  continues : b.session.Continues s.regraph
  components_eq : b.components = (Graph.ofStore s.store).components
  force_eq : b.force = force

namespace Framed

variable {s : Session} {force : Bool} {b b' : Batch}

theorem alike (h : Framed s force b) : b.session.store.Alike s.store := h.continues.alike

theorem graph_eq (h : Framed s force b) : b.session.graph = .ofStore s.store :=
  h.continues.graph_eq

theorem archive_eq (h : Framed s force b) : b.session.archive = s.archive := by
  rw [h.continues.session_eq]
  rfl

theorem watched_eq (h : Framed s force b) : b.session.watched = s.watched := by
  rw [h.continues.session_eq]
  rfl

theorem ofStore_eq (h : Framed s force b) : b.session.graph = .ofStore b.session.store := by
  rw [h.graph_eq, h.alike.ofStore]

theorem graded (h : Framed s force b) (hs : s.store.Sound) :
    (Graph.ofStore s.store).Graded b.components := by
  rw [h.components_eq]
  exact (Graph.graded_components (Graph.sound_ofStore hs)).1

theorem of_continues (h : Framed s force b) (hs : b'.session.Continues b.session)
    (hc : b'.components = b.components) (hf : b'.force = b.force) : Framed s force b' :=
  ⟨hs.trans h.continues, hc.trans h.components_eq, hf.trans h.force_eq⟩

theorem schedule (h : Framed s force b) (id : BlockId) : Framed s force (b.schedule id) := by
  rw [schedule_frame]
  exact h.of_continues (.journal _ _) rfl rfl

theorem opening (s : Session) (seeds : List BlockId) (force : Bool) :
    Framed s force (opening s seeds force) := by
  unfold Batch.opening
  dsimp only
  split
  · exact ⟨.refl _, rfl, rfl⟩
  · exact ⟨.emit _ _, rfl, rfl⟩

end Framed

theorem Draws.frame {pending pending' : List BlockId} {b b' : Batch} {id : BlockId}
    (h : Draws pending b id pending' b') :
    b' = { b with queue := b'.queue, handled := b'.handled } := by
  cases h <;> rfl

theorem Closes.frame {b b' : Batch} {r : Request} (h : Closes b r b') :
    b' = { b with pool := b'.pool, chain := b'.chain } := by
  cases h <;> rfl

/-- The open requests are the one that is ended and the others. -/
theorem Closes.calls_perm {b b' : Batch} {r : Request} (h : Closes b r b') :
    b.calls.Perm (r :: b'.calls) := by
  cases h with
  | chain h =>
    rw [calls, calls, h]
    simp
  | pool h hc =>
    exact (List.perm_cons_erase h).append_right _

theorem Closes.mem_calls {b b' : Batch} {r : Request} (h : Closes b r b') : r ∈ b.calls :=
  h.calls_perm.mem_iff.mpr (List.mem_cons_self ..)

theorem answered_continues (backend : Backend) (b : Batch) (r : Request) :
    (b.answered backend r).Continues b.session :=
  ⟨.refl _, rfl⟩

namespace Framed

variable {s session : Session} {force : Bool} {b b' : Batch}

theorem turn (h : Framed s force b) {pending pending' : List BlockId} {id : BlockId} {turn : Turn}
    (hd : Draws pending b id pending' b') (ht : b.session.Taken b.force id turn session) :
    Framed s force { b' with session } := by
  rw [hd.frame]
  exact h.of_continues ht.continues rfl rfl

theorem answer (h : Framed s force b) {backend : Backend} {r : Request} (hr : Closes b r b')
    (hs : session.Continues (b.answered backend r)) : Framed s force { b' with session } := by
  rw [hr.frame]
  exact h.of_continues (hs.trans (answered_continues ..)) rfl rfl

/-- After a request was ended by content, which is in the store then. -/
theorem fill (h : Framed s force b) (backend : Backend) {r : Request} (hr : Closes b r b')
    (content : Content) : Framed s force
      { b' with session := (b.answered backend r).fill r.id content r.input (some r.transform) } :=
  h.answer hr (.fill ..)

end Framed

namespace Moves

variable {backend : Backend} {s : Session} {force : Bool} {pending pending' : List BlockId}
  {b b' : Batch}

theorem framed (hm : Moves backend pending b pending' b') (h : Framed s force b) :
    Framed s force b' := by
  cases hm with
  | skipped hd ht => exact (h.turn hd ht).of_continues (.refl _) rfl rfl
  | applied hd ht => exact ((h.turn hd ht).schedule _).of_continues (.refl _) rfl rfl
  | askedIsolated ht => exact h.of_continues ht.continues rfl rfl
  | askedQueued _ _ ht => exact h.of_continues ht.continues rfl rfl
  | filled hr _ => exact ((h.fill backend hr _).schedule _).of_continues (.refl _) rfl rfl
  | refused hr _ => exact (h.answer hr (.refuse ..)).of_continues (.refl _) rfl rfl

theorem pending_subset (hm : Moves backend pending b pending' b') :
    ∀ x ∈ pending', x ∈ pending := by
  have draw : ∀ {b b' : Batch} {id : BlockId}, Draws pending b id pending' b' →
      ∀ x ∈ pending', x ∈ pending := by
    intro b b' id hd x hx
    cases hd with
    | isolated => exact List.mem_cons_of_mem _ hx
    | queued => exact hx
  cases hm with
  | skipped hd => exact draw hd
  | applied hd => exact draw hd
  | askedIsolated => exact fun x hx => List.mem_cons_of_mem _ hx
  | askedQueued => exact fun x hx => hx
  | filled => exact fun x hx => hx
  | refused => exact fun x hx => hx

end Moves

namespace Stage

variable {backend : Backend} {s : Session} {seeds : List BlockId} {force : Bool}
  {pending : List BlockId} {b : Batch}

theorem framed (h : Stage backend s seeds force pending b) : Framed s force b := by
  induction h with
  | opening => exact .opening s seeds force
  | move _ hm ih => exact hm.framed ih

theorem ids_eq (h : Stage backend s seeds force pending b) : b.session.store.ids = s.store.ids :=
  h.framed.alike.ids

/-- The blocks still to have their turns are isolated seeds. -/
theorem pending_subset (h : Stage backend s seeds force pending b) :
    ∀ x ∈ pending, x ∈ isolatedSeeds s seeds := by
  induction h with
  | opening => exact fun x hx => hx
  | move _ hm ih => exact fun x hx => ih x (hm.pending_subset x hx)

end Stage

end Batch
end Workbook
