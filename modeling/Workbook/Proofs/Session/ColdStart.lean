import Workbook.Proofs.Batch.Confluence
import Workbook.Proofs.Batch.Stale

/-!
Loading does not depend on results of the past.

A session that loads blocks computes all of them.  The two stores that come of lists with different
results are twins, and the batches over them go the same way (`sameEnd_onto`).  With a generator
that does not fail, each block that is computed at all has content in the end (`content_run`), and
the generator was asked once for each generative one (`requests_run`).
-/

namespace Workbook
namespace Batch

variable {backend backend' : Backend} {s : Session} {seeds : List BlockId} {w : Store}
  {x : BlockId} {c : Block}

/-! ## Batches that compute all blocks -/

section
variable (hs : s.store.Sound) (acyclic : (Graph.ofStore s.store).Acyclic)
  (hok : ∀ r, ∃ content, backend.answer r = .ok content) (all : ∀ x ∈ s.store.ids, x ∈ seeds)

include hs acyclic hok all

theorem mem_computed_run (hc : ((start s seeds true).run backend).session.store.get? x = some c)
    (hk : c.kind.recomputes = true) : x ∈ ((start s seeds true).run backend).report.computed := by
  have stage := stage_run hs backend seeds true
  have known : x ∈ s.store.ids := by
    rw [← stage.framed.alike.ids]
    exact Store.mem_ids.mpr ⟨c, Store.mem_of_get? hc⟩
  have quiet := cycle_run hs acyclic backend seeds true
  rcases Report.mem_settled.mp (mem_settled_of_mem_seeds hs quiet (all x known) known) with
    hx | hx | hx
  · exact hx
  · rw [stage.skipped_forced hs x hx c hc] at hk
    cases hk
  · rw [stage.failed_of_ok hok] at hx
    exact absurd hx List.not_mem_nil

/-- All blocks that are computed at all have content in the end. -/
theorem content_run : ∀ c ∈ ((start s seeds true).run backend).session.store.blocks,
    c.kind.recomputes = true → c.content.isSome = true := by
  intro c hc hk
  have stage := stage_run hs backend seeds true
  have found := (stage.framed.alike.sound hs).get? hc
  exact stage.content_computed hs c.id (mem_computed_run hs acyclic hok all found hk) c found

/-- Where nothing was computed, nothing is computed at all. -/
theorem inert_of_computed_nil (none : ((start s seeds true).run backend).report.computed = []) :
    ∀ c ∈ s.store.blocks, c.kind.recomputes = false := by
  intro c hc
  rw [← Bool.not_eq_true]
  intro hk
  have alike := (stage_run hs backend seeds true).framed.alike
  obtain ⟨d, hd, e⟩ := alike.symm.exists_mem hc
  rw [← Block.kind_eq_of_outline e] at hk
  have computed := mem_computed_run hs acyclic hok all ((alike.sound hs).get? hd) hk
  rw [none] at computed
  exact absurd computed List.not_mem_nil

/-- The generator is asked once for each generative block. -/
theorem requests_run : ∃ new,
    ((start s seeds true).run backend).session.requests = s.requests ++ new ∧
      (new.map (·.id)).Perm (s.store.ids.filter s.store.generates) := by
  have stage := stage_run hs backend seeds true
  obtain ⟨new, asks⟩ := stage.asks hs
  have asked : ((start s seeds true).run backend).asked s.store =
      ((start s seeds true).run backend).report.computed.filter s.store.generates := by
    rw [Batch.asked, calls_run hs, stage.failed_of_ok hok]
    exact (List.append_nil _).trans (List.append_nil _)
  have nodup : ((start s seeds true).run backend).report.computed.Nodup :=
    (nodup_settled hs backend seeds true).sublist
      ((List.sublist_append_left ..).trans (List.sublist_append_left ..))
  refine ⟨new, asks.requests_eq, ?_⟩
  have distinct : s.store.ids.Nodup := hs.ids_nodup
  refine asks.perm.trans ?_
  rw [asked, List.perm_ext_iff_of_nodup (nodup.filter _) (distinct.filter _)]
  intro x
  rw [List.mem_filter, List.mem_filter, and_congr_left_iff]
  intro generates
  have alike := stage.framed.alike
  have current : ((start s seeds true).run backend).session.store.generates x = true :=
    (stage.framed.generates_eq hs x).trans generates
  obtain ⟨c, hc, hk⟩ := Store.exists_of_generates current
  have known : x ∈ s.store.ids := by
    rw [← alike.ids]
    exact Store.mem_ids.mpr ⟨c, Store.mem_of_get? hc⟩
  have computed := mem_computed_run hs acyclic hok all hc (Kind.recomputes_of_isGenerative hk)
  exact ⟨fun _ => known, fun _ => computed⟩

end

/-- Batches that compute all blocks of twin stores come to the same end. -/
theorem sameEnd_onto (hs : s.store.Sound) (acyclic : (Graph.ofStore s.store).Acyclic)
    (ha : backend.answer = backend'.answer) (hok : ∀ r, ∃ content, backend'.answer r = .ok content)
    (hd : ∀ r, backend.delay r = 0) (hd' : ∀ r, backend'.delay r = 0)
    (all : ∀ x ∈ s.store.ids, x ∈ seeds) (twins : s.store.Twins w) (archive : Archive) :
    SameEnd s ((start s seeds true).run backend)
      ((start (s.onto w archive) seeds true).run backend') := by
  have ended := sameEnd_run hs ha hd hd' (fun x _ => Iff.refl (x ∈ seeds)) true
  rw [run_onto hs acyclic hok all twins archive]
  exact ⟨ended.store_eq, ended.computed, ended.skipped, ended.failed, ended.cycle_eq,
    ended.requests⟩

end Batch

namespace Session

/-- The session with an archive in which the given blocks are saved. -/
def offered (s : Session) (blocks : List Block) : Session :=
  { s with archive := { s.archive with saved := blocks } }

/-- The session with another store in place of its own, before anything is computed. -/
def cold (s : Session) (store : Store) : Session :=
  ({ s with store, parking := {} } : Session).graphChanged

variable {backend backend' : Backend} {s : Session} {store : Store} {blocks blocks' : List Block}

theorem cold_eq (s : Session) (store : Store) :
    s.cold store =
      { s with
        store, graph := .ofStore store, parking := {}
        journal := s.journal ++ s.told .graphChanged } :=
  emit_eq ..

theorem requests_cold (s : Session) (store : Store) : (s.cold store).requests = s.requests :=
  requests_emit ..

theorem archive_cold (s : Session) (store : Store) : (s.cold store).archive = s.archive := by
  rw [cold_eq]

theorem load_eq (backend : Backend) (hf : s.archive.loadFault = none)
    (h : s.store.replaceAll s.archive.saved = .ok store) :
    s.load backend =
      (.ok ((s.cold store).propagate backend store.ids true).1,
        ((s.cold store).propagate backend store.ids true).2) := by
  unfold load
  rw [hf, h]
  dsimp only
  rw [store_graphChanged]
  rfl

theorem load_eq_ok {report : Report} (h : (s.load backend).1 = .ok report) :
    s.archive.loadFault = none ∧ ∃ store, s.store.replaceAll s.archive.saved = .ok store := by
  rcases load_cases backend s with ⟨_, refused⟩ | ⟨intact, store, e, -⟩
  · rw [refused] at h
    cases h
  · exact ⟨intact, store, e⟩

theorem cold_onto (s : Session) {w : Store} (twins : store.Twins w) :
    (s.offered blocks').cold w =
      ((s.offered blocks).cold store).onto w (s.offered blocks').archive := by
  rw [cold_eq, cold_eq, twins.alike.ofStore]
  rfl

/-- A session that can load a list of blocks can load one with other results, and the two batches
are over twin stores. -/
theorem exists_cold (backend' : Backend)
    (same : blocks.map Block.uncomputed = blocks'.map Block.uncomputed) {report : Report}
    (loads : ((s.offered blocks).load backend).1 = .ok report) :
    ∃ store w, s.store.replaceAll blocks = .ok store ∧ store.Twins w ∧
      let first := (s.offered blocks).cold store
      let second := first.onto w (s.offered blocks').archive
      (s.offered blocks).load backend = (.ok (first.propagate backend store.ids true).1,
        (first.propagate backend store.ids true).2) ∧
      (s.offered blocks').load backend' = (.ok (second.propagate backend' store.ids true).1,
        (second.propagate backend' store.ids true).2) := by
  obtain ⟨hf, store, e⟩ := load_eq_ok loads
  obtain ⟨w, e', twins⟩ := Store.Twins.replaceAll s.store same e
  refine ⟨store, w, e, twins, load_eq backend hf e, ?_⟩
  rw [twins.alike.ids, ← cold_onto s twins]
  exact load_eq backend' hf e'

theorem saved_propagate {s : Session} (hs : s.store.Sound) (backend : Backend)
    (seeds : List BlockId) (force : Bool) (takes : s.archive.saveFault = none) :
    (s.propagate backend seeds force).2.archive.saved =
      if (s.propagate backend seeds force).1.computed.isEmpty then s.archive.saved
      else (s.propagate backend seeds force).2.store.blocks := by
  rw [archive_propagate hs]
  split
  · rfl
  · rw [Archive.handed, takes]

/-- What batches that compute all blocks of twin stores come to. -/
theorem propagate_onto {s : Session} {seeds : List BlockId} {w : Store} (hs : s.store.Sound)
    (acyclic : (Graph.ofStore s.store).Acyclic) (ha : backend.answer = backend'.answer)
    (hok : ∀ r, ∃ content, backend.answer r = .ok content) (hd : ∀ r, backend.delay r = 0)
    (hd' : ∀ r, backend'.delay r = 0) (all : ∀ x ∈ s.store.ids, x ∈ seeds)
    (twins : s.store.Twins w) (archive : Archive) :
    let first := s.propagate backend seeds true
    let second := (s.onto w archive).propagate backend' seeds true
    first.2.store = second.2.store ∧ first.1.computed.isEmpty = second.1.computed.isEmpty ∧
      (∀ b ∈ first.2.store.blocks, b.kind.recomputes = true → b.content.isSome = true) ∧
      ∃ new new', first.2.requests = s.requests ++ new ∧
        second.2.requests = s.requests ++ new' ∧ new.Perm new' ∧
        (new.map (·.id)).Perm (first.2.store.ids.filter first.2.store.generates) := by
  intro first second
  have ended : Batch.SameEnd s ((Batch.start s seeds true).run backend)
      ((Batch.start (s.onto w archive) seeds true).run backend') :=
    Batch.sameEnd_onto hs acyclic ha (ha ▸ hok) hd hd' all twins archive
  have alike := (framed_run hs backend seeds true).alike
  have stored : first.2.store = _ := Batch.store_propagate ..
  have stored' : second.2.store = _ := Batch.store_propagate ..
  obtain ⟨new, new', asked, asked', perm, -⟩ := ended.requests
  obtain ⟨only, again, once⟩ := Batch.requests_run hs acyclic hok all
  obtain rfl : only = new := List.append_cancel_left (again.symm.trans asked)
  refine ⟨?_, ended.computed.isEmpty_eq, ?_, only, new', ?_, ?_, perm, ?_⟩
  · rw [stored, stored']
    exact ended.store_eq
  · rw [stored]
    exact Batch.content_run hs acyclic hok all
  · exact (Batch.requests_propagate ..).trans asked
  · exact (Batch.requests_propagate ..).trans asked'
  · rw [stored, alike.ids, funext (alike.generates (alike.sound hs))]
    exact once

/-- If nothing else than results sets the saved blocks apart, a session comes to the same end from
either of them. -/
theorem load_from_cold (s : Session) {backend backend' : Backend}
    (ha : backend.answer = backend'.answer) (hok : ∀ r, ∃ content, backend.answer r = .ok content)
    (hd : ∀ r, backend.delay r = 0) (hd' : ∀ r, backend'.delay r = 0) {blocks blocks' : List Block}
    (same : blocks.map Block.uncomputed = blocks'.map Block.uncomputed)
    (acyclic : ∀ store, s.store.replaceAll blocks = .ok store → (Graph.ofStore store).Acyclic)
    {report : Report} (loads : ((s.offered blocks).load backend).1 = .ok report) :
    let outcome := (s.offered blocks).load backend
    let outcome' := (s.offered blocks').load backend'
    (∃ report', outcome'.1 = .ok report') ∧
      (∃ new new', outcome.2.requests = s.requests ++ new ∧
        outcome'.2.requests = s.requests ++ new' ∧ new.Perm new' ∧
        (new.map (·.id)).Perm (outcome.2.store.ids.filter outcome.2.store.generates)) ∧
      outcome.2.store = outcome'.2.store ∧
      (∀ b ∈ outcome.2.store.blocks, b.kind.recomputes = true → b.content.isSome = true) ∧
      (s.archive.saveFault = none → outcome.2.archive.saved = outcome'.2.archive.saved ∧
        ∀ b ∈ outcome.2.archive.saved, b.kind.recomputes = true → b.content.isSome = true) := by
  intro outcome outcome'
  obtain ⟨store, w, e, twins, loaded, loaded'⟩ := exists_cold backend' same loads
  have acyclic := acyclic store e
  have sound := (Store.Sound.replaceAll e).1
  let first := (s.offered blocks).cold store
  let second := first.onto w (s.offered blocks').archive
  have stored : first.store = store := store_graphChanged _
  have hs : first.store.Sound := stored.symm ▸ sound
  have hs' : second.store.Sound := twins.symm.alike.sound sound
  rw [← stored] at acyclic twins
  have all : ∀ x ∈ first.store.ids, x ∈ store.ids := fun x hx => stored ▸ hx
  obtain ⟨stores, computed, contents, requests⟩ :=
    propagate_onto hs acyclic ha hok hd hd' all twins (s.offered blocks').archive
  rw [requests_cold] at requests
  rw [show outcome = _ from loaded, show outcome' = _ from loaded']
  refine ⟨⟨_, rfl⟩, requests, stores, contents, fun takes => ?_⟩
  have archive : first.archive = (s.offered blocks).archive := archive_cold ..
  rw [saved_propagate hs backend _ _ (archive ▸ takes), saved_propagate hs' backend' _ _ takes,
    ← computed]
  split
  · -- nothing is saved where nothing was computed
    rename_i none
    have inert := Batch.inert_of_computed_nil hs acyclic hok all (List.isEmpty_iff.mp none)
    have inert := Store.inert_of_replaceAll e (stored ▸ inert)
    rw [archive]
    refine ⟨Block.eq_of_map_uncomputed same inert, fun b hb hk => ?_⟩
    rw [inert b hb] at hk
    cases hk
  · exact ⟨congrArg Store.blocks stores, contents⟩

set_option maxRecDepth 10000 in
/-- A generative block whose content was made from another text, and one without content. -/
theorem greeting_from_cold :
    let s : Session := start {} { word := fun _ => 0 } {} true
    let backend : Backend := { answer := fun r => .ok (.text r.input) }
    let backend' : Backend :=
      { answer := fun r => .ok (.text r.input), next := fun calls => calls.length - 1 }
    let blocks : List Block :=
      [{ id := ⟨"1"⟩, name := "A", kind := .static, data := "hello" },
        { id := ⟨"2"⟩, name := "B", kind := .generativeText, data := "say [A]" },
        { id := ⟨"3"⟩, name := "C", kind := .generativeText, data := "x" }]
    let blocks' : List Block :=
      [{ id := ⟨"1"⟩, name := "A", kind := .static, data := "hello",
           content := some (.text "bye") },
        { id := ⟨"2"⟩, name := "B", kind := .generativeText, data := "say [A]",
           content := some (.text "say bye"), input := some "say bye", applied := some "" },
        { id := ⟨"3"⟩, name := "C", kind := .generativeText, data := "x" }]
    let outcome := (s.offered blocks).load backend
    let outcome' := (s.offered blocks').load backend'
    blocks ≠ blocks' ∧ blocks.map Block.uncomputed = blocks'.map Block.uncomputed ∧
      backend.answer = backend'.answer ∧ (∀ r, ∃ content, backend.answer r = .ok content) ∧
      (∀ r, backend.delay r = 0) ∧ (∀ r, backend'.delay r = 0) ∧
      (∀ store, s.store.replaceAll blocks = .ok store → (Graph.ofStore store).Acyclic) ∧
      outcome.1 = .ok { computed := [⟨"1"⟩, ⟨"3"⟩, ⟨"2"⟩] } ∧
      outcome.2.store = outcome'.2.store ∧
      outcome.2.archive.saved = outcome'.2.archive.saved ∧
      ∀ b ∈ outcome.2.archive.saved, b.kind.recomputes = true → b.content.isSome = true := by
  intro s backend backend' blocks blocks'
  have apart : blocks ≠ blocks' := by decide +kernel
  have same : blocks.map Block.uncomputed = blocks'.map Block.uncomputed := by decide +kernel
  have answers : backend.answer = backend'.answer := rfl
  have hok : ∀ r, ∃ content, backend.answer r = .ok content := fun r => ⟨_, rfl⟩
  have delays : ∀ r, backend.delay r = 0 := fun _ => rfl
  have delays' : ∀ r, backend'.delay r = 0 := fun _ => rfl
  have acyclic : ∀ store, s.store.replaceAll blocks = .ok store →
      (Graph.ofStore store).Acyclic := by
    intro store e
    let rank : BlockId → Nat := fun id => if id = ⟨"2"⟩ then 1 else 0
    let links (loaded : Except Error Store) : List (BlockId × BlockId) :=
      match loaded with
      | .ok store => (Graph.ofStore store).links
      | .error _ => []
    have links : ∀ l ∈ links (s.store.replaceAll blocks), rank l.1 < rank l.2 := by decide +kernel
    rw [e] at links
    exact Graph.acyclic_of_rank rank links
  have loads : ((s.offered blocks).load backend).1 =
      .ok { computed := [⟨"1"⟩, ⟨"3"⟩, ⟨"2"⟩] } := by decide +kernel
  obtain ⟨-, -, stores, -, saved⟩ := load_from_cold s answers hok delays delays' same acyclic loads
  exact ⟨apart, same, answers, hok, delays, delays', acyclic, loads, stores, saved rfl⟩

end Session
end Workbook
