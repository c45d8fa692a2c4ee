import Workbook.Proofs.Batch.Lone
import Workbook.Proofs.Graph.Acyclic

/-!
Edits and the blocks that they concern.

Creating a block, importing an image or replacing one, renaming a block and copying one end with a
batch.  Its seeds are the blocks that mention the block (`Edits.exists_batch`), so they are refused
together: if two of them are joined, the others are not computed either, unless they have no links
(`lone_concerned_cases`).
-/

namespace Workbook

/-- The blocks that depend on a block are the others that mention it. -/
theorem Graph.mem_dependents_ofStore {s : Store} (h : s.Sound) {a x : BlockId} :
    x ∈ (ofStore s).dependents a ↔
      x ≠ a ∧ ∃ b c, s.get? a = some b ∧ s.get? x = some c ∧ c.Mentions b := by
  rw [mem_dependents]
  constructor
  · intro hl
    obtain ⟨b, hb, c, hc, rfl, rfl, hne, hm⟩ := exists_of_hasLink h hl
    exact ⟨hne.symm, b, c, h.get? hb, h.get? hc, hm⟩
  · rintro ⟨hne, b, c, hb, hc, hm⟩
    obtain ⟨memb, rfl⟩ := Store.mem_of_get? hb
    obtain ⟨memc, rfl⟩ := Store.mem_of_get? hc
    exact (hasLink_ofStore h memb memc).mpr ⟨hne.symm, hm⟩

namespace Session

/-- The operation creates a block, imports an image, replaces one, renames a block or copies one,
and succeeds.  It is block `id` that is new, or has the new image or the new name. -/
inductive Edits (backend : Backend) (s : Session) : Operation → BlockId → Prop
  | create {kind : Kind} {name data : String} {transform : Option String} {id : BlockId}
    (h : (s.create backend kind name data transform).1 = .ok id) :
    Edits backend s (.command (.create kind name data transform)) id
  | importImage {name mime : String} {bytes : List UInt8} {id : BlockId}
    (h : (s.importImage backend name mime bytes).1 = .ok id) :
    Edits backend s (.command (.importImage name mime bytes)) id
  | replaceImage {id : BlockId} {mime : String} {bytes : List UInt8} {report : Report}
    (h : (s.replaceImage backend id mime bytes).1 = .ok report) :
    Edits backend s (.replaceImage id mime bytes) id
  | rename {id : BlockId} {name applied : String}
    (h : (s.rename backend id name).1 = .ok applied) :
    Edits backend s (.command (.rename id name)) id
  | duplicate {original id : BlockId} (h : (s.duplicate backend original).1 = .ok id) :
    Edits backend s (.command (.duplicate original)) id

end Session

/-- An edit of block `id` that leads from store `s` to store `t` concerns the other blocks that
mention the block then, those that mentioned a block that was renamed, and a static block that was
created. -/
inductive Concerns (s t : Store) (id : BlockId) : Operation → BlockId → Prop
  | mentions {o : Operation} {x : BlockId} {b c : Block} (hne : x ≠ id) (hb : t.get? id = some b)
    (hc : t.get? x = some c) (hm : c.Mentions b) : Concerns s t id o x
  | mentioned {name : String} {x : BlockId} {b c : Block} (hne : x ≠ id)
    (hb : s.get? id = some b) (hc : s.get? x = some c) (hm : c.Mentions b) :
    Concerns s t id (.command (.rename id name)) x
  | created {name data : String} {transform : Option String} :
    Concerns s t id (.command (.create .static name data transform)) id

namespace Concerns

variable {s t u : Store} {id x : BlockId} {o : Operation}

theorem iff (hs : s.Sound) (ht : t.Sound) : Concerns s t id o x ↔
    x ∈ (Graph.ofStore t).dependents id ∨
      (∃ name, o = .command (.rename id name)) ∧ x ∈ (Graph.ofStore s).dependents id ∨
      (∃ name data transform, o = .command (.create .static name data transform)) ∧ x = id := by
  rw [Graph.mem_dependents_ofStore hs, Graph.mem_dependents_ofStore ht]
  constructor
  · intro h
    cases h with
    | mentions hne hb hc hm => exact .inl ⟨hne, _, _, hb, hc, hm⟩
    | @mentioned name _ _ _ hne hb hc hm => exact .inr (.inl ⟨⟨name, rfl⟩, hne, _, _, hb, hc, hm⟩)
    | @created name data transform => exact .inr (.inr ⟨⟨name, data, transform, rfl⟩, rfl⟩)
  · rintro (⟨hne, b, c, hb, hc, hm⟩ | ⟨⟨name, rfl⟩, hne, b, c, hb, hc, hm⟩ |
      ⟨⟨name, data, transform, rfl⟩, rfl⟩)
    · exact .mentions hne hb hc hm
    · exact .mentioned hne hb hc hm
    · exact .created

theorem congr (hs : s.Sound) (ht : t.Sound) (h : u.Alike t) :
    Concerns s u id o x ↔ Concerns s t id o x := by
  rw [Concerns.iff hs (h.sound ht), Concerns.iff hs ht, h.ofStore]

end Concerns

namespace Session

variable {backend : Backend} {s u : Session} {o : Operation} {id x : BlockId} {ids : List BlockId}

/-- The operation changes block `id` alone, which leads to session `u`, and goes on with a batch
over the blocks in `ids`. -/
structure Batches (backend : Backend) (s : Session) (o : Operation) (id : BlockId) (u : Session)
    (ids : List BlockId) : Prop where
  sound : u.store.Sound
  perform_eq : s.perform backend o = (u.propagate backend ids false).2
  mem_ids : ∀ x, x ∈ ids ↔ Concerns s.store u.store id o x
  known : ∀ x ∈ ids, x ∈ u.store.ids
  others : ∀ x, x ≠ id → u.store.get? x = s.store.get? x
  created : ∀ kind name data transform, o = .command (.create kind name data transform) →
    ∀ c, u.store.get? id = some c → c.input = none

theorem propagate_nil (backend : Backend) (s : Session) (force : Bool) :
    s.propagate backend [] force = ({}, s.regraph) := by
  have none : ∀ cs, Graph.pick [] cs = .ok [] := by
    intro cs
    induction cs with
    | nil => rfl
    | cons c cs ih =>
      have empty : c.filter ([] : List BlockId).contains = [] :=
        List.filter_eq_nil_iff.mpr fun _ _ => Bool.false_ne_true
      rw [Graph.pick, empty]
      exact ih
  have start : Batch.start s [] force = Batch.bare s force := by
    simp only [Batch.start, List.filter_nil, List.eraseDups_nil,
      List.partition_eq_filter_filter, none]
    rfl
  have run : (Batch.bare s force).run backend = Batch.bare s force :=
    Batch.steps_of_isDone backend rfl _
  unfold propagate
  rw [start, run]
  rfl

/-- A batch without seeds does nothing in a session whose graph is up to date. -/
theorem propagateSome_eq (h : s.graph = .ofStore s.store) (backend : Backend)
    (ids : List BlockId) : s.propagateSome backend ids = (s.propagate backend ids false).2 := by
  unfold propagateSome
  split
  · rw [propagate_nil, regraph, ← h]
  · rfl

theorem mem_ids_of_mem_dependents {t : Store} (ht : t.Sound)
    (hx : x ∈ (Graph.ofStore t).dependents id) : x ∈ t.ids := by
  rw [← Graph.nodes_ofStore ht]
  exact ((Graph.sound_ofStore ht).ends_mem (Graph.hasLink_iff.mp (Graph.mem_dependents.mp hx))).2

/-- A session that takes over a block, in place of `s` with the others, computes what this
concerns. -/
theorem Batches.of_adopt {v : Session} {first : List BlockId} (hs : s.store.Sound)
    (hv : v.store.Sound) (e : s.perform backend o = v.adopt backend id first)
    (renamed : ∀ name, o ≠ .command (.rename id name))
    (hfirst : ∀ x, x ∈ first ↔
      (∃ name data transform, o = .command (.create .static name data transform)) ∧ x = id)
    (known : id ∈ v.store.ids) (others : ∀ x, x ≠ id → v.store.get? x = s.store.get? x)
    (created : ∀ kind name data transform, o = .command (.create kind name data transform) →
      ∀ c, v.store.get? id = some c → c.input = none) :
    Batches backend s o id v.graphChanged.save
      (first ++ (Graph.ofStore v.store).dependents id) := by
  have store : v.graphChanged.save.store = v.store := store_graphChanged_save v
  have graph : v.graphChanged.save.graph = .ofStore v.store := graph_graphChanged_save v
  constructor
  · exact sound_graphChanged_save hv
  · rw [e, ← propagateSome_eq (by rw [graph, store]), ← graph]
    rfl
  · intro x
    rw [store, Concerns.iff hs hv, List.mem_append, hfirst]
    have unnamed : ¬ ∃ name, o = .command (.rename id name) := fun ⟨name, e⟩ => renamed name e
    rw [or_comm]
    exact or_congr_right (or_iff_right fun given => unnamed given.1).symm
  · intro x hx
    rw [store]
    rcases List.mem_append.mp hx with hx | hx
    · rw [((hfirst x).mp hx).2]
      exact known
    · exact mem_ids_of_mem_dependents hv hx
  · rw [store]
    exact others
  · rw [store]
    exact created

/-- A block that was placed in the store is taken over, maybe after a change to it. -/
theorem Batches.of_insertAt {store v : Store} {source next : IdSource} {index : Nat} {b : Block}
    {first : List BlockId} (hs : s.store.Sound)
    (hi : (s.store.insertAt source index b).1 = .ok (id, store)) (hv : v.Sound)
    (known : id ∈ v.ids) (same : ∀ x, x ≠ id → v.get? x = store.get? x)
    (e : s.perform backend o = adopt backend { s with store := v, source := next } id first)
    (renamed : ∀ name, o ≠ .command (.rename id name))
    (hfirst : ∀ x, x ∈ first ↔
      (∃ name data transform, o = .command (.create .static name data transform)) ∧ x = id)
    (created : ∀ kind name data transform, o = .command (.create kind name data transform) →
      ∀ c, v.get? id = some c → c.input = none) :
    ∃ u ids, Batches backend s o id u ids := by
  refine ⟨_, _, Batches.of_adopt hs hv e renamed hfirst known (fun x hx => ?_) created⟩
  exact (same x hx).trans
    (Store.get?_of_perm_cons (hs.insertAt hi) hs (Store.perm_insertAt hi) hx)

theorem get?_placed {store t : Store} (ht : t.Sound) {source : IdSource} {index : Nat} {b : Block}
    (hi : (t.insertAt source index b).1 = .ok (id, store)) :
    store.get? id = some (t.placed id b) :=
  (ht.insertAt hi).get? ((Store.perm_insertAt hi).mem_iff.mpr (List.mem_cons_self ..))

theorem mem_ids_placed {store t : Store} (ht : t.Sound) {source : IdSource} {index : Nat}
    {b : Block} (hi : (t.insertAt source index b).1 = .ok (id, store)) : id ∈ store.ids :=
  Store.mem_ids.mpr ⟨_, Store.mem_of_get? (get?_placed ht hi)⟩

theorem exists_batch_create (hs : s.store.Sound) {kind : Kind} {name data : String}
    {transform : Option String} (h : (s.create backend kind name data transform).1 = .ok id) :
    ∃ u ids, Batches backend s (.command (.create kind name data transform)) id u ids := by
  have e : s.perform backend (.command (.create kind name data transform)) =
    (s.create backend kind name data transform).2 := rfl
  unfold create at h e
  rcases hc : s.store.insert s.source kind name data transform with ⟨_ | ⟨new, store⟩, source⟩
  · rw [hc] at h
    cases h
  · rw [hc] at h e
    cases h
    have hi : (s.store.insertAt s.source s.store.size
      { id := ⟨""⟩, name, kind, data, transform }).1 = .ok (id, store) := congrArg Prod.fst hc
    refine Batches.of_insertAt hs hi (hs.insertAt hi) (mem_ids_placed hs hi) (fun _ _ => rfl) e
      (by simp) (fun x => ?_) fun _ _ _ _ _ c hc => ?_
    · by_cases hk : kind = .static
      · simp [hk]
      · simp [hk]
    · rw [get?_placed hs hi] at hc
      cases hc
      rfl

theorem exists_batch_importImage (hs : s.store.Sound) {name mime : String} {bytes : List UInt8}
    (h : (s.importImage backend name mime bytes).1 = .ok id) :
    ∃ u ids, Batches backend s (.command (.importImage name mime bytes)) id u ids := by
  have e : s.perform backend (.command (.importImage name mime bytes)) =
    (s.importImage backend name mime bytes).2 := rfl
  unfold importImage at h e
  rcases hc : s.store.insert s.source .importedImage name "" none with ⟨_ | ⟨new, store⟩, source⟩
  · rw [hc] at h
    cases h
  · rw [hc] at h e
    cases h
    have hi : (s.store.insertAt s.source s.store.size
      { id := ⟨""⟩, name, kind := .importedImage, data := "", transform := none }).1 =
        .ok (id, store) := congrArg Prod.fst hc
    let imported := store.modify id fun b => { b with content := some (.binary mime bytes) }
    have sound : imported.Sound := (hs.insertAt hi).modify (fun _ => rfl) fun _ => rfl
    have known : id ∈ imported.ids := by
      rw [Store.ids_modify]
      · exact mem_ids_placed hs hi
      · exact fun _ => rfl
    have same : ∀ x, x ≠ id → imported.get? x = store.get? x :=
      fun x hx => Store.get?_modify_ne (fun _ => rfl) hx
    exact Batches.of_insertAt hs hi sound known same e (by simp) (by simp) (by simp)

theorem exists_batch_duplicate (hs : s.store.Sound) {original : BlockId}
    (h : (s.duplicate backend original).1 = .ok id) :
    ∃ u ids, Batches backend s (.command (.duplicate original)) id u ids := by
  have e : s.perform backend (.command (.duplicate original)) =
    (s.duplicate backend original).2 := rfl
  unfold duplicate at h e
  rcases hc : s.store.duplicate s.source original with ⟨_ | ⟨new, store⟩, source⟩
  · rw [hc] at h
    cases h
  · rw [hc] at h e
    cases h
    obtain ⟨b, index, -, hi⟩ := Store.duplicate_eq_ok (congrArg Prod.fst hc)
    exact Batches.of_insertAt hs hi (hs.insertAt hi) (mem_ids_placed hs hi) (fun _ _ => rfl) e
      (by simp) (by simp) (by simp)

theorem exists_batch_replaceImage (hs : s.store.Sound) {mime : String} {bytes : List UInt8}
    {report : Report} (h : (s.replaceImage backend id mime bytes).1 = .ok report) :
    ∃ u ids, Batches backend s (.replaceImage id mime bytes) id u ids := by
  have e : s.perform backend (.replaceImage id mime bytes) =
    (s.replaceImage backend id mime bytes).2 := rfl
  unfold replaceImage at h e
  cases hb : s.store.need id with
  | error e =>
    rw [hb] at h
    cases h
  | ok b =>
    rw [hb] at h e
    dsimp only at h e
    split at h
    · cases h
    · rename_i hk
      rw [if_neg hk] at e
      let changed := s.modify id fun b => { b with content := some (.binary mime bytes) }
      let noticed := (changed.save.emit (.contentUpdated id)).regraph
      have store : noticed.store = changed.store := by
        rw [store_regraph, store_emit, store_save]
      have sound : noticed.store.Sound := sound_replaced hs id mime bytes
      have graph : noticed.graph = .ofStore noticed.store := rfl
      have batch : s.perform backend (.replaceImage id mime bytes) =
          (noticed.propagate backend (noticed.graph.dependents id) false).2 := by
        rw [e]
      rw [graph] at batch
      refine ⟨noticed, (Graph.ofStore noticed.store).dependents id, sound, batch,
        fun x => ?_, fun x hx => mem_ids_of_mem_dependents sound hx, fun x hx => ?_, by simp⟩
      · rw [Concerns.iff hs sound]
        simp
      · rw [store]
        exact Store.get?_modify_ne (fun _ => rfl) hx

theorem watched_graphChanged_save (s : Session) : s.graphChanged.save.watched = s.watched := by
  have e : s.graphChanged.watched = s.watched := by
    rw [graphChanged, emit_eq]
    rfl
  rcases s.graphChanged.save_cases with e' | e'
  · rw [e', e]
  · rw [e', emit_eq]
    exact e

theorem journal_graphChanged_save (s : Session) :
    ∃ more, s.graphChanged.save.journal = s.journal ++ more := by
  obtain ⟨saved, e, -⟩ := s.graphChanged.journal_save
  refine ⟨s.told .graphChanged ++ saved, ?_⟩
  rw [e, graphChanged, emit_eq, ← List.append_assoc]
  rfl

/-- A renaming takes over a store with the new name, and goes on with a batch over the blocks that
it concerns. -/
theorem batches_rename (hs : s.store.Sound) {name applied : String}
    (h : (s.rename backend id name).1 = .ok applied) :
    let batch := s.regraph.adoptName id (s.store.modify id fun b => { b with name := applied })
    Batches backend s (.command (.rename id name)) id batch.1 batch.2 := by
  have e : s.perform backend (.command (.rename id name)) = (s.rename backend id name).2 := rfl
  unfold rename at h e
  dsimp only at h e
  cases hr : s.regraph.store.rename id name with
  | error e =>
    rw [hr] at h
    cases h
  | ok p =>
    obtain ⟨free, store⟩ := p
    rw [hr] at h e
    cases h
    have sound : store.Sound := Store.Sound.rename hs hr
    obtain ⟨-, -, modified⟩ := Store.rename_eq_ok hr
    have modified : store = s.store.modify id fun b => { b with name := applied } := modified
    rw [← modified]
    let renamed : Session := { s.regraph with store }
    have store_eq : renamed.graphChanged.save.store = store := store_graphChanged_save renamed
    have graph_eq : renamed.graphChanged.save.graph = .ofStore store :=
      graph_graphChanged_save renamed
    dsimp only [adoptName] at e ⊢
    rw [graph_graphChanged] at e ⊢
    refine ⟨?_, ?_, fun x => ?_, fun x hx => ?_, fun x hx => ?_, by simp⟩
    · rw [store_eq]
      exact sound
    · rw [e]
      exact propagateSome_eq (by rw [graph_eq, store_eq]) ..
    · show x ∈ (Graph.ofStore s.store).dependents id ++ _ ↔ _
      rw [store_eq, Concerns.iff hs sound, List.mem_append, List.mem_filter]
      by_cases hx : x ∈ (Graph.ofStore s.store).dependents id
      · simp [hx]
      · simp [hx, regraph]
    · rw [store_eq]
      rcases List.mem_append.mp hx with hx | hx
      · rw [modified, Store.ids_modify]
        · exact mem_ids_of_mem_dependents hs hx
        · exact fun _ => rfl
      · exact mem_ids_of_mem_dependents sound (List.mem_filter.mp hx).1
    · rw [store_eq, modified]
      exact Store.get?_modify_ne (fun _ => rfl) hx

/-- What an edit comes to before its batch, and the seeds of the batch. -/
theorem Edits.exists_batch (h : s.Edits backend o id) (hs : s.store.Sound) :
    ∃ u ids, Batches backend s o id u ids := by
  cases h with
  | create h => exact exists_batch_create hs h
  | importImage h => exact exists_batch_importImage hs h
  | replaceImage h => exact exists_batch_replaceImage hs h
  | rename h => exact ⟨_, _, batches_rename hs h⟩
  | duplicate h => exact exists_batch_duplicate hs h

theorem Batches.alike (h : Batches backend s o id u ids) :
    (s.perform backend o).store.Alike u.store := by
  rw [h.perform_eq]
  exact alike_propagate h.sound ..

/-- The seeds of the batch of an edit are the blocks that it concerns. -/
theorem Batches.mem_seedsOf (h : Batches backend s o id u ids) (hs : s.store.Sound) :
    x ∈ Batch.seedsOf u ids ↔ Concerns s.store (s.perform backend o).store id o x := by
  rw [Concerns.congr hs h.sound h.alike, ← h.mem_ids, Batch.mem_seedsOf]
  exact and_iff_left_of_imp fun hx => h.known x hx

/-- A block that an edit concerns and that is on no cycle fails or is current in the end, unless it
has links and two of the blocks that the edit concerns are joined.  Then it is left as it was, or
with no input if it is new. -/
theorem lone_concerned_cases (h : s.Reachable) (backend : Backend) {o : Operation} {id x : BlockId}
    (he : s.Edits backend o id)
    (hx : Concerns s.store (s.perform backend o).store id o x) {c : Block}
    (hc : (s.perform backend o).store.get? x = some c) (hk : c.kind.recomputes = true)
    (lone : ∀ y, (Graph.ofStore (s.perform backend o).store).Joined x y → y = x) :
    let taken := (Graph.ofStore (s.perform backend o).store).isIsolated x = true ∨
      ∀ y, Concerns s.store (s.perform backend o).store id o y →
        ∀ z, Concerns s.store (s.perform backend o).store id o z →
          (Graph.ofStore (s.perform backend o).store).Joined y z → y = z
    (taken → (∃ message, c.status = .failed message) ∨ c.IsCurrent (s.perform backend o).store) ∧
    (¬ taken → (x ≠ id → s.store.get? x = some c) ∧ (x = id → c.input = none)) := by
  obtain ⟨u, ids, batch⟩ := he.exists_batch h.sound
  have seeds (y : BlockId) := batch.mem_seedsOf h.sound (x := y)
  have seed := (seeds x).mpr hx
  simp only [← seeds, batch.alike.ofStore] at lone ⊢
  rw [batch.perform_eq] at hc ⊢
  obtain ⟨taken, refused⟩ := Batch.lone_seed_cases batch.sound seed lone hc hk
  refine ⟨taken, fun given => ⟨fun hne => ?_, fun new => ?_⟩⟩
  · rw [← batch.others x hne]
    exact refused given
  · subst new
    cases hx with
    | mentions hne => exact absurd rfl hne
    | mentioned hne => exact absurd rfl hne
    | created => exact batch.created _ _ _ _ rfl c (refused given)

/-- Two blocks that mention each other, both of which mention a name that no block has; and one that
mentions this name and nothing else. -/
def tied : Session :=
  ofBlocks
    [{ id := ⟨"1"⟩, name := "x", kind := .static, data := "[n][y]" },
      { id := ⟨"2"⟩, name := "y", kind := .static, data := "[n][x]" },
      { id := ⟨"3"⟩, name := "z", kind := .static, data := "[n]!" }]

theorem reachable_tied : tied.Reachable := reachable_ofBlocks _

/-- The session after a static block was created in it that gets the id. -/
def tiedWith (name : String) : Session :=
  let backend : Backend := { answer := fun r => .ok (.text r.input) }
  tied.perform backend (.command (.create .static name "!" none))

theorem reachable_tiedWith (name : String) : (tiedWith name).Reachable := by
  unfold tiedWith
  exact .perform reachable_tied _ _ trivial trivial

theorem eq_of_joined_in_tiedWith (name : String) {x y : BlockId}
    (known : x ∈ (Graph.ofStore (tiedWith name).store).nodes ∧
      (Graph.ofStore (tiedWith name).store).component x = [x])
    (hxy : (Graph.ofStore (tiedWith name).store).Joined x y) : y = x :=
  Graph.eq_of_joined_of_component (Graph.sound_ofStore (reachable_tiedWith name).sound) known.1
    known.2 hxy

/-- A static block of the name that the three mention is created.
It and the third of them are on no cycle, but it is not computed, and the third is left as it was.
One of another name is computed. -/
theorem left_out_in_tied :
    let backend : Backend := { answer := fun r => .ok (.text r.input) }
    let named : Operation := .command (.create .static "n" "!" none)
    let other : Operation := .command (.create .static "m" "!" none)
    let t := tied.perform backend named
    let u := tied.perform backend other
    tied.Reachable ∧ tied.Edits backend named ⟨"9e3779b9"⟩ ∧
      tied.Edits backend other ⟨"9e3779b9"⟩ ∧
      (∀ x ∈ [(⟨"9e3779b9"⟩ : BlockId), ⟨"3"⟩],
        Concerns tied.store t.store ⟨"9e3779b9"⟩ named x ∧
          ∀ y, (Graph.ofStore t.store).Joined x y → y = x) ∧
      (∃ c, t.store.get? ⟨"9e3779b9"⟩ = some c ∧ c.input = none) ∧
      (∃ c, t.store.get? ⟨"3"⟩ = some c ∧ tied.store.get? ⟨"3"⟩ = some c) ∧
      ∃ c, u.store.get? ⟨"9e3779b9"⟩ = some c ∧ c.IsCurrent u.store := by
  intro backend named other t u
  have created : (tied.create backend .static "n" "!" none).1 = .ok ⟨"9e3779b9"⟩ ∧
      (tied.create backend .static "m" "!" none).1 = .ok ⟨"9e3779b9"⟩ := by decide +kernel
  have edits : tied.Edits backend named ⟨"9e3779b9"⟩ := .create created.1
  have edits' : tied.Edits backend other ⟨"9e3779b9"⟩ := .create created.2
  have graph : let g := Graph.ofStore t.store
      (∀ x ∈ [(⟨"9e3779b9"⟩ : BlockId), ⟨"3"⟩],
        (x ∈ g.nodes ∧ g.component x = [x]) ∧ ¬ g.isIsolated x = true) ∧
      (∀ x ∈ [(⟨"1"⟩ : BlockId), ⟨"2"⟩, ⟨"3"⟩], x ∈ g.dependents ⟨"9e3779b9"⟩) ∧
      (⟨"1"⟩, ⟨"2"⟩) ∈ g.links ∧ (⟨"2"⟩, ⟨"1"⟩) ∈ g.links := by decide +kernel
  obtain ⟨lone, concerned, link, back⟩ := graph
  have concerns (x) (hx : x ∈ [(⟨"1"⟩ : BlockId), ⟨"2"⟩, ⟨"3"⟩]) :
      Concerns tied.store t.store ⟨"9e3779b9"⟩ named x :=
    (Concerns.iff reachable_tied.sound (reachable_tiedWith "n").sound).mpr
      (.inl (concerned x hx))
  have apart (x) (hx : x ∈ [(⟨"9e3779b9"⟩ : BlockId), ⟨"3"⟩]) :
      Concerns tied.store t.store ⟨"9e3779b9"⟩ named x ∧
        ∀ y, (Graph.ofStore t.store).Joined x y → y = x := by
    refine ⟨?_, fun y => eq_of_joined_in_tiedWith "n" (lone x hx).1⟩
    rcases List.mem_pair.mp hx with rfl | rfl
    · exact .created
    · exact concerns _ (by decide)
  have blocks : (∃ c ∈ t.store.get? ⟨"9e3779b9"⟩, c.kind.recomputes = true) ∧
      (∃ c ∈ t.store.get? ⟨"3"⟩, c.kind.recomputes = true) ∧
      ∃ c ∈ u.store.get? ⟨"9e3779b9"⟩, c.kind.recomputes = true ∧ c.status = .done := by
    decide +kernel
  obtain ⟨⟨n, hn, kn⟩, ⟨z, hz, kz⟩, m, hm, km, done⟩ := blocks
  have refused (x) (hx : x ∈ [(⟨"9e3779b9"⟩ : BlockId), ⟨"3"⟩]) (c) (hc : t.store.get? x = some c)
      (hk : c.kind.recomputes = true) :
      (x ≠ ⟨"9e3779b9"⟩ → tied.store.get? x = some c) ∧ (x = ⟨"9e3779b9"⟩ → c.input = none) := by
    refine (lone_concerned_cases reachable_tied backend edits (apart x hx).1 hc hk
      (apart x hx).2).2 fun given => ?_
    rcases given with isolated | alone
    · exact (lone x hx).2 isolated
    · have same := alone ⟨"1"⟩ (concerns _ (by decide)) ⟨"2"⟩ (concerns _ (by decide))
        ⟨.of_link link, .of_link back⟩
      exact absurd same (by decide)
  have isolated : (⟨"9e3779b9"⟩ ∈ (Graph.ofStore u.store).nodes ∧
      (Graph.ofStore u.store).component ⟨"9e3779b9"⟩ = [⟨"9e3779b9"⟩]) ∧
      (Graph.ofStore u.store).isIsolated ⟨"9e3779b9"⟩ = true := by decide +kernel
  have current := (lone_concerned_cases reachable_tied backend edits' .created hm km
    fun y => eq_of_joined_in_tiedWith "m" isolated.1).1 (.inl isolated.2)
  refine ⟨reachable_tied, edits, edits', apart, ⟨n, hn, ?_⟩, ⟨z, hz, ?_⟩, m, hm, ?_⟩
  · exact (refused _ (by decide) n hn kn).2 rfl
  · exact (refused _ (by decide) z hz kz).1 (by decide)
  · refine current.resolve_left fun failed => ?_
    rw [done] at failed
    obtain ⟨message, e⟩ := failed
    cases e

/-- So it is not so that every block that an edit concerns and that is on no cycle fails or has the
text that it reads as its input. -/
theorem not_all_concerned_current :
    ¬ ∀ (s : Session) (backend : Backend) (o : Operation) (id x : BlockId) (c : Block),
      s.Reachable → s.Edits backend o id →
      Concerns s.store (s.perform backend o).store id o x →
      (s.perform backend o).store.get? x = some c → c.kind.recomputes = true →
      (∀ y, (Graph.ofStore (s.perform backend o).store).Joined x y → y = x) →
      (∃ message, c.status = .failed message) ∨
        c.input = some ((s.perform backend o).store.resolvedText c) := by
  intro all
  let backend : Backend := { answer := fun r => .ok (.text r.input) }
  have outcome : (tied.create backend .static "n" "!" none).1 = .ok ⟨"9e3779b9"⟩ ∧
      (⟨"9e3779b9"⟩ ∈ (Graph.ofStore (tiedWith "n").store).nodes ∧
        (Graph.ofStore (tiedWith "n").store).component ⟨"9e3779b9"⟩ = [⟨"9e3779b9"⟩]) ∧
      ∃ c ∈ (tiedWith "n").store.get? ⟨"9e3779b9"⟩, c.kind.recomputes = true ∧ c.status = .idle ∧
        c.input = none := by decide +kernel
  obtain ⟨created, known, c, hc, hk, idle, empty⟩ := outcome
  rcases all tied backend _ _ _ c reachable_tied (.create created) .created hc hk
    (fun y => eq_of_joined_in_tiedWith "n" known) with ⟨message, failed⟩ | current
  · rw [idle] at failed
    cases failed
  · rw [empty] at current
    cases current

end Session
end Workbook
