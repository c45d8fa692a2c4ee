import Workbook.Proofs.Session.Mirror

/-!
Commands that fail.

A command fails before it has changed a block.  What it may have done until then is to draw ids that
were all taken, and to make the graph anew (`Unaffected`).  A graph made anew can list its nodes in
another order, since blocks may have moved, but it has the nodes and the links that it had
(`Unaffected.nodes_perm`, `Unaffected.hasLink_eq`).  So nothing that a caller or the archive can see
is changed (`failed_command_changes_nothing`).
-/

namespace Workbook

namespace Store

theorem mem_ids_modify {s : Store} {id x : BlockId} {f : Block → Block}
    (hf : ∀ b, (f b).id = b.id) (hx : x ∈ s.ids) : x ∈ (s.modify id f).ids := by
  rw [ids_modify hf]
  exact hx

variable (s : Store)

theorem word_freshId (attempts : Nat) (source : IdSource) :
    (s.freshId attempts source).2.word = source.word := by
  induction attempts generalizing source with
  | zero => rfl
  | succ attempts ih =>
    simp only [freshId]
    split
    · exact ih _
    · rfl

theorem word_insertAt (source : IdSource) (index : Nat) (b : Block) :
    (s.insertAt source index b).2.word = source.word := by
  have drawn := s.word_freshId (max s.settings.maxIdAttempts 1) source
  unfold insertAt
  split
  · rfl
  · split
    · rename_i h
      rw [h] at drawn
      exact drawn
    · rename_i h
      rw [h] at drawn
      exact drawn

theorem word_duplicate (source : IdSource) (id : BlockId) :
    (s.duplicate source id).2.word = source.word := by
  unfold duplicate
  split
  · exact s.word_insertAt ..
  · rfl

end Store

namespace Session

/-- The session `t` is `s`, but for ids drawn in vain and for a graph made anew. -/
structure Unaffected (t s : Session) : Prop where
  session_eq : t = { s with source := t.source, graph := t.graph }
  word_eq : t.source.word = s.source.word
  graph_cases : t.graph = s.graph ∨ t.graph = .ofStore s.store

namespace Unaffected

variable {s t : Session}

theorem refl (s : Session) : s.Unaffected s := ⟨rfl, rfl, .inl rfl⟩

theorem drawn {source : IdSource} (h : source.word = s.source.word) :
    ({ s with source } : Session).Unaffected s :=
  ⟨rfl, h, .inl rfl⟩

theorem regraph (s : Session) : s.regraph.Unaffected s := ⟨rfl, rfl, .inr rfl⟩

theorem store_eq (h : t.Unaffected s) : t.store = s.store := by
  rw [h.session_eq]

/-! ## The graph -/

theorem charted (h : t.Unaffected s) (hs : s.store.Sound) (hc : s.Charted) : t.Charted := by
  rcases h.graph_cases with e | e
  · exact hc.of_alike e (h.store_eq ▸ .refl _)
  · apply Charted.of_eq
    · rw [h.store_eq]
      exact hs
    · rw [e, h.store_eq]

theorem nodes_perm (h : t.Unaffected s) (hs : s.store.Sound) (hc : s.Charted) :
    t.graph.nodes.Perm s.graph.nodes := by
  have after := (h.charted hs hc).nodes_perm (h.store_eq ▸ hs)
  rw [h.store_eq] at after
  exact after.trans (hc.nodes_perm hs).symm

theorem hasLink_eq (h : t.Unaffected s) (hs : s.store.Sound) (hc : s.Charted) (a b : BlockId) :
    t.graph.hasLink a b = s.graph.hasLink a b := by
  have after := (h.charted hs hc).mirrored (h.store_eq ▸ hs)
  rw [after.hasLink_eq, (hc.mirrored hs).hasLink_eq, h.store_eq]

end Unaffected

/-! ## Single operations -/

variable {backend : Backend} {s : Session} {id : BlockId} {e : Error}

/-- A block that is there can be computed, now or later. -/
theorem requestUpdate_ok (h : id ∈ s.store.ids) (backend : Backend) (immediate : Bool) :
    ∃ report?, (s.requestUpdate backend id immediate).1 = .ok report? := by
  obtain ⟨b, hb⟩ := Store.exists_get? h
  unfold requestUpdate Store.need
  rw [hb]
  dsimp only
  split
  · exact ⟨none, rfl⟩
  · exact ⟨some _, rfl⟩

theorem unaffected_requestUpdate {immediate : Bool}
    (failed : (s.requestUpdate backend id immediate).1 = .error e) :
    (s.requestUpdate backend id immediate).2.Unaffected s := by
  by_cases hid : id ∈ s.store.ids
  · obtain ⟨report?, ok⟩ := requestUpdate_ok hid backend immediate
    rw [ok] at failed
    cases failed
  · unfold requestUpdate Store.need
    rw [Store.get?_eq_none_iff.mpr hid]
    exact .refl s

theorem unaffected_load (failed : (s.load backend).1 = .error e) :
    (s.load backend).2.Unaffected s := by
  rcases load_cases backend s with ⟨_, refused⟩ | ⟨-, store, -, report, loaded⟩
  · rw [refused]
    exact .refl s
  · rw [loaded] at failed
    cases failed

theorem unaffected_create {kind : Kind} {name data : String} {transform : Option String}
    (failed : (s.create backend kind name data transform).1 = .error e) :
    (s.create backend kind name data transform).2.Unaffected s := by
  have drawn := s.store.word_insertAt s.source s.store.size
    { id := ⟨""⟩, name, kind, data, transform }
  unfold create Store.insert at failed ⊢
  generalize s.store.insertAt s.source s.store.size
    { id := ⟨""⟩, name, kind, data, transform } = answer at failed drawn
  obtain ⟨result, source⟩ := answer
  cases result with
  | error e => exact .drawn drawn
  | ok p => cases failed

theorem unaffected_importImage {name mime : String} {bytes : List UInt8}
    (failed : (s.importImage backend name mime bytes).1 = .error e) :
    (s.importImage backend name mime bytes).2.Unaffected s := by
  have drawn := s.store.word_insertAt s.source s.store.size
    { id := ⟨""⟩, name, kind := .importedImage, data := "", transform := none }
  unfold importImage Store.insert at failed ⊢
  generalize s.store.insertAt s.source s.store.size
    { id := ⟨""⟩, name, kind := .importedImage, data := "", transform := none } = answer
    at failed drawn
  obtain ⟨result, source⟩ := answer
  cases result with
  | error e => exact .drawn drawn
  | ok p => cases failed

theorem unaffected_duplicate (failed : (s.duplicate backend id).1 = .error e) :
    (s.duplicate backend id).2.Unaffected s := by
  have drawn := s.store.word_duplicate s.source id
  unfold duplicate at failed ⊢
  generalize s.store.duplicate s.source id = answer at failed drawn
  obtain ⟨result, source⟩ := answer
  cases result with
  | error e => exact .drawn drawn
  | ok p => cases failed

/-- Once the text is changed, the request to compute the block cannot fail. -/
theorem unaffected_editData {data : String} (failed : (s.editData backend id data).1 = .error e) :
    (s.editData backend id data).2.Unaffected s := by
  unfold editData at failed ⊢
  cases h : s.store.setData id data with
  | error e => exact .refl s
  | ok store =>
    obtain ⟨hid, rfl⟩ := Store.setData_eq_ok h
    rw [h] at failed
    let edited : Session := { s with store := s.store.modify id fun b => { b with data } }
    have there : id ∈ edited.graphChanged.save.store.ids := by
      rw [store_graphChanged_save]
      exact Store.mem_ids_modify (fun _ => rfl) hid
    obtain ⟨report?, ok⟩ := requestUpdate_ok there backend false
    rw [ok] at failed
    cases failed

theorem unaffected_editTransform {transform : String}
    (failed : (s.editTransform backend id transform).1 = .error e) :
    (s.editTransform backend id transform).2.Unaffected s := by
  unfold editTransform at failed ⊢
  cases h : s.store.setTransform id transform with
  | error e => exact .refl s
  | ok store =>
    obtain ⟨hid, rfl⟩ := Store.setTransform_eq_ok h
    rw [h] at failed
    let edited : Session :=
      { s with store := s.store.modify id fun b => { b with transform := some transform } }
    have there : id ∈ edited.save.store.ids := by
      rw [store_save]
      exact Store.mem_ids_modify (fun _ => rfl) hid
    obtain ⟨report?, ok⟩ := requestUpdate_ok there backend false
    rw [ok] at failed
    cases failed

theorem unaffected_rename {name : String} (failed : (s.rename backend id name).1 = .error e) :
    (s.rename backend id name).2.Unaffected s := by
  unfold rename at failed ⊢
  dsimp only at failed ⊢
  cases h : s.regraph.store.rename id name with
  | error e => exact .regraph s
  | ok p =>
    rw [h] at failed
    cases failed

theorem unaffected_delete (failed : (s.delete id).1 = .error e) :
    (s.delete id).2.Unaffected s := by
  unfold delete at failed ⊢
  dsimp only at failed ⊢
  cases h : s.regraph.store.delete id with
  | error e => exact .regraph s
  | ok p =>
    rw [h] at failed
    cases failed

theorem unaffected_setAccess {access : Access} (failed : (s.setAccess id access).1 = .error e) :
    (s.setAccess id access).2.Unaffected s := by
  unfold setAccess at failed ⊢
  cases h : s.store.setAccess id access with
  | error e => exact .refl s
  | ok store =>
    rw [h] at failed
    cases failed

theorem unaffected_move {index : Nat} (failed : (s.move id index).1 = .error e) :
    (s.move id index).2.Unaffected s := by
  unfold move at failed ⊢
  cases h : s.store.moveTo id index with
  | error e => exact .refl s
  | ok store =>
    rw [h] at failed
    cases failed

theorem unaffected_resolve (failed : (s.resolve id).1 = .error e) :
    (s.resolve id).2.Unaffected s := by
  unfold resolve at failed ⊢
  cases h : s.store.need id with
  | error e => exact .refl s
  | ok b =>
    rw [h] at failed
    cases failed

/-! ## Commands -/

theorem eq_error_of_map {α β : Type} {x : Except Error α} {f : α → β}
    (h : x.map f = .error e) : x = .error e := by
  cases x with
  | error e =>
    cases h
    rfl
  | ok a => cases h

theorem unaffected_execute {c : Command} (failed : (s.execute backend c).1 = .error e) :
    (s.execute backend c).2.Unaffected s := by
  cases c with
  | load => exact unaffected_load (eq_error_of_map failed)
  | create => exact unaffected_create (eq_error_of_map failed)
  | importImage => exact unaffected_importImage (eq_error_of_map failed)
  | editData => exact unaffected_editData (eq_error_of_map failed)
  | editTransform => exact unaffected_editTransform (eq_error_of_map failed)
  | rename => exact unaffected_rename (eq_error_of_map failed)
  | setAccess => exact unaffected_setAccess (eq_error_of_map failed)
  | delete => exact unaffected_delete (eq_error_of_map failed)
  | duplicate => exact unaffected_duplicate (eq_error_of_map failed)
  | move => exact unaffected_move (eq_error_of_map failed)
  | requestUpdate => exact unaffected_requestUpdate (eq_error_of_map failed)
  | flushDeferred =>
    -- there is a report or there is none, and both are outcomes
    rw [execute] at failed
    generalize s.runDeferred backend = answer at failed
    obtain ⟨report?, t⟩ := answer
    cases report? <;> cases failed
  | resolve => exact unaffected_resolve (eq_error_of_map failed)
  | getBlocks => cases failed
  | getEdges => cases failed

/-- A command that fails leaves the blocks, the parked requests, the archive, the clock and the
journal as they were, so it sent no event and asked for nothing, and the graph has the nodes and the
links that it had.  Only ids may have been drawn. -/
theorem failed_command_changes_nothing (h : s.Reachable) {c : Command}
    (failed : (s.execute backend c).1 = .error e) :
    let t := (s.execute backend c).2
    t = { s with source := { s.source with drawn := t.source.drawn }, graph := t.graph } ∧
      t.graph.nodes.Perm s.graph.nodes ∧ t.graph.edges = s.graph.edges ∧
      t.events = s.events ∧ t.requests = s.requests := by
  intro t
  have unaffected : t.Unaffected s := unaffected_execute failed
  have source : t.source = { s.source with drawn := t.source.drawn } := by
    exact congrArg (fun word => { word, drawn := t.source.drawn : IdSource }) unaffected.word_eq
  have links : ∀ l, l ∈ t.graph.links ↔ l ∈ s.graph.links := by
    rintro ⟨a, b⟩
    rw [← Graph.hasLink_iff, ← Graph.hasLink_iff, unaffected.hasLink_eq h.sound h.charted]
  refine ⟨?_, unaffected.nodes_perm h.sound h.charted, ?_, ?_, ?_⟩
  · rw [← source]
    exact unaffected.session_eq
  · exact Ascending.ofList_congr BlockId.isOrder_pairLe links
  · rw [unaffected.session_eq]
    rfl
  · rw [unaffected.session_eq]
    rfl

set_option maxRecDepth 10000 in
/-- A locked block is moved to the end and then renamed in vain.  The graph is made anew on that
occasion, and lists its nodes in the new order. -/
theorem nothing_changed_when_locked :
    let backend : Backend := { answer := fun r => .ok (.text r.input) }
    let locked := (ofTexts [(.generativeText, "a", "x"), (.static, "b", "[a]")]).perform backend
      (.command (.setAccess ⟨"9e3779b9"⟩ .locked))
    let s := locked.perform backend (.command (.move ⟨"9e3779b9"⟩ 1))
    let t := (s.execute backend (.rename ⟨"9e3779b9"⟩ "c")).2
    s.Reachable ∧
      (s.execute backend (.rename ⟨"9e3779b9"⟩ "c")).1 = .error (.locked ⟨"9e3779b9"⟩ .name) ∧
      t.graph.nodes ≠ s.graph.nodes ∧ t.graph.nodes.Perm s.graph.nodes ∧
      t.graph.edges = s.graph.edges ∧ t.events = s.events ∧ t.requests = s.requests := by
  intro backend locked s t
  have reachable : s.Reachable :=
    .perform (.perform (reachable_ofTexts _) backend _ trivial trivial) backend _ trivial trivial
  have failed : (s.execute backend (.rename ⟨"9e3779b9"⟩ "c")).1 =
      .error (.locked ⟨"9e3779b9"⟩ .name) := by decide +kernel
  obtain ⟨-, nodes, edges, events, requests⟩ := failed_command_changes_nothing reachable failed
  exact ⟨reachable, failed, by decide +kernel, nodes, edges, events, requests⟩

end Session
end Workbook
