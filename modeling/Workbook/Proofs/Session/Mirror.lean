import Workbook.Proofs.Graph.Acyclic
import Workbook.Proofs.Session.Run

/-!
The graph of a session is the graph of its blocks.

Not every operation makes the graph anew, but those that do not leave alone what it is made from:
they change neither ids nor names nor texts, though they may change the order of blocks.  So the
graph was always made from a store with the same ids, names and texts (`Charted`), and its nodes and
links are those of the store as it is now (`graph_mirrors_store`).
-/

namespace Workbook
namespace Session

/-- The graph has the links that the blocks of the store have. -/
def Mirrored (s : Session) : Prop := s.graph.Mirrors (.ofStore s.store)

/-- The graph was made from a store in which the blocks have the ids, the names and the texts that
they have now. -/
def Charted (s : Session) : Prop :=
  ∃ made : Store, made.Sound ∧ s.graph = .ofStore made ∧ made.Within s.store ∧ s.store.Within made

variable {backend : Backend} {s t : Session}

/-! ## What keeps the graph -/

theorem Charted.of_eq (hs : s.store.Sound) (h : s.graph = .ofStore s.store) : s.Charted :=
  ⟨s.store, hs, h, .refl _, .refl _⟩

theorem Charted.of_within (h : s.Charted) (hg : t.graph = s.graph) (hst : s.store.Within t.store)
    (hts : t.store.Within s.store) : t.Charted := by
  obtain ⟨made, sound, e, there, back⟩ := h
  exact ⟨made, sound, hg.trans e, there.trans hst, hts.trans back⟩

theorem Charted.of_alike (h : s.Charted) (hg : t.graph = s.graph) (hs : t.store.Alike s.store) :
    t.Charted :=
  h.of_within hg hs.symm.within hs.within

theorem charted_propagate (hs : s.store.Sound) (backend : Backend) (seeds : List BlockId)
    (force : Bool) : (s.propagate backend seeds force).2.Charted := by
  have alike := alike_propagate hs backend seeds force
  apply Charted.of_eq (alike.sound hs)
  rw [graph_propagate hs, alike.ofStore]

theorem Charted.propagateSome (h : s.Charted) (hs : s.store.Sound) (backend : Backend)
    (ids : List BlockId) : (s.propagateSome backend ids).Charted := by
  unfold Session.propagateSome
  split
  · exact h
  · exact charted_propagate hs ..

theorem charted_graphChanged_save (hs : s.store.Sound) : s.graphChanged.save.Charted := by
  apply Charted.of_eq
  · exact sound_graphChanged_save hs
  · rw [graph_graphChanged_save, store_graphChanged_save]

theorem charted_adopt (hs : s.store.Sound) (backend : Backend) (id : BlockId)
    (first : List BlockId) : (s.adopt backend id first).Charted := by
  exact (charted_graphChanged_save hs).propagateSome (sound_graphChanged_save hs) ..

theorem Requested.charted {id : BlockId} {immediate : Bool}
    (h : s.Requested backend id immediate t) (hs : s.store.Sound) (hm : s.Charted) :
    t.Charted := by
  cases h with
  | parked => exact hm
  | computed => exact charted_propagate (s := { s with parking := s.parking.erase id }) hs ..

theorem Charted.save (h : s.Charted) : s.save.Charted :=
  h.of_alike (graph_save s) (store_save s ▸ .refl _)

theorem Charted.recheck (h : s.Charted) (hs : s.store.Sound) (id : BlockId) :
    (s.recheck id).Charted := by
  have made : s.regraph.Charted := .of_eq hs rfl
  rcases s.recheck_cases id with e | e | ⟨message, e⟩ <;> rw [e]
  · exact h
  · exact made
  · exact made.of_alike rfl (Continues.refuse s.regraph id message).alike

theorem Charted.revalidate (h : s.Charted) (hs : s.store.Sound) (ids : List BlockId) :
    (s.revalidate ids).2.Charted := by
  rw [revalidate_eq]
  induction ids generalizing s with
  | nil => exact h
  | cons id ids ih => exact ih (h.recheck hs id) ((alike_recheck s id).sound hs)

/-! ## One operation, and runs -/

/-- Most operations make the graph anew.  Those that do not are the edits of a transform and of an
access, which change one block in neither its name nor its text, and moves. -/
theorem Performed.charted {o : Operation} (h : s.Performed backend o t) (hs : s.store.Sound)
    (hm : s.Charted) : t.Charted := by
  cases h with
  | unchanged _ source graph hg =>
    rcases hg with rfl | rfl
    · exact hm
    · exact .of_eq hs rfl
  | load h => exact charted_propagate (sound_loaded h) ..
  | create h =>
    have hi := Store.Sound.insertAt hs (congrArg Prod.fst h)
    exact charted_adopt (s := { s with store := _, source := _ }) hi ..
  | importImage h =>
    have hi := Store.Sound.insertAt hs (congrArg Prod.fst h)
    refine charted_adopt ?_ ..
    exact hi.modify (fun _ => rfl) fun _ => rfl
  | @editData id data store _ h ht =>
    obtain ⟨-, rfl⟩ := Store.setData_eq_ok h
    have sound : (s.store.modify id fun b => { b with data }).Sound :=
      hs.modify (fun _ => rfl) fun _ => rfl
    exact ht.charted (sound_graphChanged_save sound) (charted_graphChanged_save sound)
  | @editTransform id transform store _ h ht =>
    obtain ⟨-, rfl⟩ := Store.setTransform_eq_ok h
    have sound : (s.store.modify id fun b => { b with transform := some transform }).Sound :=
      hs.modify (fun _ => rfl) fun _ => rfl
    have within := s.store.within_modify id (f := fun b => { b with transform := some transform })
      (fun _ => rfl) (fun _ => rfl) fun _ => rfl
    exact ht.charted (sound_save sound) (Charted.save (hm.of_within rfl within.1 within.2))
  | @rename id name applied store h =>
    have sound : store.Sound := hs.rename h
    exact (charted_graphChanged_save sound).propagateSome (sound_graphChanged_save sound) ..
  | @setAccess id access store h =>
    obtain ⟨-, rfl⟩ := Store.update_eq_ok h
    have within := s.store.within_modify id (f := fun b => { b with access }) (fun _ => rfl)
      (fun _ => rfl) fun _ => rfl
    exact Charted.save (hm.of_within rfl within.1 within.2)
  | delete h =>
    have sound := hs.delete h
    refine (charted_graphChanged_save ?_).revalidate ?_ _
    · rw [store_emit]
      exact sound
    · rw [store_graphChanged_save, store_emit]
      exact sound
  | duplicate h =>
    obtain ⟨b, index, -, hi⟩ := Store.duplicate_eq_ok (congrArg Prod.fst h)
    exact charted_adopt (s := { s with store := _, source := _ }) (hs.insertAt hi) ..
  | move h =>
    have perm := (Store.perm_moveTo hs h).1
    exact Charted.save (hm.of_within rfl (.of_perm perm.symm) (.of_perm perm))
  | requestUpdate ht => exact ht.charted hs hm
  | flushDeferred =>
    refine charted_propagate ?_ ..
    exact hs
  | flushDue =>
    refine charted_propagate ?_ ..
    exact hs
  | replaceImage => exact charted_propagate (sound_replaced hs ..) ..
  | propagate seeds force => exact charted_propagate hs ..
  | revalidate ids => exact hm.revalidate hs ids
  | advance => exact hm
  | rearchive => exact hm

theorem Reachable.charted (h : s.Reachable) : s.Charted := by
  induction h with
  | start settings => exact .of_eq (Store.sound_empty settings) rfl
  | @perform s h backend o _ _ ih =>
    exact (perform_performed backend s o).charted (ReachedBy.reachable h).sound ih

theorem Charted.mirrored (h : s.Charted) (hs : s.store.Sound) : s.Mirrored := by
  obtain ⟨made, sound, e, there, back⟩ := h
  rw [Mirrored, e]
  exact Graph.mirrors_ofStore sound hs there back

theorem Reachable.mirrored (h : s.Reachable) : s.Mirrored := h.charted.mirrored h.sound

/-! ## Nodes and links -/

theorem Charted.nodes_perm (h : s.Charted) (hs : s.store.Sound) :
    s.graph.nodes.Perm s.store.ids := by
  obtain ⟨made, sound, e, there, back⟩ := h
  rw [e, Graph.nodes_ofStore sound]
  refine (List.perm_ext_iff_of_nodup sound.ids_nodup hs.ids_nodup).mpr fun id => ?_
  exact ⟨fun hid => there.ids_subset hid, fun hid => back.ids_subset hid⟩

theorem Mirrored.hasLink_iff (h : s.Mirrored) (hs : s.store.Sound) {a b : BlockId} :
    s.graph.hasLink a b = true ↔
      ∃ x ∈ s.store.blocks, ∃ y ∈ s.store.blocks,
        x.id = a ∧ y.id = b ∧ x.id ≠ y.id ∧ y.Mentions x := by
  rw [h.hasLink_eq a b]
  constructor
  · exact Graph.exists_of_hasLink hs
  · intro given
    obtain ⟨x, hx, y, hy, rfl, rfl, hne, mentions⟩ := given
    exact (Graph.hasLink_ofStore hs hx hy).mpr ⟨hne, mentions⟩

theorem pairwise_displayEdges (s : Session) :
    s.displayEdges.Pairwise (Ascending.Below BlockId.pairLe) :=
  (Ascending.pairwise_ofList BlockId.isOrder_pairLe s.graph.links).filter _

theorem isSeparator_iff (hs : s.store.Sound) {x : Block} (hx : x ∈ s.store.blocks) :
    (s.store.get? x.id).any (·.kind == .separator) = true ↔ x.kind = .separator := by
  rw [hs.get? hx, Option.any_some, beq_iff_eq]

theorem Mirrored.mem_displayEdges (h : s.Mirrored) (hs : s.store.Sound) {a b : BlockId} :
    (a, b) ∈ s.displayEdges ↔
      ∃ x ∈ s.store.blocks, ∃ y ∈ s.store.blocks,
        x.id = a ∧ y.id = b ∧ x.id ≠ y.id ∧ y.Mentions x ∧
          x.kind ≠ .separator ∧ y.kind ≠ .separator := by
  unfold displayEdges Graph.edges
  rw [List.mem_filter, BlockId.mem_sortedPairs, ← Graph.hasLink_iff, h.hasLink_iff hs]
  simp only [Bool.and_eq_true, Bool.not_eq_true', ← Bool.not_eq_true]
  constructor
  · intro given
    obtain ⟨⟨x, hx, y, hy, rfl, rfl, hne, mentions⟩, kx, ky⟩ := given
    rw [isSeparator_iff hs hx] at kx
    rw [isSeparator_iff hs hy] at ky
    exact ⟨x, hx, y, hy, rfl, rfl, hne, mentions, kx, ky⟩
  · intro given
    obtain ⟨x, hx, y, hy, rfl, rfl, hne, mentions, kx, ky⟩ := given
    rw [isSeparator_iff hs hx, isSeparator_iff hs hy]
    exact ⟨⟨x, hx, y, hy, rfl, rfl, hne, mentions⟩, kx, ky⟩

/-- In every reachable session the nodes of the graph are the ids of the blocks, and a link leads
from one block to another exactly if the text of the other mentions its name.  So the edges that a
session answers with, in ascending order, are those between blocks other than separators. -/
theorem graph_mirrors_store (h : s.Reachable) :
    s.graph.nodes.Perm s.store.ids ∧
      (∀ a b, s.graph.hasLink a b = true ↔
        ∃ x ∈ s.store.blocks, ∃ y ∈ s.store.blocks,
          x.id = a ∧ y.id = b ∧ x.id ≠ y.id ∧ y.Mentions x) ∧
      ∀ backend, ∃ edges, s.execute backend .getEdges = (.ok (.edges edges), s) ∧
        edges.Pairwise (Ascending.Below BlockId.pairLe) ∧
        ∀ a b, (a, b) ∈ edges ↔
          ∃ x ∈ s.store.blocks, ∃ y ∈ s.store.blocks,
            x.id = a ∧ y.id = b ∧ x.id ≠ y.id ∧ y.Mentions x ∧
              x.kind ≠ .separator ∧ y.kind ≠ .separator := by
  have sound := h.sound
  have mirrored := h.mirrored
  refine ⟨h.charted.nodes_perm sound, fun a b => mirrored.hasLink_iff sound, fun backend => ?_⟩
  refine ⟨s.displayEdges, rfl, pairwise_displayEdges s, fun a b => ?_⟩
  exact mirrored.mem_displayEdges sound

set_option maxRecDepth 10000 in
/-- A block goes to the end, and the graph is not made anew.  The block between the two that are
linked is a separator that mentions the one and is mentioned by the other. -/
theorem graph_mirrors_store_after_move :
    let backend : Backend := { answer := fun r => .ok (.text r.input) }
    let made := ofTexts [(.static, "a", "x"), (.separator, "b", "[A]"),
      (.static, "c", "[ a] [c] [b]")]
    let s := made.perform backend (.command (.move ⟨"9e3779b9"⟩ 2))
    s.Reachable ∧ s.graph = made.graph ∧
      s.store.ids = [⟨"1715609d"⟩, ⟨"8ff34781"⟩, ⟨"9e3779b9"⟩] ∧
      s.graph.nodes.Perm s.store.ids ∧
      (∃ x ∈ s.store.blocks, ∃ y ∈ s.store.blocks,
        x.id = ⟨"9e3779b9"⟩ ∧ y.id = ⟨"1715609d"⟩ ∧ x.id ≠ y.id ∧ y.Mentions x) ∧
      (s.execute backend .getEdges).1 = .ok (.edges [(⟨"9e3779b9"⟩, ⟨"8ff34781"⟩)]) := by
  intro backend made s
  have reachable : s.Reachable := .perform (reachable_ofTexts _) backend _ trivial trivial
  obtain ⟨nodes, links, -⟩ := graph_mirrors_store reachable
  have linked : s.graph.hasLink ⟨"9e3779b9"⟩ ⟨"1715609d"⟩ = true := by decide +kernel
  exact ⟨reachable, by decide +kernel, by decide +kernel, nodes, (links _ _).mp linked,
    by decide +kernel⟩

end Session
end Workbook
