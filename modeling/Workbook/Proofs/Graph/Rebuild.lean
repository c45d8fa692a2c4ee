import Workbook.Graph.Order
import Workbook.Proofs.Graph.Indexed
import Workbook.Proofs.Store.Outline

/-!
Graphs made anew.

A graph that has been in use is made anew from a store in place: what it held is cleared, then every
block becomes a node, then the names in the text of each block are looked up and linked
(`Indexed.rebuild`).  Nothing of its history is left in it (`rebuild_eq`).

If the blocks have different ids and different names, the graph is the one that the store describes
(`Portrays`): its nodes are the blocks as they are shown, and it has one edge from a block to each
other block that mentions it.  Which edges there are depends neither on the order of the blocks nor
on anything but their ids, names and texts (`edges_rebuild_of_perm`).
-/

namespace Workbook

/-- As many arcs as links: every arc runs between nodes. -/
theorem Slotted.length_links {g : Slotted} (h : g.Occupied) :
    g.links.length = g.arcs.length := by
  have all : ∀ l ∈ g.arcs, (g.ends? l).isSome = true := by
    intro l hl
    obtain ⟨⟨a, ha⟩, b, hb⟩ := h l hl
    rw [ends?_eq ha hb]
    rfl
  rw [links, List.length_filterMap_eq_countP, List.countP_eq_length]
  exact all

namespace Indexed

/-- Takes everything out: nodes and empty slots, links, and the index. -/
def clear (g : Indexed) : Indexed :=
  { g with body := { g.body with slots := [], vacant := [], arcs := [] }, index := ∅ }

/-- Makes a graph anew from a store. -/
def rebuild (g : Indexed) (s : Store) : Indexed :=
  let bare := s.ids.foldl addNode g.clear
  s.blocks.foldl (fun g b => g.linkNames s b.id (distinctNames b.data)) bare

/-- The graph is what a store says: its blocks in order, and one edge to each block from each other
one that it mentions. -/
structure Portrays (g : Indexed) (s : Store) : Prop where
  nodes_eq : g.answers.nodes = s.ids
  mem_edges : ∀ a b, (a, b) ∈ g.answers.edges ↔
    ∃ x ∈ s.blocks, ∃ y ∈ s.blocks, x.id = a ∧ y.id = b ∧ a ≠ b ∧ y.Mentions x
  edges_nodup : g.answers.edges.Nodup
  /-- No edge is there twice. -/
  length_arcs : g.body.arcs.length = g.answers.edges.length

variable {s t : Store}

/-- Nothing is left of what the graph was. -/
theorem rebuild_eq (g : Indexed) (s : Store) : g.rebuild s = ofStore s := rfl

theorem sound_rebuild (g : Indexed) (s : Store) :
    (g.rebuild s).Sound ∧ (g.rebuild s).graph = .ofStore s :=
  sound_ofStore s

theorem Sound.edges_perm {g : Indexed} (h : g.Sound) : g.answers.edges.Perm g.graph.links := by
  have edges : g.answers.edges.Nodup :=
    (Ascending.pairwise_ofList BlockId.isOrder_pairLe _).imp fun below => below.2
  rw [List.perm_ext_iff_of_nodup edges h.graph.links_nodup]
  exact fun _ => BlockId.mem_sortedPairs

theorem mem_links_ofStore (h : s.Sound) {a b : BlockId} : (a, b) ∈ (Graph.ofStore s).links ↔
    ∃ x ∈ s.blocks, ∃ y ∈ s.blocks, x.id = a ∧ y.id = b ∧ a ≠ b ∧ y.Mentions x := by
  constructor
  · intro linked
    obtain ⟨ha, hb⟩ := (Graph.sound_ofStore h).ends_mem linked
    rw [Graph.nodes_ofStore h] at ha hb
    obtain ⟨x, hx, rfl⟩ := List.mem_map.mp ha
    obtain ⟨y, hy, rfl⟩ := List.mem_map.mp hb
    have mentioned := (Graph.hasLink_ofStore h hx hy).mp (Graph.hasLink_iff.mpr linked)
    exact ⟨x, hx, y, hy, rfl, rfl, mentioned⟩
  · rintro ⟨x, hx, y, hy, rfl, rfl, mentioned⟩
    exact Graph.hasLink_iff.mp ((Graph.hasLink_ofStore h hx hy).mpr mentioned)

theorem portrays_of_sound (h : s.Sound) (g : Indexed) : (g.rebuild s).Portrays s := by
  obtain ⟨sound, e⟩ := sound_rebuild g s
  have edges := sound.edges_perm
  constructor
  · show (g.rebuild s).graph.nodes = s.ids
    rw [e, Graph.nodes_ofStore h]
  · intro a b
    rw [edges.mem_iff, e, mem_links_ofStore h]
  · exact edges.nodup_iff.mpr sound.graph.links_nodup
  · rw [edges.length_eq]
    exact (Slotted.length_links sound.occupied).symm

/-- How many blocks the settings allow plays no part. -/
theorem portrays_rebuild (ids : (s.blocks.map (·.id)).Nodup)
    (names : (s.blocks.map fun b => Name.normalize b.name).Nodup) (g : Indexed) :
    (g.rebuild s).Portrays s := by
  have roomy : ({ s with settings := { maxBlocks := s.size } } : Store).Sound :=
    ⟨ids, names, Nat.le_refl _⟩
  obtain ⟨nodes_eq, mem_edges, edges_nodup, length_arcs⟩ := portrays_of_sound roomy g
  exact ⟨nodes_eq, mem_edges, edges_nodup, length_arcs⟩

/-- A pair of blocks, the second of which mentions the first, is one of their cards. -/
theorem exists_pair_iff (s : Store) (a b : BlockId) :
    (∃ x ∈ s.blocks, ∃ y ∈ s.blocks, x.id = a ∧ y.id = b ∧ a ≠ b ∧ y.Mentions x) ↔
      ∃ c ∈ s.blocks.map Block.card, ∃ d ∈ s.blocks.map Block.card, c.1 = a ∧ d.1 = b ∧ a ≠ b ∧
        ∃ name ∈ referencedNames d.2.2, Name.normalize name = Name.normalize c.2.1 := by
  simp only [List.mem_map, Block.Mentions, Block.card, exists_exists_and_eq_and]

/-- The order of the blocks plays no part in the edges, nor does anything but the cards. -/
theorem edges_rebuild_of_perm (ids : (s.blocks.map (·.id)).Nodup)
    (names : (s.blocks.map fun b => Name.normalize b.name).Nodup)
    (h : (t.blocks.map Block.card).Perm (s.blocks.map Block.card)) (f g : Indexed) :
    (f.rebuild t).answers.edges = (g.rebuild s).answers.edges := by
  have read : ∀ {α : Type} (f : BlockId × String × String → α),
      (t.blocks.map fun b => f b.card).Perm (s.blocks.map fun b => f b.card) := by
    intro α f
    have := h.map f
    rwa [List.map_map, List.map_map] at this
  have ids' : (t.blocks.map (·.id)).Nodup := (read (·.1)).nodup_iff.mpr ids
  have names' : (t.blocks.map fun b => Name.normalize b.name).Nodup :=
    (read fun c => Name.normalize c.2.1).nodup_iff.mpr names
  refine Ascending.eq_of_pairwise BlockId.isOrder_pairLe
    (Ascending.pairwise_ofList BlockId.isOrder_pairLe _)
    (Ascending.pairwise_ofList BlockId.isOrder_pairLe _) fun ⟨a, b⟩ => ?_
  refine ((portrays_rebuild ids' names' f).mem_edges a b).trans
    (.trans ?_ ((portrays_rebuild ids names g).mem_edges a b).symm)
  rw [exists_pair_iff, exists_pair_iff]
  simp only [h.mem_iff]

/-- A graph made anew is the one that the store describes, whatever it was before: its nodes are the
blocks in their order, and its edges are the pairs of a block and another one that mentions it, each
once.  Stores with the same ids, names and texts in any order give the same edges.  To make the
graph anew once more changes nothing, nor the order in which any nodes come. -/
theorem rebuild_portrays (ids : (s.blocks.map (·.id)).Nodup)
    (names : (s.blocks.map fun b => Name.normalize b.name).Nodup) (g : Indexed) :
    (g.rebuild s).Portrays s ∧ (∀ f : Indexed, f.rebuild s = g.rebuild s) ∧
      (∀ (f : Indexed) (t : Store), (t.blocks.map Block.card).Perm (s.blocks.map Block.card) →
        (f.rebuild t).answers.edges = (g.rebuild s).answers.edges) ∧
      (g.rebuild s).rebuild s = g.rebuild s ∧
      ∀ wanted,
        ((g.rebuild s).rebuild s).graph.arrange wanted = (g.rebuild s).graph.arrange wanted := by
  have again : ∀ f : Indexed, f.rebuild s = g.rebuild s := fun f => by rw [rebuild_eq, rebuild_eq]
  refine ⟨portrays_rebuild ids names g, again,
    fun f t h => edges_rebuild_of_perm ids names h f g, again _, fun wanted => ?_⟩
  rw [again]

/-- Names in both forms, in other cases, twice, unknown, and a block's own.  The other store has the
blocks the other way round, one of them with content, and takes the place of a graph in which a slot
was given up. -/
theorem rebuild_portrays_reversed :
    let a : Block := { id := ⟨"a"⟩, name := "A", kind := .static, data := "#b [ C ] #B #a" }
    let b : Block := { id := ⟨"b"⟩, name := "B", kind := .static, data := "#nobody #A-" }
    let c : Block := { id := ⟨"c"⟩, name := "C", kind := .generativeText, data := "[a] and #A" }
    let s : Store := { blocks := [a, b, c] }
    let later : Block := { c with content := some (.text "#B"), requested := some 7 }
    let t : Store := { blocks := [later, b, a] }
    let g := changed [.addLink ⟨"x"⟩ ⟨"a"⟩, .addLink ⟨"b"⟩ ⟨"c"⟩, .removeNode ⟨"x"⟩]
    (s.blocks.map (·.id)).Nodup ∧ (s.blocks.map fun b => Name.normalize b.name).Nodup ∧
      (t.blocks.map Block.card).Perm (s.blocks.map Block.card) ∧ (g.rebuild s).Portrays s ∧
      (g.rebuild t).answers.edges =
        [(⟨"a"⟩, ⟨"b"⟩), (⟨"a"⟩, ⟨"c"⟩), (⟨"b"⟩, ⟨"a"⟩), (⟨"c"⟩, ⟨"a"⟩)] := by
  intro a b c s later t g
  have ids : (s.blocks.map (·.id)).Nodup := by decide
  have names : (s.blocks.map fun b => Name.normalize b.name).Nodup := by decide +kernel
  have turned : (t.blocks.map Block.card).Perm (s.blocks.map Block.card) :=
    List.reverse_perm (s.blocks.map Block.card)
  obtain ⟨portrays, -, alike, -, -⟩ := rebuild_portrays ids names g
  refine ⟨ids, names, turned, portrays, ?_⟩
  rw [alike g t turned]
  decide +kernel

end Indexed
end Workbook
