import Mathlib.Data.List.Nodup
import Mathlib.Data.Set.Insert
import Workbook.Graph.Mentions
import Workbook.Graph.Reach

/-!
Graphs as two sets.

A graph comes about by changes (`Graph.Change`): it is made anew from a store, or nodes and links
are added and nodes removed, in any order.  `Plain` is a graph that is nothing but a set of nodes
and a set of links, on which each change acts as its description says.  `Answers` collects all that
can be asked of a graph, and `Answers.Fit` says when the answers are the right ones for two sets.

A graph `Shows` two sets if it is sound and has their elements for nodes and links.  Each change
keeps this (`Shows.change`), so it holds after any number of them (`shows_changed`), and a graph
that shows two sets answers rightly about them (`Shows.fit`).
-/

namespace Workbook
namespace Graph

/-- What can be done to a graph. -/
inductive Change where
  /-- The graph is dropped and made anew from a store. -/
  | rebuild (s : Store)
  | addNode (a : BlockId)
  | removeNode (a : BlockId)
  | addLink (a b : BlockId)

def change (g : Graph) : Change → Graph
  | .rebuild s => .ofStore s
  | .addNode a => g.addNode a
  | .removeNode a => g.removeNode a
  | .addLink a b => g.addLink a b

/-- The graph after changes to one without nodes. -/
def changed (changes : List Change) : Graph := changes.foldl change {}

end Graph

/-- A set of nodes and a set of links. -/
structure Plain where
  nodes : Set BlockId := ∅
  links : Set (BlockId × BlockId) := ∅

namespace Plain

/-- The blocks of a store, and the pairs of a block that a name in a text finds and the block of the
text, if these are two. -/
def ofStore (s : Store) : Plain where
  nodes := {a | a ∈ s.ids}
  links := {l | ∃ b ∈ s.blocks, ∃ name ∈ referencedNames b.data, ∃ a,
    s.find? name = some a ∧ a.id ≠ b.id ∧ l = (a.id, b.id)}

def change (p : Plain) : Graph.Change → Plain
  | .rebuild s => ofStore s
  | .addNode a => { p with nodes := insert a p.nodes }
  | .removeNode a =>
    { nodes := {b ∈ p.nodes | b ≠ a}, links := {l ∈ p.links | l.1 ≠ a ∧ l.2 ≠ a} }
  | .addLink a b => { nodes := insert a (insert b p.nodes), links := insert (a, b) p.links }

def changed (changes : List Graph.Change) : Plain := changes.foldl change {}

end Plain

/-! ## Answers -/

/-- All that can be asked of a graph. -/
structure Answers where
  nodes : List BlockId
  contains : BlockId → Bool
  hasLink : BlockId → BlockId → Bool
  edges : List (BlockId × BlockId)
  dependents : BlockId → List BlockId
  dependencies : BlockId → List BlockId
  outdegree : BlockId → Nat
  indegree : BlockId → Nat
  /-- What the removal of a node would answer. -/
  removes : BlockId → Bool

/-- The answers are the right ones for two sets. -/
structure Answers.Fit (x : Answers) (p : Plain) : Prop where
  nodes_nodup : x.nodes.Nodup
  mem_nodes : ∀ a, a ∈ x.nodes ↔ a ∈ p.nodes
  contains_iff : ∀ a, x.contains a = true ↔ a ∈ p.nodes
  hasLink_iff : ∀ a b, x.hasLink a b = true ↔ (a, b) ∈ p.links
  edges_ascending : x.edges.Pairwise (Ascending.Below BlockId.pairLe)
  mem_edges : ∀ l, l ∈ x.edges ↔ l ∈ p.links
  dependents_ascending : ∀ a, (x.dependents a).Pairwise (Ascending.Below BlockId.le)
  mem_dependents : ∀ a b, b ∈ x.dependents a ↔ (a, b) ∈ p.links
  dependencies_ascending : ∀ a, (x.dependencies a).Pairwise (Ascending.Below BlockId.le)
  mem_dependencies : ∀ a b, b ∈ x.dependencies a ↔ (b, a) ∈ p.links
  outdegree_eq : ∀ a, x.outdegree a = (x.dependents a).length
  indegree_eq : ∀ a, x.indegree a = (x.dependencies a).length
  removes_iff : ∀ a, x.removes a = true ↔ a ∈ p.nodes
  unknown : ∀ a, a ∉ p.nodes → x.dependents a = [] ∧ x.dependencies a = [] ∧
    x.outdegree a = 0 ∧ x.indegree a = 0

/-- The answers of a graph.  A removal answers whether the node is there. -/
def Graph.answers (g : Graph) : Answers where
  nodes := g.nodes
  contains := g.contains
  hasLink := g.hasLink
  edges := g.edges
  dependents := g.dependents
  dependencies := g.dependencies
  outdegree := g.outdegree
  indegree := g.indegree
  removes := g.contains

namespace Graph

/-! ## Neighbours -/

theorem nodup_users {g : Graph} (h : g.Sound) (a : BlockId) : (g.users a).Nodup := by
  refine List.Nodup.filterMap ?_ h.links_nodup
  intro l m b hl hm
  simp only [Option.mem_def, Option.ite_none_right_eq_some, Option.some.injEq] at hl hm
  exact Prod.ext (hl.1.trans hm.1.symm) (hl.2.trans hm.2.symm)

theorem nodup_sources {g : Graph} (h : g.Sound) (a : BlockId) : (g.sources a).Nodup := by
  refine List.Nodup.filterMap ?_ h.links_nodup
  intro l m b hl hm
  simp only [Option.mem_def, Option.ite_none_right_eq_some, Option.some.injEq] at hl hm
  exact Prod.ext (hl.2.trans hm.2.symm) (hl.1.trans hm.1.symm)

/-- Sorting loses nothing where nothing is repeated. -/
theorem sorted_perm {ids : List BlockId} (h : ids.Nodup) : (BlockId.sorted ids).Perm ids :=
  (List.perm_ext_iff_of_nodup (BlockId.nodup_sorted ids) h).mpr fun _ => BlockId.mem_sorted

/-! ## Showing two sets -/

structure Shows (g : Graph) (p : Plain) : Prop where
  sound : g.Sound
  mem_nodes : ∀ a, a ∈ g.nodes ↔ a ∈ p.nodes
  mem_links : ∀ l, l ∈ g.links ↔ l ∈ p.links

theorem Shows.fit {g : Graph} {p : Plain} (h : g.Shows p) : g.answers.Fit p where
  nodes_nodup := nodup_nodes h.sound
  mem_nodes := h.mem_nodes
  contains_iff a := contains_iff.trans (h.mem_nodes a)
  hasLink_iff a b := Graph.hasLink_iff.trans (h.mem_links (a, b))
  edges_ascending := Ascending.pairwise_ofList BlockId.isOrder_pairLe _
  mem_edges l := BlockId.mem_sortedPairs.trans (h.mem_links l)
  dependents_ascending a := Ascending.pairwise_ofList BlockId.isOrder_le _
  mem_dependents a b := BlockId.mem_sorted.trans (mem_users.trans (h.mem_links (a, b)))
  dependencies_ascending a := Ascending.pairwise_ofList BlockId.isOrder_le _
  mem_dependencies a b := BlockId.mem_sorted.trans (mem_sources.trans (h.mem_links (b, a)))
  outdegree_eq a := (sorted_perm (nodup_users h.sound a)).length_eq.symm
  indegree_eq a := (sorted_perm (nodup_sources h.sound a)).length_eq.symm
  removes_iff a := contains_iff.trans (h.mem_nodes a)
  unknown a ha := by
    have users_eq : g.users a = [] := by
      rw [List.eq_nil_iff_forall_not_mem]
      intro b hb
      exact ha ((h.mem_nodes a).mp (h.sound.ends_mem (mem_users.mp hb)).1)
    have sources_eq : g.sources a = [] := by
      rw [List.eq_nil_iff_forall_not_mem]
      intro b hb
      exact ha ((h.mem_nodes a).mp (h.sound.ends_mem (mem_sources.mp hb)).2)
    show BlockId.sorted (g.users a) = [] ∧ BlockId.sorted (g.sources a) = [] ∧
      (g.users a).length = 0 ∧ (g.sources a).length = 0
    rw [users_eq, sources_eq]
    exact ⟨rfl, rfl, rfl, rfl⟩

/-! ## Changes -/

theorem shows_empty : Shows {} {} where
  sound := sound_empty
  mem_nodes a := by simp [nodes]
  mem_links l := by simp

theorem mem_nodes_foldl_addNode {g : Graph} (h : g.Sound) (ids : List BlockId) :
    (ids.foldl addNode g).Sound ∧ ∀ b, b ∈ (ids.foldl addNode g).nodes ↔ b ∈ ids ∨ b ∈ g.nodes := by
  induction ids generalizing g with
  | nil => exact ⟨h, by simp⟩
  | cons a rest ih =>
    obtain ⟨sound, mem⟩ := ih (sound_addNode h a)
    refine ⟨sound, fun b => ?_⟩
    rw [List.foldl_cons, mem, mem_nodes_addNode h, List.mem_cons, or_left_comm, or_assoc]

/-- The graph of any store shows its blocks and the pairs in which one mentions the other. -/
theorem shows_ofStore (s : Store) : (ofStore s).Shows (.ofStore s) := by
  obtain ⟨bare, mem⟩ := mem_nodes_foldl_addNode sound_empty s.ids
  have known : ∀ a, a ∈ (s.ids.foldl addNode {}).nodes ↔ a ∈ s.ids := by
    intro a
    rw [mem]
    simp [nodes]
  have linked := foldl_linkNames s.directory s.blocks bare
    (fun b hb => (known b.id).mpr (List.mem_map_of_mem hb))
    (fun e he => by
      obtain ⟨b, hb, rfl⟩ := List.mem_map.mp he
      exact (known b.id).mpr (List.mem_map_of_mem hb))
  refine ⟨linked.2.2, fun a => ?_, fun l => ?_⟩
  · rw [nodes, ofStore, linked.1]
    exact known a
  · obtain ⟨a, b⟩ := l
    rw [mem_links_ofStore]
    simp only [Named, Store.lookup_directory_eq]
    constructor
    · rintro ⟨x, hx, rfl, hne, name, hname, found⟩
      obtain ⟨y, hy, rfl⟩ := Option.map_eq_some_iff.mp found
      exact ⟨x, hx, name, mem_referencedNames_of_mem_distinctNames hname, y, hy, hne, rfl⟩
    · rintro ⟨x, hx, name, hname, y, hy, hne, e⟩
      cases e
      obtain ⟨spelling, distinct, same⟩ := exists_mem_distinctNames.mpr ⟨name, hname, rfl⟩
      refine ⟨x, hx, rfl, hne, spelling, distinct, Option.map_eq_some_iff.mpr ⟨y, ?_, rfl⟩⟩
      rw [same]
      exact hy

/-- The store need not be sound: blocks that share an id share a node. -/
theorem sound_rebuild (s : Store) : (ofStore s).Sound := (shows_ofStore s).sound

/-- Every change acts on a graph as on the sets that it shows. -/
theorem Shows.change {g : Graph} {p : Plain} (h : g.Shows p) (c : Change) :
    (g.change c).Shows (p.change c) := by
  cases c with
  | rebuild s => exact shows_ofStore s
  | addNode a =>
    refine ⟨sound_addNode h.sound a, fun b => ?_, fun l => ?_⟩
    · exact (mem_nodes_addNode h.sound).trans (or_congr_right (h.mem_nodes b))
    · show l ∈ (g.addNode a).links ↔ _
      rw [links_addNode]
      exact h.mem_links l
  | removeNode a =>
    refine ⟨sound_removeNode h.sound a, fun b => ?_, fun l => ?_⟩
    · refine (mem_nodes_removeNode h.sound).trans ?_
      rw [and_comm, h.mem_nodes]
      exact Iff.rfl
    · refine (mem_links_removeNode h.sound).trans ?_
      rw [← and_assoc, and_comm, h.mem_links]
      exact Iff.rfl
  | addLink a b =>
    refine ⟨sound_addLink h.sound a b, fun c => ?_, fun l => ?_⟩
    · refine (mem_nodes_addLink h.sound).trans ?_
      rw [h.mem_nodes]
      exact Iff.rfl
    · obtain ⟨c, d⟩ := l
      refine mem_links_addLink.trans ?_
      rw [h.mem_links, ← Prod.mk.injEq]
      exact Iff.rfl

theorem Shows.foldl {g : Graph} {p : Plain} (h : g.Shows p) (changes : List Change) :
    (changes.foldl Graph.change g).Shows (changes.foldl Plain.change p) := by
  induction changes generalizing g p with
  | nil => exact h
  | cons c changes ih => exact ih (h.change c)

theorem shows_changed (changes : List Change) : (changed changes).Shows (.changed changes) :=
  shows_empty.foldl changes

theorem sound_changed (changes : List Change) : (changed changes).Sound :=
  (shows_changed changes).sound

end Graph
end Workbook
