import Mathlib.Data.List.Basic
import Workbook.Proofs.Graph.Components
import Workbook.Proofs.Graph.Plain

/-!
What `arrange` answers, for every graph that can come about by changes.

`Linearizes` says what a right answer is: which wanted nodes stand in each other's way, which
component is named then, and otherwise in which order the wanted nodes come.  `linearizes_pick`
proves it of every list of the components in which no later one reaches an earlier one, so nothing
depends on how the components were found; `components` is such a list.
-/

namespace Workbook
namespace Graph

/-! ## Right answers -/

/-- Two wanted nodes that are in each other's way, each being reached from the other. -/
def Tangled (g : Graph) (wanted : List BlockId) (x y : BlockId) : Prop :=
  (x ∈ wanted ∧ x ∈ g.nodes) ∧ (y ∈ wanted ∧ y ∈ g.nodes) ∧ x ≠ y ∧ g.Reaches x y ∧ g.Reaches y x

/-- The list is the component of each of its members, and two tangled nodes are among them. -/
structure Blocking (g : Graph) (wanted involved : List BlockId) : Prop where
  ascending : involved.Pairwise (Ascending.Below BlockId.le)
  tangled : ∃ x y, g.Tangled wanted x y ∧ x ∈ involved ∧ y ∈ involved
  known : ∀ x ∈ involved, x ∈ g.nodes
  whole : ∀ x ∈ involved, ∀ y, y ∈ involved ↔ g.Reaches x y ∧ g.Reaches y x
  eq_component : ∀ x ∈ involved, involved = g.component x

/-- The list holds the wanted nodes of the graph, each once and after all of them that reach it. -/
structure InOrder (g : Graph) (wanted order : List BlockId) : Prop where
  nodup : order.Nodup
  mem_iff : ∀ x, x ∈ order ↔ x ∈ wanted ∧ x ∈ g.nodes
  before : ∀ x ∈ order, ∀ y ∈ order, x ≠ y → g.Reaches x y → order.idxOf x < order.idxOf y

/-- What is to be answered when nodes are wanted in order. -/
structure Linearizes (g : Graph) (wanted : List BlockId) (answer : Except Cycle (List BlockId)) :
    Prop where
  fails_iff : (∃ cycle, answer = .error cycle) ↔ ∃ x y, g.Tangled wanted x y
  blocking : ∀ cycle, answer = .error cycle → g.Blocking wanted cycle.involved
  ordering : ∀ order, answer = .ok order → g.InOrder wanted order

/-! ## Picking from the components -/

/-- The components of the graph, no later one of which reaches an earlier one. -/
structure Condensed (g : Graph) (cs : List (List BlockId)) : Prop extends g.Graded cs where
  covers : ∀ a, (∃ c ∈ cs, a ∈ c) ↔ a ∈ g.nodes

theorem condensed_components {g : Graph} (hg : g.Sound) : g.Condensed g.components where
  toGraded := (graded_components hg).1
  covers _ := mem_components hg

section
variable {g : Graph} {cs : List (List BlockId)} {wanted : List BlockId}

theorem Condensed.known (h : g.Condensed cs) {c : List BlockId} (hc : c ∈ cs) {x : BlockId}
    (hx : x ∈ c) : x ∈ g.nodes :=
  (h.covers x).mp ⟨c, hc, hx⟩

theorem Condensed.crowded_eq_nil_iff (h : g.Condensed cs) :
    crowded wanted cs = [] ↔ ¬ ∃ x y, g.Tangled wanted x y := by
  rw [Graph.crowded_eq_nil_iff h.toGraded]
  constructor
  · intro apart given
    obtain ⟨x, y, hx, hy, hne, joined⟩ := given
    exact hne (apart x hx.1 y hy.1 ((h.covers x).mpr hx.2) joined)
  · intro none x hx y hy covered joined
    refine Decidable.byContradiction fun hne => ?_
    obtain ⟨c, hc, hxc⟩ := covered
    have hyc := (h.joined c hc x hxc y).mpr joined
    exact none ⟨x, y, ⟨hx, h.known hc hxc⟩, ⟨hy, h.known hc hyc⟩, hne, joined⟩

theorem Condensed.blocking (h : g.Condensed cs) (hg : g.Sound) {c : List BlockId}
    (hc : c ∈ crowded wanted cs) : g.Blocking wanted (BlockId.sorted c) := by
  obtain ⟨hcs, x, hx, y, hy, hne, hxc, hyc, joined⟩ := exists_of_mem_crowded h.toGraded hc
  refine ⟨Ascending.pairwise_ofList BlockId.isOrder_le c, ⟨x, y, ?_, ?_, ?_⟩, ?_, ?_, ?_⟩
  · exact ⟨⟨hx, h.known hcs hxc⟩, ⟨hy, h.known hcs hyc⟩, hne, joined⟩
  · exact BlockId.mem_sorted.mpr hxc
  · exact BlockId.mem_sorted.mpr hyc
  · intro z hz
    exact h.known hcs (BlockId.mem_sorted.mp hz)
  · intro z hz w
    rw [BlockId.mem_sorted, h.joined c hcs z (BlockId.mem_sorted.mp hz) w]
    rfl
  · intro z hz
    have hz := BlockId.mem_sorted.mp hz
    exact sorted_eq_component hg h.toGraded hcs hz (h.known hcs hz)

/-- In a list in which no node reaches an earlier one, a node stands before those it reaches. -/
theorem Arranged.idxOf_lt {order : List BlockId} (h : g.Arranged order) {x y : BlockId}
    (hx : x ∈ order) (hy : y ∈ order) (hne : x ≠ y) (hxy : g.Reaches x y) :
    order.idxOf x < order.idxOf y := by
  have hx := List.idxOf_lt_length_of_mem hx
  have hy := List.idxOf_lt_length_of_mem hy
  -- were `x` the later one, it would be one that reaches an earlier one
  rcases Nat.lt_trichotomy (order.idxOf x) (order.idxOf y) with lt | eq | gt
  · exact lt
  · have same : order[order.idxOf x] = order[order.idxOf y] := by simp only [eq]
    rw [List.getElem_idxOf, List.getElem_idxOf] at same
    exact absurd same hne
  · have later := List.pairwise_iff_getElem.mp h _ _ hy hx gt
    rw [List.getElem_idxOf, List.getElem_idxOf] at later
    exact absurd hxy later

theorem Arranged.nodup {order : List BlockId} (h : g.Arranged order) : order.Nodup := by
  refine List.Pairwise.imp (fun {a b} hba e => ?_) h
  subst e
  exact hba (.refl a)

theorem Condensed.ordering (h : g.Condensed cs) (uncrowded : crowded wanted cs = []) :
    g.InOrder wanted (alone wanted cs) := by
  have arranged := arranged_alone h.toGraded wanted
  refine ⟨arranged.nodup, fun x => ⟨fun hx => ?_, fun hx => ?_⟩,
    fun x hx y hy hne hxy => arranged.idxOf_lt hx hy hne hxy⟩
  · obtain ⟨hw, c, hc, hxc⟩ := mem_of_mem_alone hx
    exact ⟨hw, h.known hc hxc⟩
  · obtain ⟨c, hc, hxc⟩ := (h.covers x).mpr hx.2
    refine mem_alone_of_not_mem_crowded hc ?_ hxc hx.1
    rw [uncrowded]
    exact List.not_mem_nil

theorem linearizes_pick (hg : g.Sound) (h : g.Condensed cs) :
    g.Linearizes wanted (pick wanted cs) := by
  rw [pick_eq]
  cases hc : crowded wanted cs with
  | nil =>
    refine ⟨⟨fun failed => ?_, fun tangled => ?_⟩, fun cycle failed => ?_, fun order e => ?_⟩
    · obtain ⟨cycle, failed⟩ := failed
      cases failed
    · exact absurd tangled (h.crowded_eq_nil_iff.mp hc)
    · cases failed
    · cases e
      exact h.ordering hc
  | cons c more =>
    have mem : c ∈ crowded wanted cs := by
      rw [hc]
      exact List.mem_cons_self ..
    have blocking := h.blocking hg mem
    refine ⟨⟨fun _ => ?_, fun _ => ⟨_, rfl⟩⟩, fun cycle failed => ?_, fun order e => ?_⟩
    · obtain ⟨x, y, tangled, -, -⟩ := blocking.tangled
      exact ⟨x, y, tangled⟩
    · cases failed
      exact blocking
    · cases e

end

theorem pick_congr {wanted others : List BlockId} (h : ∀ a, a ∈ others ↔ a ∈ wanted)
    (cs : List (List BlockId)) : pick others cs = pick wanted cs := by
  have same : ∀ c ∈ cs, ∀ x ∈ c, x ∈ others ↔ x ∈ wanted := fun _ _ x _ => h x
  rw [pick_eq, pick_eq, crowded_congr same, alone_congr same]

/-- Whatever changes a graph has seen, `arrange` fails exactly if two different wanted nodes reach
each other, and names a component that holds two such.  Otherwise it answers with the wanted nodes,
each once and after all that reach it, also through nodes that are not wanted.  The answer is right
for any list of the components that is in order, and it is the same for any list of the same wanted
nodes. -/
theorem arrange_linearizes (changes : List Change) (wanted : List BlockId) :
    let g := changed changes
    g.Linearizes wanted (g.arrange wanted) ∧
      (∀ cs, g.Condensed cs → g.Linearizes wanted (pick wanted cs)) ∧
      ∀ others : List BlockId, (∀ a, a ∈ others ↔ a ∈ wanted) →
        g.arrange others = g.arrange wanted := by
  have hg := sound_changed changes
  refine ⟨linearizes_pick hg (condensed_components hg), fun cs h => linearizes_pick hg h,
    fun others same => pick_congr same _⟩

/-- Links `a`, `b`, `c` one after another and a circle of `c` and `e`, with a loop at `b` and a node
that is gone.  Without `b` between them, `a` still comes before `c`. -/
theorem arrange_linearizes_around_circle :
    let g := changed [.addLink ⟨"b"⟩ ⟨"c"⟩, .addLink ⟨"a"⟩ ⟨"b"⟩, .addLink ⟨"b"⟩ ⟨"b"⟩,
      .addLink ⟨"c"⟩ ⟨"d"⟩, .addLink ⟨"d"⟩ ⟨"a"⟩, .removeNode ⟨"d"⟩, .addLink ⟨"e"⟩ ⟨"c"⟩,
      .addLink ⟨"c"⟩ ⟨"e"⟩]
    g.Linearizes [⟨"c"⟩, ⟨"d"⟩, ⟨"a"⟩, ⟨"c"⟩] (.ok [⟨"a"⟩, ⟨"c"⟩]) ∧
      g.Linearizes [⟨"e"⟩, ⟨"a"⟩, ⟨"c"⟩] (.error ⟨[⟨"c"⟩, ⟨"e"⟩]⟩) ∧
      g.arrange [⟨"c"⟩, ⟨"a"⟩] = .ok [⟨"a"⟩, ⟨"c"⟩] := by
  intro g
  have order : g.arrange [⟨"c"⟩, ⟨"d"⟩, ⟨"a"⟩, ⟨"c"⟩] = .ok [⟨"a"⟩, ⟨"c"⟩] := by decide +kernel
  have cycle : g.arrange [⟨"e"⟩, ⟨"a"⟩, ⟨"c"⟩] = .error ⟨[⟨"c"⟩, ⟨"e"⟩]⟩ := by decide +kernel
  refine ⟨?_, ?_, by decide +kernel⟩
  · rw [← order]
    exact (arrange_linearizes _ _).1
  · rw [← cycle]
    exact (arrange_linearizes _ _).1

end Graph
end Workbook
