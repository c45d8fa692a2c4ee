import Workbook.Error
import Workbook.Graph.Search

/-!
Strongly connected components, and the order in which blocks can be computed.

Two nodes are in one component when each can be reached from the other.  `components` lists the
components so that links lead from earlier ones to later ones.  `arrange` puts wanted nodes into
that order and refuses when two of them are in one component.
-/

namespace Workbook
namespace Graph

/-- Each node with all that can be reached from it. -/
def closure (g : Graph) : List (BlockId × List BlockId) := g.nodes.map fun a => (a, g.reach a)

/-- The nodes that reach `a` and are reached from it. -/
def componentIn (closure : List (BlockId × List BlockId)) (a : BlockId) : List BlockId :=
  match closure.lookup a with
  | none => []
  | some reached =>
    closure.filterMap fun row =>
      if reached.contains row.1 && row.2.contains a then some row.1 else none

/-- The component of a node, in ascending order. -/
def component (g : Graph) (a : BlockId) : List BlockId :=
  BlockId.sorted (componentIn g.closure a)

/-- The component of every node of a list that is not in one already taken. -/
def gather (closure : List (BlockId × List BlockId)) (taken : List BlockId) :
    List BlockId → List (List BlockId)
  | [] => []
  | a :: rest =>
    if taken.contains a then gather closure taken rest
    else
      let c := componentIn closure a
      c :: gather closure (c ++ taken) rest

/-- The components, each before those that can be reached from it. -/
def components (g : Graph) : List (List BlockId) := gather g.closure [] g.leavingOrder

/-- The wanted nodes in the order of their components. -/
def pick (wanted : List BlockId) : List (List BlockId) → Except Cycle (List BlockId)
  | [] => .ok []
  | c :: rest =>
    match c.filter wanted.contains with
    | [] => pick wanted rest
    | [a] => (pick wanted rest).map (a :: ·)
    | _ => .error ⟨BlockId.sorted c⟩

/-- The wanted nodes of the graph, each after all wanted ones that it depends on, also through
others.  Fails at the first component that holds two of them. -/
def arrange (g : Graph) (wanted : List BlockId) : Except Cycle (List BlockId) :=
  pick wanted g.components

end Graph
end Workbook
