import Workbook.Graph.Basic

/-!
Depth-first search.

A search goes from a node to its users, the user linked last first, and leaves a node once all that
can be reached from it has been seen.  `Reaches` is the relation that the search decides.
-/

namespace Workbook
namespace Graph

/-- A path, which may be empty, leads from the first node to the second. -/
inductive Reaches (g : Graph) : BlockId → BlockId → Prop where
  | refl (a : BlockId) : Reaches g a a
  | step {a b c : BlockId} : Reaches g a b → g.hasLink b c = true → Reaches g a c

/-- How far a search has come. -/
structure Trail where
  seen : List BlockId := []
  /-- The nodes left behind, the last one first. -/
  left : List BlockId := []
deriving DecidableEq, Repr

/-- Searches from a node through what is not seen yet.  Every call within a call has seen one node
more, so a search need not be deeper than the number of nodes. -/
def visit (g : Graph) : Nat → Trail → BlockId → Trail
  | 0, t, _ => t
  | depth + 1, t, a =>
    if t.seen.contains a then t
    else
      let inner := (g.users a).foldl (fun t b => visit g depth t b) { t with seen := a :: t.seen }
      { inner with left := a :: inner.left }

/-- The nodes that can be reached from a node, itself among them. -/
def reach (g : Graph) (a : BlockId) : List BlockId := (g.visit g.nodes.length {} a).seen

/-- The nodes, the one that a search over all of them leaves last first.  A node then stands before
what can be reached from it, as far as the two are not on a common circle. -/
def leavingOrder (g : Graph) : List BlockId :=
  (g.nodes.foldl (fun t a => g.visit g.nodes.length t a) {}).left

end Graph
end Workbook
