import Workbook.Block.Id

/-!
Directed graphs over block ids.

A link `(a, b)` says that `b` uses `a`.  Nodes stand in numbered slots.  A slot that is given up is
the first to be filled again, and of two links the later one is looked at first; both matter for the
order in which a search visits the nodes, and so for the order of blocks in a batch.
-/

namespace Workbook

structure Graph where
  slots : List (Option BlockId) := []
  /-- Numbers of empty slots, the last one given up first. -/
  vacant : List Nat := []
  /-- Links, the last one added first. -/
  links : List (BlockId × BlockId) := []
deriving DecidableEq, Repr

namespace Graph

/-- The nodes in the order of their slots. -/
def nodes (g : Graph) : List BlockId := g.slots.filterMap fun slot => slot

def contains (g : Graph) (a : BlockId) : Bool := g.slots.contains (some a)

def hasLink (g : Graph) (a b : BlockId) : Bool := g.links.contains (a, b)

/-! ## Changes -/

/-- Adds a node in the slot last given up, or in a new one. -/
def addNode (g : Graph) (a : BlockId) : Graph :=
  if g.contains a then g
  else
    match g.vacant with
    | [] => { g with slots := g.slots ++ [some a] }
    | i :: rest => { g with slots := g.slots.set i (some a), vacant := rest }

/-- Removes a node and its links. -/
def removeNode (g : Graph) (a : BlockId) : Graph :=
  if g.contains a then
    let i := g.slots.idxOf (some a)
    { slots := g.slots.set i none
      vacant := i :: g.vacant
      links := g.links.filter fun l => l.1 != a && l.2 != a }
  else g

/-- Adds a link and the nodes it needs. -/
def addLink (g : Graph) (a b : BlockId) : Graph :=
  let g := (g.addNode a).addNode b
  if g.hasLink a b then g else { g with links := (a, b) :: g.links }

/-! ## Neighbours -/

/-- The users of a node in the order in which a search visits them. -/
def users (g : Graph) (a : BlockId) : List BlockId :=
  g.links.filterMap fun l => if l.1 = a then some l.2 else none

/-- What a node uses. -/
def sources (g : Graph) (a : BlockId) : List BlockId :=
  g.links.filterMap fun l => if l.2 = a then some l.1 else none

/-- The users of a node in ascending order. -/
def dependents (g : Graph) (a : BlockId) : List BlockId := BlockId.sorted (g.users a)

/-- What a node uses, in ascending order. -/
def dependencies (g : Graph) (a : BlockId) : List BlockId := BlockId.sorted (g.sources a)

def outdegree (g : Graph) (a : BlockId) : Nat := (g.users a).length

def indegree (g : Graph) (a : BlockId) : Nat := (g.sources a).length

/-- All links in ascending order. -/
def edges (g : Graph) : List (BlockId × BlockId) := BlockId.sortedPairs g.links

/-- A node without links. -/
def isIsolated (g : Graph) (a : BlockId) : Bool := g.indegree a == 0 && g.outdegree a == 0

/-- The graph as a text of its nodes and edges. -/
def shown (g : Graph) : String :=
  let lines := g.edges.map fun l => l.1.text ++ " -> " ++ l.2.text
  "nodes: [" ++ BlockId.listed g.nodes ++ "]\nedges:\n- " ++ "\n- ".intercalate lines

end Graph
end Workbook
