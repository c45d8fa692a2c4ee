import Workbook.Graph.Basic
import Workbook.Store

/-!
The dependency graph of a store: a node for each block, in the order of the store, and a link from
`a` to `b` when the text of `b` mentions the name of `a`, another block.
-/

namespace Workbook

/-- The normal form of each block's name, with the block's id. -/
def Store.directory (s : Store) : List (String × BlockId) :=
  s.blocks.map fun b => (Name.normalize b.name, b.id)

namespace Graph

/-- Links to a block the blocks of the given names. -/
def linkNames (directory : List (String × BlockId)) (user : BlockId) (g : Graph)
    (names : List String) : Graph :=
  names.foldl (fun g name =>
    match directory.lookup (Name.normalize name) with
    | some source => if source = user then g else g.addLink source user
    | none => g) g

def ofStore (s : Store) : Graph :=
  let directory := s.directory
  let bare := s.ids.foldl addNode {}
  s.blocks.foldl (fun g b => g.linkNames directory b.id (distinctNames b.data)) bare

end Graph

/-- Whether the text of block `b` mentions the name of block `a`. -/
def Block.Mentions (b a : Block) : Prop :=
  ∃ name ∈ referencedNames b.data, Name.normalize name = Name.normalize a.name

end Workbook
