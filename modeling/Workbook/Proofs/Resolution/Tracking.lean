import Workbook.Proofs.Resolution.Reading

/-!
The graph tracks everything that a block reads.

Two stores with the same ids, names and texts have the same graph.  If they agree on the content of
each block that the graph links to a block, other than of those that are linked both ways, that
block resolves to the same in both (`resolve_eq_of_tracked`): what the other blocks contain, and
what kinds of blocks they all are, is not seen.  So new content need only be followed along the
links that lead one way.
-/

namespace Workbook
namespace Store

/-- The content of blocks that are not linked to a block, or are linked to it both ways, has no part
in what the block resolves to. -/
theorem resolve_eq_of_tracked {s t : Store}
    (names : (s.blocks.map fun b => Name.normalize b.name).Nodup)
    (cards : t.blocks.map Block.card = s.blocks.map Block.card) {b : Block} (hb : b ∈ s.blocks)
    (tracked : ∀ a d, (a, d) ∈ s.blocks.zip t.blocks →
      (Graph.ofStore s).hasLink a.id b.id = true → (Graph.ofStore s).hasLink b.id a.id = false →
      d.content = a.content) :
    t.resolve (.ofStore t) b.data b.name = s.resolve (.ofStore s) b.data b.name := by
  have self : (s.find? b.name).map (·.id) = some b.id := by
    rw [find?_of_names_nodup names hb rfl]
    rfl
  refine resolve_congr (map_id_find?_of_cards cards b.name) fun name hn => ?_
  rw [self]
  exact standing_eq_of_cards cards hb tracked hn

set_option maxRecDepth 10000 in
/-- The text mentions four blocks, itself among them, and a name that no block has.  The block that
mentions it in turn and the one that it does not mention may contain anything; other content of the
first block shows. -/
theorem resolves_alike_beside_pair :
    let store (x y z : Option Content) (kind : Kind) : Store := { blocks := [
      { id := ⟨"1"⟩, name := " Alpha", kind, content := x },
      { id := ⟨"2"⟩, name := "beta", kind, data := "#gamma", content := y },
      { id := ⟨"3"⟩, name := "Gamma", kind, data := "#alpha [BETA] [ gamma ] [empty] #absent" },
      { id := ⟨"4"⟩, name := "empty", kind },
      { id := ⟨"5"⟩, name := "aside", kind, content := z }] }
    let image : Content := .binary "image/png" [1, 2, 3]
    let s := store (some (.text "x")) (some (.text "y")) none .static
    let t := store (some (.text "x")) none (some image) .generativeText
    let u := store (some image) none none .static
    let data := "#alpha [BETA] [ gamma ] [empty] #absent"
    s ≠ t ∧
      s.resolve (.ofStore s) data "Gamma" =
        { hasReferences := true
          invalid := ["BETA", " gamma ", "absent"]
          notReady := ["empty"]
          available := [⟨"alpha", ⟨"1"⟩, .text "x"⟩]
          text := "x [BETA] [ gamma ] [empty] #absent"
          diagnostics := [.mutual "BETA" ⟨"2"⟩, .itself " gamma ", .unknown "absent"] } ∧
      t.resolve (.ofStore t) data "Gamma" = s.resolve (.ofStore s) data "Gamma" ∧
      (u.resolve (.ofStore u) data "Gamma").attachments = [⟨"alpha", ⟨"1"⟩, image⟩] := by
  intro store image s t u data
  have names : (s.blocks.map fun b => Name.normalize b.name).Nodup := by decide +kernel
  have tracked : ∀ p ∈ s.blocks.zip t.blocks,
      (Graph.ofStore s).hasLink p.1.id ⟨"3"⟩ = true →
      (Graph.ofStore s).hasLink ⟨"3"⟩ p.1.id = false → p.2.content = p.1.content := by
    decide +kernel
  have same : t.resolve (.ofStore t) data "Gamma" = s.resolve (.ofStore s) data "Gamma" :=
    resolve_eq_of_tracked (b := { id := ⟨"3"⟩, name := "Gamma", kind := .static, data }) names
      (by decide +kernel) (by decide +kernel) fun a d mem => tracked (a, d) mem
  exact ⟨by decide +kernel, by decide +kernel, same, by decide +kernel⟩

end Store
end Workbook
