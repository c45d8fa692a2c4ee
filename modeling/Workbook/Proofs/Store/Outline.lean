import Workbook.Graph.Mentions
import Workbook.Proofs.Store.Sound

/-!
Outlines: what a batch leaves alone.

The outline of a block is the block without what computing may change: its content, what the content
was computed from, and how the block stands.  Two stores are alike when their blocks have the same
outlines in the same order.  The graph of a store depends on less, the ids, the names and the texts
of its blocks (`Graph.ofStore_congr`).
-/

namespace Workbook

/-- The block without what computing may change. -/
def Block.outline (b : Block) : Block :=
  { b with content := none, input := none, applied := none, requested := none, status := .idle }

namespace Block

theorem id_eq_of_outline {a b : Block} (h : a.outline = b.outline) :
    a.id = b.id := by
  show a.outline.id = b.outline.id
  rw [h]

theorem name_eq_of_outline {a b : Block} (h : a.outline = b.outline) :
    a.name = b.name := by
  show a.outline.name = b.outline.name
  rw [h]

theorem kind_eq_of_outline {a b : Block} (h : a.outline = b.outline) :
    a.kind = b.kind := by
  show a.outline.kind = b.outline.kind
  rw [h]

theorem data_eq_of_outline {a b : Block} (h : a.outline = b.outline) :
    a.data = b.data := by
  show a.outline.data = b.outline.data
  rw [h]

theorem effectiveTransform_eq_of_outline {a b : Block} (h : a.outline = b.outline) :
    a.effectiveTransform = b.effectiveTransform := by
  have hk := kind_eq_of_outline h
  have ht : a.transform = b.transform := by
    show a.outline.transform = b.outline.transform
    rw [h]
  rw [effectiveTransform, effectiveTransform, hk, ht]

theorem mentions_congr {a b c d : Block} (hb : b.data = d.data) (ha : a.name = c.name) :
    b.Mentions a ↔ d.Mentions c := by
  rw [Mentions, Mentions, hb, ha]

end Block

namespace Store

/-- The blocks have the same outlines in the same order. -/
structure Alike (s t : Store) : Prop where
  outlines : s.blocks.map Block.outline = t.blocks.map Block.outline
  settings : s.settings = t.settings

theorem Alike.refl (s : Store) : Alike s s := ⟨rfl, rfl⟩

theorem Alike.symm {s t : Store} (h : Alike s t) : Alike t s := ⟨h.outlines.symm, h.settings.symm⟩

theorem Alike.trans {s t u : Store} (hst : Alike s t) (htu : Alike t u) : Alike s u :=
  ⟨hst.outlines.trans htu.outlines, hst.settings.trans htu.settings⟩

theorem alike_modify {s : Store} {id : BlockId} {f : Block → Block}
    (hf : ∀ b, (f b).outline = b.outline) : Alike (s.modify id f) s where
  outlines := by
    simp only [modify, List.map_map]
    apply List.map_congr_left
    intro b _
    show (if b.id = id then f b else b).outline = b.outline
    split
    · exact hf b
    · rfl
  settings := rfl

/-- Stores that are the same at rest are alike. -/
theorem alike_of_atRest {s t : Store}
    (h : s.blocks.map Block.atRest = t.blocks.map Block.atRest) (hs : s.settings = t.settings) :
    s.Alike t where
  outlines := by
    have read : ∀ blocks : List Block,
        blocks.map Block.outline = (blocks.map Block.atRest).map Block.outline := by
      intro blocks
      rw [List.map_map]
      rfl
    rw [read, h, ← read]
  settings := hs

/-- What a function reads of outlines only, it reads the same of alike stores. -/
theorem Alike.map_eq {α : Type} {s t : Store} (h : Alike s t) (f : Block → α)
    (hf : ∀ b, f b.outline = f b) : s.blocks.map f = t.blocks.map f := by
  have e : ∀ u : Store, u.blocks.map f = (u.blocks.map Block.outline).map f := by
    intro u
    rw [List.map_map]
    exact List.map_congr_left fun b _ => (hf b).symm
  rw [e s, e t, h.outlines]

theorem Alike.ids {s t : Store} (h : Alike s t) : s.ids = t.ids := h.map_eq _ fun _ => rfl

theorem Alike.size {s t : Store} (h : Alike s t) : s.size = t.size := by
  have := congrArg List.length h.outlines
  rwa [List.length_map, List.length_map] at this

theorem Alike.contains {s t : Store} (h : Alike s t) (id : BlockId) :
    s.contains id = t.contains id := by
  rw [Bool.eq_iff_iff, contains_iff, contains_iff, h.ids]

theorem Alike.sound {s t : Store} (h : Alike s t) (ht : t.Sound) : s.Sound where
  ids_nodup := by
    rw [h.map_eq (·.id) fun _ => rfl]
    exact ht.ids_nodup
  names_nodup := by
    rw [h.map_eq (fun b => Name.normalize b.name) fun _ => rfl]
    exact ht.names_nodup
  length_le := by
    rw [h.settings]
    exact Nat.le_trans (Nat.le_of_eq h.size) ht.length_le

theorem Alike.exists_mem {s t : Store} (h : Alike s t) {b : Block} (hb : b ∈ s.blocks) :
    ∃ c ∈ t.blocks, c.outline = b.outline := by
  have hmem : b.outline ∈ t.blocks.map Block.outline := by
    rw [← h.outlines]
    exact List.mem_map_of_mem hb
  exact List.mem_map.mp hmem

theorem Alike.get? {s t : Store} (h : Alike s t) (ht : t.Sound) {id : BlockId} {b : Block}
    (hb : s.get? id = some b) : ∃ c, t.get? id = some c ∧ c.outline = b.outline := by
  obtain ⟨hmem, rfl⟩ := mem_of_get? hb
  obtain ⟨c, hc, e⟩ := h.exists_mem hmem
  exact ⟨c, (get?_eq_some_iff ht).mpr ⟨hc, Block.id_eq_of_outline e⟩, e⟩

theorem Sound.blocks_eq {s : Store} (h : s.Sound) : s.blocks = s.ids.filterMap s.get? := by
  have found : ∀ b ∈ s.blocks, s.get? b.id = some b := fun b hb => h.get? hb
  rw [ids, List.filterMap_map]
  show s.blocks = s.blocks.filterMap fun b => s.get? b.id
  rw [List.filterMap_congr found, List.filterMap_some]

/-- Alike stores with the same records are the same. -/
theorem Alike.eq_of_get? {s t : Store} (h : Alike s t) (ht : t.Sound)
    (same : ∀ id, s.get? id = t.get? id) : s = t := by
  refine ext_blocks ?_ h.settings
  rw [(h.sound ht).blocks_eq, ht.blocks_eq, h.ids]
  exact List.filterMap_congr fun id _ => same id

end Store

/-- What the graph reads of a block: its id, its name and its text. -/
def Block.card (b : Block) : BlockId × String × String := (b.id, b.name, b.data)

/-- The graph of a store depends on the ids, the names and the texts of its blocks alone. -/
theorem Graph.ofStore_congr {s t : Store} (h : s.blocks.map Block.card = t.blocks.map Block.card) :
    ofStore s = ofStore t := by
  have read : ∀ {α : Type} (f : BlockId × String × String → α),
      s.blocks.map (fun b => f b.card) = t.blocks.map fun b => f b.card := by
    intro α f
    have := congrArg (List.map f) h
    rwa [List.map_map, List.map_map] at this
  have ids : s.ids = t.ids := read (·.1)
  have directory : s.directory = t.directory := read fun c => (Name.normalize c.2.1, c.1)
  have link : ∀ (u : Store) (directory : List (String × BlockId)) (g : Graph),
      u.blocks.foldl (fun g b => g.linkNames directory b.id (distinctNames b.data)) g =
        (u.blocks.map Block.card).foldl
          (fun g c => g.linkNames directory c.1 (distinctNames c.2.2)) g := by
    intro u directory g
    rw [List.foldl_map]
    rfl
  simp only [ofStore]
  rw [link s, link t, h, directory, ids]

theorem Store.Alike.ofStore {s t : Store} (h : s.Alike t) : Graph.ofStore s = Graph.ofStore t :=
  Graph.ofStore_congr (h.map_eq Block.card fun _ => rfl)

end Workbook
