import Workbook.Proofs.Graph.Leaving
import Workbook.Proofs.Store.Outline

/-!
Graphs without circles.

In such a graph no node can be reached from the end of a link that leaves it.  `Mirrors` says that
two graphs have the same links.  What can be reached depends on links alone, so of two such graphs
both are without circles or none (`Mirrors.acyclic`); and the links of a store's graph depend on the
ids, the names and the texts of its blocks, in whatever order (`mirrors_ofStore`).
-/

namespace Workbook
namespace Graph

/-- No link leads to where its beginning can be reached again. -/
def Acyclic (g : Graph) : Prop := ∀ a b, g.hasLink a b = true → ¬ g.Reaches b a

/-- A graph is without circles if its links lead upwards. -/
theorem acyclic_of_rank {g : Graph} (rank : BlockId → Nat)
    (h : ∀ l ∈ g.links, rank l.1 < rank l.2) : g.Acyclic := by
  intro a b hl hba
  have up : ∀ x y, (x, y) ∈ g.links → rank b ≤ rank x → rank b ≤ rank y := by
    intro x y hxy hx
    have := h (x, y) hxy
    exact Nat.le_of_lt (Nat.lt_of_le_of_lt hx this)
  have back : rank b ≤ rank a := hba.closed up (Nat.le_refl _)
  have forth : rank a < rank b := h (a, b) (hasLink_iff.mp hl)
  omega

namespace Acyclic

variable {g : Graph} (h : g.Acyclic)

include h

/-- Nodes that can be reached from each other are the same. -/
theorem eq_of_reaches {a b : BlockId} (hab : g.Reaches a b) (hba : g.Reaches b a) : a = b := by
  cases hab with
  | refl => rfl
  | @step c _ hac hl => exact absurd (hba.trans hac) (h c b hl)

theorem eq_of_joined {a b : BlockId} (hab : g.Joined a b) : a = b :=
  h.eq_of_reaches hab.1 hab.2

theorem not_hasLink_back {a b : BlockId} (hl : g.hasLink a b = true) : ¬ g.hasLink b a = true :=
  fun hl' => h a b hl (.of_link (hasLink_iff.mp hl'))

end Acyclic

/-- The graphs have the same links. -/
structure Mirrors (g g' : Graph) : Prop where
  hasLink_eq : ∀ a b, g.hasLink a b = g'.hasLink a b

namespace Mirrors

variable {g g' : Graph}

theorem symm (h : g.Mirrors g') : g'.Mirrors g := ⟨fun a b => (h.hasLink_eq a b).symm⟩

theorem reaches (h : g.Mirrors g') {a b : BlockId} (hab : g.Reaches a b) : g'.Reaches a b := by
  refine hab.closed (p := fun x => g'.Reaches a x) (fun x y hl hx => ?_) (.refl a)
  refine hx.trans (.of_link (hasLink_iff.mp ?_))
  rw [← h.hasLink_eq x y]
  exact hasLink_iff.mpr hl

theorem acyclic (h : g.Mirrors g') (ha : g.Acyclic) : g'.Acyclic := by
  intro a b hl hba
  rw [← h.hasLink_eq a b] at hl
  exact ha a b hl (h.symm.reaches hba)

end Mirrors
end Graph

/-- Every block of the one store is in the other, as far as its id, its name and its text go. -/
def Store.Within (s t : Store) : Prop :=
  ∀ b ∈ s.blocks, ∃ c ∈ t.blocks, c.id = b.id ∧ c.name = b.name ∧ c.data = b.data

theorem Store.Within.refl (s : Store) : s.Within s := fun b hb => ⟨b, hb, rfl, rfl, rfl⟩

theorem Store.Within.trans {s t u : Store} (hst : s.Within t) (htu : t.Within u) : s.Within u := by
  intro b hb
  obtain ⟨c, hc, hi, hn, hd⟩ := hst b hb
  obtain ⟨d, hmem, hi', hn', hd'⟩ := htu c hc
  exact ⟨d, hmem, hi'.trans hi, hn'.trans hn, hd'.trans hd⟩

theorem Store.Within.ids_subset {s t : Store} (h : s.Within t) : s.ids ⊆ t.ids := by
  intro id hid
  obtain ⟨b, hb, rfl⟩ := Store.mem_ids.mp hid
  obtain ⟨c, hc, e, -⟩ := h b hb
  exact Store.mem_ids.mpr ⟨c, hc, e⟩

theorem Store.Alike.within {s t : Store} (h : s.Alike t) : s.Within t := by
  intro b hb
  obtain ⟨c, hc, e⟩ := h.exists_mem hb
  exact ⟨c, hc, Block.id_eq_of_outline e, Block.name_eq_of_outline e, Block.data_eq_of_outline e⟩

theorem Store.Within.of_perm {s t : Store} (h : s.blocks.Perm t.blocks) : s.Within t :=
  fun b hb => ⟨b, h.mem_iff.mp hb, rfl, rfl, rfl⟩

theorem Store.within_modify (s : Store) (id : BlockId) {f : Block → Block}
    (hi : ∀ b, (f b).id = b.id) (hn : ∀ b, (f b).name = b.name) (hd : ∀ b, (f b).data = b.data) :
    s.Within (s.modify id f) ∧ (s.modify id f).Within s := by
  constructor
  · intro b hb
    by_cases e : b.id = id
    · exact ⟨f b, Store.mem_modify.mpr ⟨b, hb, (if_pos e).symm⟩, hi b, hn b, hd b⟩
    · exact ⟨b, Store.mem_modify.mpr ⟨b, hb, (if_neg e).symm⟩, rfl, rfl, rfl⟩
  · intro c hc
    obtain ⟨b, hb, rfl⟩ := Store.mem_modify.mp hc
    refine ⟨b, hb, ?_⟩
    split
    · exact ⟨(hi b).symm, (hn b).symm, (hd b).symm⟩
    · exact ⟨rfl, rfl, rfl⟩

namespace Graph

theorem exists_of_hasLink {s : Store} (h : s.Sound) {a b : BlockId}
    (hl : (ofStore s).hasLink a b = true) :
    ∃ x ∈ s.blocks, ∃ y ∈ s.blocks, x.id = a ∧ y.id = b ∧ x.id ≠ y.id ∧ y.Mentions x := by
  have ends := (sound_ofStore h).ends_mem (hasLink_iff.mp hl)
  rw [nodes_ofStore h, Store.mem_ids, Store.mem_ids] at ends
  obtain ⟨⟨x, hx, rfl⟩, y, hy, rfl⟩ := ends
  obtain ⟨hne, hm⟩ := (hasLink_ofStore h hx hy).mp hl
  exact ⟨x, hx, y, hy, rfl, rfl, hne, hm⟩

theorem hasLink_of_within {s t : Store} (hs : s.Sound) (ht : t.Sound) (h : s.Within t)
    {a b : BlockId} (hl : (ofStore s).hasLink a b = true) : (ofStore t).hasLink a b = true := by
  obtain ⟨x, hx, y, hy, rfl, rfl, hne, hm⟩ := exists_of_hasLink hs hl
  obtain ⟨x', hx', ex, nx, -⟩ := h x hx
  obtain ⟨y', hy', ey, -, dy⟩ := h y hy
  rw [← ex, ← ey, hasLink_ofStore ht hx' hy', ex, ey]
  exact ⟨hne, (Block.mentions_congr dy nx).mpr hm⟩

/-- Links come from the ids, the names and the texts of blocks. -/
theorem mirrors_ofStore {s t : Store} (hs : s.Sound) (ht : t.Sound) (h : s.Within t)
    (h' : t.Within s) : (ofStore s).Mirrors (.ofStore t) := by
  refine ⟨fun a b => ?_⟩
  rw [Bool.eq_iff_iff]
  exact ⟨hasLink_of_within hs ht h, hasLink_of_within ht hs h'⟩

end Graph
end Workbook
