import Workbook.Graph.Basic

/-!
A graph as a set of nodes and a set of links.

Slots and the order of links are how a graph is kept; what it is a graph of are its nodes and links.
The changes act on these as on sets: `mem_nodes_addNode`, `mem_nodes_removeNode`,
`mem_nodes_addLink`, and the same for links.  All this holds of graphs in which the slots and the
list of empty ones agree (`Sound`), which every change leaves so.
-/

namespace Workbook
namespace Graph

theorem mem_nodes {g : Graph} {a : BlockId} : a ∈ g.nodes ↔ some a ∈ g.slots := by
  simp [nodes]

theorem mem_nodes_iff_getElem? {g : Graph} {a : BlockId} :
    a ∈ g.nodes ↔ ∃ i : Nat, g.slots[i]? = some (some a) := by
  rw [mem_nodes, List.mem_iff_getElem?]

theorem contains_iff {g : Graph} {a : BlockId} : g.contains a = true ↔ a ∈ g.nodes := by
  rw [mem_nodes]
  exact List.contains_iff_mem

theorem hasLink_iff {g : Graph} {a b : BlockId} : g.hasLink a b = true ↔ (a, b) ∈ g.links :=
  List.contains_iff_mem

/-- What every graph built by the changes below satisfies. -/
structure Sound (g : Graph) : Prop where
  /-- No node stands in two slots. -/
  slot_unique : ∀ {i j : Nat} {a : BlockId},
    g.slots[i]? = some (some a) → g.slots[j]? = some (some a) → i = j
  vacant_nodup : g.vacant.Nodup
  mem_vacant : ∀ {i : Nat}, i ∈ g.vacant ↔ g.slots[i]? = some none
  links_nodup : g.links.Nodup
  ends_mem : ∀ {a b : BlockId}, (a, b) ∈ g.links → a ∈ g.nodes ∧ b ∈ g.nodes

theorem sound_empty : Sound {} := by
  constructor <;> simp

/-! ## Adding a node -/

/-- A new node takes a slot that was empty, or one that was not there. -/
theorem getElem?_slots_addNode {g : Graph} (h : g.Sound) {a : BlockId} (ha : a ∉ g.nodes) :
    ∃ i, (g.slots[i]? = some none ∨ i = g.slots.length) ∧
      (∀ j, (g.addNode a).slots[j]? = if j = i then some (some a) else g.slots[j]?) ∧
      (g.addNode a).vacant = g.vacant.erase i ∧ (g.addNode a).links = g.links := by
  have hc : g.contains a = false := by
    rw [← Bool.not_eq_true, contains_iff]
    exact ha
  unfold addNode
  simp only [hc, Bool.false_eq_true, if_false]
  split
  case h_1 hv =>
    refine ⟨g.slots.length, .inr rfl, fun j => ?_, by simp [hv], rfl⟩
    rw [List.getElem?_append]
    split
    case isTrue hj => simp [Nat.ne_of_lt hj]
    case isFalse hj =>
      split
      case isTrue e => simp [e]
      case isFalse hne =>
        have : g.slots.length < j := by omega
        rw [List.getElem?_eq_none (by simp; omega), List.getElem?_eq_none (by omega)]
  case h_2 i rest hv =>
    have hi : g.slots[i]? = some none := h.mem_vacant.mp (by simp [hv])
    refine ⟨i, .inl hi, fun j => ?_, by simp [hv], rfl⟩
    have := (List.getElem?_eq_some_iff.mp hi).1
    rw [List.getElem?_set]
    by_cases e : j = i
    · simp [e, this]
    · simp [e, Ne.symm e]

theorem mem_nodes_addNode {g : Graph} (h : g.Sound) {a b : BlockId} :
    b ∈ (g.addNode a).nodes ↔ b = a ∨ b ∈ g.nodes := by
  by_cases ha : a ∈ g.nodes
  · have e : g.addNode a = g := if_pos (contains_iff.mpr ha)
    rw [e]
    exact ⟨.inr, fun hb => hb.elim (fun e => e ▸ ha) id⟩
  · obtain ⟨i, hi, hslots, -, -⟩ := getElem?_slots_addNode h ha
    simp only [mem_nodes_iff_getElem?, hslots]
    constructor
    · intro given
      obtain ⟨j, hj⟩ := given
      split at hj
      · exact .inl (by simpa using hj.symm)
      · exact .inr ⟨j, hj⟩
    · intro given
      rcases given with rfl | ⟨j, hj⟩
      · exact ⟨i, by simp⟩
      · refine ⟨j, ?_⟩
        rw [if_neg]
        · exact hj
        · intro e
          subst e
          rcases hi with hi | rfl
          · simp [hi] at hj
          · simp at hj

theorem links_addNode {g : Graph} {a : BlockId} : (g.addNode a).links = g.links := by
  unfold addNode
  split
  · rfl
  · split <;> rfl

theorem sound_addNode {g : Graph} (h : g.Sound) (a : BlockId) : (g.addNode a).Sound := by
  by_cases ha : a ∈ g.nodes
  · have e : g.addNode a = g := if_pos (contains_iff.mpr ha)
    rwa [e]
  · obtain ⟨i, hi, hslots, hvacant, hlinks⟩ := getElem?_slots_addNode h ha
    have absent : ∀ j, g.slots[j]? ≠ some (some a) := fun j hj =>
      ha (mem_nodes_iff_getElem?.mpr ⟨j, hj⟩)
    constructor
    · intro j k b hj hk
      rw [hslots] at hj hk
      split at hj <;> split at hk
      · omega
      · cases hj
        exact absurd hk (absent k)
      · cases hk
        exact absurd hj (absent j)
      · exact h.slot_unique hj hk
    · rw [hvacant]
      exact h.vacant_nodup.erase i
    · intro j
      rw [hvacant, h.vacant_nodup.mem_erase_iff, h.mem_vacant, hslots]
      split
      case isTrue e => simp [e]
      case isFalse e => simp [e]
    · rw [hlinks]
      exact h.links_nodup
    · intro b c hbc
      rw [hlinks] at hbc
      rw [mem_nodes_addNode h, mem_nodes_addNode h]
      exact (h.ends_mem hbc).imp .inr .inr

/-! ## Removing a node -/

theorem getElem?_idxOf {g : Graph} {a : BlockId} (ha : a ∈ g.nodes) :
    g.slots[g.slots.idxOf (some a)]? = some (some a) := by
  rw [List.getElem?_eq_some_iff]
  exact ⟨List.idxOf_lt_length_of_mem (mem_nodes.mp ha), List.getElem_idxOf _⟩

theorem getElem?_slots_removeNode {g : Graph} (h : g.Sound) {a : BlockId} (j : Nat) :
    (g.removeNode a).slots[j]? =
      if g.slots[j]? = some (some a) then some none else g.slots[j]? := by
  unfold removeNode
  split
  case isTrue ha =>
    have hi := getElem?_idxOf (contains_iff.mp ha)
    have hlt := (List.getElem?_eq_some_iff.mp hi).1
    simp only [List.getElem?_set]
    by_cases e : g.slots.idxOf (some a) = j
    · rw [e] at hi hlt
      rw [if_pos e, if_pos (e ▸ hlt), if_pos hi]
    · have : g.slots[j]? ≠ some (some a) := fun hj => e (h.slot_unique hi hj)
      simp [e, this]
  case isFalse ha =>
    have : g.slots[j]? ≠ some (some a) := fun hj =>
      ha (contains_iff.mpr (mem_nodes_iff_getElem?.mpr ⟨j, hj⟩))
    simp [this]

theorem mem_nodes_removeNode {g : Graph} (h : g.Sound) {a b : BlockId} :
    b ∈ (g.removeNode a).nodes ↔ b ≠ a ∧ b ∈ g.nodes := by
  simp only [mem_nodes_iff_getElem?, getElem?_slots_removeNode h]
  constructor
  · intro given
    obtain ⟨j, hj⟩ := given
    split at hj
    · cases hj
    · rename_i hne
      exact ⟨fun e => hne (e ▸ hj), j, hj⟩
  · intro given
    obtain ⟨hne, j, hj⟩ := given
    exact ⟨j, by simp [hj, hne]⟩

theorem mem_links_removeNode {g : Graph} (h : g.Sound) {a b c : BlockId} :
    (b, c) ∈ (g.removeNode a).links ↔ b ≠ a ∧ c ≠ a ∧ (b, c) ∈ g.links := by
  unfold removeNode
  split
  case isTrue => simp [and_comm, and_assoc]
  case isFalse ha =>
    have absent := mt contains_iff.mpr ha
    refine ⟨fun hl => ⟨?_, ?_, hl⟩, fun hl => hl.2.2⟩
    · intro e
      subst e
      exact absent (h.ends_mem hl).1
    · intro e
      subst e
      exact absent (h.ends_mem hl).2

theorem sound_removeNode {g : Graph} (h : g.Sound) (a : BlockId) : (g.removeNode a).Sound := by
  constructor
  · intro i j b hi hj
    rw [getElem?_slots_removeNode h] at hi hj
    split at hi
    · cases hi
    · split at hj
      · cases hj
      · exact h.slot_unique hi hj
  · unfold removeNode
    split
    case isTrue ha =>
      refine List.nodup_cons.mpr ⟨fun hv => ?_, h.vacant_nodup⟩
      have hi := getElem?_idxOf (contains_iff.mp ha)
      rw [h.mem_vacant.mp hv] at hi
      cases hi
    case isFalse => exact h.vacant_nodup
  · intro i
    rw [getElem?_slots_removeNode h]
    unfold removeNode
    split
    case isTrue ha =>
      have hi := getElem?_idxOf (contains_iff.mp ha)
      rw [List.mem_cons, h.mem_vacant]
      constructor
      · intro given
        rcases given with rfl | hv
        · simp [hi]
        · simp [hv]
      · intro hv
        split at hv
        · rename_i ha
          exact .inl (h.slot_unique ha hi)
        · exact .inr hv
    case isFalse ha =>
      have : g.slots[i]? ≠ some (some a) := fun hi =>
        ha (contains_iff.mpr (mem_nodes_iff_getElem?.mpr ⟨i, hi⟩))
      simp [this, h.mem_vacant]
  · unfold removeNode
    split
    · exact h.links_nodup.filter _
    · exact h.links_nodup
  · intro b c hbc
    obtain ⟨hb, hc, hl⟩ := (mem_links_removeNode h).mp hbc
    rw [mem_nodes_removeNode h, mem_nodes_removeNode h]
    exact ⟨⟨hb, (h.ends_mem hl).1⟩, hc, (h.ends_mem hl).2⟩

/-! ## Adding a link -/

theorem mem_nodes_addLink {g : Graph} (h : g.Sound) {a b c : BlockId} :
    c ∈ (g.addLink a b).nodes ↔ c = a ∨ c = b ∨ c ∈ g.nodes := by
  have e : (g.addLink a b).nodes = ((g.addNode a).addNode b).nodes := by
    simp only [addLink]
    split <;> rfl
  rw [e, mem_nodes_addNode (sound_addNode h a), mem_nodes_addNode h]
  exact or_left_comm

theorem mem_links_addLink {g : Graph} {a b c d : BlockId} :
    (c, d) ∈ (g.addLink a b).links ↔ (c = a ∧ d = b) ∨ (c, d) ∈ g.links := by
  have e : ((g.addNode a).addNode b).links = g.links := by rw [links_addNode, links_addNode]
  simp only [addLink]
  split
  case isTrue hl =>
    have hl := hasLink_iff.mp hl
    rw [e] at hl ⊢
    refine ⟨.inr, fun hcd => hcd.elim ?_ id⟩
    intro given
    obtain ⟨rfl, rfl⟩ := given
    exact hl
  case isFalse => simp [e]

theorem sound_addLink {g : Graph} (h : g.Sound) (a b : BlockId) : (g.addLink a b).Sound := by
  have hab := sound_addNode (sound_addNode h a) b
  unfold addLink
  simp only
  split
  case isTrue => exact hab
  case isFalse hl =>
    refine ⟨hab.slot_unique, hab.vacant_nodup, hab.mem_vacant, ?_, ?_⟩
    · exact List.nodup_cons.mpr ⟨mt hasLink_iff.mpr hl, hab.links_nodup⟩
    · intro c d hcd
      rcases List.mem_cons.mp hcd with e | hcd
      · cases e
        have ha : a ∈ ((g.addNode a).addNode b).nodes :=
          (mem_nodes_addNode (sound_addNode h a)).mpr (.inr ((mem_nodes_addNode h).mpr (.inl rfl)))
        have hb : b ∈ ((g.addNode a).addNode b).nodes :=
          (mem_nodes_addNode (sound_addNode h a)).mpr (.inl rfl)
        exact ⟨ha, hb⟩
      · exact hab.ends_mem hcd

theorem nodup_nodes {g : Graph} (h : g.Sound) : g.nodes.Nodup := by
  unfold nodes
  rw [List.nodup_iff_pairwise_ne, List.pairwise_filterMap, List.pairwise_iff_getElem]
  intro i j hi hj hij a ha b hb e
  subst e
  have := h.slot_unique (List.getElem?_eq_some_iff.mpr ⟨hi, ha⟩)
    (List.getElem?_eq_some_iff.mpr ⟨hj, hb⟩)
  omega

end Graph
end Workbook
