import Workbook.Graph.OfStore
import Workbook.Graph.Sound

/-!
What the graph of a store is: its nodes are the blocks (`nodes_ofStore`), and its links lead from
blocks to those that mention them (`hasLink_ofStore`).
-/

namespace Workbook

namespace Graph

/-- The blocks that names lead a block to link to. -/
def Named (directory : List (String × BlockId)) (user : BlockId) (names : List String)
    (source : BlockId) : Prop :=
  source ≠ user ∧ ∃ name ∈ names, directory.lookup (Name.normalize name) = some source

theorem named_cons {directory : List (String × BlockId)} {user : BlockId} {name : String}
    {names : List String} {source : BlockId} :
    Named directory user (name :: names) source ↔
      (source ≠ user ∧ directory.lookup (Name.normalize name) = some source) ∨
        Named directory user names source := by
  simp only [Named, List.mem_cons]
  constructor
  · intro given
    rcases given with ⟨hne, n, rfl | hn, hl⟩
    · exact .inl ⟨hne, hl⟩
    · exact .inr ⟨hne, n, hn, hl⟩
  · intro given
    rcases given with ⟨hne, hl⟩ | ⟨hne, n, hn, hl⟩
    · exact ⟨hne, name, .inl rfl, hl⟩
    · exact ⟨hne, n, .inr hn, hl⟩

theorem linkNames_cons {directory : List (String × BlockId)} {user : BlockId} {g : Graph}
    {name : String} {names : List String} :
    g.linkNames directory user (name :: names) =
      (match directory.lookup (Name.normalize name) with
        | some source => if source = user then g else g.addLink source user
        | none => g).linkNames directory user names :=
  rfl

theorem mem_links_linkNames {directory : List (String × BlockId)} {user : BlockId} {g : Graph}
    {names : List String} {a b : BlockId} :
    (a, b) ∈ (g.linkNames directory user names).links ↔
      (b = user ∧ Named directory user names a) ∨ (a, b) ∈ g.links := by
  induction names generalizing g with
  | nil => simp [linkNames, Named]
  | cons name names ih =>
    rw [linkNames_cons, ih, named_cons]
    split
    case h_1 source hs =>
      split
      case isTrue e =>
        subst e
        simp only [hs, Option.some.injEq]
        grind
      case isFalse e =>
        simp only [mem_links_addLink, hs, Option.some.injEq]
        grind
    case h_2 hs => simp [hs]

theorem links_foldl_addNode (ids : List BlockId) (g : Graph) :
    (ids.foldl addNode g).links = g.links := by
  induction ids generalizing g with
  | nil => rfl
  | cons a rest ih => rw [List.foldl_cons, ih, links_addNode]

theorem mem_links_foldl_linkNames (directory : List (String × BlockId)) (blocks : List Block)
    {g : Graph} {a b : BlockId} :
    (a, b) ∈ (blocks.foldl
        (fun g b => g.linkNames directory b.id (distinctNames b.data)) g).links ↔
      (∃ x ∈ blocks, x.id = b ∧ Named directory b (distinctNames x.data) a) ∨
        (a, b) ∈ g.links := by
  induction blocks generalizing g with
  | nil => simp
  | cons x blocks ih =>
    rw [List.foldl_cons, ih, mem_links_linkNames]
    simp only [List.mem_cons, exists_eq_or_imp]
    grind

/-- The links lead to each block from the blocks that its names lead to. -/
theorem mem_links_ofStore {s : Store} {a b : BlockId} :
    (a, b) ∈ (ofStore s).links ↔
      ∃ x ∈ s.blocks, x.id = b ∧ Named s.directory b (distinctNames x.data) a := by
  simp [ofStore, mem_links_foldl_linkNames, links_foldl_addNode]

/-- Linking blocks that are nodes already adds no node. -/
theorem slots_addLink {g : Graph} {a b : BlockId} (ha : a ∈ g.nodes) (hb : b ∈ g.nodes) :
    (g.addLink a b).slots = g.slots ∧ (g.addLink a b).vacant = g.vacant := by
  have ea : g.addNode a = g := if_pos (contains_iff.mpr ha)
  have eb : g.addNode b = g := if_pos (contains_iff.mpr hb)
  simp only [addLink, ea, eb]
  split <;> exact ⟨rfl, rfl⟩

theorem slots_linkNames {directory : List (String × BlockId)} {user : BlockId} {g : Graph}
    (names : List String) (hu : user ∈ g.nodes) (hd : ∀ e ∈ directory, e.2 ∈ g.nodes) :
    (g.linkNames directory user names).slots = g.slots ∧
      (g.linkNames directory user names).vacant = g.vacant := by
  induction names generalizing g with
  | nil => exact ⟨rfl, rfl⟩
  | cons name names ih =>
    rw [linkNames_cons]
    split
    case h_1 source hs =>
      split
      case isTrue => exact ih hu hd
      case isFalse =>
        have hsource : source ∈ g.nodes := by
          obtain ⟨before, after, e, -⟩ := List.lookup_eq_some_iff.mp hs
          exact hd (Name.normalize name, source) (by simp [e])
        have e := slots_addLink hsource hu
        have en : (g.addLink source user).nodes = g.nodes := by simp only [nodes, e.1]
        rw [← e.1, ← e.2]
        exact ih (en ▸ hu) (en ▸ hd)
    case h_2 => exact ih hu hd

theorem sound_linkNames {g : Graph} (h : g.Sound) (directory : List (String × BlockId))
    (user : BlockId) (names : List String) : (g.linkNames directory user names).Sound := by
  induction names generalizing g with
  | nil => exact h
  | cons name names ih =>
    rw [linkNames_cons]
    split
    · split
      · exact ih h
      · exact ih (sound_addLink h _ _)
    · exact ih h

/-! ## The nodes without links -/

theorem foldl_addNode {ids : List BlockId} {g : Graph} (hv : g.vacant = [])
    (hn : ids.Nodup) (hd : ∀ a ∈ ids, a ∉ g.nodes) :
    ids.foldl addNode g = { g with slots := g.slots ++ ids.map some } := by
  induction ids generalizing g with
  | nil => simp
  | cons a rest ih =>
    have hc : g.contains a = false := by
      rw [← Bool.not_eq_true, contains_iff]
      exact hd a (List.mem_cons_self ..)
    have e : g.addNode a = { g with slots := g.slots ++ [some a] } := by
      simp only [addNode, hc, hv, Bool.false_eq_true, if_false]
    obtain ⟨ha, hrest⟩ := List.nodup_cons.mp hn
    have absent : ∀ b ∈ rest, b ∉ (g.addNode a).nodes := by
      intro b hb
      have := hd b (List.mem_cons_of_mem a hb)
      rw [mem_nodes] at this
      rw [mem_nodes, e]
      simp only [List.mem_append, List.mem_singleton, Option.some.injEq, this, false_or]
      intro e
      subst e
      exact ha hb
    rw [List.foldl_cons, ih (by rw [e]; exact hv) hrest absent, e]
    simp

theorem foldl_linkNames (directory : List (String × BlockId)) (blocks : List Block) {g : Graph}
    (h : g.Sound) (hb : ∀ b ∈ blocks, b.id ∈ g.nodes) (hd : ∀ e ∈ directory, e.2 ∈ g.nodes) :
    let after := blocks.foldl (fun g b => g.linkNames directory b.id (distinctNames b.data)) g
    after.slots = g.slots ∧ after.vacant = g.vacant ∧ after.Sound := by
  induction blocks generalizing g with
  | nil => exact ⟨rfl, rfl, h⟩
  | cons x blocks ih =>
    have e := slots_linkNames (distinctNames x.data) (hb x (List.mem_cons_self ..)) hd
    have en : (g.linkNames directory x.id (distinctNames x.data)).nodes = g.nodes := by
      simp only [nodes, e.1]
    have := ih (sound_linkNames h directory x.id (distinctNames x.data))
      (fun b hmem => en ▸ hb b (List.mem_cons_of_mem x hmem)) (en ▸ hd)
    exact ⟨this.1.trans e.1, this.2.1.trans e.2, this.2.2⟩

end Graph

theorem Store.lookup_directory_eq (s : Store) (key : String) :
    s.directory.lookup key =
      (s.blocks.find? fun b => Name.normalize b.name == key).map (·.id) := by
  unfold directory
  induction s.blocks with
  | nil => rfl
  | cons x blocks ih =>
    rw [List.map_cons, List.lookup_cons, List.find?_cons, ih, BEq.comm]
    cases Name.normalize x.name == key <;> rfl

theorem Store.lookup_directory {s : Store} (h : s.Sound) {key : String} {a : BlockId} :
    s.directory.lookup key = some a ↔ ∃ x ∈ s.blocks, x.id = a ∧ Name.normalize x.name = key := by
  unfold directory
  have hn := h.names_nodup
  generalize s.blocks = blocks at hn
  induction blocks with
  | nil => simp
  | cons x blocks ih =>
    obtain ⟨hx, hn⟩ := List.nodup_cons.mp hn
    simp only [List.map_cons, List.lookup_cons, List.mem_cons, exists_eq_or_imp]
    by_cases e : key = Name.normalize x.name
    · subst e
      simp only [BEq.rfl, Option.some.injEq, and_true]
      refine ⟨.inl, fun hy => hy.elim id ?_⟩
      intro given
      obtain ⟨y, hy, -, e⟩ := given
      exact absurd (List.mem_map.mpr ⟨y, hy, e⟩) hx
    · have hb : (key == Name.normalize x.name) = false := beq_false_of_ne e
      simp only [hb, ih hn]
      simp [Ne.symm e]

namespace Graph

theorem ofStore_spec {s : Store} (h : s.Sound) :
    (ofStore s).slots = s.ids.map some ∧ (ofStore s).vacant = [] ∧ (ofStore s).Sound := by
  have bare : s.ids.foldl addNode {} = { slots := s.ids.map some } :=
    foldl_addNode rfl h.ids_nodup (by simp [nodes])
  have sound : Graph.Sound { slots := s.ids.map some } := by
    rw [← bare]
    exact List.foldlRecOn s.ids addNode sound_empty fun g hg a _ => sound_addNode hg a
  have mem : ∀ {a : BlockId}, a ∈ ({ slots := s.ids.map some } : Graph).nodes ↔ a ∈ s.ids := by
    simp [nodes]
  have := foldl_linkNames s.directory s.blocks sound
    (fun b hb => mem.mpr (List.mem_map.mpr ⟨b, hb, rfl⟩))
    (fun e he => by
      obtain ⟨b, hb, rfl⟩ := List.mem_map.mp he
      exact mem.mpr (List.mem_map.mpr ⟨b, hb, rfl⟩))
  simp only [ofStore, bare]
  simpa using this

theorem sound_ofStore {s : Store} (h : s.Sound) : (ofStore s).Sound := (ofStore_spec h).2.2

/-- The nodes are the blocks, in the order of the store. -/
theorem nodes_ofStore {s : Store} (h : s.Sound) : (ofStore s).nodes = s.ids := by
  rw [nodes, (ofStore_spec h).1, List.filterMap_map]
  exact List.filterMap_some

/-- The block that a name in a text finds is linked to the block of the text, if it is another. -/
theorem hasLink_of_find? {s : Store} {a b : Block} (hb : b ∈ s.blocks) {name : String}
    (hn : name ∈ referencedNames b.data) (ha : s.find? name = some a) (hne : a.id ≠ b.id) :
    (ofStore s).hasLink a.id b.id = true := by
  obtain ⟨spelling, distinct, same⟩ := exists_mem_distinctNames.mpr ⟨name, hn, rfl⟩
  have found : s.directory.lookup (Name.normalize spelling) = some a.id := by
    rw [Store.lookup_directory_eq, same]
    exact congrArg (Option.map (·.id)) ha
  exact hasLink_iff.mpr (mem_links_ofStore.mpr ⟨b, hb, rfl, hne, spelling, distinct, found⟩)

/-- The links lead from the blocks mentioned to the ones that mention them. -/
theorem hasLink_ofStore {s : Store} (h : s.Sound) {a b : Block} (ha : a ∈ s.blocks)
    (hb : b ∈ s.blocks) :
    (ofStore s).hasLink a.id b.id = true ↔ a.id ≠ b.id ∧ b.Mentions a := by
  have lookup : ∀ name, s.directory.lookup (Name.normalize name) = some a.id ↔
      Name.normalize name = Name.normalize a.name := by
    intro name
    rw [Store.lookup_directory h]
    constructor
    · intro given
      obtain ⟨x, hx, e, hname⟩ := given
      rw [← hname, h.eq_of_id_eq hx ha e]
    · intro e
      exact ⟨a, ha, rfl, e.symm⟩
  rw [hasLink_iff, mem_links_ofStore]
  simp only [Named, lookup, exists_mem_distinctNames, Block.Mentions]
  constructor
  · intro given
    obtain ⟨y, hy, e, hne, hm⟩ := given
    exact ⟨hne, h.eq_of_id_eq hy hb e ▸ hm⟩
  · intro given
    obtain ⟨hne, hm⟩ := given
    exact ⟨b, hb, rfl, hne, hm⟩

end Graph
end Workbook
