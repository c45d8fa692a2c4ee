import Mathlib.Data.List.AList
import Workbook.Proofs.Graph.Plain

/-!
Graphs with an index.

A graph can be kept in two parts: one that knows its nodes by the numbers of their slots, and
between which slots its links run (`Slotted`), and an index that leads from an id to a slot
(`Indexed`).  Every question about an id goes through the index first, so an entry that is out of
date, or that leads to a slot given to another node, would answer for the wrong one.

It never does.  In every such graph the index and the slots say the same, and links run between
slots that are filled (`Indexed.Sound`).  A change to it is the change to the graph of ids that it
stands for (`Sound.change`), and so it gives the same answers (`Sound.answers_eq`).
-/

namespace Workbook

/-- A graph whose links run between the slots of its nodes. -/
structure Slotted where
  slots : List (Option BlockId) := []
  /-- Numbers of empty slots, the last one given up first. -/
  vacant : List Nat := []
  /-- Links, the last one added first. -/
  arcs : List (Nat × Nat) := []

namespace Slotted

def node? (g : Slotted) (i : Nat) : Option BlockId := g.slots[i]?.join

/-- Puts a node into the slot last given up, or into a new one, and says into which. -/
def add (g : Slotted) (a : BlockId) : Nat × Slotted :=
  match g.vacant with
  | [] => (g.slots.length, { g with slots := g.slots ++ [some a] })
  | i :: rest => (i, { g with slots := g.slots.set i (some a), vacant := rest })

/-- Gives up a slot, with the links that begin or end there. -/
def remove (g : Slotted) (i : Nat) : Slotted where
  slots := g.slots.set i none
  vacant := i :: g.vacant
  arcs := g.arcs.filter fun l => l.1 != i && l.2 != i

def connect (g : Slotted) (i j : Nat) : Slotted := { g with arcs := (i, j) :: g.arcs }

/-- The slots to which links lead from a slot. -/
def targets (g : Slotted) (i : Nat) : List Nat :=
  g.arcs.filterMap fun l => if l.1 = i then some l.2 else none

/-- The slots from which links lead to a slot. -/
def origins (g : Slotted) (i : Nat) : List Nat :=
  g.arcs.filterMap fun l => if l.2 = i then some l.1 else none

/-- The nodes that a link runs between. -/
def ends? (g : Slotted) (l : Nat × Nat) : Option (BlockId × BlockId) :=
  (g.node? l.1).bind fun a => (g.node? l.2).map fun b => (a, b)

def links (g : Slotted) : List (BlockId × BlockId) := g.arcs.filterMap g.ends?

/-- The graph of ids that this one stands for. -/
def graph (g : Slotted) : Graph where
  slots := g.slots
  vacant := g.vacant
  links := g.links

end Slotted

/-- A graph with an index of its nodes. -/
structure Indexed where
  body : Slotted := {}
  index : AList fun _ : BlockId => Nat := ∅

namespace Indexed

def graph (g : Indexed) : Graph := g.body.graph

def contains (g : Indexed) (a : BlockId) : Bool := (g.index.lookup a).isSome

def hasLink (g : Indexed) (a b : BlockId) : Bool :=
  match g.index.lookup a, g.index.lookup b with
  | some i, some j => g.body.arcs.contains (i, j)
  | _, _ => false

/-! ## Changes -/

def addNode (g : Indexed) (a : BlockId) : Indexed :=
  if g.contains a then g
  else
    let (i, body) := g.body.add a
    { body, index := g.index.insert a i }

/-- Removes a node, and answers whether it was there. -/
def removeNode (g : Indexed) (a : BlockId) : Bool × Indexed :=
  match g.index.lookup a with
  | some i => (true, { body := g.body.remove i, index := g.index.erase a })
  | none => (false, g)

/-- Adds a link and the nodes it needs.  Both are in the index then (`Sound.exists_lookup`). -/
def addLink (g : Indexed) (a b : BlockId) : Indexed :=
  let g := (g.addNode a).addNode b
  match g.index.lookup a, g.index.lookup b with
  | some i, some j =>
    if g.body.arcs.contains (i, j) then g else { g with body := g.body.connect i j }
  | _, _ => g

/-- Links to a block the blocks that names find. -/
def linkNames (s : Store) (user : BlockId) (g : Indexed) (names : List String) : Indexed :=
  names.foldl (fun g name =>
    match s.find? name with
    | some source => if source.id = user then g else g.addLink source.id user
    | none => g) g

def ofStore (s : Store) : Indexed :=
  s.blocks.foldl (fun g b => g.linkNames s b.id (distinctNames b.data)) (s.ids.foldl addNode {})

def change (g : Indexed) : Graph.Change → Indexed
  | .rebuild s => ofStore s
  | .addNode a => g.addNode a
  | .removeNode a => (g.removeNode a).2
  | .addLink a b => g.addLink a b

def changed (changes : List Graph.Change) : Indexed := changes.foldl change {}

/-! ## Answers -/

/-- The slots that are found in a direction from a node, if it is there. -/
def around (g : Indexed) (near : Slotted → Nat → List Nat) (a : BlockId) : List Nat :=
  ((g.index.lookup a).map (near g.body)).getD []

/-- The nodes that are found in a direction from a node, in ascending order. -/
def neighbours (g : Indexed) (near : Slotted → Nat → List Nat) (a : BlockId) : List BlockId :=
  ((g.around near a).filterMap g.body.node?).mergeSort BlockId.le

def answers (g : Indexed) : Answers where
  nodes := g.body.slots.filterMap fun slot => slot
  contains := g.contains
  hasLink := g.hasLink
  edges := BlockId.sortedPairs g.body.links
  dependents := g.neighbours Slotted.targets
  dependencies := g.neighbours Slotted.origins
  outdegree a := (g.around Slotted.targets a).length
  indegree a := (g.around Slotted.origins a).length
  removes a := (g.removeNode a).1

end Indexed

/-! ## Slots -/

namespace Slotted

variable {g g' : Slotted}

/-- Links run between filled slots. -/
def Occupied (g : Slotted) : Prop :=
  ∀ l ∈ g.arcs, (∃ a, g.slots[l.1]? = some (some a)) ∧ ∃ b, g.slots[l.2]? = some (some b)

theorem node?_eq_some {i : Nat} {a : BlockId} :
    g.node? i = some a ↔ g.slots[i]? = some (some a) := by
  rw [node?, Option.join_eq_some_iff]

theorem ends?_eq {l : Nat × Nat} {a b : BlockId} (ha : g.slots[l.1]? = some (some a))
    (hb : g.slots[l.2]? = some (some b)) : g.ends? l = some (a, b) := by
  rw [ends?, node?_eq_some.mpr ha, node?_eq_some.mpr hb]
  rfl

theorem ends?_congr {l : Nat × Nat} (h₁ : g'.slots[l.1]? = g.slots[l.1]?)
    (h₂ : g'.slots[l.2]? = g.slots[l.2]?) : g'.ends? l = g.ends? l := by
  rw [ends?, ends?, node?, node?, node?, node?, h₁, h₂]

/-- What slots hold that links run between decides which nodes these run between. -/
theorem links_congr (ha : g'.arcs = g.arcs)
    (h : ∀ l ∈ g.arcs, g'.slots[l.1]? = g.slots[l.1]? ∧ g'.slots[l.2]? = g.slots[l.2]?) :
    g'.links = g.links := by
  rw [links, links, ha]
  exact List.filterMap_congr fun l hl => ends?_congr (h l hl).1 (h l hl).2

theorem slot_of_vacant (h : g.graph.Sound) {i : Nat} {rest : List Nat} (hv : g.vacant = i :: rest) :
    g.slots[i]? = some none := by
  refine h.mem_vacant.mp ?_
  show i ∈ g.vacant
  rw [hv]
  exact List.mem_cons_self ..

/-- The slots of nodes are as different as the nodes. -/
theorem slot_eq_iff (h : g.graph.Sound) {i j : Nat} {a b : BlockId}
    (hi : g.slots[i]? = some (some a)) (hj : g.slots[j]? = some (some b)) : j = i ↔ b = a := by
  constructor
  · rintro rfl
    exact Option.some.inj (Option.some.inj (hj.symm.trans hi))
  · rintro rfl
    exact h.slot_unique hj hi

/-- The slot that a node is put into is not filled. -/
theorem slot_add_free (h : g.graph.Sound) (a b : BlockId) :
    g.slots[(g.add a).1]? ≠ some (some b) := by
  unfold add
  split
  · simp
  · next i rest hv =>
    show g.slots[i]? ≠ _
    simp [slot_of_vacant h hv]

theorem getElem?_slots_add (h : g.graph.Sound) (a : BlockId) (j : Nat) :
    (g.add a).2.slots[j]? = if j = (g.add a).1 then some (some a) else g.slots[j]? := by
  unfold add
  split
  · show (g.slots ++ [some a])[j]? = if j = g.slots.length then _ else _
    rcases Nat.lt_trichotomy j g.slots.length with lt | rfl | gt
    · rw [List.getElem?_append_left lt, if_neg (Nat.ne_of_lt lt)]
    · simp
    · have outside : (g.slots ++ [some a]).length ≤ j := by simpa using Nat.succ_le_of_lt gt
      rw [if_neg (Nat.ne_of_gt gt), List.getElem?_eq_none outside,
        List.getElem?_eq_none (Nat.le_of_lt gt)]
  · next i rest hv =>
    have inside : i < g.slots.length := (List.getElem?_eq_some_iff.mp (slot_of_vacant h hv)).1
    show (g.slots.set i (some a))[j]? = if j = i then _ else _
    by_cases e : j = i
    · rw [if_pos e, e, List.getElem?_set_self inside]
    · rw [if_neg e, List.getElem?_set_ne (Ne.symm e)]

theorem getElem?_slots_add_of_filled (h : g.graph.Sound) (a : BlockId) {j : Nat} {b : BlockId}
    (hb : g.slots[j]? = some (some b)) : (g.add a).2.slots[j]? = g.slots[j]? := by
  rw [getElem?_slots_add h, if_neg]
  rintro rfl
  exact slot_add_free h a b hb

theorem arcs_add (a : BlockId) : (g.add a).2.arcs = g.arcs := by
  unfold add
  split <;> rfl

theorem links_add (h : g.graph.Sound) (ho : g.Occupied) (a : BlockId) :
    (g.add a).2.links = g.links := by
  refine links_congr (arcs_add a) fun l hl => ?_
  obtain ⟨⟨b, hb⟩, c, hc⟩ := ho l hl
  exact ⟨getElem?_slots_add_of_filled h a hb, getElem?_slots_add_of_filled h a hc⟩

theorem graph_add (h : g.graph.Sound) (ho : g.Occupied) {a : BlockId}
    (ha : g.graph.contains a = false) : (g.add a).2.graph = g.graph.addNode a := by
  have links := links_add h ho a
  rw [Graph.addNode, if_neg (by rw [ha]; exact Bool.false_ne_true), graph, links]
  unfold add
  show _ = match g.vacant with | [] => _ | i :: rest => _
  split <;> rfl

theorem occupied_add (h : g.graph.Sound) (ho : g.Occupied) (a : BlockId) :
    (g.add a).2.Occupied := by
  intro l hl
  rw [arcs_add] at hl
  obtain ⟨⟨b, hb⟩, c, hc⟩ := ho l hl
  refine ⟨⟨b, ?_⟩, c, ?_⟩
  · rw [getElem?_slots_add_of_filled h a hb, hb]
  · rw [getElem?_slots_add_of_filled h a hc, hc]

theorem getElem?_slots_remove_ne {i j : Nat} (hne : j ≠ i) :
    (g.remove i).slots[j]? = g.slots[j]? :=
  List.getElem?_set_ne hne.symm

theorem mem_arcs_remove {i : Nat} {l : Nat × Nat} :
    l ∈ (g.remove i).arcs ↔ l ∈ g.arcs ∧ l.1 ≠ i ∧ l.2 ≠ i := by
  simp [remove]

/-- The links without those at a slot are the links without those at its node. -/
theorem links_remove (h : g.graph.Sound) (ho : g.Occupied) {i : Nat} {a : BlockId}
    (hi : g.slots[i]? = some (some a)) :
    (g.remove i).links = g.links.filter fun l => l.1 != a && l.2 != a := by
  have same : ∀ {j : Nat} {b : BlockId}, g.slots[j]? = some (some b) → (j != i) = (b != a) := by
    intro j b hb
    rw [Bool.eq_iff_iff, bne_iff_ne, bne_iff_ne]
    exact not_congr (slot_eq_iff h hi hb)
  show (g.arcs.filter _).filterMap (g.remove i).ends? = (g.arcs.filterMap g.ends?).filter _
  rw [List.filterMap_filter, List.filter_filterMap]
  refine List.filterMap_congr fun l hl => ?_
  obtain ⟨⟨b, hb⟩, c, hc⟩ := ho l hl
  rw [ends?_eq hb hc, Option.filter_some, same hb, same hc]
  split
  · next away =>
    rw [Bool.and_eq_true, ← same hb, ← same hc, bne_iff_ne, bne_iff_ne] at away
    rw [ends?_congr (getElem?_slots_remove_ne away.1) (getElem?_slots_remove_ne away.2),
      ends?_eq hb hc]
  · rfl

theorem graph_remove (h : g.graph.Sound) (ho : g.Occupied) {i : Nat} {a : BlockId}
    (hi : g.slots[i]? = some (some a)) : (g.remove i).graph = g.graph.removeNode a := by
  have node : a ∈ g.graph.nodes := Graph.mem_nodes_iff_getElem?.mpr ⟨i, hi⟩
  have place : g.graph.slots.idxOf (some a) = i := h.slot_unique (Graph.getElem?_idxOf node) hi
  rw [Graph.removeNode, if_pos (Graph.contains_iff.mpr node), place, graph, links_remove h ho hi]
  rfl

theorem occupied_remove (ho : g.Occupied) (i : Nat) : (g.remove i).Occupied := by
  intro l hl
  obtain ⟨hl, h₁, h₂⟩ := mem_arcs_remove.mp hl
  rw [getElem?_slots_remove_ne h₁, getElem?_slots_remove_ne h₂]
  exact ho l hl

end Slotted

/-! ## The index -/

namespace Indexed

structure Sound (g : Indexed) : Prop where
  graph : g.graph.Sound
  lookup_iff : ∀ {a : BlockId} {i : Nat},
    g.index.lookup a = some i ↔ g.body.slots[i]? = some (some a)
  occupied : g.body.Occupied

theorem sound_empty : Sound {} where
  graph := Graph.sound_empty
  lookup_iff {a i} := by
    rw [AList.lookup_empty]
    simp
  occupied l hl := absurd hl List.not_mem_nil

variable {g : Indexed}

namespace Sound

theorem exists_lookup (h : g.Sound) {a : BlockId} :
    (∃ i, g.index.lookup a = some i) ↔ a ∈ g.graph.nodes := by
  rw [Graph.mem_nodes_iff_getElem?]
  exact exists_congr fun i => h.lookup_iff

theorem lookup_eq_none (h : g.Sound) {a : BlockId} :
    g.index.lookup a = none ↔ a ∉ g.graph.nodes := by
  rw [← h.exists_lookup, Option.eq_none_iff_forall_ne_some, not_exists]

theorem contains_eq (h : g.Sound) (a : BlockId) : g.contains a = g.graph.contains a := by
  rw [Bool.eq_iff_iff, Graph.contains_iff, ← h.exists_lookup, contains, Option.isSome_iff_exists]

/-- Links between nodes are links between their slots. -/
theorem mem_links (h : g.Sound) {a b : BlockId} {i j : Nat} (ha : g.index.lookup a = some i)
    (hb : g.index.lookup b = some j) : (a, b) ∈ g.graph.links ↔ (i, j) ∈ g.body.arcs := by
  have ends : g.body.ends? (i, j) = some (a, b) :=
    Slotted.ends?_eq (h.lookup_iff.mp ha) (h.lookup_iff.mp hb)
  constructor
  · intro hl
    obtain ⟨⟨i', j'⟩, hl, e⟩ := List.mem_filterMap.mp hl
    obtain ⟨⟨a', ha'⟩, b', hb'⟩ := h.occupied _ hl
    rw [Slotted.ends?_eq ha' hb'] at e
    cases e
    rw [h.graph.slot_unique (h.lookup_iff.mp ha) ha', h.graph.slot_unique (h.lookup_iff.mp hb) hb']
    exact hl
  · intro hl
    exact List.mem_filterMap.mpr ⟨(i, j), hl, ends⟩

/-! ## Changes keep the index -/

theorem addNode (h : g.Sound) (a : BlockId) :
    (g.addNode a).Sound ∧ (g.addNode a).graph = g.graph.addNode a := by
  unfold Indexed.addNode
  by_cases hc : g.contains a = true
  · rw [if_pos hc, Graph.addNode, if_pos (h.contains_eq a ▸ hc)]
    exact ⟨h, rfl⟩
  · rw [if_neg hc]
    rw [h.contains_eq, Bool.not_eq_true] at hc
    have grown := Slotted.graph_add h.graph h.occupied hc
    refine ⟨⟨?_, fun {b j} => ?_, Slotted.occupied_add h.graph h.occupied a⟩, grown⟩
    · show (g.body.add a).2.graph.Sound
      rw [grown]
      exact Graph.sound_addNode h.graph a
    · show (g.index.insert a (g.body.add a).1).lookup b = some j ↔
        (g.body.add a).2.slots[j]? = some (some b)
      rw [Slotted.getElem?_slots_add h.graph]
      by_cases e : b = a
      · subst e
        rw [AList.lookup_insert, Option.some.injEq]
        split
        · next e => exact iff_of_true e.symm rfl
        · next hne =>
          -- the node stood in no slot before
          refine iff_of_false (Ne.symm hne) fun hj => ?_
          rw [← Bool.not_eq_true, Graph.contains_iff] at hc
          exact hc (Graph.mem_nodes_iff_getElem?.mpr ⟨j, hj⟩)
      · rw [AList.lookup_insert_ne e, h.lookup_iff]
        split
        · next place =>
          refine iff_of_false (fun hj => ?_) fun hj => e (by cases hj; rfl)
          exact Slotted.slot_add_free h.graph a b (place ▸ hj)
        · rfl

theorem removeNode (h : g.Sound) (a : BlockId) :
    (g.removeNode a).2.Sound ∧ (g.removeNode a).2.graph = g.graph.removeNode a := by
  unfold Indexed.removeNode
  cases ha : g.index.lookup a with
  | none =>
    have absent : ¬ g.graph.contains a = true :=
      fun hc => h.lookup_eq_none.mp ha (Graph.contains_iff.mp hc)
    rw [Graph.removeNode, if_neg absent]
    exact ⟨h, rfl⟩
  | some i =>
    have hi := h.lookup_iff.mp ha
    have shrunk := Slotted.graph_remove h.graph h.occupied hi
    refine ⟨⟨?_, fun {b j} => ?_, Slotted.occupied_remove h.occupied i⟩, shrunk⟩
    · show (g.body.remove i).graph.Sound
      rw [shrunk]
      exact Graph.sound_removeNode h.graph a
    · show (g.index.erase a).lookup b = some j ↔ (g.body.remove i).graph.slots[j]? = some (some b)
      rw [shrunk, Graph.getElem?_slots_removeNode (g := g.body.graph) h.graph]
      by_cases e : b = a
      · subst e
        rw [AList.lookup_erase]
        refine iff_of_false (fun hb => by cases hb) fun hj => ?_
        split at hj
        · cases hj
        · next hne => exact hne hj
      · rw [AList.lookup_erase_ne e, h.lookup_iff]
        split
        · next place =>
          refine iff_of_false (fun hj => e ?_) fun hj => by cases hj
          exact Option.some.inj (Option.some.inj (hj.symm.trans place))
        · rfl

theorem connect (h : g.Sound) {a b : BlockId} {i j : Nat} (ha : g.index.lookup a = some i)
    (hb : g.index.lookup b = some j) (fresh : (a, b) ∉ g.graph.links) :
    ({ g with body := g.body.connect i j } : Indexed).Sound ∧
      ({ g with body := g.body.connect i j } : Indexed).graph =
        { g.graph with links := (a, b) :: g.graph.links } := by
  have hi := h.lookup_iff.mp ha
  have hj := h.lookup_iff.mp hb
  have links : (g.body.connect i j).links = (a, b) :: g.body.links := by
    have ends : (g.body.connect i j).ends? (i, j) = some (a, b) := Slotted.ends?_eq hi hj
    show ((i, j) :: g.body.arcs).filterMap _ = _
    rw [List.filterMap_cons, ends]
    rfl
  have linked : (g.body.connect i j).graph = { g.graph with links := (a, b) :: g.graph.links } := by
    rw [Slotted.graph, links]
    rfl
  refine ⟨⟨?_, h.lookup_iff, fun l hl => ?_⟩, linked⟩
  · have node : ∀ {c : BlockId} {k : Nat}, g.body.slots[k]? = some (some c) → c ∈ g.graph.nodes :=
      fun hk => Graph.mem_nodes_iff_getElem?.mpr ⟨_, hk⟩
    show (g.body.connect i j).graph.Sound
    rw [linked]
    refine ⟨h.graph.slot_unique, h.graph.vacant_nodup, h.graph.mem_vacant,
      List.nodup_cons.mpr ⟨fresh, h.graph.links_nodup⟩, fun {c d} hcd => ?_⟩
    rcases List.mem_cons.mp hcd with e | hcd
    · cases e
      exact ⟨node hi, node hj⟩
    · exact h.graph.ends_mem hcd
  · rcases List.mem_cons.mp hl with rfl | hl
    · exact ⟨⟨a, hi⟩, b, hj⟩
    · exact h.occupied l hl

theorem addLink (h : g.Sound) (a b : BlockId) :
    (g.addLink a b).Sound ∧ (g.addLink a b).graph = g.graph.addLink a b := by
  obtain ⟨ha, ea⟩ := h.addNode a
  obtain ⟨hb, eb⟩ := ha.addNode b
  rw [ea] at eb
  have mem : ∀ c, c ∈ ((g.addNode a).addNode b).graph.nodes ↔
      c = b ∨ c = a ∨ c ∈ g.graph.nodes := by
    intro c
    rw [eb, Graph.mem_nodes_addNode (Graph.sound_addNode h.graph a),
      Graph.mem_nodes_addNode h.graph]
  obtain ⟨i, hi⟩ := hb.exists_lookup.mpr ((mem a).mpr (.inr (.inl rfl)))
  obtain ⟨j, hj⟩ := hb.exists_lookup.mpr ((mem b).mpr (.inl rfl))
  unfold Indexed.addLink Graph.addLink
  dsimp only
  rw [hi, hj, ← eb]
  dsimp only
  by_cases there : (a, b) ∈ ((g.addNode a).addNode b).graph.links
  · have arc := (hb.mem_links hi hj).mp there
    rw [if_pos (List.contains_iff_mem.mpr arc), if_pos (Graph.hasLink_iff.mpr there)]
    exact ⟨hb, rfl⟩
  · have arc := mt (hb.mem_links hi hj).mpr there
    rw [if_neg (mt List.contains_iff_mem.mp arc), if_neg (mt Graph.hasLink_iff.mp there)]
    exact hb.connect hi hj there

/-- What each change keeps, many keep. -/
theorem foldl {α : Type} {f : Indexed → α → Indexed} {k : Graph → α → Graph}
    (step : ∀ {g : Indexed}, g.Sound → ∀ x, (f g x).Sound ∧ (f g x).graph = k g.graph x)
    (h : g.Sound) (xs : List α) :
    (xs.foldl f g).Sound ∧ (xs.foldl f g).graph = xs.foldl k g.graph := by
  induction xs generalizing g with
  | nil => exact ⟨h, rfl⟩
  | cons x xs ih =>
    obtain ⟨hx, e⟩ := step h x
    rw [List.foldl_cons, List.foldl_cons, ← e]
    exact ih hx

theorem linkNames (h : g.Sound) (s : Store) (user : BlockId) (names : List String) :
    (g.linkNames s user names).Sound ∧
      (g.linkNames s user names).graph = g.graph.linkNames s.directory user names := by
  refine foldl (fun {g} h name => ?_) h names
  have found : s.directory.lookup (Name.normalize name) = (s.find? name).map (·.id) :=
    s.lookup_directory_eq _
  rw [found]
  cases s.find? name with
  | none => exact ⟨h, rfl⟩
  | some source =>
    show (if source.id = user then g else _).Sound ∧ (if source.id = user then g else _).graph = _
    dsimp only [Option.map_some]
    split
    · exact ⟨h, rfl⟩
    · exact h.addLink source.id user

end Sound

theorem sound_ofStore (s : Store) : (ofStore s).Sound ∧ (ofStore s).graph = .ofStore s := by
  obtain ⟨bare, e⟩ := Sound.foldl (fun h a => h.addNode a) sound_empty s.ids
  have linked := Sound.foldl (k := fun g b => g.linkNames s.directory b.id (distinctNames b.data))
    (fun h (b : Block) => h.linkNames s b.id (distinctNames b.data)) bare s.blocks
  rw [e] at linked
  exact linked

/-- A change to a graph with an index is the change to the graph of ids. -/
theorem Sound.change (h : g.Sound) (c : Graph.Change) :
    (g.change c).Sound ∧ (g.change c).graph = g.graph.change c := by
  cases c with
  | rebuild s => exact sound_ofStore s
  | addNode a => exact h.addNode a
  | removeNode a => exact h.removeNode a
  | addLink a b => exact h.addLink a b

theorem sound_changed (changes : List Graph.Change) :
    (changed changes).Sound ∧ (changed changes).graph = .changed changes :=
  Sound.foldl (fun h c => h.change c) sound_empty changes

/-! ## The same answers -/

/-- Without repetition, sorting is listing in ascending order. -/
theorem mergeSort_eq {ids : List BlockId} (h : ids.Nodup) :
    ids.mergeSort BlockId.le = BlockId.sorted ids := by
  have order := BlockId.isOrder_le
  have ascending : (ids.mergeSort BlockId.le).Pairwise fun a b => BlockId.le a b = true :=
    @List.pairwise_mergeSort _ BlockId.le (fun _ _ _ => order.trans)
      (fun a b => (Bool.or_eq_true ..).mpr (order.total a b)) ids
  have nodup : (ids.mergeSort BlockId.le).Nodup := (List.mergeSort_perm ids _).nodup_iff.mpr h
  refine Ascending.eq_of_pairwise order (List.Pairwise.and ascending nodup)
    (Ascending.pairwise_ofList order ids) fun a => ?_
  rw [List.mem_mergeSort]
  exact (Ascending.mem_ofList order).symm

theorem Sound.hasLink_eq (h : g.Sound) (a b : BlockId) : g.hasLink a b = g.graph.hasLink a b := by
  have ends := fun hl => h.graph.ends_mem (Graph.hasLink_iff.mp hl : (a, b) ∈ g.graph.links)
  unfold hasLink
  split
  · next i j ha hb =>
    rw [Bool.eq_iff_iff, Graph.hasLink_iff, h.mem_links ha hb, List.contains_iff_mem]
  · next missing =>
    symm
    rw [← Bool.not_eq_true]
    intro hl
    obtain ⟨i, ha⟩ := h.exists_lookup.mpr (ends hl).1
    obtain ⟨j, hb⟩ := h.exists_lookup.mpr (ends hl).2
    exact missing i j ha hb

/-- Following links between slots is following them between nodes. -/
theorem Sound.node?_targets (h : g.Sound) {a : BlockId} {i : Nat}
    (hi : g.index.lookup a = some i) :
    (g.body.targets i).map g.body.node? = (g.graph.users a).map some := by
  show _ = ((g.body.arcs.filterMap g.body.ends?).filterMap _).map some
  rw [Slotted.targets, List.map_filterMap, List.filterMap_filterMap, List.map_filterMap]
  refine List.filterMap_congr fun l hl => ?_
  obtain ⟨⟨b, hb⟩, c, hc⟩ := h.occupied l hl
  rw [Slotted.ends?_eq hb hc, Option.bind_some]
  simp only [Slotted.slot_eq_iff h.graph (h.lookup_iff.mp hi) hb]
  split
  · rw [Option.map_some, Option.map_some, Slotted.node?_eq_some.mpr hc]
  · rfl

theorem Sound.node?_origins (h : g.Sound) {a : BlockId} {i : Nat}
    (hi : g.index.lookup a = some i) :
    (g.body.origins i).map g.body.node? = (g.graph.sources a).map some := by
  show _ = ((g.body.arcs.filterMap g.body.ends?).filterMap _).map some
  rw [Slotted.origins, List.map_filterMap, List.filterMap_filterMap, List.map_filterMap]
  refine List.filterMap_congr fun l hl => ?_
  obtain ⟨⟨b, hb⟩, c, hc⟩ := h.occupied l hl
  rw [Slotted.ends?_eq hb hc, Option.bind_some]
  simp only [Slotted.slot_eq_iff h.graph (h.lookup_iff.mp hi) hc]
  split
  · rw [Option.map_some, Option.map_some, Slotted.node?_eq_some.mpr hb]
  · rfl

/-- A direction that leads to the same nodes as in the graph of ids gives the same neighbours, and
as many. -/
theorem Sound.neighbours_eq (h : g.Sound) {near : Slotted → Nat → List Nat}
    {found : BlockId → List BlockId}
    (same : ∀ {a i}, g.index.lookup a = some i →
      (near g.body i).map g.body.node? = (found a).map some)
    (known : ∀ a b, b ∈ found a → a ∈ g.graph.nodes) (nodup : ∀ a, (found a).Nodup) (a : BlockId) :
    g.neighbours near a = BlockId.sorted (found a) ∧
      (g.around near a).length = (found a).length := by
  have around : (g.around near a).map g.body.node? = (found a).map some := by
    unfold Indexed.around
    cases ha : g.index.lookup a with
    | some i => exact same ha
    | none =>
      have none : found a = [] := by
        rw [List.eq_nil_iff_forall_not_mem]
        exact fun b hb => h.lookup_eq_none.mp ha (known a b hb)
      rw [none]
      rfl
  have nodes : (g.around near a).filterMap g.body.node? = found a := by
    calc (g.around near a).filterMap g.body.node?
        = ((g.around near a).map g.body.node?).filterMap id := by
          rw [List.filterMap_map, Function.id_comp]
      _ = ((found a).map some).filterMap id := by rw [around]
      _ = found a := by rw [List.filterMap_map, Function.id_comp, List.filterMap_some]
  constructor
  · rw [neighbours, nodes, mergeSort_eq (nodup a)]
  · have lengths := congrArg List.length around
    rwa [List.length_map, List.length_map] at lengths

theorem Sound.answers_eq (h : g.Sound) : g.answers = g.graph.answers := by
  have users := h.neighbours_eq h.node?_targets
    (fun a b hb => (h.graph.ends_mem (Graph.mem_users.mp hb)).1) (Graph.nodup_users h.graph)
  have sources := h.neighbours_eq h.node?_origins
    (fun a b hb => (h.graph.ends_mem (Graph.mem_sources.mp hb)).2) (Graph.nodup_sources h.graph)
  have removes : ∀ a, (g.removeNode a).1 = g.graph.contains a := by
    intro a
    rw [← h.contains_eq, contains, Indexed.removeNode]
    cases g.index.lookup a <;> rfl
  rw [answers, Graph.answers, Answers.mk.injEq]
  exact ⟨rfl, funext h.contains_eq, funext fun a => funext (h.hasLink_eq a), rfl,
    funext fun a => (users a).1, funext fun a => (sources a).1, funext fun a => (users a).2,
    funext fun a => (sources a).2, funext removes⟩

/-- After any changes, in whatever order slots were given up and filled again, a graph answers as
the sets do that have seen the same changes; and so does a graph with an index. -/
theorem changed_fit (changes : List Graph.Change) :
    (Graph.changed changes).answers.Fit (.changed changes) ∧
      (changed changes).answers.Fit (.changed changes) := by
  have fit := (Graph.shows_changed changes).fit
  obtain ⟨sound, e⟩ := sound_changed changes
  refine ⟨fit, ?_⟩
  rw [sound.answers_eq, e]
  exact fit

/-- The slot of `a` goes to `c`, which does not come by the links of `a`. -/
example :
    let g := changed [.addLink ⟨"a"⟩ ⟨"b"⟩, .removeNode ⟨"a"⟩, .addNode ⟨"c"⟩]
    g.answers.nodes = [⟨"c"⟩, ⟨"b"⟩] ∧ g.answers.dependents ⟨"c"⟩ = [] ∧
      g.answers.contains ⟨"a"⟩ = false := by
  decide +kernel

end Indexed
end Workbook
