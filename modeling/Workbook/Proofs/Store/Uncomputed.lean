import Workbook.Proofs.Session.Turn

/-!
Stores that differ in what was computed for their blocks.

`Block.uncomputed` is the block without what a batch computes for it.  Two stores are twins if their
blocks are the same but for that.  Filling a store with twin lists of blocks comes to twin stores
(`Twins.replaceAll`), and a block that is filled with content is the same in both from then on
(`filled_uncomputed`).
-/

namespace Workbook

/-- The block without what was computed for it, if it is of a kind that is computed. -/
def Block.uncomputed (b : Block) : Block :=
  if b.kind.recomputes then { b with content := none, input := none, applied := none } else b

namespace Block

variable {b c : Block}

theorem uncomputed_of_inert (h : b.kind.recomputes = false) : b.uncomputed = b := by
  rw [uncomputed, if_neg (by rw [h]; decide)]

theorem uncomputed_of_recomputes (h : b.kind.recomputes = true) :
    b.uncomputed = { b with content := none, input := none, applied := none } :=
  if_pos h

theorem outline_uncomputed (b : Block) : b.uncomputed.outline = b.outline := by
  unfold uncomputed
  split <;> rfl

theorem outline_eq_of_uncomputed (h : b.uncomputed = c.uncomputed) : b.outline = c.outline := by
  rw [← outline_uncomputed, h, outline_uncomputed]

@[simp]
theorem uncomputed_uncomputed (b : Block) : b.uncomputed.uncomputed = b.uncomputed := by
  cases hk : b.kind.recomputes with
  | false => rw [uncomputed_of_inert hk, uncomputed_of_inert hk]
  | true =>
    rw [uncomputed_of_recomputes hk]
    exact uncomputed_of_recomputes hk

theorem id_uncomputed (b : Block) : b.uncomputed.id = b.id :=
  id_eq_of_outline (outline_uncomputed b)

theorem eq_of_uncomputed (h : b.uncomputed = c.uncomputed) (hk : b.kind.recomputes = false) :
    b = c := by
  have hc : c.kind.recomputes = false := kind_eq_of_outline (outline_eq_of_uncomputed h) ▸ hk
  rw [← uncomputed_of_inert hk, h, uncomputed_of_inert hc]

/-- Content takes the place of all that was computed before. -/
theorem filled_uncomputed (hk : b.kind.recomputes = true) (content : Content) (input : String)
    (applied : Option String) :
    b.uncomputed.filled content input applied = b.filled content input applied := by
  rw [uncomputed_of_recomputes hk]
  rfl

theorem named_uncomputed (b : Block) (name : String) :
    ({ b with name } : Block).uncomputed = { b.uncomputed with name } := by
  unfold uncomputed
  dsimp only
  split <;> rfl

theorem awaiting_uncomputed (b : Block) (now : Nat) :
    (b.awaiting now).uncomputed = b.uncomputed.awaiting now := by
  unfold uncomputed awaiting
  dsimp only
  split <;> rfl

end Block

/-- A list in which nothing is computed is the same as one that differs in what was computed. -/
theorem Block.eq_of_map_uncomputed {blocks blocks' : List Block}
    (same : blocks.map uncomputed = blocks'.map uncomputed)
    (inert : ∀ b ∈ blocks, b.kind.recomputes = false) : blocks = blocks' := by
  have inert' : ∀ b ∈ blocks', b.kind.recomputes = false := by
    intro b hb
    have there : b.uncomputed ∈ blocks.map uncomputed := same ▸ List.mem_map_of_mem hb
    obtain ⟨c, hc, e⟩ := List.mem_map.mp there
    rw [← kind_eq_of_outline (outline_eq_of_uncomputed e)]
    exact inert c hc
  have kept : ∀ {blocks : List Block}, (∀ b ∈ blocks, b.kind.recomputes = false) →
      blocks.map uncomputed = blocks := by
    intro blocks inert
    exact (List.map_congr_left fun b hb => uncomputed_of_inert (inert b hb)).trans (List.map_id _)
  rw [← kept inert, same, kept inert']

namespace Store

variable {s t : Store}

theorem inert_of_replaceAll {blocks : List Block} (e : s.replaceAll blocks = .ok t)
    (inert : ∀ b ∈ t.blocks, b.kind.recomputes = false) :
    ∀ b ∈ blocks, b.kind.recomputes = false := by
  intro b hb
  have kind : b.kind ∈ t.blocks.map (·.kind) := by
    rw [map_replaceAll (fun _ _ => rfl) e]
    exact List.mem_map_of_mem hb
  obtain ⟨c, hc, same⟩ := List.mem_map.mp kind
  rw [← same]
  exact inert c hc

theorem Alike.isTaken_eq (h : s.Alike t) (except? : Option BlockId) (name : String) :
    s.isTaken except? name = t.isTaken except? name := by
  have e := h.map_eq
    (fun b => some b.id != except? && Name.normalize b.name == Name.normalize name) fun _ => rfl
  have any := congrArg (·.any id) e
  rwa [List.any_map, List.any_map] at any

theorem Alike.uniqueName_eq (h : s.Alike t) (wanted : String) (except? : Option BlockId) :
    s.uniqueName wanted except? = t.uniqueName wanted except? := by
  unfold uniqueName
  rw [h.size, h.isTaken_eq]
  simp only [h.isTaken_eq]

/-- The blocks are the same but for what was computed for them. -/
structure Twins (s t : Store) : Prop where
  blocks : s.blocks.map Block.uncomputed = t.blocks.map Block.uncomputed
  settings : s.settings = t.settings

namespace Twins

theorem alike (h : s.Twins t) : s.Alike t := by
  refine ⟨?_, h.settings⟩
  have outlines : ∀ u : Store, u.blocks.map Block.outline =
      (u.blocks.map Block.uncomputed).map Block.outline := by
    intro u
    rw [List.map_map]
    exact List.map_congr_left fun b _ => (Block.outline_uncomputed b).symm
  rw [outlines s, outlines t, h.blocks]

theorem symm (h : s.Twins t) : t.Twins s := ⟨h.blocks.symm, h.settings.symm⟩

theorem get? (h : s.Twins t) (id : BlockId) :
    (s.get? id).map Block.uncomputed = (t.get? id).map Block.uncomputed := by
  have found : ∀ u : Store, (u.get? id).map Block.uncomputed =
      (u.blocks.map Block.uncomputed).find? (·.id == id) := by
    intro u
    rw [List.find?_map, Store.get?]
    congr 2
    funext b
    exact congrArg (· == id) (Block.id_uncomputed b).symm
  rw [found, found, h.blocks]

theorem exists_get? (h : s.Twins t) {id : BlockId} {b : Block} (hb : s.get? id = some b) :
    ∃ c, t.get? id = some c ∧ b.uncomputed = c.uncomputed := by
  have found := h.get? id
  rw [hb, Option.map_some] at found
  obtain ⟨c, hc, e⟩ := Option.map_eq_some_iff.mp found.symm
  exact ⟨c, hc, e.symm⟩

theorem modify (h : s.Twins t) (id : BlockId) {f : Block → Block}
    (hf : ∀ b, (f b.uncomputed).uncomputed = (f b).uncomputed) :
    (s.modify id f).Twins (t.modify id f) := by
  refine ⟨?_, h.settings⟩
  have changed : ∀ u : Store, (u.modify id f).blocks.map Block.uncomputed =
      (u.blocks.map Block.uncomputed).map fun b =>
        if b.id = id then (f b).uncomputed else b := by
    intro u
    simp only [Store.modify, List.map_map]
    refine List.map_congr_left fun b _ => ?_
    show (if b.id = id then f b else b).uncomputed =
      if b.uncomputed.id = id then (f b.uncomputed).uncomputed else b.uncomputed
    rw [Block.id_uncomputed, hf]
    split <;> rfl
  rw [changed, changed, h.blocks]

/-- Twin lists of blocks are added to twin stores with the same outcome. -/
theorem append (h : s.Twins t) {blocks blocks' : List Block}
    (same : blocks.map Block.uncomputed = blocks'.map Block.uncomputed) {u : Store}
    (e : s.append blocks = .ok u) : ∃ v, t.append blocks' = .ok v ∧ u.Twins v := by
  induction blocks generalizing s t blocks' with
  | nil =>
    rw [List.map_nil, eq_comm, List.map_eq_nil_iff] at same
    subst same
    cases e
    exact ⟨t, rfl, h⟩
  | cons b rest ih =>
    cases blocks' with
    | nil => cases same
    | cons b' rest' =>
      obtain ⟨hb, hrest⟩ := List.cons.inj same
      have contains : s.contains b.id = t.contains b'.id := by
        rw [← Block.id_uncomputed b, hb, Block.id_uncomputed, h.alike.contains]
      have hname : b.name = b'.name :=
        Block.name_eq_of_outline (Block.outline_eq_of_uncomputed hb)
      simp only [Store.append] at e ⊢
      rw [contains] at e
      split at e
      · cases e
      · rename_i fresh
        rw [if_neg fresh]
        let named : Block := { b with name := s.uniqueName b.name none }
        let named' : Block := { b' with name := t.uniqueName b'.name none }
        have hnamed : named.uncomputed = named'.uncomputed := by
          rw [Block.named_uncomputed b, Block.named_uncomputed b', hb, hname,
            h.alike.uniqueName_eq]
        have added : Twins { s with blocks := s.blocks ++ [named] }
            { t with blocks := t.blocks ++ [named'] } := by
          refine ⟨?_, h.settings⟩
          rw [List.map_append, List.map_append, h.blocks, List.map_singleton, List.map_singleton,
            hnamed]
        exact ih added hrest e

theorem replaceAll (s : Store) {blocks blocks' : List Block}
    (same : blocks.map Block.uncomputed = blocks'.map Block.uncomputed) {u : Store}
    (e : s.replaceAll blocks = .ok u) : ∃ v, s.replaceAll blocks' = .ok v ∧ u.Twins v := by
  have length : blocks.length = blocks'.length := by
    have := congrArg List.length same
    rwa [List.length_map, List.length_map] at this
  unfold Store.replaceAll at e ⊢
  rw [← length]
  split at e
  · cases e
  · rename_i fits
    rw [if_neg fits]
    exact append ⟨rfl, rfl⟩ same e

end Twins

/-- Twins in which the blocks of a list are the same. -/
structure MeetAt (done : List BlockId) (s t : Store) : Prop where
  twins : s.Twins t
  same : ∀ x ∈ done, s.get? x = t.get? x

namespace MeetAt

variable {done done' : List BlockId} {id : BlockId}

theorem of_twins (h : s.Twins t) : MeetAt [] s t := ⟨h, fun _ hx => absurd hx List.not_mem_nil⟩

theorem mono (h : MeetAt done s t) (sub : ∀ x ∈ done', x ∈ done) : MeetAt done' s t :=
  ⟨h.twins, fun x hx => h.same x (sub x hx)⟩

theorem modify (h : MeetAt done s t) {f : Block → Block} (hid : ∀ b, (f b).id = b.id)
    (hf : ∀ b, (f b.uncomputed).uncomputed = (f b).uncomputed) :
    MeetAt done (s.modify id f) (t.modify id f) := by
  refine ⟨h.twins.modify id hf, fun x hx => ?_⟩
  rw [get?_modify hid, get?_modify hid, h.same x hx]

theorem cons (h : MeetAt done s t) (hid : s.get? id = t.get? id) : MeetAt (id :: done) s t := by
  refine ⟨h.twins, fun x hx => ?_⟩
  rcases List.mem_cons.mp hx with rfl | hx
  · exact hid
  · exact h.same x hx

/-- A block that is not computed is the same in both stores. -/
theorem inert (h : MeetAt done s t)
    (hk : ∀ b, s.get? id = some b → b.kind.recomputes = false) : MeetAt (id :: done) s t := by
  refine h.cons ?_
  cases hb : s.get? id with
  | none =>
    have found := h.twins.get? id
    rw [hb, Option.map_none, eq_comm, Option.map_eq_none_iff] at found
    exact found.symm
  | some b =>
    obtain ⟨c, hc, e⟩ := h.twins.exists_get? hb
    rw [hc, Block.eq_of_uncomputed e (hk b hb)]

/-- A block that is filled in both stores is the same from then on. -/
theorem fill (h : MeetAt done s t) (content : Content) (input : String) (applied : Option String)
    {b : Block} (hb : s.get? id = some b) (hk : b.kind.recomputes = true) :
    MeetAt (id :: done) (s.modify id (.filled content input applied))
      (t.modify id (.filled content input applied)) := by
  have filled : ∀ b : Block, (b.uncomputed.filled content input applied).uncomputed =
      (b.filled content input applied).uncomputed := by
    intro b
    cases hk : b.kind.recomputes with
    | true => rw [Block.filled_uncomputed hk]
    | false => rw [Block.uncomputed_of_inert hk]
  refine (h.modify (f := .filled content input applied) (fun _ => rfl) filled).cons ?_
  obtain ⟨c, hc, e⟩ := h.twins.exists_get? hb
  have hk' : c.kind.recomputes = true :=
    Block.kind_eq_of_outline (Block.outline_eq_of_uncomputed e) ▸ hk
  have hf : ∀ b : Block, (b.filled content input applied).id = b.id := fun _ => rfl
  rw [get?_modify_self hf hb, get?_modify_self hf hc, ← Block.filled_uncomputed hk, e,
    Block.filled_uncomputed hk']

theorem await (h : MeetAt done s t) (id : BlockId) (now : Nat) :
    MeetAt done (s.modify id (.awaiting now)) (t.modify id (.awaiting now)) := by
  refine h.modify (fun _ => rfl) fun b => ?_
  rw [Block.awaiting_uncomputed, Block.awaiting_uncomputed, Block.uncomputed_uncomputed]

end MeetAt
end Store
end Workbook
