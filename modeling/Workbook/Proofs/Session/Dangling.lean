import Workbook.Proofs.Session.UpToDate

/-!
Blocks with mentions that lead nowhere.

A name that no block has is an invalid reference, so a block that mentions one is marked as failed
when its references are looked at again (`UpToDateBut.revalidate`).
-/

namespace Workbook

/-- No block has the name. -/
def Store.Lacks (s : Store) (name : String) : Prop :=
  ∀ a ∈ s.blocks, Name.normalize a.name ≠ Name.normalize name

/-- The block mentions a name that no block has. -/
def Block.Dangles (b : Block) (s : Store) : Prop := ∃ name ∈ referencedNames b.data, s.Lacks name

theorem Block.Dangles.of_alike {s t : Store} {b c : Block} (h : b.Dangles s) (ht : t.Alike s)
    (hd : c.data = b.data) : c.Dangles t := by
  obtain ⟨name, hn, lacks⟩ := h
  refine ⟨name, hd ▸ hn, fun a ha => ?_⟩
  obtain ⟨a', ha', e⟩ := ht.exists_mem ha
  rw [← Block.name_eq_of_outline e]
  exact lacks a' ha'

theorem Store.Lacks.find? {s : Store} {name : String} (h : s.Lacks name) : s.find? name = none := by
  rw [Store.find?, List.find?_eq_none]
  intro a ha e
  exact h a ha (beq_iff_eq.mp e)

theorem Store.Lacks.congr {s : Store} {name other : String} (h : s.Lacks name)
    (e : Name.normalize other = Name.normalize name) : s.Lacks other := by
  intro a ha
  rw [e]
  exact h a ha

/-- When a block is taken out, no block is left that has its name. -/
theorem Store.lacks_of_perm_cons {s t : Store} (hs : s.Sound) {b : Block}
    (perm : (b :: t.blocks).Perm s.blocks) : t.Lacks b.name := by
  intro a ha e
  have ha' : a ∈ s.blocks := perm.mem_iff.mp (List.mem_cons_of_mem b ha)
  have same : a = b := hs.eq_of_name_eq ha' (perm.mem_iff.mp (List.mem_cons_self ..)) e
  have nodup := (perm.map (·.id)).nodup_iff.mpr hs.ids_nodup
  exact (List.nodup_cons.mp nodup).1 (same ▸ List.mem_map_of_mem ha)

/-- A name that no block has is reported as invalid. -/
theorem Store.Lacks.mem_invalid {s : Store} {name data : String} (h : s.Lacks name)
    (hn : name ∈ distinctNames data) (g : Graph) (self : String) :
    name ∈ (s.resolve g data self).invalid := by
  have standing : ∀ self?, s.standing g self? name = .unknown := by
    intro self?
    rw [Store.standing, h.find?]
  simp only [Store.resolve, List.mem_map, List.mem_filterMap]
  exact ⟨.unknown name, ⟨_, ⟨name, hn, rfl⟩, by rw [standing]; rfl⟩, rfl⟩

theorem Block.Dangles.invalid_ne_nil {s : Store} {b : Block} (h : b.Dangles s) (g : Graph) :
    (s.resolve g b.data b.name).invalid ≠ [] := by
  obtain ⟨name, hn, lacks⟩ := h
  obtain ⟨other, ho, e⟩ := exists_mem_distinctNames.mpr ⟨name, hn, rfl⟩
  exact List.ne_nil_of_mem ((lacks.congr e).mem_invalid ho g b.name)

namespace Session

variable {s t : Session} {ids : List BlockId} {id : BlockId}

theorem isCurrent_refuse (hs : s.store.Sound) {message : String} {b : Block}
    (hb : s.store.get? b.id = some b) (hcur : b.IsCurrent s.store) :
    b.IsCurrent (s.refuse id message).store := by
  apply hcur.of_alike hs (Continues.refuse s id message).alike hb
  intro a _ _
  exact Store.contentOf?_modify (fun _ => rfl) fun _ => rfl

namespace UpToDateBut

/-- A block that is marked as failed need not be made up for. -/
theorem refuse (h : s.UpToDateBut ids) (hs : s.store.Sound) (id : BlockId) (message : String) :
    (s.refuse id message).UpToDateBut (ids.filter (· != id)) where
  keeps c hc hids hk hi := by
    obtain ⟨b, hb, rfl⟩ := Store.mem_modify.mp hc
    by_cases e : b.id = id
    · rw [if_pos e]
      exact .inr (.inr ⟨message, rfl⟩)
    · rw [if_neg e] at hids hk hi ⊢
      have hids : b.id ∉ ids := fun hmem => hids (List.mem_filter.mpr ⟨hmem, bne_iff_ne.mpr e⟩)
      rcases h.keeps b hb hids hk hi with hcur | parked | failed
      · exact .inl (isCurrent_refuse hs (hs.get? hb) hcur)
      · exact .inr (.inl parked)
      · exact .inr (.inr failed)
  shows c hc hk hi := by
    obtain ⟨b, hb, rfl⟩ := Store.mem_modify.mp hc
    by_cases e : b.id = id
    · rw [if_pos e] at hk hi ⊢
      exact h.shows b hb hk hi
    · rw [if_neg e] at hk hi ⊢
      exact h.shows b hb hk hi

theorem recheck (h : s.UpToDateBut ids) (hs : s.store.Sound)
    (dangles : ∀ b ∈ s.store.blocks, b.id ∈ ids → b.Dangles s.store) (id : BlockId) :
    (s.recheck id).UpToDateBut (ids.filter (· != id)) := by
  have stays : (∀ b ∈ s.store.blocks, b.id = id → id ∉ ids) →
      s.UpToDateBut (ids.filter (· != id)) := by
    refine fun unlisted => ⟨fun b hb hids => h.keeps b hb fun hmem => ?_, h.shows⟩
    by_cases e : b.id = id
    · exact unlisted b hb e (e ▸ hmem)
    · exact hids (List.mem_filter.mpr ⟨hmem, bne_iff_ne.mpr e⟩)
  unfold Session.recheck
  split
  case h_1 hb =>
    apply stays
    intro b hb' e
    rw [Store.get?_eq_none_iff] at hb
    exact absurd (Store.mem_ids.mpr ⟨b, hb', e⟩) hb
  case h_2 b hb =>
    obtain ⟨hmem, hid⟩ := Store.mem_of_get? hb
    dsimp only
    split
    case isTrue hvalid =>
      refine (stays fun c hc e hids => ?_).congr rfl rfl
      have hbc : c = b := hs.eq_of_id_eq hc hmem (e.trans hid.symm)
      subst hbc
      have invalid := (dangles c hc (hid ▸ hids)).invalid_ne_nil (.ofStore s.store)
      exact invalid (List.isEmpty_iff.mp hvalid)
    case isFalse =>
      have contains : s.regraph.store.contains id = true :=
        Store.contains_iff.mpr (Store.mem_ids.mpr ⟨b, hmem, hid⟩)
      rw [refuse_eq contains]
      exact (h.congr (t := s.regraph) rfl rfl).refuse hs id _

/-- Looking at references again makes up for the blocks with mentions that lead nowhere. -/
theorem revalidate (h : s.UpToDateBut ids) (hs : s.store.Sound)
    (dangles : ∀ b ∈ s.store.blocks, b.id ∈ ids → b.Dangles s.store) (more : List BlockId)
    (subset : ∀ x ∈ ids, x ∈ more) : (s.revalidate more).2.UpToDateBut [] := by
  rw [revalidate_eq]
  induction more generalizing s ids with
  | nil =>
    have e : ids = [] := List.eq_nil_iff_forall_not_mem.mpr fun x hx =>
      absurd (subset x hx) List.not_mem_nil
    rw [e] at h
    exact h
  | cons id more ih =>
    have alike := alike_recheck s id
    refine ih (h.recheck hs dangles id) (alike.sound hs) (fun c hc hids => ?_) fun x hx => ?_
    · obtain ⟨b, hb, e⟩ := alike.exists_mem hc
      have hmem := (List.mem_filter.mp hids).1
      rw [← Block.id_eq_of_outline e] at hmem
      exact (dangles b hb hmem).of_alike alike (Block.data_eq_of_outline e).symm
    · obtain ⟨hmem, hne⟩ := List.mem_filter.mp hx
      exact (List.mem_cons.mp (subset x hmem)).resolve_left (bne_iff_ne.mp hne)

end UpToDateBut
end Session
end Workbook
