import Mathlib.Data.List.Perm.Basic
import Workbook.Proofs.Store.Names

/-!
Every operation leaves a store sound.

Whether a store is sound depends on its blocks as a collection, not on their order
(`Sound.of_perm`), and of each block only on its id and name (`Sound.modify`).  Operations that put
a block in give it a free id and a free name (`Sound.cons`); the others move, change or take out
blocks.
-/

namespace Workbook
namespace Store

theorem ext_blocks {s t : Store} (hb : s.blocks = t.blocks) (hs : s.settings = t.settings) :
    s = t := by
  cases s
  cases t
  simp_all

/-! ## Looking up -/

theorem mem_ids {s : Store} {id : BlockId} : id ∈ s.ids ↔ ∃ b ∈ s.blocks, b.id = id :=
  List.mem_map

theorem contains_iff {s : Store} {id : BlockId} : s.contains id = true ↔ id ∈ s.ids := by
  rw [mem_ids]
  simp [contains]

theorem contains_eq_false_iff {s : Store} {id : BlockId} :
    s.contains id = false ↔ id ∉ s.ids := by
  rw [← contains_iff, Bool.not_eq_true]

theorem mem_of_get? {s : Store} {id : BlockId} {b : Block} (h : s.get? id = some b) :
    b ∈ s.blocks ∧ b.id = id :=
  ⟨List.mem_of_find?_eq_some h, by simpa using List.find?_some h⟩

theorem get?_eq_some_iff {s : Store} (h : s.Sound) {id : BlockId} {b : Block} :
    s.get? id = some b ↔ b ∈ s.blocks ∧ b.id = id := by
  refine ⟨mem_of_get?, fun ⟨hb, e⟩ => ?_⟩
  have found : (s.get? id).isSome = true := by
    rw [get?, List.find?_isSome]
    exact ⟨b, hb, by simp [e]⟩
  obtain ⟨c, hc⟩ := Option.isSome_iff_exists.mp found
  obtain ⟨hcs, hcid⟩ := mem_of_get? hc
  rw [hc, h.eq_of_id_eq hcs hb (hcid.trans e.symm)]

theorem Sound.get? {s : Store} (h : s.Sound) {b : Block} (hb : b ∈ s.blocks) :
    s.get? b.id = some b :=
  (get?_eq_some_iff h).mpr ⟨hb, rfl⟩

/-- Stores with the same blocks of an id find the same one. -/
theorem get?_eq_of_mem_iff {s t : Store} (ht : t.Sound) (hs : s.Sound) {id : BlockId}
    (h : ∀ b, b.id = id → (b ∈ t.blocks ↔ b ∈ s.blocks)) : t.get? id = s.get? id := by
  refine Option.ext fun b => ?_
  rw [get?_eq_some_iff ht, get?_eq_some_iff hs]
  exact and_congr_left fun hid => h b hid

/-- One more block leaves the others alone. -/
theorem get?_of_perm_cons {s t : Store} (ht : t.Sound) (hs : s.Sound) {b : Block}
    (perm : t.blocks.Perm (b :: s.blocks)) {id : BlockId} (hne : id ≠ b.id) :
    t.get? id = s.get? id := by
  refine get?_eq_of_mem_iff ht hs fun c hid => ?_
  rw [perm.mem_iff, List.mem_cons]
  exact or_iff_right fun e => hne (hid.symm.trans (congrArg _ e))

theorem get?_eq_none_iff {s : Store} {id : BlockId} : s.get? id = none ↔ id ∉ s.ids := by
  rw [mem_ids]
  simp [Store.get?]

theorem exists_get? {s : Store} {id : BlockId} (h : id ∈ s.ids) : ∃ b, s.get? id = some b :=
  Option.ne_none_iff_exists'.mp fun e => get?_eq_none_iff.mp e h

theorem mem_of_find? {s : Store} {name : String} {b : Block} (h : s.find? name = some b) :
    b ∈ s.blocks ∧ Name.normalize b.name = Name.normalize name :=
  ⟨List.mem_of_find?_eq_some h, by simpa using List.find?_some h⟩

theorem find?_of_names_nodup {s : Store} (h : (s.blocks.map fun b => Name.normalize b.name).Nodup)
    {name : String} {b : Block} (hb : b ∈ s.blocks)
    (e : Name.normalize b.name = Name.normalize name) : s.find? name = some b := by
  have found : (s.find? name).isSome = true := by
    rw [Store.find?, List.find?_isSome]
    exact ⟨b, hb, by simp [e]⟩
  obtain ⟨c, hc⟩ := Option.isSome_iff_exists.mp found
  obtain ⟨hcs, hcname⟩ := mem_of_find? hc
  rw [hc, eq_of_nodup_map h hcs hb (hcname.trans e.symm)]

theorem find?_eq_some_iff {s : Store} (h : s.Sound) {name : String} {b : Block} :
    s.find? name = some b ↔ b ∈ s.blocks ∧ Name.normalize b.name = Name.normalize name :=
  ⟨mem_of_find?, fun ⟨hb, e⟩ => find?_of_names_nodup h.names_nodup hb e⟩

theorem Sound.find? {s : Store} (h : s.Sound) {b : Block} (hb : b ∈ s.blocks) :
    s.find? b.name = some b :=
  (find?_eq_some_iff h).mpr ⟨hb, rfl⟩

/-! ## Changing one block -/

theorem mem_modify {s : Store} {id : BlockId} {f : Block → Block} {c : Block} :
    c ∈ (s.modify id f).blocks ↔ ∃ b ∈ s.blocks, c = if b.id = id then f b else b := by
  simp only [modify, List.mem_map]
  exact ⟨fun ⟨b, hb, e⟩ => ⟨b, hb, e.symm⟩, fun ⟨b, hb, e⟩ => ⟨b, hb, e.symm⟩⟩

theorem mem_modify_self {s : Store} {f : Block → Block} {b : Block} (hb : b ∈ s.blocks) :
    f b ∈ (s.modify b.id f).blocks :=
  mem_modify.mpr ⟨b, hb, (if_pos rfl).symm⟩

theorem mem_modify_ne {s : Store} {id : BlockId} {f : Block → Block} {b : Block}
    (hb : b ∈ s.blocks) (hne : b.id ≠ id) : b ∈ (s.modify id f).blocks :=
  mem_modify.mpr ⟨b, hb, (if_neg hne).symm⟩

theorem ids_modify {s : Store} {id : BlockId} {f : Block → Block} (hf : ∀ b, (f b).id = b.id) :
    (s.modify id f).ids = s.ids := by
  simp only [ids, modify, List.map_map]
  apply List.map_congr_left
  intro b _
  show (if b.id = id then f b else b).id = b.id
  split
  · exact hf b
  · rfl

theorem get?_modify {s : Store} {id x : BlockId} {f : Block → Block}
    (hf : ∀ b, (f b).id = b.id) :
    (s.modify id f).get? x = (s.get? x).map fun b => if b.id = id then f b else b := by
  have hid : ∀ b : Block, (if b.id = id then f b else b).id = b.id := by
    intro b
    split
    · exact hf b
    · rfl
  simp only [Store.get?, modify, List.find?_map]
  congr 2
  funext b
  exact congrArg (· == x) (hid b)

theorem get?_modify_self {s : Store} {id : BlockId} {f : Block → Block} {b : Block}
    (hf : ∀ b, (f b).id = b.id) (hb : s.get? id = some b) :
    (s.modify id f).get? id = some (f b) := by
  rw [get?_modify hf, hb, Option.map_some, if_pos (mem_of_get? hb).2]

theorem get?_modify_ne {s : Store} {id x : BlockId} {f : Block → Block}
    (hf : ∀ b, (f b).id = b.id) (h : x ≠ id) : (s.modify id f).get? x = s.get? x := by
  rw [get?_modify hf]
  cases hb : s.get? x with
  | none => rfl
  | some b =>
    have hne : b.id ≠ id := by
      rw [(mem_of_get? hb).2]
      exact h
    rw [Option.map_some, if_neg hne]

theorem modify_modify {s : Store} {id : BlockId} {f g : Block → Block}
    (hf : ∀ b, (f b).id = b.id) : (s.modify id f).modify id g = s.modify id fun b => g (f b) := by
  simp only [modify, List.map_map]
  refine ext_blocks (List.map_congr_left fun b _ => ?_) rfl
  show (if (if b.id = id then f b else b).id = id then g (if b.id = id then f b else b)
    else if b.id = id then f b else b) = if b.id = id then g (f b) else b
  by_cases h : b.id = id
  · simp [h, hf b]
  · simp [h]

/-! ## What keeps a store sound -/

theorem Sound.of_perm {s t : Store} (h : s.Sound) (hb : t.blocks.Perm s.blocks)
    (hs : t.settings = s.settings) : t.Sound where
  ids_nodup := (hb.map _).nodup_iff.mpr h.ids_nodup
  names_nodup := (hb.map _).nodup_iff.mpr h.names_nodup
  length_le := by
    rw [hb.length_eq, hs]
    exact h.length_le

theorem Sound.of_sublist {s t : Store} (h : s.Sound) (hb : t.blocks.Sublist s.blocks)
    (hs : t.settings = s.settings) : t.Sound where
  ids_nodup := (hb.map _).nodup h.ids_nodup
  names_nodup := (hb.map _).nodup h.names_nodup
  length_le := by
    rw [hs]
    exact Nat.le_trans hb.length_le h.length_le

/-- One more block, with an id and a name that no other has. -/
theorem Sound.cons {s t : Store} (h : s.Sound) {b : Block} (hb : t.blocks.Perm (b :: s.blocks))
    (hs : t.settings = s.settings) (hid : b.id ∉ s.ids)
    (hname : ∀ c ∈ s.blocks, Name.normalize c.name ≠ Name.normalize b.name)
    (hl : s.size < s.settings.maxBlocks) : t.Sound where
  ids_nodup := by
    rw [(hb.map _).nodup_iff, List.map_cons, List.nodup_cons]
    exact ⟨hid, h.ids_nodup⟩
  names_nodup := by
    rw [(hb.map _).nodup_iff, List.map_cons, List.nodup_cons]
    refine ⟨fun hmem => ?_, h.names_nodup⟩
    obtain ⟨c, hc, e⟩ := List.mem_map.mp hmem
    exact hname c hc e
  length_le := by
    rw [hb.length_eq, hs, List.length_cons]
    exact hl

theorem Sound.modify {s : Store} (h : s.Sound) {id : BlockId} {f : Block → Block}
    (hid : ∀ b, (f b).id = b.id) (hname : ∀ b, (f b).name = b.name) : (s.modify id f).Sound where
  ids_nodup := by
    show (s.modify id f).ids.Nodup
    rw [ids_modify hid]
    exact h.ids_nodup
  names_nodup := by
    have e : (s.modify id f).blocks.map (fun b => Name.normalize b.name) =
        s.blocks.map fun b => Name.normalize b.name := by
      simp only [Store.modify, List.map_map]
      apply List.map_congr_left
      intro b _
      show Name.normalize (if b.id = id then f b else b).name = Name.normalize b.name
      split
      · rw [hname b]
      · rfl
    rw [e]
    exact h.names_nodup
  length_le := by
    show (s.blocks.map _).length ≤ s.settings.maxBlocks
    rw [List.length_map]
    exact h.length_le

theorem sound_empty (settings : Settings) : Sound { settings } := by
  constructor
  · exact List.nodup_nil
  · exact List.nodup_nil
  · exact Nat.zero_le _

/-! ## Filling -/

theorem freshId_not_mem {s : Store} {attempts : Nat} {source next : IdSource} {id : BlockId}
    (h : s.freshId attempts source = (some id, next)) : id ∉ s.ids := by
  induction attempts generalizing source with
  | zero => cases h
  | succ attempts ih =>
    simp only [freshId] at h
    split at h
    case isTrue => exact ih h
    case isFalse hc =>
      cases h
      rw [← contains_eq_false_iff]
      simpa using hc

theorem Sound.append {s t : Store} (h : s.Sound) {blocks : List Block}
    (hl : s.size + blocks.length ≤ s.settings.maxBlocks) (e : s.append blocks = .ok t) :
    t.Sound ∧ t.settings = s.settings := by
  induction blocks generalizing s with
  | nil =>
    cases e
    exact ⟨h, rfl⟩
  | cons b rest ih =>
    simp only [Store.append] at e
    split at e
    case isTrue => cases e
    case isFalse hc =>
      rw [List.length_cons] at hl
      have hadd : Sound { s with
          blocks := s.blocks ++ [{ b with name := s.uniqueName b.name none }] } := by
        refine h.cons (b := { b with name := s.uniqueName b.name none })
          (List.perm_append_singleton _ _) rfl ?_ (fun c hc => uniqueName_ne hc (by simp))
          (by omega)
        rw [← contains_eq_false_iff]
        simpa using hc
      have hlen : (s.blocks ++ [{ b with name := s.uniqueName b.name none }]).length +
          rest.length ≤ s.settings.maxBlocks := by
        rw [List.length_append, List.length_singleton]
        have : s.size = s.blocks.length := rfl
        omega
      have tail := ih hadd hlen e
      exact tail

theorem Sound.replaceAll {s t : Store} {blocks : List Block} (e : s.replaceAll blocks = .ok t) :
    t.Sound ∧ t.settings = s.settings := by
  unfold Store.replaceAll at e
  split at e
  case isTrue => cases e
  case isFalse hl =>
    refine Sound.append (s := { s with blocks := [] }) (sound_empty s.settings) ?_ e
    show 0 + blocks.length ≤ s.settings.maxBlocks
    omega

/-- Blocks that are added keep everything but their names. -/
theorem map_append {α : Type} {f : Block → α} (hf : ∀ b name, f { b with name } = f b)
    {s t : Store} {blocks : List Block} (e : s.append blocks = .ok t) :
    t.blocks.map f = s.blocks.map f ++ blocks.map f := by
  induction blocks generalizing s with
  | nil =>
    cases e
    exact (List.append_nil _).symm
  | cons b rest ih =>
    simp only [Store.append] at e
    split at e
    · cases e
    · rw [ih e, List.map_append, List.map_cons, List.append_assoc, List.map_nil, hf]
      rfl

theorem map_replaceAll {α : Type} {f : Block → α} (hf : ∀ b name, f { b with name } = f b)
    {s t : Store} {blocks : List Block} (e : s.replaceAll blocks = .ok t) :
    t.blocks.map f = blocks.map f := by
  unfold Store.replaceAll at e
  split at e
  · cases e
  · exact map_append hf e

/-- Blocks with free names are added as they are, unless ids agree. -/
theorem append_eq_ok_iff {s t : Store} {blocks : List Block}
    (names : ((s.blocks ++ blocks).map fun b => Name.normalize b.name).Nodup) :
    s.append blocks = .ok t ↔
      (blocks.map (·.id)).Nodup ∧ (∀ b ∈ blocks, b.id ∉ s.ids) ∧
        t = { s with blocks := s.blocks ++ blocks } := by
  induction blocks generalizing s with
  | nil => simp [Store.append, eq_comm]
  | cons b rest ih =>
    have free : ∀ c ∈ s.blocks, Name.normalize c.name ≠ Name.normalize b.name := by
      intro c hc e
      rw [List.map_append, List.nodup_append] at names
      exact names.2.2 _ (List.mem_map_of_mem hc) _ (List.mem_map_of_mem (List.mem_cons_self ..)) e
    have step : s.append (b :: rest) =
        if s.contains b.id then .error (.duplicateId b.id)
        else append { s with blocks := s.blocks ++ [b] } rest := by
      rw [Store.append, uniqueName_of_free none free]
    have added : ∀ id, id ∈ ids { s with blocks := s.blocks ++ [b] } ↔ id ∈ s.ids ∨ id = b.id := by
      simp [ids]
    rw [List.append_cons] at names
    rw [step, List.map_cons, List.nodup_cons, List.forall_mem_cons, ← contains_iff]
    split
    case isTrue taken => simp [taken]
    case isFalse untaken =>
      rw [ih names, List.append_assoc, List.singleton_append, List.mem_map]
      simp only [added, untaken]
      grind

/-- A list in which names are apart takes the place of all blocks as it is, unless it is too long or
ids agree. -/
theorem replaceAll_eq_ok_iff {s t : Store} {blocks : List Block}
    (names : (blocks.map fun b => Name.normalize b.name).Nodup) :
    s.replaceAll blocks = .ok t ↔
      blocks.length ≤ s.settings.maxBlocks ∧ (blocks.map (·.id)).Nodup ∧ t = { s with blocks } := by
  unfold Store.replaceAll
  split
  case isTrue long =>
    simp [Nat.not_le.mpr long]
  case isFalse short =>
    rw [append_eq_ok_iff (s := { s with blocks := [] }) names]
    simp [ids, Nat.not_lt.mp short]

/-- The block as it is placed in a store: under its new id, with a free name, and without a
transform that its kind has no use for. -/
def placed (s : Store) (id : BlockId) (b : Block) : Block :=
  { b with id := id, name := s.uniqueName b.name none, transform := b.effectiveTransform }

theorem insertAt_eq_ok {s t : Store} {source : IdSource} {index : Nat} {b : Block} {id : BlockId}
    (e : (s.insertAt source index b).1 = .ok (id, t)) :
    id ∉ s.ids ∧ s.size < s.settings.maxBlocks ∧
      t = { s with blocks := s.blocks.insertIdx (min index s.size) (s.placed id b) } := by
  unfold insertAt at e
  split at e
  case isTrue => cases e
  case isFalse hl =>
    split at e
    case h_1 => cases e
    case h_2 hf =>
      simp only [Except.ok.injEq, Prod.mk.injEq] at e
      obtain ⟨rfl, rfl⟩ := e
      exact ⟨freshId_not_mem hf, by omega, rfl⟩

theorem perm_insertAt {s t : Store} {source : IdSource} {index : Nat} {b : Block} {id : BlockId}
    (e : (s.insertAt source index b).1 = .ok (id, t)) :
    t.blocks.Perm (s.placed id b :: s.blocks) := by
  obtain ⟨-, -, rfl⟩ := insertAt_eq_ok e
  exact List.perm_insertIdx _ _ (Nat.min_le_right ..)

theorem Sound.insertAt {s t : Store} (h : s.Sound) {source : IdSource} {index : Nat} {b : Block}
    {id : BlockId} (e : (s.insertAt source index b).1 = .ok (id, t)) : t.Sound := by
  obtain ⟨hid, hl, ht⟩ := insertAt_eq_ok e
  refine h.cons (perm_insertAt e) (by rw [ht]) hid (fun c hc => uniqueName_ne hc (by simp)) hl

theorem duplicate_eq_ok {s t : Store} {source : IdSource} {id copy : BlockId}
    (e : (s.duplicate source id).1 = .ok (copy, t)) :
    ∃ b index, s.get? id = some b ∧ (s.insertAt source index b.atRest).1 = .ok (copy, t) := by
  unfold duplicate at e
  split at e
  case h_1 b index hb hi => exact ⟨b, index + 1, hb, e⟩
  case h_2 => cases e

/-! ## Editing -/

theorem rename_eq_ok {s t : Store} {id : BlockId} {name applied : String}
    (e : s.rename id name = .ok (applied, t)) :
    id ∈ s.ids ∧ applied = s.uniqueName name (some id) ∧
      t = s.modify id fun b => { b with name := applied } := by
  unfold rename editable at e
  cases hb : s.get? id with
  | none => rw [hb] at e; cases e
  | some b =>
    simp only [hb] at e
    split at e
    case h_1 => cases e
    case h_2 =>
      cases e
      exact ⟨mem_ids.mpr ⟨b, mem_of_get? hb⟩, rfl, rfl⟩

theorem Sound.rename {s t : Store} (h : s.Sound) {id : BlockId} {name applied : String}
    (e : s.rename id name = .ok (applied, t)) : t.Sound := by
  obtain ⟨-, happlied, rfl⟩ := rename_eq_ok e
  refine ⟨?_, ?_, ?_⟩
  · show (s.modify id _).ids.Nodup
    rw [ids_modify (f := fun b => { b with name := applied }) fun b => rfl]
    exact h.ids_nodup
  · -- the one block that changes takes a name that no other block has
    have distinct : s.blocks.Pairwise fun a b =>
        a.id ≠ b.id ∧ Name.normalize a.name ≠ Name.normalize b.name := by
      have hi := List.pairwise_map.mp h.ids_nodup
      have hn := List.pairwise_map.mp h.names_nodup
      exact hi.and hn
    rw [List.nodup_iff_pairwise_ne, List.pairwise_map]
    simp only [Store.modify, List.pairwise_map]
    refine List.Pairwise.imp_of_mem (fun {a b} ha hb hab => ?_) distinct
    have free : ∀ {c : Block}, c ∈ s.blocks → c.id ≠ id →
        Name.normalize c.name ≠ Name.normalize applied := by
      intro c hc hci
      rw [happlied]
      exact uniqueName_ne hc fun e => hci (Option.some.inj e)
    by_cases hai : a.id = id
    · have hbi : b.id ≠ id := fun e => hab.1 (hai.trans e.symm)
      rw [if_pos hai, if_neg hbi]
      exact (free hb hbi).symm
    · by_cases hbi : b.id = id
      · rw [if_neg hai, if_pos hbi]
        exact free ha hai
      · rw [if_neg hai, if_neg hbi]
        exact hab.2
  · show (s.blocks.map _).length ≤ s.settings.maxBlocks
    rw [List.length_map]
    exact h.length_le

theorem setData_eq_ok {s t : Store} {id : BlockId} {data : String}
    (e : s.setData id data = .ok t) : id ∈ s.ids ∧ t = s.modify id fun b => { b with data } := by
  unfold setData editable at e
  cases hb : s.get? id with
  | none => rw [hb] at e; cases e
  | some b =>
    simp only [hb] at e
    split at e
    case h_1 => cases e
    case h_2 =>
      cases e
      exact ⟨mem_ids.mpr ⟨b, mem_of_get? hb⟩, rfl⟩

theorem Sound.setData {s t : Store} (h : s.Sound) {id : BlockId} {data : String}
    (e : s.setData id data = .ok t) : t.Sound := by
  rw [(setData_eq_ok e).2]
  exact h.modify (fun _ => rfl) fun _ => rfl

theorem setTransform_eq_ok {s t : Store} {id : BlockId} {transform : String}
    (e : s.setTransform id transform = .ok t) :
    id ∈ s.ids ∧ t = s.modify id fun b => { b with transform := some transform } := by
  unfold setTransform editable at e
  cases hb : s.get? id with
  | none => rw [hb] at e; cases e
  | some b =>
    simp only [hb] at e
    split at e
    case h_1 => cases e
    case h_2 =>
      split at e
      · cases e
        exact ⟨mem_ids.mpr ⟨b, mem_of_get? hb⟩, rfl⟩
      · cases e

theorem Sound.setTransform {s t : Store} (h : s.Sound) {id : BlockId} {transform : String}
    (e : s.setTransform id transform = .ok t) : t.Sound := by
  rw [(setTransform_eq_ok e).2]
  exact h.modify (fun _ => rfl) fun _ => rfl

theorem update_eq_ok {s t : Store} {id : BlockId} {f : Block → Block}
    (e : s.update id f = .ok t) : id ∈ s.ids ∧ t = s.modify id f := by
  unfold update at e
  split at e
  case isTrue hc =>
    cases e
    exact ⟨contains_iff.mp hc, rfl⟩
  case isFalse => cases e

/-! ## Moving and taking out -/

theorem getElem?_position? {s : Store} (h : s.Sound) {id : BlockId} {b : Block} {i : Nat}
    (hb : s.get? id = some b) (hi : s.position? id = some i) : s.blocks[i]? = some b := by
  obtain ⟨hlt, hp, -⟩ := List.findIdx?_eq_some_iff_getElem.mp hi
  obtain ⟨hmem, hid⟩ := mem_of_get? hb
  have e : s.blocks[i].id = b.id := by
    rw [hid]
    simpa using hp
  rw [List.getElem?_eq_getElem hlt, h.eq_of_id_eq (List.getElem_mem hlt) hmem e]

theorem perm_eraseIdx_position? {s : Store} (h : s.Sound) {id : BlockId} {b : Block} {i : Nat}
    (hb : s.get? id = some b) (hi : s.position? id = some i) :
    (b :: s.blocks.eraseIdx i).Perm s.blocks := by
  obtain ⟨hlt, e⟩ := List.getElem?_eq_some_iff.mp (getElem?_position? h hb hi)
  rw [← e]
  exact List.getElem_cons_eraseIdx_perm hlt

theorem perm_moveTo {s t : Store} (h : s.Sound) {id : BlockId} {index : Nat}
    (e : s.moveTo id index = .ok t) : t.blocks.Perm s.blocks ∧ t.settings = s.settings := by
  unfold moveTo at e
  split at e
  case h_1 b i hb hi =>
    cases e
    refine ⟨?_, rfl⟩
    exact (List.perm_insertIdx _ _ (Nat.min_le_right ..)).trans (perm_eraseIdx_position? h hb hi)
  case h_2 => cases e

theorem Sound.moveTo {s t : Store} (h : s.Sound) {id : BlockId} {index : Nat}
    (e : s.moveTo id index = .ok t) : t.Sound :=
  h.of_perm (perm_moveTo h e).1 (perm_moveTo h e).2

theorem perm_delete {s t : Store} (h : s.Sound) {id : BlockId} {b : Block}
    (e : s.delete id = .ok (b, t)) :
    b.id = id ∧ (b :: t.blocks).Perm s.blocks ∧ t.settings = s.settings := by
  unfold delete at e
  split at e
  case h_1 c i hc hi =>
    cases e
    exact ⟨(mem_of_get? hc).2, perm_eraseIdx_position? h hc hi, rfl⟩
  case h_2 => cases e

theorem Sound.delete {s t : Store} (h : s.Sound) {id : BlockId} {b : Block}
    (e : s.delete id = .ok (b, t)) : t.Sound := by
  obtain ⟨-, hp, hs⟩ := perm_delete h e
  have sound : Sound { s with blocks := b :: t.blocks } := h.of_perm hp rfl
  exact sound.of_sublist (List.sublist_cons_self ..) hs

end Store
end Workbook
