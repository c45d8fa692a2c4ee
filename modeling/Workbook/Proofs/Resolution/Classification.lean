import Mathlib.Data.List.Nodup
import Workbook.Proofs.Resolution.Substitution

/-!
How the names in a text are classified.

In a store whose names differ, a name finds one block at most, and what the name comes to in the
text of another block is said by that block's text and content (`standing_fits`).  A resolution
lists each name that the text mentions once, as invalid, as not ready or as available, in the order
of the text, and says of every invalid name what is wrong with it (`resolve_classified`).
-/

namespace Workbook

/-- The block has the name, in whatever spelling. -/
def Block.Called (a : Block) (name : String) : Prop :=
  Name.normalize a.name = Name.normalize name

/-- In the text of block `b` the name finds no block, or `b` itself, or a block that mentions `b` in
turn. -/
def Block.Misses (b : Block) (s : Store) (name : String) : Prop :=
  (∀ a ∈ s.blocks, ¬ a.Called name) ∨ ∃ a ∈ s.blocks, a.Called name ∧ (a = b ∨ a.Mentions b)

/-- What a diagnostic of the text of block `b` says is the case. -/
def Diagnostic.Holds (s : Store) (b : Block) : Diagnostic → Prop
  | .unknown name => ∀ a ∈ s.blocks, ¬ a.Called name
  | .itself name => b.Called name
  | .mutual name other => other ≠ b.id ∧ ∃ a ∈ s.blocks, a.id = other ∧ a.Called name ∧ a.Mentions b

/-- The resolution sorts the names that the text of block `b` mentions. -/
structure Resolution.Classified (s : Store) (b : Block) (r : Resolution) : Prop where
  /-- No name is listed twice, or in two spellings. -/
  distinct : ((distinctNames b.data).map Name.normalize).Nodup
  invalid_sublist : r.invalid.Sublist (distinctNames b.data)
  notReady_sublist : r.notReady.Sublist (distinctNames b.data)
  available_sublist : (r.available.map (·.name)).Sublist (distinctNames b.data)
  /-- Each name is in one of the lists. -/
  perm : (r.invalid ++ r.notReady ++ r.available.map (·.name)).Perm (distinctNames b.data)
  invalid_iff : ∀ name ∈ distinctNames b.data, name ∈ r.invalid ↔ b.Misses s name
  notReady_iff : ∀ name ∈ distinctNames b.data,
    name ∈ r.notReady ↔ ¬ b.Misses s name ∧ ∃ a ∈ s.blocks, a.Called name ∧ a.content = none
  available_iff : ∀ name ∈ distinctNames b.data, ∀ id content,
    ⟨name, id, content⟩ ∈ r.available ↔
      ¬ b.Misses s name ∧ ∃ a ∈ s.blocks, a.Called name ∧ a.id = id ∧ a.content = some content
  /-- Each invalid name has one diagnostic, in the same order. -/
  diagnosed : r.diagnostics.map Diagnostic.name = r.invalid
  diagnostic_iff : ∀ d, d ∈ r.diagnostics ↔ d.name ∈ distinctNames b.data ∧ d.Holds s b
  /-- No block is available twice, and none to itself. -/
  available_nodup : (b.id :: r.available.map (·.id)).Nodup
  /-- The text has been edited, and it is complete if all references were. -/
  edited : Text.utf8 r.text =
    Text.edited ((references b.data).filterMap (Reference.edit? r.content?)) (Text.utf8 b.data)
  complete_iff : r.isComplete = true ↔
    ∀ q ∈ references b.data, (q.edit? r.content?).isSome = true

/-! ## The names of a text -/

theorem Reference.notMem_of_mem_distinctFrom {seen names : List String} {name : String}
    (h : name ∈ Reference.distinctFrom seen names) : Name.normalize name ∉ seen := by
  induction names generalizing seen with
  | nil => cases h
  | cons first rest ih =>
    unfold Reference.distinctFrom at h
    simp only at h
    split at h
    case isTrue => exact ih h
    case isFalse new =>
      rcases List.mem_cons.mp h with rfl | h
      · exact fun old => new (List.contains_iff_mem.mpr old)
      · exact fun old => ih h (List.mem_cons_of_mem _ old)

theorem Reference.nodup_distinctFrom (seen names : List String) :
    ((Reference.distinctFrom seen names).map Name.normalize).Nodup := by
  induction names generalizing seen with
  | nil => exact List.nodup_nil
  | cons first rest ih =>
    unfold Reference.distinctFrom
    simp only
    split
    · exact ih seen
    · refine List.nodup_cons.mpr ⟨fun again => ?_, ih _⟩
      obtain ⟨name, later, e⟩ := List.mem_map.mp again
      exact Reference.notMem_of_mem_distinctFrom later (e ▸ List.mem_cons_self ..)

theorem nodup_distinctNames (text : String) : ((distinctNames text).map Name.normalize).Nodup :=
  Reference.nodup_distinctFrom [] _

namespace Store

/-! ## What a name comes to -/

/-- What a name in the text of block `b` comes to, by the block that it finds. -/
inductive Fits (s : Store) (b : Block) (name : String) : Standing → Prop
  | unknown (none : ∀ a ∈ s.blocks, ¬ a.Called name) : Fits s b name .unknown
  | itself (own : b.Called name) : Fits s b name .itself
  | circle {a : Block} (ha : a ∈ s.blocks) (called : a.Called name) (other : a.id ≠ b.id)
    (back : a.Mentions b) : Fits s b name (.mutual a.id)
  | pending {a : Block} (ha : a ∈ s.blocks) (called : a.Called name) (other : a.id ≠ b.id)
    (oneWay : ¬ a.Mentions b) (empty : a.content = none) : Fits s b name .pending
  | ready {a : Block} {content : Content} (ha : a ∈ s.blocks) (called : a.Called name)
    (other : a.id ≠ b.id) (oneWay : ¬ a.Mentions b) (full : a.content = some content) :
    Fits s b name (.ready a.id content)

section
variable {s : Store} (ids : (s.blocks.map (·.id)).Nodup)
  (names : (s.blocks.map fun b => Name.normalize b.name).Nodup)

include ids names in
theorem hasLink_iff_mentions {a b : Block} (ha : a ∈ s.blocks) (hb : b ∈ s.blocks) :
    (Graph.ofStore s).hasLink a.id b.id = true ↔ a.id ≠ b.id ∧ b.Mentions a := by
  -- neither side depends on how many blocks there may be
  let roomy : Store := { s with settings := { s.settings with maxBlocks := s.blocks.length } }
  have sound : roomy.Sound := ⟨ids, names, Nat.le_refl _⟩
  exact Graph.hasLink_ofStore sound ha hb

include names in
theorem Called.eq {a c : Block} {name : String} (ha : a ∈ s.blocks) (hc : c ∈ s.blocks)
    (han : a.Called name) (hcn : c.Called name) : a = c :=
  eq_of_nodup_map names ha hc (han.trans hcn.symm)

include ids names

theorem standing_fits {b : Block} (hb : b ∈ s.blocks) {name : String}
    (hn : name ∈ referencedNames b.data) :
    s.Fits b name (s.standing (.ofStore s) ((s.find? b.name).map (·.id)) name) := by
  rw [find?_of_names_nodup names hb rfl, Option.map_some]
  unfold standing
  cases found : s.find? name with
  | none =>
    refine .unknown fun a ha called => ?_
    rw [find?_of_names_nodup names ha called] at found
    cases found
  | some a =>
    obtain ⟨ha, called⟩ := mem_of_find? found
    dsimp only
    by_cases own : a.id = b.id
    · rw [if_pos (congrArg some own)]
      exact .itself (eq_of_nodup_map ids ha hb own ▸ called)
    · have forth : (Graph.ofStore s).hasLink a.id b.id = true :=
        Graph.hasLink_of_find? hb hn found own
      have back := hasLink_iff_mentions ids names hb ha
      rw [if_neg fun e => own (Option.some.inj e)]
      simp only [Option.any_some, forth, Bool.and_true]
      by_cases mentions : a.Mentions b
      · rw [if_pos (back.mpr ⟨Ne.symm own, mentions⟩)]
        exact .circle ha called own mentions
      · rw [if_neg fun link => mentions (back.mp link).2]
        cases content : a.content with
        | none => exact .pending ha called own mentions content
        | some content' => exact .ready ha called own mentions content

omit ids

namespace Fits

variable {b : Block} {name : String} {standing : Standing} (h : s.Fits b name standing)

/-- A name that finds another block, which does not mention this one, is not missed. -/
theorem not_misses {a : Block} (ha : a ∈ s.blocks) (called : a.Called name) (other : a.id ≠ b.id)
    (oneWay : ¬ a.Mentions b) : ¬ b.Misses s name := by
  rintro (none | ⟨c, hc, calledc, rfl | back⟩)
  · exact none a ha called
  · exact other (congrArg _ (Called.eq names ha hc called calledc))
  · exact oneWay (Called.eq names ha hc called calledc ▸ back)

include h

theorem isSome_diagnostic?_iff (hb : b ∈ s.blocks) :
    (standing.diagnostic? name).isSome = true ↔ b.Misses s name := by
  cases h with
  | unknown none => exact iff_of_true rfl (.inl none)
  | itself own => exact iff_of_true rfl (.inr ⟨b, hb, own, .inl rfl⟩)
  | circle ha called _ back => exact iff_of_true rfl (.inr ⟨_, ha, called, .inr back⟩)
  | pending ha called other oneWay _ =>
    exact iff_of_false Bool.false_ne_true (not_misses names ha called other oneWay)
  | ready ha called other oneWay _ =>
    exact iff_of_false Bool.false_ne_true (not_misses names ha called other oneWay)

theorem isPending_iff (hb : b ∈ s.blocks) :
    standing.isPending = true ↔
      ¬ b.Misses s name ∧ ∃ a ∈ s.blocks, a.Called name ∧ a.content = none := by
  rw [← isSome_diagnostic?_iff names h hb]
  cases h with
  | pending ha called _ _ empty => exact iff_of_true rfl ⟨Bool.false_ne_true, _, ha, called, empty⟩
  | ready ha called _ _ full =>
    refine iff_of_false Bool.false_ne_true ?_
    rintro ⟨-, c, hc, calledc, empty⟩
    rw [Called.eq names hc ha calledc called, full] at empty
    cases empty
  | _ => exact iff_of_false Bool.false_ne_true fun valid => valid.1 rfl

theorem eq_ready_iff (hb : b ∈ s.blocks) {id : BlockId} {content : Content} :
    standing = .ready id content ↔
      ¬ b.Misses s name ∧
        ∃ a ∈ s.blocks, a.Called name ∧ a.id = id ∧ a.content = some content := by
  rw [← isSome_diagnostic?_iff names h hb]
  cases h with
  | pending ha called _ _ empty =>
    refine iff_of_false nofun ?_
    rintro ⟨-, c, hc, calledc, -, full⟩
    rw [Called.eq names hc ha calledc called, empty] at full
    cases full
  | @ready a content' ha called _ _ full =>
    constructor
    · intro e
      cases e
      exact ⟨Bool.false_ne_true, a, ha, called, rfl, full⟩
    · rintro ⟨-, c, hc, calledc, rfl, fullc⟩
      rw [Called.eq names hc ha calledc called] at fullc ⊢
      rw [Option.some.inj (full.symm.trans fullc)]
  | _ => exact iff_of_false nofun fun valid => valid.1 rfl

theorem diagnostic?_eq_some_iff (hb : b ∈ s.blocks) {d : Diagnostic} :
    standing.diagnostic? name = some d ↔ d.name = name ∧ d.Holds s b := by
  constructor
  · intro given
    cases h with
    | unknown none => cases given; exact ⟨rfl, none⟩
    | itself own => cases given; exact ⟨rfl, own⟩
    | circle ha called other back => cases given; exact ⟨rfl, other, _, ha, rfl, called, back⟩
    | pending | ready => cases given
  · rintro ⟨rfl, holds⟩
    match d with
    | .unknown name =>
      cases h with
      | unknown => rfl
      | itself own => exact absurd own (holds b hb)
      | circle ha called | pending ha called | ready ha called =>
        exact absurd called (holds _ ha)
    | .itself name =>
      cases h with
      | unknown none => exact absurd holds (none b hb)
      | itself => rfl
      | circle ha called other | pending ha called other | ready ha called other =>
        exact absurd (congrArg _ (Called.eq names ha hb called holds)) other
    | .mutual name id =>
      obtain ⟨other, a, ha, rfl, called, back⟩ := holds
      cases h with
      | unknown none => exact absurd called (none a ha)
      | itself own => exact absurd (congrArg _ (Called.eq names ha hb called own)) other
      | circle hc calledc => rw [Called.eq names ha hc called calledc]; rfl
      | pending hc calledc _ oneWay | ready hc calledc _ oneWay =>
        exact absurd (Called.eq names ha hc called calledc ▸ back) oneWay

end Fits

end

/-! ## The lists of a resolution -/

theorem map_filterMap_eq_filter {α β : Type} {f : α → Option β} {g : β → α}
    (h : ∀ x y, f x = some y → g y = x) (xs : List α) :
    (xs.filterMap f).map g = xs.filter fun x => (f x).isSome := by
  induction xs with
  | nil => rfl
  | cons x xs ih =>
    cases e : f x with
    | none => rw [List.filterMap_cons_none e, List.filter_cons_of_neg (by simp [e]), ih]
    | some y =>
      rw [List.filterMap_cons_some e, List.filter_cons_of_pos (by simp [e]), List.map_cons, ih,
        h x y e]

/-- A list is sorted into three, if each element goes to one of them. -/
theorem perm_of_three {α : Type} {p q r : α → Bool} (hq : ∀ x, q x = true → p x = false)
    (hr : ∀ x, r x = (!p x && !q x)) (xs : List α) :
    (xs.filter p ++ xs.filter q ++ xs.filter r).Perm xs := by
  have second : xs.filter q = (xs.filter (!p ·)).filter q := by
    rw [List.filter_filter]
    refine List.filter_congr fun x _ => ?_
    cases e : q x with
    | false => rfl
    | true => rw [hq x e]; rfl
  have third : xs.filter r = (xs.filter (!p ·)).filter (!q ·) := by
    rw [List.filter_filter]
    exact List.filter_congr fun x _ => (hr x).trans (Bool.and_comm ..)
  rw [second, third, List.append_assoc]
  exact ((List.filter_append_perm q _).append_left _).trans (List.filter_append_perm p xs)

section
variable {s : Store} {g : Graph} {data self : String}

theorem name_of_diagnostic? {name : String} {standing : Standing} {d : Diagnostic}
    (h : standing.diagnostic? name = some d) : d.name = name := by
  cases standing <;> cases h <;> rfl

theorem name_of_available? {name : String} {standing : Standing} {a : Available}
    (h : standing.available? name = some a) : a.name = name := by
  cases standing <;> cases h
  rfl

theorem mem_diagnostics {d : Diagnostic} :
    d ∈ (s.resolve g data self).diagnostics ↔
      d.name ∈ distinctNames data ∧
        (s.standing g ((s.find? self).map (·.id)) d.name).diagnostic? d.name = some d := by
  simp only [resolve, List.filterMap_map, List.mem_filterMap, Function.comp_apply]
  constructor
  · rintro ⟨name, hn, given⟩
    rw [name_of_diagnostic? given]
    exact ⟨hn, given⟩
  · rintro ⟨hn, given⟩
    exact ⟨d.name, hn, given⟩

theorem invalid_resolve :
    (s.resolve g data self).invalid = (distinctNames data).filter fun name =>
      ((s.standing g ((s.find? self).map (·.id)) name).diagnostic? name).isSome := by
  simp only [resolve, List.filterMap_map]
  exact map_filterMap_eq_filter (fun name d => name_of_diagnostic?) _

theorem notReady_resolve :
    (s.resolve g data self).notReady = (distinctNames data).filter fun name =>
      (s.standing g ((s.find? self).map (·.id)) name).isPending := by
  simp only [resolve, List.filter_map, List.map_map]
  exact List.map_id _

theorem map_name_available :
    (s.resolve g data self).available.map (·.name) = (distinctNames data).filter fun name =>
      ((s.standing g ((s.find? self).map (·.id)) name).available? name).isSome := by
  simp only [resolve, List.filterMap_map]
  exact map_filterMap_eq_filter (fun name a => name_of_available?) _

theorem perm_distinctNames :
    ((s.resolve g data self).invalid ++ (s.resolve g data self).notReady ++
      (s.resolve g data self).available.map (·.name)).Perm (distinctNames data) := by
  rw [invalid_resolve, notReady_resolve, map_name_available]
  apply perm_of_three
  · intro name
    cases s.standing g ((s.find? self).map (·.id)) name <;> simp [Standing.isPending,
      Standing.diagnostic?]
  · intro name
    cases s.standing g ((s.find? self).map (·.id)) name <;> rfl

/-- A resolution is complete if every reference has been edited. -/
theorem isComplete_iff :
    (s.resolve g data self).isComplete = true ↔
      ∀ q ∈ references data, (q.edit? (s.resolve g data self).content?).isSome = true := by
  have edits : (∀ q ∈ references data,
      (q.edit? (s.resolve g data self).content?).isSome = true) ↔
        ∀ name ∈ referencedNames data,
          (s.standing g ((s.find? self).map (·.id)) name).content?.isSome = true := by
    rw [← map_name_references, List.forall_mem_map]
    refine forall₂_congr fun q hq => ?_
    rw [Reference.edit?, Option.isSome_map, content?_resolve]
    rw [← map_name_references]
    exact List.mem_map_of_mem hq
  rw [edits, Resolution.isComplete, invalid_resolve, notReady_resolve, Bool.and_eq_true,
    List.isEmpty_iff, List.isEmpty_iff, List.filter_eq_nil_iff, List.filter_eq_nil_iff]
  have sorted : ∀ name, (s.standing g ((s.find? self).map (·.id)) name).content?.isSome = true ↔
      ¬ ((s.standing g ((s.find? self).map (·.id)) name).diagnostic? name).isSome = true ∧
        ¬ (s.standing g ((s.find? self).map (·.id)) name).isPending = true := by
    intro name
    cases s.standing g ((s.find? self).map (·.id)) name <;>
      simp [Standing.content?, Standing.diagnostic?, Standing.isPending]
  constructor
  · rintro ⟨valid, there⟩ name hn
    obtain ⟨spelling, distinct, e⟩ := exists_mem_distinctNames.mpr ⟨name, hn, rfl⟩
    rw [← standing_eq_of_normalize_eq e]
    exact (sorted spelling).mpr ⟨valid spelling distinct, there spelling distinct⟩
  · intro all
    have both := fun name distinct =>
      (sorted name).mp (all name (mem_referencedNames_of_mem_distinctNames distinct))
    exact ⟨fun name distinct => (both name distinct).1, fun name distinct => (both name distinct).2⟩

end

section
variable {s : Store} (ids : (s.blocks.map (·.id)).Nodup)
  (names : (s.blocks.map fun b => Name.normalize b.name).Nodup) {b : Block} (hb : b ∈ s.blocks)

include ids names hb

theorem exists_block_of_mem_available {a : Available}
    (ha : a ∈ (s.resolve (.ofStore s) b.data b.name).available) :
    ∃ c ∈ s.blocks, c.Called a.name ∧ c.id = a.id ∧ c.id ≠ b.id := by
  obtain ⟨hn, standing⟩ := mem_available.mp ha
  have fits := standing_fits ids names hb (mem_referencedNames_of_mem_distinctNames hn)
  rw [standing] at fits
  generalize e : Standing.ready a.id a.content = ready at fits
  cases fits with
  | ready hc called other => exact ⟨_, hc, called, (Standing.ready.inj e).1.symm, other⟩
  | _ => cases e

theorem nodup_id_available :
    (b.id :: (s.resolve (.ofStore s) b.data b.name).available.map (·.id)).Nodup := by
  refine List.nodup_cons.mpr ⟨fun own => ?_, ?_⟩
  · obtain ⟨a, ha, e⟩ := List.mem_map.mp own
    obtain ⟨c, -, -, hid, other⟩ := exists_block_of_mem_available ids names hb ha
    exact other (hid.trans e)
  · have nodup : ((s.resolve (.ofStore s) b.data b.name).available.map (·.name)).Nodup := by
      rw [map_name_available]
      exact (List.Nodup.of_map _ (nodup_distinctNames b.data)).sublist List.filter_sublist
    refine nodup.of_map.map_on fun a ha a' ha' e => ?_
    obtain ⟨c, hc, called, hid, -⟩ := exists_block_of_mem_available ids names hb ha
    obtain ⟨c', hc', called', hid', -⟩ := exists_block_of_mem_available ids names hb ha'
    -- both names find the same block, so they are one name
    have block : c = c' := eq_of_nodup_map ids hc hc' ((hid.trans e).trans hid'.symm)
    obtain ⟨hn, standing⟩ := mem_available.mp ha
    obtain ⟨hn', standing'⟩ := mem_available.mp ha'
    have name : a.name = a'.name :=
      eq_of_nodup_map (nodup_distinctNames b.data) hn hn' (called.symm.trans (block ▸ called'))
    rw [name, standing'] at standing
    have content : a'.content = a.content := (Standing.ready.inj standing).2
    have id : a.id = a'.id := e
    show Available.mk a.name a.id a.content = ⟨a'.name, a'.id, a'.content⟩
    rw [name, id, content]

end

/-- The names that the text of a block mentions are classified by what the blocks of those names
are, and two blocks that mention each other are invalid to each other. -/
theorem resolve_classified {s : Store} (ids : (s.blocks.map (·.id)).Nodup)
    (names : (s.blocks.map fun b => Name.normalize b.name).Nodup) {b : Block} (hb : b ∈ s.blocks) :
    (s.resolve (.ofStore s) b.data b.name).Classified s b ∧
      ∀ a ∈ s.blocks, a.Mentions b → b.Mentions a →
        (∃ name ∈ (s.resolve (.ofStore s) b.data b.name).invalid, a.Called name) ∧
          ∃ name ∈ (s.resolve (.ofStore s) a.data a.name).invalid, b.Called name := by
  have fits : ∀ c ∈ s.blocks, ∀ name ∈ distinctNames c.data,
      s.Fits c name (s.standing (.ofStore s) ((s.find? c.name).map (·.id)) name) :=
    fun c hc name hn => standing_fits ids names hc (mem_referencedNames_of_mem_distinctNames hn)
  have invalid : ∀ c ∈ s.blocks, ∀ name ∈ distinctNames c.data,
      name ∈ (s.resolve (.ofStore s) c.data c.name).invalid ↔ c.Misses s name := by
    intro c hc name hn
    rw [invalid_resolve, List.mem_filter, (fits c hc name hn).isSome_diagnostic?_iff names hc]
    exact and_iff_right hn
  have missed : ∀ c ∈ s.blocks, ∀ a ∈ s.blocks, c.Mentions a → a.Mentions c →
      ∃ name ∈ (s.resolve (.ofStore s) c.data c.name).invalid, a.Called name := by
    intro c hc a ha forth back
    obtain ⟨name, hn, called⟩ := exists_mem_distinctNames.mpr forth
    exact ⟨name, (invalid c hc name hn).mpr (.inr ⟨a, ha, called.symm, .inr back⟩), called.symm⟩
  refine ⟨?_, fun a ha back forth => ⟨missed b hb a ha forth back, missed a ha b hb back forth⟩⟩
  exact {
    distinct := nodup_distinctNames b.data
    invalid_sublist := by
      rw [invalid_resolve]
      exact List.filter_sublist
    notReady_sublist := by
      rw [notReady_resolve]
      exact List.filter_sublist
    available_sublist := by
      rw [map_name_available]
      exact List.filter_sublist
    perm := perm_distinctNames
    invalid_iff := invalid b hb
    notReady_iff := fun name hn => by
      rw [notReady_resolve, List.mem_filter, (fits b hb name hn).isPending_iff names hb]
      exact and_iff_right hn
    available_iff := fun name hn id content => by
      rw [mem_available, (fits b hb name hn).eq_ready_iff names hb]
      exact and_iff_right hn
    diagnosed := rfl
    diagnostic_iff := fun d => by
      rw [mem_diagnostics]
      refine and_congr_right fun hn => ?_
      rw [(fits b hb d.name hn).diagnostic?_eq_some_iff names hb]
      exact and_iff_right rfl
    available_nodup := nodup_id_available ids names hb
    edited := utf8_text_resolve
    complete_iff := isComplete_iff }

set_option maxRecDepth 10000 in
/-- The text mentions a block that mentions it in turn, itself, a block without content, one with
content in two spellings, and a name that no block has. -/
theorem resolve_classified_beside_pair :
    let b : Block := { id := ⟨"3"⟩, name := "Gamma", kind := .static
                       data := "[BETA] #alpha [ gamma ] [empty] #absent [ ALPHA]" }
    let s : Store := { blocks := [
      { id := ⟨"1"⟩, name := " Alpha", kind := .static, content := some (.text "x") },
      { id := ⟨"2"⟩, name := "beta", kind := .static, data := "#gamma",
        content := some (.text "y") }, b,
      { id := ⟨"4"⟩, name := "empty", kind := .static }] }
    let r := s.resolve (.ofStore s) b.data b.name
    (s.blocks.map (·.id)).Nodup ∧ (s.blocks.map fun b => Name.normalize b.name).Nodup ∧
      b ∈ s.blocks ∧
      r = { hasReferences := true
            invalid := ["BETA", " gamma ", "absent"]
            notReady := ["empty"]
            available := [⟨"alpha", ⟨"1"⟩, .text "x"⟩]
            text := "[BETA] x [ gamma ] [empty] #absent x"
            diagnostics := [.mutual "BETA" ⟨"2"⟩, .itself " gamma ", .unknown "absent"] } ∧
      r.Classified s b := by
  intro b s r
  have ids : (s.blocks.map (·.id)).Nodup := by decide +kernel
  have names : (s.blocks.map fun b => Name.normalize b.name).Nodup := by decide +kernel
  have hb : b ∈ s.blocks := by decide +kernel
  exact ⟨ids, names, hb, by decide +kernel, (resolve_classified ids names hb).1⟩

end Store
end Workbook
