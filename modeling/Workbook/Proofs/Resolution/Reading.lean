import Workbook.Proofs.Store.Outline
import Workbook.Resolution

/-!
What a block reads.

A mention in a block's text stands for the content of another block, unless that block mentions the
first in turn (`reading_eq_some_iff`).  What a block resolves to is determined by its own text and
by what its mentions come to (`resolve_congr`), so between stores with the same ids, names and texts
it can only change along a link that is not mutual (`standing_eq_of_cards`); between alike stores
this is `resolve_eq_of_alike`.
-/

namespace Workbook

/-- The content that a mention of a name in the text of a block stands for, if there is any. -/
def Store.reading (s : Store) (b : Block) (name : String) : Option Content :=
  match s.standing (.ofStore s) ((s.find? b.name).map (·.id)) name with
  | .ready _ content => some content
  | _ => none

/-- The text of a block with its references resolved. -/
def Store.resolvedText (s : Store) (b : Block) : String :=
  (s.resolve (.ofStore s) b.data b.name).text

/-- The block's content was computed from its text as it resolves now, and with its transform. -/
def Block.IsCurrent (b : Block) (s : Store) : Prop :=
  b.input = some (s.resolvedText b) ∧ b.applied.getD "" = b.effectiveTransform.getD ""

/-- What stands in the resolved text in place of a piece. -/
def Piece.resolved (reading : String → Option Content) : Piece → List Char
  | .plain c => [c]
  | .mention m =>
    match reading m.text with
    | some content => content.asText.toList
    | none => m.written

namespace Store

theorem resolvedText_eq (s : Store) (b : Block) :
    s.resolvedText b = String.ofList ((pieces b.data).flatMap (Piece.resolved (s.reading b))) := by
  simp only [resolvedText, resolve]
  congr 2
  funext p
  cases p with
  | plain c => rfl
  | mention m =>
    simp only [Piece.resolved, reading]
    cases s.standing (.ofStore s) ((s.find? b.name).map (·.id)) m.text <;> rfl

theorem text_mem_referencedNames {text : String} {m : Mention} (h : .mention m ∈ pieces text) :
    m.text ∈ referencedNames text :=
  List.mem_filterMap.mpr ⟨.mention m, h, rfl⟩

/-- What a text resolves to is determined by the block that it is said to belong to and by what its
mentions come to. -/
theorem resolve_congr {s t : Store} {g k : Graph} {data self self' : String}
    (own : (t.find? self').map (·.id) = (s.find? self).map (·.id))
    (standings : ∀ name ∈ referencedNames data,
      t.standing k ((s.find? self).map (·.id)) name =
        s.standing g ((s.find? self).map (·.id)) name) :
    t.resolve k data self' = s.resolve g data self := by
  unfold resolve
  rw [own]
  generalize (s.find? self).map (·.id) = self? at standings
  have table : (distinctNames data).map (fun name => (name, t.standing k self? name)) =
      (distinctNames data).map fun name => (name, s.standing g self? name) := by
    refine List.map_congr_left fun name hn => ?_
    rw [standings name (mem_referencedNames_of_mem_distinctNames hn)]
  dsimp only
  rw [table]
  congr 2
  refine List.flatMap_congr fun p hp => ?_
  cases p with
  | plain c => rfl
  | mention m =>
    dsimp only
    rw [standings m.text (text_mem_referencedNames hp)]

/-- The resolved text is determined by the text and by what its mentions stand for. -/
theorem resolvedText_congr {s t : Store} {b c : Block} (hd : c.data = b.data)
    (hr : ∀ name ∈ referencedNames b.data, t.reading c name = s.reading b name) :
    t.resolvedText c = s.resolvedText b := by
  rw [resolvedText_eq, resolvedText_eq, hd]
  congr 1
  apply List.flatMap_congr
  intro p hp
  cases p with
  | plain c => rfl
  | mention m =>
    simp only [Piece.resolved]
    rw [hr m.text (text_mem_referencedNames hp)]

/-! ## What a mention stands for -/

theorem hasLink_of_name {s : Store} (h : s.Sound) {a b : Block} (ha : a ∈ s.blocks)
    (hb : b ∈ s.blocks) (hne : a.id ≠ b.id) {name : String} (hn : name ∈ referencedNames b.data)
    (e : Name.normalize a.name = Name.normalize name) :
    (Graph.ofStore s).hasLink a.id b.id = true :=
  Graph.hasLink_of_find? hb hn ((find?_eq_some_iff h).mpr ⟨ha, e⟩) hne

/-- A mention stands for the content of another block with that name, unless that block mentions
this one in turn. -/
theorem reading_eq_some_iff {s : Store} (h : s.Sound) {b : Block} (hb : b ∈ s.blocks)
    {name : String} (hn : name ∈ referencedNames b.data) {content : Content} :
    s.reading b name = some content ↔
      ∃ a ∈ s.blocks, a.id ≠ b.id ∧ Name.normalize a.name = Name.normalize name ∧
        ¬ a.Mentions b ∧ a.content = some content := by
  unfold reading standing
  rw [h.find? hb]
  cases hf : s.find? name with
  | none =>
    simp only [reduceCtorEq, false_iff]
    intro given
    obtain ⟨a, ha, -, e, -⟩ := given
    rw [(find?_eq_some_iff h).mpr ⟨ha, e⟩] at hf
    cases hf
  | some a =>
    obtain ⟨ha, e⟩ := (find?_eq_some_iff h).mp hf
    have unique : ∀ c ∈ s.blocks, Name.normalize c.name = Name.normalize name → c = a := by
      intro c hc ec
      exact h.eq_of_name_eq hc ha (ec.trans e.symm)
    simp only [Option.map_some, Option.any_some]
    by_cases hid : a.id = b.id
    · rw [if_pos (congrArg some hid)]
      simp only [reduceCtorEq, false_iff]
      intro given
      obtain ⟨c, hc, hne, ec, -⟩ := given
      exact hne (unique c hc ec ▸ hid)
    · have hlink := hasLink_of_name h ha hb hid hn e
      have hback := Graph.hasLink_ofStore h hb ha
      rw [if_neg fun e => hid (Option.some.inj e)]
      simp only [hlink, Bool.and_true]
      by_cases hm : a.Mentions b
      · rw [if_pos (hback.mpr ⟨Ne.symm hid, hm⟩)]
        simp only [reduceCtorEq, false_iff]
        intro given
        obtain ⟨c, hc, -, ec, hnot, -⟩ := given
        exact hnot (unique c hc ec ▸ hm)
      · rw [if_neg fun hl => hm (hback.mp hl).2]
        constructor
        · intro hc
          refine ⟨a, ha, hid, e, hm, ?_⟩
          cases hcontent : a.content with
          | none => simp [hcontent] at hc
          | some c => simpa [hcontent] using hc
        · intro given
          obtain ⟨c, hc, -, ec, -, hcontent⟩ := given
          rw [unique c hc ec] at hcontent
          simp [hcontent]

/-! ## Stores with the same ids, names and texts -/

section
variable {s t : Store} (cards : t.blocks.map Block.card = s.blocks.map Block.card)

include cards

theorem card_eq_of_mem_zip {a d : Block} (h : (a, d) ∈ s.blocks.zip t.blocks) :
    d.card = a.card := by
  obtain ⟨i, hi⟩ := List.mem_iff_getElem?.mp h
  obtain ⟨ha, hd⟩ := List.getElem?_zip_eq_some.mp hi
  have same := congrArg (·[i]?) cards
  simp only [List.getElem?_map, ha, hd, Option.map_some, Option.some.injEq] at same
  exact same

/-- A name finds blocks at the same place. -/
theorem find?_of_cards (name : String) :
    (s.find? name = none ∧ t.find? name = none) ∨
      ∃ a d, s.find? name = some a ∧ t.find? name = some d ∧ (a, d) ∈ s.blocks.zip t.blocks := by
  simp only [find?]
  generalize s.blocks = xs at cards
  generalize t.blocks = ys at cards
  induction xs generalizing ys with
  | nil =>
    rw [List.map_nil, List.map_eq_nil_iff] at cards
    exact .inl ⟨rfl, by rw [cards]; rfl⟩
  | cons a xs ih =>
    cases ys with
    | nil => cases cards
    | cons d ys =>
      simp only [List.map_cons, List.cons.injEq, Block.card, Prod.mk.injEq] at cards
      obtain ⟨⟨-, ename, -⟩, rest⟩ := cards
      have there : (Name.normalize d.name == Name.normalize name) =
          (Name.normalize a.name == Name.normalize name) := by rw [ename]
      rw [List.zip_cons_cons]
      simp only [List.find?_cons, there]
      cases Name.normalize a.name == Name.normalize name with
      | true => exact .inr ⟨a, d, rfl, rfl, List.mem_cons_self ..⟩
      | false =>
        refine (ih ys rest).imp_right ?_
        rintro ⟨a, d, ha, hd, mem⟩
        exact ⟨a, d, ha, hd, List.mem_cons_of_mem _ mem⟩

theorem map_id_find?_of_cards (name : String) :
    (t.find? name).map (·.id) = (s.find? name).map (·.id) := by
  rcases find?_of_cards cards name with ⟨hs, ht⟩ | ⟨a, d, ha, hd, mem⟩
  · rw [hs, ht]
  · rw [ha, hd]
    exact congrArg (fun c : BlockId × String × String => some c.1) (card_eq_of_mem_zip cards mem)

/-- What a mention comes to changes only with the content of a block that the text's own block
mentions and that does not mention it in turn. -/
theorem standing_eq_of_cards {b : Block} (hb : b ∈ s.blocks)
    (same : ∀ a d, (a, d) ∈ s.blocks.zip t.blocks → (Graph.ofStore s).hasLink a.id b.id = true →
      (Graph.ofStore s).hasLink b.id a.id = false → d.content = a.content)
    {name : String} (hn : name ∈ referencedNames b.data) :
    t.standing (.ofStore t) (some b.id) name = s.standing (.ofStore s) (some b.id) name := by
  unfold standing
  rw [Graph.ofStore_congr cards]
  rcases find?_of_cards cards name with ⟨hs, ht⟩ | ⟨a, d, ha, hd, mem⟩
  · rw [hs, ht]
  · rw [ha, hd]
    have hid : d.id = a.id := congrArg (·.1) (card_eq_of_mem_zip cards mem)
    dsimp only
    rw [hid]
    split
    case isTrue => rfl
    case isFalse other =>
      have forth : (Graph.ofStore s).hasLink a.id b.id = true :=
        Graph.hasLink_of_find? hb hn ha fun e => other (congrArg some e)
      split
      case isTrue => rfl
      case isFalse oneWay =>
        have back : (Graph.ofStore s).hasLink b.id a.id = false := by
          simpa [forth] using oneWay
        rw [same a d mem forth back]

end

/-! ## Alike stores -/

/-- The content of the block with an id. -/
def contentOf? (s : Store) (id : BlockId) : Option Content := (s.get? id).bind (·.content)

theorem contentOf?_of_mem {s : Store} (h : s.Sound) {b : Block} (hb : b ∈ s.blocks) :
    s.contentOf? b.id = b.content := by
  rw [contentOf?, h.get? hb]
  rfl

theorem contentOf?_congr {s t : Store} {id : BlockId} (h : t.get? id = s.get? id) :
    t.contentOf? id = s.contentOf? id := by
  rw [contentOf?, h, contentOf?]

theorem contentOf?_modify {s : Store} {id x : BlockId} {f : Block → Block}
    (hf : ∀ b, (f b).id = b.id) (hc : ∀ b, (f b).content = b.content) :
    (s.modify id f).contentOf? x = s.contentOf? x := by
  rw [contentOf?, get?_modify hf, contentOf?]
  cases s.get? x with
  | none => rfl
  | some b =>
    show (if b.id = id then f b else b).content = b.content
    split
    · exact hc b
    · rfl

section
variable {s t : Store} (hs : s.Sound) (h : t.Alike s) {b c : Block} (hb : b ∈ s.blocks)
  (same : ∀ a, (Graph.ofStore s).hasLink a b.id = true →
    (Graph.ofStore s).hasLink b.id a = false → t.contentOf? a = s.contentOf? a)

include hs h hb same

/-- What a block resolves to changes only with the content of a block that it mentions and that does
not mention it in turn. -/
theorem resolve_eq_of_alike (e : c.outline = b.outline) :
    t.resolve (.ofStore t) c.data c.name = s.resolve (.ofStore s) b.data b.name := by
  have cards : t.blocks.map Block.card = s.blocks.map Block.card :=
    h.map_eq Block.card fun _ => rfl
  have self : (s.find? b.name).map (·.id) = some b.id := by
    rw [hs.find? hb]
    rfl
  have contents : ∀ a d, (a, d) ∈ s.blocks.zip t.blocks →
      (Graph.ofStore s).hasLink a.id b.id = true → (Graph.ofStore s).hasLink b.id a.id = false →
      d.content = a.content := by
    intro a d mem forth back
    have hid : d.id = a.id := congrArg (·.1) (card_eq_of_mem_zip cards mem)
    have content := same a.id forth back
    rw [contentOf?_of_mem hs (List.of_mem_zip mem).1, ← hid,
      contentOf?_of_mem (h.sound hs) (List.of_mem_zip mem).2] at content
    exact content
  rw [Block.data_eq_of_outline e, Block.name_eq_of_outline e]
  refine resolve_congr (map_id_find?_of_cards cards b.name) fun name hn => ?_
  rw [self]
  exact standing_eq_of_cards cards hb contents hn

theorem resolvedText_eq_of_alike (e : c.outline = b.outline) :
    t.resolvedText c = s.resolvedText b :=
  congrArg Resolution.text (resolve_eq_of_alike hs h hb same e)

end

end Store

/-- A block that is left alone stays current while what it reads is the same. -/
theorem Block.IsCurrent.of_alike {s t : Store} {b : Block} (h : b.IsCurrent s) (hs : s.Sound)
    (ht : t.Alike s) (hb : s.get? b.id = some b)
    (same : ∀ a, (Graph.ofStore s).hasLink a b.id = true →
      (Graph.ofStore s).hasLink b.id a = false → t.contentOf? a = s.contentOf? a) :
    b.IsCurrent t := by
  have e : t.resolvedText b = s.resolvedText b :=
    Store.resolvedText_eq_of_alike hs ht (Store.mem_of_get? hb).1 same rfl
  rw [Block.IsCurrent, e]
  exact h
end Workbook
