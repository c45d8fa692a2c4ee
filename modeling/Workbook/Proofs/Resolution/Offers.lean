import Workbook.Proofs.Graph.Acyclic
import Workbook.Proofs.Resolution.Reading

/-!
What a block reads where no blocks mention each other in a circle.

There a mention stands for the content of whatever other block has the name
(`reading_eq_some_iff_offers`), so the resolved text of a block is the same in two such stores if
they offer it the same content under the names that it mentions (`resolvedText_eq_of_offers`).
-/

namespace Workbook
namespace Store

/-- Some block other than `x` has the name, and the content. -/
def Offers (s : Store) (x : BlockId) (name : String) (content : Content) : Prop :=
  ∃ a ∈ s.blocks, a.id ≠ x ∧ Name.normalize a.name = Name.normalize name ∧
    a.content = some content

variable {s t : Store}

theorem reading_eq_some_iff_offers (h : s.Sound) (ha : (Graph.ofStore s).Acyclic) {b : Block}
    (hb : b ∈ s.blocks) {name : String} (hn : name ∈ referencedNames b.data) {content : Content} :
    s.reading b name = some content ↔ s.Offers b.id name content := by
  rw [reading_eq_some_iff h hb hn]
  constructor
  · intro given
    obtain ⟨a, hmem, hne, e, -, hc⟩ := given
    exact ⟨a, hmem, hne, e, hc⟩
  · intro given
    obtain ⟨a, hmem, hne, e, hc⟩ := given
    refine ⟨a, hmem, hne, e, fun hm => ?_, hc⟩
    have forth := hasLink_of_name h hmem hb hne hn e
    exact ha.not_hasLink_back forth ((Graph.hasLink_ofStore h hb hmem).mpr ⟨Ne.symm hne, hm⟩)

theorem resolvedText_eq_of_offers (hs : s.Sound) (ht : t.Sound) (has : (Graph.ofStore s).Acyclic)
    (hat : (Graph.ofStore t).Acyclic) {b c : Block} (hb : b ∈ s.blocks) (hc : c ∈ t.blocks)
    (hd : c.data = b.data)
    (offers : ∀ name ∈ referencedNames b.data, ∀ content,
      t.Offers c.id name content ↔ s.Offers b.id name content) :
    t.resolvedText c = s.resolvedText b := by
  apply resolvedText_congr hd
  intro name hn
  apply Option.ext
  intro content
  rw [reading_eq_some_iff_offers hs has hb hn,
    reading_eq_some_iff_offers ht hat hc (hd ▸ hn)]
  exact offers name hn content

/-! ## What edits change of it -/

theorem offers_congr_of_perm (h : t.blocks.Perm s.blocks) {x : BlockId} {name : String}
    {content : Content} : t.Offers x name content ↔ s.Offers x name content := by
  simp only [Offers, h.mem_iff]

theorem offers_modify {id : BlockId} {f : Block → Block} (hi : ∀ b, (f b).id = b.id)
    (hn : ∀ b, (f b).name = b.name) (hc : ∀ b, (f b).content = b.content) {x : BlockId}
    {name : String} {content : Content} :
    (s.modify id f).Offers x name content ↔ s.Offers x name content := by
  constructor
  · intro given
    obtain ⟨a, ha, h⟩ := given
    obtain ⟨b, hb, rfl⟩ := mem_modify.mp ha
    refine ⟨b, hb, ?_⟩
    split at h
    · rwa [hi, hn, hc] at h
    · exact h
  · intro given
    obtain ⟨b, hb, h⟩ := given
    refine ⟨_, mem_modify.mpr ⟨b, hb, rfl⟩, ?_⟩
    split
    · rwa [hi, hn, hc]
    · exact h

/-- A change to a block does not matter to those that mention neither the name that it had nor the
one that it has. -/
theorem offers_modify_of_ne {id : BlockId} {f : Block → Block} (hi : ∀ b, (f b).id = b.id)
    {x : BlockId} {name : String} {content : Content}
    (hne : ∀ b ∈ s.blocks, b.id = id → x = id ∨ (Name.normalize b.name ≠ Name.normalize name ∧
      Name.normalize (f b).name ≠ Name.normalize name)) :
    (s.modify id f).Offers x name content ↔ s.Offers x name content := by
  constructor
  · intro given
    obtain ⟨a, ha, h⟩ := given
    obtain ⟨b, hb, rfl⟩ := mem_modify.mp ha
    split at h
    case isTrue e =>
      rw [hi] at h
      rcases hne b hb e with rfl | hne
      · exact absurd e h.1
      · exact absurd h.2.1 hne.2
    case isFalse => exact ⟨b, hb, h⟩
  · intro given
    obtain ⟨b, hb, h⟩ := given
    refine ⟨b, mem_modify.mpr ⟨b, hb, ?_⟩, h⟩
    split
    case isTrue e =>
      rcases hne b hb e with rfl | hne
      · exact absurd e h.1
      · exact absurd h.2.1 hne.1
    case isFalse => rfl

/-- A block more does not matter to those that do not mention its name. -/
theorem offers_cons {b : Block} (h : t.blocks.Perm (b :: s.blocks)) {x : BlockId} {name : String}
    {content : Content} (hne : Name.normalize b.name ≠ Name.normalize name) :
    t.Offers x name content ↔ s.Offers x name content := by
  simp only [Offers, h.mem_iff, List.mem_cons, or_and_right, exists_or, exists_eq_left]
  exact or_iff_right fun h => hne h.2.1

end Store
end Workbook
