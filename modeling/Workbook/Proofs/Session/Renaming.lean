import Workbook.Proofs.Batch.Recorded
import Workbook.Proofs.Session.Concerned
import Workbook.Proofs.Session.UpToDate

/-!
Renaming a block.

A renaming matters to the blocks that mention the old name or the new one, which are the seeds of
its batch.  It can matter to the renamed block too: whether it reads the content of a block that it
mentions depends on whether that one mentions it in turn, so by its name.  The renamed block is no
seed.  It is computed if such a block gets new content, but not if that block is as it was
(`current_after_rename`).
-/

namespace Workbook

def Block.renamed (name : String) (b : Block) : Block := { b with name }

namespace Store

variable {s : Store} {id : BlockId} {name : String} {b : Block}

/-- After a change to one block there are the others and what became of it. -/
theorem mem_modify_cases {f : Block → Block} :
    b ∈ (s.modify id f).blocks ↔
      (b ∈ s.blocks ∧ b.id ≠ id) ∨ ∃ a ∈ s.blocks, a.id = id ∧ b = f a := by
  rw [mem_modify]
  constructor
  · rintro ⟨a, ha, rfl⟩
    by_cases hid : a.id = id
    · rw [if_pos hid]
      exact .inr ⟨a, ha, hid, rfl⟩
    · rw [if_neg hid]
      exact .inl ⟨ha, hid⟩
  · rintro (⟨hb, hid⟩ | ⟨a, ha, hid, rfl⟩)
    · exact ⟨b, hb, (if_neg hid).symm⟩
    · exact ⟨a, ha, (if_pos hid).symm⟩

/-- What a block resolves to is the same under a new name of another block if it mentions neither
this name nor the old one. -/
theorem resolvedText_rename_of_ne (hs : s.Sound) (ht : (s.modify id (.renamed name)).Sound)
    (hb : b ∈ s.blocks) (hne : b.id ≠ id)
    (silent : ∀ a ∈ s.blocks, a.id = id → ¬ b.Mentions a ∧ ¬ b.Mentions (a.renamed name)) :
    (s.modify id (.renamed name)).resolvedText b = s.resolvedText b := by
  refine resolvedText_congr rfl fun mention hn => Option.ext fun content => ?_
  rw [reading_eq_some_iff ht (mem_modify_ne hb hne) hn, reading_eq_some_iff hs hb hn]
  constructor
  · rintro ⟨a, ha, other, called, rest⟩
    rcases mem_modify_cases.mp ha with ⟨ha, -⟩ | ⟨d, hd, hid, rfl⟩
    · exact ⟨a, ha, other, called, rest⟩
    · exact absurd ⟨mention, hn, called.symm⟩ (silent d hd hid).2
  · rintro ⟨a, ha, other, called, rest⟩
    have hid : a.id ≠ id := fun hid => (silent a ha hid).1 ⟨mention, hn, called.symm⟩
    exact ⟨a, mem_modify_ne ha hid, other, called, rest⟩

/-- What a block resolves to is the same under a new name of its own if of the blocks with content
that it mentions the same ones mention it in turn. -/
theorem resolvedText_rename_self (hs : s.Sound) (ht : (s.modify b.id (.renamed name)).Sound)
    (hb : b ∈ s.blocks)
    (same : ∀ a ∈ s.blocks, a.id ≠ b.id → b.Mentions a → a.content ≠ none →
      (a.Mentions b ↔ a.Mentions (b.renamed name))) :
    (s.modify b.id (.renamed name)).resolvedText (b.renamed name) = s.resolvedText b := by
  refine resolvedText_congr rfl fun mention hn => Option.ext fun content => ?_
  rw [reading_eq_some_iff ht (mem_modify_self hb) hn, reading_eq_some_iff hs hb hn]
  have back : ∀ a ∈ s.blocks, a.id ≠ b.id → Name.normalize a.name = Name.normalize mention →
      a.content = some content → (a.Mentions b ↔ a.Mentions (b.renamed name)) := by
    intro a ha other called hc
    exact same a ha other ⟨mention, hn, called.symm⟩ (hc ▸ Option.some_ne_none _)
  constructor
  · rintro ⟨a, ha, other, called, unmentioned, hc⟩
    rcases mem_modify_cases.mp ha with ⟨ha, -⟩ | ⟨d, hd, hid, rfl⟩
    · exact ⟨a, ha, other, called, mt (back a ha other called hc).mp unmentioned, hc⟩
    · exact absurd hid other
  · rintro ⟨a, ha, other, called, unmentioned, hc⟩
    exact ⟨a, mem_modify_ne ha other, other, called, mt (back a ha other called hc).mpr unmentioned,
      hc⟩

end Store

/-- What the block reads hinges on its name: some other block with content that it mentions would
mention it in turn under just one of the name that it has and the one that is given. -/
def Block.Hinges (b : Block) (s : Store) (name : String) : Prop :=
  ∃ a ∈ s.blocks, a.id ≠ b.id ∧ b.Mentions a ∧ a.content ≠ none ∧
    ¬ (a.Mentions b ↔ a.Mentions (b.renamed name))

/-- Where all blocks that were ever computed are current, one that mentions neither name of a block
that is renamed stays so, and this block itself does unless what it reads hinges on its name. -/
theorem Store.current_renamed {s : Store} {id : BlockId} {name : String} (hs : s.Sound)
    (ht : (s.modify id (.renamed name)).Sound)
    (current : ∀ b ∈ s.blocks, b.kind.recomputes = true → b.input ≠ none → b.IsCurrent s)
    {c : Block} (hc : c ∈ (s.modify id (.renamed name)).blocks)
    (silent : c.id ≠ id → ∀ a ∈ s.blocks, a.id = id →
      ¬ c.Mentions a ∧ ¬ c.Mentions (a.renamed name))
    (hk : c.kind.recomputes = true) (hi : c.input ≠ none) :
    c.IsCurrent (s.modify id (.renamed name)) ∨
      c.id = id ∧ ∃ b ∈ s.blocks, c = b.renamed name ∧ b.Hinges s name := by
  rcases mem_modify_cases.mp hc with ⟨hb, hne⟩ | ⟨b, hb, rfl, rfl⟩
  · obtain ⟨input, applied⟩ := current c hb hk hi
    refine .inl ⟨?_, applied⟩
    rw [resolvedText_rename_of_ne hs ht hb hne (silent hne)]
    exact input
  · obtain ⟨input, applied⟩ := current b hb hk hi
    by_cases hinges : b.Hinges s name
    · exact .inr ⟨rfl, b, hb, rfl, hinges⟩
    · refine .inl ⟨?_, applied⟩
      rw [resolvedText_rename_self hs ht hb fun a ha other forth hcontent =>
        Classical.byContradiction fun differs => hinges ⟨a, ha, other, forth, hcontent, differs⟩]
      exact input

namespace Session

variable {s : Session}

/-- A renaming goes on with a batch over the blocks that it concerns.  If all requests on the way
are answered with content, the batch reports a cycle, or the blocks that were current are so again.
Only the renamed block itself may be left as it was but for its name, and not be current any more,
if what it reads hinges on that. -/
theorem current_after_rename (h : s.Reachable) (backend : Backend) {id : BlockId}
    {name applied : String} (renames : (s.rename backend id name).1 = .ok applied)
    (current : ∀ b ∈ s.store.blocks, b.kind.recomputes = true → b.input ≠ none →
      b.IsCurrent s.store)
    (answered : ∀ r time, .asked r time ∈
        (s.perform backend (.command (.rename id name))).journal.drop s.journal.length →
      ∃ content, backend.answer r = .ok content) :
    let t := s.perform backend (.command (.rename id name))
    let batch := s.regraph.adoptName id (s.store.modify id (.renamed applied))
    Batches backend s (.command (.rename id name)) id batch.1 batch.2 ∧
      ((∃ c, (batch.1.propagate backend batch.2 false).1.cycle = some c ∧
        (s.watched = true →
          .emitted (.cycleDetected c.involved) ∈ t.journal.drop s.journal.length)) ∨
      ∀ c ∈ t.store.blocks, c.kind.recomputes = true → c.input ≠ none → c.IsCurrent t.store ∨
        (c.id = id ∧ ∃ b ∈ s.store.blocks, c = b.renamed applied ∧
          b.Hinges s.store applied)) := by
  intro t batch
  have hs := h.sound
  have batches : Batches backend s (.command (.rename id name)) id batch.1 batch.2 :=
    batches_rename hs renames
  refine ⟨batches, ?_⟩
  let renamed : Session := { s.regraph with store := s.store.modify id (.renamed applied) }
  have store : batch.1.store = s.store.modify id (.renamed applied) :=
    store_graphChanged_save renamed
  have same : batch.1.watched = s.watched := watched_graphChanged_save renamed
  obtain ⟨more, journal⟩ : ∃ more, batch.1.journal = s.journal ++ more :=
    journal_graphChanged_save renamed
  have e : t = (batch.1.propagate backend batch.2 false).2 := batches.perform_eq
  obtain ⟨new, goesOn, failed, cycle⟩ :=
    Batch.propagate_recorded batches.sound backend batch.2 false
  have since : t.journal.drop s.journal.length = more ++ new := by
    rw [e, goesOn, journal, List.append_assoc, List.drop_left]
  cases quiet : (batch.1.propagate backend batch.2 false).1.cycle with
  | some c =>
    refine .inl ⟨c, rfl, fun watched => ?_⟩
    rw [since]
    exact List.mem_append_right _ (cycle c quiet (same.trans watched))
  | none =>
    have unfailed : (batch.1.propagate backend batch.2 false).1.failed = [] := by
      refine List.eq_nil_iff_forall_not_mem.mpr fun p hp => ?_
      obtain ⟨r, time, asked, refused⟩ := failed p hp
      obtain ⟨content, answer⟩ := answered r time (since ▸ List.mem_append_right _ asked)
      rw [answer] at refused
      cases refused
    right
    intro c hc hk hi
    rw [e] at hc ⊢
    by_cases hx : c.id ∈ (batch.1.propagate backend batch.2 false).1.settled
    · exact .inl (isCurrent_of_settled batches.sound quiet unfailed hc hk hx)
    · obtain ⟨unseeded, before, stays⟩ := isCurrent_of_unsettled batches.sound quiet hc hx
      have unconcerned := mt (batches.mem_ids c.id).mpr unseeded
      have mem := (Store.mem_of_get? before).1
      rw [store] at mem
      have ht : (s.store.modify id (.renamed applied)).Sound := store ▸ batches.sound
      refine (Store.current_renamed hs ht current mem (fun hne a ha hid => ?_) hk hi).imp_left
        fun given => stays (store ▸ given)
      have found : s.store.get? id = some a := hid ▸ hs.get? ha
      have renamed : batch.1.store.get? id = some (a.renamed applied) := by
        rw [store]
        exact Store.get?_modify_self (fun _ => rfl) found
      exact ⟨fun hm => unconcerned (.mentioned hne found (batches.others c.id hne ▸ before) hm),
        fun hm => unconcerned (.mentions hne renamed before hm)⟩

/-- Two blocks that mention each other, and one that mentions a name that no block has. -/
def pair : Session :=
  let backend : Backend := { answer := fun r => .ok (.text r.input) }
  (ofTexts [(.static, "a", "!"), (.static, "b", "[a]"), (.static, "c", "[d]")]).perform backend
    (.command (.editData ⟨"9e3779b9"⟩ "[b]"))

theorem reachable_pair : pair.Reachable := by
  unfold pair
  exact .perform (reachable_ofTexts _) _ _ trivial trivial

/-- The first of them gets that name. -/
def pairRenamed : Session :=
  let backend : Backend := { answer := fun r => .ok (.text r.input) }
  pair.perform backend (.command (.rename ⟨"9e3779b9"⟩ "d"))

theorem renames_pair :
    let backend : Backend := { answer := fun r => .ok (.text r.input) }
    let new := pairRenamed.journal.drop pair.journal.length
    (pair.rename backend ⟨"9e3779b9"⟩ "d").1 = .ok "d" ∧
      (∀ b ∈ pair.store.blocks, b.kind.recomputes = true → b.input ≠ none →
        b.IsCurrent pair.store) ∧
      (∀ r time, .asked r time ∉ new) ∧ ∀ ids, .emitted (.cycleDetected ids) ∉ new := by
  intro backend new
  have outcome : (pair.rename backend ⟨"9e3779b9"⟩ "d").1 = .ok "d" ∧
      (∀ b ∈ pair.store.blocks, b.input = some (pair.store.resolvedText b) ∧
        b.applied.getD "" = b.effectiveTransform.getD "") ∧
      ∀ m ∈ new, m.request? = none ∧ m.cycle? = none := by decide +kernel
  obtain ⟨renames, current, silent⟩ := outcome
  refine ⟨renames, fun b hb _ _ => current b hb, fun r time asked => ?_, fun ids told => ?_⟩
  · cases (silent _ asked).1
  · cases (silent _ told).2

/-- No cycle is reported, and the block that mentions the new name is current again; but the renamed
block could read the other one of the pair now, and does not. -/
theorem stale_in_renamed_pair :
    let backend : Backend := { answer := fun r => .ok (.text r.input) }
    let t := pairRenamed
    pair.Reachable ∧ (pair.rename backend ⟨"9e3779b9"⟩ "d").1 = .ok "d" ∧
      (∀ b ∈ pair.store.blocks, b.kind.recomputes = true → b.input ≠ none →
        b.IsCurrent pair.store) ∧
      (∃ c ∈ t.store.blocks, c.data = "[d]" ∧ c.input = some "[b]" ∧ c.IsCurrent t.store) ∧
      ∃ b ∈ pair.store.blocks, b.renamed "d" ∈ t.store.blocks ∧ b.Hinges pair.store "d" ∧
        ¬ (b.renamed "d").IsCurrent t.store := by
  intro backend t
  obtain ⟨renames, current, unasked, untold⟩ := renames_pair
  have watched : pair.watched = true := by decide +kernel
  have blocks : (∃ c ∈ t.store.blocks, c.id ≠ ⟨"9e3779b9"⟩ ∧ c.kind.recomputes = true ∧
        c.data = "[d]" ∧ c.input = some "[b]") ∧
      ∃ c ∈ t.store.blocks, c.id = ⟨"9e3779b9"⟩ ∧ c.kind.recomputes = true ∧
        c.input = some "[b]" ∧ t.store.resolvedText c = "[a]" := by decide +kernel
  obtain ⟨⟨c, hc, other, hk, data, input⟩, r, hr, self, hk', input', text⟩ := blocks
  obtain ⟨-, outcome⟩ := current_after_rename reachable_pair backend renames current
    fun r time asked => absurd asked (unasked r time)
  have after := outcome.resolve_left fun ⟨c, _, told⟩ => untold c.involved (told watched)
  rw [show pair.perform backend (.command (.rename ⟨"9e3779b9"⟩ "d")) = t from rfl] at after
  refine ⟨reachable_pair, renames, current, ⟨c, hc, data, input, ?_⟩, ?_⟩
  · exact (after c hc hk (input ▸ Option.some_ne_none _)).resolve_right fun given => other given.1
  · have stale : ¬ r.IsCurrent t.store := by
      rintro ⟨e, -⟩
      rw [input', text] at e
      exact absurd (Option.some.inj e) (by decide)
    obtain ⟨-, b, hb, rfl, hinges⟩ :=
      (after r hr hk' (input' ▸ Option.some_ne_none _)).resolve_left stale
    exact ⟨b, hb, hr, hinges, stale⟩

/-- So it is not so that blocks that were current are so again after every renaming that succeeds
and reports no cycle. -/
theorem not_all_current_after_rename :
    ¬ ∀ (s : Session) (backend : Backend) (id : BlockId) (name applied : String), s.Reachable →
      s.parking.ids = [] → s.watched = true → (s.rename backend id name).1 = .ok applied →
      (∀ b ∈ s.store.blocks, b.kind.recomputes = true → b.input ≠ none → b.IsCurrent s.store) →
      (∀ r time, .asked r time ∈
          (s.perform backend (.command (.rename id name))).journal.drop s.journal.length →
        ∃ content, backend.answer r = .ok content) →
      (∃ ids, .emitted (.cycleDetected ids) ∈
        (s.perform backend (.command (.rename id name))).journal.drop s.journal.length) ∨
      ∀ c ∈ (s.perform backend (.command (.rename id name))).store.blocks,
        c.kind.recomputes = true → c.input ≠ none →
        c.input = some ((s.perform backend (.command (.rename id name))).store.resolvedText c) := by
  intro all
  let backend : Backend := { answer := fun r => .ok (.text r.input) }
  obtain ⟨renames, current, unasked, untold⟩ := renames_pair
  have outcome : pair.parking.ids = [] ∧ pair.watched = true ∧
      ∃ c ∈ pairRenamed.store.blocks, c.kind.recomputes = true ∧ c.input ≠ none ∧
        c.input ≠ some (pairRenamed.store.resolvedText c) := by decide +kernel
  obtain ⟨empty, watched, c, hc, hk, hi, stale⟩ := outcome
  rcases all pair backend ⟨"9e3779b9"⟩ "d" "d" reachable_pair empty watched renames current
    fun r time asked => absurd asked (unasked r time) with ⟨ids, told⟩ | texts
  · exact untold ids told
  · rw [show pair.perform backend (.command (.rename ⟨"9e3779b9"⟩ "d")) = pairRenamed from rfl]
      at texts
    exact stale (texts c hc hk hi)

end Session
end Workbook
