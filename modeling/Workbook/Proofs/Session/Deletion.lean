import Workbook.Proofs.Session.Dangling

/-!
What deleting a block does to the others.

The blocks that mentioned the deleted one are found in the graph as it was, and their references
resolved in the store that is left.  No block of that store has the name any more, since names are
apart, so each of them has an invalid reference; and as marking one of them changes no reference of
another, each is marked for what it would be marked for by itself (`foldl_recheck`).  Nothing
else changes (`delete_flags`).
-/

namespace Workbook

/-- The references of a block that are invalid in the store. -/
def Store.invalid (s : Store) (b : Block) : List String :=
  (s.resolve (.ofStore s) b.data b.name).invalid

/-- The text with which a block is marked for its invalid references. -/
def Store.complaint (s : Store) (b : Block) : String :=
  "invalid references: " ++ ", ".intercalate (s.invalid b)

namespace Store

variable {s t : Store}

/-! ## Taking out -/

theorem eraseP_eq_filter {blocks : List Block} (h : (blocks.map (·.id)).Nodup) (id : BlockId) :
    blocks.eraseP (·.id == id) = blocks.filter (·.id != id) := by
  induction blocks with
  | nil => rfl
  | cons b blocks ih =>
    obtain ⟨hb, hblocks⟩ := List.nodup_cons.mp h
    by_cases e : b.id = id
    · have others : ∀ c ∈ blocks, (c.id != id) = true := by
        intro c hc
        rw [bne_iff_ne, ← e]
        exact fun same => hb (List.mem_map.mpr ⟨c, hc, same⟩)
      rw [List.eraseP_cons_of_pos (by simpa using e), List.filter_cons_of_neg (by simpa using e),
        List.filter_eq_self.mpr others]
    · rw [List.eraseP_cons_of_neg (by simpa using e), List.filter_cons_of_pos (by simpa using e),
        ih hblocks]

/-- The store without a block. -/
def without (s : Store) (id : BlockId) : Store :=
  { s with blocks := s.blocks.filter (·.id != id) }

theorem mem_without {id : BlockId} {b : Block} :
    b ∈ (s.without id).blocks ↔ b ∈ s.blocks ∧ b.id ≠ id := by
  rw [without, List.mem_filter, bne_iff_ne]

theorem delete_eq (hs : s.Sound) {id : BlockId} {b : Block} (hb : s.get? id = some b) :
    s.delete id = .ok (b, s.without id) := by
  unfold delete without
  rw [← eraseP_eq_filter hs.ids_nodup, List.eraseP_eq_eraseIdx, hb]
  cases hi : s.position? id with
  | some i =>
    have found : s.blocks.findIdx? (·.id == id) = some i := hi
    rw [found]
  | none =>
    obtain ⟨hmem, hid⟩ := mem_of_get? hb
    have absent := List.findIdx?_eq_none_iff.mp hi b hmem
    simp [hid] at absent

theorem lacks_without (hs : s.Sound) {id : BlockId} {b : Block} (hb : s.get? id = some b) :
    (s.without id).Lacks b.name :=
  lacks_of_perm_cons hs (perm_delete hs (delete_eq hs hb)).2.1

/-- A block that mentions a name that no block has does so first in a spelling that is reported. -/
theorem Lacks.exists_first {name : String} (h : s.Lacks name) {b : Block}
    (hm : ∃ other ∈ referencedNames b.data, Name.normalize other = Name.normalize name) :
    ∃ spelling ∈ s.invalid b,
      (referencedNames b.data).find? (fun other => Name.normalize other == Name.normalize name) =
        some spelling := by
  obtain ⟨other, hn, e⟩ := hm
  have some : ((referencedNames b.data).find?
      fun other => Name.normalize other == Name.normalize name).isSome = true :=
    List.find?_isSome.mpr ⟨other, hn, beq_iff_eq.mpr e⟩
  obtain ⟨spelling, found⟩ := Option.isSome_iff_exists.mp some
  have same : Name.normalize spelling = Name.normalize name := by
    simpa using List.find?_some found
  exact ⟨spelling, (h.congr same).mem_invalid (mem_distinctNames_of_find? found) _ _, found⟩

/-! ## Marking -/

/-- The store with some blocks marked for their invalid references. -/
def flagged (s : Store) (ids : List BlockId) : Store :=
  { s with blocks := s.blocks.map fun b => if b.id ∈ ids then b.refused (s.complaint b) else b }

theorem flagged_nil (s : Store) : s.flagged [] = s := by
  refine ext_blocks ?_ rfl
  simp [flagged]

theorem alike_flagged (s : Store) (ids : List BlockId) : (s.flagged ids).Alike s where
  outlines := by
    rw [flagged, List.map_map]
    refine List.map_congr_left fun b _ => ?_
    show (if b.id ∈ ids then b.refused _ else b).outline = _
    split <;> rfl
  settings := rfl

theorem get?_flagged (s : Store) (ids : List BlockId) (id : BlockId) :
    (s.flagged ids).get? id =
      (s.get? id).map fun b => if b.id ∈ ids then b.refused (s.complaint b) else b := by
  rw [get?, flagged, List.find?_map, get?]
  congr 2
  funext b
  show ((if b.id ∈ ids then b.refused _ else b).id == id) = _
  split <;> rfl

theorem contentOf?_flagged (s : Store) (ids : List BlockId) (id : BlockId) :
    (s.flagged ids).contentOf? id = s.contentOf? id := by
  rw [contentOf?, get?_flagged, contentOf?]
  cases s.get? id with
  | none => rfl
  | some b =>
    show (if b.id ∈ ids then b.refused _ else b).content = b.content
    split <;> rfl

/-- A mark is not seen by references. -/
theorem invalid_flagged (hs : s.Sound) (ids : List BlockId) {b c : Block} (hb : b ∈ s.blocks)
    (e : c.outline = b.outline) : (s.flagged ids).invalid c = s.invalid b := by
  have same := resolve_eq_of_alike hs (alike_flagged s ids) hb
    (fun a _ _ => contentOf?_flagged s ids a) e
  rw [invalid, same, invalid]

theorem complaint_flagged (hs : s.Sound) (ids : List BlockId) {b c : Block} (hb : b ∈ s.blocks)
    (e : c.outline = b.outline) : (s.flagged ids).complaint c = s.complaint b := by
  have same := invalid_flagged hs ids hb e
  unfold complaint
  rw [same]

/-- Marking one block more. -/
theorem modify_flagged (hs : s.Sound) (ids : List BlockId) {b : Block} (hb : b ∈ s.blocks) :
    (s.flagged ids).modify b.id (.refused (s.complaint b)) = s.flagged (ids ++ [b.id]) := by
  refine ext_blocks ?_ rfl
  simp only [modify, flagged, List.map_map]
  refine List.map_congr_left fun d hd => ?_
  by_cases e : d.id = b.id
  · have same : d = b := hs.eq_of_id_eq hd hb e
    subst same
    by_cases marked : d.id ∈ ids
    · simp [marked, Block.refused]
    · simp [marked]
  · by_cases marked : d.id ∈ ids
    · simp [marked, e, Block.refused]
    · simp [marked, e]

end Store

namespace Session

open Store

variable {s t : Session} {v : Store}

/-! ## Looking at references again -/

theorem report_revalidate (s : Session) {ids : List BlockId} (h : ∀ x ∈ ids, x ∈ s.store.ids) :
    (s.revalidate ids).1 = { revalidated := ids } := by
  have start : ({ revalidated := ids } : Report) =
      { ({} : Report) with revalidated := ({} : Report).revalidated ++ ids } := rfl
  rw [start]
  unfold revalidate
  generalize ({} : Report) = report
  clear start
  induction ids generalizing report s with
  | nil => simp
  | cons id ids ih =>
    obtain ⟨b, hb⟩ := exists_get? (h id (List.mem_cons_self ..))
    have known : ∀ x ∈ ids, x ∈ (s.recheck id).store.ids := by
      intro x hx
      rw [(alike_recheck s id).ids]
      exact h x (List.mem_cons_of_mem id hx)
    have later := ih (s.recheck id) known
      { report with revalidated := report.revalidated ++ [id] }
    rw [recheck, hb] at later
    rw [List.foldl_cons]
    dsimp only
    rw [hb]
    refine later.trans ?_
    rw [List.append_assoc]
    rfl

/-- A block with invalid references is marked for them. -/
theorem recheck_eq {b : Block} (hb : s.store.get? b.id = some b)
    (graph : s.graph = .ofStore s.store) (invalid : s.store.invalid b ≠ []) :
    s.recheck b.id = s.refuse b.id (s.store.complaint b) := by
  have regraph : s.regraph = s := by
    rw [Session.regraph, ← graph]
  have found : s.store.contains b.id = true := contains_iff.mpr (mem_ids.mpr ⟨b, mem_of_get? hb⟩)
  rw [recheck, hb, regraph]
  show (if (s.store.invalid b).isEmpty then s
    else s.setStatus b.id (.failed (s.store.complaint b))) = _
  rw [if_neg (by simpa using invalid)]
  exact refuse_eq found _

/-- What looking at the references of blocks again comes to where all of them have invalid ones:
each is marked for those that it has in the store as it was, and no request is put. -/
theorem foldl_recheck (hv : v.Sound) {ids done : List BlockId} (hs : s.store = v.flagged done)
    (graph : s.graph = .ofStore s.store)
    (invalid : ∀ x ∈ ids, ∃ b ∈ v.blocks, b.id = x ∧ v.invalid b ≠ []) :
    (ids.foldl recheck s).store = v.flagged (done ++ ids) ∧
      (ids.foldl recheck s).Continues s ∧ (ids.foldl recheck s).requests = s.requests := by
  induction ids generalizing s done with
  | nil => exact ⟨by rw [List.append_nil]; exact hs, .refl s, rfl⟩
  | cons x ids ih =>
    obtain ⟨b, hb, rfl, hi⟩ := invalid x (List.mem_cons_self ..)
    -- the block as it stands now differs in its status at most
    obtain ⟨c, hc, same⟩ := (alike_flagged v done).symm.get? ((alike_flagged v done).sound hv)
      (hv.get? hb)
    have hid : c.id = b.id := Block.id_eq_of_outline same
    have marked : s.recheck b.id = s.refuse b.id (v.complaint b) := by
      rw [← hid] at hc
      rw [← hid, recheck_eq (hs ▸ hc) graph (hs ▸ invalid_flagged hv done hb same ▸ hi), hs,
        complaint_flagged hv done hb same]
    have store : (s.refuse b.id (v.complaint b)).store = v.flagged (done ++ [b.id]) := by
      show s.store.modify b.id _ = _
      rw [hs, modify_flagged hv done hb]
    have step := Continues.refuse s b.id (v.complaint b)
    have graph' : (s.refuse b.id (v.complaint b)).graph =
        .ofStore (s.refuse b.id (v.complaint b)).store := by
      rw [step.graph_eq, graph, step.alike.ofStore]
    obtain ⟨final, continues, requests⟩ := ih store graph' fun y hy =>
      invalid y (List.mem_cons_of_mem _ hy)
    rw [List.foldl_cons, marked]
    refine ⟨?_, continues.trans step, requests.trans (requests_refuse ..)⟩
    rw [final, List.append_assoc]
    rfl

/-! ## Deleting -/

/-- The blocks that the graph links to a block are the others that mention it. -/
theorem mem_dependents_iff (hs : s.store.Sound) {id x : BlockId} {b : Block}
    (hb : s.store.get? id = some b) :
    x ∈ (Graph.ofStore s.store).dependents id ↔
      ∃ c ∈ s.store.blocks, c.id = x ∧ x ≠ id ∧ c.Mentions b := by
  obtain ⟨hmem, rfl⟩ := mem_of_get? hb
  rw [Graph.mem_dependents]
  constructor
  · intro hl
    obtain ⟨a, ha, c, hc, hab, rfl, hne, hm⟩ := Graph.exists_of_hasLink hs hl
    obtain rfl := hs.eq_of_id_eq ha hmem hab
    exact ⟨c, hc, rfl, Ne.symm hne, hm⟩
  · rintro ⟨c, hc, rfl, hne, hm⟩
    exact (Graph.hasLink_ofStore hs hmem hc).mpr ⟨Ne.symm hne, hm⟩

/-- The session in which references are looked at again after a block was deleted. -/
def pruned (s : Session) (id : BlockId) : Session :=
  (({ s.regraph with
      store := s.store.without id
      graph := (Graph.ofStore s.store).removeNode id
      parking := s.parking.erase id } : Session).emit (.blockRemoved id)).graphChanged.save

theorem store_pruned (s : Session) (id : BlockId) : (s.pruned id).store = s.store.without id := by
  rw [pruned, store_graphChanged_save, store_emit]

theorem graph_pruned (s : Session) (id : BlockId) :
    (s.pruned id).graph = .ofStore (s.pruned id).store := by
  rw [store_pruned, pruned, graph_graphChanged_save, store_emit]

theorem parking_pruned (s : Session) (id : BlockId) :
    (s.pruned id).parking = s.parking.erase id := by
  rw [pruned, parking_graphChanged_save, parking_emit]

theorem requests_pruned (s : Session) (id : BlockId) : (s.pruned id).requests = s.requests := by
  rw [pruned, requests_save, graphChanged, requests_emit]
  exact requests_emit ..

theorem delete_eq (hs : s.store.Sound) {id : BlockId} {b : Block} (hb : s.store.get? id = some b) :
    s.delete id =
      let result := (s.pruned id).revalidate ((Graph.ofStore s.store).dependents id)
      (.ok result.1, result.2) := by
  have taken : s.regraph.store.delete id = .ok (b, s.store.without id) := Store.delete_eq hs hb
  unfold delete
  dsimp only
  rw [taken]
  rfl

/-- Deleting a block that is there succeeds.  The other blocks that mention it are reported in
ascending order, and each is marked for the references that are invalid now; the first spelling in
which it mentions the deleted block is one of them.  Nothing else changes in the store, nothing is
computed, and the deleted block leaves the graph and its parked request. -/
theorem delete_flags (h : s.Reachable) {id : BlockId} {b : Block} (hb : s.store.get? id = some b) :
    ∃ former t, s.delete id = (.ok { revalidated := former }, t) ∧
      former.Pairwise (Ascending.Below BlockId.le) ∧
      (∀ x, x ∈ former ↔ ∃ c ∈ s.store.blocks, c.id = x ∧ x ≠ id ∧ c.Mentions b) ∧
      t.store.blocks = ((s.store.blocks.filter (·.id != id)).map fun c =>
        if c.id ∈ former then
          { c with
            status := .failed ("invalid references: " ++ ", ".intercalate (t.store.invalid c)) }
        else c) ∧
      t.store.settings = s.store.settings ∧
      (∀ c ∈ s.store.blocks, c.id ∈ former → ∃ spelling ∈ t.store.invalid c,
        (referencedNames c.data).find? (fun name => Name.normalize name == Name.normalize b.name) =
          some spelling) ∧
      t.requests = s.requests ∧ t.parking = s.parking.erase id ∧
      id ∉ t.graph.nodes ∧ id ∉ t.parking.ids := by
  have hs := h.sound
  let v := s.store.without id
  let former := (Graph.ofStore s.store).dependents id
  let t := former.foldl recheck (s.pruned id)
  have hv : v.Sound := hs.delete (Store.delete_eq hs hb)
  have mem_former := fun x => mem_dependents_iff (x := x) hs hb
  have first : ∀ c : Block, c.Mentions b → _ := fun c hm => (lacks_without hs hb).exists_first hm
  have flawed : ∀ x ∈ former, ∃ c ∈ v.blocks, c.id = x ∧ v.invalid c ≠ [] := by
    intro x hx
    obtain ⟨c, hc, rfl, hne, hm⟩ := (mem_former x).mp hx
    obtain ⟨spelling, hi, -⟩ := first c hm
    exact ⟨c, mem_without.mpr ⟨hc, hne⟩, rfl, List.ne_nil_of_mem hi⟩
  have unmarked : (s.pruned id).store = v.flagged [] := by
    rw [store_pruned, flagged_nil]
  obtain ⟨store, continues, requests⟩ := foldl_recheck hv unmarked (graph_pruned s id) flawed
  have store : t.store = v.flagged former := store
  have invalid : ∀ c ∈ v.blocks, t.store.invalid c = v.invalid c := by
    intro c hc
    rw [store, invalid_flagged hv former hc rfl]
  have parking : t.parking = s.parking.erase id := by
    rw [continues.parking_eq, parking_pruned]
  refine ⟨former, t, ?_, Ascending.pairwise_ofList BlockId.isOrder_le _, mem_former, ?_, ?_, ?_, ?_,
    parking, ?_, ?_⟩
  · have known : ∀ x ∈ former, x ∈ (s.pruned id).store.ids := by
      intro x hx
      obtain ⟨c, hc, rfl, -⟩ := flawed x hx
      rw [store_pruned]
      exact mem_ids.mpr ⟨c, hc, rfl⟩
    rw [Session.delete_eq hs hb]
    dsimp only
    rw [report_revalidate _ known, revalidate_eq]
  · rw [store]
    refine List.map_congr_left fun c hc => ?_
    rw [← store, invalid c hc]
    rfl
  · rw [store]
    rfl
  · intro c hc hf
    obtain ⟨c', hc', e, hne, hm⟩ := (mem_former c.id).mp hf
    obtain rfl := hs.eq_of_id_eq hc' hc e
    rw [invalid c' (mem_without.mpr ⟨hc, hne⟩)]
    exact first c' hm
  · rw [requests, requests_pruned]
  · have nodes : t.graph.nodes = v.ids := by
      rw [continues.graph_eq, graph_pruned, store_pruned, Graph.nodes_ofStore hv]
    rw [nodes, mem_ids]
    rintro ⟨c, hc, e⟩
    exact (mem_without.mp hc).2 e
  · rw [parking, Parking.mem_ids_erase]
    exact fun there => there.2 rfl

/-- Two blocks that mention each other, and one that mentions the first of them twice. -/
def cited : Session :=
  ofTexts [(.static, "Plan", "[cost]"), (.static, "cost", "12 #plan"),
    (.static, "note", "see [ PLAN ] and #Plan")]

set_option maxRecDepth 10000 in
/-- Both other blocks are marked, one of them for the name as it spells it first. -/
theorem delete_flags_cited :
    ∃ t, cited.delete ⟨"9e3779b9"⟩ =
        (.ok { revalidated := [⟨"1715609d"⟩, ⟨"8ff34781"⟩] }, t) ∧
      (t.store.blocks.map (·.status)) =
        [.failed "invalid references: plan", .failed "invalid references:  PLAN "] ∧
      t.requests = cited.requests ∧ ⟨"9e3779b9"⟩ ∉ t.graph.nodes := by
  have ⟨there, answer, statuses⟩ : (cited.store.get? ⟨"9e3779b9"⟩).isSome = true ∧
      (cited.delete ⟨"9e3779b9"⟩).1.toOption.map (·.revalidated) =
        some [⟨"1715609d"⟩, ⟨"8ff34781"⟩] ∧
      (cited.delete ⟨"9e3779b9"⟩).2.store.blocks.map (·.status) =
        [.failed "invalid references: plan", .failed "invalid references:  PLAN "] := by
    decide +kernel
  obtain ⟨b, hb⟩ := Option.isSome_iff_exists.mp there
  have reachable : cited.Reachable := reachable_ofTexts _
  obtain ⟨former, t, e, -, -, -, -, -, requests, -, node, -⟩ := delete_flags reachable hb
  rw [e] at answer statuses
  cases answer
  exact ⟨t, e, statuses, requests, node⟩

end Session
end Workbook
