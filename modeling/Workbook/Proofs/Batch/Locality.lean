import Workbook.Proofs.Batch.Fresh

/-!
What a turn depends on.

The turn that a block comes to is a function of its record and of the content of the blocks that
feed it (`Store.turn`, `Store.turn_congr`).  So two sessions that are the same as far as some blocks
go (`Session.Coincides`) stay so when one of those has its turn in both, as long as all that feed it
are among them, and when a block that is not one of them has its turn in one of the sessions alone.
-/

namespace Workbook

/-- The turn that a block comes to. -/
def Store.turn (s : Store) (force : Bool) (id : BlockId) : Turn :=
  match s.get? id with
  | none => .skipped
  | some b =>
    if b.kind.recomputes then
      if Session.isUnchanged b (s.resolvedText b) (b.effectiveTransform.getD "") && !force then
        .skipped
      else if b.kind.isGenerative then .asked (s.requestFor b)
      else .applied
    else .skipped

theorem Session.Taken.turn_eq {s session : Session} {force : Bool} {id : BlockId} {turn : Turn}
    (h : s.Taken force id turn session) : turn = s.store.turn force id := by
  have changed : ∀ b : Block, (b.IsCurrent s.store → force = true) →
      ¬ (Session.isUnchanged b (s.store.resolvedText b) (b.effectiveTransform.getD "") &&
        !force) = true := by
    intro b hc hu
    obtain ⟨hu, hf⟩ := Bool.and_eq_true_iff.mp hu
    rw [hc (Session.isUnchanged_iff.mp hu)] at hf
    cases hf
  unfold Store.turn
  cases h with
  | inert hi =>
    cases hb : s.store.get? id with
    | none => rfl
    | some b =>
      dsimp only
      rw [if_neg (by rw [hi b hb]; decide)]
  | current b hb hk hc hf =>
    rw [hb]
    dsimp only
    rw [if_pos hk, if_pos (by rw [Session.isUnchanged_iff.mpr hc, hf]; rfl)]
  | applied b hb hk hc =>
    rw [hb]
    dsimp only
    rw [if_pos (by rw [hk]; rfl), if_neg (changed b hc), if_neg (by rw [hk]; decide)]
  | asked b hb hk hc =>
    rw [hb]
    dsimp only
    rw [if_pos (Kind.recomputes_of_isGenerative hk), if_neg (changed b hc), if_pos hk]

namespace Store

variable {s t : Store}

/-- Between stores with the same outlines, what a block resolves to changes only with the content of
blocks that feed it. -/
theorem requestFor_eq_of_feeds (hs : s.Sound) (h : t.Alike s) {id : BlockId} {b c : Block}
    (hb : s.get? id = some b) (hc : t.get? id = some c)
    (same : ∀ a, (Graph.ofStore s).Feeds a id → t.contentOf? a = s.contentOf? a) :
    t.requestFor c = s.requestFor b := by
  obtain ⟨c', hc', e⟩ := h.symm.get? (h.sound hs) hb
  have ec : c' = c := Option.some.inj (hc'.symm.trans hc)
  subst ec
  obtain ⟨hmem, rfl⟩ := mem_of_get? hb
  have resolved := resolve_eq_of_alike hs h hmem
    (fun a hl hl' => same a ⟨hl, Bool.not_eq_true _ ▸ hl'⟩) e
  unfold requestFor resolvedText
  rw [resolved, Block.id_eq_of_outline e, Block.name_eq_of_outline e, Block.kind_eq_of_outline e,
    Block.effectiveTransform_eq_of_outline e]

theorem resolvedText_eq_of_feeds (hs : s.Sound) (h : t.Alike s) {id : BlockId} {b c : Block}
    (hb : s.get? id = some b) (hc : t.get? id = some c)
    (same : ∀ a, (Graph.ofStore s).Feeds a id → t.contentOf? a = s.contentOf? a) :
    t.resolvedText c = s.resolvedText b :=
  congrArg Request.input (requestFor_eq_of_feeds hs h hb hc same)

/-- The turn of a block depends on its record and on the content of the blocks that feed it. -/
theorem turn_congr (hs : s.Sound) (h : t.Alike s) (force : Bool) {id : BlockId}
    (hid : t.get? id = s.get? id)
    (same : ∀ a, (Graph.ofStore s).Feeds a id → t.contentOf? a = s.contentOf? a) :
    t.turn force id = s.turn force id := by
  unfold turn
  rw [hid]
  cases hb : s.get? id with
  | none => rfl
  | some b =>
    have hc := hid.trans hb
    dsimp only
    rw [requestFor_eq_of_feeds hs h hb hc same, resolvedText_eq_of_feeds hs h hb hc same]

end Store

namespace Session

/-- The sessions are the same as far as the blocks that satisfy `p` go. -/
structure Coincides (p : BlockId → Bool) (t u : Session) : Prop where
  alike : t.store.Alike u.store
  graph_eq : t.graph = u.graph
  now_eq : t.now = u.now
  get?_eq : ∀ x, p x = true → t.store.get? x = u.store.get? x
  requests_eq : (t.requests.filter fun r => p r.id) = u.requests.filter fun r => p r.id

namespace Coincides

variable {p : BlockId → Bool} {t t' u u' : Session}

theorem refl (p : BlockId → Bool) (t : Session) : t.Coincides p t :=
  ⟨.refl _, rfl, rfl, fun _ _ => rfl, rfl⟩

theorem symm (h : t.Coincides p u) : u.Coincides p t :=
  ⟨h.alike.symm, h.graph_eq.symm, h.now_eq.symm, fun x hx => (h.get?_eq x hx).symm,
    h.requests_eq.symm⟩

theorem trans (h : t.Coincides p u) {v : Session} (h' : u.Coincides p v) : t.Coincides p v :=
  ⟨h.alike.trans h'.alike, h.graph_eq.trans h'.graph_eq, h.now_eq.trans h'.now_eq,
    fun x hx => (h.get?_eq x hx).trans (h'.get?_eq x hx), h.requests_eq.trans h'.requests_eq⟩

/-- The journal matters as far as requests go. -/
theorem of_eq (hs : t.store = u.store) (hg : t.graph = u.graph) (hn : t.now = u.now)
    (hr : t.requests = u.requests) : t.Coincides p u :=
  ⟨hs ▸ .refl _, hg, hn, fun x _ => by rw [hs], by rw [hr]⟩

/-! ### The same change in both sessions -/

theorem modify (h : t.Coincides p u) {id : BlockId} {f : Block → Block}
    (hf : ∀ b, (f b).outline = b.outline) (ht : t'.store = t.store.modify id f)
    (hu : u'.store = u.store.modify id f) (hg : t'.graph = t.graph ∧ u'.graph = u.graph)
    (hn : t'.now = t.now ∧ u'.now = u.now) (new : List Request)
    (hr : t'.requests = t.requests ++ new ∧ u'.requests = u.requests ++ new) :
    t'.Coincides p u' where
  alike := by
    rw [ht, hu]
    exact ((Store.alike_modify hf).trans h.alike).trans (Store.alike_modify hf).symm
  graph_eq := by rw [hg.1, hg.2, h.graph_eq]
  now_eq := by rw [hn.1, hn.2, h.now_eq]
  get?_eq x hx := by
    have hid : ∀ b, (f b).id = b.id := fun b => Block.id_eq_of_outline (hf b)
    rw [ht, hu, Store.get?_modify hid, Store.get?_modify hid, h.get?_eq x hx]
  requests_eq := by
    rw [hr.1, hr.2, List.filter_append, List.filter_append, h.requests_eq]

theorem fill (h : t.Coincides p u) (id : BlockId) (content : Content) (input : String)
    (applied : Option String) :
    (t.fill id content input applied).Coincides p (u.fill id content input applied) := by
  refine h.modify (f := .filled content input applied) (fun _ => rfl) rfl rfl ⟨rfl, rfl⟩ ⟨rfl, rfl⟩
    [] ⟨?_, ?_⟩ <;> rw [requests_fill, List.append_nil]

theorem await (h : t.Coincides p u) (r : Request) : (t.await r).Coincides p (u.await r) := by
  refine h.modify (f := .awaiting t.now) (fun _ => rfl) rfl ?_ ⟨rfl, rfl⟩ ⟨rfl, rfl⟩ [r]
    ⟨requests_await t r, requests_await u r⟩
  rw [h.now_eq]
  rfl

theorem refuse (h : t.Coincides p u) (id : BlockId) (message : String) :
    (t.refuse id message).Coincides p (u.refuse id message) := by
  refine h.modify (f := .refused message) (fun _ => rfl) rfl rfl ⟨rfl, rfl⟩ ⟨rfl, rfl⟩ []
    ⟨?_, ?_⟩ <;> rw [requests_refuse, List.append_nil]

end Coincides

/-! ### A turn in both sessions -/

namespace Taken

variable {s session : Session} {force : Bool} {id : BlockId}

theorem skipped_cases (h : s.Taken force id .skipped session) :
    session = s ∨ session = s.record (.resolved id) := by
  cases h with
  | inert => exact .inl rfl
  | current => exact .inr rfl

theorem applied_cases (h : s.Taken force id .applied session) :
    ∃ b, s.store.get? id = some b ∧ b.kind = .static ∧
      session = (s.record (.resolved id)).fill id (.text (s.store.resolvedText b))
        (s.store.resolvedText b) none := by
  cases h with
  | applied b hb hk => exact ⟨b, hb, hk, rfl⟩

theorem asked_eq {r : Request} (h : s.Taken force id (.asked r) session) :
    session = (s.record (.resolved id)).await r := by
  cases h with
  | asked => rfl

theorem now_eq {turn : Turn} (h : s.Taken force id turn session) : session.now = s.now := by
  cases h <;> rfl

end Taken

namespace Coincides

variable {p : BlockId → Bool} {t t' u u' : Session} {force : Bool} {id : BlockId}
  {turn turn' : Turn}

theorem record_resolved (p : BlockId → Bool) (t : Session) (id : BlockId) :
    (t.record (.resolved id)).Coincides p t :=
  .of_eq rfl rfl rfl (requests_record_resolved t id)

theorem resolved (h : t.Coincides p u) (id : BlockId) :
    (t.record (.resolved id)).Coincides p (u.record (.resolved id)) :=
  ((record_resolved p t id).trans h).trans (record_resolved p u id).symm

/-- A block has the same turn in both sessions if it and all that feed it are the same there. -/
theorem taken (h : t.Coincides p u) (hs : u.store.Sound) (hid : p id = true)
    (feeds : ∀ a, (Graph.ofStore u.store).Feeds a id → p a = true)
    (ht : t.Taken force id turn t') (hu : u.Taken force id turn' u') :
    turn = turn' ∧ t'.Coincides p u' := by
  have same : ∀ a, (Graph.ofStore u.store).Feeds a id →
      t.store.contentOf? a = u.store.contentOf? a :=
    fun a hf => Store.contentOf?_congr (h.get?_eq a (feeds a hf))
  have found := h.get?_eq id hid
  have turns : turn = turn' := by
    rw [ht.turn_eq, hu.turn_eq]
    exact Store.turn_congr hs h.alike force found same
  refine ⟨turns, ?_⟩
  subst turns
  cases turn with
  | skipped =>
    rcases ht.skipped_cases with rfl | rfl
    · rcases hu.skipped_cases with rfl | rfl
      · exact h
      · exact h.trans (record_resolved p u id).symm
    · rcases hu.skipped_cases with rfl | rfl
      · exact (record_resolved p t id).trans h
      · exact h.resolved id
  | applied =>
    obtain ⟨b, hb, -, rfl⟩ := ht.applied_cases
    obtain ⟨c, hc, -, rfl⟩ := hu.applied_cases
    have e : c = b := Option.some.inj (hc.symm.trans (found.symm.trans hb))
    subst e
    rw [Store.resolvedText_eq_of_feeds hs h.alike hc hb same]
    exact (h.resolved id).fill id _ _ none
  | asked r =>
    rw [ht.asked_eq, hu.asked_eq]
    exact (h.resolved id).await r

/-! ### A change in one session -/

/-- What happens to a block that does not satisfy `p` does not matter. -/
theorem touch (h : t.Coincides p u) (hid : p id = false) (touches : t'.Touches id t)
    (continues : t'.Continues t) (now : t'.now = t.now) : t'.Coincides p u where
  alike := continues.alike.trans h.alike
  graph_eq := continues.graph_eq.trans h.graph_eq
  now_eq := now.trans h.now_eq
  get?_eq x hx := by
    have hne : x ≠ id := by
      intro e
      rw [e, hid] at hx
      cases hx
    exact (touches.get?_eq x hne).trans (h.get?_eq x hx)
  requests_eq := by
    obtain ⟨new, e, about⟩ := touches.journal_eq
    have none : (new.filterMap Moment.request?).filter (fun r => p r.id) = [] := by
      rw [List.filter_eq_nil_iff]
      intro r hr
      obtain ⟨m, hm, hmr⟩ := List.mem_filterMap.mp hr
      have hrid : r.id = id := by
        cases m with
        | asked q time =>
          cases hmr
          exact about _ hm r.id rfl
        | emitted => cases hmr
        | resolved => cases hmr
        | answered => cases hmr
      rw [hrid, hid]
      decide
    rw [← h.requests_eq, requests, e, List.filterMap_append, List.filter_append, none,
      List.append_nil]
    rfl

end Coincides

end Session
end Workbook
