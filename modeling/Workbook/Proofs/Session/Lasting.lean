import Workbook.Proofs.Session.Dangling
import Workbook.Proofs.Session.Mirror

/-!
Every operation keeps the blocks of a session up to date.

For each kind of edit it is said which blocks it may leave out of date; that these are the seeds of
the batch that follows is what its case of `Performed.upToDate` comes to.  Copies are left out: a
copy takes over the content of its original, and reads the same names under another one.
-/

namespace Workbook
namespace Session

variable {backend : Backend} {s t : Session} {ids : List BlockId} {id : BlockId}

namespace UpToDateBut

theorem mono (h : s.UpToDateBut []) (ids : List BlockId) : s.UpToDateBut ids where
  keeps b hb _ := h.keeps b hb List.not_mem_nil
  shows := h.shows

theorem save (h : s.UpToDateBut ids) : s.save.UpToDateBut ids :=
  h.congr (store_save s) (parking_save s)

theorem graphChanged_save (h : s.UpToDateBut ids) : s.graphChanged.save.UpToDateBut ids :=
  h.congr (store_graphChanged_save s) (parking_graphChanged_save s)

theorem propagateSome (h : s.UpToDateBut ids) (hs : s.store.Sound)
    (ha : (Graph.ofStore s.store).Acyclic) (backend : Backend) :
    (s.propagateSome backend ids).UpToDateBut [] := by
  unfold Session.propagateSome
  split
  · exact h
  · exact h.propagate hs ha backend false

/-- Requests that are no longer parked have to be made up for. -/
theorem unpark (h : s.UpToDateBut []) (ids : List BlockId) :
    ({ s with parking := ids.foldl Parking.erase s.parking } : Session).UpToDateBut ids where
  keeps b hb hids := (h.keeps b hb List.not_mem_nil).of_parked fun parked =>
    Parking.mem_ids_foldl_erase.mpr ⟨parked, hids⟩
  shows := h.shows

theorem requested {immediate : Bool} (h : s.UpToDateBut [id]) (hs : s.store.Sound)
    (ha : (Graph.ofStore s.store).Acyclic) (hr : s.Requested backend id immediate t) :
    t.UpToDateBut [] := by
  cases hr with
  | parked _ due =>
    refine ⟨fun b hb _ => ?_, h.shows⟩
    by_cases e : b.id = id
    · exact fun _ _ => .inr (.inl (Parking.mem_ids_insert.mpr (.inl e)))
    · exact (h.keeps b hb (by simpa using e)).of_parked fun parked =>
        Parking.mem_ids_insert.mpr (.inr parked)
  | computed =>
    have unparked : ({ s with parking := s.parking.erase id } : Session).UpToDateBut [id] := by
      refine ⟨fun b hb hids => ?_, h.shows⟩
      exact (h.keeps b hb hids).of_parked fun parked =>
        Parking.mem_ids_erase.mpr ⟨parked, by simpa using hids⟩
    exact unparked.propagate hs ha backend false

theorem adopt {first : List BlockId}
    (h : s.UpToDateBut (first ++ (Graph.ofStore s.store).dependents id)) (hs : s.store.Sound)
    (ha : (Graph.ofStore s.store).Acyclic) (backend : Backend) :
    (s.adopt backend id first).UpToDateBut [] := by
  have store := store_graphChanged_save s
  have seeds : s.graphChanged.save.graph.dependents id =
      (Graph.ofStore s.store).dependents id := by
    rw [graph_graphChanged_save]
  have saved := h.graphChanged_save
  rw [← seeds] at saved
  exact saved.propagateSome (store ▸ hs) (store ▸ ha) backend

end UpToDateBut

/-! ## Single edits -/

/-- A block that does not depend on another does not mention its name. -/
theorem normalize_ne_of_not_mem_dependents {u : Store} (hu : u.Sound) {a c : Block}
    (ha : a ∈ u.blocks) (hc : c ∈ u.blocks) (hne : a.id ≠ c.id)
    (hd : c.id ∉ (Graph.ofStore u).dependents a.id) {name : String}
    (hn : name ∈ referencedNames c.data) : Name.normalize a.name ≠ Name.normalize name :=
  fun e => hd (Graph.mem_dependents.mpr (Store.hasLink_of_name hu ha hc hne hn e))

namespace UpToDateBut

variable (h : s.UpToDateBut []) (hs : s.store.Sound) (ht : t.store.Sound)
  (has : (Graph.ofStore s.store).Acyclic) (hat : (Graph.ofStore t.store).Acyclic)

include h hs ht has hat

/-- A new block matters to those that mention its name already. -/
theorem insert {b : Block} (perm : t.store.blocks.Perm (b :: s.store.blocks))
    (hi : b.input = none) (parking : t.parking = s.parking) (first : List BlockId) :
    t.UpToDateBut (first ++ (Graph.ofStore t.store).dependents b.id) := by
  have hb : b ∈ t.store.blocks := perm.mem_iff.mpr (List.mem_cons_self ..)
  have other : ∀ c ∈ t.store.blocks, c.input ≠ none → c ≠ b := by
    rintro c - hci rfl
    exact hci hi
  refine h.of_blocks hs ht has hat (fun x hx _ => parking ▸ hx) ?_ ?_
  · intro c hc hci
    exact (List.mem_cons.mp (perm.mem_iff.mp hc)).resolve_left (other c hc hci)
  · intro c hc hci hids name hn content
    have hne : b.id ≠ c.id := fun e => other c hc hci (ht.eq_of_id_eq hc hb e.symm)
    refine Store.offers_cons perm (normalize_ne_of_not_mem_dependents ht hb hc hne ?_ hn)
    exact fun hd => hids (List.mem_append_right _ hd)

/-- A block that is gone matters to those that mentioned it. -/
theorem delete {b : Block} (perm : (b :: t.store.blocks).Perm s.store.blocks)
    (parking : t.parking = s.parking.erase b.id) :
    t.UpToDateBut ((Graph.ofStore s.store).dependents b.id) := by
  have hb : b ∈ s.store.blocks := perm.mem_iff.mp (List.mem_cons_self ..)
  have nodup := (perm.map (·.id)).nodup_iff.mpr hs.ids_nodup
  have gone : b.id ∉ t.store.ids := (List.nodup_cons.mp nodup).1
  have old : ∀ c ∈ t.store.blocks, c ∈ s.store.blocks :=
    fun c hc => perm.mem_iff.mp (List.mem_cons_of_mem b hc)
  refine h.of_blocks hs ht has hat (fun x hx hxt => ?_) (fun c hc _ => old c hc) ?_
  · rw [parking, Parking.mem_ids_erase]
    refine ⟨hx, ?_⟩
    intro e
    subst e
    exact gone hxt
  · intro c hc _ hids name hn content
    have hne : b.id ≠ c.id := fun e => gone (Store.mem_ids.mpr ⟨c, hc, e.symm⟩)
    have names := normalize_ne_of_not_mem_dependents hs hb (old c hc) hne hids hn
    exact (Store.offers_cons perm.symm names).symm

theorem move (perm : t.store.blocks.Perm s.store.blocks) (parking : t.parking = s.parking) :
    t.UpToDateBut [] := by
  refine h.of_blocks hs ht has hat (fun x hx _ => parking ▸ hx) ?_ ?_
  · exact fun c hc _ => perm.mem_iff.mp hc
  · exact fun c _ _ _ name _ content => Store.offers_congr_of_perm perm

/-- A renamed block matters to those that mentioned its old name or mention its new one. -/
theorem rename {name : String} (store : t.store = s.store.modify id fun b => { b with name })
    (parking : t.parking = s.parking) :
    t.UpToDateBut ((Graph.ofStore s.store).dependents id ++
      ((Graph.ofStore t.store).dependents id).filter
        fun d => !((Graph.ofStore s.store).dependents id).contains d) := by
  refine h.of_modify hs ht has hat parking store (fun b _ _ _ => ⟨rfl, rfl, rfl, rfl, rfl, rfl⟩)
    (fun _ => rfl) (.inr fun _ => ⟨rfl, rfl⟩) fun c hc hids other hn content => ?_
  apply Store.offers_modify_of_ne (f := fun b => { b with name }) (fun _ => rfl)
  intro b hb e
  subst e
  by_cases hne : b.id = c.id
  · exact .inl hne.symm
  · have former : c.id ∉ (Graph.ofStore s.store).dependents b.id :=
      fun hd => hids (List.mem_append_left _ hd)
    have latter : c.id ∉ (Graph.ofStore t.store).dependents b.id := by
      refine fun hd => hids (List.mem_append_right _ (List.mem_filter.mpr ⟨hd, ?_⟩))
      simpa using former
    have renamed : { b with name } ∈ t.store.blocks := by
      rw [store]
      exact Store.mem_modify_self hb
    have same : c ∈ t.store.blocks := by
      rw [store]
      exact Store.mem_modify_ne hc (Ne.symm hne)
    exact .inr ⟨normalize_ne_of_not_mem_dependents hs hb hc hne former hn,
      normalize_ne_of_not_mem_dependents ht renamed same hne latter hn⟩

/-- The content of a block that is not computed matters to those that mention the block. -/
theorem setContent {content : Option Content}
    (store : t.store = s.store.modify id fun b => { b with content })
    (kind : ∀ b ∈ s.store.blocks, b.id = id → b.kind.recomputes = false)
    (parking : t.parking = s.parking) :
    t.UpToDateBut ((Graph.ofStore t.store).dependents id) := by
  refine h.of_modify hs ht has hat parking store (fun b hb e hk => ?_)
    (fun _ => rfl) (.inr fun _ => ⟨rfl, rfl⟩) fun c hc hids name hn content' => ?_
  · rw [kind b hb e] at hk
    cases hk
  · refine Store.offers_modify_of_ne (f := fun b => { b with content }) (fun _ => rfl)
      fun b hb e => ?_
    subst e
    by_cases hne : b.id = c.id
    · exact .inl hne.symm
    · have changed : { b with content } ∈ t.store.blocks := by
        rw [store]
        exact Store.mem_modify_self hb
      have same : c ∈ t.store.blocks := by
        rw [store]
        exact Store.mem_modify_ne hc (Ne.symm hne)
      have names := normalize_ne_of_not_mem_dependents ht changed same hne hids hn
      exact .inr ⟨names, names⟩

/-- Another text or transform matters to the block alone. -/
theorem setText {f : Block → Block} (store : t.store = s.store.modify id f)
    (parking : t.parking = s.parking) (follows : ∀ b, (f b).Follows b)
    (name : ∀ b, (f b).name = b.name) : t.UpToDateBut [id] :=
  h.of_modify hs ht has hat parking store (fun b _ _ _ => follows b) (fun b => (follows b).kind)
    (.inl (List.mem_singleton_self id)) fun _ _ _ _ _ _ =>
      Store.offers_modify (fun b => (follows b).id) name fun b => (follows b).content

theorem setAccess {access : Access}
    (store : t.store = s.store.modify id fun b => { b with access })
    (parking : t.parking = s.parking) : t.UpToDateBut [] :=
  h.of_modify hs ht has hat parking store (fun _ _ _ _ => ⟨rfl, rfl, rfl, rfl, rfl, rfl⟩)
    (fun _ => rfl) (.inr fun _ => ⟨rfl, rfl⟩) fun _ _ _ _ _ _ =>
      Store.offers_modify (f := fun b => { b with access }) (fun _ => rfl) (fun _ => rfl)
        fun _ => rfl

end UpToDateBut

/-! ## Operations -/

/-- Those that mentioned a block mention a name that no block has when the block is gone. -/
theorem dangles_of_mem_dependents {u v : Store} (hu : u.Sound) {b : Block}
    (perm : (b :: v.blocks).Perm u.blocks) {c : Block} (hc : c ∈ v.blocks)
    (hd : c.id ∈ (Graph.ofStore u).dependents b.id) : c.Dangles v := by
  obtain ⟨x, hx, y, hy, hxb, hyc, -, name, hn, e⟩ :=
    Graph.exists_of_hasLink hu (Graph.mem_dependents.mp hd)
  have hx : x = b := hu.eq_of_id_eq hx (perm.mem_iff.mp (List.mem_cons_self ..)) hxb
  have hy : y = c := hu.eq_of_id_eq hy (perm.mem_iff.mp (List.mem_cons_of_mem b hc)) hyc
  subst hx hy
  exact ⟨name, hn, (Store.lacks_of_perm_cons hu perm).congr e⟩

theorem perm_modify_of_fresh {u v : Store} {b : Block} (perm : v.blocks.Perm (b :: u.blocks))
    (fresh : b.id ∉ u.ids) (f : Block → Block) :
    (v.modify b.id f).blocks.Perm (f b :: u.blocks) := by
  have e : (u.blocks.map fun c => if c.id = b.id then f c else c) = u.blocks := by
    refine (List.map_congr_left fun c hc => ?_).trans (List.map_id _)
    exact if_neg fun e => fresh (Store.mem_ids.mpr ⟨c, hc, e⟩)
  have mapped := perm.map fun c => if c.id = b.id then f c else c
  rw [List.map_cons, if_pos rfl, e] at mapped
  exact mapped

/-- What a session computed again from the archive is up to date. -/
theorem upToDate_load (hs : s.store.Sound) (ha : (Graph.ofStore s.store).Acyclic)
    (backend : Backend) : (s.propagate backend s.store.ids true).2.UpToDateBut [] where
  keeps c hc _ := by
    refine keeps_propagate hs ha backend true (fun b hb unlisted => ?_) c hc
    exact absurd (Store.mem_ids.mpr ⟨b, hb, rfl⟩) unlisted
  shows := shows_propagate hs ha backend fun b hb =>
    .inl ⟨Store.mem_ids.mpr ⟨b, hb, rfl⟩, rfl⟩

theorem Performed.upToDate {o : Operation} (hp : s.Performed backend o t)
    (allowed : ∀ id, o ≠ .command (.duplicate id)) (hs : s.store.Sound)
    (has : (Graph.ofStore s.store).Acyclic) (hat : (Graph.ofStore t.store).Acyclic)
    (h : s.UpToDateBut []) : t.UpToDateBut [] := by
  cases hp with
  | unchanged => exact h.congr rfl rfl
  | @load store hl =>
    let loaded : Session := ({ s with store, parking := {} } : Session).graphChanged
    have stored : loaded.store = store := store_graphChanged _
    have sound : loaded.store.Sound := by
      rw [stored]
      exact (Store.Sound.replaceAll hl).1
    rw [(alike_propagate sound backend _ true).ofStore] at hat
    have loaded' := upToDate_load sound hat backend
    rw [show loaded.store.ids = store.ids by rw [stored]] at loaded'
    exact loaded'
  | @create kind name data transform id store source hc =>
    have hi := congrArg Prod.fst hc
    have sound : ({ s with store, source } : Session).store.Sound := Store.Sound.insertAt hs hi
    rw [(alike_adopt sound ..).ofStore] at hat
    have edited := h.insert (t := { s with store, source }) hs sound has hat
      (Store.perm_insertAt hi) rfl rfl (if kind = .static then [id] else [])
    exact edited.adopt sound hat backend
  | @importImage name mime bytes id store source hc =>
    have hi := congrArg Prod.fst hc
    let edited : Session :=
      { s with
        store := store.modify id fun b => { b with content := some (.binary mime bytes) }
        source }
    have sound : edited.store.Sound :=
      (Store.Sound.insertAt hs hi).modify (fun _ => rfl) fun _ => rfl
    have hat : (Graph.ofStore edited.store).Acyclic := (alike_adopt sound ..).ofStore ▸ hat
    have perm := perm_modify_of_fresh (Store.perm_insertAt hi) (Store.insertAt_eq_ok hi).1
      fun b => { b with content := some (.binary mime bytes) }
    have imported := h.insert (t := edited) hs sound has hat perm rfl rfl []
    exact imported.adopt sound hat backend
  | @editData id data store _ he ht =>
    obtain ⟨-, rfl⟩ := Store.setData_eq_ok he
    let edited : Session := { s with store := s.store.modify id fun b => { b with data } }
    have sound : edited.store.Sound := hs.modify (fun _ => rfl) fun _ => rfl
    have store := store_graphChanged_save edited
    have hat : (Graph.ofStore edited.graphChanged.save.store).Acyclic :=
      (ht.alike (store ▸ sound)).ofStore ▸ hat
    have changed := h.setText (t := edited) hs sound has (store ▸ hat) rfl rfl
      (fun _ => ⟨rfl, rfl, rfl, rfl, rfl, rfl⟩) fun _ => rfl
    exact changed.graphChanged_save.requested (store ▸ sound) hat ht
  | @editTransform id transform store _ he ht =>
    obtain ⟨-, rfl⟩ := Store.setTransform_eq_ok he
    let edited : Session :=
      { s with store := s.store.modify id fun b => { b with transform := some transform } }
    have sound : edited.store.Sound := hs.modify (fun _ => rfl) fun _ => rfl
    have store : edited.save.store = edited.store := store_save edited
    have hat : (Graph.ofStore edited.save.store).Acyclic :=
      (ht.alike (store ▸ sound)).ofStore ▸ hat
    have changed := h.setText (t := edited) hs sound has (store ▸ hat) rfl rfl
      (fun _ => ⟨rfl, rfl, rfl, rfl, rfl, rfl⟩) fun _ => rfl
    exact changed.save.requested (store ▸ sound) hat ht
  | @rename id name applied store he =>
    obtain ⟨-, -, rfl⟩ := Store.rename_eq_ok he
    let edited : Session :=
      { s.regraph with store := s.store.modify id fun b => { b with name := applied } }
    have sound : edited.store.Sound := hs.rename he
    have store := store_graphChanged_save edited
    have hat : (Graph.ofStore edited.graphChanged.save.store).Acyclic :=
      (alike_propagateSome (store ▸ sound) ..).ofStore ▸ hat
    have renamed := h.rename (t := edited) hs sound has (store ▸ hat) rfl rfl
    exact renamed.graphChanged_save.propagateSome (store ▸ sound) hat backend
  | @setAccess id access store he =>
    obtain ⟨-, rfl⟩ := Store.update_eq_ok he
    rw [store_save] at hat
    have sound : (s.store.modify id fun b => { b with access }).Sound :=
      hs.modify (fun _ => rfl) fun _ => rfl
    have changed := h.setAccess
      (t := { s with store := s.store.modify id fun b => { b with access } }) hs sound has hat rfl
      rfl
    exact changed.save
  | @delete id b store he =>
    obtain ⟨rfl, perm, -⟩ := Store.perm_delete hs he
    let edited : Session :=
      { s.regraph with
        store, graph := (Graph.ofStore s.store).removeNode b.id, parking := s.parking.erase b.id }
    let saved := (edited.emit (.blockRemoved b.id)).graphChanged.save
    have sound : edited.store.Sound := hs.delete he
    have store : saved.store = edited.store := by
      rw [store_graphChanged_save, store_emit]
    have parking : saved.parking = edited.parking := by
      rw [parking_graphChanged_save, parking_emit]
    have hat : (Graph.ofStore saved.store).Acyclic := (alike_revalidate ..).ofStore ▸ hat
    have deleted := h.delete (t := edited) hs sound has (store ▸ hat) perm rfl
    refine (deleted.congr store parking).revalidate (store ▸ sound) (fun c hc hd => ?_) _
      fun x hx => hx
    rw [store] at hc ⊢
    exact dangles_of_mem_dependents hs perm hc hd
  | duplicate => exact absurd rfl (allowed _)
  | @move id index store he =>
    rw [store_save] at hat
    have moved := h.move (t := { s with store }) hs (hs.moveTo he) has hat
      (Store.perm_moveTo hs he).1 rfl
    exact moved.save
  | requestUpdate ht => exact (h.mono _).requested hs has ht
  | flushDeferred => exact (h.unpark _).propagate hs has backend false
  | flushDue => exact (h.unpark _).propagate hs has backend false
  | @replaceImage id mime bytes b hb hk =>
    let edited : Session := s.modify id fun b => { b with content := some (.binary mime bytes) }
    let noticed := (edited.save.emit (.contentUpdated id)).regraph
    have sound : edited.store.Sound := hs.modify (fun _ => rfl) fun _ => rfl
    have store : noticed.store = edited.store := by
      rw [store_regraph, store_emit, store_save]
    have parking : noticed.parking = edited.parking := by
      rw [parking_regraph, parking_emit, parking_save]
    have hat : (Graph.ofStore noticed.store).Acyclic :=
      (alike_propagate (s := noticed) (store ▸ sound) ..).ofStore ▸ hat
    have kind : ∀ c ∈ s.store.blocks, c.id = id → c.kind.recomputes = false := by
      intro c hc e
      obtain ⟨hmem, hid⟩ := Store.mem_of_get? hb
      rw [hs.eq_of_id_eq hc hmem (e.trans hid.symm), hk]
      rfl
    have replaced := h.setContent (t := edited) hs sound has (store ▸ hat) rfl kind rfl
    exact (replaced.congr store parking).propagate (store ▸ sound) hat backend false
  | propagate seeds force => exact (h.mono seeds).propagate hs has backend force
  | revalidate ids =>
    apply h.revalidate hs (fun b _ hids => absurd hids List.not_mem_nil) ids
    exact fun x hx => absurd hx List.not_mem_nil
  | advance => exact h.congr rfl rfl
  | rearchive => exact h.congr rfl rfl

/-! ## Runs -/

theorem acyclic_empty : Graph.Acyclic {} := by
  intro a b hl
  exact absurd (Graph.hasLink_iff.mp hl) List.not_mem_nil

theorem ReachedBy.upToDate {allowed : Operation → Prop} {holds : Session → Prop}
    (h : ReachedBy allowed holds s) (ha : ∀ o, allowed o → ∀ id, o ≠ .command (.duplicate id))
    (hh : ∀ s, holds s → s.graph.Acyclic) :
    s.UpToDateBut [] ∧ (Graph.ofStore s.store).Acyclic := by
  induction h with
  | start settings source archive watched =>
    refine ⟨⟨fun b hb => absurd hb List.not_mem_nil, fun b hb => absurd hb List.not_mem_nil⟩, ?_⟩
    have mirrored := (Reachable.mirrored (.start settings source archive watched))
    exact mirrored.acyclic acyclic_empty
  | @perform s h backend o hallowed hholds ih =>
    have reachable := ReachedBy.reachable h
    have performed := perform_performed backend s o
    have mirrored := Reachable.mirrored (.perform reachable backend o trivial trivial)
    have acyclic := mirrored.acyclic (hh _ hholds)
    exact ⟨performed.upToDate (ha o hallowed) reachable.sound ih.2 acyclic ih.1, acyclic⟩

/-- In a run without copies in which the graph never has a circle, every block that was ever
computed is current, or a request for it is parked, or it has failed; and static blocks show what
they were computed from. -/
theorem up_to_date_in_runs {s : Session}
    (h : ReachedBy (fun o => ∀ id, o ≠ .command (.duplicate id)) (fun s => s.graph.Acyclic) s) :
    ∀ b ∈ s.store.blocks,
      (b.kind.recomputes = true → b.input ≠ none →
        b.IsCurrent s.store ∨ b.id ∈ s.parking.ids ∨ ∃ message, b.status = .failed message) ∧
      (b.kind = .static → ∀ text, b.input = some text → b.content = some (.text text)) := by
  intro b hb
  obtain ⟨upToDate, -⟩ := ReachedBy.upToDate h (fun _ ho => ho) fun _ hs => hs
  refine ⟨upToDate.keeps b hb List.not_mem_nil, fun hk text hi => ?_⟩
  obtain ⟨shown, hshown, hcontent⟩ := upToDate.shows b hb hk (by rw [hi]; exact nofun)
  rw [hi] at hshown
  cases hshown
  exact hcontent

set_option maxRecDepth 10000 in
/-- A block that was computed a moment ago gets another text: its request is parked, and the block
that mentions it still has the content that goes with the old one. -/
theorem up_to_date_when_parked :
    let backend : Backend := { answer := fun r => .ok (.text r.input) }
    let source : IdSource := { word := fun j => UInt32.ofNat ((j + 1) * 2654435769) }
    let s₁ := (start {} source {} true).perform backend
      (.command (.create .generativeText "a" "x" none))
    let s₂ := s₁.perform backend (.command (.create .static "b" "[a]" none))
    let s₃ := s₂.perform backend (.command (.requestUpdate ⟨"9e3779b9"⟩ true))
    let s₄ := s₃.perform backend (.command (.editData ⟨"9e3779b9"⟩ "y"))
    ReachedBy (fun o => ∀ id, o ≠ .command (.duplicate id)) (fun s => s.graph.Acyclic) s₄ ∧
      s₄.parking.ids = [⟨"9e3779b9"⟩] ∧
      (s₄.store.blocks.map fun b => (b.name, b.data, b.input)) =
        [("a", "y", some "x"), ("b", "[a]", some "x")] ∧
      ∀ b ∈ s₄.store.blocks,
        (b.kind.recomputes = true → b.input ≠ none →
          b.IsCurrent s₄.store ∨ b.id ∈ s₄.parking.ids ∨ ∃ message, b.status = .failed message) ∧
        (b.kind = .static → ∀ text, b.input = some text → b.content = some (.text text)) := by
  intro backend source s₁ s₂ s₃ s₄
  let rank : BlockId → Nat := fun id => if id = ⟨"9e3779b9"⟩ then 0 else 1
  have links : (∀ l ∈ s₁.graph.links, rank l.1 < rank l.2) ∧
      (∀ l ∈ s₂.graph.links, rank l.1 < rank l.2) ∧
      (∀ l ∈ s₃.graph.links, rank l.1 < rank l.2) ∧
      (∀ l ∈ s₄.graph.links, rank l.1 < rank l.2) := by decide +kernel
  have acyclic₁ : s₁.graph.Acyclic := Graph.acyclic_of_rank rank links.1
  have acyclic₂ : s₂.graph.Acyclic := Graph.acyclic_of_rank rank links.2.1
  have acyclic₃ : s₃.graph.Acyclic := Graph.acyclic_of_rank rank links.2.2.1
  have acyclic₄ : s₄.graph.Acyclic := Graph.acyclic_of_rank rank links.2.2.2
  have run := @ReachedBy.start (fun o => ∀ id, o ≠ .command (.duplicate id))
    (fun s => s.graph.Acyclic) {} source {} true
  have run := run.perform backend _ (fun _ => by simp) acyclic₁
  have run := run.perform backend _ (fun _ => by simp) acyclic₂
  have run := run.perform backend _ (fun _ => by simp) acyclic₃
  have run := run.perform backend _ (fun _ => by simp) acyclic₄
  have outcome : s₄.parking.ids = [⟨"9e3779b9"⟩] ∧
      (s₄.store.blocks.map fun b => (b.name, b.data, b.input)) =
        [("a", "y", some "x"), ("b", "[a]", some "x")] := by decide +kernel
  exact ⟨run, outcome.1, outcome.2, up_to_date_in_runs run⟩

end Session
end Workbook
