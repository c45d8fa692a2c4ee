import Workbook.Command
import Workbook.Proofs.Batch.Steps

/-!
Runs of a session.

An `Operation` is anything that can be done to a session, or happen to it, from outside.  What it
comes to is said once, by `Performed`, and what holds after every operation is proved by cases of
that.  A session is `Reachable` if a new one comes to it by operations, each with a backend of its
own.  In every reachable session the ids and the names of blocks are apart (`Reachable.sound`).
-/

namespace Workbook

inductive Operation where
  | command (c : Command)
  | replaceImage (id : BlockId) (mime : String) (bytes : List UInt8)
  | propagate (seeds : List BlockId) (force : Bool)
  | revalidate (ids : List BlockId)
  | flushDue
  /-- Time passes. -/
  | advance (milliseconds : Nat)
  /-- The archive is given other contents, or other faults. -/
  | rearchive (archive : Archive)

/-- The archive after blocks were handed to it. -/
def Archive.handed (a : Archive) (blocks : List Block) : Archive :=
  match a.saveFault with
  | some _ => a
  | none => { a with saved := blocks }

namespace Session

def perform (backend : Backend) (s : Session) : Operation → Session
  | .command c => (s.execute backend c).2
  | .replaceImage id mime bytes => (s.replaceImage backend id mime bytes).2
  | .propagate seeds force => (s.propagate backend seeds force).2
  | .revalidate ids => (s.revalidate ids).2
  | .flushDue => (s.flushDue backend).2
  | .advance milliseconds => { s with now := s.now + milliseconds }
  | .rearchive archive => { s with archive }

/-- The sessions that a new one comes to by allowed operations, if all sessions on the way are as
`holds` says. -/
inductive ReachedBy (allowed : Operation → Prop) (holds : Session → Prop) : Session → Prop
  | start (settings : Settings) (source : IdSource) (archive : Archive) (watched : Bool) :
    ReachedBy allowed holds (start settings source archive watched)
  | perform {s : Session} (h : ReachedBy allowed holds s) (backend : Backend) (o : Operation)
    (ha : allowed o) (hp : holds (s.perform backend o)) :
    ReachedBy allowed holds (s.perform backend o)

def Reachable (s : Session) : Prop := ReachedBy (fun _ => True) (fun _ => True) s

theorem ReachedBy.reachable {allowed : Operation → Prop} {holds : Session → Prop} {s : Session}
    (h : ReachedBy allowed holds s) : s.Reachable := by
  induction h with
  | start => exact .start ..
  | perform _ backend o _ _ ih => exact .perform ih backend o trivial trivial

/-! ## What saving and notices leave alone -/

section
variable (s : Session)

@[simp]
theorem store_emit (e : Event) : (s.emit e).store = s.store := by
  rw [emit_eq]

@[simp]
theorem parking_emit (e : Event) : (s.emit e).parking = s.parking := by
  rw [emit_eq]

@[simp]
theorem graph_emit (e : Event) : (s.emit e).graph = s.graph := by
  rw [emit_eq]

theorem save_cases : s.save = s ∨ s.save =
    ({ s with archive := { s.archive with saved := s.store.blocks } } : Session).emit
      (.persisted s.store.size) := by
  unfold save
  split
  · exact .inl rfl
  · exact .inr rfl

@[simp]
theorem store_save : s.save.store = s.store := by
  rcases s.save_cases with e | e <;> rw [e]
  rw [store_emit]

@[simp]
theorem parking_save : s.save.parking = s.parking := by
  rcases s.save_cases with e | e <;> rw [e]
  rw [parking_emit]

@[simp]
theorem graph_save : s.save.graph = s.graph := by
  rcases s.save_cases with e | e <;> rw [e]
  rw [graph_emit]

@[simp]
theorem requests_save : s.save.requests = s.requests := by
  rcases s.save_cases with e | e <;> rw [e]
  rw [requests_emit]
  rfl

theorem archive_save : s.save.archive = s.archive.handed s.store.blocks := by
  unfold Archive.handed
  cases fault : s.archive.saveFault with
  | some e =>
    have refused : s.save = s := by
      rw [save, fault]
    rw [refused]
  | none =>
    have taken : s.save.archive = { s.archive with saved := s.store.blocks } := by
      rw [save, fault]
      dsimp only
      rw [emit_eq]
    rw [taken]
    simp only [fault]

@[simp]
theorem store_regraph : s.regraph.store = s.store := rfl

@[simp]
theorem parking_regraph : s.regraph.parking = s.parking := rfl

@[simp]
theorem store_graphChanged : s.graphChanged.store = s.store := store_emit _ _

@[simp]
theorem parking_graphChanged : s.graphChanged.parking = s.parking := parking_emit _ _

@[simp]
theorem graph_graphChanged : s.graphChanged.graph = .ofStore s.store := graph_emit _ _

theorem store_graphChanged_save : s.graphChanged.save.store = s.store := by
  rw [store_save, store_graphChanged]

theorem parking_graphChanged_save : s.graphChanged.save.parking = s.parking := by
  rw [parking_save, parking_graphChanged]

theorem graph_graphChanged_save : s.graphChanged.save.graph = .ofStore s.store := by
  rw [graph_save, graph_graphChanged]

end

/-! ## Batches -/

theorem framed_run {s : Session} (hs : s.store.Sound) (backend : Backend) (seeds : List BlockId)
    (force : Bool) : Batch.Framed s force ((Batch.start s seeds force).run backend) :=
  (Batch.stage_steps hs backend seeds force _).framed

theorem propagate_cases (backend : Backend) (s : Session) (seeds : List BlockId) (force : Bool) :
    (s.propagate backend seeds force).2 = ((Batch.start s seeds force).run backend).session ∨
      (s.propagate backend seeds force).2 =
        ((Batch.start s seeds force).run backend).session.save := by
  unfold propagate
  dsimp only
  split
  · exact .inl rfl
  · exact .inr rfl

theorem alike_propagate {s : Session} (hs : s.store.Sound) (backend : Backend)
    (seeds : List BlockId) (force : Bool) :
    (s.propagate backend seeds force).2.store.Alike s.store := by
  have framed := framed_run hs backend seeds force
  rcases propagate_cases backend s seeds force with e | e <;> rw [e]
  · exact framed.alike
  · rw [store_save]
    exact framed.alike

theorem parking_propagate {s : Session} (hs : s.store.Sound) (backend : Backend)
    (seeds : List BlockId) (force : Bool) :
    (s.propagate backend seeds force).2.parking = s.parking := by
  have framed := framed_run hs backend seeds force
  rcases propagate_cases backend s seeds force with e | e <;> rw [e]
  · exact framed.continues.parking_eq
  · rw [parking_save]
    exact framed.continues.parking_eq

theorem graph_propagate {s : Session} (hs : s.store.Sound) (backend : Backend)
    (seeds : List BlockId) (force : Bool) :
    (s.propagate backend seeds force).2.graph = .ofStore s.store := by
  have framed := framed_run hs backend seeds force
  rcases propagate_cases backend s seeds force with e | e <;> rw [e]
  · exact framed.graph_eq
  · rw [graph_save]
    exact framed.graph_eq

theorem archive_propagate {s : Session} (hs : s.store.Sound) (backend : Backend)
    (seeds : List BlockId) (force : Bool) :
    (s.propagate backend seeds force).2.archive =
      if (s.propagate backend seeds force).1.computed.isEmpty then s.archive
      else s.archive.handed (s.propagate backend seeds force).2.store.blocks := by
  have kept : ((Batch.start s seeds force).run backend).session.archive = s.archive :=
    (framed_run hs backend seeds force).archive_eq
  unfold propagate
  dsimp only
  split
  · exact kept
  · rw [archive_save, store_save, kept]

theorem alike_propagateSome {s : Session} (hs : s.store.Sound) (backend : Backend)
    (ids : List BlockId) : (s.propagateSome backend ids).store.Alike s.store := by
  unfold propagateSome
  split
  · exact .refl _
  · exact alike_propagate hs backend _ false

/-! ## What operations come to -/

/-- What becomes of a request to compute a block. -/
inductive Requested (backend : Backend) (s : Session) (id : BlockId) (immediate : Bool) :
    Session → Prop
  | parked (b : Block) (due : Nat) (hb : s.store.get? id = some b) (hi : immediate = false)
    (hd : s.readyAt? b = some due) (hn : s.now < due) :
    Requested backend s id immediate { s with parking := s.parking.insert id due }
  | computed (b : Block) (hb : s.store.get? id = some b)
    (hi : immediate = true ∨ ∀ due, s.readyAt? b = some due → due ≤ s.now) :
    Requested backend s id immediate
      (({ s with parking := s.parking.erase id } : Session).propagate backend [id] false).2

/-- What becomes of a session when an operation is performed. -/
inductive Performed (backend : Backend) (s : Session) : Operation → Session → Prop
  /-- The operation was refused, or it only looks.  Ids may have been drawn, and the graph made
  anew. -/
  | unchanged (o : Operation) (source : IdSource) (graph : Graph)
    (hg : graph = s.graph ∨ graph = .ofStore s.store) :
    Performed backend s o { s with source, graph }
  | load {store : Store} (h : s.store.replaceAll s.archive.saved = .ok store) :
    Performed backend s (.command .load)
      (({ s with store, parking := {} } : Session).graphChanged.propagate backend store.ids true).2
  | create {kind : Kind} {name data : String} {transform : Option String} {id : BlockId}
    {store : Store} {source : IdSource}
    (h : s.store.insert s.source kind name data transform = (.ok (id, store), source)) :
    Performed backend s (.command (.create kind name data transform))
      (adopt backend { s with store, source } id (if kind = .static then [id] else []))
  | importImage {name mime : String} {bytes : List UInt8} {id : BlockId} {store : Store}
    {source : IdSource}
    (h : s.store.insert s.source .importedImage name "" none = (.ok (id, store), source)) :
    Performed backend s (.command (.importImage name mime bytes))
      (adopt backend
        { s with
          store := store.modify id fun b => { b with content := some (.binary mime bytes) }
          source } id [])
  | editData {id : BlockId} {data : String} {store : Store} {t : Session}
    (h : s.store.setData id data = .ok store)
    (ht : Requested backend ({ s with store } : Session).graphChanged.save id false t) :
    Performed backend s (.command (.editData id data)) t
  | editTransform {id : BlockId} {transform : String} {store : Store} {t : Session}
    (h : s.store.setTransform id transform = .ok store)
    (ht : Requested backend ({ s with store } : Session).save id false t) :
    Performed backend s (.command (.editTransform id transform)) t
  | rename {id : BlockId} {name applied : String} {store : Store}
    (h : s.store.rename id name = .ok (applied, store)) :
    Performed backend s (.command (.rename id name))
      (({ s.regraph with store } : Session).graphChanged.save.propagateSome backend
        ((Graph.ofStore s.store).dependents id ++ ((Graph.ofStore store).dependents id).filter
          fun d => !((Graph.ofStore s.store).dependents id).contains d))
  | setAccess {id : BlockId} {access : Access} {store : Store}
    (h : s.store.setAccess id access = .ok store) :
    Performed backend s (.command (.setAccess id access)) ({ s with store } : Session).save
  | delete {id : BlockId} {b : Block} {store : Store} (h : s.store.delete id = .ok (b, store)) :
    Performed backend s (.command (.delete id))
      ((((({ s.regraph with
        store, graph := (Graph.ofStore s.store).removeNode id
        parking := s.parking.erase id } : Session).emit (.blockRemoved id)).graphChanged.save).revalidate
          ((Graph.ofStore s.store).dependents id)).2)
  | duplicate {id copy : BlockId} {store : Store} {source : IdSource}
    (h : s.store.duplicate s.source id = (.ok (copy, store), source)) :
    Performed backend s (.command (.duplicate id)) (adopt backend { s with store, source } copy [])
  | move {id : BlockId} {index : Nat} {store : Store} (h : s.store.moveTo id index = .ok store) :
    Performed backend s (.command (.move id index)) ({ s with store } : Session).save
  | requestUpdate {id : BlockId} {immediate : Bool} {t : Session}
    (ht : Requested backend s id immediate t) :
    Performed backend s (.command (.requestUpdate id immediate)) t
  | flushDeferred (hne : s.parking.ids ≠ []) :
    Performed backend s (.command .flushDeferred)
      (({ s with parking := s.parking.ids.foldl Parking.erase s.parking } : Session).propagate backend
        s.parking.ids false).2
  | flushDue (hne : s.parking.dueAt s.now ≠ []) :
    Performed backend s .flushDue
      (({ s with
        parking := (s.parking.dueAt s.now).foldl Parking.erase s.parking } : Session).propagate
          backend (s.parking.dueAt s.now) false).2
  | replaceImage {id : BlockId} {mime : String} {bytes : List UInt8} {b : Block}
    (hb : s.store.get? id = some b) (hk : b.kind = .importedImage) :
    Performed backend s (.replaceImage id mime bytes)
      ((((s.modify id fun b => { b with content := some (.binary mime bytes) }).save.emit
        (.contentUpdated id)).regraph).propagate backend
          ((Graph.ofStore (s.store.modify id fun b =>
            { b with content := some (.binary mime bytes) })).dependents id) false).2
  | propagate (seeds : List BlockId) (force : Bool) :
    Performed backend s (.propagate seeds force) (s.propagate backend seeds force).2
  | revalidate (ids : List BlockId) : Performed backend s (.revalidate ids) (s.revalidate ids).2
  | advance (milliseconds : Nat) :
    Performed backend s (.advance milliseconds) { s with now := s.now + milliseconds }
  | rearchive (archive : Archive) : Performed backend s (.rearchive archive) { s with archive }

theorem requestUpdate_requested {s : Session} {id : BlockId} (h : id ∈ s.store.ids)
    (backend : Backend) (immediate : Bool) :
    s.Requested backend id immediate (s.requestUpdate backend id immediate).2 := by
  obtain ⟨b, hb⟩ := Store.exists_get? h
  unfold requestUpdate Store.need
  rw [hb]
  dsimp only
  cases immediate with
  | true => exact .computed b hb (.inl rfl)
  | false =>
    cases hd : s.readyAt? b with
    | none => exact .computed b hb (.inr fun due h => by rw [hd] at h; cases h)
    | some due =>
      by_cases hn : s.now < due
      · rw [Option.filter_some_pos (by simpa using hn)]
        exact .parked b due hb rfl hd hn
      · rw [Option.filter_some_neg (by simpa using hn)]
        refine .computed b hb (.inr fun due' h => ?_)
        rw [hd] at h
        cases h
        omega

theorem Performed.same (backend : Backend) (s : Session) (o : Operation) :
    s.Performed backend o s :=
  .unchanged o s.source s.graph (.inl rfl)

/-- Loading fails and leaves the session as it was, or it puts the archived blocks in place and
computes them. -/
theorem load_cases (backend : Backend) (s : Session) :
    (∃ e, s.load backend = (.error e, s)) ∨
      s.archive.loadFault = none ∧ ∃ store, s.store.replaceAll s.archive.saved = .ok store ∧
        ∃ report, s.load backend = (.ok report,
          (({ s with store, parking := {} } : Session).graphChanged.propagate backend store.ids
            true).2) := by
  unfold load
  split
  · exact .inl ⟨_, rfl⟩
  · rename_i intact
    cases h : s.store.replaceAll s.archive.saved with
    | error e => exact .inl ⟨_, rfl⟩
    | ok store =>
      refine .inr ⟨intact, store, rfl, _, Prod.ext rfl ?_⟩
      dsimp only
      rw [store_graphChanged]

theorem load_performed (backend : Backend) (s : Session) :
    s.Performed backend (.command .load) (s.load backend).2 := by
  rcases load_cases backend s with ⟨e, failed⟩ | ⟨-, store, h, report, loaded⟩
  · rw [failed]
    exact .same ..
  · rw [loaded]
    exact .load h

theorem create_performed (backend : Backend) (s : Session) (kind : Kind) (name data : String)
    (transform : Option String) :
    s.Performed backend (.command (.create kind name data transform))
      (s.create backend kind name data transform).2 := by
  unfold create
  rcases h : s.store.insert s.source kind name data transform with ⟨result, source⟩
  cases result with
  | error e => exact .unchanged _ source s.graph (.inl rfl)
  | ok p => exact .create h

theorem importImage_performed (backend : Backend) (s : Session) (name mime : String)
    (bytes : List UInt8) :
    s.Performed backend (.command (.importImage name mime bytes))
      (s.importImage backend name mime bytes).2 := by
  unfold importImage
  rcases h : s.store.insert s.source .importedImage name "" none with ⟨result, source⟩
  cases result with
  | error e => exact .unchanged _ source s.graph (.inl rfl)
  | ok p => exact .importImage h

theorem editData_performed (backend : Backend) (s : Session) (id : BlockId) (data : String) :
    s.Performed backend (.command (.editData id data)) (s.editData backend id data).2 := by
  unfold editData
  cases h : s.store.setData id data with
  | error e => exact .same ..
  | ok store =>
    obtain ⟨hid, e⟩ := Store.setData_eq_ok h
    refine .editData h (requestUpdate_requested ?_ backend false)
    rw [store_graphChanged_save]
    show id ∈ store.ids
    rw [e, Store.ids_modify]
    · exact hid
    · exact fun _ => rfl

theorem editTransform_performed (backend : Backend) (s : Session) (id : BlockId)
    (transform : String) :
    s.Performed backend (.command (.editTransform id transform))
      (s.editTransform backend id transform).2 := by
  unfold editTransform
  cases h : s.store.setTransform id transform with
  | error e => exact .same ..
  | ok store =>
    obtain ⟨hid, e⟩ := Store.setTransform_eq_ok h
    refine .editTransform h (requestUpdate_requested ?_ backend false)
    rw [store_save]
    show id ∈ store.ids
    rw [e, Store.ids_modify]
    · exact hid
    · exact fun _ => rfl

theorem rename_performed (backend : Backend) (s : Session) (id : BlockId) (name : String) :
    s.Performed backend (.command (.rename id name)) (s.rename backend id name).2 := by
  unfold rename
  dsimp only
  cases h : s.regraph.store.rename id name with
  | error e => exact .unchanged _ s.source _ (.inr rfl)
  | ok p =>
    obtain ⟨applied, store⟩ := p
    dsimp only [adoptName]
    rw [graph_graphChanged]
    exact .rename h

theorem setAccess_performed (backend : Backend) (s : Session) (id : BlockId) (access : Access) :
    s.Performed backend (.command (.setAccess id access)) (s.setAccess id access).2 := by
  unfold setAccess
  cases h : s.store.setAccess id access with
  | error e => exact .same ..
  | ok store => exact .setAccess h

theorem delete_performed (backend : Backend) (s : Session) (id : BlockId) :
    s.Performed backend (.command (.delete id)) (s.delete id).2 := by
  unfold delete
  dsimp only
  cases h : s.regraph.store.delete id with
  | error e => exact .unchanged _ s.source _ (.inr rfl)
  | ok p => exact .delete h

theorem duplicate_performed (backend : Backend) (s : Session) (id : BlockId) :
    s.Performed backend (.command (.duplicate id)) (s.duplicate backend id).2 := by
  unfold duplicate
  rcases h : s.store.duplicate s.source id with ⟨result, source⟩
  cases result with
  | error e => exact .unchanged _ source s.graph (.inl rfl)
  | ok p => exact .duplicate h

theorem move_performed (backend : Backend) (s : Session) (id : BlockId) (index : Nat) :
    s.Performed backend (.command (.move id index)) (s.move id index).2 := by
  unfold move
  cases h : s.store.moveTo id index with
  | error e => exact .same ..
  | ok store => exact .move h

theorem replaceImage_performed (backend : Backend) (s : Session) (id : BlockId) (mime : String)
    (bytes : List UInt8) :
    s.Performed backend (.replaceImage id mime bytes) (s.replaceImage backend id mime bytes).2 := by
  unfold replaceImage Store.need
  cases hb : s.store.get? id with
  | none => exact .same ..
  | some b =>
    dsimp only
    split
    · exact .same ..
    · rename_i hk
      let changed := s.modify id fun b => { b with content := some (.binary mime bytes) }
      let noticed := (changed.save.emit (.contentUpdated id)).regraph
      have e : noticed.graph = .ofStore changed.store := by
        show Graph.ofStore (changed.save.emit (.contentUpdated id)).store = _
        rw [store_emit, store_save]
      have performed : s.Performed backend (.replaceImage id mime bytes) _ :=
        .replaceImage hb (Decidable.of_not_not hk)
      have seeds : (Graph.ofStore changed.store).dependents id = noticed.graph.dependents id := by
        rw [e]
      exact seeds ▸ performed

theorem requestUpdate_performed (backend : Backend) (s : Session) (id : BlockId)
    (immediate : Bool) :
    s.Performed backend (.command (.requestUpdate id immediate))
      (s.requestUpdate backend id immediate).2 := by
  by_cases hid : id ∈ s.store.ids
  · exact .requestUpdate (requestUpdate_requested hid backend immediate)
  · unfold requestUpdate Store.need
    rw [Store.get?_eq_none_iff.mpr hid]
    exact .same ..

theorem resolve_performed (backend : Backend) (s : Session) (id : BlockId) :
    s.Performed backend (.command (.resolve id)) (s.resolve id).2 := by
  unfold resolve
  cases s.store.need id with
  | error e => exact .same ..
  | ok b => exact .unchanged _ s.source _ (.inr rfl)

theorem flushDeferred_performed (backend : Backend) (s : Session) :
    s.Performed backend (.command .flushDeferred) (s.runDeferred backend).2 := by
  unfold runDeferred runParked
  split
  · exact .same ..
  · rename_i hne
    exact .flushDeferred fun h => hne h

theorem flushDue_performed (backend : Backend) (s : Session) :
    s.Performed backend .flushDue (s.flushDue backend).2 := by
  unfold flushDue runParked
  split
  · exact .same ..
  · rename_i hne
    exact .flushDue fun h => hne h

/-- What operations come to. -/
theorem perform_performed (backend : Backend) (s : Session) (o : Operation) :
    s.Performed backend o (s.perform backend o) := by
  cases o with
  | command c =>
    cases c with
    | load => exact load_performed backend s
    | create kind name data transform => exact create_performed backend s kind name data transform
    | importImage name mime bytes => exact importImage_performed backend s name mime bytes
    | editData id data => exact editData_performed backend s id data
    | editTransform id transform => exact editTransform_performed backend s id transform
    | rename id name => exact rename_performed backend s id name
    | setAccess id access => exact setAccess_performed backend s id access
    | delete id => exact delete_performed backend s id
    | duplicate id => exact duplicate_performed backend s id
    | move id index => exact move_performed backend s id index
    | requestUpdate id immediate => exact requestUpdate_performed backend s id immediate
    | flushDeferred => exact flushDeferred_performed backend s
    | resolve id => exact resolve_performed backend s id
    | getBlocks => exact .same ..
    | getEdges => exact .same ..
  | replaceImage id mime bytes => exact replaceImage_performed backend s id mime bytes
  | propagate seeds force => exact .propagate seeds force
  | revalidate ids => exact .revalidate ids
  | flushDue => exact flushDue_performed backend s
  | advance milliseconds => exact .advance milliseconds
  | rearchive archive => exact .rearchive archive

/-! ## Looking at references again -/

/-- Looks at the references of one block again. -/
def recheck (s : Session) (id : BlockId) : Session :=
  match s.store.get? id with
  | none => s
  | some b =>
    let r := s.store.resolve (.ofStore s.store) b.data b.name
    if r.invalid.isEmpty then s.regraph
    else s.regraph.setStatus id (.failed ("invalid references: " ++ ", ".intercalate r.invalid))

theorem revalidate_eq (s : Session) (ids : List BlockId) :
    (s.revalidate ids).2 = ids.foldl recheck s := by
  unfold revalidate
  refine (List.foldl_hom Prod.snd ?_).symm
  intro p id
  obtain ⟨report, s⟩ := p
  rw [recheck]
  dsimp only
  cases s.store.get? id with
  | none => rfl
  | some b => rfl

theorem recheck_cases (s : Session) (id : BlockId) :
    s.recheck id = s ∨ s.recheck id = s.regraph ∨
      ∃ message, s.recheck id = s.regraph.refuse id message := by
  unfold recheck
  split
  · exact .inl rfl
  · rename_i b hb
    dsimp only
    split
    · exact .inr (.inl rfl)
    · obtain ⟨hmem, hid⟩ := Store.mem_of_get? hb
      have hc : s.regraph.store.contains id = true :=
        Store.contains_iff.mpr (Store.mem_ids.mpr ⟨b, hmem, hid⟩)
      exact .inr (.inr ⟨_, refuse_eq hc _⟩)

theorem alike_recheck (s : Session) (id : BlockId) : (s.recheck id).store.Alike s.store := by
  rcases s.recheck_cases id with e | e | ⟨message, e⟩ <;> rw [e]
  · exact .refl _
  · exact .refl _
  · exact (Continues.refuse s.regraph id message).alike

theorem alike_revalidate (s : Session) (ids : List BlockId) :
    (s.revalidate ids).2.store.Alike s.store := by
  rw [revalidate_eq]
  induction ids generalizing s with
  | nil => exact .refl _
  | cons id ids ih => exact (ih (s.recheck id)).trans (alike_recheck s id)

/-! ## Sound stores -/

section
variable {s : Session}

theorem sound_save (h : s.store.Sound) : s.save.store.Sound := by
  rw [store_save]
  exact h

theorem sound_graphChanged_save (h : s.store.Sound) : s.graphChanged.save.store.Sound := by
  rw [store_graphChanged_save]
  exact h

theorem sound_loaded {store : Store} (h : s.store.replaceAll s.archive.saved = .ok store) :
    ({ s with store, parking := {} } : Session).graphChanged.store.Sound := by
  rw [store_graphChanged]
  exact (Store.Sound.replaceAll h).1

theorem sound_replaced (h : s.store.Sound) (id : BlockId) (mime : String) (bytes : List UInt8) :
    ((s.modify id fun b => { b with content := some (.binary mime bytes) }).save.emit
      (.contentUpdated id)).regraph.store.Sound := by
  rw [store_regraph, store_emit, store_save]
  exact h.modify (fun _ => rfl) fun _ => rfl

end

theorem alike_adopt {s : Session} (hs : s.store.Sound) (backend : Backend) (id : BlockId)
    (first : List BlockId) : (s.adopt backend id first).store.Alike s.store := by
  have e := store_graphChanged_save s
  have alike := alike_propagateSome (s := s.graphChanged.save) (e ▸ hs) backend
    (first ++ s.graphChanged.save.graph.dependents id)
  rw [e] at alike
  exact alike

theorem Requested.alike {backend : Backend} {s t : Session} {id : BlockId} {immediate : Bool}
    (h : s.Requested backend id immediate t) (hs : s.store.Sound) : t.store.Alike s.store := by
  cases h with
  | parked => exact .refl _
  | computed => exact alike_propagate (s := { s with parking := s.parking.erase id }) hs ..

theorem sound_propagate {s : Session} (hs : s.store.Sound) (backend : Backend)
    (seeds : List BlockId) (force : Bool) : (s.propagate backend seeds force).2.store.Sound :=
  (alike_propagate hs backend seeds force).sound hs

theorem sound_adopt {s : Session} (hs : s.store.Sound) (backend : Backend) (id : BlockId)
    (first : List BlockId) : (s.adopt backend id first).store.Sound :=
  (alike_adopt hs backend id first).sound hs

theorem Requested.sound {backend : Backend} {s t : Session} {id : BlockId} {immediate : Bool}
    (h : s.Requested backend id immediate t) (hs : s.store.Sound) : t.store.Sound :=
  (h.alike hs).sound hs

/-- Every operation leaves the ids and the names of blocks apart. -/
theorem Performed.sound {backend : Backend} {s t : Session} {o : Operation}
    (h : s.Performed backend o t) (hs : s.store.Sound) : t.store.Sound := by
  cases h with
  | unchanged => exact hs
  | load h => exact sound_propagate (sound_loaded h) ..
  | create h =>
    have hi := Store.Sound.insertAt hs (congrArg Prod.fst h)
    exact sound_adopt (s := { s with store := _, source := _ }) hi ..
  | importImage h =>
    have hi := Store.Sound.insertAt hs (congrArg Prod.fst h)
    refine sound_adopt ?_ ..
    exact hi.modify (fun _ => rfl) fun _ => rfl
  | editData h ht => exact ht.sound (sound_graphChanged_save (hs.setData h))
  | editTransform h ht => exact ht.sound (sound_save (hs.setTransform h))
  | @rename id name applied store h =>
    have hr : ({ s.regraph with store } : Session).graphChanged.save.store.Sound :=
      sound_graphChanged_save (hs.rename h)
    exact (alike_propagateSome hr ..).sound hr
  | setAccess h =>
    rw [store_save]
    show Store.Sound _
    rw [(Store.update_eq_ok h).2]
    exact hs.modify (fun _ => rfl) fun _ => rfl
  | delete h =>
    apply (alike_revalidate _ _).sound
    rw [store_graphChanged_save, store_emit]
    exact hs.delete h
  | duplicate h =>
    obtain ⟨b, index, -, hi⟩ := Store.duplicate_eq_ok (congrArg Prod.fst h)
    exact sound_adopt (s := { s with store := _, source := _ }) (hs.insertAt hi) ..
  | move h => exact sound_save (hs.moveTo h)
  | requestUpdate ht => exact ht.sound hs
  | flushDeferred =>
    refine sound_propagate ?_ ..
    exact hs
  | flushDue =>
    refine sound_propagate ?_ ..
    exact hs
  | replaceImage => exact sound_propagate (sound_replaced hs ..) ..
  | propagate seeds force => exact sound_propagate hs ..
  | revalidate ids => exact (alike_revalidate s ids).sound hs
  | advance => exact hs
  | rearchive => exact hs

theorem Reachable.sound {s : Session} (h : s.Reachable) : s.store.Sound := by
  induction h with
  | start settings => exact Store.sound_empty settings
  | @perform s _ backend o _ _ ih => exact (perform_performed backend s o).sound ih

/-! ## Operations one after another -/

/-- Operations performed one after another, each with a backend of its own. -/
def performAll (s : Session) (steps : List (Backend × Operation)) : Session :=
  steps.foldl (fun s step => s.perform step.1 step.2) s

theorem performAll_append (s : Session) (steps more : List (Backend × Operation)) :
    s.performAll (steps ++ more) = (s.performAll steps).performAll more :=
  List.foldl_append

theorem performAll_take_succ (s : Session) {steps : List (Backend × Operation)} {n : Nat}
    (hn : n < steps.length) :
    s.performAll (steps.take (n + 1)) =
      (s.performAll (steps.take n)).perform steps[n].1 steps[n].2 := by
  rw [List.take_succ_eq_append_getElem hn, performAll_append]
  rfl

/-- A run keeps what each of its operations keeps. -/
theorem performAll_induction {motive : Session → Prop} {s : Session}
    {steps : List (Backend × Operation)} (hs : s.store.Sound) (h : motive s)
    (keeps : ∀ t : Session, t.store.Sound → motive t → ∀ p ∈ steps, motive (t.perform p.1 p.2)) :
    motive (s.performAll steps) := by
  induction steps generalizing s with
  | nil => exact h
  | cons p steps ih =>
    exact ih ((perform_performed p.1 s p.2).sound hs) (keeps s hs h p (List.mem_cons_self ..))
      fun t ht kept q hq => keeps t ht kept q (List.mem_cons_of_mem p hq)

theorem Reachable.performAll {s : Session} (h : s.Reachable)
    (steps : List (Backend × Operation)) : (s.performAll steps).Reachable :=
  performAll_induction h.sound h fun _ _ ht p _ => ht.perform p.1 p.2 trivial trivial

/-! ## Small sessions -/

/-- Operations lead from reachable sessions to reachable ones. -/
theorem Reachable.foldl_perform {α : Type} {s : Session} (h : s.Reachable) (backend : Backend)
    (operation : α → Operation) (xs : List α) :
    (xs.foldl (fun s x => s.perform backend (operation x)) s).Reachable := by
  induction xs generalizing s with
  | nil => exact h
  | cons x xs ih => exact ih (.perform h backend _ trivial trivial)

/-- A new session in which blocks of the given kinds, names and texts are created one after another,
with a generator that answers with the text of the request. -/
def ofTexts (blocks : List (Kind × String × String)) : Session :=
  let backend : Backend := { answer := fun r => .ok (.text r.input) }
  let source : IdSource := { word := fun j => UInt32.ofNat ((j + 1) * 2654435769) }
  blocks.foldl (fun s b => s.perform backend (.command (.create b.1 b.2.1 b.2.2 none)))
    (start {} source {} true)

theorem reachable_ofTexts (blocks : List (Kind × String × String)) :
    (ofTexts blocks).Reachable := by
  unfold ofTexts
  refine Reachable.foldl_perform ?_ _
    (fun b : Kind × String × String => .command (.create b.1 b.2.1 b.2.2 none)) blocks
  exact .start ..

/-- A new session that has loaded the given blocks, with a generator that answers with the text of
the request. -/
def ofBlocks (blocks : List Block) : Session :=
  let backend : Backend := { answer := fun r => .ok (.text r.input) }
  let source : IdSource := { word := fun j => UInt32.ofNat ((j + 1) * 2654435769) }
  (start {} source { saved := blocks } true).perform backend (.command .load)

theorem reachable_ofBlocks (blocks : List Block) : (ofBlocks blocks).Reachable := by
  have begun : (start {} { word := fun j => UInt32.ofNat ((j + 1) * 2654435769) }
      { saved := blocks } true).Reachable := .start ..
  exact begun.perform _ (.command .load) trivial trivial

/-- Three blocks that mention each other in a circle, and a block by itself. -/
def circle : Session :=
  ofTexts [(.generativeText, "a", "[c]"), (.static, "b", "[a]"), (.static, "c", "[b]!"),
    (.generativeText, "d", "x")]

theorem reachable_circle : circle.Reachable := reachable_ofTexts _

/-- Three blocks, of which each but the first mentions the one before it. -/
def line : Session :=
  ofTexts [(.generativeText, "a", "x"), (.static, "b", "[a]"), (.static, "c", "[b]")]

theorem reachable_line : line.Reachable := reachable_ofTexts _

end Session
end Workbook
