import Workbook.Proofs.Resolution.Reading
import Workbook.Session.Batch

/-!
What a turn comes to.

Everything that a batch does to a block is one of three changes: it fills the block with content,
it marks it as waiting for an answer, or it marks it as failed (`Session.fill`, `Session.await`,
`Session.refuse`).  `takeTurn_taken` says which of them a turn makes, and when; `Taken` is all that
later proofs need to know about turns.  `Session.requests` are the requests of the journal.
-/

namespace Workbook

theorem Kind.eq_static {k : Kind} (h : k.recomputes = true) (hg : ¬ k.isGenerative = true) :
    k = .static := by
  cases k with
  | static => rfl
  | generativeText => exact absurd rfl hg
  | generativeImage => exact absurd rfl hg
  | separator => cases h
  | importedImage => cases h

namespace Block

def filled (content : Content) (input : String) (applied : Option String) (b : Block) : Block :=
  { b with content := some content, input := some input, applied, status := .done }

def awaiting (now : Nat) (b : Block) : Block := { b with requested := some now, status := .waiting }

def refused (message : String) (b : Block) : Block := { b with status := .failed message }

end Block

/-- The request that is put to the generator for a block. -/
def Store.requestFor (s : Store) (b : Block) : Request where
  id := b.id
  name := b.name
  kind := b.kind
  input := s.resolvedText b
  transform := b.effectiveTransform.getD ""
  attachments := (s.resolve (.ofStore s) b.data b.name).attachments

/-- The request that a turn puts to the generator, if any. -/
def Turn.requests : Turn → List Request
  | .asked r => [r]
  | _ => []

def Moment.request? : Moment → Option Request
  | .asked r _ => some r
  | _ => none

namespace Session

/-- The requests that were put to the generator, in order. -/
def requests (s : Session) : List Request := s.journal.filterMap Moment.request?

/-- What the journal holds of an event: nothing while nobody receives events. -/
def told (s : Session) (e : Event) : List Moment := if s.watched then [.emitted e] else []

theorem emit_eq (s : Session) (e : Event) :
    s.emit e = { s with journal := s.journal ++ s.told e } := by
  unfold emit told
  split
  · rfl
  · rw [List.append_nil]

theorem told_of_watched {s : Session} (watched : s.watched = true) (e : Event) :
    s.told e = [.emitted e] := if_pos watched

theorem eq_of_mem_told {s : Session} {e : Event} {m : Moment} (h : m ∈ s.told e) :
    m = .emitted e := by
  unfold told at h
  split at h
  · exact List.mem_singleton.mp h
  · exact absurd h List.not_mem_nil

theorem request?_told (s : Session) (e : Event) : (s.told e).filterMap Moment.request? = [] := by
  unfold told
  split <;> rfl

@[simp]
theorem requests_emit (s : Session) (e : Event) : (s.emit e).requests = s.requests := by
  rw [emit_eq, requests, List.filterMap_append, request?_told, List.append_nil]
  rfl

/-! ## The three changes -/

def fill (s : Session) (id : BlockId) (content : Content) (input : String)
    (applied : Option String) : Session :=
  { s with
    store := s.store.modify id (.filled content input applied)
    journal := s.journal ++ (s.told (.statusChanged id .done) ++ s.told (.contentUpdated id)) }

def await (s : Session) (r : Request) : Session :=
  { s with
    store := s.store.modify r.id (.awaiting s.now)
    journal := s.journal ++ (s.told (.statusChanged r.id .waiting) ++ [.asked r s.now]) }

def refuse (s : Session) (id : BlockId) (message : String) : Session :=
  { s with
    store := s.store.modify id (.refused message)
    journal := s.journal ++ s.told (.statusChanged id (.failed message)) }

theorem setStatus_eq {s : Session} {id : BlockId} (h : s.store.contains id = true)
    (status : Status) : s.setStatus id status =
      { s with
        store := s.store.modify id fun b => { b with status }
        journal := s.journal ++ s.told (.statusChanged id status) } := by
  rw [setStatus, if_pos h, emit_eq]
  rfl

theorem setStatus_modify {s : Session} {id : BlockId} (h : s.store.contains id = true)
    {f : Block → Block} (hf : ∀ b, (f b).id = b.id) (status : Status) :
    (s.modify id f).setStatus id status =
      { s with
        store := s.store.modify id fun b => { f b with status }
        journal := s.journal ++ s.told (.statusChanged id status) } := by
  have hc : (s.modify id f).store.contains id = true := by
    rw [Store.contains_iff] at h ⊢
    show id ∈ (s.store.modify id f).ids
    rwa [Store.ids_modify hf]
  rw [setStatus_eq hc]
  show _ = { s with store := _, journal := _ }
  congr 1
  exact Store.modify_modify hf

theorem fill_eq {s : Session} {id : BlockId} (h : s.store.contains id = true) (content : Content)
    (input : String) (applied : Option String) :
    ((s.modify id fun b => { b with content := some content, input := some input, applied }).setStatus
      id .done).emit (.contentUpdated id) = s.fill id content input applied := by
  rw [setStatus_modify h, emit_eq, fill, ← List.append_assoc]
  · rfl
  · exact fun _ => rfl

theorem await_eq {s : Session} {r : Request} (h : s.store.contains r.id = true) :
    ((s.modify r.id fun b => { b with requested := some s.now }).setStatus r.id .waiting).record
      (.asked r s.now) = s.await r := by
  rw [setStatus_modify h, record, await, ← List.append_assoc]
  · rfl
  · exact fun _ => rfl

theorem refuse_eq {s : Session} {id : BlockId} (h : s.store.contains id = true)
    (message : String) : s.setStatus id (.failed message) = s.refuse id message := by
  rw [setStatus_eq h]
  rfl

@[simp]
theorem requests_fill (s : Session) (id : BlockId) (content : Content) (input : String)
    (applied : Option String) : (s.fill id content input applied).requests = s.requests := by
  rw [fill, requests, List.filterMap_append, List.filterMap_append, request?_told, request?_told,
    List.append_nil, List.append_nil]
  rfl

@[simp]
theorem requests_await (s : Session) (r : Request) : (s.await r).requests = s.requests ++ [r] := by
  rw [await, requests, List.filterMap_append, List.filterMap_append, request?_told]
  rfl

@[simp]
theorem requests_refuse (s : Session) (id : BlockId) (message : String) :
    (s.refuse id message).requests = s.requests := by
  rw [refuse, requests, List.filterMap_append, request?_told, List.append_nil]
  rfl

@[simp]
theorem requests_record_resolved (s : Session) (id : BlockId) :
    (s.record (.resolved id)).requests = s.requests := by
  rw [record, requests, List.filterMap_append]
  exact List.append_nil _

@[simp]
theorem requests_record_answered (s : Session) (r : Request) :
    (s.record (.answered r)).requests = s.requests := by
  rw [record, requests, List.filterMap_append]
  exact List.append_nil _

/-! ## What stays the same -/

/-- The session `t` differs from `s` in the clock and the journal, and in blocks that have the same
outlines. -/
structure Continues (t s : Session) : Prop where
  alike : t.store.Alike s.store
  session_eq : t = { s with store := t.store, now := t.now, journal := t.journal }

namespace Continues

variable {s t u : Session}

theorem refl (s : Session) : Continues s s := ⟨.refl _, rfl⟩

theorem trans (hut : u.Continues t) (hts : t.Continues s) : u.Continues s where
  alike := hut.alike.trans hts.alike
  session_eq := by
    apply hut.session_eq.trans
    rw [hts.session_eq]

theorem graph_eq (h : t.Continues s) : t.graph = s.graph := by
  rw [h.session_eq]

theorem parking_eq (h : t.Continues s) : t.parking = s.parking := by
  rw [h.session_eq]

theorem journal (s : Session) (journal : List Moment) : Continues { s with journal } s :=
  ⟨.refl _, rfl⟩

theorem record (s : Session) (m : Moment) : (s.record m).Continues s := .journal s _

theorem emit (s : Session) (e : Event) : (s.emit e).Continues s := by
  rw [emit_eq]
  exact .journal s _

theorem fill (s : Session) (id : BlockId) (content : Content) (input : String)
    (applied : Option String) : (s.fill id content input applied).Continues s :=
  ⟨Store.alike_modify fun _ => rfl, rfl⟩

theorem await (s : Session) (r : Request) : (s.await r).Continues s :=
  ⟨Store.alike_modify fun _ => rfl, rfl⟩

theorem refuse (s : Session) (id : BlockId) (message : String) :
    (s.refuse id message).Continues s :=
  ⟨Store.alike_modify fun _ => rfl, rfl⟩

end Continues

/-! ## Turns -/

theorem isUnchanged_iff {s : Store} {b : Block} :
    isUnchanged b (s.resolvedText b) (b.effectiveTransform.getD "") = true ↔ b.IsCurrent s := by
  rw [isUnchanged, Bool.and_eq_true, beq_iff_eq, beq_iff_eq]
  rfl

/-- What a turn comes to, and the session after it. -/
inductive Taken (s : Session) (force : Bool) (id : BlockId) : Turn → Session → Prop
  /-- There is no block, or it is of a kind that is not computed. -/
  | inert (h : ∀ b, s.store.get? id = some b → b.kind.recomputes = false) :
    Taken s force id .skipped s
  | current (b : Block) (hb : s.store.get? id = some b) (hk : b.kind.recomputes = true)
    (hc : b.IsCurrent s.store) (hf : force = false) :
    Taken s force id .skipped (s.record (.resolved id))
  | applied (b : Block) (hb : s.store.get? id = some b) (hk : b.kind = .static)
    (hc : b.IsCurrent s.store → force = true) :
    Taken s force id .applied
      ((s.record (.resolved id)).fill id (.text (s.store.resolvedText b)) (s.store.resolvedText b)
        none)
  | asked (b : Block) (hb : s.store.get? id = some b) (hk : b.kind.isGenerative = true)
    (hc : b.IsCurrent s.store → force = true) :
    Taken s force id (.asked (s.store.requestFor b))
      ((s.record (.resolved id)).await (s.store.requestFor b))

theorem takeTurn_taken {s : Session} (hg : s.graph = .ofStore s.store) (force : Bool)
    (id : BlockId) : Taken s force id (s.takeTurn force id).1 (s.takeTurn force id).2 := by
  have regraph_eq : s.regraph = s := by
    rw [regraph, ← hg]
  unfold takeTurn
  split
  case h_1 h =>
    apply Taken.inert
    intro b hb
    rw [h] at hb
    cases hb
  case h_2 b hb =>
    obtain ⟨hmem, rfl⟩ := Store.mem_of_get? hb
    have hc : s.store.contains b.id = true :=
      Store.contains_iff.mpr (Store.mem_ids.mpr ⟨b, hmem, rfl⟩)
    simp only [resolveBlock, regraph_eq]
    rw [hg]
    by_cases hk : b.kind.recomputes = true
    · rw [if_neg (by rw [hk]; decide)]
      by_cases hskip : b.IsCurrent s.store ∧ force = false
      · have hu : isUnchanged b (s.store.resolve (.ofStore s.store) b.data b.name).text
            (b.effectiveTransform.getD "") = true := isUnchanged_iff.mpr hskip.1
        rw [if_pos (by rw [hu, hskip.2]; rfl)]
        exact .current b hb hk hskip.1 hskip.2
      · have hforce : b.IsCurrent s.store → force = true := by
          intro hcur
          rw [← Bool.not_eq_false]
          exact fun hf => hskip ⟨hcur, hf⟩
        have hu : ¬ (isUnchanged b (s.store.resolve (.ofStore s.store) b.data b.name).text
            (b.effectiveTransform.getD "") && !force) = true := by
          intro hu
          obtain ⟨hu, hf⟩ := Bool.and_eq_true_iff.mp hu
          rw [hforce (isUnchanged_iff.mp hu)] at hf
          exact Bool.noConfusion hf
        rw [if_neg hu]
        by_cases hgen : b.kind.isGenerative = true
        · rw [if_pos hgen]
          have turned := await_eq (s := s.record (.resolved b.id)) hc (r := s.store.requestFor b)
          exact turned ▸ .asked b hb hgen hforce
        · rw [if_neg hgen]
          have turned := fill_eq (s := s.record (.resolved b.id)) hc
            (.text (s.store.resolvedText b)) (s.store.resolvedText b) none
          exact turned ▸ .applied b hb (Kind.eq_static hk hgen) hforce
    · rw [Bool.not_eq_true] at hk
      rw [if_pos (by rw [hk]; rfl)]
      apply Taken.inert
      intro c hc
      rw [hb] at hc
      cases hc
      exact hk

theorem Taken.continues {s session : Session} {force : Bool} {id : BlockId} {turn : Turn}
    (h : s.Taken force id turn session) : session.Continues s := by
  cases h with
  | inert => exact .refl s
  | current => exact .record s _
  | applied => exact (Continues.fill ..).trans (.record s _)
  | asked => exact (Continues.await ..).trans (.record s _)

theorem Taken.requests_eq {s session : Session} {force : Bool} {id : BlockId} {turn : Turn}
    (h : s.Taken force id turn session) : session.requests = s.requests ++ turn.requests := by
  cases h with
  | inert => exact (List.append_nil _).symm
  | current => rw [requests_record_resolved]; exact (List.append_nil _).symm
  | applied =>
    rw [requests_fill, requests_record_resolved]
    exact (List.append_nil _).symm
  | asked => rw [requests_await, requests_record_resolved]; rfl

theorem Taken.id_asked {s session : Session} {force : Bool} {id : BlockId} {r : Request}
    (h : s.Taken force id (.asked r) session) : r.id = id := by
  cases h with
  | asked b hb => exact (Store.mem_of_get? hb).2

end Session
end Workbook
