import Workbook.Proofs.Store.Sound

/-!
Stores under edits, whatever their order and whether or not they fail.

A store that is edited in place has to be whole again when an edit fails.  Only the replacement of
all blocks touches them before it can know that it fails (`replaceInPlace`): it puts the former
blocks back, so what it leaves is what `replaceAll` answers with, or the store as it was
(`replaceInPlace_eq`).  `perform_cases` says what one edit does to a sound store, and
`edited_sound` follows a whole history of them from an empty store.
-/

namespace Workbook
namespace Store

/-! ## In place -/

/-- What stands after an operation that answers with a new store or fails. -/
def settled (s : Store) (answer : Except Error Store) : Except Error Unit × Store :=
  (answer.map fun _ => (), answer.toOption.getD s)

/-- Pushes blocks onto the store, giving a later block another name where names agree.  At an id
that is there already, the former blocks are put back. -/
def refill (former : List Block) (s : Store) : List Block → Except Error Unit × Store
  | [] => (.ok (), s)
  | b :: rest =>
    if s.contains b.id then (.error (.duplicateId b.id), { s with blocks := former })
    else
      let named := { b with name := s.uniqueName b.name none }
      refill former { s with blocks := s.blocks ++ [named] } rest

/-- Replaces all blocks in place: the store is emptied and filled again block by block. -/
def replaceInPlace (s : Store) (blocks : List Block) : Except Error Unit × Store :=
  if blocks.length > s.settings.maxBlocks then
    (.error (.tooManyBlocks blocks.length s.settings.maxBlocks), s)
  else refill s.blocks { s with blocks := [] } blocks

theorem refill_eq (former : List Block) (s : Store) (blocks : List Block) :
    refill former s blocks = settled { s with blocks := former } (s.append blocks) := by
  induction blocks generalizing s with
  | nil => rfl
  | cons b rest ih =>
    rw [refill, Store.append]
    split
    case isTrue => rfl
    case isFalse => exact ih _

theorem replaceInPlace_eq (s : Store) (blocks : List Block) :
    s.replaceInPlace blocks = s.settled (s.replaceAll blocks) := by
  unfold replaceInPlace replaceAll
  split
  case isTrue => rfl
  case isFalse => exact refill_eq s.blocks { s with blocks := [] } blocks

/-! ## Edits -/

/-- The operations on a store, with what they are given.  An operation that needs a fresh id is
given the words that the id is drawn from. -/
inductive Edit where
  | replaceAll (blocks : List Block)
  | insert (source : IdSource) (kind : Kind) (name data : String) (transform : Option String)
  | insertAt (source : IdSource) (index : Nat) (b : Block)
  | duplicate (source : IdSource) (id : BlockId)
  | rename (id : BlockId) (name : String)
  | setData (id : BlockId) (data : String)
  | setTransform (id : BlockId) (transform : String)
  | setContent (id : BlockId) (content : Option Content)
  | setAccess (id : BlockId) (access : Access)
  | setStatus (id : BlockId) (status : Status)
  | moveTo (id : BlockId) (index : Nat)
  | delete (id : BlockId)

/-- Whether the edit succeeds, and the store after it. -/
def perform (s : Store) : Edit → Except Error Unit × Store
  | .replaceAll blocks => s.replaceInPlace blocks
  | .insert source kind name data transform =>
    s.settled ((s.insert source kind name data transform).1.map (·.2))
  | .insertAt source index b => s.settled ((s.insertAt source index b).1.map (·.2))
  | .duplicate source id => s.settled ((s.duplicate source id).1.map (·.2))
  | .rename id name => s.settled ((s.rename id name).map (·.2))
  | .setData id data => s.settled (s.setData id data)
  | .setTransform id transform => s.settled (s.setTransform id transform)
  | .setContent id content => s.settled (s.setContent id content)
  | .setAccess id access => s.settled (s.setAccess id access)
  | .setStatus id status => s.settled (s.setStatus id status)
  | .moveTo id index => s.settled (s.moveTo id index)
  | .delete id => s.settled ((s.delete id).map (·.2))

/-- The store after a history of edits, failed ones among them, that began with no blocks. -/
def edited (settings : Settings) (edits : List Edit) : Store :=
  edits.foldl (fun s e => (s.perform e).2) { settings }

/-! ## One edit -/

/-- A store that may stand after the given one: it is sound and has the same settings. -/
structure Follows (t s : Store) : Prop where
  sound : t.Sound
  settings_eq : t.settings = s.settings

namespace Follows

theorem refl {s : Store} (h : s.Sound) : s.Follows s := ⟨h, rfl⟩

theorem trans {s t u : Store} (later : u.Follows t) (former : t.Follows s) : u.Follows s :=
  ⟨later.sound, later.settings_eq.trans former.settings_eq⟩

theorem insertAt {s t : Store} (h : s.Sound) {source : IdSource} {index : Nat} {b : Block}
    {id : BlockId} (e : (s.insertAt source index b).1 = .ok (id, t)) : t.Follows s := by
  refine ⟨h.insertAt e, ?_⟩
  obtain ⟨-, -, rfl⟩ := insertAt_eq_ok e
  rfl

theorem modify {s : Store} (h : s.Sound) {id : BlockId} {f : Block → Block}
    (hid : ∀ b, (f b).id = b.id) (hname : ∀ b, (f b).name = b.name) :
    (s.modify id f).Follows s :=
  ⟨h.modify hid hname, rfl⟩

theorem update {s t : Store} (h : s.Sound) {id : BlockId} {f : Block → Block}
    (hid : ∀ b, (f b).id = b.id) (hname : ∀ b, (f b).name = b.name)
    (e : s.update id f = .ok t) : t.Follows s := by
  obtain ⟨-, rfl⟩ := update_eq_ok e
  exact modify h hid hname

end Follows

theorem exists_of_map_eq_ok {α : Type} {x : Except Error (α × Store)} {t : Store}
    (e : x.map (·.2) = .ok t) : ∃ a, x = .ok (a, t) := by
  cases x with
  | error err => cases e
  | ok p =>
    cases e
    exact ⟨p.1, rfl⟩

theorem settled_cases {s : Store} {answer : Except Error Store}
    (h : ∀ t, answer = .ok t → t.Follows s) :
    (∃ e, s.settled answer = (.error e, s)) ∨
      ∃ t, s.settled answer = (.ok (), t) ∧ t.Follows s := by
  cases answer with
  | error e => exact .inl ⟨e, rfl⟩
  | ok t => exact .inr ⟨t, rfl, h t rfl⟩

/-- An edit of a sound store fails and leaves it alone, or succeeds and leaves a sound store. -/
theorem perform_cases {s : Store} (h : s.Sound) (edit : Edit) :
    (∃ e, s.perform edit = (.error e, s)) ∨
      ∃ t, s.perform edit = (.ok (), t) ∧ t.Follows s := by
  cases edit with
  | replaceAll blocks =>
    rw [perform, replaceInPlace_eq]
    refine settled_cases fun t e => ?_
    obtain ⟨sound, settings_eq⟩ := Sound.replaceAll e
    exact ⟨sound, settings_eq⟩
  | insert source kind name data transform =>
    refine settled_cases fun t e => ?_
    obtain ⟨id, e⟩ := exists_of_map_eq_ok e
    exact Follows.insertAt h e
  | insertAt source index b =>
    refine settled_cases fun t e => ?_
    obtain ⟨id, e⟩ := exists_of_map_eq_ok e
    exact Follows.insertAt h e
  | duplicate source id =>
    refine settled_cases fun t e => ?_
    obtain ⟨copy, e⟩ := exists_of_map_eq_ok e
    obtain ⟨b, index, -, placed⟩ := duplicate_eq_ok e
    exact Follows.insertAt h placed
  | rename id name =>
    refine settled_cases fun t e => ?_
    obtain ⟨applied, e⟩ := exists_of_map_eq_ok e
    refine ⟨h.rename e, ?_⟩
    obtain ⟨-, -, rfl⟩ := rename_eq_ok e
    rfl
  | setData id data =>
    refine settled_cases fun t e => ?_
    obtain ⟨-, rfl⟩ := setData_eq_ok e
    exact .modify h (fun _ => rfl) fun _ => rfl
  | setTransform id transform =>
    refine settled_cases fun t e => ?_
    obtain ⟨-, rfl⟩ := setTransform_eq_ok e
    exact .modify h (fun _ => rfl) fun _ => rfl
  | setContent id content =>
    exact settled_cases fun t e =>
      .update h (f := fun b => { b with content }) (fun _ => rfl) (fun _ => rfl) e
  | setAccess id access =>
    exact settled_cases fun t e =>
      .update h (f := fun b => { b with access }) (fun _ => rfl) (fun _ => rfl) e
  | setStatus id status =>
    exact settled_cases fun t e =>
      .update h (f := fun b => { b with status }) (fun _ => rfl) (fun _ => rfl) e
  | moveTo id index =>
    exact settled_cases fun t e => ⟨h.moveTo e, (perm_moveTo h e).2⟩
  | delete id =>
    refine settled_cases fun t e => ?_
    obtain ⟨b, e⟩ := exists_of_map_eq_ok e
    exact ⟨h.delete e, (perm_delete h e).2.2⟩

theorem follows_perform {s : Store} (h : s.Sound) (edit : Edit) :
    (s.perform edit).2.Follows s := by
  rcases perform_cases h edit with ⟨e, eq⟩ | ⟨t, eq, follows⟩
  · rw [eq]
    exact .refl h
  · rw [eq]
    exact follows

theorem perform_eq_of_error {s : Store} (h : s.Sound) {edit : Edit} {e : Error}
    (failed : (s.perform edit).1 = .error e) : (s.perform edit).2 = s := by
  rcases perform_cases h edit with ⟨e', eq⟩ | ⟨t, eq, -⟩
  · rw [eq]
  · rw [eq] at failed
    cases failed

/-! ## A history of edits -/

theorem follows_edits {s : Store} (h : s.Sound) (edits : List Edit) :
    (edits.foldl (fun s e => (s.perform e).2) s).Follows s := by
  induction edits generalizing s with
  | nil => exact .refl h
  | cons first rest ih =>
    have step := follows_perform h first
    exact (ih step.sound).trans step

/-- Whatever edits a store has seen, its ids differ, its names differ in normal form and it keeps
to its limit.  So a block is found under its name and under its id, and an edit that fails changes
nothing. -/
theorem edited_sound (settings : Settings) (edits : List Edit) :
    let s := edited settings edits
    (s.blocks.map (·.id)).Nodup ∧
      (s.blocks.map fun b => Name.normalize b.name).Nodup ∧
      s.blocks.length ≤ settings.maxBlocks ∧
      (∀ b ∈ s.blocks, s.find? b.name = some b ∧ s.get? b.id = some b) ∧
      ∀ edit e, (s.perform edit).1 = .error e → (s.perform edit).2 = s := by
  obtain ⟨sound, settings_eq⟩ := follows_edits (sound_empty settings) edits
  refine ⟨sound.ids_nodup, sound.names_nodup, ?_, fun b hb => ⟨sound.find? hb, sound.get? hb⟩,
    fun edit e failed => perform_eq_of_error sound failed⟩
  have bound := sound.length_le
  rw [settings_eq] at bound
  exact bound

/-- A new name runs into a number that was given before, and a list with an id in it twice is
refused when one block of it has been placed already. -/
theorem edited_sound_around_refusals :
    let source : IdSource := { word := fun j => UInt32.ofNat ((j + 1) * 2654435769) }
    let a : Block := { id := ⟨"a"⟩, name := "One", kind := .static }
    let b : Block := { id := ⟨"b"⟩, name := " ONE ", kind := .generativeText }
    let s := edited { maxBlocks := 3 } [.replaceAll [a, b], .replaceAll [b, a, b],
      .duplicate source ⟨"a"⟩, .setTransform ⟨"a"⟩ "t", .rename ⟨"b"⟩ "one-2", .delete ⟨"c"⟩,
      .insert source .static "ONE" "" none]
    s.blocks.map (fun b => (b.id.text, b.name)) =
        [("a", "One"), ("9e3779b9", "One-2"), ("b", "one-2-2")] ∧
      (s.blocks.map fun b => Name.normalize b.name).Nodup ∧
      (∀ b ∈ s.blocks, s.find? b.name = some b ∧ s.get? b.id = some b) ∧
      (s.perform (.replaceAll [b, a, b])).1 = .error (.duplicateId ⟨"b"⟩) ∧
      (s.perform (.replaceAll [b, a, b])).2 = s := by
  intro source a b s
  obtain ⟨-, names, -, found, refused⟩ := edited_sound { maxBlocks := 3 }
    [.replaceAll [a, b], .replaceAll [b, a, b], .duplicate source ⟨"a"⟩, .setTransform ⟨"a"⟩ "t",
      .rename ⟨"b"⟩ "one-2", .delete ⟨"c"⟩, .insert source .static "ONE" "" none]
  have failed : (s.perform (.replaceAll [b, a, b])).1 = .error (.duplicateId ⟨"b"⟩) := by
    decide +kernel
  exact ⟨by decide +kernel, names, found, failed, refused _ _ failed⟩

end Store
end Workbook
