import Workbook.Error
import Workbook.Reference
import Workbook.Settings

/-!
The blocks of a workbook, in the order in which they are shown.

Operations return the store that results, so an operation that fails leaves none.  All of them keep
the ids apart, keep the names apart when compared by normal form, and keep to the number of blocks
that the settings allow (`Store.Sound`).
-/

namespace Workbook

structure Store where
  blocks : List Block := []
  settings : Settings := {}
deriving DecidableEq, Repr

namespace Store

/-- What every store built by the operations below satisfies. -/
structure Sound (s : Store) : Prop where
  ids_nodup : (s.blocks.map (·.id)).Nodup
  names_nodup : (s.blocks.map fun b => Name.normalize b.name).Nodup
  length_le : s.blocks.length ≤ s.settings.maxBlocks

theorem eq_of_nodup_map {α β : Type} {f : α → β} {xs : List α} (h : (xs.map f).Nodup) {x y : α}
    (hx : x ∈ xs) (hy : y ∈ xs) (e : f x = f y) : x = y := by
  induction xs with
  | nil => exact absurd hx List.not_mem_nil
  | cons z rest ih =>
    obtain ⟨hz, hrest⟩ := List.nodup_cons.mp h
    rcases List.mem_cons.mp hx with ex | hx' <;> rcases List.mem_cons.mp hy with ey | hy'
    · rw [ex, ey]
    · exact absurd (List.mem_map.mpr ⟨y, hy', by rw [← e, ex]⟩) hz
    · exact absurd (List.mem_map.mpr ⟨x, hx', by rw [e, ey]⟩) hz
    · exact ih hrest hx' hy'

theorem Sound.eq_of_id_eq {s : Store} (h : s.Sound) {a b : Block} (ha : a ∈ s.blocks)
    (hb : b ∈ s.blocks) (e : a.id = b.id) : a = b :=
  eq_of_nodup_map h.ids_nodup ha hb e

theorem Sound.eq_of_name_eq {s : Store} (h : s.Sound) {a b : Block} (ha : a ∈ s.blocks)
    (hb : b ∈ s.blocks) (e : Name.normalize a.name = Name.normalize b.name) : a = b :=
  eq_of_nodup_map h.names_nodup ha hb e

def size (s : Store) : Nat := s.blocks.length

def ids (s : Store) : List BlockId := s.blocks.map (·.id)

/-! ## Looking up -/

def get? (s : Store) (id : BlockId) : Option Block := s.blocks.find? (·.id == id)

def contains (s : Store) (id : BlockId) : Bool := s.blocks.any (·.id == id)

def position? (s : Store) (id : BlockId) : Option Nat := s.blocks.findIdx? (·.id == id)

/-- The block with a name, in whatever case and with whatever space around it. -/
def find? (s : Store) (name : String) : Option Block :=
  let key := Name.normalize name
  s.blocks.find? fun b => Name.normalize b.name == key

def status? (s : Store) (id : BlockId) : Option Status := (s.get? id).map (·.status)

def need (s : Store) (id : BlockId) : Except Error Block :=
  match s.get? id with
  | some b => .ok b
  | none => .error (.unknownBlock id)

/-! ## Names and ids -/

/-- Whether a block other than `except?` has the name. -/
def isTaken (s : Store) (except? : Option BlockId) (name : String) : Bool :=
  let key := Name.normalize name
  s.blocks.any fun b => some b.id != except? && Name.normalize b.name == key

/-- The wanted name, or the first free one of those with a number from two on after it.  Of so many
names as there are blocks, and one more, not all can be taken. -/
def uniqueName (s : Store) (wanted : String) (except? : Option BlockId) : String :=
  if s.isTaken except? wanted then
    let free? := (List.range' 2 (s.size + 1)).find? fun k =>
      !s.isTaken except? (Name.suffixed wanted k)
    Name.suffixed wanted (free?.getD (s.size + 3))
  else wanted

/-- An id that no block has, if one of so many drawn ids is. -/
def freshId (s : Store) : Nat → IdSource → Option BlockId × IdSource
  | 0, source => (none, source)
  | attempts + 1, source =>
    let (id, next) := source.draw s.settings.idLength
    if s.contains id then s.freshId attempts next else (some id, next)

/-! ## Filling -/

/-- Adds blocks at the end, giving a later block another name where names agree. -/
def append (s : Store) : List Block → Except Error Store
  | [] => .ok s
  | b :: rest =>
    if s.contains b.id then .error (.duplicateId b.id)
    else
      let named := { b with name := s.uniqueName b.name none }
      append { s with blocks := s.blocks ++ [named] } rest

/-- Puts the given blocks in place of all blocks. -/
def replaceAll (s : Store) (blocks : List Block) : Except Error Store :=
  if blocks.length > s.settings.maxBlocks then
    .error (.tooManyBlocks blocks.length s.settings.maxBlocks)
  else append { s with blocks := [] } blocks

/-- A store of the given blocks with the usual limits. -/
def ofBlocks (blocks : List Block) : Except Error Store := replaceAll {} blocks

/-- Places a block at an index, or at the end if there are fewer blocks.  It gets a fresh id and a
free name, and loses a transform that its kind has no use for. -/
def insertAt (s : Store) (source : IdSource) (index : Nat) (b : Block) :
    Except Error (BlockId × Store) × IdSource :=
  if s.size ≥ s.settings.maxBlocks then
    (.error (.blockLimit s.settings.maxBlocks), source)
  else
    match s.freshId (max s.settings.maxIdAttempts 1) source with
    | (none, next) => (.error (.idsExhausted s.settings.maxIdAttempts), next)
    | (some id, next) =>
      let placed := { b with
        id := id
        name := s.uniqueName b.name none
        transform := b.effectiveTransform }
      (.ok (id, { s with blocks := s.blocks.insertIdx (min index s.size) placed }), next)

/-- Adds a new block at the end. -/
def insert (s : Store) (source : IdSource) (kind : Kind) (name data : String)
    (transform : Option String) : Except Error (BlockId × Store) × IdSource :=
  s.insertAt source s.size { id := ⟨""⟩, name, kind, data, transform }

/-- Copies a block to the place after it, content included.  The copy has not been asked for. -/
def duplicate (s : Store) (source : IdSource) (id : BlockId) :
    Except Error (BlockId × Store) × IdSource :=
  match s.get? id, s.position? id with
  | some b, some index => s.insertAt source (index + 1) b.atRest
  | _, _ => (.error (.unknownBlock id), source)

/-! ## Editing -/

/-- Changes the block with the given id. -/
def modify (s : Store) (id : BlockId) (f : Block → Block) : Store :=
  { s with blocks := s.blocks.map fun b => if b.id = id then f b else b }

/-- The block, provided it may be edited in the field. -/
def editable (s : Store) (id : BlockId) (field : Field) : Except Error Block :=
  match s.get? id with
  | none => .error (.unknownBlock id)
  | some b => if b.access.allows field then .ok b else .error (.locked id field)

/-- Renames a block and says which name it got. -/
def rename (s : Store) (id : BlockId) (name : String) : Except Error (String × Store) :=
  match s.editable id .name with
  | .error e => .error e
  | .ok _ =>
    let free := s.uniqueName name (some id)
    .ok (free, s.modify id fun b => { b with name := free })

def setData (s : Store) (id : BlockId) (data : String) : Except Error Store :=
  match s.editable id .data with
  | .error e => .error e
  | .ok _ => .ok (s.modify id fun b => { b with data })

def setTransform (s : Store) (id : BlockId) (transform : String) : Except Error Store :=
  match s.editable id .transform with
  | .error e => .error e
  | .ok b =>
    if b.kind.isGenerative then .ok (s.modify id fun b => { b with transform := some transform })
    else .error (.noTransform b.kind id)

/-- Changes a block that has to be there. -/
def update (s : Store) (id : BlockId) (f : Block → Block) : Except Error Store :=
  if s.contains id then .ok (s.modify id f) else .error (.unknownBlock id)

def setContent (s : Store) (id : BlockId) (content : Option Content) : Except Error Store :=
  s.update id fun b => { b with content }

def setAccess (s : Store) (id : BlockId) (access : Access) : Except Error Store :=
  s.update id fun b => { b with access }

def setStatus (s : Store) (id : BlockId) (status : Status) : Except Error Store :=
  s.update id fun b => { b with status }

/-- Moves a block to an index, counted without the block itself. -/
def moveTo (s : Store) (id : BlockId) (index : Nat) : Except Error Store :=
  match s.get? id, s.position? id with
  | some b, some at_ =>
    let others := s.blocks.eraseIdx at_
    .ok { s with blocks := others.insertIdx (min index others.length) b }
  | _, _ => .error (.unknownBlock id)

/-- Takes a block out. -/
def delete (s : Store) (id : BlockId) : Except Error (Block × Store) :=
  match s.get? id, s.position? id with
  | some b, some index => .ok (b, { s with blocks := s.blocks.eraseIdx index })
  | _, _ => .error (.unknownBlock id)

end Store
end Workbook
