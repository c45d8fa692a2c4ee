import Workbook.Session.Throttle

/-!
Edits.

An edit changes the store, makes the graph anew and says so, saves, and has the blocks computed that
the change concerns.  An edit that fails leaves the session as it was, but for ids drawn in vain.
-/

namespace Workbook
namespace Session

/-- Computes the given blocks, if any. -/
def propagateSome (backend : Backend) (s : Session) (ids : List BlockId) : Session :=
  match ids with
  | [] => s
  | ids => (s.propagate backend ids false).2

/-- Puts the archived blocks in place of all blocks and computes every one of them. -/
def load (backend : Backend) (s : Session) : Except Error Report × Session :=
  match s.archive.loadFault with
  | some e => (.error e, s)
  | none =>
    match s.store.replaceAll s.archive.saved with
    | .error e => (.error e, s)
    | .ok store =>
      let s := ({ s with store, parking := {} } : Session).graphChanged
      let (report, s) := s.propagate backend s.store.ids true
      (.ok report, s)

/-- Takes over a store with a new block; the blocks that already mention it are computed, after
those in `first`. -/
def adopt (backend : Backend) (s : Session) (id : BlockId) (first : List BlockId) : Session :=
  let s := s.graphChanged.save
  s.propagateSome backend (first ++ s.graph.dependents id)

/-- Creates a block at the end.  A static block is computed at once; a generative one waits for an
edit of its own. -/
def create (backend : Backend) (s : Session) (kind : Kind) (name data : String)
    (transform : Option String) : Except Error BlockId × Session :=
  match s.store.insert s.source kind name data transform with
  | (.error e, source) => (.error e, { s with source })
  | (.ok (id, store), source) =>
    (.ok id, adopt backend { s with store, source } id (if kind = .static then [id] else []))

/-- Creates a block for an image from outside. -/
def importImage (backend : Backend) (s : Session) (name mime : String) (bytes : List UInt8) :
    Except Error BlockId × Session :=
  match s.store.insert s.source .importedImage name "" none with
  | (.error e, source) => (.error e, { s with source })
  | (.ok (id, store), source) =>
    let store := store.modify id fun b => { b with content := some (.binary mime bytes) }
    (.ok id, adopt backend { s with store, source } id [])

/-- Gives an imported image another image. -/
def replaceImage (backend : Backend) (s : Session) (id : BlockId) (mime : String)
    (bytes : List UInt8) : Except Error Report × Session :=
  match s.store.need id with
  | .error e => (.error e, s)
  | .ok b =>
    if b.kind ≠ .importedImage then (.error (.noImage b.kind id), s)
    else
      let s := s.modify id fun b => { b with content := some (.binary mime bytes) }
      let s := (s.save.emit (.contentUpdated id)).regraph
      let (report, s) := s.propagate backend (s.graph.dependents id) false
      (.ok report, s)

/-- Gives a block another text. -/
def editData (backend : Backend) (s : Session) (id : BlockId) (data : String) :
    Except Error (Option Report) × Session :=
  match s.store.setData id data with
  | .error e => (.error e, s)
  | .ok store => requestUpdate backend ({ s with store } : Session).graphChanged.save id false

/-- Gives a block another transform. -/
def editTransform (backend : Backend) (s : Session) (id : BlockId) (transform : String) :
    Except Error (Option Report) × Session :=
  match s.store.setTransform id transform with
  | .error e => (.error e, s)
  | .ok store => requestUpdate backend ({ s with store } : Session).save id false

/-- Takes over a store in which a block has another name.  It comes with the blocks to compute:
those that mentioned the old name, then those that mention the new one. -/
def adoptName (s : Session) (id : BlockId) (store : Store) : Session × List BlockId :=
  let former := s.graph.dependents id
  let s := ({ s with store } : Session).graphChanged
  let latter := (s.graph.dependents id).filter fun d => !former.contains d
  (s.save, former ++ latter)

/-- Renames a block and computes the blocks that mentioned the old name or mention the new one. -/
def rename (backend : Backend) (s : Session) (id : BlockId) (name : String) :
    Except Error String × Session :=
  let s := s.regraph
  match s.store.rename id name with
  | .error e => (.error e, s)
  | .ok (applied, store) =>
    let (s, concerned) := s.adoptName id store
    (.ok applied, s.propagateSome backend concerned)

def setAccess (s : Session) (id : BlockId) (access : Access) : Except Error Unit × Session :=
  match s.store.setAccess id access with
  | .error e => (.error e, s)
  | .ok store => (.ok (), ({ s with store } : Session).save)

/-- Copies a block, content included, to the place after it. -/
def duplicate (backend : Backend) (s : Session) (id : BlockId) : Except Error BlockId × Session :=
  match s.store.duplicate s.source id with
  | (.error e, source) => (.error e, { s with source })
  | (.ok (copy, store), source) => (.ok copy, adopt backend { s with store, source } copy [])

def move (s : Session) (id : BlockId) (index : Nat) : Except Error Unit × Session :=
  match s.store.moveTo id index with
  | .error e => (.error e, s)
  | .ok store => (.ok (), ({ s with store } : Session).save)

/-- Deletes a block.  Its dependents learn that a reference is gone and keep their content. -/
def delete (s : Session) (id : BlockId) : Except Error Report × Session :=
  let s := s.regraph
  let former := s.graph.dependents id
  match s.store.delete id with
  | .error e => (.error e, s)
  | .ok (_, store) =>
    let s : Session :=
      { s with store, graph := s.graph.removeNode id, parking := s.parking.erase id }
    let (report, s) := ((s.emit (.blockRemoved id)).graphChanged.save).revalidate former
    (.ok report, s)

end Session
end Workbook
