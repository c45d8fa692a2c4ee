import Workbook.Graph.OfStore

/-!
References resolved.

Every name that a text mentions has a standing: it names no block, or the block of the text itself,
or one that refers back to it, or one without content, or one whose content can take the place of
the mention.  Of a circle only the direct one, back and forth, is seen here.
-/

namespace Workbook

/-- What a mentioned name comes to. -/
inductive Standing where
  /-- No block has the name. -/
  | unknown
  /-- The text's own block has it. -/
  | itself
  /-- The block with that name uses the text's block in turn. -/
  | mutual (other : BlockId)
  /-- The block with that name has no content yet. -/
  | pending
  | ready (id : BlockId) (content : Content)
deriving DecidableEq, Repr

/-- Why a mention cannot be resolved. -/
inductive Diagnostic where
  | unknown (name : String)
  | itself (name : String)
  | mutual (name : String) (other : BlockId)
deriving DecidableEq, Repr

namespace Diagnostic

def name : Diagnostic → String
  | .unknown name => name
  | .itself name => name
  | .mutual name _ => name

end Diagnostic

/-- A mentioned name whose block has content. -/
structure Available where
  name : String
  id : BlockId
  content : Content
deriving DecidableEq, Repr

namespace Standing

def diagnostic? (name : String) : Standing → Option Diagnostic
  | .unknown => some (.unknown name)
  | .itself => some (.itself name)
  | .mutual other => some (.mutual name other)
  | _ => none

def available? (name : String) : Standing → Option Available
  | .ready id content => some ⟨name, id, content⟩
  | _ => none

def isPending : Standing → Bool
  | .pending => true
  | _ => false

/-- What takes the place of a mention. -/
def substitute (m : Mention) : Standing → List Char
  | .ready _ content => content.asText.toList
  | _ => m.written

end Standing

structure Resolution where
  hasReferences : Bool := false
  /-- Names with a diagnostic, each in the spelling that comes first. -/
  invalid : List String := []
  notReady : List String := []
  available : List Available := []
  /-- The text with the content of available blocks in place of their mentions. -/
  text : String := ""
  diagnostics : List Diagnostic := []
deriving DecidableEq, Repr

namespace Resolution

/-- Whether every mention was replaced. -/
def isComplete (r : Resolution) : Bool := r.invalid.isEmpty && r.notReady.isEmpty

/-- The available blocks whose content is not text. -/
def attachments (r : Resolution) : List Available := r.available.filter (·.content.isBinary)

end Resolution

/-- The standing of a name in a text of block `self?`. -/
def Store.standing (s : Store) (g : Graph) (self? : Option BlockId) (name : String) : Standing :=
  match s.find? name with
  | none => .unknown
  | some target =>
    if some target.id = self? then .itself
    else if self?.any fun me => g.hasLink me target.id && g.hasLink target.id me then
      .mutual target.id
    else
      match target.content with
      | none => .pending
      | some content => .ready target.id content

/-- Resolves the references of a text that belongs to the block called `self`, given the
dependency graph of the store. -/
def Store.resolve (s : Store) (g : Graph) (data self : String) : Resolution :=
  let standing := s.standing g ((s.find? self).map (·.id))
  let table := (distinctNames data).map fun name => (name, standing name)
  let diagnostics := table.filterMap fun row => row.2.diagnostic? row.1
  { hasReferences := !table.isEmpty
    invalid := diagnostics.map (·.name)
    notReady := (table.filter (·.2.isPending)).map (·.1)
    available := table.filterMap fun row => row.2.available? row.1
    text := String.ofList ((pieces data).flatMap fun p =>
      match p with
      | .plain c => [c]
      | .mention m => (standing m.text).substitute m)
    diagnostics }

end Workbook
