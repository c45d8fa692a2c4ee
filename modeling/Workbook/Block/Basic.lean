import Workbook.Block.Id
import Workbook.Sha256

/-!
Blocks, the cells of a workbook.

A block has a name under which the texts of other blocks refer to it, a text of its own, and the
last content that was computed for it.  `Kind` says how content comes about, `Access` which fields
may be edited, and `Status` where a block stands in a batch.
-/

namespace Workbook

/-- How the content of a block comes about. -/
inductive Kind where
  /-- Its text, with the references in it resolved. -/
  | static
  /-- A text that a generator answers with. -/
  | generativeText
  /-- An image that a generator answers with. -/
  | generativeImage
  /-- A separator, without content. -/
  | separator
  /-- An image that was supplied from outside. -/
  | importedImage
deriving DecidableEq, Repr, Inhabited

namespace Kind

/-- Whether content is asked of the generator.  Such blocks, and no others, have a transform. -/
def isGenerative : Kind → Bool
  | .generativeText | .generativeImage => true
  | _ => false

/-- Whether content is computed at all. -/
def recomputes : Kind → Bool
  | .separator | .importedImage => false
  | _ => true

def label : Kind → String
  | .static => "static"
  | .generativeText => "generative-text"
  | .generativeImage => "generative-image"
  | .separator => "break"
  | .importedImage => "imported-image"

end Kind

/-- What was computed for a block, or supplied. -/
inductive Content where
  | text (text : String)
  | binary (mime : String) (bytes : List UInt8)
deriving DecidableEq, Repr

namespace Content

def isBinary : Content → Bool
  | .text _ => false
  | .binary .. => true

/-- What stands in for a reference to the content.  Bytes are named by their hash, so a different
image is a different text. -/
def asText : Content → String
  | .text t => t
  | .binary mime bytes => "<" ++ mime ++ " sha256:" ++ Hex.encode (Sha256.digest bytes) ++ ">"

end Content

/-- The fields that a user edits. -/
inductive Field where
  | name
  | data
  | transform
deriving DecidableEq, Repr

namespace Field

def label : Field → String
  | .name => "Name"
  | .data => "Data"
  | .transform => "Transform"

def all : List Field := [.name, .data, .transform]

end Field

/-- Which fields of a block may be edited. -/
inductive Access where
  | all
  /-- The text alone. -/
  | entry
  | locked
deriving DecidableEq, Repr, Inhabited

namespace Access

def frozen : Access → List Field
  | .all => []
  | .entry => [.name, .transform]
  | .locked => [.name, .data, .transform]

def allows (access : Access) (field : Field) : Bool := !access.frozen.contains field

def label : Access → String
  | .all => "Open"
  | .entry => "Entry"
  | .locked => "Locked"

end Access

/-- Where a block stands. -/
inductive Status where
  | idle
  /-- A generator was asked and has not answered. -/
  | waiting
  | done
  | failed (message : String)
deriving DecidableEq, Repr, Inhabited

namespace Status

def label : Status → String
  | .idle => "Idle"
  | .waiting => "Waiting"
  | .done => "Done"
  | .failed message => "Error(" ++ message ++ ")"

end Status

structure Block where
  id : BlockId
  name : String
  kind : Kind
  data : String := ""
  transform : Option String := none
  content : Option Content := none
  /-- The resolved text that the content was computed from. -/
  input : Option String := none
  /-- The transform that the content was computed with. -/
  applied : Option String := none
  access : Access := .all
  /-- When a generator was last asked, in milliseconds. -/
  requested : Option Nat := none
  status : Status := .idle
deriving DecidableEq, Repr

namespace Block

/-- Gives the block a transform if its kind has one. -/
def withTransform (b : Block) (transform : String) : Block :=
  if b.kind.isGenerative then { b with transform := some transform } else b

/-- The transform in force; kinds without one have none, whatever was stored. -/
def effectiveTransform (b : Block) : Option String :=
  if b.kind.isGenerative then b.transform else none

/-- The block as it is stored: without what belongs to the running session. -/
def atRest (b : Block) : Block := { b with requested := none, status := .idle }

end Block
end Workbook
