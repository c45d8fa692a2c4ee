import Workbook.Resolution

/-!
The generator behind a workbook.

A request is all that a generator is told.  A backend answers requests, and it settles what the
workbook has no say in: which of the open requests is answered next, and how much time passes until
then.
-/

namespace Workbook

structure Request where
  id : BlockId
  name : String
  kind : Kind
  /-- The text of the block with its references resolved. -/
  input : String
  transform : String
  attachments : List Available
deriving DecidableEq, Repr

structure Backend where
  answer : Request → Except Error Content
  /-- The place, among the open requests, of the one that is answered next, taken modulo their
  number. -/
  next : List Request → Nat := fun _ => 0
  /-- The milliseconds that pass until a request is answered. -/
  delay : Request → Nat := fun _ => 0

namespace Backend

/-- The open request that is answered next. -/
def pick? (backend : Backend) (calls : List Request) : Option Request :=
  calls[backend.next calls % calls.length]?

end Backend
end Workbook
