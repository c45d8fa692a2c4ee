import Workbook.Pattern.Reader
import Workbook.Pattern.Size

/-!
Patterns.

A pattern is a regular expression over characters: literals, sets, places in a text, groups,
repetition and alternatives, without looking around and back references.
-/

namespace Workbook
namespace Pattern

/-- Whether a text is a pattern that can be used: it is well formed, and what it means takes no more
room than there is. -/
def isPattern (text : String) : Bool :=
  match read? text with
  | some e => e.fits
  | none => false

end Pattern
end Workbook
