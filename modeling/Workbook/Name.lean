import Workbook.Text.Blank
import Workbook.Text.LowerCase

/-!
Names of blocks.

Two names are the same name when their normal forms agree: the texts without white space at the
ends, in lower case.
-/

namespace Workbook
namespace Name

/-- The form in which names are compared. -/
def normalize (name : String) : String := String.ofList (Text.lower (Text.trim name.toList))

/-- A name with a number after it. -/
def suffixed (name : String) (k : Nat) : String := name ++ "-" ++ toString k

end Name
end Workbook
