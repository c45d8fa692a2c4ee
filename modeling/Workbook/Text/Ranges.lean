/-!
Classes of characters given as ascending ranges of code points.

The tables of the neighbouring modules hold the character data of version 17 of the Unicode
standard; what can be part of a word is that of version 16.
-/

namespace Workbook
namespace Text

/-- Whether `n` lies in one of the closed ranges.  The ranges ascend, so the search stops at the
first one that starts above `n`. -/
def covers : List (Nat × Nat) → Nat → Bool
  | [], _ => false
  | (first, last) :: rest, n => if n < first then false else n ≤ last || covers rest n

end Text
end Workbook
