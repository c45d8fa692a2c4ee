/-!
Values of the TOML configuration format.

Floats, dates and times are kept as they were written.
-/

namespace Workbook

inductive Toml where
  | text (value : String)
  | int (value : Int)
  | float (written : String)
  | bool (value : Bool)
  | time (written : String)
  | list (items : List Toml)
  | table (members : List (String × Toml))
deriving Repr, Inhabited

namespace Toml

/-- The least integer that is too large. -/
def intLimit : Nat := 1 <<< 63

/-- Arrays, inline tables and dotted keys are at most this deep. -/
def depthLimit : Nat := 79

end Toml
end Workbook
