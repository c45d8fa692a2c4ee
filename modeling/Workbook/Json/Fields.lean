import Workbook.Json.Reader

/-!
Records and alternatives as JSON values.

A record is an object of its fields, in which others are passed over and none occurs twice; where
that is allowed, it may also be the list of its fields in order, of which last ones may be missing.
An alternative is an object with one member, its name, or just the name if nothing comes with it.
-/

namespace Workbook
namespace Json

def text? : Json → Option String
  | .text s => some s
  | _ => none

def bool? : Json → Option Bool
  | .bool b => some b
  | _ => none

/-- A natural number below a limit. -/
def natBelow? (limit : Nat) : Json → Option Nat
  | .int n => if 0 ≤ n ∧ n < limit then some n.toNat else none
  | _ => none

/-- A natural number of at most sixty-four bits. -/
def nat? (j : Json) : Option Nat := j.natBelow? UInt64.size

/-- Null, or what `read` makes of the value. -/
def nullOr? {α : Type} (read : Json → Option α) : Json → Option (Option α)
  | .null => some none
  | j => (read j).map some

def listOf? {α : Type} (read : Json → Option α) : Json → Option (List α)
  | .list items => items.mapM read
  | _ => none

def pairOf? {α β : Type} (first : Json → Option α) (second : Json → Option β) :
    Json → Option (α × β)
  | .list [a, b] =>
    match first a, second b with
    | some a, some b => some (a, b)
    | _, _ => none
  | _ => none

/-- Whether a record may be written as a row of its fields. -/
inductive Rows where
  | refused
  /-- Accepted if at least so many fields are there. -/
  | atLeast (count : Nat)
deriving DecidableEq, Repr

/-- The value of a member, if it occurs; nothing if it occurs twice. -/
def member? (members : List (String × Json)) (key : String) : Option (Option Json) :=
  match members.filter (·.1 == key) with
  | [] => some none
  | [(_, value)] => some (some value)
  | _ => none

/-- The fields of a record in the order of their names, as far as they are there. -/
def fields? (rows : Rows) (names : List String) : Json → Option (List (Option Json))
  | .object members => names.mapM (member? members)
  | .list items =>
    match rows with
    | .refused => none
    | .atLeast count =>
      if count ≤ items.length ∧ items.length ≤ names.length then
        some (items.map some ++ List.replicate (names.length - items.length) none)
      else none
  | _ => none

/-- The name of an alternative and what comes with it. -/
def variant? : Json → Option (String × Option Json)
  | .text name => some (name, none)
  | .object [(name, value)] => some (name, some value)
  | _ => none

/-- An alternative with which nothing comes. -/
def plain? (j : Json) : Option String :=
  match j.variant? with
  | some (name, none) => some name
  | some (name, some .null) => some name
  | _ => none

def ofOption {α : Type} (write : α → Json) : Option α → Json
  | none => .null
  | some a => write a

def ofList {α : Type} (write : α → Json) (as : List α) : Json := .list (as.map write)

def ofVariant (name : String) (value : Json) : Json := .object [(name, value)]

end Json
end Workbook
