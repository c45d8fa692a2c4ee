import Workbook.Text.Blank
import Workbook.Unicode.CaseFold

/-!
The flags in force at a place in a pattern, and the space that one of them lets stand between parts.
-/

namespace Workbook
namespace Pattern

structure Flags where
  isCaseless : Bool := false
  isMultiLine : Bool := false
  isDotAll : Bool := false
  isSwapped : Bool := false
  isUnicode : Bool := true
  isCrlf : Bool := false
  isSpaced : Bool := false
deriving DecidableEq, Repr

namespace Flags

/-- Sets the flag of a letter, if there is one. -/
def set? (f : Flags) (letter : Char) (isOn : Bool) : Option Flags :=
  match letter with
  | 'i' => some { f with isCaseless := isOn }
  | 'm' => some { f with isMultiLine := isOn }
  | 's' => some { f with isDotAll := isOn }
  | 'U' => some { f with isSwapped := isOn }
  | 'u' => some { f with isUnicode := isOn }
  | 'R' => some { f with isCrlf := isOn }
  | 'x' => some { f with isSpaced := isOn }
  | _ => none

/-- A set with what counts as the same. -/
def fold (f : Flags) (s : CharSet) : CharSet :=
  if !f.isCaseless then s
  else if f.isUnicode then Unicode.foldCase s
  else Unicode.foldAscii s

/-- What comes after space and comments, if these are not part of the pattern.  A comment goes from
a number sign to the end of its line. -/
def skip (f : Flags) (cs : List Char) : List Char := if f.isSpaced then go false cs else cs
where
  go (inComment : Bool) : List Char → List Char
    | [] => []
    | c :: rest =>
      if inComment then go (c != '\n') rest
      else if c = '#' then go true rest
      else if Text.isBlank c then go false rest
      else c :: rest

end Flags
end Pattern
end Workbook
