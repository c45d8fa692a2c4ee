import Workbook.Pattern.Flags
import Workbook.Unicode.Derived

/-!
How groups in patterns begin.

A group may have a name, of letters and digits, or flags of its own; without either its text is kept
under a number.  A parenthesis may also hold flags only, which are then in force to the end of the
group around it.
-/

namespace Workbook
namespace Pattern

/-! ## Names -/

/-- Letters, those that came with version 17 of the Unicode standard too. -/
def nameLetters : CharSet := .unions [Unicode.alphabetic, .table [
  "88F C5C CDC A7CE-A7CF A7D2 A7D4 A7F1 10940-10959 10EC5-10EC7 10EFA-10EFB 11B60-11B67",
  "11DB0-11DDB 16EA0-16EB8 16EBB-16ED3 16FF2-16FF6 187F8-187FF 18D09-18D1E 18D80-18DF2",
  "1E6C0-1E6DE 1E6E0-1E6F5 1E6FE-1E6FF 2B73A-2B73F 2CEA2-2CEAD 323B0-33479"]]

def nameNumbers : CharSet := Unicode.number.union (.table ["11DE0-11DE9 16FF4-16FF6"])

def isNameStart (c : Char) : Bool := c == '_' || nameLetters.contains c.toNat

def isNamePart (c : Char) : Bool :=
  isNameStart c || nameNumbers.contains c.toNat || c == '.' || c == '[' || c == ']'

/-- The name of a group up to the bracket that closes it. -/
def groupName? (cs : List Char) : Option (List Char × List Char) :=
  let name := cs.takeWhile (· != '>')
  match name, cs.drop name.length with
  | c :: more, _ :: rest =>
    if isNameStart c && more.all isNamePart then some (name, rest) else none
  | _, _ => none

/-! ## Flags -/

/-- Reads flags up to a closing parenthesis or a colon, with the letters and the hyphen seen so far;
those behind the hyphen are turned off.  None may be there twice. -/
def flagsFrom (seen : List Char) (f : Flags) : List Char → Option (Flags × Char × List Char)
  | [] => none
  | c :: rest =>
    if c = ')' ∨ c = ':' then
      if seen.head? = some '-' ∨ (c = ')' ∧ seen.isEmpty) then none else some (f, c, rest)
    else if seen.contains c then none
    else if c = '-' then flagsFrom (c :: seen) f rest
    else (f.set? c (!seen.contains '-')).bind fun f => flagsFrom (c :: seen) f rest

/-! ## Beginnings -/

inductive GroupStart where
  /-- A group under a number. -/
  | plain
  | named (name : List Char)
  /-- A group with flags of its own, of which the text is not kept. -/
  | flagged (flags : Flags)
  /-- No group, but flags for what follows. -/
  | directive (flags : Flags)
deriving Repr

/-- What a parenthesis begins; it is read already.  Looking around a place is no part of
patterns. -/
def groupStart (f : Flags) (cs : List Char) : Option (GroupStart × List Char) :=
  match f.skip cs with
  | '?' :: 'P' :: '<' :: rest => (groupName? rest).map fun (name, rest) => (.named name, rest)
  | '?' :: '<' :: rest =>
    if rest.head? = some '=' ∨ rest.head? = some '!' then none
    else (groupName? rest).map fun (name, rest) => (.named name, rest)
  | '?' :: rest => (flagsFrom [] f rest).map fun (flags, c, rest) =>
    (if c = ')' then .directive flags else .flagged flags, rest)
  | cs => some (.plain, cs)

end Pattern
end Workbook
