import Workbook.CharSet.Basic

/-!
Sets of characters written out, and looked up by name.

A table lists code points in hexadecimal, ascending and apart, with a space between items: `5F` is
one code point, `41-5A` are all from the first to the last, and `100-12E/2` every second of those.

Names are compared in a plain form: case, spaces, hyphens and underscores do not matter, nor does
an "is" in front.
-/

namespace Workbook
namespace CharSet

/-- The value of hexadecimal digits in upper case. -/
def number (digits : String) : Nat :=
  digits.foldl (fun n c => 16 * n + (if c.isDigit then c.toNat - 0x30 else c.toNat - 0x37)) 0

/-- The bounds of one item of a table. -/
def item (text : String) : List Nat :=
  match text.splitOn "-" with
  | [first, rest] =>
    let first := number first
    match rest.splitOn "/" with
    | [last, step] =>
      let step := number step
      (List.range ((number last - first) / step + 1)).flatMap fun k =>
        [first + k * step, first + k * step + 1]
    | _ => [first, number rest + 1]
  | _ => [number text, number text + 1]

/-- The items of a table, which may have several lines. -/
def items (lines : List String) : List String := lines.flatMap fun line => line.splitOn " "

/-- The set that a table writes out. -/
def table (lines : List String) : CharSet := ⟨(items lines).flatMap item⟩

/-- The form in which names are compared.  A name of which only a "c" is left behind its "is" keeps
that, for "isc" is a name of its own. -/
def plainName (name : List Char) : List Char :=
  let plain (cs : List Char) : List Char :=
    (cs.filter fun c => c.toNat < 0x80 && c != ' ' && c != '_' && c != '-').map Char.toLower
  match name with
  | i :: s :: rest =>
    if i.toLower = 'i' ∧ s.toLower = 's' then
      if plain rest = ['c'] then ['i', 's', 'c'] else plain rest
    else plain name
  | _ => plain name

/-- A set with its names. -/
structure Named where
  names : List String
  set : CharSet

/-- What has a name among these. -/
def Named.withName? (sets : List Named) (name : List Char) : Option Named :=
  let plain := plainName name
  sets.find? fun s => s.names.any fun n => plainName n.toList = plain

/-- The set of a name. -/
def Named.find? (sets : List Named) (name : List Char) : Option CharSet :=
  (withName? sets name).map (·.set)

end CharSet
end Workbook
