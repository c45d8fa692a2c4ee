/-!
Values of the JSON data format, and how they are written.

Members of an object keep their order.  Numbers are integers as far as they are written as such;
others are kept as they were written.  A text whose escapes name half of a pair of code units is
well formed, and yet no sequence of characters; it is kept apart as `unpaired`, and so is an object
with such a key.

Values are written without space between tokens.
-/

namespace Workbook

inductive Json where
  | null
  | bool (value : Bool)
  | int (value : Int)
  | decimal (digits : String)
  | text (value : String)
  | unpaired
  | list (items : List Json)
  | object (members : List (String × Json))
deriving Repr, Inhabited

namespace Json

def nat (n : Nat) : Json := .int n

/-- The two characters that stand for a character in a text, if it has such a form. -/
def shortEscape? (c : Char) : Option Char :=
  if c = '"' then some '"'
  else if c = '\\' then some '\\'
  else if c = '\x08' then some 'b'
  else if c = '\x0c' then some 'f'
  else if c = '\n' then some 'n'
  else if c = '\r' then some 'r'
  else if c = '\t' then some 't'
  else none

/-- A character in a text.  Controls below the space are escaped, all others but the quotation mark
and the backslash stand for themselves. -/
def escapeChar (c : Char) : List Char :=
  match shortEscape? c with
  | some e => ['\\', e]
  | none =>
    if c.toNat < 0x20 then
      ['\\', 'u', '0', '0', Nat.digitChar (c.toNat / 16), Nat.digitChar (c.toNat % 16)]
    else [c]

def writtenText (s : String) : List Char := '"' :: s.toList.flatMap escapeChar ++ ['"']

mutual

/-- A value as characters. -/
def written : Json → List Char
  | .null => ['n', 'u', 'l', 'l']
  | .bool true => ['t', 'r', 'u', 'e']
  | .bool false => ['f', 'a', 'l', 's', 'e']
  | .int n => (toString n).toList
  | .decimal digits => digits.toList
  | .text s => writtenText s
  | .unpaired => writtenText "\ufffd"
  | .list items => '[' :: writtenItems items ++ [']']
  | .object members => '\x7b' :: writtenMembers members ++ ['\x7d']

def writtenItems : List Json → List Char
  | [] => []
  | [item] => item.written
  | item :: rest => item.written ++ ',' :: writtenItems rest

def writtenMembers : List (String × Json) → List Char
  | [] => []
  | [(key, value)] => writtenText key ++ ':' :: value.written
  | (key, value) :: rest => writtenText key ++ ':' :: value.written ++ ',' :: writtenMembers rest

end

/-- A value as a text. -/
def render (j : Json) : String := String.ofList j.written

end Json
end Workbook
