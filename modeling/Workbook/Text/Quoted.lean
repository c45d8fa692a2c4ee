import Workbook.Text.Shown

/-!
Quoted text: between quotation marks, with a backslash before the mark and before itself, short
escapes for tab, line feed, carriage return and the zero character, and a code point escape for
every other character that cannot be shown.
-/

namespace Workbook
namespace Text

def codeEscape (c : Char) : List Char :=
  ['\\', 'u', '\x7b'] ++ Nat.toDigits 16 c.toNat ++ ['\x7d']

def escapeChar (mark c : Char) : List Char :=
  if c = '\x00' then ['\\', '0']
  else if c = '\t' then ['\\', 't']
  else if c = '\r' then ['\\', 'r']
  else if c = '\n' then ['\\', 'n']
  else if c = '\\' then ['\\', '\\']
  else if c = mark then ['\\', c]
  else if isShown c then [c]
  else codeEscape c

/-- A text between two marks, each of its characters escaped where needed. -/
def quotedBy (mark : Char) (text : List Char) : String :=
  String.ofList (mark :: text.flatMap (escapeChar mark) ++ [mark])

/-- A text in double quotation marks. -/
def quoted (text : String) : String := quotedBy '"' text.toList

/-- One character in single quotation marks. -/
def quotedChar (c : Char) : String := quotedBy '\x27' [c]

end Text
end Workbook
