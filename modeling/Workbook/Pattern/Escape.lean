import Workbook.Pattern.Expr
import Workbook.Pattern.Flags
import Workbook.Text.WordChar
import Workbook.Unicode.Find

/-!
Escapes in patterns.

What a backslash begins stands for a character, a set of characters or a place in a text.  Without
the flag `u` a pattern works on bytes, and as it must not fit a part of a character, an escape that
goes beyond ASCII is refused then.  Space that the flag `x` passes over may also stand inside an
escape that has several parts.
-/

namespace Workbook
namespace Pattern

/-- What can stand alone in a pattern. -/
inductive Atom where
  | char (c : Char)
  | chars (set : CharSet)
  | look (l : Look)
deriving Repr

/-! ## Codes -/

def isHexDigit (c : Char) : Bool := c.isDigit || ('a' ≤ c && c ≤ 'f') || ('A' ≤ c && c ≤ 'F')

/-- The character with a code in hexadecimal digits. -/
def charOf? (digits : List Char) : Option Char :=
  let code := CharSet.number ((String.ofList digits).toUpper)
  if !digits.isEmpty && digits.all isHexDigit && decide code.isValidChar then some (Char.ofNat code)
  else none

/-- A number of characters, with space in front of each but the first. -/
def takeSpaced (f : Flags) : Nat → List Char → Option (List Char × List Char)
  | 0, cs => some ([], cs)
  | _ + 1, [] => none
  | left + 1, c :: rest =>
    let rest := if left = 0 then rest else f.skip rest
    (takeSpaced f left rest).map fun (taken, rest) => (c :: taken, rest)

/-- The characters up to a closing brace, with space in front of each.  The count bounds them. -/
def untilBrace (f : Flags) : Nat → List Char → Option (List Char × List Char)
  | 0, _ => none
  | left + 1, cs =>
    match f.skip cs with
    | [] => none
    | '\x7d' :: rest => some ([], rest)
    | c :: rest => (untilBrace f left rest).map fun (taken, rest) => (c :: taken, rest)

def braced (f : Flags) (cs : List Char) : Option (List Char × List Char) :=
  untilBrace f (cs.length + 1) cs

/-- A character given by its code, in braces or with a fixed number of digits. -/
def codeEscape (f : Flags) (digits : Nat) (cs : List Char) : Option (Char × List Char) :=
  match f.skip cs with
  | '\x7b' :: rest => (braced f rest).bind fun (code, rest) => (charOf? code).map (·, rest)
  | cs => (takeSpaced f digits cs).bind fun (code, rest) => (charOf? code).map (·, rest)

/-- A code of two digits, which without the flag `u` names a byte. -/
def byteEscape (f : Flags) (cs : List Char) : Option (Char × List Char) :=
  let isByte := !f.isUnicode && (f.skip cs).head? != some '\x7b'
  (codeEscape f 2 cs).bind fun (c, rest) =>
    if isByte && 0x80 ≤ c.toNat then none else some (c, rest)

/-! ## Sets -/

/-- The two sides of the first of the given separators in a name. -/
def splitAt? (separator : List Char) : List Char → Option (List Char × List Char)
  | [] => none
  | c :: rest =>
    if separator.isPrefixOf (c :: rest) then some ([], (c :: rest).drop separator.length)
    else (splitAt? separator rest).map fun (before, after) => (c :: before, after)

/-- The set of a name, or of a property and its value, and whether the name asks for all else. -/
def named? (name : List Char) : Option (CharSet × Bool) :=
  match splitAt? ['!', '='] name, splitAt? [':'] name, splitAt? ['='] name with
  | some (property, value), _, _ => (Unicode.findValue? property value).map (·, true)
  | none, some (property, value), _ => (Unicode.findValue? property value).map (·, false)
  | none, none, some (property, value) => (Unicode.findValue? property value).map (·, false)
  | none, none, none => (Unicode.find? name).map (·, false)

/-- A set named by a property; its mark is read already. -/
def propertyEscape (f : Flags) (isNegated : Bool) (cs : List Char) :
    Option (CharSet × List Char) :=
  let name? : Option (List Char × List Char) := match f.skip cs with
    | [] => none
    | '\x7b' :: rest => braced f rest
    | c :: rest => if c = '\\' then none else some ([c], rest)
  name?.bind fun (name, rest) => (named? name).map fun (s, isElse) =>
    (if isNegated = isElse then f.fold s else (f.fold s).compl, rest)

def digits (f : Flags) : CharSet :=
  if f.isUnicode then Unicode.decimalNumber else .range 0x30 0x39

def spaces (f : Flags) : CharSet :=
  if f.isUnicode then Unicode.whiteSpace else .table ["9-D 20"]

def wordChars (f : Flags) : CharSet :=
  if f.isUnicode then ⟨Text.wordRanges.flatMap fun r => [r.1, r.2 + 1]⟩
  else .table ["30-39 41-5A 5F 61-7A"]

/-- The set of all else, which is one of characters only. -/
def others? (f : Flags) (s : CharSet) : Option CharSet :=
  if f.isUnicode then some s.compl else none

/-! ## Word boundaries -/

def wordEdge? (name : List Char) : Option WordEdge :=
  match String.ofList name with
  | "start" => some .start
  | "end" => some .stop
  | "start-half" => some .startHalf
  | "end-half" => some .stopHalf
  | _ => none

def isEdgeChar (c : Char) : Bool := c.isAlpha || c == '-'

/-- The sort of word boundary that braces name; those that hold anything else are left, for they
may hold the counts of a repetition. -/
def edgeEscape (f : Flags) (cs : List Char) : Option (WordEdge × List Char) :=
  match cs with
  | '\x7b' :: rest =>
    match f.skip rest with
    | [] => none
    | c :: inner =>
      if isEdgeChar c then
        (braced f (c :: inner)).bind fun (name, rest) => (wordEdge? name).map (·, rest)
      else some (.boundary, cs)
  | cs => some (.boundary, cs)

/-! ## Escapes -/

/-- Whether a backslash may stand before a character that it does not change. -/
def isEscapable (c : Char) : Bool :=
  c.toNat < 0x80 && !c.isAlphanum && c != '<' && c != '>'

/-- The character that a letter stands for. -/
def control? (c : Char) : Option Char :=
  match c with
  | 'a' => some '\x07'
  | 'f' => some '\x0c'
  | 't' => some '\t'
  | 'n' => some '\n'
  | 'r' => some '\r'
  | 'v' => some '\x0b'
  | _ => none

/-- What an escape stands for; the backslash is read already. -/
def escape (f : Flags) (cs : List Char) : Option (Atom × List Char) :=
  let look (l : Look) (rest : List Char) : Option (Atom × List Char) := some (.look l, rest)
  let word (e : WordEdge) : Look := .word f.isUnicode e
  match cs with
  | [] => none
  | 'x' :: rest => (byteEscape f rest).map fun (c, rest) => (.char c, rest)
  | 'u' :: rest => (codeEscape f 4 rest).map fun (c, rest) => (.char c, rest)
  | 'U' :: rest => (codeEscape f 8 rest).map fun (c, rest) => (.char c, rest)
  | 'p' :: rest =>
    if f.isUnicode then (propertyEscape f false rest).map fun (s, rest) => (.chars s, rest)
    else none
  | 'P' :: rest =>
    if f.isUnicode then (propertyEscape f true rest).map fun (s, rest) => (.chars s, rest)
    else none
  | 'd' :: rest => some (.chars (digits f), rest)
  | 's' :: rest => some (.chars (spaces f), rest)
  | 'w' :: rest => some (.chars (wordChars f), rest)
  | 'D' :: rest => (others? f (digits f)).map fun s => (.chars s, rest)
  | 'S' :: rest => (others? f (spaces f)).map fun s => (.chars s, rest)
  | 'W' :: rest => (others? f (wordChars f)).map fun s => (.chars s, rest)
  | 'A' :: rest => look .textStart rest
  | 'z' :: rest => look .textEnd rest
  | 'b' :: rest => (edgeEscape f rest).map fun (e, rest) => (.look (word e), rest)
  | 'B' :: rest => look (word .noBoundary) rest
  | '<' :: rest => look (word .start) rest
  | '>' :: rest => look (word .stop) rest
  | c :: rest =>
    if isEscapable c then some (.char c, rest)
    else (control? c).map fun c => (.char c, rest)

end Pattern
end Workbook
