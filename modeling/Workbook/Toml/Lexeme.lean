import Workbook.Toml.Scalar

/-!
The smallest parts of a TOML document: space, comments, line ends, texts and keys.

A reader takes characters from the front of what is left and returns the rest.
-/

namespace Workbook
namespace Toml

abbrev Reader (α : Type) : Type := List Char → Option (α × List Char)

def isSpace (c : Char) : Bool := c == ' ' || c == '\t'

def skipSpace (cs : List Char) : List Char := cs.dropWhile isSpace

/-- A character that may stand in texts and comments: no control but the tab. -/
def isPrintable (c : Char) : Bool := c == '\t' || (0x20 ≤ c.toNat && c.toNat != 0x7f)

def skipComment (cs : List Char) : List Char :=
  match cs with
  | '#' :: rest => rest.dropWhile isPrintable
  | _ => cs

/-- What follows a line end, if one stands in front. -/
def lineEnd? : List Char → Option (List Char)
  | '\n' :: rest => some rest
  | '\r' :: '\n' :: rest => some rest
  | _ => none

/-- Passes over space, comments and line ends.  The count bounds the line ends. -/
def skipLines : Nat → List Char → List Char
  | 0, cs => cs
  | lines + 1, cs =>
    let cs := skipComment (skipSpace cs)
    match lineEnd? cs with
    | some rest => skipLines lines rest
    | none => cs

def skipBlank (cs : List Char) : List Char := skipLines (cs.length + 1) cs

/-- Passes over space and line ends alone. -/
def skipSpaceAndLineEnds : List Char → List Char
  | ' ' :: rest => skipSpaceAndLineEnds rest
  | '\t' :: rest => skipSpaceAndLineEnds rest
  | '\n' :: rest => skipSpaceAndLineEnds rest
  | '\r' :: '\n' :: rest => skipSpaceAndLineEnds rest
  | cs => cs

/-! ## Texts -/

/-- The character with a code, if there is one. -/
def charOf? (digits : List Char) : Option Char :=
  let code := natOf 16 digits
  if digits.all isHexDigit && decide code.isValidChar then some (Char.ofNat code) else none

/-- The character that an escape stands for; the backslash is read already. -/
def escape? : Reader Char
  | 'b' :: rest => some ('\x08', rest)
  | 't' :: rest => some ('\t', rest)
  | 'n' :: rest => some ('\n', rest)
  | 'f' :: rest => some ('\x0c', rest)
  | 'r' :: rest => some ('\r', rest)
  | '"' :: rest => some ('"', rest)
  | '\\' :: rest => some ('\\', rest)
  | 'u' :: rest =>
    if rest.length < 4 then none else (charOf? (rest.take 4)).map (·, rest.drop 4)
  | 'U' :: rest =>
    if rest.length < 8 then none else (charOf? (rest.take 8)).map (·, rest.drop 8)
  | _ => none

/-- The rest of a text up to a quotation mark.  The count bounds its characters. -/
def basicText : Nat → List Char → Reader String
  | 0, _, _ => none
  | left + 1, held, cs =>
    match cs with
    | '"' :: rest => some (String.ofList held.reverse, rest)
    | '\\' :: rest =>
      match escape? rest with
      | some (c, rest) => basicText left (c :: held) rest
      | none => none
    | c :: rest => if isPrintable c then basicText left (c :: held) rest else none
    | [] => none

/-- The rest of a text of several lines.  Up to two quotation marks may stand before the three that
end it; a backslash at the end of a line joins it to the next text. -/
def basicLines : Nat → List Char → Reader String
  | 0, _, _ => none
  | left + 1, held, cs =>
    match cs with
    | '"' :: '"' :: '"' :: '"' :: '"' :: rest =>
      some (String.ofList ('"' :: '"' :: held).reverse, rest)
    | '"' :: '"' :: '"' :: '"' :: rest => some (String.ofList ('"' :: held).reverse, rest)
    | '"' :: '"' :: '"' :: rest => some (String.ofList held.reverse, rest)
    | '\\' :: rest =>
      match lineEnd? (skipSpace rest) with
      | some after => basicLines left held (skipSpaceAndLineEnds after)
      | none =>
        match escape? rest with
        | some (c, rest) => basicLines left (c :: held) rest
        | none => none
    | c :: rest =>
      match lineEnd? cs with
      | some rest => basicLines left ('\n' :: held) rest
      | none => if isPrintable c then basicLines left (c :: held) rest else none
    | [] => none

/-- The rest of a literal text, in which a backslash is a backslash. -/
def literalText : Reader String := fun cs =>
  let body := cs.takeWhile fun c => c != '\x27' && isPrintable c
  match cs.drop body.length with
  | '\x27' :: rest => some (String.ofList body, rest)
  | _ => none

def literalLines : Nat → List Char → Reader String
  | 0, _, _ => none
  | left + 1, held, cs =>
    match cs with
    | '\x27' :: '\x27' :: '\x27' :: '\x27' :: '\x27' :: rest =>
      some (String.ofList ('\x27' :: '\x27' :: held).reverse, rest)
    | '\x27' :: '\x27' :: '\x27' :: '\x27' :: rest =>
      some (String.ofList ('\x27' :: held).reverse, rest)
    | '\x27' :: '\x27' :: '\x27' :: rest => some (String.ofList held.reverse, rest)
    | c :: rest =>
      match lineEnd? cs with
      | some rest => literalLines left ('\n' :: held) rest
      | none => if isPrintable c then literalLines left (c :: held) rest else none
    | [] => none

/-- A line end directly behind the opening marks does not belong to the text. -/
def dropFirstLineEnd (cs : List Char) : List Char := (lineEnd? cs).getD cs

/-- A text in any of its four forms. -/
def text? : Reader String
  | '"' :: '"' :: '"' :: rest => basicLines (rest.length + 1) [] (dropFirstLineEnd rest)
  | '\x27' :: '\x27' :: '\x27' :: rest => literalLines (rest.length + 1) [] (dropFirstLineEnd rest)
  | '"' :: rest => basicText (rest.length + 1) [] rest
  | '\x27' :: rest => literalText rest
  | _ => none

/-! ## Keys -/

def isKeyChar (c : Char) : Bool := c.isAlphanum || c == '_' || c == '-'

/-- One part of a key. -/
def keyPart? : Reader String
  | '"' :: rest => basicText (rest.length + 1) [] rest
  | '\x27' :: rest => literalText rest
  | cs =>
    let bare := cs.takeWhile isKeyChar
    if bare.isEmpty then none else some (String.ofList bare, cs.drop bare.length)

/-- The parts of a key, with space around them and points between them. -/
def keyParts : Nat → Reader (List String)
  | 0, _ => none
  | left + 1, cs =>
    match keyPart? (skipSpace cs) with
    | none => none
    | some (part, rest) =>
      match skipSpace rest with
      | '.' :: more => (keyParts left more).map fun (parts, rest) => (part :: parts, rest)
      | rest => some ([part], rest)

def key? : Reader (List String) := keyParts depthLimit

end Toml
end Workbook
