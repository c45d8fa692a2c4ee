import Workbook.Json.Basic

/-!
Reading JSON.

A text is cut into tokens first, and the tokens are put together with a stack of the containers that
are still open.  Nothing but space may stand around the value, nesting is not limited, and a member
may occur twice.
-/

namespace Workbook
namespace Json

/-! ## Texts -/

def hexValue? (c : Char) : Option Nat :=
  if c.isDigit then some (c.toNat - 0x30)
  else if 'a' ≤ c ∧ c ≤ 'f' then some (c.toNat - 0x57)
  else if 'A' ≤ c ∧ c ≤ 'F' then some (c.toNat - 0x37)
  else none

/-- The number written with four hexadecimal digits. -/
def codeUnit? (a b c d : Char) : Option Nat :=
  match hexValue? a, hexValue? b, hexValue? c, hexValue? d with
  | some a, some b, some c, some d => some (((a * 16 + b) * 16 + c) * 16 + d)
  | _, _, _, _ => none

/-- The character that a backslash and the given one stand for. -/
def unescape? (c : Char) : Option Char :=
  match c with
  | '"' => some '"'
  | '\\' => some '\\'
  | '/' => some '/'
  | 'b' => some '\x08'
  | 'f' => some '\x0c'
  | 'n' => some '\n'
  | 'r' => some '\r'
  | 't' => some '\t'
  | _ => none

/-- Part of a text: a character, or a code unit that an escape names. -/
inductive Glyph where
  | char (c : Char)
  | unit (code : Nat)
deriving DecidableEq, Repr

/-- The parts of a text between its quotation marks. -/
def glyphs? : List Char → Option (List Glyph)
  | [] => some []
  | '\\' :: 'u' :: a :: b :: c :: d :: rest =>
    match codeUnit? a b c d with
    | some code => (glyphs? rest).map (.unit code :: ·)
    | none => none
  | '\\' :: e :: rest =>
    match unescape? e with
    | some c => (glyphs? rest).map (.char c :: ·)
    | none => none
  | c :: rest => if c = '\\' then none else (glyphs? rest).map (.char c :: ·)

def isLead (code : Nat) : Bool := 0xd800 ≤ code && code ≤ 0xdbff

def isTrail (code : Nat) : Bool := 0xdc00 ≤ code && code ≤ 0xdfff

/-- The characters of a text, unless one half of a pair is missing. -/
def chars? : List Glyph → Option (List Char)
  | [] => some []
  | .char c :: rest => (chars? rest).map (c :: ·)
  | .unit lead :: .unit trail :: rest =>
    if isLead lead then
      if isTrail trail then
        let code := 0x10000 + (lead - 0xd800) * 0x400 + (trail - 0xdc00)
        (chars? rest).map (Char.ofNat code :: ·)
      else none
    else if isTrail lead then none
    else (chars? (.unit trail :: rest)).map (Char.ofNat lead :: ·)
  | .unit code :: rest =>
    if isLead code || isTrail code then none else (chars? rest).map (Char.ofNat code :: ·)

/-! ## Numbers -/

def natOfDigits (digits : List Char) : Nat := digits.foldl (fun n c => 10 * n + (c.toNat - 0x30)) 0

/-- A whole number without a needless zero in front. -/
def isWhole : List Char → Bool
  | [] => false
  | ['0'] => true
  | c :: rest => c != '0' && (c :: rest).all Char.isDigit

def isExponent : List Char → Bool
  | [] => true
  | e :: rest =>
    (e == 'e' || e == 'E') &&
      match rest with
      | [] => false
      | c :: digits =>
        if c = '+' ∨ c = '-' then !digits.isEmpty && digits.all Char.isDigit
        else (c :: digits).all Char.isDigit

/-- What may follow the whole part: places behind a point, and an exponent. -/
def isFraction : List Char → Bool
  | '.' :: rest => (rest.takeWhile Char.isDigit) != [] && isExponent (rest.dropWhile Char.isDigit)
  | rest => isExponent rest

/-- The number that the characters write.  Minus zero is no integer. -/
def number? (cs : List Char) : Option Json :=
  let body := if cs.head? = some '-' then cs.drop 1 else cs
  let whole := body.takeWhile Char.isDigit
  let rest := body.dropWhile Char.isDigit
  if isWhole whole && isFraction rest then
    if rest ≠ [] ∨ cs = ['-', '0'] then some (.decimal (String.ofList cs))
    else if cs.head? = some '-' then some (.int (-(natOfDigits whole : Int)))
    else some (.int (natOfDigits whole))
  else none

/-! ## Tokens -/

inductive Mark where
  | openList
  | closeList
  | openObject
  | closeObject
  | comma
  | colon
deriving DecidableEq, Repr

inductive Token where
  | mark (m : Mark)
  /-- A value without parts. -/
  | scalar (value : Json)
deriving Repr

def mark? (c : Char) : Option Mark :=
  if c = '[' then some .openList
  else if c = ']' then some .closeList
  else if c = '\x7b' then some .openObject
  else if c = '\x7d' then some .closeObject
  else if c = ',' then some .comma
  else if c = ':' then some .colon
  else none

def isSpace (c : Char) : Bool := c == ' ' || c == '\n' || c == '\t' || c == '\r'

/-- The token of a run of characters outside texts. -/
def bare? (cs : List Char) : Option Token :=
  if cs = ['n', 'u', 'l', 'l'] then some (.scalar .null)
  else if cs = ['t', 'r', 'u', 'e'] then some (.scalar (.bool true))
  else if cs = ['f', 'a', 'l', 's', 'e'] then some (.scalar (.bool false))
  else (number? cs).map .scalar

/-- The token of a text, given what stands between its quotation marks. -/
def quoted? (body : List Char) : Option Token :=
  (glyphs? body).map fun glyphs =>
    match chars? glyphs with
    | some cs => .scalar (.text (String.ofList cs))
    | none => .scalar .unpaired

/-- Where the lexer stands; characters of the present token are held last first. -/
inductive Place where
  | between
  | bare (held : List Char)
  | body (held : List Char)
  /-- In a text, behind a backslash. -/
  | escape (held : List Char)
deriving DecidableEq, Repr

def follow (token? : Option Token) (rest? : Option (List Token)) : Option (List Token) :=
  match token?, rest? with
  | some token, some rest => some (token :: rest)
  | _, _ => none

def tokens? : Place → List Char → Option (List Token)
  | .between, [] => some []
  | .bare held, [] => follow (bare? held.reverse) (some [])
  | .body _, [] => none
  | .escape _, [] => none
  | .between, c :: rest =>
    if isSpace c then tokens? .between rest
    else if c = '"' then tokens? (.body []) rest
    else
      match mark? c with
      | some m => follow (some (.mark m)) (tokens? .between rest)
      | none => tokens? (.bare [c]) rest
  | .bare held, c :: rest =>
    if isSpace c then follow (bare? held.reverse) (tokens? .between rest)
    else if c = '"' then follow (bare? held.reverse) (tokens? (.body []) rest)
    else
      match mark? c with
      | some m => follow (bare? held.reverse) (follow (some (.mark m)) (tokens? .between rest))
      | none => tokens? (.bare (c :: held)) rest
  | .body held, c :: rest =>
    if c = '"' then follow (quoted? held.reverse) (tokens? .between rest)
    else if c = '\\' then tokens? (.escape (c :: held)) rest
    else if c.toNat < 0x20 then none
    else tokens? (.body (c :: held)) rest
  | .escape held, c :: rest => tokens? (.body (c :: held)) rest

/-! ## Values -/

/-- The key of a member, unless it is no sequence of characters. -/
abbrev Key : Type := Option String

/-- A container that is still open, with its parts so far, the last one first. -/
inductive Frame where
  | list (items : List Json)
  | object (members : List (Key × Json)) (key : Key)
deriving Repr

/-- What may come next. -/
inductive Due where
  /-- A value. -/
  | value (frames : List Frame)
  /-- The first item of a list, or its end. -/
  | item (frames : List Frame)
  /-- A key, or, before the first member, the end of the object. -/
  | key (members : List (Key × Json)) (frames : List Frame)
  | colon (members : List (Key × Json)) (key : Key) (frames : List Frame)
  /-- What may follow a value. -/
  | after (value : Json) (frames : List Frame)
deriving Repr

/-- The object of the given members, the last one first. -/
def ofMembers (members : List (Key × Json)) : Json :=
  match members.reverse.mapM fun m => m.1.map (·, m.2) with
  | some members => .object members
  | none => .unpaired

/-- Begins the value that a token stands for or opens. -/
def beginValue (frames : List Frame) : Token → Option Due
  | .scalar v => some (.after v frames)
  | .mark .openList => some (.item frames)
  | .mark .openObject => some (.key [] frames)
  | _ => none

def feed : Due → Token → Option Due
  | .value frames, t => beginValue frames t
  | .item frames, .mark .closeList => some (.after (.list []) frames)
  | .item frames, t => beginValue (.list [] :: frames) t
  | .key members frames, .scalar (.text key) => some (.colon members (some key) frames)
  | .key members frames, .scalar .unpaired => some (.colon members none frames)
  | .key [] frames, .mark .closeObject => some (.after (.object []) frames)
  | .key _ _, _ => none
  | .colon members key frames, .mark .colon => some (.value (.object members key :: frames))
  | .colon _ _ _, _ => none
  | .after v (.list items :: frames), .mark .comma => some (.value (.list (v :: items) :: frames))
  | .after v (.list items :: frames), .mark .closeList =>
    some (.after (.list (v :: items).reverse) frames)
  | .after v (.object members key :: frames), .mark .comma =>
    some (.key ((key, v) :: members) frames)
  | .after v (.object members key :: frames), .mark .closeObject =>
    some (.after (ofMembers ((key, v) :: members)) frames)
  | .after _ _, _ => none

def feedAll : Due → List Token → Option Due
  | due, [] => some due
  | due, t :: rest =>
    match feed due t with
    | some next => feedAll next rest
    | none => none

/-- The value of a sequence of tokens. -/
def ofTokens? (tokens : List Token) : Option Json :=
  match feedAll (.value []) tokens with
  | some (.after v []) => some v
  | _ => none

/-- The value that a text writes. -/
def parse? (text : String) : Option Json :=
  match tokens? .between text.toList with
  | some tokens => ofTokens? tokens
  | none => none

end Json
end Workbook
