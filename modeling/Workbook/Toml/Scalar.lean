import Workbook.Toml.Basic

/-!
Numbers, dates and times of TOML.

What is read here is a whole run of characters, without the space around it.
-/

namespace Workbook
namespace Toml

/-! ## Digits -/

/-- The digits of a run in which single underscores may stand between digits. -/
def ungroup (isDigit : Char → Bool) : List Char → Option (List Char)
  | [] => none
  | [c] => if isDigit c then some [c] else none
  | c :: '_' :: rest => if isDigit c then (ungroup isDigit rest).map (c :: ·) else none
  | c :: rest => if isDigit c then (ungroup isDigit rest).map (c :: ·) else none

def digitValue (c : Char) : Nat :=
  if c.isDigit then c.toNat - 0x30
  else if 'a' ≤ c ∧ c ≤ 'f' then c.toNat - 0x57
  else c.toNat - 0x37

/-- The number that digits of a base write. -/
def natOf (base : Nat) (digits : List Char) : Nat :=
  digits.foldl (fun n c => base * n + digitValue c) 0

def isHexDigit (c : Char) : Bool :=
  c.isDigit || ('a' ≤ c && c ≤ 'f') || ('A' ≤ c && c ≤ 'F')

def isOctalDigit (c : Char) : Bool := '0' ≤ c && c ≤ '7'

def isBinaryDigit (c : Char) : Bool := c == '0' || c == '1'

/-- Whether a number starts with a sign, whether that is a minus, and the rest. -/
def unsigned : List Char → Bool × List Char
  | '+' :: rest => (false, rest)
  | '-' :: rest => (true, rest)
  | cs => (false, cs)

/-- The digits of a decimal number without needless zeros in front. -/
def decimal? (cs : List Char) : Option (List Char) :=
  match ungroup Char.isDigit cs with
  | some ['0'] => some ['0']
  | some ('0' :: _) => none
  | digits => digits

/-! ## Integers -/

def based? (base : Nat) (isDigit : Char → Bool) (cs : List Char) : Option Int :=
  match ungroup isDigit cs with
  | some digits =>
    let n := natOf base digits
    if n < intLimit then some n else none
  | none => none

def int? (cs : List Char) : Option Int :=
  match cs with
  | '0' :: 'x' :: rest => based? 16 isHexDigit rest
  | '0' :: 'o' :: rest => based? 8 isOctalDigit rest
  | '0' :: 'b' :: rest => based? 2 isBinaryDigit rest
  | cs =>
    let (isNegative, rest) := unsigned cs
    match decimal? rest with
    | some digits =>
      let n := natOf 10 digits
      if isNegative then (if n ≤ intLimit then some (-(n : Int)) else none)
      else if n < intLimit then some n
      else none
    | none => none

/-! ## Floats -/

/-- The exponent that follows a mark, if the characters are one. -/
def exponent? (cs : List Char) : Option Int :=
  let (isNegative, rest) := unsigned cs
  (ungroup Char.isDigit rest).map fun digits =>
    if isNegative then -(natOf 10 digits : Int) else natOf 10 digits

def isExponentMark (c : Char) : Bool := c == 'e' || c == 'E'

/-- Whether a number of digits times a power of ten is too large for a double. -/
def isHuge (digits : List Char) (power : Int) : Bool :=
  let significant := digits.dropWhile (· == '0')
  let places : Int := significant.length + power
  if significant.isEmpty || places < 300 then false
  else if 320 < places then true
  else
    let bound := 1 <<< 1024 - 1 <<< 970
    let n := natOf 10 significant
    if 0 ≤ power then bound ≤ n * Nat.pow 10 power.toNat
    else bound * Nat.pow 10 (-power).toNat ≤ n

/-- Whether characters write a float.  A positive one has to be finite. -/
def isFloat (cs : List Char) : Bool :=
  let (isNegative, body) := unsigned cs
  if body = ['i', 'n', 'f'] ∨ body = ['n', 'a', 'n'] then true
  else
    let whole := body.takeWhile fun c => c != '.' && !isExponentMark c
    let rest := body.drop whole.length
    let places := match rest with
      | '.' :: after => after.takeWhile fun c => !isExponentMark c
      | _ => []
    let tail := match rest with
      | '.' :: after => after.drop places.length
      | _ => rest
    let wholeDigits? := decimal? whole
    let placeDigits? := if rest.head? = some '.' then ungroup Char.isDigit places else some []
    let power? := match tail with
      | [] => some 0
      | _ :: after => exponent? after
    match wholeDigits?, placeDigits?, power? with
    | some digits, some more, some power =>
      !rest.isEmpty && (isNegative || !isHuge (digits ++ more) (power - more.length))
    | _, _, _ => false

/-! ## Dates and times -/

/-- The number that two digits write, if it is in a range. -/
def pair? (low high : Nat) (a b : Char) : Option Nat :=
  if a.isDigit && b.isDigit then
    let n := natOf 10 [a, b]
    if low ≤ n ∧ n ≤ high then some n else none
  else none

def isLeap (year : Nat) : Bool := year % 4 == 0 && (year % 100 != 0 || year % 400 == 0)

def monthLength (year month : Nat) : Nat :=
  if month = 2 then (if isLeap year then 29 else 28)
  else if month = 4 ∨ month = 6 ∨ month = 9 ∨ month = 11 then 30
  else 31

/-- What follows a date, if one stands in front. -/
def date? : List Char → Option (List Char)
  | y1 :: y2 :: y3 :: y4 :: '-' :: m1 :: m2 :: '-' :: d1 :: d2 :: rest =>
    if [y1, y2, y3, y4].all Char.isDigit then
      match pair? 1 12 m1 m2, pair? 1 31 d1 d2 with
      | some month, some day =>
        if day ≤ monthLength (natOf 10 [y1, y2, y3, y4]) month then some rest else none
      | _, _ => none
    else none
  | _ => none

/-- What follows a time of day, if one stands in front. -/
def clock? : List Char → Option (List Char)
  | h1 :: h2 :: ':' :: m1 :: m2 :: ':' :: s1 :: s2 :: rest =>
    match pair? 0 23 h1 h2, pair? 0 59 m1 m2, pair? 0 60 s1 s2 with
    | some _, some _, some _ =>
      match rest with
      | '.' :: places =>
        if (places.takeWhile Char.isDigit).isEmpty then none
        else some (places.dropWhile Char.isDigit)
      | _ => some rest
    | _, _, _ => none
  | _ => none

def isOffset : List Char → Bool
  | [] => true
  | [z] => z == 'Z' || z == 'z'
  | [sign, h1, h2, ':', m1, m2] =>
    (sign == '+' || sign == '-') && (pair? 0 23 h1 h2).isSome && (pair? 0 59 m1 m2).isSome
  | _ => false

/-- Whether characters write a date, a time of day, or both. -/
def isTime (cs : List Char) : Bool :=
  match date? cs with
  | some [] => true
  | some (t :: rest) =>
    (t == 'T' || t == 't' || t == ' ') &&
      match clock? rest with
      | some offset => isOffset offset
      | none => false
  | none => clock? cs == some []

/-- The value that a run of characters writes. -/
def scalar? (cs : List Char) : Option Toml :=
  if cs = ['t', 'r', 'u', 'e'] then some (.bool true)
  else if cs = ['f', 'a', 'l', 's', 'e'] then some (.bool false)
  else
    match int? cs with
    | some n => some (.int n)
    | none =>
      if isFloat cs then some (.float (String.ofList cs))
      else if isTime cs then some (.time (String.ofList cs))
      else none

end Toml
end Workbook
