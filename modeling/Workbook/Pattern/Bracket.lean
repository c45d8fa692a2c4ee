import Workbook.Pattern.Escape

/-!
Sets between brackets.

A set holds characters, ranges, escapes, sets named between colons, and sets between brackets of
their own; `&&`, `--` and `~~` combine what stands on their left with what stands on their right.
Reading one yields the characters and how deep its parts are nested, as the depth is limited.
-/

namespace Workbook
namespace Pattern

/-- A part of a set, and how many levels of parts it has. -/
structure SetPart where
  set : CharSet
  height : Nat := 0
deriving Repr

inductive SetOp where
  | inter
  | diff
  | symmDiff
deriving DecidableEq, Repr

def SetOp.apply : SetOp → CharSet → CharSet → CharSet
  | .inter, a, b => a.inter b
  | .diff, a, b => a.diff b
  | .symmDiff, a, b => a.symmDiff b

/-- A set of which the closing bracket is not read yet: what stands on the left of the last
operation, and the items since, the last one first. -/
structure OpenSet where
  isNegated : Bool
  left? : Option (SetPart × SetOp) := none
  items : List SetPart := []
deriving Repr

namespace OpenSet

def add (o : OpenSet) (p : SetPart) : OpenSet := { o with items := p :: o.items }

/-- Items together.  Several make a level of their own. -/
def union (items : List SetPart) : SetPart :=
  let height := (items.map (·.height)).foldl max 0
  ⟨.unions (items.map (·.set)), if items.length ≤ 1 then height else height + 1⟩

/-- What has been read so far.  An operation makes a level of its own. -/
def value (f : Flags) (o : OpenSet) : SetPart :=
  let items := union o.items
  match o.left? with
  | none => items
  | some (left, op) =>
    ⟨op.apply (f.fold left.set) (f.fold items.set), max left.height items.height + 1⟩

/-- Puts what has been read on the left of an operation. -/
def operate (f : Flags) (o : OpenSet) (op : SetOp) : OpenSet :=
  { isNegated := o.isNegated, left? := some (o.value f, op) }

/-- The set at its closing bracket.  All but some characters can only be said of characters. -/
def close? (f : Flags) (o : OpenSet) : Option SetPart :=
  let p := o.value f
  let set := f.fold p.set
  if o.isNegated && !f.isUnicode then none
  else some ⟨if o.isNegated then set.compl else set, p.height + 1⟩

end OpenSet

/-! ## Items -/

def posixSets : List (String × CharSet) := [
  ("alnum", .table ["30-39 41-5A 61-7A"]), ("alpha", .table ["41-5A 61-7A"]), ("ascii", .ascii),
  ("blank", .table ["9 20"]), ("cntrl", .table ["0-1F 7F"]), ("digit", .table ["30-39"]),
  ("graph", .table ["21-7E"]), ("lower", .table ["61-7A"]), ("print", .table ["20-7E"]),
  ("punct", .table ["21-2F 3A-40 5B-60 7B-7E"]), ("space", .table ["9-D 20"]),
  ("upper", .table ["41-5A"]), ("word", .table ["30-39 41-5A 5F 61-7A"]),
  ("xdigit", .table ["30-39 41-46 61-66"])]

/-- A set named between colons, whether all else is meant, and what follows; it starts with a
bracket and a colon. -/
def posixSet? (cs : List Char) : Option (CharSet × Bool × List Char) :=
  match cs with
  | '[' :: ':' :: rest =>
    let isNegated := rest.head? = some '^'
    let rest := if isNegated then rest.drop 1 else rest
    let name := rest.takeWhile (· != ':')
    match rest.drop name.length with
    | ':' :: ']' :: after => (posixSets.lookup (String.ofList name)).map (·, isNegated, after)
    | _ => none
  | _ => none

/-- A character or an escape. -/
def setAtom (f : Flags) (cs : List Char) : Option (Atom × List Char) :=
  match cs with
  | [] => none
  | '\\' :: rest => escape f rest
  | c :: rest => some (.char c, rest)

/-- The characters from one to another, which without the flag `u` must be those of ASCII. -/
def charRange? (f : Flags) (first last : Char) : Option CharSet :=
  if first ≤ last && (f.isUnicode || last.toNat < 0x80) then
    some (CharSet.inter .all (.range first.toNat last.toNat))
  else none

/-- Whether a hyphen begins a range, by what comes after it. -/
def isRange (f : Flags) (cs : List Char) : Bool :=
  let next := if f.isSpaced then pass (cs.dropWhile Text.isBlank) else cs
  next.head? != some ']' && next.head? != some '-'
where
  /-- Passes over one number sign and the space behind it. -/
  pass : List Char → List Char
    | '#' :: rest => rest.dropWhile Text.isBlank
    | cs => cs

/-- A character, a range or an escape, and what follows it. -/
def setItem (f : Flags) (cs : List Char) : Option (CharSet × List Char) :=
  (setAtom f cs).bind fun (first, rest) =>
    match f.skip rest with
    | [] => none
    | '-' :: more =>
      if isRange f more then
        match first, setAtom f (f.skip more) with
        | .char a, some (.char b, rest) => (charRange? f a b).map (·, rest)
        | _, _ => none
      else alone first ('-' :: more)
    | rest => alone first rest
where
  alone (a : Atom) (rest : List Char) : Option (CharSet × List Char) :=
    match a with
    | .char c => (charRange? f c c).map (·, rest)
    | .chars s => some (s, rest)
    | .look _ => none

/-! ## Sets -/

/-- The beginning of a set behind its opening bracket: perhaps a caret, and hyphens or a closing
bracket that stand for themselves.  The count bounds the hyphens. -/
def openSet (f : Flags) (limit : Nat) (cs : List Char) : Option (OpenSet × List Char) :=
  let cs := f.skip cs
  let isNegated := cs.head? = some '^'
  let cs := if isNegated then f.skip (cs.drop 1) else cs
  let (o, rest) := hyphens limit ({ isNegated } : OpenSet) cs
  match o.items, rest with
  | _, [] => none
  | [], ']' :: rest => some (o.add ⟨.singleton ']'.toNat, 0⟩, rest)
  | _, rest => some (o, rest)
where
  hyphens : Nat → OpenSet → List Char → OpenSet × List Char
    | 0, o, cs => (o, cs)
    | left + 1, o, cs =>
      match cs with
      | '-' :: rest => hyphens left (o.add ⟨.singleton '-'.toNat, 0⟩) (f.skip rest)
      | cs => (o, cs)

/-- Reads a set to its end, inside of those that are open around it.  The count bounds the items. -/
def setFrom (f : Flags) :
    Nat → OpenSet → List OpenSet → List Char → Option (SetPart × List Char)
  | 0, _, _, _ => none
  | left + 1, o, outer, cs =>
    match f.skip cs with
    | [] => none
    | '[' :: rest =>
      match posixSet? ('[' :: rest) with
      | some (s, isNegated, rest) =>
        if isNegated && !f.isUnicode then none
        else
          let s := f.fold s
          setFrom f left (o.add ⟨if isNegated then s.compl else s, 0⟩) outer rest
      | none => (openSet f left rest).bind fun (inner, rest) => setFrom f left inner (o :: outer) rest
    | ']' :: rest =>
      (o.close? f).bind fun p =>
        match outer with
        | next :: outer => setFrom f left (next.add p) outer rest
        | [] => some (p, rest)
    | '&' :: '&' :: rest => setFrom f left (o.operate f .inter) outer rest
    | '-' :: '-' :: rest => setFrom f left (o.operate f .diff) outer rest
    | '~' :: '~' :: rest => setFrom f left (o.operate f .symmDiff) outer rest
    | cs => (setItem f cs).bind fun (s, rest) => setFrom f left (o.add ⟨s, 0⟩) outer rest

/-- A set and what follows it; the opening bracket is read already. -/
def bracketSet (f : Flags) (cs : List Char) : Option (SetPart × List Char) :=
  let limit := cs.length + 1
  (openSet f limit cs).bind fun (o, rest) => setFrom f limit o [] rest

end Pattern
end Workbook
