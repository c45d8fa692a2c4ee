import Workbook.Pattern.Bracket
import Workbook.Pattern.Group

/-!
Reading patterns.

The reader goes through a pattern once and keeps the groups that are open, each with the parts of
its last alternative and the alternatives before.  A part is kept with the number of levels of parts
in it, as patterns nested too deep are refused.
-/

namespace Workbook
namespace Pattern

/-- A part of a pattern: what it means, how many levels of parts it has, and whether it can be
repeated. -/
structure Part where
  expr : Expr
  height : Nat := 0
  canRepeat : Bool := true

namespace Part

/-- How many levels of parts a pattern may have. -/
def heightLimit : Nat := 250

def maxHeight (ps : List Part) : Nat := (ps.map (·.height)).foldl max 0

/-- Parts in a row; several make a level of their own. -/
def row : List Part → Part
  | [] => { expr := .empty }
  | [p] => p
  | ps => { expr := .concatenate (ps.map (·.expr)), height := maxHeight ps + 1 }

/-- Alternatives; several make a level of their own. -/
def choice : List Part → Part
  | [] => { expr := .empty }
  | [p] => p
  | ps => { expr := .alternate (ps.map (·.expr)), height := maxHeight ps + 1 }

/-- A part in parentheses, with the number under which its text is kept. -/
def group (index? : Option Nat) (p : Part) : Part :=
  { expr := match index? with | some n => .capture n p.expr | none => p.expr
    height := p.height + 1 }

/-- A part that is repeated, if it can be. -/
def repeated? (min : Nat) (max : Option Nat) (isGreedy : Bool) (p : Part) : Option Part :=
  if p.canRepeat && p.height < heightLimit then
    some { expr := .repeated min max isGreedy p.expr, height := p.height + 1 }
  else none

end Part

/-- A group that is open, or the whole pattern. -/
structure Level where
  /-- The flags in force around it. -/
  outside : Flags := {}
  index? : Option Nat := none
  /-- The parts of the last alternative, the last one first. -/
  row : List Part := []
  /-- The alternatives before, the last one first. -/
  branches : List Part := []

namespace Level

def add (l : Level) (p : Part) : Level := { l with row := p :: l.row }

def branch (l : Level) : Level :=
  { l with row := [], branches := Part.row l.row.reverse :: l.branches }

/-- All that has been read. -/
def part (l : Level) : Part := .choice (l.branch.branches.reverse)

end Level

/-- How far a pattern has been read. -/
structure Progress where
  flags : Flags := {}
  level : Level := {}
  /-- The levels around the last one, the innermost first. -/
  outer : List Level := []
  names : List (List Char) := []
  /-- The number of the last group that keeps its text. -/
  groups : Nat := 0

namespace Progress

def add (p : Progress) (part : Part) : Progress := { p with level := p.level.add part }

/-- Puts a repetition of the last part in its place. -/
def repeatLast? (p : Progress) (min : Nat) (max : Option Nat) (isGreedy : Bool) :
    Option Progress :=
  match p.level.row with
  | [] => none
  | last :: row =>
    (last.repeated? min max (isGreedy != p.flags.isSwapped)).map fun part =>
      { p with level := { p.level with row := part :: row } }

/-- Opens a group, unless too many are open. -/
def openLevel? (p : Progress) (index? : Option Nat) : Option Progress :=
  if p.outer.length < Part.heightLimit then
    some { p with level := { outside := p.flags, index? }, outer := p.level :: p.outer }
  else none

/-- Opens a group that keeps its text. -/
def openGroup? (p : Progress) : Option Progress :=
  { p with groups := p.groups + 1 }.openLevel? (some (p.groups + 1))

/-- Closes the last group. -/
def close? (p : Progress) : Option Progress :=
  match p.outer with
  | [] => none
  | level :: outer =>
    let part := Part.group p.level.index? p.level.part
    if part.height ≤ Part.heightLimit then
      some { p with flags := p.level.outside, level := level.add part, outer }
    else none

end Progress

/-! ## Repetition -/

/-- The digits of a number, which may stand apart, and what follows them. -/
def spacedDigits (f : Flags) : Nat → List Char → List Char × List Char
  | 0, cs => ([], cs)
  | left + 1, cs =>
    match cs with
    | c :: rest =>
      if c.isDigit then
        let (digits, rest) := spacedDigits f left (f.skip rest)
        (c :: digits, rest)
      else ([], cs)
    | [] => ([], [])

/-- A number of at most thirty-two bits, with space around it. -/
def count? (f : Flags) (cs : List Char) : Option (Nat × List Char) :=
  let (digits, rest) := spacedDigits f (cs.length + 1) (cs.dropWhile Text.isBlank)
  let n := digits.foldl (fun n c => 10 * n + (c.toNat - 0x30)) 0
  if digits.isEmpty || UInt32.size ≤ n then none
  else some (n, f.skip (rest.dropWhile Text.isBlank))

/-- A question mark, which makes a repetition take as little as it can. -/
def greed (cs : List Char) : Bool × List Char :=
  match cs with
  | '?' :: rest => (false, rest)
  | cs => (true, cs)

/-- The counts of a repetition and what follows them; the opening brace is read already. -/
def counts? (f : Flags) (cs : List Char) : Option (Nat × Option Nat × List Char) :=
  (count? f (f.skip cs)).bind fun (low, rest) =>
    match rest with
    | '\x7d' :: rest => some (low, some low, f.skip rest)
    | ',' :: rest =>
      match f.skip rest with
      | '\x7d' :: rest => some (low, none, f.skip rest)
      | rest =>
        (count? f rest).bind fun (high, rest) =>
          match rest with
          | '\x7d' :: rest => if low ≤ high then some (low, some high, f.skip rest) else none
          | _ => none
    | _ => none

/-! ## Parts -/

def dot (f : Flags) : CharSet :=
  if f.isDotAll then .all
  else if f.isCrlf then .compl (.table ["A D"])
  else .compl (.singleton 0xa)

def Atom.expr (f : Flags) : Atom → Expr
  | .char c =>
    if f.isUnicode || c.toNat < 0x80 then .ofSet (f.fold (.singleton c.toNat)) else .literal [c]
  | .chars set => .ofSet set
  | .look l => .look l

/-- Reads one part, or what begins or ends a group. -/
def step (p : Progress) (c : Char) (rest : List Char) : Option (Progress × List Char) :=
  let f := p.flags
  let atom (a : Atom) (rest : List Char) : Option (Progress × List Char) :=
    some (p.add { expr := a.expr f }, rest)
  let times (min : Nat) (max : Option Nat) (rest : List Char) : Option (Progress × List Char) :=
    let (isGreedy, rest) := greed rest
    (p.repeatLast? min max isGreedy).map (·, rest)
  match c with
  | '(' =>
    (groupStart f rest).bind fun (start, rest) =>
      match start with
      | .plain => p.openGroup?.map (·, rest)
      | .named name =>
        if p.names.contains name then none
        else { p with names := name :: p.names }.openGroup?.map (·, rest)
      | .flagged flags => (p.openLevel? none).map fun p => ({ p with flags }, rest)
      | .directive flags =>
        some ({ p.add { expr := .empty, canRepeat := false } with flags }, rest)
  | ')' => p.close?.map (·, rest)
  | '|' => some ({ p with level := p.level.branch }, rest)
  | '[' =>
    (bracketSet f rest).map fun (s, rest) =>
      (p.add { expr := .ofSet s.set, height := s.height }, rest)
  | '?' => times 0 (some 1) rest
  | '*' => times 0 none rest
  | '+' => times 1 none rest
  | '\x7b' => (counts? f rest).bind fun (low, high, rest) => times low high rest
  | '\\' => (escape f rest).bind fun (a, rest) => atom a rest
  | '.' => if f.isUnicode then atom (.chars (dot f)) rest else none
  | '^' => atom (.look (if f.isMultiLine then .lineStart f.isCrlf else .textStart)) rest
  | '$' => atom (.look (if f.isMultiLine then .lineEnd f.isCrlf else .textEnd)) rest
  | c => atom (.char c) rest

/-- Reads to the end.  The count bounds the steps. -/
def partsFrom : Nat → Progress → List Char → Option Part
  | 0, _, _ => none
  | left + 1, p, cs =>
    match p.flags.skip cs with
    | [] => if p.outer.isEmpty then some p.level.part else none
    | c :: rest => (step p c rest).bind fun (p, rest) => partsFrom left p rest

/-- The expression of a pattern, if it is well formed and not nested too deep. -/
def read? (text : String) : Option Expr :=
  let cs := text.toList
  (partsFrom (cs.length + 1) {} cs).bind fun p =>
    if p.height ≤ Part.heightLimit then some p.expr else none

end Pattern
end Workbook
