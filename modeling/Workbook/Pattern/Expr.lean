import Workbook.CharSet.Basic
import Workbook.Text.Utf8

/-!
Patterns in normal form.

An expression is what a pattern means, free of how it was written.  `ofSet`, `concatenate`,
`alternate` and `repeated` build expressions and keep them normal: neighbouring literals are one
literal, a set of one character is a literal, sequences and alternatives are not nested in their
own kind, and alternatives that all begin with the same parts share them.
-/

namespace Workbook
namespace Pattern

inductive WordEdge where
  | boundary
  | noBoundary
  | start
  | stop
  | startHalf
  | stopHalf
deriving DecidableEq, Repr

/-- What a place in a text can be asked for. -/
inductive Look where
  | textStart
  | textEnd
  | lineStart (isCrlf : Bool)
  | lineEnd (isCrlf : Bool)
  | word (isUnicode : Bool) (edge : WordEdge)
deriving DecidableEq, Repr

inductive Expr where
  | empty
  /-- A text that is not empty. -/
  | literal (text : List Char)
  /-- One character of a set; of the empty set, nothing at all. -/
  | chars (set : CharSet)
  | look (l : Look)
  | times (min : Nat) (max : Option Nat) (isGreedy : Bool) (sub : Expr)
  /-- A group whose text is kept. -/
  | capture (index : Nat) (sub : Expr)
  | concat (subs : List Expr)
  | alternation (subs : List Expr)
deriving BEq, Repr

namespace Expr

/-! ## Lengths of the texts that fit -/

def charLength (n : Nat) : Nat := (Char.ofNat n).utf8Size

/-- The sum, if all are known. -/
def sum? (lengths : List (Option Nat)) : Option Nat :=
  lengths.foldr (fun a b => a.bind fun a => b.map (a + ·)) (some 0)

/-- What `choose` makes of all, if all are known. -/
def extreme? (choose : Nat → Nat → Nat) : List (Option Nat) → Option Nat
  | [] => none
  | [a] => a
  | a :: rest => a.bind fun a => (extreme? choose rest).map (choose a)

/-- The least length in bytes of a text that fits, if any fits. -/
def minLength? : Expr → Option Nat
  | .empty => some 0
  | .literal text => some (Text.byteLength text)
  | .chars set => set.ranges.head?.map fun r => charLength r.1
  | .look _ => some 0
  | .times min _ _ sub => sub.minLength?.map (min * ·)
  | .capture _ sub => sub.minLength?
  | .concat subs => sum? (subs.map minLength?)
  | .alternation subs => extreme? min (subs.map minLength?)

/-- The greatest length in bytes of a text that fits, if there is a bound. -/
def maxLength? : Expr → Option Nat
  | .empty => some 0
  | .literal text => some (Text.byteLength text)
  | .chars set => set.ranges.getLast?.map fun r => charLength r.2
  | .look _ => some 0
  | .times _ max _ sub => max.bind fun n => sub.maxLength?.map (n * ·)
  | .capture _ sub => sub.maxLength?
  | .concat subs => sum? (subs.map maxLength?)
  | .alternation subs => extreme? max (subs.map maxLength?)

/-! ## Construction -/

/-- What fits nothing. -/
def fail : Expr := .chars .empty

/-- One character of a set. -/
def ofSet (set : CharSet) : Expr :=
  match set.only? with
  | some n => .literal [Char.ofNat n]
  | none => .chars set

/-- The parts of an expression in a sequence. -/
def parts : Expr → List Expr
  | .empty => []
  | .concat subs => subs
  | e => [e]

/-- Puts a part in front of others; two literals become one. -/
def attach (e : Expr) (rest : List Expr) : List Expr :=
  match e, rest with
  | .literal a, .literal b :: rest => .literal (a ++ b) :: rest
  | e, rest => e :: rest

/-- One after the other. -/
def concatenate (subs : List Expr) : Expr :=
  match (subs.flatMap parts).foldr attach [] with
  | [] => .empty
  | [e] => e
  | subs => .concat subs

def branches : Expr → List Expr
  | .alternation subs => subs
  | e => [e]

/-- The character of a literal that has only one. -/
def single? : Expr → Option CharSet
  | .literal [c] => some (.singleton c.toNat)
  | _ => none

def set? : Expr → Option CharSet
  | .chars set => some set
  | _ => none

def sequence? : Expr → Option (List Expr)
  | .concat subs => some subs
  | _ => none

/-- The longest sequence with which both begin. -/
def commonStart : List Expr → List Expr → List Expr
  | a :: as, b :: bs => if a == b then a :: commonStart as bs else []
  | _, _ => []

/-- The sequences with which all alternatives begin, and what follows it in each, if all of them are
sequences. -/
def shared? (subs : List Expr) : Option (List Expr × List Expr) :=
  match subs.mapM sequence? with
  | some (first :: rest) =>
    let start := rest.foldl commonStart first
    if start.isEmpty then none
    else some (start, (first :: rest).map fun s => concatenate (s.drop start.length))
  | _ => none

/-- Alternatives that are one expression: a single one, characters, or sets of them. -/
def merged? : List Expr → Option Expr
  | [] => some fail
  | [e] => some e
  | subs =>
    match subs.mapM single?, subs.mapM set? with
    | some sets, _ => some (ofSet (.unions sets))
    | none, some sets => some (ofSet (.unions sets))
    | none, none => none

/-- One or the other of those that share no beginning. -/
def alternateEnds (subs : List Expr) : Expr :=
  let subs := subs.flatMap branches
  (merged? subs).getD (.alternation subs)

/-- One or the other.  Behind the longest sequence that they share, alternatives do not share
another one, and neither do those of an alternative that has only alternatives left. -/
def alternate (subs : List Expr) : Expr :=
  let subs := subs.flatMap branches
  match merged? subs, shared? subs with
  | some e, _ => e
  | none, some (start, ends) => concatenate (start ++ [alternateEnds ends])
  | none, none => .alternation subs

/-- A number of times, one after the other.  What fits the empty text only need not be repeated. -/
def repeated (min : Nat) (max : Option Nat) (isGreedy : Bool) (sub : Expr) : Expr :=
  let isIdle := sub.maxLength? = some 0
  let min := if isIdle then Nat.min min 1 else min
  let max := if isIdle then some (Nat.min (max.getD 1) 1) else max
  if min = 0 ∧ max = some 0 then .empty
  else if min = 1 ∧ max = some 1 then sub
  else .times min max isGreedy sub

end Expr
end Pattern
end Workbook
