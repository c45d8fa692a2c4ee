import Workbook.CharSet.Bytes
import Workbook.Pattern.Expr

/-!
The size of the automaton for a pattern.

A pattern is matched by automata over bytes, one that reads a text forward and one that reads it
backward from where a match ends.  A pattern whose automata would be too large is refused, and
`fits` says whether it is not.  `size` counts what an automaton takes, without building it: each
state takes `state`, and each way on from a state with several ways takes more.
-/

namespace Workbook
namespace Pattern

/-- The two automata.  Only the one that reads forward notes where groups begin and end. -/
inductive Direction where
  | forward
  | reverse
deriving DecidableEq, Repr

namespace Size

def limit : Nat := 10 * (1 <<< 20)

def state : Nat := 32

/-- A state with so many ranges of bytes. -/
def ranges (n : Nat) : Nat := state + 8 * n

/-- A state with so many ways on that take no byte. -/
def choice (n : Nat) : Nat := state + 4 * n

/-- Sizes together. -/
def total (sizes : List Nat) : Nat := sizes.foldr (· + ·) 0

/-! ## Sets of characters -/

/-- The sequences that begin with the same range of bytes, without it. -/
def groups : List CharSet.ByteRanges → List (List CharSet.ByteRanges)
  | [] => []
  | [] :: rest => groups rest
  | (r :: tail) :: rest =>
    match rest, groups rest with
    | (next :: _) :: _, group :: more =>
      if r = next then (tail :: group) :: more else [tail] :: group :: more
    | _, more => [tail] :: more

/-- Everything that follows some bytes of the sequences, in turn; a sequence has at most four. -/
def followers : Nat → List CharSet.ByteRanges → List (List CharSet.ByteRanges)
  | 0, _ => []
  | left + 1, sequences =>
    let next := groups sequences
    if next.isEmpty then [] else sequences :: next.flatMap (followers left)

/-- Reading forward, a state for each different set of sequences that can follow. -/
def forwardSet (sequences : List CharSet.ByteRanges) : Nat :=
  let states := (followers 5 sequences).eraseDups
  state + total (states.map fun s => ranges (groups s).length)

/-- Reading backward, a state for each different beginning of a sequence, and a choice of
sequences. -/
def reverseSet (sequences : List CharSet.ByteRanges) : Nat :=
  let beginnings := total ((followers 5 sequences).map fun s => (groups s).length)
  state + choice sequences.length + state * beginnings

def set (d : Direction) (s : CharSet) : Nat :=
  if s.isAscii then state + ranges s.ranges.length
  else
    match d with
    | .forward => forwardSet s.byteRanges
    | .reverse => reverseSet s.byteRanges

/-! ## Alternatives that are texts -/

/-- The words between the empty ones. -/
def chunks : List (List UInt8) → List (List (List UInt8))
  | [] => [[]]
  | [] :: rest => [] :: chunks rest
  | word :: rest =>
    match chunks rest with
    | chunk :: more => (word :: chunk) :: more
    | [] => [[word]]

/-- What follows each of the bytes with which words begin. -/
def tails (words : List (List UInt8)) : List (List (List UInt8)) :=
  let heads := (words.filterMap List.head?).eraseDups
  heads.map fun h => words.filterMap fun
    | c :: tail => if c = h then some tail else none
    | [] => none

/-- The states for words in the order of preference: between two empty words, one for all that
begin there.  The first of several empty words in front counts. -/
def words : Nat → List (List UInt8) → Nat
  | 0, _ => 0
  | left + 1, ws =>
    let rest := ws.dropWhile List.isEmpty
    let ends := (rest.filter List.isEmpty).length + (if ws.length = rest.length then 0 else 1)
    let states := (chunks rest).filterMap fun chunk =>
      let next := tails chunk
      if next.isEmpty then none
      else
        let inner := next.filter fun ws => ws.any fun w => !w.isEmpty
        let here := if next.length = 1 then state else ranges next.length
        some (here + total (inner.map (words left)))
    choice (states.length + ends) + total states

/-! ## Expressions -/

def utf8 (text : List Char) : List UInt8 := text.flatMap String.utf8EncodeChar

/-- The bytes of an expression that is a text, in the order in which they are read. -/
def word? (d : Direction) : Expr → Option (List UInt8)
  | .literal text => some (if d = .forward then utf8 text else (utf8 text).reverse)
  | _ => none

/-- The size of alternatives that are all texts. -/
def texts? (d : Direction) (subs : List Expr) : Option Nat :=
  (subs.mapM (word? d)).map fun ws =>
    state + words ((ws.map List.length).foldl max 0 + 1) ws

/-- The size of a repetition of what has size `n`; `isSolid` says that no empty text fits it. -/
def times (min : Nat) (max : Option Nat) (isSolid : Bool) (n : Nat) : Nat :=
  let exactly (k : Nat) : Nat := if k = 0 then state else k * n
  match min, max with
  | 0, some 1 => choice 2 + n + state
  | 0, none => if isSolid then choice 2 + n else n + choice 2 + choice 2 + state
  | min, none => exactly min + choice 2
  | min, some max =>
    if min = max then exactly min
    else exactly min + state + (max - min) * (choice 2 + n)

def expr (d : Direction) : Expr → Nat
  | .empty => state
  | .literal text => state * (utf8 text).length
  | .chars s => set d s
  | .look _ => state
  | .times min max _ sub =>
    times min max (match sub.minLength? with | some n => 0 < n | none => false) (expr d sub)
  | .capture _ sub => (if d = .forward then 2 * state else 0) + expr d sub
  | .concat subs => total (subs.map (expr d))
  | .alternation subs =>
    match texts? d subs with
    | some n => n
    | none => choice subs.length + state + total (subs.map (expr d))

/-- Whether what fits an expression is bound to the end of the text at which reading begins. -/
def isAnchored (d : Direction) : Expr → Bool
  | .look l => if d = .forward then l = .textStart else l = .textEnd
  | .times min _ _ sub => 0 < min && isAnchored d sub
  | .capture _ sub => isAnchored d sub
  | .alternation subs => (subs.map (isAnchored d)).all id
  | .concat subs =>
    let anchors := subs.map fun e => (isAnchored d e, decide (e.maxLength? = some 0))
    let reached := if d = .forward then anchors else anchors.reverse
    let (idle, rest) := reached.span (·.2)
    idle.any (·.1) || (rest.head?.map (·.1)).getD false
  | _ => false

/-- The whole automaton: something to pass over what is in front of a match, the match, which is a
group of its own, and its end. -/
def automaton (d : Direction) (e : Expr) : Nat :=
  let skip := if isAnchored d e then state else choice 2 + state + ranges 1
  skip + expr d (.capture 0 e) + state

end Size

/-- Whether the automata for an expression are small enough. -/
def Expr.fits (e : Expr) : Bool :=
  Size.automaton .forward e ≤ Size.limit && Size.automaton .reverse e ≤ Size.limit

end Pattern
end Workbook
