/-!
Sets of characters.

A set is kept as the ascending code points at which membership changes, so that every operation on
two sets is one walk along both lists: `merge` combines what is on either side of each change.
-/

namespace Workbook

/-- A set of code points: those from the first bound on, but not from the second on, and so on. -/
structure CharSet where
  bounds : List Nat := []
deriving DecidableEq, Repr

namespace CharSet

/-- Whether a code point is in the set with these bounds, where `isIn` says whether those in front
of the first bound are. -/
def side (isIn : Bool) : List Nat → Nat → Bool
  | [], _ => isIn
  | b :: bs, n => if n < b then isIn else side (!isIn) bs n

def contains (s : CharSet) (n : Nat) : Bool := side false s.bounds n

/-- A bound, if membership changes there. -/
def bound (before after : Bool) (n : Nat) (rest : List Nat) : List Nat :=
  if before = after then rest else n :: rest

/-- The bounds of the set of those code points for which `f` holds of their membership on the left
and on the right. -/
def merge (f : Bool → Bool → Bool) : Bool → Bool → List Nat → List Nat → List Nat
  | _, _, [], [] => []
  | x, y, a :: as, [] => bound (f x y) (f (!x) y) a (merge f (!x) y as [])
  | x, y, [], b :: bs => bound (f x y) (f x (!y)) b (merge f x (!y) [] bs)
  | x, y, a :: as, b :: bs =>
    if a < b then bound (f x y) (f (!x) y) a (merge f (!x) y as (b :: bs))
    else if b < a then bound (f x y) (f x (!y)) b (merge f x (!y) (a :: as) bs)
    else bound (f x y) (f (!x) (!y)) a (merge f (!x) (!y) as bs)

/-- The code points for which `f`, which must not hold of two code points outside, holds. -/
def combine (f : Bool → Bool → Bool) (a b : CharSet) : CharSet :=
  ⟨merge f false false a.bounds b.bounds⟩

def union : CharSet → CharSet → CharSet := combine fun x y => x || y

def inter : CharSet → CharSet → CharSet := combine fun x y => x && y

def diff : CharSet → CharSet → CharSet := combine fun x y => x && !y

/-- What is in one of the two sets only. -/
def symmDiff : CharSet → CharSet → CharSet := combine fun x y => x != y

def empty : CharSet := {}

/-- All characters: the code points but for the surrogates. -/
def all : CharSet := ⟨[0, 0xd800, 0xe000, 0x110000]⟩

def compl (s : CharSet) : CharSet := all.diff s

def ascii : CharSet := ⟨[0, 0x80]⟩

/-- The code points from `first` to `last`, if there are any. -/
def range (first last : Nat) : CharSet := if first ≤ last then ⟨[first, last + 1]⟩ else empty

def singleton (n : Nat) : CharSet := range n n

/-- The unions of neighbours. -/
def pairs : List CharSet → List CharSet
  | a :: b :: rest => a.union b :: pairs rest
  | sets => sets

/-- The union of all, where neighbours are joined again and again, so that no set is walked along
often. -/
def unions (sets : List CharSet) : CharSet := go sets.length sets
where
  go : Nat → List CharSet → CharSet
    | 0, sets => sets.foldl union empty
    | _ + 1, [] => empty
    | _ + 1, [s] => s
    | left + 1, sets => go left (pairs sets)

/-- The set of a list of code points in any order. -/
def ofCodes (codes : List Nat) : CharSet := (codes.mergeSort (· ≤ ·)).foldr add empty
where
  /-- Adds a code point that is not above any in the set. -/
  add (n : Nat) (s : CharSet) : CharSet :=
    match s.bounds with
    | [] => singleton n
    | b :: bs => if b = n then s else if b = n + 1 then ⟨n :: bs⟩ else ⟨n :: (n + 1) :: b :: bs⟩

/-- The set as closed ranges, ascending. -/
def ranges (s : CharSet) : List (Nat × Nat) := go s.bounds
where
  go : List Nat → List (Nat × Nat)
    | first :: stop :: rest => (first, stop - 1) :: go rest
    | _ => []

/-- The code points of the set, ascending. -/
def codes (s : CharSet) : List Nat := s.ranges.flatMap fun r => List.range' r.1 (r.2 + 1 - r.1)

/-- What a list of pairs, ascending in the first of each, assigns to the code points of a set. -/
def images (s : CharSet) (table : List (Nat × Nat)) : List Nat := go false s.bounds table
where
  go : Bool → List Nat → List (Nat × Nat) → List Nat
    | _, _, [] => []
    | isIn, [], (_, image) :: rest => if isIn then image :: go isIn [] rest else go isIn [] rest
    | isIn, b :: bs, (code, image) :: rest =>
      if b ≤ code then go (!isIn) bs ((code, image) :: rest)
      else if isIn then image :: go isIn (b :: bs) rest
      else go isIn (b :: bs) rest

def isEmpty (s : CharSet) : Bool := s.bounds.isEmpty

/-- Whether no code point of the set needs more than one byte. -/
def isAscii (s : CharSet) : Bool := s.bounds.all (· ≤ 0x80)

/-- The code point of a set that has only one. -/
def only? (s : CharSet) : Option Nat :=
  match s.bounds with
  | [first, stop] => if stop = first + 1 then some first else none
  | _ => none

end CharSet
end Workbook
