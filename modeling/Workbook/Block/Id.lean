import Workbook.Ascending
import Workbook.Hex

/-!
Block ids: short texts, ordered by code points, and where fresh ones come from.

A fresh id is the start of a random universally unique identifier of version 4.
-/

namespace Workbook

structure BlockId where
  text : String
deriving DecidableEq, Repr, Inhabited

namespace BlockId

def le (a b : BlockId) : Bool := decide (a.text ≤ b.text)

/-- Pairs are ordered by their first parts, then by their second. -/
def pairLe (p q : BlockId × BlockId) : Bool :=
  if p.1 = q.1 then le p.2 q.2 else le p.1 q.1

theorem isOrder_le : Ascending.IsOrder le where
  total a b := by simpa [le] using String.le_total a.text b.text
  trans := by
    intro a b c hab hbc
    exact decide_eq_true (String.le_trans (of_decide_eq_true hab) (of_decide_eq_true hbc))
  antisymm := by
    intro a b hab hba
    cases a; cases b
    simp only [le, decide_eq_true_eq] at hab hba
    exact congrArg BlockId.mk (String.le_antisymm hab hba)

theorem isOrder_pairLe : Ascending.IsOrder pairLe where
  total p q := by
    unfold pairLe
    by_cases h : p.1 = q.1
    · simpa [h] using isOrder_le.total p.2 q.2
    · simpa [h, Ne.symm h] using isOrder_le.total p.1 q.1
  trans := by
    intro p q r hpq hqr
    unfold pairLe at *
    by_cases h1 : p.1 = q.1 <;> by_cases h2 : q.1 = r.1
    · simp_all
      exact isOrder_le.trans hpq hqr
    · simp_all
    · simp_all
    · by_cases h3 : p.1 = r.1
      · simp_all
        exact absurd (isOrder_le.antisymm hpq hqr) (Ne.symm h2)
      · simp_all
        exact isOrder_le.trans hpq hqr
  antisymm := by
    intro p q hpq hqp
    unfold pairLe at *
    by_cases h : p.1 = q.1
    · simp only [h, if_true] at hpq hqp
      exact Prod.ext h (isOrder_le.antisymm hpq hqp)
    · simp only [h, Ne.symm h, if_false] at hpq hqp
      exact absurd (isOrder_le.antisymm hpq hqp) h
/-- The ids in ascending order, each once. -/
def sorted (ids : List BlockId) : List BlockId := Ascending.ofList le ids

/-- Pairs of ids in ascending order, each once. -/
def sortedPairs (pairs : List (BlockId × BlockId)) : List (BlockId × BlockId) :=
  Ascending.ofList pairLe pairs

theorem mem_sorted {a : BlockId} {ids : List BlockId} : a ∈ sorted ids ↔ a ∈ ids :=
  Ascending.mem_ofList isOrder_le

theorem pairwise_sorted (ids : List BlockId) :
    (sorted ids).Pairwise fun a b => a.text < b.text := by
  refine (Ascending.pairwise_ofList isOrder_le ids).imp fun ⟨le, hne⟩ => ?_
  exact String.not_le.mp fun ge => hne (isOrder_le.antisymm le (decide_eq_true ge))

theorem nodup_sorted (ids : List BlockId) : (sorted ids).Nodup :=
  (Ascending.pairwise_ofList isOrder_le ids).imp fun below => below.2

theorem sorted_congr {ids others : List BlockId} (h : ∀ a, a ∈ ids ↔ a ∈ others) :
    sorted ids = sorted others :=
  Ascending.ofList_congr isOrder_le h

theorem mem_sortedPairs {p : BlockId × BlockId} {pairs : List (BlockId × BlockId)} :
    p ∈ sortedPairs pairs ↔ p ∈ pairs :=
  Ascending.mem_ofList isOrder_pairLe

/-- The texts of ids, one after another. -/
def listed (ids : List BlockId) : String := ", ".intercalate (ids.map (·.text))

end BlockId

/-- A sequence of random words and how many identifiers it has given. -/
structure IdSource where
  word : Nat → UInt32
  drawn : Nat := 0

namespace IdSource

/-- The four bytes of a word, the most significant first. -/
def wordBytes (w : UInt32) : List UInt8 :=
  [(w >>> 24).toUInt8, (w >>> 16).toUInt8, (w >>> 8).toUInt8, w.toUInt8]

/-- Sets the two marks of a random identifier: the version in the seventh byte and the variant in
the ninth. -/
def marked (bytes : List UInt8) : List UInt8 :=
  (bytes.modify 6 fun b => (b &&& 0x0f) ||| 0x40).modify 8 fun b => (b &&& 0x3f) ||| 0x80

/-- The thirty-two digits of the next identifier. -/
def digits (source : IdSource) : String :=
  Hex.encode (marked ((List.range 4).flatMap fun i =>
    wordBytes (source.word (4 * source.drawn + i))))

/-- An id of `length` digits, but at least one and at most thirty-two. -/
def draw (source : IdSource) (length : Nat) : BlockId × IdSource :=
  (⟨String.ofList (source.digits.toList.take (max 1 (min length 32)))⟩,
    { source with drawn := source.drawn + 1 })

end IdSource
end Workbook
