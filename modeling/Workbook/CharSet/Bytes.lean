import Workbook.CharSet.Basic
import Workbook.Text.Utf8

/-!
Sets of characters as ranges of bytes.

The characters of a set, as encoded in files, are those texts of bytes that fit one of the sequences
of byte ranges in `byteRanges`.  A range of code points is cut where the length of the encoding
changes, and then so that in each piece the bytes vary independently of each other.
-/

namespace Workbook
namespace CharSet

/-- A sequence with one range for each byte. -/
abbrev ByteRanges := List (UInt8 × UInt8)

/-- Cuts a range at multiples of the first number, and what is left between two of them at multiples
of the next. -/
def blocks : List Nat → Nat → Nat → List (Nat × Nat)
  | [], first, last => [(first, last)]
  | size :: larger, first, last =>
    if first / size = last / size then [(first, last)]
    else
      let start := (first + size - 1) / size * size
      let stop := (last + 1) / size * size
      let before := if first < start then [(first, start - 1)] else []
      let between := if start < stop then blocks larger start (stop - 1) else []
      let after := if stop ≤ last then [(stop, last)] else []
      before ++ between ++ after

/-- Code points whose encodings are equally long; no surrogate has one. -/
def lengthClasses : List (Nat × Nat) :=
  [(0, 0x7f), (0x80, 0x7ff), (0x800, 0xd7ff), (0xe000, 0xffff), (0x10000, 0x10ffff)]

/-- What is in both of two ranges. -/
def overlap (a b : Nat × Nat) : Option (Nat × Nat) :=
  let first := max a.1 b.1
  let last := min a.2 b.2
  if first ≤ last then some (first, last) else none

def bytes (n : Nat) : List UInt8 := String.utf8EncodeChar (Char.ofNat n)

/-- The sequences of byte ranges for the characters of a set, ascending. -/
def byteRanges (s : CharSet) : List ByteRanges :=
  s.ranges.flatMap fun r =>
    (lengthClasses.filterMap (overlap r)).flatMap fun (first, last) =>
      let pieces := if last < 0x80 then [(first, last)]
        else blocks [1 <<< 6, 1 <<< 12, 1 <<< 18] first last
      pieces.map fun (first, last) => (bytes first).zip (bytes last)

end CharSet
end Workbook
