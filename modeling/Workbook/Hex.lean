import Workbook.Text.Utf8

/-!
Bytes as hexadecimal digits, two to a byte and the high half first.

Digits are written in lower case and read in either.  What is read is the byte form of the text, so
a fault names a byte and its place among the bytes.
-/

namespace Workbook
namespace Hex

/-- Why a text is no sequence of bytes in hexadecimal. -/
inductive Fault where
  | oddLength
  | badDigit (byte : UInt8) (place : Nat)
deriving DecidableEq, Repr

def digits : List UInt8 → List Char
  | [] => []
  | b :: rest => Nat.digitChar (b.toNat / 16) :: Nat.digitChar (b.toNat % 16) :: digits rest

/-- The bytes written as hexadecimal digits. -/
def encode (bytes : List UInt8) : String := String.ofList (digits bytes)

/-- The value of a digit, given as a byte of text. -/
def value? (b : UInt8) : Option Nat :=
  let n := b.toNat
  if 0x30 ≤ n && n ≤ 0x39 then some (n - 0x30)
  else if 0x41 ≤ n && n ≤ 0x46 then some (n - 0x37)
  else if 0x61 ≤ n && n ≤ 0x66 then some (n - 0x57)
  else none

/-- Reads pairs of digits, the first of which stands at `place`. -/
def ofDigits (place : Nat) : List UInt8 → Except Fault (List UInt8)
  | [] => .ok []
  | [_] => .error .oddLength
  | hi :: lo :: rest =>
    match value? hi, value? lo with
    | none, _ => .error (.badDigit hi place)
    | some _, none => .error (.badDigit lo (place + 1))
    | some h, some l => (ofDigits (place + 2) rest).map (UInt8.ofNat (16 * h + l) :: ·)

/-- The bytes that a text writes in hexadecimal.  Its length is looked at before its digits. -/
def decode (text : String) : Except Fault (List UInt8) :=
  let bytes := Text.utf8 text
  if bytes.length % 2 = 1 then .error .oddLength else ofDigits 0 bytes

/-! ## Reading what was written -/

/-- What is written for half a byte is an ASCII digit, and is read again. -/
theorem digitChar_spec {n : Nat} (h : n < 16) :
    (Nat.digitChar n).toNat < 0x80 ∧
      value? (UInt8.ofNat (Nat.digitChar n).toNat) = some n := by
  have all : ∀ n : Fin 16, (Nat.digitChar n).toNat < 0x80 ∧
      value? (UInt8.ofNat (Nat.digitChar n).toNat) = some n.val := by decide
  exact all ⟨n, h⟩

theorem high_lt (b : UInt8) : b.toNat / 16 < 16 := by
  have := b.toNat_lt
  omega

theorem low_lt (b : UInt8) : b.toNat % 16 < 16 := Nat.mod_lt _ (by decide)

theorem ascii_digits (bytes : List UInt8) : ∀ c ∈ digits bytes, c.toNat < 0x80 := by
  induction bytes with
  | nil => exact fun c hc => absurd hc List.not_mem_nil
  | cons b rest ih =>
    simp only [digits, List.forall_mem_cons]
    exact ⟨(digitChar_spec (high_lt b)).1, (digitChar_spec (low_lt b)).1, ih⟩

theorem length_digits (bytes : List UInt8) : (digits bytes).length = 2 * bytes.length := by
  induction bytes with
  | nil => rfl
  | cons b rest ih =>
    simp only [digits, List.length_cons, ih]
    omega

theorem ofDigits_digits (place : Nat) (bytes : List UInt8) :
    ofDigits place ((digits bytes).map fun c => UInt8.ofNat c.toNat) = .ok bytes := by
  induction bytes generalizing place with
  | nil => rfl
  | cons b rest ih =>
    have whole : 16 * (b.toNat / 16) + b.toNat % 16 = b.toNat := Nat.div_add_mod ..
    simp only [digits, List.map_cons, ofDigits, (digitChar_spec (high_lt b)).2,
      (digitChar_spec (low_lt b)).2, ih, whole]
    rw [UInt8.ofNat_toNat]
    rfl

/-- What is written in hexadecimal digits is read from them again. -/
theorem decode_encode (bytes : List UInt8) : decode (encode bytes) = .ok bytes := by
  have written : Text.utf8 (encode bytes) =
      (digits bytes).map fun c => UInt8.ofNat c.toNat :=
    Text.utf8_ofList_of_ascii (ascii_digits bytes)
  have even : ¬ (Text.utf8 (encode bytes)).length % 2 = 1 := by
    rw [written, List.length_map, length_digits]
    omega
  rw [decode, if_neg even, written, ofDigits_digits]

end Hex
end Workbook
