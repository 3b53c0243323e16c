import BoschBle.Foundation.Bytes
import Mathlib.Data.Nat.Digits.Defs

/-!
# Numbers in base 128

A varint is any number of bytes with the top bit set and one byte without it.  The
low seven bits of its bytes are the digits of its value, lowest first.
-/

namespace BoschBle
namespace Foundation

/-- A varint, minimal or not. -/
structure Varint where
  /-- The bytes in front of the last one. -/
  marked : Bytes
  last : UInt8
  marks : ∀ byte ∈ marked, 0x80 ≤ byte.toNat
  ends : last.toNat < 0x80

namespace Varint

/-- The bytes of a number: the marked ones and the last. -/
def bytes (varint : Varint) : Bytes :=
  varint.marked ++ [varint.last]

/-- The number that the digits of some bytes stand for. -/
def digitsValue (bytes : Bytes) : Nat :=
  Nat.ofDigits 128 (bytes.map fun byte => byte.toNat % 128)

/-- The number that the bytes stand for. -/
def value (varint : Varint) : Nat :=
  digitsValue varint.bytes

/-- A varint of one byte. -/
def single (last : UInt8) (ends : last.toNat < 0x80) : Varint :=
  ⟨[], last, fun _ inNone => absurd inNone List.not_mem_nil, ends⟩

/-- A varint with a byte more in front. -/
def cons (byte : UInt8) (marks : 0x80 ≤ byte.toNat) (varint : Varint) : Varint :=
  ⟨byte :: varint.marked, varint.last, List.forall_mem_cons.mpr ⟨marks, varint.marks⟩,
    varint.ends⟩

@[simp] theorem bytes_single
    {last : UInt8}
    (ends : last.toNat < 0x80) :
    (single last ends).bytes = [last] := rfl

@[simp] theorem bytes_cons
    {byte : UInt8}
    (marks : 0x80 ≤ byte.toNat)
    (varint : Varint) :
    (cons byte marks varint).bytes = byte :: varint.bytes := rfl

theorem digitsValue_cons
    (byte : UInt8)
    (bytes : Bytes) :
    digitsValue (byte :: bytes) = byte.toNat % 128 + 128 * digitsValue bytes :=
  Nat.ofDigits_cons

/-- Bytes start with a varint, unless all of them have the top bit set. -/
theorem exists_or_marked (data : Bytes) :
    (∃ (varint : Varint) (tail : Bytes), data = varint.bytes ++ tail) ∨
      ∀ byte ∈ data, 0x80 ≤ byte.toNat := by
  induction data with
  | nil => exact .inr fun _ inNone => absurd inNone List.not_mem_nil
  | cons byte data inductionHypothesis =>
      by_cases ends : byte.toNat < 0x80
      case pos => exact .inl ⟨single byte ends, data, rfl⟩
      case neg =>
        have marks : 0x80 ≤ byte.toNat := Nat.le_of_not_lt ends
        cases inductionHypothesis with
        | inl starts =>
            obtain ⟨varint, tail, rfl⟩ := starts
            exact .inl ⟨cons byte marks varint, tail, rfl⟩
        | inr allMarked => exact .inr (List.forall_mem_cons.mpr ⟨marks, allMarked⟩)

/-! ## Bits of a byte -/

theorem and_lowBits (byte : UInt8) :
    byte.toNat &&& 0x7F = byte.toNat % 128 := by
  rw [show (0x7F : Nat) = 2 ^ 7 - 1 by rfl, Nat.and_two_pow_sub_one_eq_mod]

/-- Bits above all those of a number are added to it. -/
theorem or_shiftLeft
    {total shift : Nat}
    (below : total < 2 ^ shift)
    (digit : Nat) :
    total ||| (digit <<< shift) = total + digit * 2 ^ shift := by
  rw [Nat.or_comm, ← Nat.shiftLeft_add_eq_or_of_lt below, Nat.shiftLeft_eq,
    Nat.add_comm]

end Varint
end Foundation
end BoschBle
