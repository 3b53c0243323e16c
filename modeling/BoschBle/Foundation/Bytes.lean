import BoschBle.Foundation.Effect
import Mathlib.Data.Nat.Bitwise
import Mathlib.Tactic.Ring

/-!
# Byte strings and unsigned integers

Byte strings are lists of octets and integers are unbounded naturals, so masks
and shifts are those of `Nat`.  The conversions to bytes raise where a value
does not fit.
-/

namespace BoschBle
namespace Foundation

/-- An immutable byte string. -/
abbrev Bytes := List UInt8

namespace Bytes

/-- The byte string with the given values, each of which must fit one octet. -/
def ofInts : List Nat -> Except Exn Bytes
  | [] => .ok []
  | value :: rest =>
      if value < 256 then
        match ofInts rest with
        | .ok tail => .ok (UInt8.ofNat value :: tail)
        | .error exc => .error exc
      else
        .error ⟨.valueError, "bytes must be in range(0, 256)"⟩

/-- The slice `data[start:stop]` with `start ≤ stop`. -/
def slice (data : Bytes) (start stop : Nat) : Bytes :=
  (data.drop start).take (stop - start)

/-- The octet `data[index]`. -/
def item (data : Bytes) (index : Nat) : Except Exn UInt8 :=
  match data[index]? with
  | some byte => .ok byte
  | none => .error ⟨.indexError, "index out of range"⟩

/-- The big-endian value of a byte string. -/
def fromBig (data : Bytes) : Nat :=
  data.foldl (fun value byte => value * 256 + byte.toNat) 0

/-- The low `width` octets of a value, most significant first. -/
def bigEndian : Nat -> Nat -> Bytes
  | 0, _ => []
  | width + 1, value =>
      UInt8.ofNat (value / 256 ^ width) :: bigEndian width value

/-- Big-endian conversion to exactly `width` octets. -/
def toBig (value width : Nat) : Except Exn Bytes :=
  if value < 256 ^ width then
    .ok (bigEndian width value)
  else
    .error ⟨.overflowError, "int too big to convert"⟩

/-- The little-endian value of a byte string. -/
def fromLittle (data : Bytes) : Nat :=
  data.foldr (fun byte value => byte.toNat + 256 * value) 0

/-- The low `width` octets of a value, least significant first. -/
def littleEndian : Nat -> Nat -> Bytes
  | 0, _ => []
  | width + 1, value =>
      UInt8.ofNat (value % 256) :: littleEndian width (value / 256)

/-- Lower-case hexadecimal digits of a value, padded with zeros to `width`. -/
def formatHex (width value : Nat) : String :=
  let digits := Nat.toDigits 16 value
  String.ofList (List.replicate (width - digits.length) '0' ++ digits)

/-- Two hexadecimal digits for every octet. -/
def hex (data : Bytes) : String :=
  String.join (data.map fun byte => formatHex 2 byte.toNat)

@[simp] theorem ofInts_nil : ofInts [] = .ok [] := rfl

/-- A slice behind an offset is a slice of what follows the offset. -/
theorem slice_add (data : Bytes) (offset start stop : Nat) :
    data.slice (offset + start) (offset + stop) =
      slice (data.drop offset) start stop := by
  rw [slice, slice, List.drop_drop, Nat.add_sub_add_left]

/-- A slice inside some bytes does not depend on what follows them. -/
theorem slice_append
    {data : Bytes} (more : Bytes) {start stop : Nat}
    (ordered : start ≤ stop)
    (inside : stop ≤ data.length) :
    slice (data ++ more) start stop = data.slice start stop := by
  rw [slice, slice, List.drop_append_of_le_length (ordered.trans inside),
    List.take_append_of_le_length]
  rw [List.length_drop]
  omega

theorem ofInts_cons
    {value : Nat} {rest : List Nat} {tail : Bytes}
    (fits : value < 256)
    (restFits : ofInts rest = .ok tail) :
    ofInts (value :: rest) = .ok (UInt8.ofNat value :: tail) := by
  rw [ofInts, if_pos fits, restFits]

@[simp] theorem length_bigEndian (width value : Nat) :
    (bigEndian width value).length = width := by
  induction width with
  | zero => rfl
  | succ width inductionHypothesis =>
      rw [bigEndian, List.length_cons, inductionHypothesis]

@[simp] theorem length_littleEndian (width value : Nat) :
    (littleEndian width value).length = width := by
  induction width generalizing value with
  | zero => rfl
  | succ width inductionHypothesis =>
      rw [littleEndian, List.length_cons, inductionHypothesis]

theorem fromLittle_littleEndian
    {width value : Nat}
    (fits : value < 256 ^ width) :
    fromLittle (littleEndian width value) = value := by
  induction width generalizing value with
  | zero => simp at fits; simp [littleEndian, fromLittle, fits]
  | succ width inductionHypothesis =>
      have high : value / 256 < 256 ^ width := by
        rw [pow_succ] at fits
        exact Nat.div_lt_of_lt_mul (by rwa [Nat.mul_comm] at fits)
      have low : (UInt8.ofNat (value % 256)).toNat = value % 256 :=
        UInt8.toNat_ofNat_of_lt' (Nat.mod_lt _ (by decide))
      have rest := inductionHypothesis high
      rw [fromLittle] at rest
      rw [littleEndian, fromLittle, List.foldr_cons, rest, low]
      exact Nat.mod_add_div value 256

theorem toBig_of_lt
    {value width : Nat}
    (fits : value < 256 ^ width) :
    toBig value width = .ok (bigEndian width value) := by
  rw [toBig, if_pos fits]

theorem fromBig_cons (byte : UInt8) (rest : Bytes) :
    fromBig (byte :: rest) = byte.toNat * 256 ^ rest.length + fromBig rest := by
  have accumulated (data : Bytes) (value : Nat) :
      data.foldl (fun value byte => value * 256 + byte.toNat) value =
        value * 256 ^ data.length + fromBig data := by
    induction data generalizing value with
    | nil => simp [fromBig]
    | cons byte rest inductionHypothesis =>
        rw [fromBig, List.foldl_cons, List.foldl_cons, inductionHypothesis,
          inductionHypothesis (0 * 256 + byte.toNat), List.length_cons, pow_succ]
        ring
  rw [fromBig, List.foldl_cons, accumulated, Nat.zero_mul, Nat.zero_add]

theorem fromBig_lt (data : Bytes) : fromBig data < 256 ^ data.length := by
  induction data with
  | nil => simp [fromBig]
  | cons byte rest inductionHypothesis =>
      have small : byte.toNat < 256 := byte.toNat_lt
      have head : byte.toNat * 256 ^ rest.length ≤ 255 * 256 ^ rest.length :=
        Nat.mul_le_mul_right _ (by omega)
      rw [fromBig_cons, List.length_cons, pow_succ]
      omega

/-- The octets of a value depend on its residue only. -/
theorem bigEndian_mul_add (width high low : Nat) :
    bigEndian width (high * 256 ^ width + low) = bigEndian width low := by
  induction width generalizing high low with
  | zero => rfl
  | succ width inductionHypothesis =>
      have positive : 0 < 256 ^ width := Nat.pow_pos (by decide)
      have shape : high * 256 ^ (width + 1) + low =
          (high * 256) * 256 ^ width + low := by ring
      have quotient : ((high * 256) * 256 ^ width + low) / 256 ^ width =
          low / 256 ^ width + high * 256 := by
        rw [Nat.add_comm, Nat.add_mul_div_right _ _ positive]
      rw [bigEndian, bigEndian, shape, quotient, inductionHypothesis]
      congr 1
      apply UInt8.toNat_inj.mp
      simp

/-- Reading a value back from its octets. -/
theorem fromBig_bigEndian
    {width value : Nat}
    (fits : value < 256 ^ width) :
    fromBig (bigEndian width value) = value := by
  induction width generalizing value with
  | zero => simp at fits; simp [bigEndian, fromBig, fits]
  | succ width inductionHypothesis =>
      have positive : 0 < 256 ^ width := Nat.pow_pos (by decide)
      have split : value / 256 ^ width * 256 ^ width + value % 256 ^ width =
          value := Nat.div_add_mod' _ _
      have small : value / 256 ^ width < 256 := by
        rw [Nat.div_lt_iff_lt_mul positive]
        simpa [pow_succ, Nat.mul_comm] using fits
      have low : bigEndian width value = bigEndian width (value % 256 ^ width) := by
        have shifted := bigEndian_mul_add width (value / 256 ^ width)
          (value % 256 ^ width)
        rwa [split] at shifted
      rw [bigEndian, fromBig_cons, length_bigEndian, low,
        inductionHypothesis (Nat.mod_lt _ positive),
        UInt8.toNat_ofNat_of_lt' small, split]

/-- Writing the value of some octets gives back the octets. -/
theorem bigEndian_fromBig
    {data : Bytes} {width : Nat}
    (length_eq : data.length = width) :
    bigEndian width (fromBig data) = data := by
  subst length_eq
  induction data with
  | nil => rfl
  | cons byte rest inductionHypothesis =>
      have positive : 0 < 256 ^ rest.length := Nat.pow_pos (by decide)
      have quotient :
          (byte.toNat * 256 ^ rest.length + fromBig rest) / 256 ^ rest.length =
            byte.toNat := by
        rw [Nat.add_comm, Nat.add_mul_div_right _ _ positive,
          Nat.div_eq_of_lt (fromBig_lt rest), Nat.zero_add]
      rw [fromBig_cons, List.length_cons, bigEndian, quotient, bigEndian_mul_add,
        inductionHypothesis, UInt8.ofNat_toNat]

end Bytes

/-! ## Masks and shifts -/

/-- Writing a field above another one of `width` bits adds the two. -/
theorem shiftLeft_or_eq_add
    (high width : Nat) {low : Nat}
    (fits : low < 2 ^ width) :
    (high <<< width) ||| low = high * 2 ^ width + low := by
  rw [← Nat.shiftLeft_add_eq_or_of_lt fits, Nat.shiftLeft_eq]

/-- Reading the field of `width` bits above position `position`. -/
theorem shiftRight_and_mask (value position width : Nat) :
    (value >>> position) &&& (2 ^ width - 1) =
      value / 2 ^ position % 2 ^ width := by
  rw [Nat.and_two_pow_sub_one_eq_mod, Nat.shiftRight_eq_div_pow]

/-- The top bit of a byte. -/
theorem and_topBit_eq_zero_iff (byte : UInt8) :
    byte.toNat &&& 0x80 = 0 ↔ byte.toNat < 0x80 := by
  have allBytes : ∀ value : Fin 256, value.val &&& 0x80 = 0 ↔ value.val < 0x80 := by
    decide +kernel
  exact allBytes ⟨byte.toNat, byte.toNat_lt⟩

end Foundation
end BoschBle
