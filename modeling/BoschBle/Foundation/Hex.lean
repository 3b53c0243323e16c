import BoschBle.Foundation.Integer
import BoschBle.Foundation.Regex

/-!
# Hexadecimal texts

`bytes.hex` writes two digits for every octet and `bytes.fromhex` reads them back.
-/

namespace BoschBle
namespace Foundation
namespace Bytes

/-- The white space that `bytes.fromhex` passes over. -/
def isHexSpace (char : Char) : Bool :=
  char == ' ' || ('\t' ≤ char && char ≤ '\r')

/-- The value of a hexadecimal digit of ASCII. -/
def hexDigit (char : Char) : Option Nat :=
  if Regex.isHexDigit char then Integer.digitIn 16 char else none

/-- The complaint of `bytes.fromhex`. -/
def hexError (position : Nat) : Exn :=
  ⟨.valueError, "non-hexadecimal number found in fromhex() arg at position " ++
    toString position⟩

/-- The bytes of the text behind a position. -/
def fromHexFrom (position : Nat) : Text -> Except Exn Bytes
  | [] => .ok []
  | high :: rest =>
      if isHexSpace high then fromHexFrom (position + 1) rest
      else
        match hexDigit high, rest with
        | none, _ => .error (hexError position)
        | some _, [] => .error (hexError (position + 1))
        | some highDigit, low :: behind =>
            match hexDigit low with
            | none => .error (hexError (position + 1))
            | some lowDigit => do
                let tail <- fromHexFrom (position + 2) behind
                return UInt8.ofNat (16 * highDigit + lowDigit) :: tail

/-- `bytes.fromhex`. -/
def fromHex (text : Text) : Except Exn Bytes :=
  fromHexFrom 0 text

/-- The two digits of an octet. -/
theorem formatHex_two
    {high low : Nat}
    (highSmall : high < 16)
    (lowSmall : low < 16) :
    (formatHex 2 (16 * high + low)).toList = [Nat.digitChar high, Nat.digitChar low] := by
  have allDigits : ∀ high < 16, ∀ low < 16,
      (formatHex 2 (16 * high + low)).toList = [Nat.digitChar high, Nat.digitChar low] := by
    decide +kernel
  exact allDigits high highSmall low lowSmall

theorem hex_cons (byte : UInt8) (rest : Bytes) :
    (hex (byte :: rest)).toList =
      Nat.digitChar (byte.toNat / 16) :: Nat.digitChar (byte.toNat % 16) ::
        (hex rest).toList := by
  have bound := byte.toNat_lt
  have digits := @formatHex_two (byte.toNat / 16) (byte.toNat % 16) (by omega) (by omega)
  rw [Nat.div_add_mod] at digits
  rw [hex, List.map_cons, String.join_cons, String.toList_append, digits]
  rfl

/-- What holds of the sixteen digits holds of the digits of bytes. -/
theorem forall_hex
    (holds : Char -> Prop)
    (each : ∀ digit < 16, holds (Nat.digitChar digit))
    (data : Bytes) :
    ∀ char ∈ (hex data).toList, holds char := by
  induction data with
  | nil => exact nofun
  | cons byte rest inductionHypothesis =>
      have bound := byte.toNat_lt
      rw [hex_cons, List.forall_mem_cons, List.forall_mem_cons]
      exact ⟨each _ (by omega), each _ (by omega), inductionHypothesis⟩

theorem fromHexFrom_pair
    (position : Nat)
    {high low : Char} {highDigit lowDigit : Nat} {behind : Text}
    (notSpace : isHexSpace high = false)
    (isHigh : hexDigit high = some highDigit)
    (isLow : hexDigit low = some lowDigit) :
    fromHexFrom position (high :: low :: behind) = (do
      let tail <- fromHexFrom (position + 2) behind
      return UInt8.ofNat (16 * highDigit + lowDigit) :: tail) := by
  conv_lhs => unfold fromHexFrom
  simp only [notSpace, isHigh, isLow, Bool.false_eq_true, if_false]

theorem fromHexFrom_hex (position : Nat) (data : Bytes) :
    fromHexFrom position (hex data).toList = .ok data := by
  have digits : ∀ digit < 16, isHexSpace (Nat.digitChar digit) = false ∧
      hexDigit (Nat.digitChar digit) = some digit := by
    decide
  induction data generalizing position with
  | nil => rfl
  | cons byte rest inductionHypothesis =>
      have bound := byte.toNat_lt
      have high := digits (byte.toNat / 16) (by omega)
      have low := digits (byte.toNat % 16) (by omega)
      rw [hex_cons, fromHexFrom_pair position high.1 high.2 low.2, inductionHypothesis,
        Nat.div_add_mod, UInt8.ofNat_toNat]
      rfl

/-- What was written is read back. -/
theorem fromHex_hex (data : Bytes) :
    fromHex (hex data).toList = .ok data :=
  fromHexFrom_hex 0 data

end Bytes
end Foundation
end BoschBle
