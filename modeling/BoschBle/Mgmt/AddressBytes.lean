import BoschBle.Common.Address
import BoschBle.Foundation.Hex
import BoschBle.Mgmt.LoadParameters

/-!
# The bytes of an address

An address is sent in reversed order.  White space around a pair of digits is passed
over by `int`, so a newline behind the last pair does not change the bytes.
-/

namespace BoschBle
namespace Mgmt

open Foundation Common

/-! ## Hexadecimal digits -/

/-- A hexadecimal digit is a digit for `int` and nothing else. -/
theorem digitIn_of_isHexDigit
    {char : Char}
    (isHex : Regex.isHexDigit char = true) :
    (Integer.digitIn 16 char).isSome ∧ Integer.isIntSpace char = false ∧
      char ≠ '-' ∧ char ≠ '+' := by
  apply Regex.forall_isHexDigit _ _ isHex
  decide

theorem notMarker_of_isHexDigit
    {char : Char}
    (isHex : Regex.isHexDigit char = true) :
    char ≠ 'x' ∧ char ≠ 'X' ∧ char ≠ ':' := by
  apply Regex.forall_isHexDigit _ _ isHex
  decide

/-- The digit of a value in upper case. -/
theorem digitChar_of_isHexDigit
    {char : Char}
    (isHex : Regex.isHexDigit char = true) :
    (Integer.digitIn 16 char).getD 0 < 16 ∧
      (Nat.digitChar ((Integer.digitIn 16 char).getD 0)).toUpper = char.toUpper := by
  apply Regex.forall_isHexDigit _ _ isHex
  decide

/-! ## Pairs -/

theorem valueOf_pair_lt (pair : HexPair) :
    Integer.valueOf 16 pair.text < 256 := by
  have highSmall := (digitChar_of_isHexDigit pair.highDigit).1
  have lowSmall := (digitChar_of_isHexDigit pair.lowDigit).1
  simp only [HexPair.text, Integer.valueOf, Integer.ofDigits, List.map_cons, List.map_nil,
    List.foldl_cons, List.foldl_nil]
  omega

/-- A pair is read as its octet, also with a newline behind it. -/
theorem octetOf_pair
    (printable : Char -> Bool)
    (pair : HexPair)
    {spaces : Text}
    (spaces_eq : spaces = [] ∨ spaces = ['\n']) :
    octetOf printable (pair.text ++ spaces) = .ok pair.octet := by
  have areDigits : ∀ char ∈ pair.text, (Integer.digitIn 16 char).isSome ∧
      Integer.isIntSpace char = false ∧ char ≠ '-' ∧ char ≠ '+' := by
    intro char present
    rw [HexPair.text, List.mem_cons, List.mem_singleton] at present
    obtain rfl | rfl := present
    · exact digitIn_of_isHexDigit pair.highDigit
    · exact digitIn_of_isHexDigit pair.lowDigit
  have noMarker : Integer.dropMarker (pair.text ++ spaces) = pair.text ++ spaces := by
    obtain ⟨notLower, notUpper, _⟩ := notMarker_of_isHexDigit pair.lowDigit
    rw [HexPair.text, List.cons_append, List.singleton_append]
    rw [Integer.dropMarker.eq_5]
    all_goals simp [notLower, notUpper]
  have reads : Integer.intOf printable 16 (pair.text ++ spaces) =
      .ok (Integer.valueOf 16 pair.text) := by
    apply Integer.intOf_digits (List.cons_ne_nil _ _) areDigits (fun _ => noMarker)
      (.inl (by decide))
    · intro char present
      obtain rfl | rfl := spaces_eq
      · cases present
      · rw [List.mem_singleton] at present
        subst present
        decide
    · intro char isHead
      obtain rfl | rfl := spaces_eq
      · cases isHead
      · cases isHead
        decide
  have small : (0 : Int) ≤ Integer.valueOf 16 pair.text ∧
      (Integer.valueOf 16 pair.text : Int) < 256 := by
    have below := valueOf_pair_lt pair
    omega
  rw [octetOf, reads]
  simp only [bind, Except.bind]
  rw [if_pos small, Int.toNat_natCast, HexPair.octet]

theorem colon_notMem_pair (pair : HexPair) : ':' ∉ pair.text := by
  rw [HexPair.text, List.mem_cons, List.mem_singleton, not_or]
  exact ⟨(notMarker_of_isHexDigit pair.highDigit).2.2.symm,
    (notMarker_of_isHexDigit pair.lowDigit).2.2.symm⟩

/-- An address is sent as its octets in reversed order, also with a newline behind
it. -/
theorem bdaddrToBytes_of_text
    (printable : Char -> Bool)
    (address : Address)
    {spaces : Text}
    (spaces_eq : spaces = [] ∨ spaces = ['\n']) :
    bdaddrToBytes printable (String.ofList (address.text ++ spaces)) =
      .ok address.octets.reverse := by
  obtain ⟨front, last, pairs_eq, five, text_eq⟩ := address.exists_last
  have noColon : ∀ part ∈ front.map HexPair.text ++ [last.text ++ spaces], ':' ∉ part := by
    intro part present
    rw [List.mem_append, List.mem_map, List.mem_singleton] at present
    obtain ⟨pair, _, rfl⟩ | rfl := present
    · exact colon_notMem_pair pair
    · rw [List.mem_append, not_or]
      refine ⟨colon_notMem_pair last, ?_⟩
      obtain rfl | rfl := spaces_eq
      · exact List.not_mem_nil
      · decide
  have parts : (address.text ++ spaces).splitOn ':' =
      front.map HexPair.text ++ [last.text ++ spaces] := by
    rw [text_eq, List.append_assoc, ← intercalate_pairs]
    exact List.splitOn_intercalate ':' noColon (by simp)
  have octets : (front.map HexPair.text ++ [last.text ++ spaces]).mapM
      (octetOf printable) = .ok (front.map HexPair.octet ++ [last.octet]) := by
    rw [mapM_eq_ok_iff]
    apply List.rel_append
    · rw [List.forall₂_map_left_iff, List.forall₂_map_right_iff, List.forall₂_same]
      intro pair _
      rw [← List.append_nil pair.text]
      exact octetOf_pair printable pair (.inl rfl)
    · exact .cons (octetOf_pair printable last spaces_eq) .nil
  have sixParts : ¬(front.map HexPair.text ++ [last.text ++ spaces]).length ≠ 6 := by
    rw [List.length_append, List.length_map, five]
    exact not_not_intro rfl
  rw [bdaddrToBytes, String.toList_ofList, parts, octets, if_neg sixParts, Address.octets,
    pairs_eq, List.map_append]
  rfl

/-! ## Writing an address -/

/-- The upper-case hexadecimal digits of the octets, with colons between them. -/
def renderOctets (octets : Bytes) : Text :=
  [':'].intercalate (octets.map fun octet =>
    Text.upper (Bytes.formatHex 2 octet.toNat).toList)

/-- A pair is written as it is read, in upper case. -/
theorem render_pair (pair : HexPair) :
    Text.upper (Bytes.formatHex 2 pair.octet.toNat).toList = Text.upper pair.text := by
  obtain ⟨highSmall, highUpper⟩ := digitChar_of_isHexDigit pair.highDigit
  obtain ⟨lowSmall, lowUpper⟩ := digitChar_of_isHexDigit pair.lowDigit
  have value_eq : pair.octet.toNat = 16 * (Integer.digitIn 16 pair.high).getD 0 +
      (Integer.digitIn 16 pair.low).getD 0 := by
    rw [HexPair.octet, UInt8.toNat_ofNat_of_lt' (valueOf_pair_lt pair)]
    simp [HexPair.text, Integer.valueOf, Integer.ofDigits]
  rw [value_eq, Bytes.formatHex_two highSmall lowSmall]
  simp only [Text.upper, HexPair.text, List.map_cons, List.map_nil, highUpper, lowUpper]

theorem upper_intercalate (parts : List Text) :
    Text.upper ([':'].intercalate parts) = [':'].intercalate (parts.map Text.upper) := by
  have colon : Char.toUpper ':' = ':' := by decide
  induction parts with
  | nil => rfl
  | cons part parts inductionHypothesis =>
      cases parts with
      | nil => simp [List.intercalate]
      | cons second parts =>
          have notNil : second :: parts ≠ [] := List.cons_ne_nil _ _
          have upperNotNil : (second :: parts).map Text.upper ≠ [] := List.cons_ne_nil _ _
          rw [List.map_cons, List.intercalate_cons_of_ne_nil notNil,
            List.intercalate_cons_of_ne_nil upperNotNil, ← inductionHypothesis]
          simp only [Text.upper, List.map_append, List.map_cons, List.map_nil, colon]

/-- An address is written as it is read, in upper case. -/
theorem renderOctets_octets (address : Address) :
    renderOctets address.octets = Text.upper address.text := by
  rw [renderOctets, Address.octets, Address.text, upper_intercalate, List.map_map,
    List.map_map]
  congr 1
  exact List.map_congr_left fun pair _ => render_pair pair

end Mgmt
end BoschBle
