import BoschBle.Bluez.State
import BoschBle.Foundation.Integer
import BoschBle.Foundation.RegexSemantics

/-!
# Addresses

An address is six pairs of hexadecimal digits with colons between them.  The pattern
that the tools check addresses with ends in `$`, which also matches in front of a
newline at the end of the text.
-/

namespace BoschBle
namespace Common

open Foundation

/-- Two hexadecimal digits. -/
structure HexPair where
  high : Char
  low : Char
  highDigit : Regex.isHexDigit high = true
  lowDigit : Regex.isHexDigit low = true

/-- The two digits. -/
def HexPair.text (pair : HexPair) : Text :=
  [pair.high, pair.low]

/-- The octet that a pair stands for. -/
def HexPair.octet (pair : HexPair) : UInt8 :=
  UInt8.ofNat (Integer.valueOf 16 pair.text)

/-- Six pairs of hexadecimal digits. -/
structure Address where
  pairs : List HexPair
  six : pairs.length = 6

/-- The pairs with colons between them. -/
def Address.text (address : Address) : Text :=
  [':'].intercalate (address.pairs.map HexPair.text)

/-- The octets in the order in which they are written. -/
def Address.octets (address : Address) : Bytes :=
  address.pairs.map HexPair.octet

/-- `BLE_ADDRESS_RE`. -/
def BLE_ADDRESS_RE : Regex :=
  Regex.sequence
    ([Regex.textStart] ++
      List.replicate 5 (.group (Regex.sequence
        [Regex.exactly 2 Regex.isHexDigit, Regex.lit ":"])) ++
      [Regex.exactly 2 Regex.isHexDigit, Regex.textEnd])

/-- `validate_address`. -/
def validateAddress (printable : Char -> Bool) (address : String) : Except Exn String :=
  if (BLE_ADDRESS_RE.matchAt none address.toList).isSome then
    .ok (Bluez.normalizeAddress address)
  else
    .error ⟨.valueError, String.ofList (Repr.ofText printable address.toList) ++
      " is not a valid BLE MAC address (expected AA:BB:CC:DD:EE:FF)"⟩

/-! ## What the pattern accepts -/

theorem spells_pair {text : Text} :
    (Regex.exactly 2 Regex.isHexDigit).Spells text ↔ ∃ pair : HexPair, text = pair.text := by
  constructor
  · rintro ⟨_, _, rfl, ⟨high, rfl, highDigit⟩, ⟨low, rfl, lowDigit⟩⟩
    exact ⟨⟨high, low, highDigit, lowDigit⟩, rfl⟩
  · rintro ⟨pair, rfl⟩
    exact ⟨[pair.high], [pair.low], rfl, ⟨_, rfl, pair.highDigit⟩, ⟨_, rfl, pair.lowDigit⟩⟩

theorem spells_pairs {count : Nat} {text : Text} :
    (Regex.sequence (List.replicate count (.group (Regex.sequence
        [Regex.exactly 2 Regex.isHexDigit, Regex.lit ":"])))).Spells text ↔
      ∃ pairs : List HexPair, pairs.length = count ∧
        text = pairs.flatMap fun pair => pair.text ++ [':'] := by
  induction count generalizing text with
  | zero =>
      simp only [List.replicate_zero, List.length_eq_zero_iff, exists_eq_left,
        List.flatMap_nil]
      rfl
  | succ count inductionHypothesis =>
      have spells_octet (front : Text) : (Regex.group (Regex.sequence
          [Regex.exactly 2 Regex.isHexDigit, Regex.lit ":"])).Spells front ↔
            ∃ pair : HexPair, front = pair.text ++ [':'] := by
        constructor
        · rintro ⟨_, _, rfl, isPair, ⟨colon, rfl, isColon⟩⟩
          obtain ⟨pair, rfl⟩ := spells_pair.mp isPair
          have colon_eq : colon = ':' := eq_of_beq isColon
          exact ⟨pair, by rw [colon_eq]⟩
        · rintro ⟨pair, rfl⟩
          exact ⟨_, _, rfl, spells_pair.mpr ⟨pair, rfl⟩, ⟨':', rfl, rfl⟩⟩
      simp only [List.replicate_succ, Regex.spells_sequence_cons, inductionHypothesis,
        spells_octet]
      constructor
      · rintro ⟨_, _, rfl, ⟨pair, rfl⟩, pairs, rfl, rfl⟩
        exact ⟨pair :: pairs, rfl, rfl⟩
      · rintro ⟨pairs, length_eq, rfl⟩
        obtain ⟨pair, rest, rfl⟩ := List.exists_cons_of_length_eq_add_one length_eq
        exact ⟨_, _, rfl, ⟨pair, rfl⟩, rest, Nat.succ.inj length_eq, rfl⟩

/-- The colons stand behind the pairs in front of the last part. -/
theorem intercalate_pairs
    (pairs : List HexPair)
    (last : Text) :
    [':'].intercalate (pairs.map HexPair.text ++ [last]) =
      (pairs.flatMap fun pair => pair.text ++ [':']) ++ last := by
  induction pairs with
  | nil => simp
  | cons pair pairs inductionHypothesis =>
      rw [List.map_cons, List.cons_append, List.intercalate_cons_of_ne_nil (by simp),
        inductionHypothesis, List.flatMap_cons]
      simp only [List.append_assoc]

/-- An address is some pairs and a last one. -/
theorem Address.exists_last (address : Address) :
    ∃ front last, address.pairs = front ++ [last] ∧ front.length = 5 ∧
      address.text = (front.flatMap fun pair => pair.text ++ [':']) ++ last.text := by
  obtain ⟨pairs, six⟩ := address
  obtain ⟨front, last, rfl⟩ : ∃ front last, pairs = front ++ [last] := by
    refine ⟨pairs.dropLast, pairs.getLast ?_, (List.dropLast_append_getLast _).symm⟩
    rintro rfl
    cases six
  refine ⟨front, last, rfl, ?_, ?_⟩
  · rw [List.length_append] at six
    exact Nat.succ.inj six
  · rw [Address.text, List.map_append]
    exact intercalate_pairs front last.text

/-- The pattern between its anchors. -/
def addressParts : List Regex :=
  List.replicate 5 (.group (Regex.sequence
    [Regex.exactly 2 Regex.isHexDigit, Regex.lit ":"])) ++
      [Regex.exactly 2 Regex.isHexDigit]

theorem spells_addressParts {text : Text} :
    (Regex.sequence addressParts).Spells text ↔
      ∃ address : Address, text = address.text := by
  rw [addressParts, Regex.spells_sequence_append]
  constructor
  · rintro ⟨_, _, rfl, isPairs, isPair⟩
    obtain ⟨pairs, five, rfl⟩ := spells_pairs.mp isPairs
    obtain ⟨last, rfl⟩ := spells_pair.mp isPair
    refine ⟨⟨pairs ++ [last], ?_⟩, ?_⟩
    · rw [List.length_append, five]
      rfl
    · rw [Address.text, List.map_append]
      exact (intercalate_pairs pairs last.text).symm
  · rintro ⟨address, rfl⟩
    obtain ⟨front, last, _, five, text_eq⟩ := address.exists_last
    exact ⟨_, _, text_eq, spells_pairs.mpr ⟨front, five, rfl⟩,
      spells_pair.mpr ⟨last, rfl⟩⟩

/-- The pattern accepts an address, and an address with a newline behind it. -/
theorem BLE_ADDRESS_RE_isSome {text : Text} :
    (BLE_ADDRESS_RE.matchAt none text).isSome = true ↔
      ∃ address : Address, text = address.text ∨ text = address.text ++ ['\n'] := by
  have shape : BLE_ADDRESS_RE =
      Regex.sequence (Regex.textStart :: (addressParts ++ [Regex.textEnd])) := rfl
  have anchorless : (Regex.sequence addressParts).Anchorless := by
    simp [addressParts, List.replicate, Regex.sequence, Regex.exactly, Regex.lit,
      Regex.Anchorless]
  have inside := Regex.reaches_iff_spells anchorless ⟨none, text, none, none⟩
    fun rest => rest = [] ∨ rest = ['\n']
  rw [Regex.matchAt_isSome, shape]
  simp only [Regex.reaches_sequence_cons, Regex.reaches_sequence_append]
  constructor
  · rintro ⟨_, _, ⟨_, rfl⟩, middle, reaches, _, ⟨atEnd, _⟩, _⟩
    obtain ⟨_, rest, text_eq, isAddress, ended⟩ := inside.mp ⟨middle, reaches, atEnd⟩
    obtain ⟨address, rfl⟩ := spells_addressParts.mp isAddress
    refine ⟨address, ended.imp ?_ ?_⟩
    · rintro rfl
      rw [← List.append_nil address.text]
      exact text_eq
    · rintro rfl
      exact text_eq
  · rintro ⟨address, accepted⟩
    have isAddress := spells_addressParts.mpr ⟨address, rfl⟩
    have split : ∃ taken rest, text = taken ++ rest ∧
        (Regex.sequence addressParts).Spells taken ∧ (rest = [] ∨ rest = ['\n']) := by
      cases accepted with
      | inl alone => exact ⟨_, [], by rw [alone, List.append_nil], isAddress, .inl rfl⟩
      | inr newline => exact ⟨_, ['\n'], newline, isAddress, .inr rfl⟩
    obtain ⟨middle, reaches, atEnd⟩ := inside.mpr split
    exact ⟨middle, _, ⟨rfl, rfl⟩, middle, reaches, middle, ⟨atEnd, rfl⟩, rfl⟩

end Common
end BoschBle
