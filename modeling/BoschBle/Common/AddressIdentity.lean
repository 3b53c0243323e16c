import BoschBle.Mgmt.AddressBytes

/-!
# Checked addresses as names of devices

The check lets an address pass with a newline behind it, and the result keeps the
newline.  Its bytes are those of the address alone, so two checked texts of one
device may differ.
-/

namespace BoschBle
namespace Common

open Foundation Mgmt

/-! ## Upper case -/

theorem upper_isHexDigit
    {char : Char}
    (isHex : Regex.isHexDigit char = true) :
    Regex.isHexDigit char.toUpper = true ∧
      Integer.digitIn 16 char.toUpper = Integer.digitIn 16 char := by
  apply Regex.forall_isHexDigit _ _ isHex
  decide

/-- The pair with its digits in upper case. -/
def HexPair.upper (pair : HexPair) : HexPair where
  high := pair.high.toUpper
  low := pair.low.toUpper
  highDigit := (upper_isHexDigit pair.highDigit).1
  lowDigit := (upper_isHexDigit pair.lowDigit).1

@[simp] theorem HexPair.text_upper (pair : HexPair) :
    pair.upper.text = Text.upper pair.text := rfl

@[simp] theorem HexPair.octet_upper (pair : HexPair) : pair.upper.octet = pair.octet := by
  simp [octet, Integer.valueOf, text, upper, upper_isHexDigit pair.highDigit,
    upper_isHexDigit pair.lowDigit]

/-- The address with its digits in upper case. -/
def Address.upper (address : Address) : Address where
  pairs := address.pairs.map HexPair.upper
  six := by rw [List.length_map, address.six]

@[simp] theorem Address.text_upper (address : Address) :
    address.upper.text = Text.upper address.text := by
  rw [text, text, upper_intercalate, upper, List.map_map, List.map_map]
  rfl

@[simp] theorem Address.octets_upper (address : Address) :
    address.upper.octets = address.octets := by
  rw [octets, upper, List.map_map]
  exact List.map_congr_left fun pair _ => pair.octet_upper

theorem Address.length_octets (address : Address) : address.octets.length = 6 := by
  rw [octets, List.length_map, address.six]

/-! ## Accepted texts -/

/-- A text is an address and nothing else. -/
def WellFormed (text : String) : Prop :=
  ∃ address : Address, text = String.ofList address.text

/-- A text is an address with a newline behind it. -/
def NewlineBehind (text : String) : Prop :=
  ∃ address : Address, text = String.ofList (address.text ++ ['\n'])

/-- The check accepts an address with nothing or a newline behind it, and gives it
back in upper case. -/
theorem validateAddress_eq_ok_iff
    {printable : Char -> Bool} {text result : String} :
    validateAddress printable text = .ok result ↔
      ∃ (address : Address) (behind : Text), (behind = [] ∨ behind = ['\n']) ∧
        text = String.ofList (address.text ++ behind) ∧
        result = String.ofList (address.upper.text ++ behind) := by
  have upperOf (address : Address) (behind : Text) (behind_eq : behind = [] ∨ behind = ['\n']) :
      Bluez.normalizeAddress (String.ofList (address.text ++ behind)) =
        String.ofList (address.upper.text ++ behind) := by
    have sameBehind : Text.upper behind = behind := by
      obtain rfl | rfl := behind_eq <;> decide
    rw [Bluez.normalizeAddress, String.toList_ofList, Address.text_upper, Text.upper,
      List.map_append]
    exact congrArg (fun rest => String.ofList (Text.upper address.text ++ rest)) sameBehind
  have accepts (address : Address) (behind : Text)
      (behind_eq : behind = [] ∨ behind = ['\n']) :
      (BLE_ADDRESS_RE.matchAt none (address.text ++ behind)).isSome = true := by
    rw [BLE_ADDRESS_RE_isSome]
    refine ⟨address, behind_eq.imp ?_ ?_⟩
    · rintro rfl
      exact List.append_nil _
    · rintro rfl
      rfl
  constructor
  · intro returns
    rw [validateAddress] at returns
    split at returns
    case isFalse => cases returns
    case isTrue isMatch =>
      cases returns
      obtain ⟨address, text_eq⟩ := BLE_ADDRESS_RE_isSome.mp isMatch
      have split : ∃ behind, (behind = [] ∨ behind = ['\n']) ∧
          text = String.ofList (address.text ++ behind) := by
        cases text_eq with
        | inl alone =>
            refine ⟨[], .inl rfl, ?_⟩
            rw [List.append_nil, ← alone, String.ofList_toList]
        | inr newline =>
            refine ⟨['\n'], .inr rfl, ?_⟩
            rw [← newline, String.ofList_toList]
      obtain ⟨behind, behind_eq, rfl⟩ := split
      exact ⟨address, behind, behind_eq, rfl, upperOf address behind behind_eq⟩
  · rintro ⟨address, behind, behind_eq, rfl, rfl⟩
    rw [validateAddress, String.toList_ofList, if_pos (accepts address behind behind_eq),
      upperOf address behind behind_eq]

theorem validateAddress_error_type
    {printable : Char -> Bool} {text : String} {exc : Exn}
    (raises : validateAddress printable text = .error exc) :
    exc.type = .valueError := by
  rw [validateAddress] at raises
  split at raises
  case isTrue => cases raises
  case isFalse =>
    cases raises
    rfl

/-- An address does not end in a newline. -/
theorem newline_notMem_text (address : Address) : '\n' ∉ address.text := by
  have notDigit (pair : HexPair) : '\n' ∉ pair.text := by
    rw [HexPair.text, List.mem_cons, List.mem_singleton, not_or]
    constructor
    · intro isHigh
      have isHex := pair.highDigit
      rw [← isHigh] at isHex
      exact absurd isHex (by decide)
    · intro isLow
      have isHex := pair.lowDigit
      rw [← isLow] at isHex
      exact absurd isHex (by decide)
  obtain ⟨front, last, _, _, text_eq⟩ := address.exists_last
  rw [text_eq, List.mem_append, not_or]
  refine ⟨?_, notDigit last⟩
  rw [List.mem_flatMap]
  rintro ⟨pair, _, present⟩
  rw [List.mem_append, List.mem_singleton] at present
  exact present.elim (notDigit pair) (by decide)

/-- The newline behind an address can be told from the address. -/
theorem text_append_inj
    {address other : Address} {behind otherBehind : Text}
    (behind_eq : behind = [] ∨ behind = ['\n'])
    (other_eq : otherBehind = [] ∨ otherBehind = ['\n'])
    (same : address.text ++ behind = other.text ++ otherBehind) :
    address.text = other.text ∧ behind = otherBehind := by
  obtain rfl | rfl := behind_eq
  case inl =>
    obtain rfl | rfl := other_eq
    · exact ⟨by simpa using same, rfl⟩
    · have inText : '\n' ∈ address.text := by
        rw [List.append_nil] at same
        rw [same]
        exact List.mem_append_right _ List.mem_cons_self
      exact absurd inText (newline_notMem_text address)
  case inr =>
    obtain rfl | rfl := other_eq
    · have inText : '\n' ∈ other.text := by
        rw [List.append_nil] at same
        rw [← same]
        exact List.mem_append_right _ List.mem_cons_self
      exact absurd inText (newline_notMem_text other)
    · exact ⟨List.append_cancel_right same, rfl⟩

/-- Addresses of the same octets are the same in upper case. -/
theorem upper_text_eq_iff {address other : Address} :
    address.upper.text = other.upper.text ↔ address.octets = other.octets := by
  constructor
  · intro same
    have bytes := bdaddrToBytes_of_text (fun _ => true) address.upper (.inl rfl)
    rw [same, bdaddrToBytes_of_text (fun _ => true) other.upper (.inl rfl)] at bytes
    simpa using (Except.ok.inj bytes).symm
  · intro same
    rw [Address.text_upper, Address.text_upper, ← renderOctets_octets,
      ← renderOctets_octets, same]

/-! ## Checked texts -/

/-- A text is accepted exactly if it is an address, refused with a value error
otherwise, and the result is the way that its bytes are written. -/
def Checked (printable : Char -> Bool) (text : String) : Prop :=
  ((∃ result, validateAddress printable text = .ok result) ↔ WellFormed text) ∧
  (∀ exc, validateAddress printable text = .error exc -> exc.type = .valueError) ∧
  ∀ result, validateAddress printable text = .ok result ->
    ∃ octets, bdaddrToBytes printable result = .ok octets ∧ octets.length = 6 ∧
      result = String.ofList (renderOctets octets.reverse)

/-- Where two texts are accepted, they name one device exactly if the results are
equal. -/
def Identified (printable : Char -> Bool) (text other : String) : Prop :=
  ∀ result otherResult,
    validateAddress printable text = .ok result ->
    validateAddress printable other = .ok otherResult ->
      (bdaddrToBytes printable text = bdaddrToBytes printable other ↔
        result = otherResult)

/-- Of two texts of the same octets one has a newline behind it. -/
def DiffersInNewline (text other : String) : Prop :=
  ∃ address otherAddress : Address, address.octets = otherAddress.octets ∧
    ((text = String.ofList address.text ∧
        other = String.ofList (otherAddress.text ++ ['\n'])) ∨
      (text = String.ofList (address.text ++ ['\n']) ∧
        other = String.ofList otherAddress.text))

theorem checked_iff
    (printable : Char -> Bool)
    (text : String) :
    Checked printable text ↔ ¬NewlineBehind text := by
  constructor
  · rintro ⟨accepted, _, _⟩ ⟨address, rfl⟩
    obtain ⟨other, same⟩ := accepted.mp
      ⟨_, validateAddress_eq_ok_iff.mpr ⟨address, ['\n'], .inr rfl, rfl, rfl⟩⟩
    have sameText : address.text ++ ['\n'] = other.text ++ [] := by
      rw [List.append_nil]
      exact String.ofList_injective same
    cases (text_append_inj (.inr rfl) (.inl rfl) sameText).2
  · intro noNewline
    have alone : ∀ (address : Address) (behind : Text),
        (behind = [] ∨ behind = ['\n']) -> text = String.ofList (address.text ++ behind) ->
          behind = [] := by
      rintro address behind (rfl | rfl) text_eq
      · rfl
      · exact absurd ⟨address, text_eq⟩ noNewline
    refine ⟨⟨?accepted, ?wellFormed⟩, fun exc => validateAddress_error_type, ?canonical⟩
    case accepted =>
      rintro ⟨result, returns⟩
      obtain ⟨address, behind, behind_eq, text_eq, _⟩ := validateAddress_eq_ok_iff.mp returns
      rw [alone address behind behind_eq text_eq, List.append_nil] at text_eq
      exact ⟨address, text_eq⟩
    case wellFormed =>
      rintro ⟨address, rfl⟩
      exact ⟨_, validateAddress_eq_ok_iff.mpr
        ⟨address, [], .inl rfl, by rw [List.append_nil], rfl⟩⟩
    case canonical =>
      intro result returns
      obtain ⟨address, behind, behind_eq, text_eq, rfl⟩ :=
        validateAddress_eq_ok_iff.mp returns
      rw [alone address behind behind_eq text_eq]
      refine ⟨_, bdaddrToBytes_of_text printable address.upper (.inl rfl), ?_, ?_⟩
      · rw [List.length_reverse, Address.length_octets]
      · rw [List.reverse_reverse, Address.octets_upper, renderOctets_octets,
          Address.text_upper, List.append_nil]

section Pair

variable
  {printable : Char -> Bool} {address other : Address} {behind otherBehind : Text}
  (behind_eq : behind = [] ∨ behind = ['\n'])
  (other_eq : otherBehind = [] ∨ otherBehind = ['\n'])

include behind_eq other_eq

theorem bytes_eq_iff :
    bdaddrToBytes printable (String.ofList (address.text ++ behind)) =
        bdaddrToBytes printable (String.ofList (other.text ++ otherBehind)) ↔
      address.octets = other.octets := by
  rw [bdaddrToBytes_of_text printable address behind_eq,
    bdaddrToBytes_of_text printable other other_eq, Except.ok.injEq, List.reverse_inj]

theorem results_eq_iff :
    String.ofList (address.upper.text ++ behind) =
        String.ofList (other.upper.text ++ otherBehind) ↔
      address.octets = other.octets ∧ behind = otherBehind := by
  constructor
  · intro same
    obtain ⟨sameText, sameBehind⟩ :=
      text_append_inj behind_eq other_eq (String.ofList_injective same)
    exact ⟨upper_text_eq_iff.mp sameText, sameBehind⟩
  · rintro ⟨sameOctets, rfl⟩
    rw [upper_text_eq_iff.mpr sameOctets]

end Pair

theorem identified_iff
    (printable : Char -> Bool)
    (text other : String) :
    Identified printable text other ↔ ¬DiffersInNewline text other := by
  constructor
  · intro identified differs
    -- The bytes are the same and the results are not.
    have clash {address otherAddress : Address} {behind otherBehind : Text}
        (behind_eq : behind = [] ∨ behind = ['\n'])
        (other_eq : otherBehind = [] ∨ otherBehind = ['\n'])
        (sameOctets : address.octets = otherAddress.octets)
        (text_eq : text = String.ofList (address.text ++ behind))
        (otherText_eq : other = String.ofList (otherAddress.text ++ otherBehind)) :
        behind = otherBehind := by
      have accepted := (@validateAddress_eq_ok_iff printable text _).mpr
        ⟨address, behind, behind_eq, text_eq, rfl⟩
      have otherAccepted := (@validateAddress_eq_ok_iff printable other _).mpr
        ⟨otherAddress, otherBehind, other_eq, otherText_eq, rfl⟩
      have same := identified _ _ accepted otherAccepted
      rw [text_eq, otherText_eq, bytes_eq_iff behind_eq other_eq,
        results_eq_iff behind_eq other_eq] at same
      exact (same.mp sameOctets).2
    obtain ⟨address, otherAddress, sameOctets, ⟨text_eq, other_eq⟩ | ⟨text_eq, other_eq⟩⟩ :=
      differs
    · have sameBehind := clash (.inl rfl) (.inr rfl) sameOctets
        (by rw [text_eq, List.append_nil]) other_eq
      cases sameBehind
    · have sameBehind := clash (.inr rfl) (.inl rfl) sameOctets text_eq
        (by rw [other_eq, List.append_nil])
      cases sameBehind
  · intro notDiffers result otherResult accepted otherAccepted
    obtain ⟨address, behind, behind_eq, rfl, rfl⟩ := validateAddress_eq_ok_iff.mp accepted
    obtain ⟨otherAddress, otherBehind, other_eq, rfl, rfl⟩ :=
      validateAddress_eq_ok_iff.mp otherAccepted
    rw [bytes_eq_iff behind_eq other_eq, results_eq_iff behind_eq other_eq]
    refine ⟨fun sameOctets => ⟨sameOctets, ?_⟩, fun same => same.1⟩
    by_contra differentBehind
    apply notDiffers
    refine ⟨address, otherAddress, sameOctets, ?_⟩
    obtain rfl | rfl := behind_eq
    · obtain rfl | rfl := other_eq
      · exact absurd rfl differentBehind
      · exact .inl ⟨by rw [List.append_nil], rfl⟩
    · obtain rfl | rfl := other_eq
      · exact .inr ⟨rfl, by rw [List.append_nil]⟩
      · exact absurd rfl differentBehind

/-- What the check promises of one text holds exactly if the text is no address with
a newline behind it, and what it promises of two texts exactly if they do not differ
in such a newline. -/
theorem validateAddress_canonical_iff
    (printable : Char -> Bool)
    (text other : String) :
    (Checked printable text ↔ ¬NewlineBehind text) ∧
      (Identified printable text other ↔ ¬DiffersInNewline text other) :=
  ⟨checked_iff printable text, identified_iff printable text other⟩

/-- An address with a newline behind it is accepted, and its result is not the one of
the address alone. -/
theorem validateAddress_newline :
    (∃ result, validateAddress (fun _ => true) "AA:BB:CC:DD:EE:FF\n" = .ok result) ∧
    ¬WellFormed "AA:BB:CC:DD:EE:FF\n" ∧
    ¬Checked (fun _ => true) "AA:BB:CC:DD:EE:FF\n" ∧
    ¬Identified (fun _ => true) "AA:BB:CC:DD:EE:FF" "AA:BB:CC:DD:EE:FF\n" := by
  have accepted : validateAddress (fun _ => true) "AA:BB:CC:DD:EE:FF\n" =
      .ok "AA:BB:CC:DD:EE:FF\n" := by
    decide
  have alone : validateAddress (fun _ => true) "AA:BB:CC:DD:EE:FF" =
      .ok "AA:BB:CC:DD:EE:FF" := by
    decide
  have malformed : ¬WellFormed "AA:BB:CC:DD:EE:FF\n" := by
    rintro ⟨address, text_eq⟩
    have inText : '\n' ∈ address.text := by
      rw [← @String.toList_ofList address.text, ← text_eq]
      decide
    exact newline_notMem_text address inText
  refine ⟨⟨_, accepted⟩, malformed, ?_, ?_⟩
  · intro isChecked
    exact malformed (isChecked.1.mp ⟨_, accepted⟩)
  · intro identified
    have sameBytes : bdaddrToBytes (fun _ => true) "AA:BB:CC:DD:EE:FF" =
        bdaddrToBytes (fun _ => true) "AA:BB:CC:DD:EE:FF\n" := by
      decide
    exact absurd ((identified _ _ alone accepted).mp sameBytes) (by decide)

end Common
end BoschBle
