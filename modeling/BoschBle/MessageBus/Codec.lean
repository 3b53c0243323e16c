import BoschBle.MessageBus.Message

/-!
# MessageBus wire format

Addresses are 15 bits wide.  The top bit of the first address selects the kind
of a message, and the top bit of the second one marks a successful response;
every other response carries a status byte behind the type and sequence byte.
Decoding undoes every message that this side encodes.
-/

namespace BoschBle
namespace MessageBus

open Foundation

/-- `_decode_address`: the 15-bit address in two bytes. -/
def decodeAddress (high low : Nat) : Nat :=
  ((high &&& 0x7F) <<< 8) ||| low

/-- `_encode_address`: the two bytes of an address.  Both values are masked to
an octet, so the conversion to bytes does not raise. -/
def encodeAddress (address : Nat) (setMsb : Bool) : Bytes :=
  let high := (address >>> 8) &&& 0x7F
  let high := if setMsb then high ||| 0x80 else high
  [UInt8.ofNat high, UInt8.ofNat (address &&& 0xFF)]

/-- `_is_response_type`. -/
def isResponseType : MessageType -> Bool
  | .readResponse
  | .writeResponse
  | .rpcResponse
  | .subscribeResponse
  | .unsubscribeResponse => true
  | _ => false

/-- Decode a message with two addresses. -/
def decodeDirectedFrame (raw : Bytes) : Except Exn DirectedFrame :=
  match raw with
  | sourceHigh :: sourceLow :: destinationHigh :: destinationLow ::
      typeAndSequence :: rest => do
      let source := decodeAddress sourceHigh.toNat sourceLow.toNat
      let destination :=
        decodeAddress destinationHigh.toNat destinationLow.toNat
      let messageType ←
        MessageType.ofInt ((typeAndSequence.toNat >>> 4) &&& 0x0F)
      let sequence := typeAndSequence.toNat &&& 0x0F
      if isResponseType messageType ∧ destinationHigh.toNat &&& 0x80 = 0 then
        match rest with
        | [] => .error ⟨.valueError, "Response frame is missing a status byte."⟩
        | status :: payload =>
            .ok { source, destination, messageType, sequence, payload
                  statusCode := .fromByte status.toNat }
      else
        .ok { source, destination, messageType, sequence, payload := rest }
  | _ => .error ⟨.valueError, "Directed frame is shorter than 5 bytes."⟩

/-- Decode the payload of a non-command MCSP frame. -/
def decodeMessageFrame (raw : Bytes) : Except Exn MessageFrame :=
  match raw with
  | high :: low :: payload =>
      if high.toNat &&& 0x80 ≠ 0 then
        .ok (.notify
          { source := decodeAddress high.toNat low.toNat, payload })
      else do
        let frame ← decodeDirectedFrame raw
        .ok (.directed frame)
  | _ => .error ⟨.valueError, "Message frame is shorter than 2 bytes."⟩

/-- `_encode_response`: the answer to a request, with its addresses swapped. -/
def encodeResponse
    (request : DirectedFrame)
    (responseType : MessageType)
    (payload : Bytes)
    (statusCode : ResponseStatusCode) : Except Exn Bytes :=
  if ¬isResponseType responseType then
    .error ⟨.valueError,
      responseType.name ++ " is not a response message type."⟩
  else
    let typeAndSequence :=
      ((responseType.toInt &&& 0x0F) <<< 4) ||| (request.sequence &&& 0x0F)
    .ok (encodeAddress request.destination false ++
      encodeAddress request.source (statusCode = .success) ++
      [UInt8.ofNat typeAndSequence] ++
      (if statusCode ≠ .success then [UInt8.ofNat (statusCode.toInt &&& 0xFF)]
        else []) ++
      payload)

/-- Answer a read request. -/
def encodeReadResponse
    (request : DirectedFrame)
    (payload : Bytes)
    (statusCode : ResponseStatusCode := .success) : Except Exn Bytes :=
  encodeResponse request .readResponse payload statusCode

/-- Answer a write request. -/
def encodeWriteResponse
    (request : DirectedFrame)
    (payload : Bytes := [])
    (statusCode : ResponseStatusCode := .success) : Except Exn Bytes :=
  encodeResponse request .writeResponse payload statusCode

/-- Answer a remote procedure call. -/
def encodeRpcResponse
    (request : DirectedFrame)
    (payload : Bytes := [])
    (statusCode : ResponseStatusCode := .success) : Except Exn Bytes :=
  encodeResponse request .rpcResponse payload statusCode

/-- Answer a subscription. -/
def encodeSubscribeResponse
    (request : DirectedFrame)
    (payload : Bytes := [])
    (statusCode : ResponseStatusCode := .success) : Except Exn Bytes :=
  encodeResponse request .subscribeResponse payload statusCode

/-- Answer the end of a subscription. -/
def encodeUnsubscribeResponse
    (request : DirectedFrame)
    (payload : Bytes := [])
    (statusCode : ResponseStatusCode := .success) : Except Exn Bytes :=
  encodeResponse request .unsubscribeResponse payload statusCode

/-- A notification from an address. -/
def encodeNotify (source : Nat) (payload : Bytes) : Bytes :=
  encodeAddress source true ++ payload

/-! ## Arithmetic of the header -/

theorem decodeAddress_eq (high low : UInt8) :
    decodeAddress high.toNat low.toNat =
      high.toNat % 128 * 256 + low.toNat := by
  have masked : high.toNat &&& 0x7F = high.toNat % 128 :=
    Nat.and_two_pow_sub_one_eq_mod high.toNat 7
  rw [decodeAddress, masked]
  exact shiftLeft_or_eq_add (high.toNat % 128) 8 low.toNat_lt

theorem encodeAddress_eq (address : Nat) (setMsb : Bool) :
    encodeAddress address setMsb =
      [UInt8.ofNat ((if setMsb then 128 else 0) + address / 256 % 128),
        UInt8.ofNat (address % 256)] := by
  have high : (address >>> 8) &&& 0x7F = address / 256 % 128 :=
    shiftRight_and_mask address 8 7
  have low : address &&& 0xFF = address % 256 :=
    Nat.and_two_pow_sub_one_eq_mod address 8
  have marked : (address / 256 % 128) ||| 0x80 =
      128 + address / 256 % 128 := by
    rw [Nat.lor_comm]
    exact shiftLeft_or_eq_add 1 7 (Nat.mod_lt _ (by decide))
  cases setMsb <;> simp [encodeAddress, high, low, marked]

/-- The two bytes of an encoded address, as the decoder reads them. -/
theorem encodeAddress_fields
    {address : Nat}
    (inRange : address < 2 ^ 15)
    (setMsb : Bool) :
    ∃ high low : UInt8, encodeAddress address setMsb = [high, low] ∧
      decodeAddress high.toNat low.toNat = address ∧
      (high.toNat &&& 0x80 = 0 ↔ setMsb = false) := by
  refine ⟨_, _, encodeAddress_eq address setMsb, ?_, ?_⟩
  · rw [decodeAddress_eq, UInt8.toNat_ofNat', UInt8.toNat_ofNat']
    split <;> omega
  · rw [and_topBit_eq_zero_iff, UInt8.toNat_ofNat']
    cases setMsb <;> simp <;> omega

/-- The type and sequence byte, as the decoder reads it. -/
theorem typeAndSequence_fields
    (type : MessageType)
    {sequence : Nat}
    (inRange : sequence < 2 ^ 4) :
    ∃ byte : UInt8,
      UInt8.ofNat (((type.toInt &&& 0x0F) <<< 4) ||| (sequence &&& 0x0F)) =
        byte ∧
      MessageType.ofInt ((byte.toNat >>> 4) &&& 0x0F) = .ok type ∧
      byte.toNat &&& 0x0F = sequence := by
  have typeBound := type.toInt_lt_sixteen
  have typeMask : type.toInt &&& 0x0F = type.toInt := by
    rw [show (0x0F : Nat) = 2 ^ 4 - 1 by rfl, Nat.and_two_pow_sub_one_eq_mod]
    omega
  have sequenceMask : sequence &&& 0x0F = sequence := by
    rw [show (0x0F : Nat) = 2 ^ 4 - 1 by rfl, Nat.and_two_pow_sub_one_eq_mod]
    omega
  refine ⟨_, rfl, ?_, ?_⟩
  · rw [typeMask, sequenceMask, shiftLeft_or_eq_add type.toInt 4 inRange,
      UInt8.toNat_ofNat', show (0x0F : Nat) = 2 ^ 4 - 1 by rfl,
      shiftRight_and_mask]
    have type_eq : (type.toInt * 2 ^ 4 + sequence) % 2 ^ 8 / 2 ^ 4 % 2 ^ 4 =
        type.toInt := by
      omega
    rw [type_eq, MessageType.ofInt_toInt]
  · rw [typeMask, sequenceMask, shiftLeft_or_eq_add type.toInt 4 inRange,
      UInt8.toNat_ofNat', show (0x0F : Nat) = 2 ^ 4 - 1 by rfl,
      Nat.and_two_pow_sub_one_eq_mod]
    omega

/-! ## Round trips -/

theorem decodeMessageFrame_encodeResponse
    {request : DirectedFrame}
    (inRange : request.InRange)
    {responseType : MessageType}
    (response : isResponseType responseType)
    (payload : Bytes)
    (statusCode : ResponseStatusCode) :
    ∃ packet, encodeResponse request responseType payload statusCode =
        .ok packet ∧
      decodeMessageFrame packet =
        .ok (.directed
          { source := request.destination
            destination := request.source
            messageType := responseType
            sequence := request.sequence
            payload := payload
            statusCode := statusCode }) := by
  obtain ⟨sourceHigh, sourceLow, source_eq, sourceReads, sourceKind⟩ :=
    encodeAddress_fields inRange.destination_lt false
  obtain ⟨high, low, destination_eq, destinationReads, successBit⟩ :=
    encodeAddress_fields inRange.source_lt (decide (statusCode = .success))
  obtain ⟨typeByte, byte_eq, typeReads, sequenceReads⟩ :=
    typeAndSequence_fields responseType inRange.sequence_lt
  have directed : ¬sourceHigh.toNat &&& 0x80 ≠ 0 :=
    not_not_intro (sourceKind.mpr rfl)
  have encodes : encodeResponse request responseType payload statusCode =
      .ok (sourceHigh :: sourceLow :: high :: low :: typeByte ::
        ((if statusCode ≠ .success then
          [UInt8.ofNat (statusCode.toInt &&& 0xFF)] else []) ++ payload)) := by
    simp only [encodeResponse, if_neg (not_not_intro response), source_eq,
      destination_eq, byte_eq, List.cons_append, List.nil_append]
  refine ⟨_, encodes, ?_⟩
  by_cases success : statusCode = .success
  · have unmarked : ¬(isResponseType responseType ∧ high.toNat &&& 0x80 = 0) := by
      rw [successBit, success]
      simp
    simp only [decodeMessageFrame, if_neg directed, decodeDirectedFrame,
      typeReads, sequenceReads, sourceReads, destinationReads, bind,
      Except.bind, if_neg unmarked, success, ne_eq, not_true_eq_false,
      if_false, List.nil_append]
  · have marked : isResponseType responseType ∧ high.toNat &&& 0x80 = 0 :=
      ⟨response, successBit.mpr (by simp [success])⟩
    have statusByte :
        (UInt8.ofNat (statusCode.toInt &&& 0xFF)).toNat = statusCode.toInt := by
      have bound := statusCode.toInt_lt_256
      rw [show (0xFF : Nat) = 2 ^ 8 - 1 by rfl,
        Nat.and_two_pow_sub_one_eq_mod, UInt8.toNat_ofNat']
      omega
    simp only [decodeMessageFrame, if_neg directed, decodeDirectedFrame,
      typeReads, sequenceReads, sourceReads, destinationReads, bind,
      Except.bind, if_pos marked, ne_eq, success, not_false_eq_true, if_true,
      List.singleton_append, statusByte, ResponseStatusCode.fromByte_toInt]

theorem decodeMessageFrame_encodeNotify
    {source : Nat}
    (inRange : source < 2 ^ 15)
    (payload : Bytes) :
    decodeMessageFrame (encodeNotify source payload) =
      .ok (.notify { source := source, payload := payload }) := by
  obtain ⟨high, low, source_eq, reads, kind⟩ := encodeAddress_fields inRange true
  have notification : high.toNat &&& 0x80 ≠ 0 := by
    rw [ne_eq, kind]
    simp
  rw [encodeNotify, source_eq]
  simp only [List.cons_append, List.nil_append, decodeMessageFrame,
    if_pos notification, reads]

/-- What the fields of a decoded directed message are read from. -/
theorem decodeDirectedFrame_fields
    {raw : Bytes} {frame : DirectedFrame}
    (decodes : decodeDirectedFrame raw = .ok frame) :
    ∃ sourceHigh sourceLow destinationHigh destinationLow typeAndSequence,
      [sourceHigh, sourceLow, destinationHigh, destinationLow,
        typeAndSequence] <+: raw ∧
      frame.source = decodeAddress sourceHigh.toNat sourceLow.toNat ∧
      frame.destination =
        decodeAddress destinationHigh.toNat destinationLow.toNat ∧
      frame.sequence = typeAndSequence.toNat &&& 0x0F := by
  unfold decodeDirectedFrame at decodes
  split at decodes
  case h_2 => cases decodes
  case h_1 sourceHigh sourceLow destinationHigh destinationLow
      typeAndSequence rest =>
    refine ⟨sourceHigh, sourceLow, destinationHigh, destinationLow,
      typeAndSequence, List.prefix_append _ rest, ?_⟩
    simp only [bind, Except.bind] at decodes
    split at decodes
    case h_1 => cases decodes
    case h_2 messageType _ =>
      split at decodes
      case isFalse =>
        cases decodes
        exact ⟨rfl, rfl, rfl⟩
      case isTrue =>
        cases rest with
        | nil => cases decodes
        | cons status payload =>
            cases decodes
            exact ⟨rfl, rfl, rfl⟩

/-- The fields of a decoded message are as wide as the wire format. -/
theorem decodeDirectedFrame_inRange
    {raw : Bytes} {frame : DirectedFrame}
    (decodes : decodeDirectedFrame raw = .ok frame) :
    frame.InRange := by
  obtain ⟨sourceHigh, sourceLow, destinationHigh, destinationLow,
    typeAndSequence, _, source_eq, destination_eq, sequence_eq⟩ :=
    decodeDirectedFrame_fields decodes
  have address_lt (high low : UInt8) :
      decodeAddress high.toNat low.toNat < 2 ^ 15 := by
    have lowBound := low.toNat_lt
    rw [decodeAddress_eq]
    omega
  constructor
  · rw [source_eq]
    exact address_lt sourceHigh sourceLow
  · rw [destination_eq]
    exact address_lt destinationHigh destinationLow
  · rw [sequence_eq]
    exact Nat.and_lt_two_pow _ (by decide)

/-- A directed message comes out of `decodeDirectedFrame`. -/
theorem decodeDirectedFrame_of_decodeMessageFrame
    {raw : Bytes} {frame : DirectedFrame}
    (decodes : decodeMessageFrame raw = .ok (.directed frame)) :
    decodeDirectedFrame raw = .ok frame := by
  unfold decodeMessageFrame at decodes
  split at decodes
  case h_2 => cases decodes
  case h_1 =>
    split at decodes
    case isTrue => cases decodes
    case isFalse =>
      cases inner : decodeDirectedFrame _ with
      | error exc =>
          rw [inner] at decodes
          cases decodes
      | ok directed =>
          rw [inner] at decodes
          cases decodes
          rfl

/-- Decoding undoes encoding for every message this side emits: a response is
read with the addresses of its request swapped and its type, sequence, payload
and status kept, and a notification with its source and payload, so neither
kind is ever read as the other. -/
theorem decodeMessageFrame_undoes_encoding :
    (∀ (request : DirectedFrame) (responseType : MessageType)
      (payload : Bytes) (statusCode : ResponseStatusCode),
      request.source < 2 ^ 15 → request.destination < 2 ^ 15 →
        request.sequence < 2 ^ 4 → isResponseType responseType = true →
          ∃ packet,
            encodeResponse request responseType payload statusCode =
              .ok packet ∧
            decodeMessageFrame packet =
              .ok (.directed
                { source := request.destination
                  destination := request.source
                  messageType := responseType
                  sequence := request.sequence
                  payload := payload
                  statusCode := statusCode })) ∧
    (∀ (source : Nat) (payload : Bytes), source < 2 ^ 15 →
      decodeMessageFrame (encodeNotify source payload) =
        .ok (.notify { source := source, payload := payload })) :=
  ⟨fun _ _ payload statusCode sourceFits destinationFits sequenceFits response =>
    decodeMessageFrame_encodeResponse
      ⟨sourceFits, destinationFits, sequenceFits⟩ response payload statusCode,
    fun _ payload sourceFits =>
      decodeMessageFrame_encodeNotify sourceFits payload⟩

/-- A refused read whose payload looks like a header of its own. -/
theorem decodeMessageFrame_undoes_encoding_refused_read :
    (∃ packet,
      encodeResponse
          { source := 0x2150, destination := 0x40FF, messageType := .read
            sequence := 1, payload := [] }
          .readResponse [0x80, 0x00, 0xC0] .unsupported = .ok packet ∧
        decodeMessageFrame packet =
          .ok (.directed
            { source := 0x40FF, destination := 0x2150
              messageType := .readResponse, sequence := 1
              payload := [0x80, 0x00, 0xC0], statusCode := .unsupported })) ∧
      decodeMessageFrame (encodeNotify 0x40A3 [0x04]) =
        .ok (.notify { source := 0x40A3, payload := [0x04] }) :=
  ⟨decodeMessageFrame_undoes_encoding.1 _ _ _ _ (by decide) (by decide)
      (by decide) rfl,
    decodeMessageFrame_undoes_encoding.2 0x40A3 [0x04] (by decide)⟩

end MessageBus
end BoschBle
