import BoschBle.MessageBus.Codec
import Mathlib.Tactic.IntervalCases

/-!
# The grammar of MessageBus messages

The decoder accepts a byte string exactly when it has one of two forms, and it
forgets two things only: the top bit of the second address, and how a response
codes its status.
-/

namespace BoschBle
namespace MessageBus

open Foundation

/-! ## The decoder with checked indexing -/

/-- `decode_directed_frame` with an index operation for every byte it reads. -/
def decodeDirectedFrameByIndex (raw : Bytes) : Except Exn DirectedFrame :=
  if raw.length < 5 then
    .error ⟨.valueError, "Directed frame is shorter than 5 bytes."⟩
  else do
    let source := decodeAddress (← raw.item 0).toNat (← raw.item 1).toNat
    let destination := decodeAddress (← raw.item 2).toNat (← raw.item 3).toNat
    let typeAndSequence ← raw.item 4
    let messageType ←
      MessageType.ofInt ((typeAndSequence.toNat >>> 4) &&& 0x0F)
    let sequence := typeAndSequence.toNat &&& 0x0F
    if isResponseType messageType ∧ (← raw.item 2).toNat &&& 0x80 = 0 then
      if raw.length < 6 then
        .error ⟨.valueError, "Response frame is missing a status byte."⟩
      else
        let status ← raw.item 5
        .ok { source, destination, messageType, sequence
              payload := raw.drop 6
              statusCode := .fromByte status.toNat }
    else
      .ok { source, destination, messageType, sequence
            payload := raw.drop 5 }

/-- `decode_message_frame` with an index operation for every byte it reads. -/
def decodeMessageFrameByIndex (raw : Bytes) : Except Exn MessageFrame :=
  if raw.length < 2 then
    .error ⟨.valueError, "Message frame is shorter than 2 bytes."⟩
  else do
    if (← raw.item 0).toNat &&& 0x80 ≠ 0 then
      let source := decodeAddress (← raw.item 0).toNat (← raw.item 1).toNat
      .ok (.notify { source, payload := raw.drop 2 })
    else
      let frame ← decodeDirectedFrameByIndex raw
      .ok (.directed frame)

theorem decodeDirectedFrameByIndex_eq (raw : Bytes) :
    decodeDirectedFrameByIndex raw = decodeDirectedFrame raw := by
  match raw with
  | [] | [_] | [_, _] | [_, _, _] | [_, _, _, _] => rfl
  | sourceHigh :: sourceLow :: destinationHigh :: destinationLow ::
      typeAndSequence :: rest =>
      have long : ¬rest.length + 1 + 1 + 1 + 1 + 1 < 5 := by omega
      cases rest with
      | nil => rfl
      | cons status payload =>
          have status_present : ¬payload.length + 1 + 1 + 1 + 1 + 1 + 1 < 6 := by
            omega
          simp only [decodeDirectedFrameByIndex, Bytes.item, List.length_cons,
            if_neg status_present]
          rfl

/-- The length checks guard every index operation of the decoder. -/
theorem decodeMessageFrameByIndex_eq (raw : Bytes) :
    decodeMessageFrameByIndex raw = decodeMessageFrame raw := by
  match raw with
  | [] | [_] => rfl
  | high :: low :: payload =>
      have long : ¬payload.length + 1 + 1 < 2 := by omega
      simp only [decodeMessageFrameByIndex, decodeDirectedFrameByIndex_eq,
        Bytes.item, List.length_cons, if_neg long]
      rfl

/-! ## Accepted byte strings -/

/-- The type nibbles of responses. -/
def IsResponseByte (typeAndSequence : UInt8) : Prop :=
  typeAndSequence.toNat / 16 ∈ [0x1, 0x3, 0x5, 0x7, 0x9]

/-- Two bytes at least, the first with its top bit set. -/
def IsNotifyMessage (raw : Bytes) : Prop :=
  ∃ _ : 2 ≤ raw.length, 0x80 ≤ raw[0].toNat

/-- Five bytes at least, a first byte without its top bit, a known type, and a
status byte behind the header of a response that is not marked successful. -/
def IsDirectedMessage (raw : Bytes) : Prop :=
  ∃ _ : 5 ≤ raw.length,
    raw[0].toNat < 0x80 ∧ raw[4].toNat / 16 ≤ 0xA ∧
      (IsResponseByte raw[4] -> raw[2].toNat < 0x80 -> 6 ≤ raw.length)

/-- What the decoder reads a byte string as. -/
inductive Reads : Bytes -> MessageFrame -> Prop
  | notify
      {high low : UInt8} {payload : Bytes}
      (marked : 0x80 ≤ high.toNat) :
      Reads (high :: low :: payload)
        (.notify { source := decodeAddress high.toNat low.toNat, payload })
  | plain
      {sourceHigh sourceLow destinationHigh destinationLow : UInt8}
      {typeAndSequence : UInt8} {payload : Bytes} {messageType : MessageType}
      (unmarked : sourceHigh.toNat < 0x80)
      (known : typeAndSequence.toNat / 16 = messageType.toInt)
      (noStatus : isResponseType messageType -> 0x80 ≤ destinationHigh.toNat) :
      Reads
        (sourceHigh :: sourceLow :: destinationHigh :: destinationLow ::
          typeAndSequence :: payload)
        (.directed
          { source := decodeAddress sourceHigh.toNat sourceLow.toNat
            destination :=
              decodeAddress destinationHigh.toNat destinationLow.toNat
            messageType
            sequence := typeAndSequence.toNat % 16
            payload })
  | withStatus
      {sourceHigh sourceLow destinationHigh destinationLow : UInt8}
      {typeAndSequence status : UInt8} {payload : Bytes}
      {messageType : MessageType}
      (unmarked : sourceHigh.toNat < 0x80)
      (known : typeAndSequence.toNat / 16 = messageType.toInt)
      (response : isResponseType messageType)
      (coded : destinationHigh.toNat < 0x80) :
      Reads
        (sourceHigh :: sourceLow :: destinationHigh :: destinationLow ::
          typeAndSequence :: status :: payload)
        (.directed
          { source := decodeAddress sourceHigh.toNat sourceLow.toNat
            destination :=
              decodeAddress destinationHigh.toNat destinationLow.toNat
            messageType
            sequence := typeAndSequence.toNat % 16
            payload
            statusCode := .fromByte status.toNat })

theorem MessageType.ofInt_eq_ok_iff
    {value : Nat} {messageType : MessageType} :
    MessageType.ofInt value = .ok messageType ↔ value = messageType.toInt := by
  constructor
  · intro known
    unfold MessageType.ofInt at known
    split at known <;> cases known <;> rfl
  · rintro rfl
    exact MessageType.ofInt_toInt messageType

theorem typeNibble_eq (byte : UInt8) :
    (byte.toNat >>> 4) &&& 0x0F = byte.toNat / 16 := by
  have bound := byte.toNat_lt
  have masked : (byte.toNat >>> 4) &&& 0x0F = byte.toNat / 2 ^ 4 % 2 ^ 4 :=
    shiftRight_and_mask byte.toNat 4 4
  omega

theorem sequenceNibble_eq (byte : UInt8) :
    byte.toNat &&& 0x0F = byte.toNat % 16 :=
  Nat.and_two_pow_sub_one_eq_mod byte.toNat 4

theorem decodeMessageFrame_unmarked
    {high : UInt8} (low : UInt8) (payload : Bytes)
    (unmarked : high.toNat < 0x80) :
    decodeMessageFrame (high :: low :: payload) = (do
      let frame ← decodeDirectedFrame (high :: low :: payload)
      .ok (.directed frame)) := by
  apply if_neg
  rw [ne_eq, not_not, and_topBit_eq_zero_iff]
  exact unmarked

theorem decodeMessageFrame_marked
    {high : UInt8} (low : UInt8) (payload : Bytes)
    (marked : 0x80 ≤ high.toNat) :
    decodeMessageFrame (high :: low :: payload) =
      .ok (.notify
        { source := decodeAddress high.toNat low.toNat, payload }) := by
  apply if_pos
  rw [ne_eq, and_topBit_eq_zero_iff, Nat.not_lt]
  exact marked

/-- A directed message behind its kind bit. -/
theorem reads_of_decodeDirectedFrame
    {high low : UInt8} {tail : Bytes} {frame : DirectedFrame}
    (unmarked : high.toNat < 0x80)
    (decodes : decodeDirectedFrame (high :: low :: tail) = .ok frame) :
    Reads (high :: low :: tail) (.directed frame) := by
  match tail with
  | [] | [_] | [_, _] => cases decodes
  | destinationHigh :: destinationLow :: typeAndSequence :: rest =>
      simp only [decodeDirectedFrame, typeNibble_eq, sequenceNibble_eq,
        and_topBit_eq_zero_iff] at decodes
      cases known : MessageType.ofInt (typeAndSequence.toNat / 16) with
      | error exc => rw [known] at decodes; cases decodes
      | ok messageType =>
          rw [known] at decodes
          rw [MessageType.ofInt_eq_ok_iff] at known
          simp only [bind, Except.bind] at decodes
          split at decodes
          · rename_i coded
            cases rest with
            | nil => cases decodes
            | cons status payload =>
                cases decodes
                exact Reads.withStatus unmarked known coded.1 coded.2
          · rename_i notCoded
            cases decodes
            apply Reads.plain unmarked known
            intro response
            exact Nat.not_lt.mp fun low => notCoded ⟨response, low⟩

/-- The decoder returns a message exactly when the byte string reads as it. -/
theorem decodeMessageFrame_eq_ok_iff
    {raw : Bytes} {frame : MessageFrame} :
    decodeMessageFrame raw = .ok frame ↔ Reads raw frame := by
  constructor
  · intro decodes
    match raw with
    | [] | [_] => cases decodes
    | high :: low :: tail =>
        by_cases marked : 0x80 ≤ high.toNat
        · rw [decodeMessageFrame_marked low tail marked] at decodes
          cases decodes
          exact Reads.notify marked
        · have unmarked := Nat.not_le.mp marked
          rw [decodeMessageFrame_unmarked low tail unmarked] at decodes
          cases inner : decodeDirectedFrame (high :: low :: tail) with
          | error exc => rw [inner] at decodes; cases decodes
          | ok directed =>
              rw [inner] at decodes
              cases decodes
              exact reads_of_decodeDirectedFrame unmarked inner
  · intro reads
    cases reads with
    | notify marked => exact decodeMessageFrame_marked _ _ marked
    | @plain _ _ destinationHigh _ _ _ messageType unmarked known noStatus =>
        have notCoded : ¬(isResponseType messageType = true ∧
            destinationHigh.toNat < 0x80) := by
          intro coded
          exact Nat.not_le.mpr coded.2 (noStatus coded.1)
        rw [decodeMessageFrame_unmarked _ _ unmarked]
        simp only [decodeDirectedFrame, typeNibble_eq, sequenceNibble_eq,
          and_topBit_eq_zero_iff, MessageType.ofInt_eq_ok_iff.mpr known, bind,
          Except.bind, if_neg notCoded]
    | withStatus unmarked known response coded =>
        rw [decodeMessageFrame_unmarked _ _ unmarked]
        simp only [decodeDirectedFrame, typeNibble_eq, sequenceNibble_eq,
          and_topBit_eq_zero_iff, MessageType.ofInt_eq_ok_iff.mpr known, bind,
          Except.bind, response, coded, and_self, if_true]

/-! ## The accepted language -/

theorem isResponseByte_iff
    {typeAndSequence : UInt8} {messageType : MessageType}
    (known : typeAndSequence.toNat / 16 = messageType.toInt) :
    IsResponseByte typeAndSequence ↔ isResponseType messageType = true := by
  rw [IsResponseByte, known]
  cases messageType <;> decide

theorem exists_messageType
    {value : Nat}
    (small : value ≤ 0xA) :
    ∃ messageType : MessageType, value = messageType.toInt := by
  have known : ∃ messageType, MessageType.ofInt value = .ok messageType := by
    interval_cases value <;> exact ⟨_, rfl⟩
  obtain ⟨messageType, known⟩ := known
  exact ⟨messageType, MessageType.ofInt_eq_ok_iff.mp known⟩

theorem exists_reads_notify_iff {raw : Bytes} :
    (∃ frame, Reads raw (.notify frame)) ↔ IsNotifyMessage raw := by
  constructor
  · rintro ⟨frame, reads⟩
    cases reads with
    | notify marked => exact ⟨by simp, marked⟩
  · rintro ⟨long, marked⟩
    match raw with
    | [] | [_] => simp at long
    | high :: low :: payload => exact ⟨_, Reads.notify marked⟩

theorem exists_reads_directed_iff {raw : Bytes} :
    (∃ frame, Reads raw (.directed frame)) ↔ IsDirectedMessage raw := by
  constructor
  · rintro ⟨frame, reads⟩
    cases reads with
    | @plain _ _ _ _ typeAndSequence _ messageType unmarked known noStatus =>
        refine ⟨by simp, unmarked, ?_, ?_⟩
        · change typeAndSequence.toNat / 16 ≤ 0xA
          rw [known]
          cases messageType <;> decide
        · intro responseByte coded
          have response := (isResponseByte_iff known).mp responseByte
          exact absurd (noStatus response) (Nat.not_le.mpr coded)
    | @withStatus _ _ _ _ typeAndSequence _ _ messageType unmarked known =>
        refine ⟨by simp, unmarked, ?_, ?_⟩
        · change typeAndSequence.toNat / 16 ≤ 0xA
          rw [known]
          cases messageType <;> decide
        · intro _ _
          simp
  · rintro ⟨long, unmarked, small, status⟩
    match raw with
    | [] | [_] | [_, _] | [_, _, _] | [_, _, _, _] => simp at long
    | sourceHigh :: sourceLow :: destinationHigh :: destinationLow ::
        typeAndSequence :: rest =>
        obtain ⟨messageType, known⟩ := exists_messageType small
        by_cases response : isResponseType messageType
        · have responseByte := (isResponseByte_iff known).mpr response
          by_cases coded : destinationHigh.toNat < 0x80
          · have present := status responseByte coded
            cases rest with
            | nil => simp at present
            | cons status payload =>
                exact ⟨_, Reads.withStatus unmarked known response coded⟩
          · exact ⟨_, Reads.plain unmarked known fun _ => Nat.not_lt.mp coded⟩
        · exact ⟨_, Reads.plain unmarked known fun yes => absurd yes response⟩

/-- A byte string outside the language raises a value error. -/
theorem decodeMessageFrame_error_type
    {raw : Bytes} {exc : Exn}
    (raised : decodeMessageFrame raw = .error exc) :
    exc.type = .valueError := by
  have typeError {value : Nat} {reason : Exn}
      (failed : MessageType.ofInt value = .error reason) :
      reason.type = .valueError := by
    unfold MessageType.ofInt at failed
    split at failed <;> cases failed
    rfl
  match raw with
  | [] | [_] =>
      cases raised
      rfl
  | high :: low :: tail =>
      by_cases marked : 0x80 ≤ high.toNat
      · rw [decodeMessageFrame_marked low tail marked] at raised
        cases raised
      · rw [decodeMessageFrame_unmarked low tail (Nat.not_le.mp marked)] at raised
        match tail with
        | [] | [_] | [_, _] =>
            cases raised
            rfl
        | destinationHigh :: destinationLow :: typeAndSequence :: rest =>
            simp only [decodeDirectedFrame] at raised
            cases known : MessageType.ofInt
                ((typeAndSequence.toNat >>> 4) &&& 0x0F) with
            | error reason =>
                rw [known] at raised
                cases raised
                exact typeError known
            | ok messageType =>
                rw [known] at raised
                simp only [bind, Except.bind] at raised
                split at raised
                · rename_i inner
                  split at inner
                  · cases rest with
                    | nil =>
                        cases inner
                        cases raised
                        rfl
                    | cons status payload => cases inner
                  · cases inner
                · cases raised

/-! ## What decoding forgets -/

/-- Two byte strings that decode to one message: they are equal, or they are
messages of another type than a response and differ in the top bit of the third
byte, or they are responses that code one status in two ways. -/
inductive SameReading : Bytes -> Bytes -> Prop
  | equal (raw : Bytes) : SameReading raw raw
  | destinationBit
      {sourceHigh sourceLow destinationHigh otherHigh destinationLow : UInt8}
      {typeAndSequence : UInt8} {payload : Bytes}
      (unmarked : sourceHigh.toNat < 0x80)
      (noResponse : ¬IsResponseByte typeAndSequence)
      (sameAddress : destinationHigh.toNat % 0x80 = otherHigh.toNat % 0x80) :
      SameReading
        (sourceHigh :: sourceLow :: destinationHigh :: destinationLow ::
          typeAndSequence :: payload)
        (sourceHigh :: sourceLow :: otherHigh :: destinationLow ::
          typeAndSequence :: payload)
  | successBit
      {sourceHigh sourceLow markedHigh codedHigh destinationLow : UInt8}
      {typeAndSequence : UInt8} {payload : Bytes}
      (unmarked : sourceHigh.toNat < 0x80)
      (response : IsResponseByte typeAndSequence)
      (sameAddress : markedHigh.toNat = codedHigh.toNat + 0x80) :
      SameReading
        (sourceHigh :: sourceLow :: markedHigh :: destinationLow ::
          typeAndSequence :: payload)
        (sourceHigh :: sourceLow :: codedHigh :: destinationLow ::
          typeAndSequence :: 0x00 :: payload)
  | successByte
      {sourceHigh sourceLow markedHigh codedHigh destinationLow : UInt8}
      {typeAndSequence : UInt8} {payload : Bytes}
      (unmarked : sourceHigh.toNat < 0x80)
      (response : IsResponseByte typeAndSequence)
      (sameAddress : markedHigh.toNat = codedHigh.toNat + 0x80) :
      SameReading
        (sourceHigh :: sourceLow :: codedHigh :: destinationLow ::
          typeAndSequence :: 0x00 :: payload)
        (sourceHigh :: sourceLow :: markedHigh :: destinationLow ::
          typeAndSequence :: payload)
  | unknownStatus
      {sourceHigh sourceLow destinationHigh destinationLow : UInt8}
      {typeAndSequence status otherStatus : UInt8} {payload : Bytes}
      (unmarked : sourceHigh.toNat < 0x80)
      (response : IsResponseByte typeAndSequence)
      (coded : destinationHigh.toNat < 0x80)
      (unknown : ResponseStatusCode.fromByte status.toNat = .unknownError)
      (otherUnknown :
        ResponseStatusCode.fromByte otherStatus.toNat = .unknownError) :
      SameReading
        (sourceHigh :: sourceLow :: destinationHigh :: destinationLow ::
          typeAndSequence :: status :: payload)
        (sourceHigh :: sourceLow :: destinationHigh :: destinationLow ::
          typeAndSequence :: otherStatus :: payload)

/-- Two bytes of an address are determined up to the top bit. -/
theorem decodeAddress_eq_iff {high low otherHigh otherLow : UInt8} :
    decodeAddress high.toNat low.toNat =
        decodeAddress otherHigh.toNat otherLow.toNat ↔
      high.toNat % 0x80 = otherHigh.toNat % 0x80 ∧ low = otherLow := by
  have bound := low.toNat_lt
  have otherBound := otherLow.toNat_lt
  rw [decodeAddress_eq, decodeAddress_eq, ← UInt8.toNat_inj]
  omega

/-- Two address bytes whose top bits agree are determined by the address. -/
theorem address_injective
    {high low otherHigh otherLow : UInt8}
    (address_eq : decodeAddress high.toNat low.toNat =
      decodeAddress otherHigh.toNat otherLow.toNat)
    (sameBit : high.toNat < 0x80 ↔ otherHigh.toNat < 0x80) :
    high = otherHigh ∧ low = otherLow := by
  obtain ⟨high_eq, low_eq⟩ := decodeAddress_eq_iff.mp address_eq
  have bound := high.toNat_lt
  have otherBound := otherHigh.toNat_lt
  refine ⟨?_, low_eq⟩
  rw [← UInt8.toNat_inj]
  omega

/-- The marked and the unmarked byte of one address. -/
theorem marked_eq_add
    {marked unmarked : UInt8}
    (isMarked : 0x80 ≤ marked.toNat)
    (isUnmarked : unmarked.toNat < 0x80)
    (sameAddress : marked.toNat % 0x80 = unmarked.toNat % 0x80) :
    marked.toNat = unmarked.toNat + 0x80 := by
  have bound := marked.toNat_lt
  omega

/-- The type and sequence byte is determined by what is read from it. -/
theorem typeAndSequence_injective
    {byte other : UInt8} {messageType : MessageType}
    (known : byte.toNat / 16 = messageType.toInt)
    (otherKnown : other.toNat / 16 = messageType.toInt)
    (sequence_eq : byte.toNat % 16 = other.toNat % 16) :
    byte = other := by
  rw [← UInt8.toNat_inj]
  omega

/-- A status byte that is not understood as unknown is the code of its status. -/
theorem eq_toInt_fromByte
    {value : Nat}
    (understood : ResponseStatusCode.fromByte value ≠ .unknownError) :
    value = (ResponseStatusCode.fromByte value).toInt := by
  unfold ResponseStatusCode.fromByte at understood ⊢
  split at understood
  case h_7 => exact absurd rfl understood
  all_goals rfl

/-- Equal statuses are coded by equal bytes or are both unknown. -/
theorem status_eq_or_unknown
    {status otherStatus : UInt8}
    (equal : ResponseStatusCode.fromByte status.toNat =
      ResponseStatusCode.fromByte otherStatus.toNat) :
    status = otherStatus ∨
      ResponseStatusCode.fromByte status.toNat = .unknownError ∧
        ResponseStatusCode.fromByte otherStatus.toNat = .unknownError := by
  by_cases unknown : ResponseStatusCode.fromByte status.toNat = .unknownError
  · exact Or.inr ⟨unknown, equal ▸ unknown⟩
  · left
    have status_eq := eq_toInt_fromByte unknown
    rw [equal] at unknown status_eq
    rw [← UInt8.toNat_inj, status_eq, ← eq_toInt_fromByte unknown]

/-- The byte zero is the only code of success. -/
theorem eq_zero_of_success
    {status : UInt8}
    (success : ResponseStatusCode.fromByte status.toNat = .success) :
    status = 0x00 := by
  have understood : ResponseStatusCode.fromByte status.toNat ≠ .unknownError := by
    rw [success]
    decide
  rw [← UInt8.toNat_inj, eq_toInt_fromByte understood, success]
  rfl

/-- Byte strings that read as one message differ in nothing else. -/
theorem sameReading_of_reads
    {left right : Bytes} {frame other : MessageFrame}
    (leftReads : Reads left frame)
    (rightReads : Reads right other)
    (same : frame = other) :
    SameReading left right := by
  cases leftReads with
  | notify marked =>
      cases rightReads with
      | notify otherMarked =>
          simp only [MessageFrame.notify.injEq, NotifyFrame.mk.injEq] at same
          obtain ⟨source_eq, rfl, _⟩ := same
          obtain ⟨rfl, rfl⟩ := address_injective source_eq (by omega)
          exact SameReading.equal _
      | plain => cases same
      | withStatus => cases same
  | @plain _ _ _ _ _ _ messageType unmarked known noStatus =>
      cases rightReads with
      | notify => cases same
      | plain otherUnmarked otherKnown otherNoStatus =>
          simp only [MessageFrame.directed.injEq, DirectedFrame.mk.injEq] at same
          obtain ⟨source_eq, destination_eq, rfl, sequence_eq, rfl, _⟩ := same
          obtain ⟨rfl, rfl⟩ := address_injective source_eq (by omega)
          obtain rfl := typeAndSequence_injective known otherKnown sequence_eq
          by_cases response : isResponseType messageType
          · have marked := noStatus response
            have otherMarked := otherNoStatus response
            obtain ⟨rfl, rfl⟩ := address_injective destination_eq (by omega)
            exact SameReading.equal _
          · obtain ⟨high_eq, rfl⟩ := decodeAddress_eq_iff.mp destination_eq
            refine SameReading.destinationBit unmarked ?_ high_eq
            intro responseByte
            exact response ((isResponseByte_iff known).mp responseByte)
      | withStatus otherUnmarked otherKnown response coded =>
          simp only [MessageFrame.directed.injEq, DirectedFrame.mk.injEq] at same
          obtain ⟨source_eq, destination_eq, rfl, sequence_eq, rfl, status_eq⟩ :=
            same
          obtain ⟨rfl, rfl⟩ := address_injective source_eq (by omega)
          obtain rfl := typeAndSequence_injective known otherKnown sequence_eq
          obtain ⟨high_eq, rfl⟩ := decodeAddress_eq_iff.mp destination_eq
          obtain rfl := eq_zero_of_success status_eq.symm
          exact SameReading.successBit unmarked
            ((isResponseByte_iff known).mpr response)
            (marked_eq_add (noStatus response) coded high_eq)
  | withStatus unmarked known response coded =>
      cases rightReads with
      | notify => cases same
      | plain otherUnmarked otherKnown noStatus =>
          simp only [MessageFrame.directed.injEq, DirectedFrame.mk.injEq] at same
          obtain ⟨source_eq, destination_eq, rfl, sequence_eq, rfl, status_eq⟩ :=
            same
          obtain ⟨rfl, rfl⟩ := address_injective source_eq (by omega)
          obtain rfl := typeAndSequence_injective known otherKnown sequence_eq
          obtain ⟨high_eq, rfl⟩ := decodeAddress_eq_iff.mp destination_eq
          obtain rfl := eq_zero_of_success status_eq
          exact SameReading.successByte unmarked
            ((isResponseByte_iff known).mpr response)
            (marked_eq_add (noStatus response) coded high_eq.symm)
      | withStatus otherUnmarked otherKnown otherResponse otherCoded =>
          simp only [MessageFrame.directed.injEq, DirectedFrame.mk.injEq] at same
          obtain ⟨source_eq, destination_eq, rfl, sequence_eq, rfl, status_eq⟩ :=
            same
          obtain ⟨rfl, rfl⟩ := address_injective source_eq (by omega)
          obtain rfl := typeAndSequence_injective known otherKnown sequence_eq
          obtain ⟨rfl, rfl⟩ := address_injective destination_eq (by omega)
          obtain rfl | ⟨unknown, otherUnknown⟩ := status_eq_or_unknown status_eq
          · exact SameReading.equal _
          · exact SameReading.unknownStatus unmarked
              ((isResponseByte_iff known).mpr response) coded unknown otherUnknown

/-- Byte strings that differ in nothing else decode alike. -/
theorem reads_of_sameReading
    {left right : Bytes} {frame : MessageFrame}
    (same : SameReading left right)
    (reads : Reads left frame) :
    Reads right frame := by
  cases same with
  | equal => exact reads
  | destinationBit unmarked noResponse sameAddress =>
      cases reads with
      | notify marked => exact absurd marked (Nat.not_le.mpr unmarked)
      | plain _ known noStatus =>
          rw [decodeAddress_eq_iff.mpr ⟨sameAddress, rfl⟩]
          apply Reads.plain unmarked known
          intro response
          exact absurd ((isResponseByte_iff known).mpr response) noResponse
      | withStatus _ known response _ =>
          exact absurd ((isResponseByte_iff known).mpr response) noResponse
  | @successBit _ _ markedHigh codedHigh _ _ _ unmarked responseByte sameAddress =>
      have bound := markedHigh.toNat_lt
      have sameBits : markedHigh.toNat % 0x80 = codedHigh.toNat % 0x80 := by omega
      cases reads with
      | notify marked => exact absurd marked (Nat.not_le.mpr unmarked)
      | plain _ known _ =>
          rw [decodeAddress_eq_iff.mpr ⟨sameBits, rfl⟩]
          exact Reads.withStatus unmarked known
            ((isResponseByte_iff known).mp responseByte) (by omega)
      | withStatus _ _ _ coded => omega
  | @successByte _ _ markedHigh codedHigh _ _ _ unmarked responseByte sameAddress =>
      have bound := markedHigh.toNat_lt
      have sameBits : markedHigh.toNat % 0x80 = codedHigh.toNat % 0x80 := by omega
      cases reads with
      | notify marked => exact absurd marked (Nat.not_le.mpr unmarked)
      | plain _ known noStatus =>
          have marked := noStatus ((isResponseByte_iff known).mp responseByte)
          omega
      | withStatus _ known _ _ =>
          rw [decodeAddress_eq_iff.mpr ⟨sameBits.symm, rfl⟩]
          apply Reads.plain unmarked known
          intro _
          omega
  | unknownStatus unmarked responseByte coded unknown otherUnknown =>
      cases reads with
      | notify marked => exact absurd marked (Nat.not_le.mpr unmarked)
      | plain _ known noStatus =>
          have marked := noStatus ((isResponseByte_iff known).mp responseByte)
          exact absurd marked (Nat.not_le.mpr coded)
      | withStatus _ known response _ =>
          rw [unknown, ← otherUnknown]
          exact Reads.withStatus unmarked known response coded

/-- The decoder returns a notification, a directed message or a value error
exactly on the grammar, its length checks guard every byte it reads, and two
accepted byte strings decode to one message exactly when they differ in the
ignored bit or in the coding of one status. -/
theorem decodeMessageFrame_grammar :
    (∀ raw : Bytes,
      decodeMessageFrameByIndex raw = decodeMessageFrame raw ∧
      ((∃ frame, decodeMessageFrame raw = .ok (.notify frame)) ↔
        IsNotifyMessage raw) ∧
      ((∃ frame, decodeMessageFrame raw = .ok (.directed frame)) ↔
        IsDirectedMessage raw) ∧
      ((∃ exc, decodeMessageFrame raw = .error exc ∧ exc.type = .valueError) ↔
        ¬IsNotifyMessage raw ∧ ¬IsDirectedMessage raw)) ∧
    (∀ (left right : Bytes) (frame : MessageFrame),
      decodeMessageFrame left = .ok frame ->
        (decodeMessageFrame right = .ok frame ↔ SameReading left right)) := by
  have notify (raw : Bytes) :
      (∃ frame, decodeMessageFrame raw = .ok (.notify frame)) ↔
        IsNotifyMessage raw := by
    simp only [decodeMessageFrame_eq_ok_iff]
    exact exists_reads_notify_iff
  have directed (raw : Bytes) :
      (∃ frame, decodeMessageFrame raw = .ok (.directed frame)) ↔
        IsDirectedMessage raw := by
    simp only [decodeMessageFrame_eq_ok_iff]
    exact exists_reads_directed_iff
  constructor
  · intro raw
    refine ⟨decodeMessageFrameByIndex_eq raw, notify raw, directed raw, ?_⟩
    rw [← notify raw, ← directed raw]
    cases decodes : decodeMessageFrame raw with
    | error exc => simp [decodeMessageFrame_error_type decodes]
    | ok frame => cases frame <;> simp
  · intro left right frame leftDecodes
    rw [decodeMessageFrame_eq_ok_iff] at leftDecodes ⊢
    constructor
    · intro rightReads
      exact sameReading_of_reads leftDecodes rightReads rfl
    · intro same
      exact reads_of_sameReading same leftDecodes

/-- A successful read response in its two codings. -/
theorem decodeMessageFrame_grammar_success :
    decodeMessageFrame [0x00, 0x88, 0xA1, 0x50, 0x11, 0x08] =
        .ok (.directed
          { source := 0x0088, destination := 0x2150
            messageType := .readResponse, sequence := 1, payload := [0x08] }) ∧
      SameReading [0x00, 0x88, 0xA1, 0x50, 0x11, 0x08]
        [0x00, 0x88, 0x21, 0x50, 0x11, 0x00, 0x08] :=
  ⟨rfl, (decodeMessageFrame_grammar.2 _ _ _ rfl).mp rfl⟩

end MessageBus
end BoschBle
