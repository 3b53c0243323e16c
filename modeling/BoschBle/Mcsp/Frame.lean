import BoschBle.Foundation.Bytes
import BoschBle.Foundation.RecordStream
import Mathlib.Tactic.IntervalCases

/-!
# MCSP frames

A frame is a two-byte header and a payload.  The first header byte holds the
channel in its top three bits, the end-of-channel flag in bit 4 and the high
nibble of the payload length; the second one holds the low eight bits of the
length.  Notifications carry any number of frames back to back.
-/

namespace BoschBle
namespace Mcsp

open Foundation

/-- The eight MCSP channels. -/
inductive McspChannel
  | command
  | channel1
  | channel2
  | channel3
  | channel4
  | channel5
  | channel6
  | channel7
  deriving DecidableEq

namespace McspChannel

/-- The integer value of a channel. -/
def toInt : McspChannel -> Nat
  | .command => 0
  | .channel1 => 1
  | .channel2 => 2
  | .channel3 => 3
  | .channel4 => 4
  | .channel5 => 5
  | .channel6 => 6
  | .channel7 => 7

/-- `McspChannel(value)`: the channel with the given value. -/
def ofInt : Nat -> Except Exn McspChannel
  | 0 => .ok .command
  | 1 => .ok .channel1
  | 2 => .ok .channel2
  | 3 => .ok .channel3
  | 4 => .ok .channel4
  | 5 => .ok .channel5
  | 6 => .ok .channel6
  | 7 => .ok .channel7
  | value => .error ⟨.valueError, s!"{value} is not a valid McspChannel"⟩

theorem toInt_lt_eight (channel : McspChannel) : channel.toInt < 8 := by
  cases channel <;> decide

@[simp] theorem ofInt_toInt (channel : McspChannel) :
    ofInt channel.toInt = .ok channel := by
  cases channel <;> rfl

theorem exists_ofInt_of_lt_eight
    {value : Nat}
    (small : value < 8) :
    ∃ channel, ofInt value = .ok channel ∧ channel.toInt = value := by
  interval_cases value <;> exact ⟨_, rfl, rfl⟩

end McspChannel

/-- One MCSP frame. -/
structure Frame where
  /-- Whether the frame ends its channel's segment. -/
  endOfChannel : Bool
  /-- The channel of the frame. -/
  channel : McspChannel
  /-- The bytes behind the header. -/
  payload : Bytes
  deriving DecidableEq

/-- Decode a byte string that is exactly one frame. -/
def decodeFrame (data : Bytes) : Except Exn Frame :=
  match data with
  | header :: low :: payload => do
      let payloadLength := ((header.toNat &&& 0x0F) <<< 8) ||| low.toNat
      let frameLength := 2 + payloadLength
      if data.length ≠ frameLength then
        .error ⟨.valueError,
          s!"MCSP frame length mismatch: expected {frameLength} bytes, got {data.length}."⟩
      else
        let channel ← McspChannel.ofInt ((header.toNat >>> 5) &&& 0x07)
        .ok { endOfChannel := header.toNat &&& 0x10 ≠ 0
              channel := channel
              payload := payload }
  | _ => .error ⟨.valueError, "MCSP frame is shorter than 2 bytes."⟩

/-- One pass of the `while` loop of `splitFrames` at `offset`. -/
def splitFramesBody (data : Bytes) :
    Nat × List Frame -> Pass (Nat × List Frame) (Except Exn (List Frame))
  | (offset, frames) =>
      if offset < data.length then
        match data.drop offset with
        | header :: low :: _ =>
            let payloadLength := ((header.toNat &&& 0x0F) <<< 8) ||| low.toNat
            let frameLength := 2 + payloadLength
            let stop := offset + frameLength
            if data.length < stop then
              .stop (.error ⟨.valueError, "Trailing partial MCSP frame payload."⟩)
            else
              match decodeFrame (data.slice offset stop) with
              | .ok frame => .next (stop, frames ++ [frame])
              | .error exc => .stop (.error exc)
        | _ => .stop (.error ⟨.valueError, "Trailing partial MCSP frame header."⟩)
      else
        .stop (.ok frames)

theorem splitFramesBody_decreases
    (data : Bytes)
    (state after : Nat × List Frame)
    (continues : splitFramesBody data state = .next after) :
    data.length - after.1 < data.length - state.1 := by
  obtain ⟨offset, frames⟩ := state
  simp only [splitFramesBody] at continues
  split at continues
  case isFalse => cases continues
  case isTrue inside =>
    split at continues
    case h_2 => cases continues
    case h_1 header low rest _ =>
      split at continues
      case isTrue => cases continues
      case isFalse fits =>
        split at continues
        case h_2 => cases continues
        case h_1 =>
          simp only [Pass.next.injEq] at continues
          rw [← continues]
          simp only
          omega

/-- The loop of `splitFrames`; each pass that continues moves the offset. -/
def splitFramesLoop (data : Bytes) :
    Loop (Nat × List Frame) (Except Exn (List Frame)) where
  body := splitFramesBody data
  measure := fun state => data.length - state.1
  decreases := splitFramesBody_decreases data

/-- Split a byte string into the frames it is made of. -/
def splitFrames (data : Bytes) : Except Exn (List Frame) :=
  (splitFramesLoop data).exec (0, [])

/-- Encode one frame. -/
def encodeFrame (frame : Frame) : Except Exn Bytes :=
  let payloadLength := frame.payload.length
  if payloadLength > 0x0FFF then
    .error ⟨.valueError, "MCSP payload is larger than 4095 bytes."⟩
  else do
    let header := ((frame.channel.toInt &&& 0x07) <<< 5) |||
      ((payloadLength >>> 8) &&& 0x0F)
    let header := if frame.endOfChannel then header ||| 0x10 else header
    let head ← Bytes.ofInts [header, payloadLength &&& 0xFF]
    .ok (head ++ frame.payload)

/-! ## One frame in arithmetic form -/

/-- The bytes of a frame, with the header fields written as digits. -/
def frameBytes (frame : Frame) : Bytes :=
  let payloadLength := frame.payload.length
  let flag := if frame.endOfChannel then 16 else 0
  UInt8.ofNat (frame.channel.toInt * 32 + flag + payloadLength / 256 % 16) ::
    UInt8.ofNat (payloadLength % 256) :: frame.payload

/-- The masks and shifts of the header byte write its three fields. -/
theorem headerByte_eq :
    ∀ (channel : Fin 8) (flag : Bool) (high : Fin 16),
      (let header := ((channel.val &&& 0x07) <<< 5) ||| high.val
        if flag then header ||| 0x10 else header) =
        channel.val * 32 + (if flag then 16 else 0) + high.val := by
  decide

/-- The masks and shifts of the header byte read its three fields. -/
theorem headerByte_fields :
    ∀ header : Fin 256,
      (header.val &&& 0x0F) = header.val % 16 ∧
        ((header.val >>> 5) &&& 0x07) = header.val / 32 ∧
        ((header.val &&& 0x10) ≠ 0 ↔ header.val / 16 % 2 = 1) := by
  decide +kernel

theorem encodeFrame_of_le
    {frame : Frame}
    (fits : frame.payload.length ≤ 4095) :
    encodeFrame frame = .ok (frameBytes frame) := by
  have notLarger : ¬frame.payload.length > 0x0FFF := by omega
  have nibble : (frame.payload.length >>> 8) &&& 0x0F =
      frame.payload.length / 256 % 16 :=
    shiftRight_and_mask frame.payload.length 8 4
  have low : frame.payload.length &&& 0xFF = frame.payload.length % 256 :=
    Nat.and_two_pow_sub_one_eq_mod frame.payload.length 8
  have channelBound := frame.channel.toInt_lt_eight
  have header := headerByte_eq ⟨frame.channel.toInt, channelBound⟩
    frame.endOfChannel ⟨frame.payload.length / 256 % 16, by omega⟩
  have headerFits : frame.channel.toInt * 32 +
      (if frame.endOfChannel then 16 else 0) +
      frame.payload.length / 256 % 16 < 256 := by
    split <;> omega
  simp only at header
  simp only [encodeFrame, if_neg notLarger, nibble, low, header]
  rw [Bytes.ofInts_cons headerFits
    (Bytes.ofInts_cons (by omega) Bytes.ofInts_nil)]
  rfl

/-- The length that both the splitter and `decodeFrame` read off a header. -/
theorem payloadLength_eq (header low : UInt8) :
    ((header.toNat &&& 0x0F) <<< 8) ||| low.toNat =
      header.toNat % 16 * 256 + low.toNat := by
  rw [(headerByte_fields ⟨header.toNat, header.toNat_lt⟩).1]
  exact shiftLeft_or_eq_add (header.toNat % 16) 8 low.toNat_lt

/-- `decodeFrame` returns on every byte string whose length agrees with its
header. -/
theorem decodeFrame_of_length
    {header low : UInt8} {payload : Bytes}
    (length_eq : payload.length = header.toNat % 16 * 256 + low.toNat) :
    ∃ channel, channel.toInt = header.toNat / 32 ∧
      decodeFrame (header :: low :: payload) =
        .ok { endOfChannel := decide (header.toNat / 16 % 2 = 1)
              channel := channel
              payload := payload } := by
  obtain ⟨_, channelBits, flagBit⟩ :=
    headerByte_fields ⟨header.toNat, header.toNat_lt⟩
  simp only at channelBits flagBit
  have headerBound := header.toNat_lt
  obtain ⟨channel, channel_eq, value_eq⟩ :=
    McspChannel.exists_ofInt_of_lt_eight
      (show header.toNat / 32 < 8 by omega)
  refine ⟨channel, value_eq, ?_⟩
  have agrees : ¬(header :: low :: payload).length ≠
      2 + (header.toNat % 16 * 256 + low.toNat) := by
    simp only [List.length_cons, length_eq]
    omega
  simp only [decodeFrame, payloadLength_eq, if_neg agrees, channelBits,
    channel_eq]
  simp only [flagBit]
  rfl

/-- Header and low length byte of an encoded frame, as naturals. -/
theorem frameBytes_fields
    {frame : Frame}
    (fits : frame.payload.length ≤ 4095) :
    ∃ header low, frameBytes frame = header :: low :: frame.payload ∧
      header.toNat / 32 = frame.channel.toInt ∧
      decide (header.toNat / 16 % 2 = 1) = frame.endOfChannel ∧
      frame.payload.length = header.toNat % 16 * 256 + low.toNat := by
  have channelBound := frame.channel.toInt_lt_eight
  refine ⟨_, _, rfl, ?_⟩
  simp only [UInt8.toNat_ofNat']
  cases frame.endOfChannel <;>
    simp only [if_true, if_false, Bool.false_eq_true] <;>
    refine ⟨by omega, ?_, by omega⟩
  · rw [decide_eq_false_iff_not]
    omega
  · rw [decide_eq_true_iff]
    omega

theorem decodeFrame_frameBytes
    {frame : Frame}
    (fits : frame.payload.length ≤ 4095) :
    decodeFrame (frameBytes frame) = .ok frame := by
  obtain ⟨header, low, bytes_eq, channelBits, flagBit, length_eq⟩ :=
    frameBytes_fields fits
  obtain ⟨channel, value_eq, decodes⟩ := decodeFrame_of_length length_eq
  have channel_eq : channel = frame.channel := by
    have same := McspChannel.ofInt_toInt channel
    rw [value_eq, channelBits, McspChannel.ofInt_toInt, Except.ok.injEq] at same
    exact same.symm
  rw [bytes_eq, decodes, flagBit, channel_eq]

/-- The header byte is put back together from the fields it was split into. -/
theorem frameBytes_of_header
    {header low : UInt8} {payload : Bytes} {channel : McspChannel}
    (value_eq : channel.toInt = header.toNat / 32)
    (length_eq : payload.length = header.toNat % 16 * 256 + low.toNat) :
    frameBytes { endOfChannel := decide (header.toNat / 16 % 2 = 1)
                 channel := channel
                 payload := payload } = header :: low :: payload := by
  have headerBound := header.toNat_lt
  have lowBound := low.toNat_lt
  have header_eq : header.toNat / 32 * 32 +
      (if decide (header.toNat / 16 % 2 = 1) then 16 else 0) +
      (header.toNat % 16 * 256 + low.toNat) / 256 % 16 = header.toNat := by
    by_cases flag : header.toNat / 16 % 2 = 1
    · simp only [flag, decide_true, if_true]
      omega
    · simp only [flag, decide_false, if_false, Bool.false_eq_true]
      omega
  have low_eq : (header.toNat % 16 * 256 + low.toNat) % 256 = low.toNat := by
    omega
  simp only [frameBytes, value_eq, length_eq, header_eq, low_eq,
    UInt8.ofNat_toNat]

end Mcsp
end BoschBle
