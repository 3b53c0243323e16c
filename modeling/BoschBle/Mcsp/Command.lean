import BoschBle.Mcsp.Frame

/-!
# MCSP commands

Frames on the command channel carry one of four commands: a type byte followed
by a fixed-width big-endian body.  Bytes behind the body are ignored.
-/

namespace BoschBle
namespace Mcsp

open Foundation

/-- Packet size that this side advertises by default. -/
def DEFAULT_MAX_PACKET_SIZE : Nat := 244

/-- The type byte of a command. -/
inductive CommandType
  | version
  | advancedTransmitWindow
  | disableFlowControl
  | maxSegmentationPacket
  deriving DecidableEq

namespace CommandType

/-- The integer value of a command type. -/
def toInt : CommandType -> Nat
  | .version => 0x01
  | .advancedTransmitWindow => 0x02
  | .disableFlowControl => 0x03
  | .maxSegmentationPacket => 0x04

/-- The command type with the given value, if the value is valid. -/
def ofInt? : Nat -> Option CommandType
  | 0x01 => some .version
  | 0x02 => some .advancedTransmitWindow
  | 0x03 => some .disableFlowControl
  | 0x04 => some .maxSegmentationPacket
  | _ => none

end CommandType

/-- A decoded MCSP command. -/
inductive Command
  | versionCommand (version : Nat)
  | advanceTransmitWindowCommand (channel : McspChannel) (advance : Nat)
  | disableFlowControlCommand (channel : McspChannel)
  | maxSegmentationPacketCommand (maxPacketSize : Nat)
  deriving DecidableEq

/-- Decode the payload of a command frame. -/
def decodeCommand (payload : Bytes) : Except Exn Command :=
  match payload with
  | [] => .error ⟨.valueError, "MCSP command payload is empty."⟩
  | commandType :: _ =>
      match CommandType.ofInt? commandType.toNat with
      | none =>
          .error ⟨.valueError,
            "Unsupported MCSP command type: 0x" ++
              Bytes.formatHex 2 commandType.toNat⟩
      | some .version =>
          if short : payload.length < 2 then
            .error ⟨.valueError, "VERSION command is truncated."⟩
          else
            .ok (.versionCommand payload[1].toNat)
      | some .advancedTransmitWindow =>
          if short : payload.length < 6 then
            .error ⟨.valueError, "ADVANCED_TRANSMIT_WINDOW command is truncated."⟩
          else do
            let channel ← McspChannel.ofInt payload[1].toNat
            .ok (.advanceTransmitWindowCommand channel
              (Bytes.fromBig (payload.slice 2 6)))
      | some .disableFlowControl =>
          if short : payload.length < 2 then
            .error ⟨.valueError, "DISABLE_FLOW_CONTROL command is truncated."⟩
          else do
            let channel ← McspChannel.ofInt payload[1].toNat
            .ok (.disableFlowControlCommand channel)
      | some .maxSegmentationPacket =>
          if payload.length < 3 then
            .error ⟨.valueError, "MAX_SEGMENTATION_PACKET command is truncated."⟩
          else
            .ok (.maxSegmentationPacketCommand
              (Bytes.fromBig (payload.slice 1 3)))

/-- The upper-case name of a channel. -/
def McspChannel.name (channel : McspChannel) : String :=
  match channel with
  | .command => "COMMAND"
  | other => s!"CHANNEL{other.toInt}"

/-- Decode a frame of the command channel. -/
def decodeCommandFrame (frame : Frame) : Except Exn Command :=
  if frame.channel ≠ .command then
    .error ⟨.valueError, s!"MCSP frame is on {frame.channel.name}, not COMMAND."⟩
  else
    decodeCommand frame.payload

/-- Encode the payload of a command frame. -/
def encodeCommand : Command -> Except Exn Bytes
  | .versionCommand version =>
      Bytes.ofInts [CommandType.version.toInt, version]
  | .advanceTransmitWindowCommand channel advance => do
      let head ← Bytes.ofInts
        [CommandType.advancedTransmitWindow.toInt, channel.toInt]
      let body ← Bytes.toBig advance 4
      .ok (head ++ body)
  | .disableFlowControlCommand channel =>
      Bytes.ofInts [CommandType.disableFlowControl.toInt, channel.toInt]
  | .maxSegmentationPacketCommand maxPacketSize => do
      let head ← Bytes.ofInts [CommandType.maxSegmentationPacket.toInt]
      let body ← Bytes.toBig maxPacketSize 2
      .ok (head ++ body)

/-- Encode a command as a frame of its own. -/
def encodeCommandFrame (command : Command) : Except Exn Bytes := do
  let payload ← encodeCommand command
  encodeFrame { endOfChannel := true, channel := .command, payload := payload }

/-- The field widths of the wire format. -/
def Command.InRange : Command -> Prop
  | .versionCommand version => version < 256
  | .advanceTransmitWindowCommand _ advance => advance < 256 ^ 4
  | .disableFlowControlCommand _ => True
  | .maxSegmentationPacketCommand maxPacketSize => maxPacketSize < 256 ^ 2

/-- The payload bytes of a command whose fields fit. -/
def commandBytes : Command -> Bytes
  | .versionCommand version => [0x01, UInt8.ofNat version]
  | .advanceTransmitWindowCommand channel advance =>
      0x02 :: UInt8.ofNat channel.toInt :: Bytes.bigEndian 4 advance
  | .disableFlowControlCommand channel => [0x03, UInt8.ofNat channel.toInt]
  | .maxSegmentationPacketCommand maxPacketSize =>
      0x04 :: Bytes.bigEndian 2 maxPacketSize

theorem length_commandBytes_le (command : Command) :
    (commandBytes command).length ≤ 6 := by
  cases command <;> simp [commandBytes]

theorem encodeCommand_of_inRange
    {command : Command}
    (inRange : command.InRange) :
    encodeCommand command = .ok (commandBytes command) := by
  have channelFits (channel : McspChannel) : channel.toInt < 256 :=
    channel.toInt_lt_eight.trans (by decide)
  cases command with
  | versionCommand version =>
      exact Bytes.ofInts_cons (by decide)
        (Bytes.ofInts_cons inRange Bytes.ofInts_nil)
  | advanceTransmitWindowCommand channel advance =>
      rw [encodeCommand, Bytes.toBig_of_lt inRange,
        Bytes.ofInts_cons (by decide)
          (Bytes.ofInts_cons (channelFits channel) Bytes.ofInts_nil)]
      rfl
  | disableFlowControlCommand channel =>
      exact Bytes.ofInts_cons (by decide)
        (Bytes.ofInts_cons (channelFits channel) Bytes.ofInts_nil)
  | maxSegmentationPacketCommand maxPacketSize =>
      rw [encodeCommand, Bytes.toBig_of_lt inRange,
        Bytes.ofInts_cons (by decide) Bytes.ofInts_nil]
      rfl

/-- The frame that carries a command. -/
def commandFrame (command : Command) : Frame where
  endOfChannel := true
  channel := .command
  payload := commandBytes command

/-- Encoding an in-range command as a frame never raises. -/
theorem encodeCommandFrame_of_inRange
    {command : Command}
    (inRange : command.InRange) :
    encodeCommandFrame command = .ok (frameBytes (commandFrame command)) := by
  have fits : (commandFrame command).payload.length ≤ 4095 :=
    (length_commandBytes_le command).trans (by decide)
  rw [encodeCommandFrame, encodeCommand_of_inRange inRange]
  exact encodeFrame_of_le fits

end Mcsp
end BoschBle
