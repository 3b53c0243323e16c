import BoschBle.Foundation.Text
import BoschBle.Live.Session

/-!
# One-line summaries of packets

`summarize_packet` of `live.py` shows what the frames of a packet carry.
-/

namespace BoschBle
namespace Live

open Foundation Mcsp MessageBus

/-- `repr` of a channel. -/
def channelRepr (channel : McspChannel) : Text :=
  "<McspChannel.".toList ++ channel.name.toList ++ ": ".toList ++
    Nat.toDigits 10 channel.toInt ++ ">".toList

/-- `repr` of a command. -/
def commandRepr : Command -> Text
  | .versionCommand version =>
      "VersionCommand(version=".toList ++ Nat.toDigits 10 version ++ ")".toList
  | .advanceTransmitWindowCommand channel advance =>
      "AdvanceTransmitWindowCommand(channel=".toList ++ channelRepr channel ++
        ", advance=".toList ++ Nat.toDigits 10 advance ++ ")".toList
  | .disableFlowControlCommand channel =>
      "DisableFlowControlCommand(channel=".toList ++ channelRepr channel ++ ")".toList
  | .maxSegmentationPacketCommand maxPacketSize =>
      "MaxSegmentationPacketCommand(max_packet_size=".toList ++
        Nat.toDigits 10 maxPacketSize ++ ")".toList

/-- One pass of the loop of `summarize_packet`. -/
def summarizeFrame (frame : Frame) : Text :=
  if frame.channel = .command then
    match decodeCommandFrame frame with
    | .ok command => "CMD ".toList ++ commandRepr command
    | .error _ => "cmd ".toList ++ (Bytes.hex frame.payload).toList
  else
    match decodeMessageFrame frame.payload with
    | .ok decoded => (formatMessageFrame decoded).toList
    | .error _ => (Bytes.hex frame.payload).toList

/-- `summarize_packet`. -/
def summarizePacket (payload : Bytes) : Text :=
  match splitFrames payload with
  | .error _ => (Bytes.hex payload).toList
  | .ok frames => " | ".toList.intercalate (frames.map summarizeFrame)

end Live
end BoschBle
