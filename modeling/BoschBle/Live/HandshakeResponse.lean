import BoschBle.Live.Handshake
import BoschBle.Mcsp.CommandStream
import Mathlib.Order.Bounds.Defs
import Mathlib.Order.Bounds.Basic

/-!
# What the reply to a handshake says

The packets of the reply decode to a version, a packet size and one command for
each channel.  The packet size is the least of the local one and those that the peer
has announced, and nothing else of what the peer sent has an influence.
-/

namespace BoschBle
namespace Live

open Foundation Mcsp

/-- The packet sizes that a reply chooses from. -/
def packetSizes (commands : List Command) (localPacketSize : Nat) : Set Nat :=
  {size | size = localPacketSize ∨
    Command.maxSegmentationPacketCommand size ∈ commands}

/-- The commands of the reply with a packet size. -/
def responseCommands (maxPacketSize : Nat) : List Command :=
  [ .versionCommand 3, .maxSegmentationPacketCommand maxPacketSize,
    .disableFlowControlCommand .channel1, .disableFlowControlCommand .channel2,
    .disableFlowControlCommand .channel3, .disableFlowControlCommand .channel4,
    .disableFlowControlCommand .channel5, .disableFlowControlCommand .channel6,
    .disableFlowControlCommand .channel7 ]

theorem mem_announced_iff
    {commands : List Command} {size : Nat} :
    size ∈ commands.filterMap announcedPacketSize ↔
      Command.maxSegmentationPacketCommand size ∈ commands := by
  rw [List.mem_filterMap]
  constructor
  · rintro ⟨command, present, announces⟩
    cases command with
    | maxSegmentationPacketCommand maxPacketSize =>
        cases announces
        exact present
    | versionCommand => cases announces
    | disableFlowControlCommand => cases announces
    | advanceTransmitWindowCommand => cases announces
  · intro present
    exact ⟨_, present, rfl⟩

/-- The size that the reply announces is the least one. -/
theorem negotiated_isLeast
    (commands : List Command)
    (localPacketSize : Nat) :
    IsLeast (packetSizes commands localPacketSize)
      (match (commands.filterMap announcedPacketSize).min? with
        | some smallest => min localPacketSize smallest
        | none => localPacketSize) := by
  cases least : (commands.filterMap announcedPacketSize).min? with
  | none =>
      have noneAnnounced := List.min?_eq_none_iff.mp least
      refine ⟨.inl rfl, ?_⟩
      rintro size (rfl | announced)
      · exact Nat.le_refl _
      · rw [← mem_announced_iff, noneAnnounced] at announced
        cases announced
  | some smallest =>
      obtain ⟨present, below⟩ := List.min?_eq_some_iff.mp least
      constructor
      · cases Nat.le_total localPacketSize smallest with
        | inl ordered => exact .inl (Nat.min_eq_left ordered)
        | inr ordered =>
            right
            change Command.maxSegmentationPacketCommand
              (min localPacketSize smallest) ∈ commands
            rw [Nat.min_eq_right ordered]
            exact mem_announced_iff.mp present
      · rintro size (rfl | announced)
        · exact Nat.min_le_left _ _
        · exact (Nat.min_le_right _ _).trans (below size (mem_announced_iff.mpr announced))

/-- The reply depends on the least size only. -/
theorem buildHandshakeResponse_of_isLeast
    {commands : List Command} {localPacketSize maxPacketSize : Nat}
    (least : IsLeast (packetSizes commands localPacketSize) maxPacketSize) :
    buildHandshakeResponse commands localPacketSize =
      (responseCommands maxPacketSize).mapM encodeCommandFrame := by
  rw [least.unique (negotiated_isLeast commands localPacketSize)]
  rfl

theorem responseCommands_inRange
    {maxPacketSize : Nat}
    (fits : maxPacketSize < 2 ^ 16) :
    ∀ command ∈ responseCommands maxPacketSize, command.InRange := by
  simpa [responseCommands, Command.InRange] using fits

/-- The reply to any commands is built, and its packets decode to the
version, the least packet size, and the channels in order.  Any other commands with
the same least size have the same reply. -/
theorem buildHandshakeResponse_decodes
    (commands : List Command)
    (localPacketSize : Nat)
    (fits : localPacketSize < 2 ^ 16) :
    ∃ maxPacketSize packets,
      IsLeast (packetSizes commands localPacketSize) maxPacketSize ∧
      buildHandshakeResponse commands localPacketSize = .ok packets ∧
      decodeCommandFrames packets.flatten = .ok
        [ .versionCommand 3, .maxSegmentationPacketCommand maxPacketSize,
          .disableFlowControlCommand .channel1, .disableFlowControlCommand .channel2,
          .disableFlowControlCommand .channel3, .disableFlowControlCommand .channel4,
          .disableFlowControlCommand .channel5, .disableFlowControlCommand .channel6,
          .disableFlowControlCommand .channel7 ] ∧
      ∀ others otherPacketSize,
        IsLeast (packetSizes others otherPacketSize) maxPacketSize ->
          buildHandshakeResponse others otherPacketSize = .ok packets := by
  have least := negotiated_isLeast commands localPacketSize
  generalize size_eq : (match (commands.filterMap announcedPacketSize).min? with
    | some smallest => min localPacketSize smallest
    | none => localPacketSize) = maxPacketSize at least
  have small : maxPacketSize < 2 ^ 16 :=
    (least.2 (.inl rfl)).trans_lt fits
  obtain ⟨packets, encodes, decodes⟩ :=
    decodeCommandFrames_of_inRange (responseCommands_inRange small)
  refine ⟨maxPacketSize, packets, least, ?_, decodes, ?_⟩
  · rw [buildHandshakeResponse_of_isLeast least, encodes]
  · intro others otherPacketSize otherLeast
    rw [buildHandshakeResponse_of_isLeast otherLeast, encodes]

/-- At the end of the range, with announcements in any order. -/
theorem buildHandshakeResponse_decodes_extremes :
    ∃ maxPacketSize packets,
      IsLeast (packetSizes [ .maxSegmentationPacketCommand 65535, .versionCommand 3,
        .maxSegmentationPacketCommand 23, .maxSegmentationPacketCommand 244 ] 65535)
        maxPacketSize ∧
      buildHandshakeResponse [ .maxSegmentationPacketCommand 65535, .versionCommand 3,
        .maxSegmentationPacketCommand 23, .maxSegmentationPacketCommand 244 ] 65535 =
          .ok packets ∧
      decodeCommandFrames packets.flatten = .ok
        [ .versionCommand 3, .maxSegmentationPacketCommand maxPacketSize,
          .disableFlowControlCommand .channel1, .disableFlowControlCommand .channel2,
          .disableFlowControlCommand .channel3, .disableFlowControlCommand .channel4,
          .disableFlowControlCommand .channel5, .disableFlowControlCommand .channel6,
          .disableFlowControlCommand .channel7 ] ∧
      ∀ others otherPacketSize,
        IsLeast (packetSizes others otherPacketSize) maxPacketSize ->
          buildHandshakeResponse others otherPacketSize = .ok packets :=
  buildHandshakeResponse_decodes _ 65535 (by decide)

end Live
end BoschBle
