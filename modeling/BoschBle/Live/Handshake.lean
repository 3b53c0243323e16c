import BoschBle.Mcsp.FrameStream
import BoschBle.Mcsp.Command
import Mathlib.Data.Finset.Basic
import Mathlib.Data.Finset.Dedup

/-!
# Handshake detection and reply

The peer opens a session with a set of commands that may arrive in any order
and in any number of notifications.  Once the set is complete this side answers
with commands of its own.
-/

namespace BoschBle
namespace Live

open Foundation Mcsp

/-- Every channel but the command channel. -/
def NON_COMMAND_CHANNELS : List McspChannel :=
  [ .channel1, .channel2, .channel3, .channel4, .channel5, .channel6,
    .channel7 ]

theorem mem_NON_COMMAND_CHANNELS {channel : McspChannel} :
    channel ∈ NON_COMMAND_CHANNELS ↔ channel ≠ .command := by
  cases channel <;> decide

/-- The channel of a command that advances a transmit window. -/
def advancedChannel : Command -> Option McspChannel
  | .advanceTransmitWindowCommand channel _ => some channel
  | _ => none

/-- The packet size that a command announces. -/
def announcedPacketSize : Command -> Option Nat
  | .maxSegmentationPacketCommand maxPacketSize => some maxPacketSize
  | _ => none

/-- Whether the commands received so far are the handshake of a bike. -/
def isBikeHandshake (commands : List Command) : Bool :=
  let versionOk := commands.any fun command =>
    command = .versionCommand 3
  let maxPacketSeen := commands.any fun command =>
    (announcedPacketSize command).isSome
  let advancedChannels := (commands.filterMap advancedChannel).toFinset
  versionOk && maxPacketSeen &&
    advancedChannels = NON_COMMAND_CHANNELS.toFinset

/-- The packets that answer a handshake. -/
def buildHandshakeResponse
    (commands : List Command)
    (localPacketSize : Nat := DEFAULT_MAX_PACKET_SIZE) :
    Except Exn (List Bytes) :=
  let remotePacketSizes := commands.filterMap announcedPacketSize
  let maxPacketSize :=
    match remotePacketSizes.min? with
    | some smallest => min localPacketSize smallest
    | none => localPacketSize
  let responseCommands :=
    [.versionCommand 3, .maxSegmentationPacketCommand maxPacketSize] ++
      NON_COMMAND_CHANNELS.map Command.disableFlowControlCommand
  responseCommands.mapM encodeCommandFrame

/-! ## Detection -/

/-- The commands of a complete handshake have all been received. -/
structure RequiredSeen (commands : List Command) : Prop where
  version : Command.versionCommand 3 ∈ commands
  maxPacket : ∃ maxPacketSize,
    Command.maxSegmentationPacketCommand maxPacketSize ∈ commands
  advances : ∀ channel ≠ McspChannel.command, ∃ advance,
    Command.advanceTransmitWindowCommand channel advance ∈ commands

/-- No command advances the window of the command channel itself. -/
def NoCommandAdvance (commands : List Command) : Prop :=
  ∀ advance, Command.advanceTransmitWindowCommand .command advance ∉ commands

/-- More commands keep a handshake complete. -/
theorem RequiredSeen.mono
    {commands later : List Command}
    (grows : commands ⊆ later)
    (seen : RequiredSeen commands) : RequiredSeen later where
  version := grows seen.version
  maxPacket := by
    obtain ⟨maxPacketSize, present⟩ := seen.maxPacket
    exact ⟨maxPacketSize, grows present⟩
  advances := fun channel other => by
    obtain ⟨advance, present⟩ := seen.advances channel other
    exact ⟨advance, grows present⟩

theorem NoCommandAdvance.mono
    {commands later : List Command}
    (grows : commands ⊆ later)
    (none : NoCommandAdvance later) : NoCommandAdvance commands :=
  fun advance present => none advance (grows present)

theorem mem_advancedChannels
    {commands : List Command} {channel : McspChannel} :
    channel ∈ commands.filterMap advancedChannel ↔
      ∃ advance,
        Command.advanceTransmitWindowCommand channel advance ∈ commands := by
  rw [List.mem_filterMap]
  constructor
  · rintro ⟨command, present, advances⟩
    cases command with
    | advanceTransmitWindowCommand other advance =>
        cases advances
        exact ⟨advance, present⟩
    | versionCommand => cases advances
    | disableFlowControlCommand => cases advances
    | maxSegmentationPacketCommand => cases advances
  · rintro ⟨advance, present⟩
    exact ⟨_, present, rfl⟩

theorem maxPacketSeen_iff {commands : List Command} :
    (commands.any fun command => (announcedPacketSize command).isSome) ↔
      ∃ maxPacketSize,
        Command.maxSegmentationPacketCommand maxPacketSize ∈ commands := by
  rw [List.any_eq_true]
  constructor
  · rintro ⟨command, present, announces⟩
    cases command with
    | maxSegmentationPacketCommand maxPacketSize =>
        exact ⟨maxPacketSize, present⟩
    | versionCommand => cases announces
    | disableFlowControlCommand => cases announces
    | advanceTransmitWindowCommand => cases announces
  · rintro ⟨maxPacketSize, present⟩
    exact ⟨_, present, rfl⟩

/-- A handshake is detected exactly when the required commands are there and
the command channel is not among the advanced ones. -/
theorem isBikeHandshake_iff {commands : List Command} :
    isBikeHandshake commands ↔
      RequiredSeen commands ∧ NoCommandAdvance commands := by
  have channels_eq : (commands.filterMap advancedChannel).toFinset =
      NON_COMMAND_CHANNELS.toFinset ↔
        (∀ channel ≠ McspChannel.command, ∃ advance,
          Command.advanceTransmitWindowCommand channel advance ∈ commands) ∧
        NoCommandAdvance commands := by
    rw [Finset.ext_iff]
    simp only [List.mem_toFinset, mem_advancedChannels,
      mem_NON_COMMAND_CHANNELS]
    constructor
    · intro same
      exact ⟨fun channel other => (same channel).mpr other,
        fun advance present => (same .command).mp ⟨advance, present⟩ rfl⟩
    · rintro ⟨advances, none⟩ channel
      refine ⟨?_, advances channel⟩
      rintro ⟨advance, present⟩ rfl
      exact none advance present
  have version_iff :
      (commands.any fun command => command = .versionCommand 3) ↔
        Command.versionCommand 3 ∈ commands := by
    simp
  simp only [isBikeHandshake, Bool.and_eq_true, version_iff, maxPacketSeen_iff,
    decide_eq_true_eq, channels_eq]
  constructor
  · rintro ⟨⟨version, maxPacket⟩, advances, none⟩
    exact ⟨⟨version, maxPacket, advances⟩, none⟩
  · rintro ⟨⟨version, maxPacket, advances⟩, none⟩
    exact ⟨⟨version, maxPacket⟩, advances, none⟩

/-! ## The reply -/

/-- The packet size of the reply never exceeds the local one. -/
theorem negotiated_le (localPacketSize : Nat) (sizes : List Nat) :
    (match sizes.min? with
      | some smallest => min localPacketSize smallest
      | none => localPacketSize) ≤ localPacketSize := by
  cases sizes.min? with
  | none => exact Nat.le_refl _
  | some smallest => exact Nat.min_le_left _ _

/-- The reply to a handshake is always built. -/
theorem exists_buildHandshakeResponse (commands : List Command) :
    ∃ packets, buildHandshakeResponse commands = .ok packets := by
  refine ⟨_, mapM_of_forall_ok fun command present =>
    encodeCommandFrame_of_inRange ?_⟩
  rw [List.mem_append, List.mem_cons, List.mem_singleton, List.mem_map]
    at present
  rcases present with (rfl | rfl) | ⟨channel, _, rfl⟩
  · exact Nat.lt_of_sub_pos (by decide)
  · exact (negotiated_le DEFAULT_MAX_PACKET_SIZE _).trans_lt (by decide)
  · exact trivial

end Live
end BoschBle
