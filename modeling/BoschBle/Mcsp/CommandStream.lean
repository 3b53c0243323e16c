import BoschBle.Mcsp.Command
import BoschBle.Mcsp.FrameStream

/-!
# Streams of MCSP commands

A packet holds the frames of any number of commands.  Decoding a payload and
encoding a command are written separately in the source; this module shows that
they agree on every field width.
-/

namespace BoschBle
namespace Mcsp

open Foundation

/-- Decode every frame of a packet as a command. -/
def decodeCommandFrames (data : Bytes) : Except Exn (List Command) := do
  let frames ← splitFrames data
  frames.mapM decodeCommandFrame

/-! ## The type byte and the channel byte -/

theorem CommandType.eq_toInt_of_ofInt?
    {value : Nat} {commandType : CommandType}
    (known : CommandType.ofInt? value = some commandType) :
    value = commandType.toInt := by
  unfold CommandType.ofInt? at known
  split at known <;> cases known <;> rfl

theorem McspChannel.eq_toInt_of_ofInt
    {value : Nat} {channel : McspChannel}
    (known : McspChannel.ofInt value = .ok channel) :
    value = channel.toInt := by
  unfold McspChannel.ofInt at known
  split at known <;> cases known <;> rfl

theorem McspChannel.ofInt_error_type
    {value : Nat} {exc : Exn}
    (raised : McspChannel.ofInt value = .error exc) :
    exc.type = .valueError := by
  unfold McspChannel.ofInt at raised
  split at raised <;> cases raised
  rfl

@[simp] theorem McspChannel.toInt_mod (channel : McspChannel) :
    channel.toInt % 256 = channel.toInt :=
  Nat.mod_eq_of_lt (channel.toInt_lt_eight.trans (by decide))

/-- A byte is the octet of the value that was read from it. -/
theorem eq_ofNat_of_toNat_eq
    {byte : UInt8} {value : Nat}
    (equal : byte.toNat = value) :
    byte = UInt8.ofNat value := by
  rw [← equal, UInt8.ofNat_toNat]

/-- A command that is built from the channel of a byte. -/
theorem exists_channel
    {octet : UInt8} {build : McspChannel -> Command} {command : Command}
    (decodes : (do
      let channel <- McspChannel.ofInt octet.toNat
      .ok (build channel)) = Except.ok command) :
    ∃ channel, octet = UInt8.ofNat channel.toInt ∧ command = build channel := by
  cases known : McspChannel.ofInt octet.toNat with
  | error exc =>
      rw [known] at decodes
      cases decodes
  | ok channel =>
      rw [known] at decodes
      cases decodes
      exact ⟨channel, eq_ofNat_of_toNat_eq (McspChannel.eq_toInt_of_ofInt known), rfl⟩

/-! ## Round trip of one command -/

/-- The canonical bytes of an in-range command decode to it, whatever follows
them. -/
theorem decodeCommand_commandBytes_append
    {command : Command}
    (inRange : command.InRange)
    (rest : Bytes) :
    decodeCommand (commandBytes command ++ rest) = .ok command := by
  cases command with
  | versionCommand version =>
      have small : (UInt8.ofNat version).toNat = version :=
        UInt8.toNat_ofNat_of_lt' inRange
      simp [decodeCommand, commandBytes, CommandType.ofInt?, small]
  | advanceTransmitWindowCommand channel advance =>
      have body : (Bytes.bigEndian 4 advance ++ rest).take 4 =
          Bytes.bigEndian 4 advance :=
        List.take_left' (Bytes.length_bigEndian 4 advance)
      have value : Bytes.fromBig (Bytes.bigEndian 4 advance) = advance :=
        Bytes.fromBig_bigEndian inRange
      have long : ¬4 + rest.length + 1 + 1 < 6 := by omega
      simp [decodeCommand, commandBytes, CommandType.ofInt?, Bytes.slice, body,
        value, long]
      rfl
  | disableFlowControlCommand channel =>
      have long : ¬rest.length + 1 + 1 < 2 := by omega
      simp [decodeCommand, commandBytes, CommandType.ofInt?, long]
      rfl
  | maxSegmentationPacketCommand maxPacketSize =>
      have body : (Bytes.bigEndian 2 maxPacketSize ++ rest).take 2 =
          Bytes.bigEndian 2 maxPacketSize :=
        List.take_left' (Bytes.length_bigEndian 2 maxPacketSize)
      have value : Bytes.fromBig (Bytes.bigEndian 2 maxPacketSize) =
          maxPacketSize := Bytes.fromBig_bigEndian inRange
      have long : ¬2 + rest.length + 1 < 3 := by omega
      simp [decodeCommand, commandBytes, CommandType.ofInt?, Bytes.slice, body,
        value, long]

/-- A rejected payload raises a value error. -/
theorem decodeCommand_error_type
    {payload : Bytes} {exc : Exn}
    (raised : decodeCommand payload = .error exc) :
    exc.type = .valueError := by
  have channelError {value : Nat} {next : McspChannel -> Except Exn Command}
      (returns : ∀ channel, ∃ command, next channel = .ok command)
      (failed : (McspChannel.ofInt value >>= next) = .error exc) :
      exc.type = .valueError := by
    cases known : McspChannel.ofInt value with
    | error reason =>
        rw [known] at failed
        cases failed
        exact McspChannel.ofInt_error_type known
    | ok channel =>
        obtain ⟨command, next_eq⟩ := returns channel
        rw [known] at failed
        exact absurd (next_eq.symm.trans failed) (by simp)
  unfold decodeCommand at raised
  split at raised
  · cases raised
    rfl
  · split at raised
    · cases raised
      rfl
    · split at raised <;> cases raised
      rfl
    · split at raised
      · cases raised
        rfl
      · exact channelError (fun channel => ⟨_, rfl⟩) raised
    · split at raised
      · cases raised
        rfl
      · exact channelError (fun channel => ⟨_, rfl⟩) raised
    · split at raised <;> cases raised
      rfl

/-- An accepted payload starts with the canonical bytes of the command that it
decodes to. -/
theorem commandBytes_prefix_of_decodeCommand
    {payload : Bytes} {command : Command}
    (decodes : decodeCommand payload = .ok command) :
    command.InRange ∧ commandBytes command <+: payload := by
  unfold decodeCommand at decodes
  split at decodes
  · cases decodes
  · rename_i commandType tail
    split at decodes
    · cases decodes
    all_goals
      rename_i known
      have head := eq_ofNat_of_toNat_eq (CommandType.eq_toInt_of_ofInt? known)
      subst head
    · -- VERSION: the type byte and the version.
      split at decodes
      · cases decodes
      · rename_i long
        rw [List.length_cons] at long
        obtain ⟨version, rest, rfl⟩ : ∃ version rest, tail = version :: rest :=
          List.exists_cons_of_length_pos (by omega)
        cases decodes
        refine ⟨version.toNat_lt, rest, ?_⟩
        simp [commandBytes, CommandType.toInt]
    · -- ADVANCED_TRANSMIT_WINDOW: a channel and four octets.
      split at decodes
      · cases decodes
      · rename_i long
        rw [List.length_cons] at long
        obtain ⟨first, rest, rfl⟩ : ∃ first rest, tail = first :: rest :=
          List.exists_cons_of_length_pos (by omega)
        have four : (rest.take 4).length = 4 := by
          rw [List.length_cons] at long
          rw [List.length_take]
          omega
        obtain ⟨channel, first_eq, rfl⟩ := @exists_channel first _ _ decodes
        refine ⟨?_, rest.drop 4, ?_⟩
        · have small := Bytes.fromBig_lt (rest.take 4)
          rwa [four] at small
        · have body :
              Bytes.slice (UInt8.ofNat CommandType.advancedTransmitWindow.toInt ::
                first :: rest) 2 6 = rest.take 4 := rfl
          rw [commandBytes, body, Bytes.bigEndian_fromBig four, ← first_eq]
          simp [CommandType.toInt]
    · -- DISABLE_FLOW_CONTROL: a channel.
      split at decodes
      · cases decodes
      · rename_i long
        rw [List.length_cons] at long
        obtain ⟨first, rest, rfl⟩ : ∃ first rest, tail = first :: rest :=
          List.exists_cons_of_length_pos (by omega)
        obtain ⟨channel, first_eq, rfl⟩ := @exists_channel first _ _ decodes
        refine ⟨trivial, rest, ?_⟩
        rw [commandBytes, ← first_eq]
        simp [CommandType.toInt]
    · -- MAX_SEGMENTATION_PACKET: two octets.
      split at decodes
      · cases decodes
      · rename_i long
        have two : (tail.take 2).length = 2 := by
          rw [List.length_cons] at long
          rw [List.length_take]
          omega
        simp [Bytes.slice] at decodes
        cases decodes
        refine ⟨?_, tail.drop 2, ?_⟩
        · have small := Bytes.fromBig_lt (tail.take 2)
          rwa [two] at small
        · rw [commandBytes, Bytes.bigEndian_fromBig two]
          simp [CommandType.toInt]

/-! ## Round trip of a packet -/

/-- The encodings of in-range commands concatenate to the stream of their
frames. -/
theorem mapM_encodeCommandFrame
    {commands : List Command}
    (inRange : ∀ command ∈ commands, command.InRange) :
    commands.mapM encodeCommandFrame =
      .ok ((commands.map commandFrame).map frameBytes) := by
  rw [List.map_map]
  apply mapM_of_forall_ok
  intro command present
  exact encodeCommandFrame_of_inRange (inRange command present)

theorem decodeCommandFrame_commandFrame
    {command : Command}
    (inRange : command.InRange) :
    decodeCommandFrame (commandFrame command) = .ok command := by
  have decodes := decodeCommand_commandBytes_append inRange []
  rw [List.append_nil] at decodes
  exact decodes

/-- The packets of in-range commands decode to those commands. -/
theorem decodeCommandFrames_of_inRange
    {commands : List Command}
    (inRange : ∀ command ∈ commands, command.InRange) :
    ∃ packets, commands.mapM encodeCommandFrame = .ok packets ∧
      decodeCommandFrames packets.flatten = .ok commands := by
  have fits : ∀ frame ∈ commands.map commandFrame, frame.payload.length ≤ 4095 := by
    intro frame present
    obtain ⟨command, _, rfl⟩ := List.mem_map.mp present
    exact (length_commandBytes_le command).trans (by decide)
  have packets := mapM_encodeFrame_eq_ok (mapM_encodeFrame_of_le fits)
  refine ⟨_, mapM_encodeCommandFrame inRange, ?_⟩
  rw [decodeCommandFrames, packets.2, splitFrames_encodeAll fits]
  have decodes : (commands.map commandFrame).mapM decodeCommandFrame =
      .ok commands := by
    rw [mapM_eq_ok_iff, List.forall₂_map_left_iff, List.forall₂_same]
    intro command present
    exact decodeCommandFrame_commandFrame (inRange command present)
  exact decodes

/-- Packets of commands with in-range fields decode to those commands, and a
payload is either refused with a value error or is the encoding of the in-range
command it decodes to with ignored bytes behind it. -/
theorem decodeCommandFrames_inverse_encodeCommandFrame :
    (∀ commands : List Command,
      (∀ command ∈ commands, command.InRange) ->
        ∃ packets, commands.mapM encodeCommandFrame = .ok packets ∧
          decodeCommandFrames packets.flatten = .ok commands) ∧
    (∀ payload : Bytes,
      (∃ exc, decodeCommand payload = .error exc ∧ exc.type = .valueError) ∨
        ∃ command, decodeCommand payload = .ok command ∧ command.InRange ∧
          ∃ bytes, encodeCommand command = .ok bytes ∧ bytes <+: payload) := by
  constructor
  · intro commands inRange
    exact decodeCommandFrames_of_inRange inRange
  · intro payload
    cases decodes : decodeCommand payload with
    | error exc =>
        exact Or.inl ⟨exc, rfl, decodeCommand_error_type decodes⟩
    | ok command =>
        obtain ⟨inRange, isPrefix⟩ := commandBytes_prefix_of_decodeCommand decodes
        exact Or.inr ⟨command, rfl, inRange, _, encodeCommand_of_inRange inRange,
          isPrefix⟩

/-- The four command kinds at the ends of their ranges. -/
theorem decodeCommandFrames_inverse_encodeCommandFrame_extremes :
    ∃ packets,
      [ Command.versionCommand 255,
        Command.maxSegmentationPacketCommand 65535,
        Command.disableFlowControlCommand .channel7,
        Command.advanceTransmitWindowCommand .channel3 4294967295
      ].mapM encodeCommandFrame = .ok packets ∧
        decodeCommandFrames packets.flatten = .ok
          [ Command.versionCommand 255,
            Command.maxSegmentationPacketCommand 65535,
            Command.disableFlowControlCommand .channel7,
            Command.advanceTransmitWindowCommand .channel3 4294967295 ] :=
  decodeCommandFrames_inverse_encodeCommandFrame.1 _ (by
    simp [Command.InRange])

end Mcsp
end BoschBle
