import BoschBle.Foundation.Hex
import BoschBle.Handshake.Log
import BoschBle.Mcsp.FrameStream

/-!
# The characters of a log line

An equals sign stands in the line of an entry behind one of the labels that the log
writes, and a parenthesis in a command.  What is between them has neither of both.
-/

namespace BoschBle
namespace ValidateLive

open Foundation Common Mcsp MessageBus Live Handshake

/-- Neither an equals sign nor an opening parenthesis. -/
def Plain (text : Text) : Prop :=
  '=' ∉ text ∧ '(' ∉ text

instance (text : Text) : Decidable (Plain text) :=
  inferInstanceAs (Decidable (_ ∧ _))

namespace Plain

theorem append
    {first second : Text}
    (firstPlain : Plain first)
    (secondPlain : Plain second) :
    Plain (first ++ second) := by
  constructor
  · rw [List.mem_append, not_or]
    exact ⟨firstPlain.1, secondPlain.1⟩
  · rw [List.mem_append, not_or]
    exact ⟨firstPlain.2, secondPlain.2⟩

theorem of_forall
    {text : Text}
    (each : ∀ char ∈ text, char ≠ '(' ∧ char ≠ '=') :
    Plain text :=
  ⟨fun present => (each _ present).2 rfl, fun present => (each _ present).1 rfl⟩

theorem hex (data : Bytes) : Plain (Bytes.hex data).toList :=
  of_forall (Bytes.forall_hex _ (by decide) data)

/-- Digits of a number up to base sixteen. -/
theorem toDigits
    (base value : Nat)
    (large : 1 < base)
    (small : base ≤ 16) :
    Plain (Nat.toDigits base value) := by
  have digits : ∀ digit < 16, Nat.digitChar digit ≠ '(' ∧ Nat.digitChar digit ≠ '=' := by
    decide
  refine of_forall fun char present => ?_
  induction value using Nat.strongRecOn with
  | ind value inductionHypothesis =>
      by_cases single : value < base
      · rw [Nat.toDigits_of_lt_base single, List.mem_singleton] at present
        rw [present]
        exact digits value (single.trans_le small)
      · have positive : 0 < value / base := Nat.div_pos (Nat.not_lt.mp single) (by omega)
        rw [Nat.toDigits_of_base_le large (Nat.not_lt.mp single), List.mem_append,
          List.mem_singleton] at present
        rcases present with inFront | isLast
        · exact inductionHypothesis (value / base) (Nat.div_lt_self (by omega) large) inFront
        · rw [isLast]
          exact digits (value % base) ((Nat.mod_lt _ (by omega)).trans_le small)

theorem formatHex (width value : Nat) : Plain (Bytes.formatHex width value).toList := by
  rw [Bytes.formatHex, String.toList_ofList]
  refine append (of_forall fun char present => ?_) (toDigits 16 value (by decide) (by decide))
  rw [List.eq_of_mem_replicate present]
  decide

theorem padded (width value : Nat) : Plain (Handshake.padded width value) := by
  refine append (of_forall fun char present => ?_) (toDigits 10 value (by decide) (by decide))
  rw [List.eq_of_mem_replicate present]
  decide

theorem isoformat (time : DateTime) : Plain time.isoformat := by
  have date : Plain (Handshake.padded 4 time.year ++ "-".toList ++
      Handshake.padded 2 time.month ++ "-".toList ++ Handshake.padded 2 time.day) :=
    ((((padded _ _).append (by decide)).append (padded _ _)).append (by decide)).append
      (padded _ _)
  exact (((((date.append (by decide)).append (padded _ _)).append (by decide)).append
    (padded _ _)).append (by decide)).append (padded _ _)

theorem name (channel : McspChannel) : Plain channel.name.toList := by
  cases channel <;> decide

theorem address
    {address : Text}
    (checked : (BLE_ADDRESS_RE.matchAt none address).isSome = true) :
    Plain address := by
  have digit {char : Char} (isHex : Regex.isHexDigit char = true) :
      char ≠ '(' ∧ char ≠ '=' :=
    Regex.forall_isHexDigit (fun char => char ≠ '(' ∧ char ≠ '=') (by decide) isHex
  have pair (pair : HexPair) : ∀ char ∈ pair.text, char ≠ '(' ∧ char ≠ '=' := by
    rw [HexPair.text, List.forall_mem_cons, List.forall_mem_singleton]
    exact ⟨digit pair.highDigit, digit pair.lowDigit⟩
  have plain (address : Address) : Plain address.text := by
    obtain ⟨front, last, -, -, text_eq⟩ := address.exists_last
    rw [text_eq]
    refine append (of_forall fun char present => ?_) (of_forall (pair last))
    obtain ⟨other, -, inOther⟩ := List.mem_flatMap.mp present
    rcases List.mem_append.mp inOther with inPair | isColon
    · exact pair other char inPair
    · rw [List.mem_singleton.mp isColon]
      decide
  obtain ⟨address, rfl | rfl⟩ := BLE_ADDRESS_RE_isSome.mp checked
  · exact plain address
  · exact append (plain address) (by decide)

end Plain

/-! ## The texts of decoding errors -/

theorem plain_decimal (value : Nat) : Plain (toString value).toList := by
  have digits := Plain.toDigits 10 value (by decide) (by decide)
  rwa [Nat.toString_eq_repr, Nat.toList_repr]

theorem bind_raises
    {first : Except Exn α} {next : α -> Except Exn β} {exc : Exn}
    (raises : first >>= next = .error exc) :
    first = .error exc ∨ ∃ value, first = .ok value ∧ next value = .error exc := by
  cases first with
  | error other => exact Or.inl (congrArg Except.error (Except.error.inj raises))
  | ok value => exact Or.inr ⟨value, rfl, raises⟩

theorem plain_channelError
    {value : Nat} {exc : Exn}
    (raises : McspChannel.ofInt value = .error exc) :
    Plain exc.message.toList := by
  unfold McspChannel.ofInt at raises
  split at raises
  case h_9 =>
    obtain rfl := Except.error.inj raises
    simp only [String.toList_append]
    exact ((by decide : Plain []).append (plain_decimal value)).append (by decide)
  all_goals cases raises

theorem plain_typeError
    {value : Nat} {exc : Exn}
    (raises : MessageType.ofInt value = .error exc) :
    Plain exc.message.toList := by
  unfold MessageType.ofInt at raises
  split at raises
  case h_12 =>
    obtain rfl := Except.error.inj raises
    simp only [String.toList_append]
    exact ((by decide : Plain []).append (plain_decimal value)).append (by decide)
  all_goals cases raises

theorem plain_commandError
    {frame : Frame} {exc : Exn}
    (isCommand : frame.channel = .command)
    (raises : decodeCommandFrame frame = .error exc) :
    Plain exc.message.toList := by
  rw [decodeCommandFrame, if_neg (not_not.mpr isCommand)] at raises
  unfold decodeCommand at raises
  split at raises
  · obtain rfl := Except.error.inj raises
    decide
  · split at raises
    · obtain rfl := Except.error.inj raises
      rw [String.toList_append]
      exact (by decide : Plain "Unsupported MCSP command type: 0x".toList).append
        (Plain.formatHex _ _)
    · split at raises
      · obtain rfl := Except.error.inj raises
        decide
      · cases raises
    · split at raises
      · obtain rfl := Except.error.inj raises
        decide
      · rcases bind_raises raises with noChannel | ⟨_, -, ⟨⟩⟩
        exact plain_channelError noChannel
    · split at raises
      · obtain rfl := Except.error.inj raises
        decide
      · rcases bind_raises raises with noChannel | ⟨_, -, ⟨⟩⟩
        exact plain_channelError noChannel
    · split at raises
      · obtain rfl := Except.error.inj raises
        decide
      · cases raises

theorem plain_directedError
    {raw : Bytes} {exc : Exn}
    (raises : decodeDirectedFrame raw = .error exc) :
    Plain exc.message.toList := by
  unfold decodeDirectedFrame at raises
  split at raises
  · dsimp only at raises
    rcases bind_raises raises with noType | ⟨type, -, raises⟩
    · exact plain_typeError noType
    · split at raises
      · split at raises
        · obtain rfl := Except.error.inj raises
          decide
        · cases raises
      · cases raises
  · obtain rfl := Except.error.inj raises
    decide

theorem plain_messageError
    {raw : Bytes} {exc : Exn}
    (raises : decodeMessageFrame raw = .error exc) :
    Plain exc.message.toList := by
  unfold decodeMessageFrame at raises
  split at raises
  · split at raises
    · cases raises
    · rcases bind_raises raises with notDirected | ⟨_, -, ⟨⟩⟩
      exact plain_directedError notDirected
  · obtain rfl := Except.error.inj raises
    decide

/-- The last frame of a notification may be cut off in two ways. -/
theorem plain_splitError
    {data : Bytes} {exc : Exn}
    (raises : splitFrames data = .error exc) :
    Plain exc.message.toList := by
  have sound := Loop.exec_induction (splitFramesLoop data)
    (fun _ result => ∀ exc, result = .error exc -> Plain exc.message.toList)
    (by
      rintro ⟨offset, frames⟩ result stops exc rfl
      change splitFramesBody data (offset, frames) = .stop (.error exc) at stops
      simp only [splitFramesBody] at stops
      split at stops
      case isFalse => cases stops
      case isTrue inside =>
        split at stops
        case h_2 =>
          obtain rfl := Except.error.inj (Pass.stop.inj stops)
          decide
        case h_1 header low tail tokens =>
          split at stops
          case isTrue =>
            obtain rfl := Except.error.inj (Pass.stop.inj stops)
            decide
          case isFalse fits =>
            -- behind the length checks the inner decoder returns
            obtain ⟨frame, decodes⟩ := decodeFrame_slice tokens (Nat.not_lt.mp fits)
            rw [decodes] at stops
            cases stops)
    (fun _ _ _ inductionHypothesis => inductionHypothesis)
    (0, [])
  exact sound exc raises

/-! ## Messages and commands -/

theorem plain_addressText
    {names : List (Nat × String)}
    (namesPlain : ∀ pair ∈ names, Plain pair.2.toList)
    (address : Nat) :
    Plain (addressText (names.lookup address) address).toList := by
  cases found : names.lookup address with
  | none =>
      rw [addressText, Option.getD_none, String.toList_append]
      exact (by decide : Plain "0x".toList).append (Plain.formatHex 4 address)
  | some name =>
      obtain ⟨before, behind, names_eq, -⟩ := List.lookup_eq_some_iff.mp found
      refine namesPlain (address, name) ?_
      rw [names_eq]
      exact List.mem_append_right before List.mem_cons_self

/-- A message is a plain summary, with a labelled payload where there is one. -/
theorem exists_summary (message : MessageFrame) :
    ∃ summary, Plain summary ∧
      ((formatMessageFrame message).toList = summary ∨
        (formatMessageFrame message).toList =
          summary ++ (" payload".toList ++ '=' :: (Bytes.hex message.payload).toList)) := by
  have namesPlain : ∀ pair ∈ ADDRESS_NAMES, Plain pair.2.toList := by decide
  have typePlain (type : MessageType) : Plain (type.name ++ " ").toList := by
    cases type <;> decide
  have summaryPlain : ∃ summary : String, Plain summary.toList ∧
      formatMessageFrame message =
        if message.payload = [] then summary
        else summary ++ " payload=" ++ Bytes.hex message.payload := by
    cases message with
    | notify notification =>
        refine ⟨"NOTIFY " ++ addressText notification.sourceName notification.source, ?_, rfl⟩
        rw [String.toList_append]
        exact (by decide : Plain "NOTIFY ".toList).append (plain_addressText namesPlain _)
    | directed directed =>
        refine ⟨directed.messageType.name ++ " " ++
          addressText directed.targetName directed.destination, ?_, rfl⟩
        rw [String.toList_append]
        exact (typePlain _).append (plain_addressText namesPlain _)
  obtain ⟨summary, plain, message_eq⟩ := summaryPlain
  refine ⟨summary.toList, plain, ?_⟩
  rw [message_eq]
  split
  · exact Or.inl rfl
  · right
    rw [String.toList_append, String.toList_append, List.append_assoc]
    rfl

/-- The type of a command. -/
def commandType : Command -> CommandType
  | .versionCommand _ => .version
  | .advanceTransmitWindowCommand _ _ => .advancedTransmitWindow
  | .disableFlowControlCommand _ => .disableFlowControl
  | .maxSegmentationPacketCommand _ => .maxSegmentationPacket

/-- The class of the commands of a type. -/
def className : CommandType -> Text
  | .version => "VersionCommand".toList
  | .advancedTransmitWindow => "AdvanceTransmitWindowCommand".toList
  | .disableFlowControl => "DisableFlowControlCommand".toList
  | .maxSegmentationPacket => "MaxSegmentationPacketCommand".toList

/-- What is between the parentheses of a command. -/
def commandArguments : Command -> Text
  | .versionCommand version => "version=".toList ++ Nat.toDigits 10 version
  | .advanceTransmitWindowCommand channel advance =>
      "channel=".toList ++ (channelRepr channel ++
        ',' :: (" advance=".toList ++ Nat.toDigits 10 advance))
  | .disableFlowControlCommand channel => "channel=".toList ++ channelRepr channel
  | .maxSegmentationPacketCommand maxPacketSize =>
      "max_packet_size=".toList ++ Nat.toDigits 10 maxPacketSize

theorem commandRepr_eq (command : Command) :
    commandRepr command =
      className (commandType command) ++ '(' :: (commandArguments command ++ [')']) := by
  have closing : ")".toList = [')'] := by decide
  cases command with
  | versionCommand version =>
      have label : "VersionCommand(version=".toList =
          "VersionCommand".toList ++ '(' :: "version=".toList := by
        decide
      change "VersionCommand(version=".toList ++ Nat.toDigits 10 version ++ ")".toList =
        "VersionCommand".toList ++
          '(' :: ("version=".toList ++ Nat.toDigits 10 version ++ [')'])
      rw [label, closing]
      simp only [List.append_assoc, List.cons_append]
  | advanceTransmitWindowCommand channel advance =>
      have label : "AdvanceTransmitWindowCommand(channel=".toList =
          "AdvanceTransmitWindowCommand".toList ++ '(' :: "channel=".toList := by
        decide
      have next : ", advance=".toList = ',' :: " advance=".toList := by decide
      change "AdvanceTransmitWindowCommand(channel=".toList ++ channelRepr channel ++
          ", advance=".toList ++ Nat.toDigits 10 advance ++ ")".toList =
        "AdvanceTransmitWindowCommand".toList ++
          '(' :: ("channel=".toList ++ (channelRepr channel ++
            ',' :: (" advance=".toList ++ Nat.toDigits 10 advance)) ++ [')'])
      rw [label, next, closing]
      simp only [List.append_assoc, List.cons_append]
  | disableFlowControlCommand channel =>
      have label : "DisableFlowControlCommand(channel=".toList =
          "DisableFlowControlCommand".toList ++ '(' :: "channel=".toList := by
        decide
      change "DisableFlowControlCommand(channel=".toList ++ channelRepr channel ++
          ")".toList =
        "DisableFlowControlCommand".toList ++
          '(' :: ("channel=".toList ++ channelRepr channel ++ [')'])
      rw [label, closing]
      simp only [List.append_assoc, List.cons_append]
  | maxSegmentationPacketCommand maxPacketSize =>
      have label : "MaxSegmentationPacketCommand(max_packet_size=".toList =
          "MaxSegmentationPacketCommand".toList ++ '(' :: "max_packet_size=".toList := by
        decide
      change "MaxSegmentationPacketCommand(max_packet_size=".toList ++
          Nat.toDigits 10 maxPacketSize ++ ")".toList =
        "MaxSegmentationPacketCommand".toList ++
          '(' :: ("max_packet_size=".toList ++ Nat.toDigits 10 maxPacketSize ++ [')'])
      rw [label, closing]
      simp only [List.append_assoc, List.cons_append]

/-- A command up to its first equals sign. -/
def commandLabel : CommandType -> Text
  | .version => "VersionCommand(version".toList
  | .advancedTransmitWindow => "AdvanceTransmitWindowCommand(channel".toList
  | .disableFlowControl => "DisableFlowControlCommand(channel".toList
  | .maxSegmentationPacket => "MaxSegmentationPacketCommand(max_packet_size".toList

/-- A command behind its first equals sign. -/
def commandRest : Command -> Text
  | .versionCommand version => Nat.toDigits 10 version ++ ")".toList
  | .advanceTransmitWindowCommand channel advance =>
      channelRepr channel ++ (", advance".toList ++
        '=' :: (Nat.toDigits 10 advance ++ ")".toList))
  | .disableFlowControlCommand channel => channelRepr channel ++ ")".toList
  | .maxSegmentationPacketCommand maxPacketSize =>
      Nat.toDigits 10 maxPacketSize ++ ")".toList

theorem commandRepr_label (command : Command) :
    commandRepr command = commandLabel (commandType command) ++ '=' :: commandRest command := by
  cases command with
  | versionCommand version =>
      have label : "VersionCommand(version=".toList =
          "VersionCommand(version".toList ++ ['='] := by
        decide
      change "VersionCommand(version=".toList ++ Nat.toDigits 10 version ++ ")".toList =
        "VersionCommand(version".toList ++ '=' :: (Nat.toDigits 10 version ++ ")".toList)
      rw [label]
      simp only [List.append_assoc, List.cons_append, List.nil_append]
  | advanceTransmitWindowCommand channel advance =>
      have label : "AdvanceTransmitWindowCommand(channel=".toList =
          "AdvanceTransmitWindowCommand(channel".toList ++ ['='] := by
        decide
      have next : ", advance=".toList = ", advance".toList ++ ['='] := by decide
      change "AdvanceTransmitWindowCommand(channel=".toList ++ channelRepr channel ++
          ", advance=".toList ++ Nat.toDigits 10 advance ++ ")".toList =
        "AdvanceTransmitWindowCommand(channel".toList ++
          '=' :: (channelRepr channel ++ (", advance".toList ++
            '=' :: (Nat.toDigits 10 advance ++ ")".toList)))
      rw [label, next]
      simp only [List.append_assoc, List.cons_append, List.nil_append]
  | disableFlowControlCommand channel =>
      have label : "DisableFlowControlCommand(channel=".toList =
          "DisableFlowControlCommand(channel".toList ++ ['='] := by
        decide
      change "DisableFlowControlCommand(channel=".toList ++ channelRepr channel ++
          ")".toList =
        "DisableFlowControlCommand(channel".toList ++
          '=' :: (channelRepr channel ++ ")".toList)
      rw [label]
      simp only [List.append_assoc, List.cons_append, List.nil_append]
  | maxSegmentationPacketCommand maxPacketSize =>
      have label : "MaxSegmentationPacketCommand(max_packet_size=".toList =
          "MaxSegmentationPacketCommand(max_packet_size".toList ++ ['='] := by
        decide
      change "MaxSegmentationPacketCommand(max_packet_size=".toList ++
          Nat.toDigits 10 maxPacketSize ++ ")".toList =
        "MaxSegmentationPacketCommand(max_packet_size".toList ++
          '=' :: (Nat.toDigits 10 maxPacketSize ++ ")".toList)
      rw [label]
      simp only [List.append_assoc, List.cons_append, List.nil_append]

end ValidateLive
end BoschBle
