import BoschBle.ValidateLive.Entries

/-!
# The validator and the log

A log passes where all that the validator expects stands in it.  It stands there where
it was received or sent, where a longer packet was sent, and where the sender or the
bytes of a notification repeat it.
-/

namespace BoschBle
namespace ValidateLive

open Foundation Common Mcsp MessageBus Live Handshake

/-- An address that the check of the tools lets through. -/
structure CheckedAddress where
  text : Text
  checked : (BLE_ADDRESS_RE.matchAt none text).isSome = true

/-! ## What happened in a session -/

/-- The frames of the notifications. -/
def receivedFrames (events : List SessionEvent) : List Frame :=
  events.flatMap fun
    | .notified notification => framesOf notification
    | .sent _ => []

/-- The commands that are received, in order. -/
def receivedCommands (events : List SessionEvent) : List Command :=
  (receivedFrames events).filterMap commandOf

/-- The payloads of the frames that end CHANNEL1. -/
def endedPayloads (events : List SessionEvent) : List Bytes :=
  ((receivedFrames events).filter fun frame =>
    frame.channel = .channel1 ∧ frame.endOfChannel = true).map Frame.payload

/-- The packets that are sent, in order. -/
def sentPackets (events : List SessionEvent) : List Bytes :=
  events.filterMap fun
    | .notified _ => none
    | .sent packet => some packet

/-- What the log repeats of others. -/
def notifyTexts (events : List SessionEvent) : List Text :=
  events.filterMap fun
    | .notified notification => some (notifyText notification.sender notification.data)
    | .sent _ => none

/-- The commands whose texts the validator expects. -/
def expectedCommands : List Command :=
  [.versionCommand 3,
    .maxSegmentationPacketCommand 244,
    .advanceTransmitWindowCommand .channel1 2048,
    .advanceTransmitWindowCommand .channel2 8192,
    .advanceTransmitWindowCommand .channel3 8192,
    .advanceTransmitWindowCommand .channel4 0,
    .advanceTransmitWindowCommand .channel5 0,
    .advanceTransmitWindowCommand .channel6 0,
    .advanceTransmitWindowCommand .channel7 0]

theorem MCSP_EXPECTATIONS_eq :
    MCSP_EXPECTATIONS.map String.toList = expectedCommands.map commandRepr := by
  have texts : MCSP_EXPECTATIONS =
      expectedCommands.map fun command => String.ofList (commandRepr command) := by
    rfl
  rw [texts, List.map_map]
  exact List.map_congr_left fun _ _ => String.toList_ofList

/-- Every expectation is met, in the sense that the predicates give to it. -/
structure Meets (command : Command -> Prop) (packet frame : String -> Prop) : Prop where
  mcsp : ∀ expected ∈ expectedCommands, command expected
  send : ∀ packetHex ∈ SEND_EXPECTATIONS, packet packetHex
  frames : ∀ frameHex ∈ FRAME_EXPECTATIONS, frame frameHex
  groups : ∀ group ∈ FRAME_GROUP_EXPECTATIONS, ∃ option ∈ group.2, frame option

/-- Every expected command and frame was received and every expected packet sent. -/
def Complete (events : List SessionEvent) : Prop :=
  Meets (fun command => command ∈ receivedCommands events)
    (fun packetHex => ∃ packet ∈ sentPackets events, Bytes.hex packet = packetHex)
    (fun frameHex => ∃ payload ∈ endedPayloads events, Bytes.hex payload = frameHex)

/-- Everything expected was received or sent, or stands in the text of a notification;
a packet may also be the start of one that was sent. -/
def Imitated (events : List SessionEvent) : Prop :=
  Meets
    (fun command => command ∈ receivedCommands events ∨
      ∃ text ∈ notifyTexts events, commandRepr command <:+: text)
    (fun packetHex =>
      (∃ packet ∈ sentPackets events, packetHex.toList <+: (Bytes.hex packet).toList) ∨
        ∃ text ∈ notifyTexts events,
          "send hex=".toList ++ packetHex.toList <:+: Text.lower text)
    (fun frameHex =>
      (∃ payload ∈ endedPayloads events, Bytes.hex payload = frameHex) ∨
        ∃ text ∈ notifyTexts events, frameHex.toList ∈ frameHexes text)

/-- What the frames and notifications of a session must be like for the validator to be
right about it. -/
structure Undisturbed (events : List SessionEvent) : Prop where
  /-- The frames that end CHANNEL1 carry messages. -/
  decodes : ∀ payload ∈ endedPayloads events, payload ≠ [] ->
    ∃ message, decodeMessageFrame payload = .ok message
  /-- So do the frames in the texts of notifications. -/
  textDecodes : ∀ text ∈ notifyTexts events, ∀ frameHex ∈ frameHexes text,
    ∃ message, decodeMessageText frameHex = .ok message
  /-- What looks complete is complete. -/
  genuine : Imitated events -> Complete events

/-- The validator returns, and its result says whether the session was complete. -/
def Agrees (now : Nat -> DateTime) (address : Text) (events : List SessionEvent) : Prop :=
  ∃ result, validateHandshakeLog (logText now address events) = .ok result ∧
    (result.passed = true ↔ Complete events)

/-! ## From lines to entries -/

theorem exists_mem_flatMap
    {items : List ι} {parts : ι -> List κ} {holds : κ -> Prop} :
    (∃ part ∈ items.flatMap parts, holds part) ↔
      ∃ item ∈ items, ∃ part ∈ parts item, holds part := by
  simp only [List.mem_flatMap]
  constructor
  · rintro ⟨part, ⟨item, isItem, isPart⟩, meets⟩
    exact ⟨item, isItem, part, isPart, meets⟩
  · rintro ⟨item, isItem, part, isPart, meets⟩
    exact ⟨part, ⟨item, isItem, isPart⟩, meets⟩

theorem exists_line_iff
    {now : Nat -> DateTime} {inLine : Text -> Prop} {inEntry : Entry -> Prop}
    {entries : List Entry}
    (each : ∀ entry ∈ entries, ∀ front, Plain front ->
      (inLine (front ++ entry.text) ↔ inEntry entry))
    (readings : Nat) :
    (∃ line ∈ linesFrom now readings entries, inLine line) ↔
      ∃ entry ∈ entries, inEntry entry := by
  induction entries generalizing readings with
  | nil => simp [linesFrom]
  | cons entry entries inductionHypothesis =>
      rw [List.forall_mem_cons] at each
      have frontPlain : Plain ((now readings).isoformat ++ " ".toList) :=
        (Plain.isoformat _).append (by decide)
      rw [linesFrom, List.exists_mem_cons_iff, List.exists_mem_cons_iff,
        inductionHypothesis each.2, Entry.line, each.1 _ frontPlain]

/-! ## The entries of a session -/

theorem admitted_of_frame
    {frame : Frame} {entry : Entry}
    (isEntry : entry ∈ entriesOfFrame frame) :
    Admitted entry := by
  rw [entriesOfFrame] at isEntry
  rcases List.mem_cons.mp isEntry with rfl | isNext
  · trivial
  · split at isNext
    case isTrue isCommand =>
      cases decodes : decodeCommandFrame frame with
      | error exc =>
          rw [decodes] at isNext
          obtain rfl := List.mem_singleton.mp isNext
          exact plain_commandError isCommand decodes
      | ok command =>
          rw [decodes] at isNext
          obtain rfl := List.mem_singleton.mp isNext
          trivial
    case isFalse =>
      cases decodes : decodeMessageFrame frame.payload with
      | error exc =>
          rw [decodes] at isNext
          obtain rfl := List.mem_singleton.mp isNext
          exact plain_messageError decodes
      | ok message =>
          rw [decodes] at isNext
          obtain rfl := List.mem_singleton.mp isNext
          trivial

theorem admitted_of_mem
    {address : CheckedAddress} {events : List SessionEvent} {entry : Entry}
    (isEntry : entry ∈ entries address.text events) :
    Admitted entry := by
  rcases List.mem_cons.mp isEntry with rfl | inEvents
  · exact Plain.address address.checked
  · obtain ⟨event, -, ofEvent⟩ := List.mem_flatMap.mp inEvents
    cases event with
    | sent packet =>
        obtain rfl := List.mem_singleton.mp ofEvent
        trivial
    | notified notification =>
        rw [entriesOf] at ofEvent
        rcases List.mem_cons.mp ofEvent with rfl | behind
        · trivial
        · rcases List.mem_cons.mp behind with rfl | behind
          · trivial
          · cases splits : splitFrames notification.data with
            | error exc =>
                rw [splits] at behind
                obtain rfl := List.mem_singleton.mp behind
                exact plain_splitError splits
            | ok frames =>
                rw [splits] at behind
                obtain ⟨frame, -, ofFrame⟩ := List.mem_flatMap.mp behind
                exact admitted_of_frame ofFrame

section Session

variable {events : List SessionEvent}

theorem mem_receivedFrames {frame : Frame} :
    frame ∈ receivedFrames events ↔
      ∃ notification, SessionEvent.notified notification ∈ events ∧
        frame ∈ framesOf notification := by
  rw [receivedFrames, List.mem_flatMap]
  constructor
  · rintro ⟨event, isEvent, inEvent⟩
    cases event with
    | notified notification => exact ⟨notification, isEvent, inEvent⟩
    | sent packet => cases inEvent
  · rintro ⟨notification, isEvent, inEvent⟩
    exact ⟨.notified notification, isEvent, inEvent⟩

theorem mem_sentPackets {packet : Bytes} :
    packet ∈ sentPackets events ↔ SessionEvent.sent packet ∈ events := by
  rw [sentPackets, List.mem_filterMap]
  constructor
  · rintro ⟨event, isEvent, isPacket⟩
    cases event with
    | notified notification => cases isPacket
    | sent other =>
        cases isPacket
        exact isEvent
  · exact fun isEvent => ⟨.sent packet, isEvent, rfl⟩

theorem mem_notifyTexts {text : Text} :
    text ∈ notifyTexts events ↔
      ∃ notification, SessionEvent.notified notification ∈ events ∧
        notifyText notification.sender notification.data = text := by
  rw [notifyTexts, List.mem_filterMap]
  constructor
  · rintro ⟨event, isEvent, isText⟩
    cases event with
    | notified notification => exact ⟨notification, isEvent, Option.some.inj isText⟩
    | sent packet => cases isText
  · rintro ⟨notification, isEvent, isText⟩
    exact ⟨.notified notification, isEvent, congrArg some isText⟩

variable {holds : Entry -> Prop}

/-- A frame is in the log, and what it carries. -/
theorem exists_entryOfFrame_iff
    (noError : ∀ exc, ¬ holds (.decodeFailed exc))
    (frame : Frame) :
    (∃ entry ∈ entriesOfFrame frame, holds entry) ↔
      holds (.frame frame) ∨ (∃ command, commandOf frame = some command ∧ holds (.recv command)) ∨
        ∃ message, messageOf frame = some message ∧ holds (.message message) := by
  rw [entriesOfFrame, commandOf, messageOf, List.exists_mem_cons_iff]
  refine or_congr_right ?_
  by_cases isCommand : frame.channel = .command
  · rw [if_pos isCommand, if_pos isCommand, if_pos isCommand]
    cases decodeCommandFrame frame with
    | error exc => simp [noError, Except.toOption]
    | ok command => simp [Except.toOption]
  · rw [if_neg isCommand, if_neg isCommand, if_neg isCommand]
    cases decodeMessageFrame frame.payload with
    | error exc => simp [noError, Except.toOption]
    | ok message => simp [Except.toOption]

theorem exists_entryOfNotification_iff
    (noError : ∀ exc, ¬ holds (.decodeFailed exc))
    (notification : Notification) :
    (∃ entry ∈ entriesOf (.notified notification), holds entry) ↔
      holds (.notify notification.sender notification.data) ∨
        holds (.notifyDecoded notification.data) ∨
          ∃ frame ∈ framesOf notification, ∃ entry ∈ entriesOfFrame frame, holds entry := by
  rw [entriesOf, framesOf, List.exists_mem_cons_iff, List.exists_mem_cons_iff]
  refine or_congr_right (or_congr_right ?_)
  cases splitFrames notification.data with
  | error exc => simp [noError, Except.toOption]
  | ok frames =>
      simp only [Except.toOption, Option.getD_some]
      exact exists_mem_flatMap

/-- What is in the log of a session. -/
theorem exists_entry_iff
    {address : Text}
    (noAddress : ¬ holds (.connected address))
    (noError : ∀ exc, ¬ holds (.decodeFailed exc)) :
    (∃ entry ∈ entries address events, holds entry) ↔
      (∃ notification, SessionEvent.notified notification ∈ events ∧
        (holds (.notify notification.sender notification.data) ∨
          holds (.notifyDecoded notification.data))) ∨
      (∃ frame ∈ receivedFrames events, holds (.frame frame) ∨
        (∃ command, commandOf frame = some command ∧ holds (.recv command)) ∨
          ∃ message, messageOf frame = some message ∧ holds (.message message)) ∨
      ∃ packet ∈ sentPackets events, holds (.send packet) := by
  have byEvent : (∃ entry ∈ entries address events, holds entry) ↔
      ∃ event ∈ events, ∃ entry ∈ entriesOf event, holds entry := by
    rw [entries, List.exists_mem_cons_iff, or_iff_right noAddress]
    exact exists_mem_flatMap
  rw [byEvent]
  simp only [← exists_entryOfFrame_iff noError]
  constructor
  · rintro ⟨event, isEvent, inEvent⟩
    cases event with
    | notified notification =>
        rcases (exists_entryOfNotification_iff noError notification).mp inEvent with
          inText | inSummary | ⟨frame, isFrame, inFrame⟩
        · exact Or.inl ⟨notification, isEvent, Or.inl inText⟩
        · exact Or.inl ⟨notification, isEvent, Or.inr inSummary⟩
        · exact Or.inr (Or.inl
            ⟨frame, mem_receivedFrames.mpr ⟨notification, isEvent, isFrame⟩, inFrame⟩)
    | sent packet =>
        obtain ⟨entry, isEntry, shows⟩ := inEvent
        rw [List.mem_singleton.mp isEntry] at shows
        exact Or.inr (Or.inr ⟨packet, mem_sentPackets.mpr isEvent, shows⟩)
  · rintro (⟨notification, isEvent, inNotification⟩ | ⟨frame, isFrame, inFrame⟩ |
      ⟨packet, isPacket, shows⟩)
    · refine ⟨.notified notification, isEvent,
        (exists_entryOfNotification_iff noError notification).mpr ?_⟩
      exact inNotification.imp id Or.inl
    · obtain ⟨notification, isEvent, ofNotification⟩ := mem_receivedFrames.mp isFrame
      exact ⟨.notified notification, isEvent,
        (exists_entryOfNotification_iff noError notification).mpr
          (Or.inr (Or.inr ⟨frame, ofNotification, inFrame⟩))⟩
    · exact ⟨.sent packet, mem_sentPackets.mp isPacket, .send packet, List.mem_cons_self, shows⟩

/-! ## What the log shows -/

variable {now : Nat -> DateTime} {address : CheckedAddress}

theorem exists_in_log_iff
    {inLine : Text -> Prop}
    (each : ∀ entry front, Plain front -> Admitted entry ->
      (inLine (front ++ entry.text) ↔ holds entry)) :
    (∃ line ∈ linesFrom now 0 (entries address.text events), inLine line) ↔
      ∃ entry ∈ entries address.text events, holds entry :=
  exists_line_iff (fun entry isEntry front frontPlain =>
    each entry front frontPlain (admitted_of_mem isEntry)) 0

theorem command_in_log (command : Command) :
    commandRepr command <:+: logText now address.text events ↔
      command ∈ receivedCommands events ∨
        ∃ text ∈ notifyTexts events, commandRepr command <:+: text := by
  have oneLine : '\n' ∉ commandRepr command :=
    notMem_commandRepr (List.mem_cons_of_mem _ List.mem_cons_self) command
  have nonempty : commandRepr command ≠ [] := by
    rw [commandRepr_label]
    exact List.append_ne_nil_of_right_ne_nil _ (List.cons_ne_nil _ _)
  rw [logText_eq, Text.infix_unlines nonempty oneLine,
    exists_in_log_iff fun entry front frontPlain admitted =>
      command_in_entry frontPlain admitted command,
    exists_entry_iff (show ¬ ShowsCommand command (.connected address.text) from id)
      (fun exc => show ¬ ShowsCommand command (.decodeFailed exc) from id)]
  rw [receivedCommands, List.mem_filterMap]
  constructor
  · rintro (⟨notification, isEvent, inText | ⟨frames, splits, frame, isFrame, carries⟩⟩ |
      ⟨frame, isFrame, isNothing | ⟨other, carries, rfl⟩ | ⟨_, _, isNothing⟩⟩ | ⟨_, _, isNothing⟩)
    · exact Or.inr ⟨_, mem_notifyTexts.mpr ⟨notification, isEvent, rfl⟩, inText⟩
    · have ofNotification : frame ∈ framesOf notification := by
        rw [framesOf, splits]
        exact isFrame
      exact Or.inl ⟨frame, mem_receivedFrames.mpr ⟨notification, isEvent, ofNotification⟩, carries⟩
    · exact isNothing.elim
    · exact Or.inl ⟨frame, isFrame, carries⟩
    · exact isNothing.elim
    · exact isNothing.elim
  · rintro (⟨frame, isFrame, carries⟩ | ⟨text, isText, inText⟩)
    · exact Or.inr (Or.inl ⟨frame, isFrame, Or.inr (Or.inl ⟨command, carries, rfl⟩)⟩)
    · obtain ⟨notification, isEvent, rfl⟩ := mem_notifyTexts.mp isText
      exact Or.inl ⟨notification, isEvent, Or.inl inText⟩

theorem packet_in_log
    {digits : Text}
    (oneLine : '\n' ∉ digits) :
    "send hex=".toList ++ digits <:+: Text.lower (logText now address.text events) ↔
      (∃ packet ∈ sentPackets events, digits <+: (Bytes.hex packet).toList) ∨
        ∃ text ∈ notifyTexts events, "send hex=".toList ++ digits <:+: Text.lower text := by
  have word_eq : "send hex=".toList ++ digits = "send hex".toList ++ '=' :: digits := rfl
  have wordLine : '\n' ∉ "send hex=".toList ++ digits :=
    notMem_append (by decide) oneLine
  rw [logText_eq, Text.lower_unlines, Text.infix_unlines (by rw [word_eq]; simp) wordLine]
  simp only [List.mem_map, exists_exists_and_eq_and]
  rw [word_eq, exists_in_log_iff fun entry front frontPlain admitted =>
      packet_in_entry frontPlain admitted digits,
    exists_entry_iff (show ¬ ShowsPacket digits (.connected address.text) from id)
      (fun exc => show ¬ ShowsPacket digits (.decodeFailed exc) from id)]
  constructor
  · rintro (⟨notification, isEvent, inText | isNothing⟩ |
      ⟨frame, isFrame, isNothing | ⟨_, _, isNothing⟩ | ⟨_, _, isNothing⟩⟩ | sent)
    · exact Or.inr ⟨_, mem_notifyTexts.mpr ⟨notification, isEvent, rfl⟩, inText⟩
    · exact isNothing.elim
    · exact isNothing.elim
    · exact isNothing.elim
    · exact isNothing.elim
    · exact Or.inl sent
  · rintro (sent | ⟨text, isText, inText⟩)
    · exact Or.inr (Or.inr sent)
    · obtain ⟨notification, isEvent, rfl⟩ := mem_notifyTexts.mp isText
      exact Or.inl ⟨notification, isEvent, Or.inl inText⟩

theorem mem_endedPayloads {payload : Bytes} :
    payload ∈ endedPayloads events ↔
      ∃ frame ∈ receivedFrames events, (frame.channel = .channel1 ∧ frame.endOfChannel = true) ∧
        frame.payload = payload := by
  simp only [endedPayloads, List.mem_map, List.mem_filter, decide_eq_true_eq, and_assoc]

theorem frame_in_log {frameHex : Text} :
    frameHex ∈ frameHexes (logText now address.text events) ↔
      (∃ payload ∈ endedPayloads events, payload ≠ [] ∧ (Bytes.hex payload).toList = frameHex) ∨
        ∃ text ∈ notifyTexts events, frameHex ∈ frameHexes text := by
  have byLine : frameHex ∈ frameHexes (logText now address.text events) ↔
      ∃ line ∈ linesFrom now 0 (entries address.text events),
        frameHex ∈ (CHANNEL1_PATTERN.findAll line).map Text.lower := by
    rw [frameHexes, logText_eq, Regex.findAll_unlines withinLine_CHANNEL1_PATTERN
      nullable_CHANNEL1_PATTERN, List.map_flatMap, List.mem_flatMap]
  have byEntry (entry : Entry) (front : Text) (frontPlain : Plain front)
      (admitted : Admitted entry) :
      frameHex ∈ (CHANNEL1_PATTERN.findAll (front ++ entry.text)).map Text.lower ↔
        frameHex ∈ (shownFrames entry).map Text.lower := by
    rw [frames_in_entry frontPlain admitted]
  rw [byLine, exists_in_log_iff byEntry,
    exists_entry_iff (show frameHex ∉ (shownFrames (.connected address.text)).map Text.lower
      from List.not_mem_nil) (fun exc => show frameHex ∉ (shownFrames (.decodeFailed exc)).map
        Text.lower from List.not_mem_nil)]
  have inFrame (frame : Frame) : frameHex ∈ (shownFrames (.frame frame)).map Text.lower ↔
      (frame.channel = .channel1 ∧ frame.endOfChannel = true ∧ frame.payload ≠ []) ∧
        (Bytes.hex frame.payload).toList = frameHex := by
    rw [shownFrames]
    split
    case isTrue ended =>
      rw [List.map_singleton, List.mem_singleton, lower_hex, and_iff_right ended, eq_comm]
    case isFalse notEnded => exact iff_of_false List.not_mem_nil fun both => notEnded both.1
  constructor
  · rintro (⟨notification, isEvent, inText | isNothing⟩ |
      ⟨frame, isFrame, shown | ⟨_, _, isNothing⟩ | ⟨_, _, isNothing⟩⟩ | ⟨_, _, isNothing⟩)
    · exact Or.inr ⟨_, mem_notifyTexts.mpr ⟨notification, isEvent, rfl⟩, inText⟩
    · cases isNothing
    · obtain ⟨⟨isChannel, isEnd, nonempty⟩, hex_eq⟩ := (inFrame frame).mp shown
      exact Or.inl ⟨frame.payload,
        mem_endedPayloads.mpr ⟨frame, isFrame, ⟨isChannel, isEnd⟩, rfl⟩, nonempty, hex_eq⟩
    · cases isNothing
    · cases isNothing
    · cases isNothing
  · rintro (⟨payload, isPayload, nonempty, hex_eq⟩ | ⟨text, isText, inText⟩)
    · obtain ⟨frame, isFrame, ⟨isChannel, isEnd⟩, rfl⟩ := mem_endedPayloads.mp isPayload
      exact Or.inr (Or.inl ⟨frame, isFrame, Or.inl
        ((inFrame frame).mpr ⟨⟨isChannel, isEnd, nonempty⟩, hex_eq⟩)⟩)
    · obtain ⟨notification, isEvent, rfl⟩ := mem_notifyTexts.mp isText
      exact Or.inl ⟨notification, isEvent, Or.inl inText⟩

end Session

/-! ## Agreement -/

section Agreement

variable {now : Nat -> DateTime} {address : CheckedAddress} {events : List SessionEvent}

theorem Meets.imp
    {command command' : Command -> Prop} {packet packet' frame frame' : String -> Prop}
    (meets : Meets command packet frame)
    (commandImp : ∀ expected, command expected -> command' expected)
    (packetImp : ∀ packetHex, packet packetHex -> packet' packetHex)
    (frameImp : ∀ frameHex, frame frameHex -> frame' frameHex) :
    Meets command' packet' frame' where
  mcsp expected isExpected := commandImp expected (meets.mcsp expected isExpected)
  send packetHex isExpected := packetImp packetHex (meets.send packetHex isExpected)
  frames frameHex isExpected := frameImp frameHex (meets.frames frameHex isExpected)
  groups group isExpected := by
    obtain ⟨option, isOption, shown⟩ := meets.groups group isExpected
    exact ⟨option, isOption, frameImp option shown⟩

/-- What is complete also looks complete. -/
theorem imitated_of_complete
    (complete : Complete events) :
    Imitated events := by
  refine Meets.imp complete (fun _ received => Or.inl received) ?_ (fun _ ended => Or.inl ended)
  rintro _ ⟨packet, isPacket, rfl⟩
  exact Or.inl ⟨packet, isPacket, List.prefix_rfl⟩

/-- The validator finds all that it expects where the session looks complete. -/
theorem shows_iff :
    Shows (logText now address.text events) ↔ Imitated events := by
  have sendLine : ∀ packetHex ∈ SEND_EXPECTATIONS, '\n' ∉ packetHex.toList := by decide
  have framesLonger : ∀ frameHex ∈ FRAME_EXPECTATIONS, frameHex ≠ "" := by decide
  have optionsLonger : ∀ group ∈ FRAME_GROUP_EXPECTATIONS, ∀ option ∈ group.2, option ≠ "" := by
    decide
  have inLog {frameHex : String} (longer : frameHex ≠ "") :
      frameHex.toList ∈ frameHexes (logText now address.text events) ↔
        (∃ payload ∈ endedPayloads events, Bytes.hex payload = frameHex) ∨
          ∃ text ∈ notifyTexts events, frameHex.toList ∈ frameHexes text := by
    rw [frame_in_log]
    refine or_congr_left (exists_congr fun payload => and_congr_right fun _ => ?_)
    rw [String.toList_inj]
    refine and_iff_right_of_imp ?_
    rintro rfl rfl
    exact longer rfl
  have mcsp_iff : (∀ entry ∈ MCSP_EXPECTATIONS,
        entry.toList <:+: logText now address.text events) ↔
      ∀ expected ∈ expectedCommands,
        commandRepr expected <:+: logText now address.text events := by
    have mapped := congrArg (fun texts : List Text =>
      ∀ text ∈ texts, text <:+: logText now address.text events) MCSP_EXPECTATIONS_eq
    simpa only [List.forall_mem_map, eq_iff_iff] using mapped
  constructor
  · rintro ⟨mcsp, send, frames, groups⟩
    refine ⟨?_, ?_, ?_, ?_⟩
    · intro expected isExpected
      exact (command_in_log expected).mp (mcsp_iff.mp mcsp expected isExpected)
    · intro packetHex isExpected
      exact (packet_in_log (sendLine packetHex isExpected)).mp (send packetHex isExpected)
    · intro frameHex isExpected
      exact (inLog (framesLonger frameHex isExpected)).mp (frames frameHex isExpected)
    · intro group isExpected
      obtain ⟨option, isOption, shown⟩ := groups group isExpected
      exact ⟨option, isOption, (inLog (optionsLonger group isExpected option isOption)).mp shown⟩
  · rintro ⟨mcsp, send, frames, groups⟩
    refine ⟨?_, ?_, ?_, ?_⟩
    · refine mcsp_iff.mpr fun expected isExpected => ?_
      exact (command_in_log expected).mpr (mcsp expected isExpected)
    · intro packetHex isExpected
      exact (packet_in_log (sendLine packetHex isExpected)).mpr (send packetHex isExpected)
    · intro frameHex isExpected
      exact (inLog (framesLonger frameHex isExpected)).mpr (frames frameHex isExpected)
    · intro group isExpected
      obtain ⟨option, isOption, shown⟩ := groups group isExpected
      exact ⟨option, isOption, (inLog (optionsLonger group isExpected option isOption)).mpr shown⟩

theorem decodeMessageText_hex (payload : Bytes) :
    decodeMessageText (Bytes.hex payload).toList = decodeMessageFrame payload := by
  rw [decodeMessageText, Bytes.fromHex_hex]
  rfl

/-- The validator returns where all the frames that it finds decode. -/
theorem returns_iff :
    (∃ result, validateHandshakeLog (logText now address.text events) = .ok result) ↔
      (∀ payload ∈ endedPayloads events, payload ≠ [] ->
        ∃ message, decodeMessageFrame payload = .ok message) ∧
      ∀ text ∈ notifyTexts events, ∀ frameHex ∈ frameHexes text,
        ∃ message, decodeMessageText frameHex = .ok message := by
  rw [validateHandshakeLog_returns_iff]
  constructor
  · intro decodes
    constructor
    · intro payload isPayload nonempty
      rw [← decodeMessageText_hex]
      exact decodes _ (frame_in_log.mpr (Or.inl ⟨payload, isPayload, nonempty, rfl⟩))
    · intro text isText frameHex shown
      exact decodes frameHex (frame_in_log.mpr (Or.inr ⟨text, isText, shown⟩))
  · rintro ⟨payloadsDecode, textsDecode⟩ frameHex shown
    rcases frame_in_log.mp shown with ⟨payload, isPayload, nonempty, rfl⟩ | ⟨text, isText, inText⟩
    · rw [decodeMessageText_hex]
      exact payloadsDecode payload isPayload nonempty
    · exact textsDecode text isText frameHex inText

/-- The validator agrees with the log of a session exactly where its frames decode and
nothing that it expects is only imitated. -/
theorem validateHandshakeLog_agrees_iff
    (now : Nat -> DateTime)
    (address : CheckedAddress)
    (events : List SessionEvent) :
    Agrees now address.text events ↔ Undisturbed events := by
  constructor
  · rintro ⟨result, returns, agrees⟩
    obtain ⟨decodes, textDecodes⟩ := returns_iff.mp ⟨result, returns⟩
    refine ⟨decodes, textDecodes, fun imitated => ?_⟩
    exact agrees.mp ((passed_iff returns).mpr (shows_iff.mpr imitated))
  · rintro ⟨decodes, textDecodes, genuine⟩
    obtain ⟨result, returns⟩ := (@returns_iff now address events).mpr ⟨decodes, textDecodes⟩
    refine ⟨result, returns, (passed_iff returns).trans (shows_iff.trans ?_)⟩
    exact ⟨genuine, imitated_of_complete⟩

end Agreement

/-- A frame that ends CHANNEL1 with one byte is logged as it is, and as a decoding error
of the session, and the validator raises on it. -/
theorem validateHandshakeLog_oneByte :
    ¬ Agrees (fun _ => ⟨2026, 4, 20, 15, 9, 14⟩) "AA:BB:CC:DD:EE:FF".toList
      [.notified ⟨"00000011-eaa2-11e9-81b4-2a2ae2dbcce4 (Handle: 12): Unknown",
        [0x30, 0x01, 0x12]⟩] := by
  have checked : (BLE_ADDRESS_RE.matchAt none "AA:BB:CC:DD:EE:FF".toList).isSome = true := by
    decide
  rintro ⟨result, returns, -⟩
  have decodes := ((@returns_iff _ ⟨_, checked⟩ _).mp ⟨result, returns⟩).1
  have isPayload : [0x12] ∈ endedPayloads [.notified
      ⟨"00000011-eaa2-11e9-81b4-2a2ae2dbcce4 (Handle: 12): Unknown", [0x30, 0x01, 0x12]⟩] := by
    decide
  obtain ⟨message, decoded⟩ := decodes [0x12] isPayload (List.cons_ne_nil _ _)
  cases decoded

end ValidateLive
end BoschBle
