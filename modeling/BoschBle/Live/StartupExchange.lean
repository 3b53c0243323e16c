import BoschBle.Foundation.Exchange
import BoschBle.Handshake.StartupResponse
import BoschBle.Live.Session

/-!
# The startup exchange

Everything that a session sends is a command or a response or a notification,
and the responder answers requests only.  Two peers that run the responder
therefore exchange one round of replies.
-/

namespace BoschBle
namespace Live

open Foundation Mcsp MessageBus Handshake

/-- The message that the responder is called with, if any, is the one that the
frame carries. -/
def Given (frame : Frame) (decoded : Option MessageFrame) : Prop :=
  ∀ message ∈ decoded, decodeMessageFrame frame.payload = .ok message

theorem given_none (frame : Frame) : Given frame none := by
  intro message isGiven
  cases isGiven

theorem Given.none_or_some
    {frame : Frame} {decoded : Option MessageFrame} {message : MessageFrame}
    (given : Given frame decoded)
    (decodes : decodeMessageFrame frame.payload = .ok message) :
    decoded = none ∨ decoded = some message := by
  cases decoded with
  | none => exact Or.inl rfl
  | some other =>
      have otherDecodes := given other rfl
      rw [decodes, Except.ok.injEq] at otherDecodes
      exact Or.inr (congrArg some otherDecodes.symm)

/-- The packets that a session can put into its send queue. -/
inductive Enqueued : Bytes -> Prop
  | handshake
      {commands : List Command} {localPacketSize : Nat}
      {packets : List Bytes} {packet : Bytes}
      (builds : buildHandshakeResponse commands localPacketSize = .ok packets)
      (present : packet ∈ packets) : Enqueued packet
  | startup
      {frame : Frame} {decoded : Option MessageFrame}
      {packets : List Bytes} {packet : Bytes}
      (given : Given frame decoded)
      (builds : buildStartupResponsePackets frame decoded = .ok packets)
      (present : packet ∈ packets) : Enqueued packet

/-- The responder does not answer the frames of a packet. -/
def Unanswered (packet : Bytes) : Prop :=
  ∃ frames, splitFrames packet = .ok frames ∧
    ∀ frame ∈ frames, ∀ decoded, Given frame decoded ->
      buildStartupResponsePackets frame decoded = .ok []

/-! ## Frames that are not answered -/

/-- A message that asks for nothing. -/
def AsksNothing : MessageFrame -> Prop
  | .notify _ => True
  | .directed message => responseTypeOf message.messageType = none

theorem responseTypeOf_of_isResponseType
    {type : MessageType}
    (response : isResponseType type) :
    responseTypeOf type = none := by
  cases type <;> first | rfl | cases response

/-- Frames of the command channel are not answered. -/
theorem unanswered_command
    {frame : Frame}
    (isCommand : frame.channel = .command)
    (decoded : Option MessageFrame) :
    buildStartupResponsePackets frame decoded = .ok [] := by
  rw [buildStartupResponsePackets, if_pos isCommand]

/-- Messages that ask for nothing are not answered. -/
theorem unanswered_message
    {frame : Frame} {message : MessageFrame} {decoded : Option MessageFrame}
    (decodes : decodeMessageFrame frame.payload = .ok message)
    (asksNothing : AsksNothing message)
    (given : Given frame decoded) :
    buildStartupResponsePackets frame decoded = .ok [] := by
  by_cases isCommand : frame.channel = .command
  · exact unanswered_command isCommand decoded
  · have isGiven : decoded = none ∨ decoded = some message := by
      cases decoded with
      | none => exact Or.inl rfl
      | some other =>
          have otherDecodes := given other rfl
          rw [decodes, Except.ok.injEq] at otherDecodes
          exact Or.inr (congrArg some otherDecodes.symm)
    cases message with
    | notify notification =>
        rw [buildStartupResponsePackets, if_neg isCommand]
        rcases isGiven with rfl | rfl
        · simp only [decodes]
          rfl
        · rfl
    | directed request =>
        obtain ⟨packets, builds, answers⟩ := buildStartupResponsePackets_answers
          frame request isCommand decodes decoded isGiven
        have none : responseTypeOf request.messageType = none := asksNothing
        rw [Answers, none] at answers
        rw [builds, answers]

theorem splitFrames_of_encodeFrame
    {frame : Frame} {packet : Bytes}
    (encodes : encodeFrame frame = .ok packet) :
    splitFrames packet = .ok [frame] := by
  obtain ⟨fits, rfl⟩ := encodeFrame_eq_ok_iff.mp encodes
  have splits := splitFrames_encodeAll (List.forall_mem_singleton.mpr fits)
  rwa [RecordFormat.encodeAll_cons, RecordFormat.encodeAll_nil,
    List.append_nil] at splits

/-- A packet that carries a message which asks for nothing is not answered. -/
theorem Unanswered.of_carries
    {packet : Bytes} {channel : McspChannel} {message : MessageFrame}
    (carries : Carries packet channel message)
    (asksNothing : AsksNothing message) : Unanswered packet := by
  obtain ⟨response, splits, decodes⟩ := carries
  refine ⟨_, splits, ?_⟩
  rw [List.forall_mem_singleton]
  intro decoded given
  exact unanswered_message decodes asksNothing given

/-- A command packet is not answered. -/
theorem Unanswered.of_encodeCommandFrame
    {command : Command} {packet : Bytes}
    (encodes : encodeCommandFrame command = .ok packet) : Unanswered packet := by
  rw [encodeCommandFrame] at encodes
  cases payload_eq : encodeCommand command with
  | error exc =>
      rw [payload_eq] at encodes
      cases encodes
  | ok payload =>
      rw [payload_eq] at encodes
      refine ⟨_, splitFrames_of_encodeFrame encodes, ?_⟩
      rw [List.forall_mem_singleton]
      intro decoded _
      exact unanswered_command rfl decoded

/-- The answers to a request ask for nothing. -/
theorem exists_carries_of_answers
    {request : DirectedFrame} {channel : McspChannel}
    {packets : List Bytes} {packet : Bytes}
    (answers : Answers request channel packets)
    (present : packet ∈ packets) :
    ∃ message, Carries packet channel message ∧ AsksNothing message := by
  unfold Answers at answers
  cases type_eq : responseTypeOf request.messageType with
  | none =>
      rw [type_eq] at answers
      rw [answers] at present
      cases present
  | some responseType =>
      rw [type_eq] at answers
      obtain ⟨first, rest, rfl, carries, restAnswers⟩ := answers
      have response := isResponseType_of_responseTypeOf type_eq
      rcases List.mem_cons.mp present with rfl | inRest
      · exact ⟨_, carries, responseTypeOf_of_isResponseType response⟩
      · split at restAnswers
        · obtain ⟨notification, payload, rfl, _, notifies⟩ := restAnswers
          rw [List.mem_singleton.mp inRest]
          exact ⟨_, notifies, trivial⟩
        · rw [restAnswers] at inRest
          cases inRest

/-- The packets of the responder ask for nothing. -/
theorem Unanswered.of_startup
    {frame : Frame} {decoded : Option MessageFrame}
    {packets : List Bytes} {packet : Bytes}
    (given : Given frame decoded)
    (builds : buildStartupResponsePackets frame decoded = .ok packets)
    (present : packet ∈ packets) : Unanswered packet := by
  have notNil : packets ≠ [] := List.ne_nil_of_mem present
  by_cases isCommand : frame.channel = .command
  · rw [unanswered_command isCommand decoded] at builds
    exact absurd (Except.ok.inj builds).symm notNil
  · have decodes : ∃ message, decodeMessageFrame frame.payload = .ok message := by
      cases decoded with
      | some message => exact ⟨message, given message rfl⟩
      | none =>
          cases inner : decodeMessageFrame frame.payload with
          | ok message => exact ⟨message, rfl⟩
          | error exc =>
              rw [buildStartupResponsePackets, if_neg isCommand, inner] at builds
              cases builds
    obtain ⟨message, decodes⟩ := decodes
    cases message with
    | notify notification =>
        rw [unanswered_message decodes trivial given] at builds
        exact absurd (Except.ok.inj builds).symm notNil
    | directed request =>
        obtain ⟨built, builds', answers⟩ := buildStartupResponsePackets_answers
          frame request isCommand decodes decoded (given.none_or_some decodes)
        rw [builds, Except.ok.injEq] at builds'
        subst builds'
        obtain ⟨message, carries, asksNothing⟩ :=
          exists_carries_of_answers answers present
        exact Unanswered.of_carries carries asksNothing

/-- Nothing that a session sends is answered. -/
theorem Enqueued.unanswered
    {packet : Bytes}
    (enqueued : Enqueued packet) : Unanswered packet := by
  cases enqueued with
  | handshake builds present =>
      obtain ⟨command, _, encodes⟩ := exists_of_mem_mapM builds present
      exact Unanswered.of_encodeCommandFrame encodes
  | startup given builds present => exact Unanswered.of_startup given builds present

/-! ## Two peers -/

/-- The two sides of a connection. -/
inductive Side
  | phone
  | bike
  deriving DecidableEq

/-- The other side. -/
def Side.other : Side -> Side
  | .phone => .bike
  | .bike => .phone

/-- A session whose only callback is the responder. -/
def responderCallbacks : Callbacks Unit where
  startupResponder := some fun frame decoded =>
    buildStartupResponsePackets frame (some decoded)

/-- What a side sends back when a packet is delivered to it. -/
def replies (message : Side × Bytes) : List (Side × Bytes) :=
  (repliesOf responderCallbacks ⟨"receive", message.2⟩).map fun packet =>
    (message.1.other, packet)

theorem mem_repliesTo
    {frame : Frame} {packet : Bytes}
    (answers : packet ∈ repliesTo responderCallbacks frame) :
    ∃ decoded packets, Given frame (some decoded) ∧
      buildStartupResponsePackets frame (some decoded) = .ok packets ∧
        packet ∈ packets := by
  unfold repliesTo at answers
  cases carried : messageOf frame with
  | none =>
      rw [carried] at answers
      cases answers
  | some decoded =>
      rw [carried] at answers
      change packet ∈
        ((buildStartupResponsePackets frame (some decoded)).toOption).getD []
          at answers
      obtain ⟨_, decodes⟩ := messageOf_eq_some carried
      cases builds : buildStartupResponsePackets frame (some decoded) with
      | error exc =>
          rw [builds] at answers
          cases answers
      | ok packets =>
          rw [builds] at answers
          refine ⟨decoded, packets, ?_, builds, answers⟩
          intro message isGiven
          obtain rfl := Option.some.inj isGiven
          exact decodes

/-- What a side sends back is enqueued by its session. -/
theorem enqueued_of_mem_replies
    {message reply : Side × Bytes}
    (isReply : reply ∈ replies message) : Enqueued reply.2 := by
  obtain ⟨packet, isPacket, rfl⟩ := List.mem_map.mp isReply
  obtain ⟨frame, _, answers⟩ := List.mem_flatMap.mp isPacket
  obtain ⟨decoded, packets, given, builds, present⟩ := mem_repliesTo answers
  exact Enqueued.startup given builds present

theorem replies_of_unanswered
    {message : Side × Bytes}
    (unanswered : Unanswered message.2) : replies message = [] := by
  obtain ⟨frames, splits, silent⟩ := unanswered
  rw [replies, List.map_eq_nil_iff, List.eq_nil_iff_forall_not_mem]
  intro packet isPacket
  obtain ⟨frame, isFrame, answers⟩ := List.mem_flatMap.mp isPacket
  obtain ⟨decoded, packets, given, builds, present⟩ := mem_repliesTo answers
  rw [framesOf, splits] at isFrame
  rw [silent frame isFrame _ given, Except.ok.injEq] at builds
  rw [← builds] at present
  cases present

theorem replies_answersOnce : Exchange.AnswersOnce replies := by
  intro message reply isReply
  exact replies_of_unanswered (enqueued_of_mem_replies isReply).unanswered

/-- No frame of a packet that a session enqueues is answered, so in every run of
two peers, in whatever order the packets of any initial list and their replies
are delivered, a packet in flight is an initial one or a reply to an initial
one, and there are no more deliveries than packets of these two kinds. -/
theorem startup_exchange_ends :
    (∀ packet, Enqueued packet ->
      ∃ frames, splitFrames packet = .ok frames ∧
        ∀ frame ∈ frames, ∀ decoded, Given frame decoded ->
          buildStartupResponsePackets frame decoded = .ok []) ∧
    (∀ (initial : List (Side × Bytes)) (events : List Nat)
      (final : Exchange.InFlight (Side × Bytes)),
      Run (Exchange.deliver replies) (fun _ _ => True) (Exchange.start initial)
          events final ->
        (∀ entry ∈ final, Exchange.FirstRound replies initial entry) ∧
          events.length ≤
            initial.length + (initial.flatMap replies).length) := by
  constructor
  · intro packet enqueued
    exact enqueued.unanswered
  · intro initial events final run
    obtain ⟨rounds, count⟩ := Exchange.run_firstRound replies_answersOnce run
    exact ⟨rounds, by omega⟩

/-- A subscription is answered by two packets, which end the exchange. -/
theorem startup_exchange_ends_subscription :
    (∃ frames, splitFrames [0x30, 0x02, 0xC0, 0xA3] = .ok frames ∧
      ∀ frame ∈ frames, ∀ decoded, Given frame decoded ->
        buildStartupResponsePackets frame decoded = .ok []) ∧
      [0, 0, 0].length ≤
        [(Side.phone, [0x30, 0x05, 0x20, 0x02, 0xC0, 0xA3, 0x60])].length +
          ([(Side.phone,
            [0x30, 0x05, 0x20, 0x02, 0xC0, 0xA3, (0x60 : UInt8)])].flatMap
              replies).length := by
  have builds : buildStartupResponsePackets
      (Frame.mk true .channel1 [0x20, 0x02, 0xC0, 0xA3, 0x60]) none =
        .ok [[0x30, 0x05, 0x40, 0xA3, 0xA0, 0x02, 0x70],
          [0x30, 0x02, 0xC0, 0xA3]] := by
    decide
  have run := Run.of_execute (Exchange.deliver replies) (fun _ _ => True)
    (Exchange.start
      [(Side.phone, [0x30, 0x05, 0x20, 0x02, 0xC0, 0xA3, (0x60 : UInt8)])])
    [0, 0, 0] (show _ = some [] by decide)
  have notification : Enqueued [0x30, 0x02, 0xC0, 0xA3] :=
    Enqueued.startup (given_none _) builds (List.mem_cons_of_mem _ List.mem_cons_self)
  exact ⟨startup_exchange_ends.1 _ notification,
    (startup_exchange_ends.2 _ _ _ run).2⟩

end Live
end BoschBle
