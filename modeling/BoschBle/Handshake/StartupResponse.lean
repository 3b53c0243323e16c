import BoschBle.Mcsp.FrameStream
import BoschBle.MessageBus.Codec

/-!
# Startup responses

During startup the peer reads, writes, calls and subscribes to addresses of
this side.  Every request gets one response packet on the channel it came in
on, and an accepted subscription is followed by one notification.
-/

namespace BoschBle
namespace Handshake

open Foundation Mcsp MessageBus

/-- Addresses that accept writes besides the providers. -/
def STARTUP_WRITE_ADDRESSES : List Nat := [0x40A9]

/-- Addresses that accept calls. -/
def STARTUP_RPC_ADDRESSES : List Nat := [0x409B, 0x409C]

/-- The messages that answer a directed message. -/
def startupResponses (decoded : DirectedFrame) : Except Exn (List Bytes) :=
  let payload := STARTUP_PROVIDER_PAYLOADS.lookup decoded.destination
  match decoded.messageType with
  | .read =>
      match payload with
      | none => do
          let response ← encodeReadResponse decoded [] .unsupported
          .ok [response]
      | some payload => do
          let response ← encodeReadResponse decoded payload
          .ok [response]
  | .subscribe =>
      match payload with
      | none => do
          let response ← encodeSubscribeResponse decoded [] .unsupported
          .ok [response]
      | some payload => do
          let response ← encodeSubscribeResponse decoded
          .ok [response, encodeNotify decoded.destination payload]
  | .unsubscribe =>
      match payload with
      | none => do
          let response ← encodeUnsubscribeResponse decoded [] .unsupported
          .ok [response]
      | some _ => do
          let response ← encodeUnsubscribeResponse decoded
          .ok [response]
  | .write =>
      if decoded.destination ∈ STARTUP_WRITE_ADDRESSES ∨
          (STARTUP_PROVIDER_PAYLOADS.lookup decoded.destination).isSome then do
        let response ← encodeWriteResponse decoded
        .ok [response]
      else do
        let response ← encodeWriteResponse decoded [] .unsupported
        .ok [response]
  | .rpc =>
      if decoded.destination ∈ STARTUP_RPC_ADDRESSES then do
        let response ← encodeRpcResponse decoded
        .ok [response]
      else do
        let response ← encodeRpcResponse decoded [] .unsupported
        .ok [response]
  | _ => .ok []

/-- Build the packets that answer a frame.  The caller may pass the message it
has already decoded. -/
def buildStartupResponsePackets
    (frame : Frame)
    (decoded : Option MessageFrame) : Except Exn (List Bytes) :=
  if frame.channel = .command then
    .ok []
  else do
    let decoded ←
      match decoded with
      | some message => .ok message
      | none => decodeMessageFrame frame.payload
    match decoded with
    | .notify _ => .ok []
    | .directed decoded => do
        let responses ← startupResponses decoded
        responses.mapM fun response =>
          encodeFrame
            { endOfChannel := true
              channel := frame.channel
              payload := response }

/-! ## What a request is answered with -/

/-- The response type of a request type. -/
def responseTypeOf : MessageType -> Option MessageType
  | .read => some .readResponse
  | .write => some .writeResponse
  | .rpc => some .rpcResponse
  | .subscribe => some .subscribeResponse
  | .unsubscribe => some .unsubscribeResponse
  | _ => none

/-- Whether an address accepts requests of a type. -/
def isSupported (type : MessageType) (destination : Nat) : Bool :=
  match type with
  | .read | .subscribe | .unsubscribe =>
      (STARTUP_PROVIDER_PAYLOADS.lookup destination).isSome
  | .write =>
      (STARTUP_PROVIDER_PAYLOADS.lookup destination).isSome ||
        destination == 0x40A9
  | .rpc => destination == 0x409B || destination == 0x409C
  | _ => false

/-- The message that answers a request. -/
def responseTo
    (request : DirectedFrame)
    (responseType : MessageType) : DirectedFrame where
  source := request.destination
  destination := request.source
  messageType := responseType
  sequence := request.sequence
  payload :=
    if request.messageType = .read then
      (STARTUP_PROVIDER_PAYLOADS.lookup request.destination).getD []
    else []
  statusCode :=
    if isSupported request.messageType request.destination then .success
    else .unsupported

/-- The packet is exactly one end-of-channel frame that carries the message. -/
def Carries
    (packet : Bytes)
    (channel : McspChannel)
    (message : MessageFrame) : Prop :=
  ∃ response,
    splitFrames packet =
      .ok [{ endOfChannel := true, channel := channel, payload := response }] ∧
    decodeMessageFrame response = .ok message

/-- The packets answer the request as the tables say. -/
def Answers
    (request : DirectedFrame)
    (channel : McspChannel)
    (packets : List Bytes) : Prop :=
  match responseTypeOf request.messageType with
  | none => packets = []
  | some responseType =>
      ∃ first rest, packets = first :: rest ∧
        Carries first channel (.directed (responseTo request responseType)) ∧
        if request.messageType = .subscribe ∧
            isSupported .subscribe request.destination then
          ∃ packet payload, rest = [packet] ∧
            STARTUP_PROVIDER_PAYLOADS.lookup request.destination =
              some payload ∧
            Carries packet channel
              (.notify { source := request.destination, payload := payload })
        else rest = []

theorem length_encodeAddress (address : Nat) (setMsb : Bool) :
    (encodeAddress address setMsb).length = 2 := rfl

/-- A response is at most six bytes longer than its payload. -/
theorem length_encodeResponse_le
    {request : DirectedFrame} {responseType : MessageType}
    {payload packet : Bytes} {statusCode : ResponseStatusCode}
    (encodes : encodeResponse request responseType payload statusCode =
      .ok packet) :
    packet.length ≤ payload.length + 6 := by
  unfold encodeResponse at encodes
  split at encodes
  case isTrue => cases encodes
  case isFalse =>
    cases encodes
    simp only [List.length_append, length_encodeAddress, List.length_singleton]
    split
    · simp only [List.length_singleton]
      omega
    · simp only [List.length_nil]
      omega

/-- Every provider payload is a few bytes long. -/
theorem length_provider_le
    {address : Nat} {payload : Bytes}
    (provides : STARTUP_PROVIDER_PAYLOADS.lookup address = some payload) :
    payload.length ≤ 8 := by
  have short : ∀ entry ∈ STARTUP_PROVIDER_PAYLOADS, entry.2.length ≤ 8 := by
    decide
  obtain ⟨before, after, entries_eq, _⟩ := List.lookup_eq_some_iff.mp provides
  apply short (address, payload)
  rw [entries_eq]
  exact List.mem_append_right before List.mem_cons_self

/-- So is the payload of every response. -/
theorem length_responseTo_le (request : DirectedFrame) (responseType : MessageType) :
    (responseTo request responseType).payload.length ≤ 8 := by
  unfold responseTo
  dsimp only
  split
  case isTrue =>
    cases provides : STARTUP_PROVIDER_PAYLOADS.lookup request.destination with
    | none => exact Nat.zero_le 8
    | some payload => exact length_provider_le provides
  case isFalse => exact Nat.zero_le 8

/-- Requests are answered by responses. -/
theorem isResponseType_of_responseTypeOf
    {type responseType : MessageType}
    (type_eq : responseTypeOf type = some responseType) :
    isResponseType responseType := by
  cases type <;> cases type_eq <;> rfl

/-- A message short enough for one frame travels in a packet of its own. -/
theorem encodeFrame_carries
    {response : Bytes} {message : MessageFrame}
    (channel : McspChannel)
    (short : response.length ≤ 4095)
    (decodes : decodeMessageFrame response = .ok message) :
    ∃ packet,
      encodeFrame { endOfChannel := true, channel := channel
                    payload := response } = .ok packet ∧
      Carries packet channel message := by
  refine ⟨_, encodeFrame_of_le short, response, ?_, decodes⟩
  have fits : ∀ frame ∈ [Frame.mk true channel response],
      frame.payload.length ≤ 4095 := by
    intro frame present
    rw [List.mem_singleton.mp present]
    exact short
  have splits := splitFrames_encodeAll fits
  rwa [RecordFormat.encodeAll_cons, RecordFormat.encodeAll_nil,
    List.append_nil] at splits

/-- Frame the answers of a request, all on the request's channel. -/
def frameResponses
    (channel : McspChannel)
    (responses : List Bytes) : Except Exn (List Bytes) :=
  responses.mapM fun response =>
    encodeFrame
      { endOfChannel := true, channel := channel, payload := response }

/-- Whatever the channel, the framed messages answer the request. -/
def MessagesAnswer
    (request : DirectedFrame)
    (responses : List Bytes) : Prop :=
  ∀ channel, ∃ packets,
    frameResponses channel responses = .ok packets ∧
      Answers request channel packets

section Request

variable {request : DirectedFrame}

/-- A response with a short payload is encoded and framed, and is read back
with the addresses of the request swapped. -/
theorem encodeResponse_carries
    {responseType : MessageType} {payload : Bytes}
    (inRange : request.InRange)
    (response : isResponseType responseType)
    (short : payload.length ≤ 8)
    (statusCode : ResponseStatusCode) :
    ∃ message,
      encodeResponse request responseType payload statusCode = .ok message ∧
      ∀ channel, ∃ packet,
        encodeFrame { endOfChannel := true, channel := channel
                      payload := message } = .ok packet ∧
        Carries packet channel
          (.directed
            { source := request.destination
              destination := request.source
              messageType := responseType
              sequence := request.sequence
              payload := payload
              statusCode := statusCode }) := by
  obtain ⟨message, encodes, decodes⟩ :=
    decodeMessageFrame_encodeResponse inRange response payload statusCode
  have length_le := length_encodeResponse_le encodes
  exact ⟨message, encodes, fun channel =>
    encodeFrame_carries channel (by omega) decodes⟩

/-- The notification behind an accepted subscription is framed and read back as
such. -/
theorem encodeNotify_carries
    {source : Nat} {payload : Bytes}
    (inRange : source < 2 ^ 15)
    (short : payload.length ≤ 8)
    (channel : McspChannel) :
    ∃ packet,
      encodeFrame { endOfChannel := true, channel := channel
                    payload := encodeNotify source payload } = .ok packet ∧
      Carries packet channel
        (.notify { source := source, payload := payload }) := by
  apply encodeFrame_carries channel
  · rw [encodeNotify, List.length_append, length_encodeAddress]
    omega
  · exact decodeMessageFrame_encodeNotify inRange payload

/-- A single response with the expected fields answers every request that is
not an accepted subscription. -/
theorem exists_single_answer
    (inRange : request.InRange)
    (responseType : MessageType)
    (payload : Bytes)
    (statusCode : ResponseStatusCode)
    (computes : startupResponses request = do
      let response ← encodeResponse request responseType payload statusCode
      .ok [response])
    (type_eq : responseTypeOf request.messageType = some responseType)
    (quiet : ¬(request.messageType = .subscribe ∧
      isSupported .subscribe request.destination))
    (expected : responseTo request responseType =
      { source := request.destination
        destination := request.source
        messageType := responseType
        sequence := request.sequence
        payload := payload
        statusCode := statusCode }) :
    ∃ responses, startupResponses request = .ok responses ∧
      MessagesAnswer request responses := by
  have short : payload.length ≤ 8 := by
    have length_le := length_responseTo_le request responseType
    rw [expected] at length_le
    exact length_le
  obtain ⟨message, encodes, carried⟩ :=
    encodeResponse_carries inRange (isResponseType_of_responseTypeOf type_eq)
      short statusCode
  refine ⟨[message], by rw [computes, encodes]; rfl, ?_⟩
  intro channel
  obtain ⟨packet, frames, carries⟩ := carried channel
  refine ⟨[packet], mapM_eq_ok_iff.mpr (.cons frames .nil), ?_⟩
  unfold Answers
  rw [type_eq]
  refine ⟨packet, [], rfl, ?_, ?_⟩
  · rw [expected]
    exact carries
  · rw [if_neg quiet]

/-- An accepted subscription is answered by a response and a notification. -/
theorem exists_subscribe_answer
    {payload : Bytes}
    (inRange : request.InRange)
    (type_eq : request.messageType = .subscribe)
    (provides : STARTUP_PROVIDER_PAYLOADS.lookup request.destination =
      some payload) :
    ∃ responses, startupResponses request = .ok responses ∧
      MessagesAnswer request responses := by
  have noBytes : ([] : Bytes).length ≤ 8 := by decide
  have response : isResponseType .subscribeResponse := rfl
  obtain ⟨message, encodes, carried⟩ :=
    encodeResponse_carries inRange response noBytes .success
  have computes : startupResponses request =
      .ok [message, encodeNotify request.destination payload] := by
    simp only [startupResponses, type_eq, provides, encodeSubscribeResponse,
      encodes]
    rfl
  refine ⟨_, computes, ?_⟩
  intro channel
  obtain ⟨first, firstFrames, firstCarries⟩ := carried channel
  obtain ⟨second, secondFrames, secondCarries⟩ :=
    encodeNotify_carries inRange.destination_lt (length_provider_le provides)
      channel
  refine ⟨[first, second],
    mapM_eq_ok_iff.mpr (.cons firstFrames (.cons secondFrames .nil)), ?_⟩
  unfold Answers
  rw [type_eq]
  refine ⟨first, [second], rfl, ?_, ?_⟩
  · have expected : responseTo request .subscribeResponse =
        { source := request.destination
          destination := request.source
          messageType := .subscribeResponse
          sequence := request.sequence
          payload := []
          statusCode := .success } := by
      simp [responseTo, isSupported, type_eq, provides]
    rw [expected]
    exact firstCarries
  · rw [if_pos ⟨rfl, by simp [isSupported, provides]⟩]
    exact ⟨second, payload, rfl, provides, secondCarries⟩

/-- Every directed message in range is answered as the tables say. -/
theorem startupResponses_answer
    (inRange : request.InRange) :
    ∃ responses, startupResponses request = .ok responses ∧
      MessagesAnswer request responses := by
  have answered := exists_single_answer inRange
  cases type_eq : request.messageType with
  | read =>
      cases provides : STARTUP_PROVIDER_PAYLOADS.lookup request.destination with
      | none =>
          apply answered .readResponse [] .unsupported
          · simp only [startupResponses, type_eq, provides, encodeReadResponse]
          · rw [type_eq, responseTypeOf]
          · simp [type_eq]
          · simp [responseTo, isSupported, type_eq, provides]
      | some payload =>
          apply answered .readResponse payload .success
          · simp only [startupResponses, type_eq, provides, encodeReadResponse]
          · rw [type_eq, responseTypeOf]
          · simp [type_eq]
          · simp [responseTo, isSupported, type_eq, provides]
  | subscribe =>
      cases provides : STARTUP_PROVIDER_PAYLOADS.lookup request.destination with
      | none =>
          apply answered .subscribeResponse [] .unsupported
          · simp only [startupResponses, type_eq, provides,
              encodeSubscribeResponse]
          · rw [type_eq, responseTypeOf]
          · simp [isSupported, provides]
          · simp [responseTo, isSupported, type_eq, provides]
      | some payload => exact exists_subscribe_answer inRange type_eq provides
  | unsubscribe =>
      cases provides : STARTUP_PROVIDER_PAYLOADS.lookup request.destination with
      | none =>
          apply answered .unsubscribeResponse [] .unsupported
          · simp only [startupResponses, type_eq, provides,
              encodeUnsubscribeResponse]
          · rw [type_eq, responseTypeOf]
          · simp [type_eq]
          · simp [responseTo, isSupported, type_eq, provides]
      | some payload =>
          apply answered .unsubscribeResponse [] .success
          · simp only [startupResponses, type_eq, provides,
              encodeUnsubscribeResponse]
          · rw [type_eq, responseTypeOf]
          · simp [type_eq]
          · simp [responseTo, isSupported, type_eq, provides]
  | write =>
      by_cases accepts : request.destination ∈ STARTUP_WRITE_ADDRESSES ∨
          (STARTUP_PROVIDER_PAYLOADS.lookup request.destination).isSome
      · have supported : isSupported .write request.destination = true := by
          rw [STARTUP_WRITE_ADDRESSES, List.mem_singleton] at accepts
          rw [isSupported, Bool.or_eq_true, beq_iff_eq]
          exact accepts.symm
        apply answered .writeResponse [] .success
        · simp only [startupResponses, type_eq, if_pos accepts,
            encodeWriteResponse]
        · rw [type_eq, responseTypeOf]
        · simp [type_eq]
        · simp [responseTo, type_eq, supported]
      · have unsupported : ¬isSupported .write request.destination = true := by
          rw [STARTUP_WRITE_ADDRESSES, List.mem_singleton] at accepts
          rw [isSupported, Bool.or_eq_true, beq_iff_eq]
          exact fun supported => accepts supported.symm
        apply answered .writeResponse [] .unsupported
        · simp only [startupResponses, type_eq, if_neg accepts,
            encodeWriteResponse]
        · rw [type_eq, responseTypeOf]
        · simp [type_eq]
        · simp [responseTo, type_eq, unsupported]
  | rpc =>
      have supported_iff : isSupported .rpc request.destination = true ↔
          request.destination ∈ STARTUP_RPC_ADDRESSES := by
        simp [isSupported, STARTUP_RPC_ADDRESSES]
      by_cases accepts : request.destination ∈ STARTUP_RPC_ADDRESSES
      · apply answered .rpcResponse [] .success
        · simp only [startupResponses, type_eq, if_pos accepts,
            encodeRpcResponse]
        · rw [type_eq, responseTypeOf]
        · simp [type_eq]
        · simp [responseTo, type_eq, supported_iff.mpr accepts]
      · have unsupported : isSupported .rpc request.destination = false := by
          rw [Bool.eq_false_iff, ne_eq, supported_iff]
          exact accepts
        apply answered .rpcResponse [] .unsupported
        · simp only [startupResponses, type_eq, if_neg accepts,
            encodeRpcResponse]
        · rw [type_eq, responseTypeOf]
        · simp [type_eq]
        · simp [responseTo, type_eq, unsupported]
  | _ =>
      refine ⟨[], by simp only [startupResponses, type_eq], ?_⟩
      intro channel
      exact ⟨[], rfl, by simp only [Answers, type_eq, responseTypeOf]⟩

end Request

/-- The packets of a directed message are its framed responses, whether it was
decoded before or not. -/
theorem buildStartupResponsePackets_eq
    {frame : Frame} {request : DirectedFrame} {decoded : Option MessageFrame}
    (notCommand : frame.channel ≠ .command)
    (decodes : decodeMessageFrame frame.payload = .ok (.directed request))
    (given : decoded = none ∨ decoded = some (.directed request)) :
    buildStartupResponsePackets frame decoded = (do
      let responses ← startupResponses request
      frameResponses frame.channel responses) := by
  rcases given with rfl | rfl
  · simp only [buildStartupResponsePackets, if_neg notCommand, decodes]
    rfl
  · simp only [buildStartupResponsePackets, if_neg notCommand]
    rfl

/-- A directed message that was decoded is answered. -/
theorem exists_answer
    {raw : Bytes} {request : DirectedFrame}
    (decodes : decodeMessageFrame raw = .ok (.directed request))
    (channel : McspChannel) :
    ∃ packets,
      (do
        let responses ← startupResponses request
        frameResponses channel responses) = .ok packets ∧
      Answers request channel packets := by
  have inRange := decodeDirectedFrame_inRange
    (decodeDirectedFrame_of_decodeMessageFrame decodes)
  obtain ⟨responses, computes, answers⟩ := startupResponses_answer inRange
  obtain ⟨packets, frames, answer⟩ := answers channel
  refine ⟨packets, ?_, answer⟩
  rw [computes]
  exact frames

/-- A message decoded from a non-command frame is always answered. -/
theorem exists_buildStartupResponsePackets
    {frame : Frame} {decoded : MessageFrame}
    (notCommand : frame.channel ≠ .command)
    (decodes : decodeMessageFrame frame.payload = .ok decoded) :
    ∃ packets, buildStartupResponsePackets frame (some decoded) = .ok packets := by
  cases decoded with
  | notify notification =>
      exact ⟨[], by rw [buildStartupResponsePackets, if_neg notCommand]; rfl⟩
  | directed request =>
      obtain ⟨packets, framed, _⟩ := exists_answer decodes frame.channel
      rw [buildStartupResponsePackets_eq notCommand decodes (Or.inr rfl)]
      exact ⟨packets, framed⟩

/-- `buildStartupResponsePackets` never raises on a non-command frame that
decodes to a directed message, and its packets answer that message: a request
gets one response with its addresses swapped, its sequence number, and the
status and payload that the tables give; an accepted subscription also gets one
notification; every other message gets nothing. -/
theorem buildStartupResponsePackets_answers
    (frame : Frame)
    (request : DirectedFrame)
    (notCommand : frame.channel ≠ .command)
    (decodes : decodeMessageFrame frame.payload = .ok (.directed request))
    (decoded : Option MessageFrame)
    (given : decoded = none ∨ decoded = some (.directed request)) :
    ∃ packets, buildStartupResponsePackets frame decoded = .ok packets ∧
      Answers request frame.channel packets := by
  obtain ⟨packets, framed, answer⟩ := exists_answer decodes frame.channel
  refine ⟨packets, ?_, answer⟩
  rw [buildStartupResponsePackets_eq notCommand decodes given]
  exact framed

/-- The recorded subscription to `PHONE_CHARGING` on the first channel. -/
theorem buildStartupResponsePackets_answers_subscription :
    ∃ packets,
      buildStartupResponsePackets
        (Frame.mk true .channel1 [0x20, 0x02, 0xC0, 0xA3, 0x60]) none =
          .ok packets ∧
      Answers
        { source := 0x2002, destination := 0x40A3, messageType := .subscribe
          sequence := 0, payload := [] } .channel1 packets :=
  buildStartupResponsePackets_answers
    (Frame.mk true .channel1 [0x20, 0x02, 0xC0, 0xA3, 0x60]) _ (by decide)
    (by decide) none (Or.inl rfl)

example :
    buildStartupResponsePackets
        (Frame.mk true .channel1 [0x20, 0x02, 0xC0, 0xA3, 0x60]) none =
      .ok [[0x30, 0x05, 0x40, 0xA3, 0xA0, 0x02, 0x70],
        [0x30, 0x02, 0xC0, 0xA3]] := by
  decide

end Handshake
end BoschBle
