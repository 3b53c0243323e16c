import BoschBle.Foundation.AsyncQueue
import BoschBle.Live.Handshake
import BoschBle.MessageBus.Codec

/-!
# A live MCSP session

The session reacts to notifications: it collects the commands of the peer,
lets a responder answer the messages, and resolves the handshake future.  The
callbacks run on a world of their own and may raise at any point; what the
session has done before is kept.  `notifyHandler_returns` says what a
notification does to the session when its callbacks return.
-/

namespace BoschBle
namespace Live

open Foundation Mcsp MessageBus

/-- A notification as the client library delivers it. -/
structure Notification where
  /-- The sender that the library reports. -/
  sender : String
  /-- The bytes of the notification. -/
  data : Bytes
  deriving DecidableEq

/-- What a decode error is reported about. -/
inductive Undecoded
  | payload (data : Bytes)
  | frame (frame : Frame)

/-- The callbacks of a session, each of which may be missing. -/
structure Callbacks (World : Type) where
  startupResponder :
    Option (Frame -> MessageFrame -> Except Exn (List Bytes)) := none
  onNotify : Option (String -> Bytes -> Effect World Unit) := none
  onFrame : Option (Frame -> Effect World Unit) := none
  onCommand : Option (Command -> Effect World Unit) := none
  onMessage : Option (Frame -> MessageFrame -> Effect World Unit) := none
  onDecodeError : Option (Undecoded -> Exn -> Effect World Unit) := none
  onSend : Option (Bytes -> Effect World Unit) := none

/-- The mutable fields of a session. -/
structure McspLiveSession where
  /-- Packets to send; `none` asks the writer to end. -/
  sendQueue : AsyncQueue (Option Bytes) := .empty
  /-- Startup packets held back until the handshake is answered. -/
  startupPacketsPending : List Bytes := []
  /-- The commands received so far. -/
  handshakeCommands : List Command := []
  /-- Whether the handshake has been answered. -/
  startupReady : Bool := false
  /-- Resolved with the commands of the handshake. -/
  handshakeFuture : Future (List Command) := .pending

namespace McspLiveSession

/-- Put packets into the send queue. -/
def queuePackets
    (session : McspLiveSession)
    (packets : List Bytes) : McspLiveSession :=
  { session with sendQueue := session.sendQueue.putAll (packets.map some) }

/-- Queue the reply to a handshake and the packets held back for it. -/
def queueHandshakeResponse
    (session : McspLiveSession)
    (commands : List Command) : Except Exn McspLiveSession := do
  let response ← buildHandshakeResponse commands
  let session := session.queuePackets response
  let session := { session with startupReady := true }
  if session.startupPacketsPending ≠ [] then
    let session := session.queuePackets session.startupPacketsPending
    .ok { session with startupPacketsPending := [] }
  else
    .ok session

/-- Send startup packets, or hold them back. -/
def acceptPackets
    (session : McspLiveSession)
    (packets : List Bytes) : McspLiveSession :=
  if packets = [] then session
  else if session.startupReady then session.queuePackets packets
  else
    { session with
      startupPacketsPending := session.startupPacketsPending ++ packets }

/-- Record a command. -/
def recordCommand
    (session : McspLiveSession)
    (command : Command) : McspLiveSession :=
  { session with handshakeCommands := session.handshakeCommands ++ [command] }

/-- Resolve the handshake future once the handshake is complete. -/
def checkHandshake (session : McspLiveSession) : McspLiveSession :=
  if ¬session.handshakeFuture.done ∧
      isBikeHandshake session.handshakeCommands then
    { session with handshakeFuture := .resolved session.handshakeCommands }
  else session

/-- The wait for the handshake times out and cancels the future. -/
def timeOutHandshake (session : McspLiveSession) : McspLiveSession :=
  if session.handshakeFuture.done then session
  else { session with handshakeFuture := .cancelled }

end McspLiveSession

/-- A session together with the world of its callbacks. -/
structure Env (World : Type) where
  session : McspLiveSession
  world : World

/-- Call a callback if it is there. -/
def whenSet
    (callback : Option γ)
    (call : γ -> Effect World Unit) : Effect (Env World) Unit :=
  match callback with
  | none => pure ()
  | some callback =>
      Effect.zoom Env.world (fun world env => { env with world := world })
        (call callback)

/-- Change the session. -/
def onSession
    (update : McspLiveSession -> McspLiveSession) :
    Effect (Env World) Unit :=
  Effect.modify fun env => { env with session := update env.session }

variable {World : Type} (callbacks : Callbacks World)

/-- One pass of the frame loop of `_notify_handler`. -/
def handleFrame (frame : Frame) : Effect (Env World) Unit := do
  whenSet callbacks.onFrame fun onFrame => onFrame frame
  if frame.channel = .command then
    match decodeCommandFrame frame with
    | .error exc =>
        whenSet callbacks.onDecodeError fun onDecodeError =>
          onDecodeError (.frame frame) exc
    | .ok command => do
        onSession fun session => session.recordCommand command
        whenSet callbacks.onCommand fun onCommand => onCommand command
  else
    match decodeMessageFrame frame.payload with
    | .error exc =>
        whenSet callbacks.onDecodeError fun onDecodeError =>
          onDecodeError (.frame frame) exc
    | .ok decoded => do
        whenSet callbacks.onMessage fun onMessage => onMessage frame decoded
        match callbacks.startupResponder with
        | none => pure ()
        | some startupResponder => do
            let packets ← Effect.lift (startupResponder frame decoded)
            onSession fun session => session.acceptPackets packets

/-- `_notify_handler`: react to one notification. -/
def notifyHandler (notification : Notification) : Effect (Env World) Unit := do
  whenSet callbacks.onNotify fun onNotify =>
    onNotify notification.sender notification.data
  match splitFrames notification.data with
  | .error exc =>
      whenSet callbacks.onDecodeError fun onDecodeError =>
        onDecodeError (.payload notification.data) exc
  | .ok frames => do
      Effect.forEach frames (handleFrame callbacks)
      onSession McspLiveSession.checkHandshake

/-! ## What a notification does to the session -/

/-- The command that a frame carries, if it decodes. -/
def commandOf (frame : Frame) : Option Command :=
  if frame.channel = .command then (decodeCommandFrame frame).toOption
  else none

/-- The message that a frame carries, if it decodes. -/
def messageOf (frame : Frame) : Option MessageFrame :=
  if frame.channel = .command then none
  else (decodeMessageFrame frame.payload).toOption

/-- A message is decoded from the payload of a non-command frame. -/
theorem messageOf_eq_some
    {frame : Frame} {decoded : MessageFrame}
    (decodes : messageOf frame = some decoded) :
    frame.channel ≠ .command ∧
      decodeMessageFrame frame.payload = .ok decoded := by
  unfold messageOf at decodes
  split at decodes
  case isTrue => cases decodes
  case isFalse notCommand =>
    refine ⟨notCommand, ?_⟩
    cases result : decodeMessageFrame frame.payload with
    | error exc =>
        rw [result] at decodes
        cases decodes
    | ok message =>
        rw [result] at decodes
        cases decodes
        rfl

/-- The packets with which the responder answers a frame. -/
def repliesTo (frame : Frame) : List Bytes :=
  match callbacks.startupResponder, messageOf frame with
  | some startupResponder, some decoded =>
      ((startupResponder frame decoded).toOption).getD []
  | _, _ => []

/-- The frames of a notification; none where it does not split. -/
def framesOf (notification : Notification) : List Frame :=
  ((splitFrames notification.data).toOption).getD []

/-- The commands of a notification, in order. -/
def commandsOf (notification : Notification) : List Command :=
  (framesOf notification).filterMap commandOf

/-- The replies to a notification, in order. -/
def repliesOf (notification : Notification) : List Bytes :=
  (framesOf notification).flatMap (repliesTo callbacks)

namespace McspLiveSession

/-- The session after a frame whose callbacks return. -/
def receiveFrame (session : McspLiveSession) (frame : Frame) : McspLiveSession :=
  let session :=
    match commandOf frame with
    | none => session
    | some command => session.recordCommand command
  session.acceptPackets (repliesTo callbacks frame)

/-- The session after frames whose callbacks return. -/
def receiveFrames
    (session : McspLiveSession)
    (frames : List Frame) : McspLiveSession :=
  frames.foldl (receiveFrame callbacks) session

/-- The session after a notification whose callbacks return. -/
def receive
    (session : McspLiveSession)
    (notification : Notification) : McspLiveSession :=
  match splitFrames notification.data with
  | .error _ => session
  | .ok frames => (session.receiveFrames callbacks frames).checkHandshake

end McspLiveSession

/-- A callback leaves the session alone. -/
theorem session_of_whenSet
    {callback : Option γ} {call : γ -> Effect World Unit}
    {before after : Env World} {value : Unit}
    (returns : Effect.Returns (whenSet callback call) before value after) :
    after.session = before.session := by
  cases callback with
  | none =>
      rw [whenSet, Effect.returns_pure] at returns
      rw [returns.2]
  | some callback =>
      rw [whenSet, Effect.returns_zoom] at returns
      obtain ⟨world, _, rfl⟩ := returns
      rfl

theorem session_of_onSession
    {update : McspLiveSession -> McspLiveSession}
    {before after : Env World} {value : Unit}
    (returns : Effect.Returns (onSession update) before value after) :
    after.session = update before.session := by
  rw [onSession, Effect.returns_modify] at returns
  rw [← returns]

/-- A frame whose callbacks return is recorded and answered. -/
theorem handleFrame_returns
    {frame : Frame} {before after : Env World}
    (returns : Effect.Returns (handleFrame callbacks frame) before () after) :
    after.session = before.session.receiveFrame callbacks frame := by
  rw [handleFrame, Effect.returns_bind] at returns
  obtain ⟨_, seen, frameCalled, rest⟩ := returns
  rw [← session_of_whenSet frameCalled]
  unfold McspLiveSession.receiveFrame commandOf repliesTo messageOf
  by_cases isCommand : frame.channel = .command
  · rw [if_pos isCommand] at rest
    simp only [if_pos isCommand]
    cases decodes : decodeCommandFrame frame with
    | error exc =>
        rw [decodes] at rest
        rw [session_of_whenSet rest]
        cases callbacks.startupResponder <;> rfl
    | ok command =>
        rw [decodes] at rest
        simp only [Effect.returns_bind] at rest
        obtain ⟨_, recorded, records, commandCalled⟩ := rest
        rw [session_of_whenSet commandCalled, session_of_onSession records]
        cases callbacks.startupResponder <;> rfl
  · rw [if_neg isCommand] at rest
    simp only [if_neg isCommand]
    cases decodes : decodeMessageFrame frame.payload with
    | error exc =>
        rw [decodes] at rest
        rw [session_of_whenSet rest]
        cases callbacks.startupResponder <;> rfl
    | ok decoded =>
        rw [decodes] at rest
        simp only [Effect.returns_bind] at rest
        obtain ⟨_, shown, messageCalled, answers⟩ := rest
        rw [← session_of_whenSet messageCalled]
        cases responder : callbacks.startupResponder with
        | none =>
            rw [responder, Effect.returns_pure] at answers
            rw [← answers.2]
            rfl
        | some startupResponder =>
            rw [responder] at answers
            simp only [Effect.returns_bind, Effect.returns_lift] at answers
            obtain ⟨packets, _, ⟨replies, rfl⟩, accepts⟩ := answers
            rw [session_of_onSession accepts]
            simp only [Except.toOption, replies, Option.getD_some]

/-- A notification whose callbacks return does to the session what `receive`
says. -/
theorem notifyHandler_returns
    {notification : Notification} {before after : Env World}
    (returns :
      Effect.Returns (notifyHandler callbacks notification) before () after) :
    after.session = before.session.receive callbacks notification := by
  rw [notifyHandler, Effect.returns_bind] at returns
  obtain ⟨_, seen, notifyCalled, rest⟩ := returns
  rw [← session_of_whenSet notifyCalled]
  unfold McspLiveSession.receive
  cases splits : splitFrames notification.data with
  | error exc =>
      rw [splits] at rest
      exact session_of_whenSet rest
  | ok frames =>
      rw [splits] at rest
      simp only [Effect.returns_bind] at rest
      obtain ⟨_, handled, handles, checks⟩ := rest
      rw [session_of_onSession checks]
      exact congrArg McspLiveSession.checkHandshake
        (Effect.Returns.forEach_foldl Env.session
          (fun frame _ _ _ => handleFrame_returns callbacks) handles)

/-! ## Callbacks that return -/

/-- The callbacks that are called for a frame return. -/
structure Callbacks.ReturnOnFrame (frame : Frame) : Prop where
  onFrame : ∀ onFrame ∈ callbacks.onFrame, (onFrame frame).NeverRaises
  onCommand : ∀ command ∈ commandOf frame,
    ∀ onCommand ∈ callbacks.onCommand, (onCommand command).NeverRaises
  onMessage : ∀ decoded ∈ messageOf frame,
    ∀ onMessage ∈ callbacks.onMessage, (onMessage frame decoded).NeverRaises
  startupResponder : ∀ decoded ∈ messageOf frame,
    ∀ startupResponder ∈ callbacks.startupResponder,
      ∃ packets, startupResponder frame decoded = .ok packets
  onDecodeError : commandOf frame = none -> messageOf frame = none ->
    ∀ onDecodeError ∈ callbacks.onDecodeError, ∀ exc,
      (onDecodeError (.frame frame) exc).NeverRaises

/-- The callbacks that are called for a notification return. -/
structure Callbacks.ReturnOn (notification : Notification) : Prop where
  onNotify : ∀ onNotify ∈ callbacks.onNotify,
    (onNotify notification.sender notification.data).NeverRaises
  onDecodeError : ∀ exc, splitFrames notification.data = .error exc ->
    ∀ onDecodeError ∈ callbacks.onDecodeError,
      (onDecodeError (.payload notification.data) exc).NeverRaises
  onFrames : ∀ frame ∈ framesOf notification, callbacks.ReturnOnFrame frame

/-- No callback ever raises. -/
structure Callbacks.NeverRaise : Prop where
  startupResponder : ∀ startupResponder ∈ callbacks.startupResponder,
    ∀ frame decoded, ∃ packets, startupResponder frame decoded = .ok packets
  onNotify : ∀ onNotify ∈ callbacks.onNotify,
    ∀ sender data, (onNotify sender data).NeverRaises
  onFrame : ∀ onFrame ∈ callbacks.onFrame, ∀ frame, (onFrame frame).NeverRaises
  onCommand : ∀ onCommand ∈ callbacks.onCommand,
    ∀ command, (onCommand command).NeverRaises
  onMessage : ∀ onMessage ∈ callbacks.onMessage,
    ∀ frame decoded, (onMessage frame decoded).NeverRaises
  onDecodeError : ∀ onDecodeError ∈ callbacks.onDecodeError,
    ∀ item exc, (onDecodeError item exc).NeverRaises
  onSend : ∀ onSend ∈ callbacks.onSend, ∀ packet, (onSend packet).NeverRaises

variable {callbacks}

theorem Callbacks.NeverRaise.returnOn
    (neverRaise : callbacks.NeverRaise)
    (notification : Notification) : callbacks.ReturnOn notification where
  onNotify := fun onNotify set => neverRaise.onNotify onNotify set _ _
  onDecodeError := fun exc _ onDecodeError set =>
    neverRaise.onDecodeError onDecodeError set _ exc
  onFrames := fun frame _ =>
    { onFrame := fun onFrame set => neverRaise.onFrame onFrame set frame
      onCommand := fun command _ onCommand set =>
        neverRaise.onCommand onCommand set command
      onMessage := fun decoded _ onMessage set =>
        neverRaise.onMessage onMessage set frame decoded
      startupResponder := fun decoded _ startupResponder set =>
        neverRaise.startupResponder startupResponder set frame decoded
      onDecodeError := fun _ _ onDecodeError set exc =>
        neverRaise.onDecodeError onDecodeError set _ exc }

/-- A session without callbacks. -/
theorem Callbacks.neverRaise_none : ({} : Callbacks World).NeverRaise :=
  ⟨nofun, nofun, nofun, nofun, nofun, nofun, nofun⟩

theorem whenSet_neverRaises
    {callback : Option γ} {call : γ -> Effect World Unit}
    (returns : ∀ set ∈ callback, (call set).NeverRaises) :
    (whenSet callback call).NeverRaises := by
  unfold whenSet
  cases callback with
  | none => exact Effect.NeverRaises.pure ()
  | some callback => exact Effect.NeverRaises.zoom (returns callback rfl)

theorem handleFrame_neverRaises
    {frame : Frame}
    (returns : callbacks.ReturnOnFrame frame) :
    (handleFrame callbacks frame).NeverRaises := by
  unfold handleFrame
  apply Effect.NeverRaises.bind (whenSet_neverRaises returns.onFrame)
  intro _
  by_cases isCommand : frame.channel = .command
  · rw [if_pos isCommand]
    have messageNone : messageOf frame = none := by
      rw [messageOf, if_pos isCommand]
    cases decodes : decodeCommandFrame frame with
    | error exc =>
        have commandNone : commandOf frame = none := by
          rw [commandOf, if_pos isCommand, decodes]
          rfl
        exact whenSet_neverRaises fun onDecodeError set =>
          returns.onDecodeError commandNone messageNone onDecodeError set exc
    | ok command =>
        have commandSome : commandOf frame = some command := by
          rw [commandOf, if_pos isCommand, decodes]
          rfl
        exact Effect.NeverRaises.bind (Effect.NeverRaises.modify _) fun _ =>
          whenSet_neverRaises (returns.onCommand command commandSome)
  · rw [if_neg isCommand]
    have commandNone : commandOf frame = none := by
      rw [commandOf, if_neg isCommand]
    cases decodes : decodeMessageFrame frame.payload with
    | error exc =>
        have messageNone : messageOf frame = none := by
          rw [messageOf, if_neg isCommand, decodes]
          rfl
        exact whenSet_neverRaises fun onDecodeError set =>
          returns.onDecodeError commandNone messageNone onDecodeError set exc
    | ok decoded =>
        have messageSome : messageOf frame = some decoded := by
          rw [messageOf, if_neg isCommand, decodes]
          rfl
        apply Effect.NeverRaises.bind
          (whenSet_neverRaises (returns.onMessage decoded messageSome))
        intro _
        cases responder : callbacks.startupResponder with
        | none => exact Effect.NeverRaises.pure ()
        | some startupResponder =>
            obtain ⟨packets, answers⟩ := returns.startupResponder decoded
              messageSome startupResponder responder
            exact Effect.NeverRaises.bind (Effect.NeverRaises.lift answers)
              fun _ => Effect.NeverRaises.modify _

/-- A notification is handled to its end when its callbacks return. -/
theorem notifyHandler_neverRaises
    {notification : Notification}
    (returns : callbacks.ReturnOn notification) :
    (notifyHandler callbacks notification).NeverRaises := by
  unfold notifyHandler
  apply Effect.NeverRaises.bind (whenSet_neverRaises returns.onNotify)
  intro _
  cases splits : splitFrames notification.data with
  | error exc => exact whenSet_neverRaises (returns.onDecodeError exc splits)
  | ok frames =>
      have framesOf_eq : framesOf notification = frames := by
        rw [framesOf, splits]
        rfl
      refine Effect.NeverRaises.bind (Effect.NeverRaises.forEach ?_)
        fun _ => Effect.NeverRaises.modify _
      intro frame present
      rw [← framesOf_eq] at present
      exact handleFrame_neverRaises (returns.onFrames frame present)

/-- A notification whose callbacks return leaves the session that `receive`
computes. -/
theorem notifyHandler_session
    {notification : Notification}
    (returns : callbacks.ReturnOn notification)
    (before : Env World) :
    ∃ after, notifyHandler callbacks notification before = (.ok (), after) ∧
      after.session = before.session.receive callbacks notification := by
  obtain ⟨value, after, run⟩ := notifyHandler_neverRaises returns before
  exact ⟨after, run, notifyHandler_returns callbacks run⟩

end Live
end BoschBle
