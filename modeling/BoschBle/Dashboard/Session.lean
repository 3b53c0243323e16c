import BoschBle.Dashboard.State
import BoschBle.Handshake.StartupResponse
import BoschBle.Live.StartupOrder

/-!
# The session of the dashboard

The dashboard answers startup messages and shows every decoded message.  Its
message callback runs unguarded inside the notification handler, so a payload
that it cannot read ends the handling of a whole notification.
-/

namespace BoschBle
namespace Dashboard

open Foundation Mcsp MessageBus Live Handshake

/-- What the callbacks of the dashboard work on. -/
structure DashboardWorld where
  /-- The state that is displayed. -/
  state : DashboardState := { connectionStatus := "connecting" }
  /-- How often the clock has been read. -/
  readings : Nat := 0

variable (clock : Nat -> String)

/-- `ts`: the text that the clock shows now. -/
def ts : Effect DashboardWorld String := do
  let world ← Effect.get
  Effect.modify fun world => { world with readings := world.readings + 1 }
  pure (clock world.readings)

/-- The message callback. -/
def onMessage (decoded : MessageFrame) : Effect DashboardWorld Unit := do
  let now ← ts clock
  Effect.zoom DashboardWorld.state
    (fun state world => { world with state := state })
    (applyMessage now decoded)

/-- What a decode error is called in the list of recent lines. -/
def undecodedText : Undecoded -> String
  | .payload _ => "payload"
  | .frame frame => toString frame.channel.toInt

/-- The decode error callback. -/
def onDecodeError (item : Undecoded) (exc : Exn) : Effect DashboardWorld Unit :=
  Effect.modify fun world =>
    { world with
      state := world.state.appendRecent
        ("DECODE_FAILED " ++ undecodedText item ++ " " ++ exc.message) }

/-- The callbacks with which the dashboard opens its session. -/
def dashboardCallbacks : Callbacks DashboardWorld where
  startupResponder := some fun frame decoded =>
    buildStartupResponsePackets frame (some decoded)
  onMessage := some fun _ decoded => onMessage clock decoded
  onDecodeError := some onDecodeError

variable {clock}

/-- The message callback returns exactly on readable messages. -/
theorem onMessage_returns_iff
    {decoded : MessageFrame} {before : DashboardWorld} :
    (∃ after, Effect.Returns (onMessage clock decoded) before () after) ↔
      Readable decoded := by
  simp only [onMessage, ts, Effect.returns_bind, Effect.returns_get,
    Effect.returns_modify, Effect.returns_pure, Effect.returns_zoom]
  constructor
  · rintro ⟨_, _, _, _, state, returns, _⟩
    exact applyMessage_returns_iff.mp ⟨state, returns⟩
  · intro readable
    obtain ⟨state, returns⟩ := applyMessage_returns_iff.mpr readable
    exact ⟨_, _, _, ⟨before, before, ⟨rfl, rfl⟩, (), _, rfl, rfl, rfl⟩,
      state, returns, rfl⟩

/-- On readable messages the callbacks of the dashboard return. -/
theorem dashboardCallbacks_returnOn
    {notification : Notification}
    (readable : ∀ frame ∈ framesOf notification,
      ∀ decoded ∈ messageOf frame, Readable decoded) :
    (dashboardCallbacks clock).ReturnOn notification where
  onNotify := nofun
  onDecodeError := by
    intro exc _ onDecodeError set
    cases set
    exact Effect.NeverRaises.modify _
  onFrames := fun frame present =>
    { onFrame := nofun
      onCommand := nofun
      onMessage := by
        intro decoded decodes onMessage set before
        cases set
        obtain ⟨after, returns⟩ :=
          onMessage_returns_iff.mpr (readable frame present decoded decodes)
        exact ⟨(), after, returns⟩
      startupResponder := by
        intro decoded decodes startupResponder set
        cases set
        obtain ⟨notCommand, decodes⟩ := messageOf_eq_some decodes
        exact exists_buildStartupResponsePackets notCommand decodes
      onDecodeError := by
        intro _ _ onDecodeError set exc
        cases set
        exact Effect.NeverRaises.modify _ }

/-- A frame that is handled to its end was readable. -/
theorem readable_of_handleFrame
    {frame : Frame} {before after : Env DashboardWorld}
    (returns :
      Effect.Returns (handleFrame (dashboardCallbacks clock) frame) before ()
        after)
    {decoded : MessageFrame}
    (decodes : messageOf frame = some decoded) :
    Readable decoded := by
  obtain ⟨notCommand, decodes⟩ := messageOf_eq_some decodes
  rw [handleFrame, if_neg notCommand, decodes, Effect.returns_bind] at returns
  obtain ⟨_, _, _, returns⟩ := returns
  rw [Effect.returns_bind] at returns
  obtain ⟨_, _, shows, _⟩ := returns
  simp only [whenSet, dashboardCallbacks, Effect.returns_zoom] at shows
  obtain ⟨world, shows, _⟩ := shows
  exact onMessage_returns_iff.mp ⟨world, shows⟩

/-- Under the wiring of the dashboard a notification that splits is processed
to its end, in every session and world, exactly when each of its messages is
readable: then every command is recorded, every reply of the responder sent or
held back, and the handshake checked. -/
theorem notifyHandler_processes_iff
    (clock : Nat -> String)
    {notification : Notification} {frames : List Frame}
    (splits : splitFrames notification.data = .ok frames)
    (before : Env DashboardWorld) :
    (∃ after,
      notifyHandler (dashboardCallbacks clock) notification before =
        (.ok (), after) ∧
      McspLiveSession.Processed (dashboardCallbacks clock) notification
        before.session after.session ∧
      ∀ frame ∈ frames, ∀ decoded ∈ messageOf frame,
        buildStartupResponsePackets frame (some decoded) =
          .ok (repliesTo (dashboardCallbacks clock) frame)) ↔
      ∀ frame ∈ frames, ∀ decoded ∈ messageOf frame, Readable decoded := by
  have frames_eq : framesOf notification = frames := by
    rw [framesOf, splits]
    rfl
  constructor
  · rintro ⟨after, handles, _⟩ frame present decoded decodes
    have returns : Effect.Returns
        (notifyHandler (dashboardCallbacks clock) notification) before ()
          after := handles
    rw [notifyHandler, splits, Effect.returns_bind] at returns
    obtain ⟨_, _, _, returns⟩ := returns
    simp only [Effect.returns_bind] at returns
    obtain ⟨_, _, loop, _⟩ := returns
    obtain ⟨_, _, frameReturns⟩ := loop.forEach_mem present
    exact readable_of_handleFrame frameReturns decodes
  · intro readable
    rw [← frames_eq] at readable
    obtain ⟨after, handles, session_eq⟩ :=
      notifyHandler_session (dashboardCallbacks_returnOn readable) before
    refine ⟨after, handles, ?_, ?_⟩
    · rw [session_eq]
      exact McspLiveSession.processed_receive _ _ splits
    · intro frame present decoded decodes
      obtain ⟨notCommand, message⟩ := messageOf_eq_some decodes
      obtain ⟨packets, answers⟩ :=
        exists_buildStartupResponsePackets notCommand message
      rw [answers]
      unfold repliesTo
      rw [show messageOf frame = some decoded from decodes]
      simp only [dashboardCallbacks, answers, Except.toOption, Option.getD_some]

/-- A read of `0x409F` by the peer. -/
def READ_FRAME : Frame where
  endOfChannel := true
  channel := .channel1
  payload := [0x20, 0x02, 0x40, 0x9F, 0x00]

/-- A state of charge whose varint does not end. -/
def TRUNCATED_FRAME : Frame where
  endOfChannel := true
  channel := .channel1
  payload := [0x80, 0x88, 0x80]

/-- A notification of a list of frames. -/
def frameNotification (frames : List Frame) : Notification where
  sender := "MCSP"
  data := frameFormat.encodeAll frames

/-- A state of charge of 50. -/
def CHARGE_FRAME : Frame where
  endOfChannel := true
  channel := .channel1
  payload := [0x80, 0x88, 0x08, 0x32]

/-- A command, a state of charge and a read. -/
def MIXED_FRAMES : List Frame :=
  [commandFrame (.advanceTransmitWindowCommand .channel1 1), CHARGE_FRAME, READ_FRAME]

/-- A notification that is readable: the charge is shown, and the reply to the read is held
back until the handshake is answered. -/
theorem notifyHandler_processes_iff_read :
    ∃ after,
      notifyHandler (dashboardCallbacks fun _ => "")
        (frameNotification MIXED_FRAMES) ⟨{}, {}⟩ = (.ok (), after) ∧
      McspLiveSession.Processed (dashboardCallbacks fun _ => "")
        (frameNotification MIXED_FRAMES) {} after.session ∧
      (∀ frame ∈ MIXED_FRAMES, ∀ decoded ∈ messageOf frame,
        buildStartupResponsePackets frame (some decoded) =
          .ok (repliesTo (dashboardCallbacks fun _ => "") frame)) ∧
      after.world.state.batteryPercent = some 50 ∧
      after.session.handshakeCommands = [.advanceTransmitWindowCommand .channel1 1] ∧
      after.session.startupPacketsPending =
        [[0x30, 0x07, 0x40, 0x9F, 0xA0, 0x02, 0x10, 0x08, 0x01]] := by
  have splits : splitFrames (frameNotification MIXED_FRAMES).data = .ok MIXED_FRAMES := by
    decide
  have readable : ∀ frame ∈ MIXED_FRAMES, ∀ decoded ∈ messageOf frame, Readable decoded := by
    have charge : messageOf CHARGE_FRAME =
        some (.notify { source := 0x0088, payload := [0x08, 0x32] }) := by
      decide
    have read : messageOf READ_FRAME =
        some (.directed
          { source := 0x2002, destination := 0x409F, messageType := .read
            sequence := 0, payload := [] }) := by
      decide
    simp only [MIXED_FRAMES, List.forall_mem_cons, charge, read, Option.mem_some_iff,
      forall_eq', List.not_mem_nil, false_implies, implies_true, and_true]
    refine ⟨nofun, ?_, fun target => absurd target (by decide)⟩
    have source_eq : NotifyFrame.sourceName { source := 0x0088, payload := [0x08, 0x32] } =
        some "BATTERY_STATE_OF_CHARGE" := by
      decide
    rw [readable_iff source_eq (by decide), if_neg (by decide)]
    exact ⟨[(1, 50)], by decide⟩
  obtain ⟨after, handles, processed, replies⟩ :=
    (notifyHandler_processes_iff (fun _ => "") splits ⟨{}, {}⟩).mpr readable
  have world : (notifyHandler (dashboardCallbacks fun _ => "")
      (frameNotification MIXED_FRAMES) ⟨{}, {}⟩).2.world.state.batteryPercent = some 50 := by
    decide
  have commands : (notifyHandler (dashboardCallbacks fun _ => "")
      (frameNotification MIXED_FRAMES) ⟨{}, {}⟩).2.session.handshakeCommands =
        [.advanceTransmitWindowCommand .channel1 1] := by
    decide
  have pending : (notifyHandler (dashboardCallbacks fun _ => "")
      (frameNotification MIXED_FRAMES) ⟨{}, {}⟩).2.session.startupPacketsPending =
        [[0x30, 0x07, 0x40, 0x9F, 0xA0, 0x02, 0x10, 0x08, 0x01]] := by
    decide
  rw [handles] at world commands pending
  exact ⟨after, handles, processed, replies, world, commands, pending⟩

/-- The truncated payload raises out of the handler, and the read behind it is
never answered. -/
theorem notifyHandler_loses_read :
    splitFrames (frameNotification [TRUNCATED_FRAME, READ_FRAME]).data =
      .ok [TRUNCATED_FRAME, READ_FRAME] ∧
    (notifyHandler (dashboardCallbacks fun _ => "")
      (frameNotification [TRUNCATED_FRAME, READ_FRAME]) ⟨{}, {}⟩).1 =
        .error ⟨.valueError, "Truncated protobuf varint."⟩ ∧
    (notifyHandler (dashboardCallbacks fun _ => "")
      (frameNotification [TRUNCATED_FRAME, READ_FRAME])
        ⟨{}, {}⟩).2.session.startupPacketsPending = [] ∧
    repliesOf (dashboardCallbacks fun _ => "")
      (frameNotification [TRUNCATED_FRAME, READ_FRAME]) =
        [[0x30, 0x07, 0x40, 0x9F, 0xA0, 0x02, 0x10, 0x08, 0x01]] := by
  refine ⟨?_, ?_, ?_, ?_⟩
  · decide
  · decide
  · decide
  · decide

/-- A write of the startup stage with a varint that does not end. -/
def TRUNCATED_WRITE : Frame where
  endOfChannel := true
  channel := .channel1
  payload := [0x20, 0x02, 0x40, 0xA9, 0x21, 0x80]

/-- The handshake is answered, and then the write arrives. -/
def WRITE_AFTER_HANDSHAKE : List Event :=
  [ .startCalled,
    .queueHandshakeResponse [],
    .notification (frameNotification [TRUNCATED_WRITE]) ]

/-- Behind the reply to the handshake the reply to the write is missing. -/
theorem startup_reply_lost :
    ∃ final : System DashboardWorld, ∃ response,
      Run (System.step (dashboardCallbacks fun _ => "")) Anything
        (System.initial {}) WRITE_AFTER_HANDSHAKE final ∧
      buildHandshakeResponse [] = .ok response ∧
      final.packets = response ∧
      repliesReceived (dashboardCallbacks fun _ => "") WRITE_AFTER_HANDSHAKE =
        [[0x30, 0x05, 0x40, 0xA9, 0xA0, 0x02, 0x31]] ∧
      final.packets ≠ response ++
        repliesReceived (dashboardCallbacks fun _ => "")
          WRITE_AFTER_HANDSHAKE := by
  have run := Run.of_execute (System.step (dashboardCallbacks fun _ => ""))
    Anything (System.initial {}) WRITE_AFTER_HANDSHAKE rfl
  obtain ⟨response, builds⟩ := exists_buildHandshakeResponse []
  have replies_eq :
      repliesReceived (dashboardCallbacks fun _ => "") WRITE_AFTER_HANDSHAKE =
        [[0x30, 0x05, 0x40, 0xA9, 0xA0, 0x02, 0x31]] := by
    decide
  have lost : ∀ packets, packets = response -> packets = response ∧
      repliesReceived (dashboardCallbacks fun _ => "") WRITE_AFTER_HANDSHAKE =
        [[0x30, 0x05, 0x40, 0xA9, 0xA0, 0x02, 0x31]] ∧
      packets ≠ response ++
        repliesReceived (dashboardCallbacks fun _ => "")
          WRITE_AFTER_HANDSHAKE := by
    intro packets packets_eq
    refine ⟨packets_eq, replies_eq, ?_⟩
    rw [packets_eq, replies_eq]
    intro same
    cases List.self_eq_append_right.mp same
  refine ⟨_, response, run, builds, lost _ ?_⟩
  apply Except.ok.inj
  rw [← builds]
  decide

end Dashboard
end BoschBle
