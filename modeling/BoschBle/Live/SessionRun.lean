import BoschBle.Live.System

/-!
# The session along a run

Notifications, the reply to the handshake and the timeout change the session;
the tasks only move packets out of its queue.  Packets wait in one of two
places, the pending list before the handshake is answered and the send queue
after it, and the order of what is ever sent follows from what each event adds.
-/

namespace BoschBle
namespace Live

open Foundation Mcsp

/-- Every event is allowed. -/
def Anything {σ : Type} (_ : σ) (_ : Event) : Prop := True

instance {σ : Type} (state : σ) (event : Event) :
    Decidable (Anything state event) :=
  .isTrue trivial

/-- The notification that an event delivers. -/
def Event.notified : Event -> Option Notification
  | .notification delivered => some delivered
  | _ => none

/-- The commands with which an event answers the handshake. -/
def Event.handshakeCall : Event -> Option (List Command)
  | .queueHandshakeResponse commands => some commands
  | _ => none

/-- The frames received in a list of events. -/
def framesReceived (events : List Event) : List Frame :=
  (events.filterMap Event.notified).flatMap framesOf

/-- The commands received in a list of events. -/
def commandsReceived (events : List Event) : List Command :=
  (framesReceived events).filterMap commandOf

variable {World : Type} (callbacks : Callbacks World)

/-- The replies of the responder to what a list of events delivers. -/
def repliesReceived (events : List Event) : List Bytes :=
  (framesReceived events).flatMap (repliesTo callbacks)

namespace McspLiveSession

/-- The packets ever put into the send queue, oldest first. -/
def packets (session : McspLiveSession) : List Bytes :=
  session.sendQueue.history.filterMap id

@[simp] theorem packets_queuePackets
    (session : McspLiveSession) (packets : List Bytes) :
    (session.queuePackets packets).packets = session.packets ++ packets := by
  unfold McspLiveSession.packets queuePackets
  rw [AsyncQueue.history_putAll, List.filterMap_append, List.filterMap_map]
  exact congrArg _ List.filterMap_some

/-- The fields that a notification reads and writes, next to the queue. -/
structure Agrees (before after : McspLiveSession) : Prop where
  packets : after.packets = before.packets
  pending : after.startupPacketsPending = before.startupPacketsPending
  commands : after.handshakeCommands = before.handshakeCommands
  ready : after.startupReady = before.startupReady

theorem Agrees.refl (session : McspLiveSession) : session.Agrees session :=
  ⟨rfl, rfl, rfl, rfl⟩

theorem agrees_checkHandshake (session : McspLiveSession) :
    session.Agrees session.checkHandshake := by
  unfold checkHandshake
  split <;> exact ⟨rfl, rfl, rfl, rfl⟩

theorem agrees_timeOutHandshake (session : McspLiveSession) :
    session.Agrees session.timeOutHandshake := by
  unfold timeOutHandshake
  split <;> exact ⟨rfl, rfl, rfl, rfl⟩

/-- Accepted packets are held back before the handshake is answered and sent
after it. -/
theorem acceptPackets_fields
    (session : McspLiveSession) (packets : List Bytes) :
    (session.acceptPackets packets).packets =
        session.packets ++ (if session.startupReady then packets else []) ∧
      (session.acceptPackets packets).startupPacketsPending =
        session.startupPacketsPending ++
          (if session.startupReady then [] else packets) ∧
      (session.acceptPackets packets).handshakeCommands =
        session.handshakeCommands ∧
      (session.acceptPackets packets).startupReady = session.startupReady ∧
      (session.acceptPackets packets).handshakeFuture =
        session.handshakeFuture := by
  unfold acceptPackets
  by_cases empty : packets = []
  · simp [empty]
  · cases ready : session.startupReady with
    | true =>
        simp only [if_neg empty, if_true, packets_queuePackets,
          List.append_nil]
        exact ⟨trivial, rfl, rfl, ready, rfl⟩
    | false =>
        simp only [if_neg empty, Bool.false_eq_true, if_false, List.append_nil]
        exact ⟨rfl, trivial, trivial, trivial, trivial⟩

/-- A frame adds its command and its replies. -/
theorem receiveFrame_fields
    (session : McspLiveSession) (frame : Frame) :
    (session.receiveFrame callbacks frame).packets =
        session.packets ++ (if session.startupReady then
          repliesTo callbacks frame else []) ∧
      (session.receiveFrame callbacks frame).startupPacketsPending =
        session.startupPacketsPending ++ (if session.startupReady then []
          else repliesTo callbacks frame) ∧
      (session.receiveFrame callbacks frame).handshakeCommands =
        session.handshakeCommands ++ (commandOf frame).toList ∧
      (session.receiveFrame callbacks frame).startupReady =
        session.startupReady ∧
      (session.receiveFrame callbacks frame).handshakeFuture =
        session.handshakeFuture := by
  unfold receiveFrame
  cases commandOf frame with
  | none =>
      rw [Option.toList_none, List.append_nil]
      exact session.acceptPackets_fields (repliesTo callbacks frame)
  | some command =>
      exact (session.recordCommand command).acceptPackets_fields
        (repliesTo callbacks frame)

/-- What a list of frames does to a session whose callbacks return. -/
theorem receiveFrames_fields
    (session : McspLiveSession) (frames : List Frame) :
    (session.receiveFrames callbacks frames).packets =
        session.packets ++ (if session.startupReady then
          frames.flatMap (repliesTo callbacks) else []) ∧
      (session.receiveFrames callbacks frames).startupPacketsPending =
        session.startupPacketsPending ++ (if session.startupReady then []
          else frames.flatMap (repliesTo callbacks)) ∧
      (session.receiveFrames callbacks frames).handshakeCommands =
        session.handshakeCommands ++ frames.filterMap commandOf ∧
      (session.receiveFrames callbacks frames).startupReady =
        session.startupReady ∧
      (session.receiveFrames callbacks frames).handshakeFuture =
        session.handshakeFuture := by
  induction frames generalizing session with
  | nil => simp [receiveFrames]
  | cons frame rest inductionHypothesis =>
      obtain ⟨packets_eq, pending_eq, commands_eq, ready_eq, future_eq⟩ :=
        session.receiveFrame_fields callbacks frame
      obtain ⟨packets_rest, pending_rest, commands_rest, ready_rest,
        future_rest⟩ :=
        inductionHypothesis (session.receiveFrame callbacks frame)
      have unroll : session.receiveFrames callbacks (frame :: rest) =
          (session.receiveFrame callbacks frame).receiveFrames callbacks rest :=
        rfl
      rw [unroll, packets_rest, pending_rest, commands_rest, ready_rest,
        future_rest, packets_eq, pending_eq, commands_eq, ready_eq, future_eq,
        List.flatMap_cons]
      refine ⟨?_, ?_, ?_, rfl, rfl⟩
      · split <;> simp
      · split <;> simp
      · rw [List.append_assoc]
        cases command_eq : commandOf frame with
        | none => rw [List.filterMap_cons_none command_eq]; rfl
        | some command => rw [List.filterMap_cons_some command_eq]; rfl

/-- A notification adds its commands and its replies. -/
theorem receive_fields
    (session : McspLiveSession) (notification : Notification) :
    (session.receive callbacks notification).packets =
        session.packets ++ (if session.startupReady then
          (framesOf notification).flatMap (repliesTo callbacks) else []) ∧
      (session.receive callbacks notification).startupPacketsPending =
        session.startupPacketsPending ++ (if session.startupReady then []
          else (framesOf notification).flatMap (repliesTo callbacks)) ∧
      (session.receive callbacks notification).handshakeCommands =
        session.handshakeCommands ++
          (framesOf notification).filterMap commandOf ∧
      (session.receive callbacks notification).startupReady =
        session.startupReady := by
  unfold receive framesOf
  cases splitFrames notification.data with
  | error exc => simp [Except.toOption]
  | ok frames =>
      obtain ⟨packets_eq, pending_eq, commands_eq, ready_eq, _⟩ :=
        session.receiveFrames_fields callbacks frames
      obtain ⟨packets_same, pending_same, commands_same, ready_same⟩ :=
        (session.receiveFrames callbacks frames).agrees_checkHandshake
      simp only [packets_same, pending_same, commands_same, ready_same,
        packets_eq, pending_eq, commands_eq, ready_eq, Except.toOption,
        Option.getD_some, and_self]

/-- Every frame of a notification is processed: its commands are recorded, its
replies sent or held back, and the handshake is checked. -/
structure Processed
    (notification : Notification)
    (before after : McspLiveSession) : Prop where
  commands : after.handshakeCommands =
    before.handshakeCommands ++ commandsOf notification
  packets : after.packets = before.packets ++
    (if before.startupReady then repliesOf callbacks notification else [])
  pending : after.startupPacketsPending = before.startupPacketsPending ++
    (if before.startupReady then [] else repliesOf callbacks notification)
  ready : after.startupReady = before.startupReady
  checked : after.handshakeFuture =
    if ¬before.handshakeFuture.done ∧
        isBikeHandshake after.handshakeCommands then
      .resolved after.handshakeCommands
    else before.handshakeFuture

theorem processed_receive
    (session : McspLiveSession)
    {notification : Notification} {frames : List Frame}
    (splits : splitFrames notification.data = .ok frames) :
    Processed callbacks notification session
      (session.receive callbacks notification) := by
  obtain ⟨packets_eq, pending_eq, commands_eq, ready_eq⟩ :=
    session.receive_fields callbacks notification
  refine ⟨commands_eq, packets_eq, pending_eq, ready_eq, ?_⟩
  obtain ⟨_, _, _, _, future_eq⟩ := session.receiveFrames_fields callbacks frames
  unfold receive
  simp only [splits]
  rw [(session.receiveFrames callbacks frames).agrees_checkHandshake.commands,
    ← future_eq]
  unfold checkHandshake
  split <;> rfl

/-- The reply to the handshake goes out before the packets held back for it. -/
theorem queueHandshakeResponse_fields
    {session after : McspLiveSession} {commands : List Command}
    (queues : session.queueHandshakeResponse commands = .ok after) :
    ∃ response, buildHandshakeResponse commands = .ok response ∧
      after.packets =
        session.packets ++ (response ++ session.startupPacketsPending) ∧
      after.startupPacketsPending = [] ∧
      after.handshakeCommands = session.handshakeCommands ∧
      after.startupReady = true ∧
      after.handshakeFuture = session.handshakeFuture := by
  obtain ⟨response, builds⟩ := exists_buildHandshakeResponse commands
  refine ⟨response, builds, ?_⟩
  rw [queueHandshakeResponse, builds] at queues
  simp only [bind, Except.bind] at queues
  split at queues
  case isTrue =>
    cases queues
    refine ⟨?_, rfl, rfl, rfl, rfl⟩
    change ((session.queuePackets response).queuePackets
      session.startupPacketsPending).packets = _
    rw [packets_queuePackets, packets_queuePackets, List.append_assoc]
  case isFalse empty =>
    cases queues
    simp only [queuePackets, ne_eq, not_not] at empty
    refine ⟨?_, empty, rfl, rfl, rfl⟩
    change (session.queuePackets response).packets = _
    rw [packets_queuePackets, empty, List.append_nil]

end McspLiveSession

/-! ## Steps of the tasks -/

theorem agrees_taskDone (system : System World) (next : Writer) :
    system.session.Agrees (system.taskDone next).session ∧
      (system.taskDone next).session.handshakeFuture =
        system.session.handshakeFuture := by
  unfold System.taskDone
  cases done : system.session.sendQueue.taskDone with
  | error exc => exact ⟨.refl _, rfl⟩
  | ok queue =>
      unfold AsyncQueue.taskDone at done
      split at done
      · cases done
      · cases done
        exact ⟨⟨rfl, rfl, rfl, rfl⟩, rfl⟩

theorem agrees_get
    {session : McspLiveSession} {item : Option Bytes}
    {queue : AsyncQueue (Option Bytes)}
    (gets : session.sendQueue.getNowait = some (item, queue)) :
    session.Agrees { session with sendQueue := queue } := by
  refine ⟨?_, rfl, rfl, rfl⟩
  unfold McspLiveSession.packets
  rw [(AsyncQueue.getNowait_eq_some gets).2.2]

theorem McspLiveSession.Agrees.trans
    {first second third : McspLiveSession}
    (left : first.Agrees second)
    (right : second.Agrees third) : first.Agrees third where
  packets := right.packets.trans left.packets
  pending := right.pending.trans left.pending
  commands := right.commands.trans left.commands
  ready := right.ready.trans left.ready

/-- Taking an item off the queue is not seen in what was put. -/
theorem agrees_writerGet
    {before after : System World}
    (stepped : before.writerGet callbacks = some after) :
    before.session.Agrees after.session ∧
      after.session.handshakeFuture = before.session.handshakeFuture := by
  unfold System.writerGet at stepped
  split at stepped
  case h_2 => cases stepped
  case h_1 item queue _ gets =>
    have taken := agrees_get gets
    cases item with
    | none =>
        cases stepped
        obtain ⟨done, future_eq⟩ := agrees_taskDone
          { before with
            session := { before.session with sendQueue := queue } } .returned
        exact ⟨taken.trans done, future_eq⟩
    | some packet =>
        simp only at stepped
        split at stepped
        · cases stepped
          exact ⟨taken, rfl⟩
        · cases stepped
          obtain ⟨done, future_eq⟩ := agrees_taskDone
            { before with
              session := { before.session with sendQueue := queue }
              world := _
              failures := _ } (.failed _)
          exact ⟨taken.trans done, future_eq⟩

/-- `stop` puts nothing but the sentinel. -/
theorem agrees_stopStep
    {before after : System World}
    (stepped : before.stopStep = some after) :
    before.session.Agrees after.session ∧
      after.session.handshakeFuture = before.session.handshakeFuture := by
  unfold System.stopStep at stepped
  split at stepped
  case h_1 =>
    split at stepped
    case h_1 =>
      cases stepped
      exact ⟨.refl _, rfl⟩
    case h_2 =>
      split at stepped
      case isTrue =>
        cases stepped
        refine ⟨⟨?_, rfl, rfl, rfl⟩, rfl⟩
        unfold McspLiveSession.packets
        rw [AsyncQueue.history_putNowait, List.filterMap_append]
        exact List.append_nil _
      case isFalse => cases stepped
  case h_2 =>
    rw [Option.map_eq_some_iff] at stepped
    obtain ⟨result, _, rfl⟩ := stepped
    exact ⟨.refl _, rfl⟩
  case h_3 =>
    cases stepped
    exact ⟨.refl _, rfl⟩
  case h_4 => cases stepped

/-- What an event does to the session. -/
def SessionStep (before after : System World) : Event -> Prop
  | .notification notification =>
      after.session = (notifyHandler callbacks notification
        ⟨before.session, before.world⟩).2.session
  | .queueHandshakeResponse commands =>
      before.session.queueHandshakeResponse commands = .ok after.session
  | .queuePackets packets =>
      after.session = before.session.queuePackets packets
  | .handshakeTimeout => after.session = before.session.timeOutHandshake
  | _ =>
      before.session.Agrees after.session ∧
        after.session.handshakeFuture = before.session.handshakeFuture

theorem session_of_step
    {before after : System World} {event : Event}
    (stepped : before.step callbacks event = some after) :
    SessionStep callbacks before after event := by
  cases event with
  | startCalled =>
      simp only [System.step, Option.ite_none_right_eq_some,
        Option.some.injEq] at stepped
      obtain ⟨_, rfl⟩ := stepped
      exact ⟨.refl _, rfl⟩
  | startNotifyReturns =>
      simp only [System.step, Option.ite_none_right_eq_some,
        Option.some.injEq] at stepped
      obtain ⟨_, rfl⟩ := stepped
      exact ⟨.refl _, rfl⟩
  | startNotifyRaises exc =>
      simp only [System.step, Option.ite_none_right_eq_some,
        Option.some.injEq] at stepped
      obtain ⟨_, rfl⟩ := stepped
      exact ⟨.refl _, rfl⟩
  | notification notification =>
      simp only [System.step, Option.ite_none_left_eq_some,
        Option.some.injEq] at stepped
      obtain ⟨_, rfl⟩ := stepped
      rfl
  | queueHandshakeResponse commands =>
      simp only [System.step] at stepped
      split at stepped
      case h_1 session queues =>
        cases stepped
        exact queues
      case h_2 exc raises =>
        obtain ⟨response, builds⟩ := exists_buildHandshakeResponse commands
        simp only [McspLiveSession.queueHandshakeResponse, builds, bind,
          Except.bind] at raises
        split at raises <;> cases raises
  | queuePackets packets =>
      cases stepped
      rfl
  | handshakeTimeout =>
      cases stepped
      rfl
  | writerGet => exact agrees_writerGet callbacks stepped
  | writeReturns =>
      simp only [System.step] at stepped
      split at stepped
      case h_1 packet _ =>
        cases stepped
        exact agrees_taskDone
          { before with written := before.written ++ [packet] } .getting
      case h_2 => cases stepped
  | writeRaises exc =>
      simp only [System.step] at stepped
      split at stepped
      case h_1 =>
        cases stepped
        exact agrees_taskDone
          { before with failures := before.failures ++ [exc] } (.failed exc)
      case h_2 => cases stepped
  | stopCalled =>
      simp only [System.step, Option.ite_none_right_eq_some,
        Option.some.injEq] at stepped
      obtain ⟨_, rfl⟩ := stepped
      exact ⟨.refl _, rfl⟩
  | stopNotifyReturns =>
      simp only [System.step, Option.ite_none_right_eq_some,
        Option.some.injEq] at stepped
      obtain ⟨_, rfl⟩ := stepped
      exact ⟨.refl _, rfl⟩
  | stopNotifyRaises exc =>
      simp only [System.step, Option.ite_none_right_eq_some] at stepped
      obtain ⟨_, stepped⟩ := stepped
      split at stepped <;> cases stepped <;> exact ⟨.refl _, rfl⟩
  | joinStep =>
      simp only [System.step] at stepped
      split at stepped
      case h_1 =>
        rw [Option.map_eq_some_iff] at stepped
        obtain ⟨_, _, rfl⟩ := stepped
        exact ⟨.refl _, rfl⟩
      case h_2 => cases stepped
  | stopStep => exact agrees_stopStep stepped

end Live
end BoschBle
