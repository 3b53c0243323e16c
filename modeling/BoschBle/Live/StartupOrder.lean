import BoschBle.Live.SessionRun

/-!
# The order of startup packets

The reply to the handshake goes out first, and behind it the replies to
everything the peer asked, in the order in which it asked.  `StartupOrder` ties
the pending list, the ready flag and the queue to the events so far.
-/

namespace BoschBle
namespace Live

open Foundation Mcsp

theorem framesReceived_append (events : List Event) (event : Event) :
    framesReceived (events ++ [event]) =
      framesReceived events ++ framesReceived [event] := by
  rw [framesReceived, List.filterMap_append, List.flatMap_append]
  rfl

theorem framesReceived_notification (notification : Notification) :
    framesReceived [.notification notification] = framesOf notification :=
  List.append_nil _

variable {World : Type} {callbacks : Callbacks World}

theorem repliesReceived_append (events : List Event) (event : Event) :
    repliesReceived callbacks (events ++ [event]) =
      repliesReceived callbacks events ++ repliesReceived callbacks [event] := by
  rw [repliesReceived, framesReceived_append, List.flatMap_append]
  rfl

/-- Where the replies are, before and after the handshake is answered. -/
def StartupOrder
    (callbacks : Callbacks World)
    (events : List Event)
    (session : McspLiveSession) : Prop :=
  match events.filterMap Event.handshakeCall with
  | [] =>
      session.packets = [] ∧
        session.startupPacketsPending = repliesReceived callbacks events ∧
        session.startupReady = false
  | commands :: _ =>
      ∃ response, buildHandshakeResponse commands = .ok response ∧
        session.packets = response ++ repliesReceived callbacks events ∧
        session.startupPacketsPending = [] ∧
        session.startupReady = true

/-- An event that brings neither replies nor packets keeps the order. -/
theorem StartupOrder.agrees
    {events : List Event} {event : Event} {before after : McspLiveSession}
    (order : StartupOrder callbacks events before)
    (same : before.Agrees after)
    (silent : event.notified = none)
    (uncalled : event.handshakeCall = none) :
    StartupOrder callbacks (events ++ [event]) after := by
  have replies_eq : repliesReceived callbacks (events ++ [event]) =
      repliesReceived callbacks events := by
    rw [repliesReceived_append]
    unfold repliesReceived framesReceived
    rw [List.filterMap_cons_none silent]
    exact List.append_nil _
  unfold StartupOrder at order ⊢
  rw [List.filterMap_append, List.filterMap_cons_none uncalled,
    List.filterMap_nil, List.append_nil, replies_eq, same.packets,
    same.pending, same.ready]
  exact order

/-- A notification adds its replies to the place where they belong. -/
theorem StartupOrder.receive
    {events : List Event} {session : McspLiveSession}
    (order : StartupOrder callbacks events session)
    (notification : Notification) :
    StartupOrder callbacks (events ++ [.notification notification])
      (session.receive callbacks notification) := by
  obtain ⟨packets_eq, pending_eq, _, ready_eq⟩ :=
    session.receive_fields callbacks notification
  have replies_eq :
      repliesReceived callbacks (events ++ [.notification notification]) =
        repliesReceived callbacks events ++
          (framesOf notification).flatMap (repliesTo callbacks) := by
    rw [repliesReceived_append]
    unfold repliesReceived
    rw [framesReceived_notification]
  have calls_eq :
      (events ++ [Event.notification notification]).filterMap
          Event.handshakeCall =
        events.filterMap Event.handshakeCall := by
    rw [List.filterMap_append]
    exact List.append_nil _
  unfold StartupOrder at order ⊢
  rw [calls_eq, replies_eq, packets_eq, pending_eq, ready_eq]
  cases calls : events.filterMap Event.handshakeCall with
  | nil =>
      rw [calls] at order
      obtain ⟨packets, pending, ready⟩ := order
      rw [packets, pending, ready]
      simp
  | cons commands rest =>
      rw [calls] at order
      obtain ⟨response, builds, packets, pending, ready⟩ := order
      refine ⟨response, builds, ?_⟩
      rw [packets, pending, ready]
      simp

/-- The first reply to a handshake releases what was held back. -/
theorem StartupOrder.answer
    {events : List Event} {before after : McspLiveSession}
    {commands : List Command}
    (order : StartupOrder callbacks events before)
    (first : events.filterMap Event.handshakeCall = [])
    (queues : before.queueHandshakeResponse commands = .ok after) :
    StartupOrder callbacks (events ++ [.queueHandshakeResponse commands])
      after := by
  obtain ⟨response, builds, packets_eq, pending_eq, _, ready_eq, _⟩ :=
    McspLiveSession.queueHandshakeResponse_fields queues
  have replies_eq :
      repliesReceived callbacks
        (events ++ [.queueHandshakeResponse commands]) =
          repliesReceived callbacks events := by
    rw [repliesReceived_append]
    exact List.append_nil _
  have calls_eq :
      (events ++ [Event.queueHandshakeResponse commands]).filterMap
        Event.handshakeCall = [commands] := by
    rw [List.filterMap_append, first]
    rfl
  unfold StartupOrder at order ⊢
  rw [first] at order
  obtain ⟨packets, pending, _⟩ := order
  rw [calls_eq, replies_eq]
  refine ⟨response, builds, ?_, pending_eq, ready_eq⟩
  rw [packets_eq, packets, pending, List.nil_append]

theorem startupOrder_of_run
    {world : World} {events : List Event} {final : System World}
    (run : Run (System.step callbacks) Anything (System.initial world) events
      final)
    (noDirect : ∀ packets, Event.queuePackets packets ∉ events)
    (once : (events.filterMap Event.handshakeCall).length ≤ 1)
    (returns : ∀ notification, Event.notification notification ∈ events ->
      callbacks.ReturnOn notification) :
    StartupOrder callbacks events final.session := by
  induction run with
  | nil => exact ⟨rfl, rfl, rfl⟩
  | @snoc events before after event run _ stepped inductionHypothesis =>
      have earlierOnce : (events.filterMap Event.handshakeCall).length ≤ 1 := by
        rw [List.filterMap_append, List.length_append] at once
        omega
      have order := inductionHypothesis
        (fun packets present =>
          noDirect packets (List.mem_append_left _ present))
        earlierOnce
        (fun notification present =>
          returns notification (List.mem_append_left _ present))
      have session_eq := session_of_step callbacks stepped
      have last : event ∈ events ++ [event] :=
        List.mem_append_right _ (List.mem_singleton_self event)
      cases event with
      | notification notification =>
          obtain ⟨environment, handled, environment_eq⟩ :=
            notifyHandler_session (returns notification last)
              ⟨before.session, before.world⟩
          change after.session = _ at session_eq
          rw [session_eq, handled, environment_eq]
          exact order.receive notification
      | queueHandshakeResponse commands =>
          have first : events.filterMap Event.handshakeCall = [] := by
            rw [List.filterMap_append, List.length_append] at once
            have length_eq : ([Event.queueHandshakeResponse commands].filterMap
              Event.handshakeCall).length = 1 := rfl
            exact List.length_eq_zero_iff.mp (by omega)
          exact order.answer first session_eq
      | queuePackets packets => exact absurd last (noDirect packets)
      | handshakeTimeout =>
          change after.session = _ at session_eq
          rw [session_eq]
          exact order.agrees before.session.agrees_timeOutHandshake rfl rfl
      | _ => exact order.agrees session_eq.1 rfl rfl

/-- While its callbacks return, a session whose packets come from the replies
alone sends nothing before the handshake is answered, and then the reply to the
handshake followed by the replies to all messages received so far, in order. -/
theorem packets_follow_handshake
    (callbacks : Callbacks World)
    {world : World} {events : List Event} {final : System World}
    (run : Run (System.step callbacks) Anything (System.initial world) events
      final)
    (noDirect : ∀ packets, Event.queuePackets packets ∉ events)
    (once : (events.filterMap Event.handshakeCall).length ≤ 1)
    (returns : ∀ notification, Event.notification notification ∈ events ->
      callbacks.ReturnOn notification) :
    match events.filterMap Event.handshakeCall with
    | [] => final.packets = []
    | commands :: _ =>
        ∃ response, buildHandshakeResponse commands = .ok response ∧
          final.packets = response ++ repliesReceived callbacks events := by
  have order := startupOrder_of_run run noDirect once returns
  unfold StartupOrder at order
  cases calls : events.filterMap Event.handshakeCall with
  | nil =>
      rw [calls] at order
      exact order.1
  | cons commands rest =>
      rw [calls] at order
      obtain ⟨response, builds, packets_eq, _⟩ := order
      exact ⟨response, builds, packets_eq⟩

/-- A responder that sends every payload back as it came. -/
def echoCallbacks : Callbacks Unit where
  startupResponder := some fun frame _ => .ok [frame.payload]

theorem echoCallbacks_neverRaise : echoCallbacks.NeverRaise where
  startupResponder := by
    intro startupResponder set frame decoded
    cases set
    exact ⟨[frame.payload], rfl⟩
  onNotify := nofun
  onFrame := nofun
  onCommand := nofun
  onMessage := nofun
  onDecodeError := nofun
  onSend := nofun

/-- One message before the handshake is answered and one after it. -/
theorem packets_follow_handshake_echo :
    ∃ final : System Unit, ∃ response,
      Run (System.step echoCallbacks) Anything (System.initial ())
        [ .startCalled,
          .notification ⟨"MCSP", [0x30, 0x03, 0x80, 0x88, 0x01]⟩,
          .queueHandshakeResponse [],
          .notification ⟨"MCSP", [0x30, 0x03, 0x80, 0x88, 0x02]⟩ ] final ∧
      buildHandshakeResponse [] = .ok response ∧
      final.packets =
        response ++ [[0x80, 0x88, 0x01], [0x80, 0x88, 0x02]] := by
  have run := Run.of_execute (System.step echoCallbacks) Anything
    (System.initial ())
    [ .startCalled,
      .notification ⟨"MCSP", [0x30, 0x03, 0x80, 0x88, 0x01]⟩,
      .queueHandshakeResponse [],
      .notification ⟨"MCSP", [0x30, 0x03, 0x80, 0x88, 0x02]⟩ ] rfl
  obtain ⟨response, builds, packets_eq⟩ :=
    packets_follow_handshake echoCallbacks run (by simp) (by decide)
      fun notification _ => echoCallbacks_neverRaise.returnOn notification
  exact ⟨_, response, run, builds, packets_eq⟩

end Live
end BoschBle
