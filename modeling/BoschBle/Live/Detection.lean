import BoschBle.Live.StartupOrder

/-!
# When the handshake is detected

The check at the end of a notification sees all commands received so far.  It
compares the set of advanced channels with the seven data channels, so it
misses a complete handshake once the window of the command channel itself has
been advanced.  The results of this module say exactly when that happens, for
every way to pack the frames into notifications.
-/

namespace BoschBle
namespace Live

open Foundation Mcsp

theorem commandsReceived_append (events : List Event) (event : Event) :
    commandsReceived (events ++ [event]) =
      commandsReceived events ++ commandsReceived [event] := by
  rw [commandsReceived, framesReceived_append, List.filterMap_append]
  rfl

/-- What was received in a prefix stays received. -/
theorem commandsReceived_subset
    {prior events : List Event}
    (earlier : prior <+: events) :
    commandsReceived prior ⊆ commandsReceived events := by
  obtain ⟨rest, rfl⟩ := earlier
  unfold commandsReceived framesReceived
  rw [List.filterMap_append, List.flatMap_append, List.filterMap_append]
  exact List.subset_append_left _ _

/-- The required commands are complete with the last event and not before. -/
def Completes (events : List Event) : Prop :=
  RequiredSeen (commandsReceived events) ∧
    ∀ prior, prior <+: events -> prior ≠ events ->
      ¬RequiredSeen (commandsReceived prior)

/-- A complete handshake was completed by some prefix. -/
theorem exists_completes
    {events : List Event}
    (seen : RequiredSeen (commandsReceived events)) :
    ∃ prior, prior <+: events ∧ Completes prior := by
  induction events using List.reverseRecOn with
  | nil =>
      refine ⟨[], List.prefix_rfl, seen, ?_⟩
      intro prior earlier other
      exact absurd (List.prefix_nil.mp earlier) other
  | append_singleton events event inductionHypothesis =>
      by_cases already : RequiredSeen (commandsReceived events)
      · obtain ⟨prior, earlier, completes⟩ := inductionHypothesis already
        exact ⟨prior, earlier.trans (List.prefix_append _ _), completes⟩
      · refine ⟨_, List.prefix_rfl, seen, ?_⟩
        intro prior earlier other early
        rcases List.prefix_concat_iff.mp earlier with same | earlier
        · exact other same
        · exact already (early.mono (commandsReceived_subset earlier))

/-- The wait was over at some point: it timed out, or a check succeeded. -/
def SettledBy (events : List Event) : Prop :=
  Event.handshakeTimeout ∈ events ∨
    ∃ prior, prior <+: events ∧ isBikeHandshake (commandsReceived prior)

theorem settledBy_append {events : List Event} {event : Event} :
    SettledBy (events ++ [event]) ↔
      SettledBy events ∨ event = .handshakeTimeout ∨
        isBikeHandshake (commandsReceived (events ++ [event])) := by
  unfold SettledBy
  constructor
  · rintro (timeout | ⟨prior, earlier, detects⟩)
    · rcases List.mem_append.mp timeout with before | last
      · exact Or.inl (Or.inl before)
      · exact Or.inr (Or.inl (List.mem_singleton.mp last).symm)
    · rcases List.prefix_concat_iff.mp earlier with rfl | earlier
      · exact Or.inr (Or.inr detects)
      · exact Or.inl (Or.inr ⟨prior, earlier, detects⟩)
  · rintro ((timeout | ⟨prior, earlier, detects⟩) | rfl | detects)
    · exact Or.inl (List.mem_append_left _ timeout)
    · exact Or.inr ⟨prior, earlier.trans (List.prefix_append _ _), detects⟩
    · exact Or.inl (List.mem_append_right _ (List.mem_singleton_self _))
    · exact Or.inr ⟨_, List.prefix_rfl, detects⟩

/-- An event without commands settles the wait only by timing out. -/
theorem settledBy_append_of_silent
    {events : List Event} {event : Event}
    (silent : commandsReceived [event] = [])
    (other : event ≠ .handshakeTimeout) :
    SettledBy (events ++ [event]) ↔ SettledBy events := by
  rw [settledBy_append, commandsReceived_append, silent, List.append_nil]
  constructor
  · rintro (settled | timeout | detects)
    · exact settled
    · exact absurd timeout other
    · exact Or.inr ⟨events, List.prefix_rfl, detects⟩
  · exact Or.inl

/-- The check at the end of a notification. -/
theorem done_checkHandshake (session : McspLiveSession) :
    session.checkHandshake.handshakeFuture.done ↔
      session.handshakeFuture.done ∨
        isBikeHandshake session.handshakeCommands := by
  unfold McspLiveSession.checkHandshake
  by_cases done : session.handshakeFuture.done
  · simp [done]
  · by_cases detects : isBikeHandshake session.handshakeCommands
    · simp [done, detects]
    · simp [done, detects]

variable {World : Type} {callbacks : Callbacks World}

/-- The commands of the session are those received, and its future is done
exactly when the wait was settled. -/
structure Detects (events : List Event) (session : McspLiveSession) : Prop where
  commands : session.handshakeCommands = commandsReceived events
  settled : session.handshakeFuture.done ↔ SettledBy events

theorem Detects.agrees
    {events : List Event} {event : Event} {before after : McspLiveSession}
    (detects : Detects events before)
    (same : before.Agrees after)
    (future_eq : after.handshakeFuture = before.handshakeFuture)
    (silent : commandsReceived [event] = [])
    (other : event ≠ .handshakeTimeout) :
    Detects (events ++ [event]) after where
  commands := by
    rw [same.commands, detects.commands, commandsReceived_append, silent,
      List.append_nil]
  settled := by
    rw [future_eq, settledBy_append_of_silent silent other]
    exact detects.settled

theorem Detects.receive
    {events : List Event} {session : McspLiveSession}
    (detects : Detects events session)
    (notification : Notification) :
    Detects (events ++ [.notification notification])
      (session.receive callbacks notification) := by
  have received : commandsReceived [.notification notification] =
      (framesOf notification).filterMap commandOf := by
    rw [commandsReceived, framesReceived_notification]
  obtain ⟨_, _, commands_eq, _⟩ := session.receive_fields callbacks notification
  refine ⟨?_, ?_⟩
  · rw [commands_eq, detects.commands, commandsReceived_append, received]
  · cases splits : splitFrames notification.data with
    | error exc =>
        have none : commandsReceived [.notification notification] = [] := by
          rw [received, framesOf, splits]
          rfl
        rw [settledBy_append_of_silent none (by simp),
          McspLiveSession.receive, splits]
        exact detects.settled
    | ok frames =>
        have frames_eq : framesOf notification = frames := by
          rw [framesOf, splits]
          rfl
        obtain ⟨_, _, commands_eq, _, future_eq⟩ :=
          session.receiveFrames_fields callbacks frames
        rw [McspLiveSession.receive, splits]
        simp only
        rw [done_checkHandshake, commands_eq, future_eq, detects.settled,
          detects.commands, settledBy_append, commandsReceived_append,
          received, frames_eq]
        simp

theorem Detects.timeOut
    {events : List Event} {session : McspLiveSession}
    (detects : Detects events session) :
    Detects (events ++ [.handshakeTimeout]) session.timeOutHandshake where
  commands := by
    rw [(session.agrees_timeOutHandshake).commands, detects.commands,
      commandsReceived_append]
    exact (List.append_nil _).symm
  settled := by
    rw [settledBy_append]
    unfold McspLiveSession.timeOutHandshake
    by_cases done : session.handshakeFuture.done
    · simp [done]
    · simp [done]

/-- Along a run whose callbacks return, the future follows the events. -/
theorem detects_of_run
    {world : World} {events : List Event} {final : System World}
    (run : Run (System.step callbacks) Anything (System.initial world) events
      final)
    (returns : ∀ notification, Event.notification notification ∈ events ->
      callbacks.ReturnOn notification) :
    Detects events final.session := by
  induction run with
  | nil =>
      refine ⟨rfl, ?_⟩
      constructor
      · intro impossible
        cases impossible
      · rintro (impossible | ⟨prior, earlier, detects⟩)
        · cases impossible
        · rw [List.prefix_nil.mp earlier] at detects
          cases detects
  | @snoc events before after event run _ stepped inductionHypothesis =>
      have detects := inductionHypothesis fun notification present =>
        returns notification (List.mem_append_left _ present)
      have session_eq := session_of_step callbacks stepped
      cases event with
      | notification notification =>
          have last := List.mem_append_right events
            (List.mem_singleton_self (Event.notification notification))
          obtain ⟨environment, handled, environment_eq⟩ :=
            notifyHandler_session (returns notification last)
              ⟨before.session, before.world⟩
          change after.session = _ at session_eq
          rw [session_eq, handled, environment_eq]
          exact detects.receive notification
      | queueHandshakeResponse commands =>
          obtain ⟨_, _, _, _, commands_eq, _, future_eq⟩ :=
            McspLiveSession.queueHandshakeResponse_fields session_eq
          refine ⟨?_, ?_⟩
          · rw [commands_eq, detects.commands, commandsReceived_append]
            exact (List.append_nil _).symm
          · rw [future_eq, settledBy_append_of_silent rfl (by simp)]
            exact detects.settled
      | queuePackets packets =>
          change after.session = _ at session_eq
          rw [session_eq]
          refine ⟨?_, ?_⟩
          · rw [commandsReceived_append]
            exact detects.commands.trans (List.append_nil _).symm
          · rw [settledBy_append_of_silent rfl (by simp)]
            exact detects.settled
      | handshakeTimeout =>
          change after.session = _ at session_eq
          rw [session_eq]
          exact detects.timeOut
      | _ => exact detects.agrees session_eq.1 session_eq.2 rfl (by simp)

theorem future_done_iff {future : Future α} :
    future.done ↔ (∃ value, future = .resolved value) ∨ future = .cancelled := by
  cases future <;> simp [Future.done]

/-- Where the required commands are complete, the wait has timed out or the window of
the command channel has not been advanced. -/
def CompletesUnadvanced (events : List Event) : Prop :=
  ∀ prior, prior <+: events -> Completes prior ->
    Event.handshakeTimeout ∈ prior ∨ NoCommandAdvance (commandsReceived prior)

/-- Such an order of events has settled the wait once the required commands have been
received. -/
theorem CompletesUnadvanced.settledBy
    {events : List Event}
    (unadvanced : CompletesUnadvanced events)
    (seen : RequiredSeen (commandsReceived events)) :
    SettledBy events := by
  obtain ⟨first, earlier, completes⟩ := exists_completes seen
  rcases unadvanced first earlier completes with timeout | none
  · exact Or.inl (earlier.subset timeout)
  · exact Or.inr ⟨first, earlier, isBikeHandshake_iff.mpr ⟨completes.1, none⟩⟩

theorem CompletesUnadvanced.of_prefix
    {prior events : List Event}
    (unadvanced : CompletesUnadvanced events)
    (earlier : prior <+: events) :
    CompletesUnadvanced prior :=
  fun first firstPrefix => unadvanced first (firstPrefix.trans earlier)

/-- Without a timeout, the handshake is then detected exactly when the required
commands have been received. -/
theorem Detects.done_iff
    {events : List Event} {session : McspLiveSession}
    (detects : Detects events session)
    (untimed : Event.handshakeTimeout ∉ events)
    (unadvanced : CompletesUnadvanced events) :
    session.handshakeFuture.done ↔ RequiredSeen (commandsReceived events) := by
  rw [detects.settled]
  constructor
  · rintro (timeout | ⟨prior, earlier, detected⟩)
    · exact absurd timeout untimed
    · exact (isBikeHandshake_iff.mp detected).1.mono
        (commandsReceived_subset earlier)
  · exact unadvanced.settledBy

/-- While its callbacks return, a session has its handshake future done
whenever the required commands have been received, in every state of a run,
exactly when the event that completes them finds the wait timed out or no
advance of the command channel received.  Two packings of the same frames of
which both are such are both detected or both not. -/
theorem handshake_detected_iff
    (callbacks : Callbacks World)
    {world : World} {events : List Event} {final : System World}
    (run : Run (System.step callbacks) Anything (System.initial world) events
      final)
    (returns : ∀ notification, Event.notification notification ∈ events ->
      callbacks.ReturnOn notification) :
    ((∀ prior middle, prior <+: events ->
        Run (System.step callbacks) Anything (System.initial world) prior
          middle ->
        RequiredSeen (commandsReceived prior) ->
          (∃ commands, middle.session.handshakeFuture = .resolved commands) ∨
            middle.session.handshakeFuture = .cancelled) ↔
      CompletesUnadvanced events) ∧
    (∀ otherEvents otherFinal,
      Run (System.step callbacks) Anything (System.initial world) otherEvents
        otherFinal ->
      (∀ notification, Event.notification notification ∈ otherEvents ->
        callbacks.ReturnOn notification) ->
      framesReceived otherEvents = framesReceived events ->
      Event.handshakeTimeout ∉ events ->
      Event.handshakeTimeout ∉ otherEvents ->
      CompletesUnadvanced events ->
      CompletesUnadvanced otherEvents ->
        (otherFinal.session.handshakeFuture.done ↔
          final.session.handshakeFuture.done)) := by
  have returnsOn {prior : List Event} (earlier : prior <+: events)
      (notification : Notification)
      (present : Event.notification notification ∈ prior) :
      callbacks.ReturnOn notification :=
    returns notification (earlier.subset present)
  refine ⟨⟨?_, ?_⟩, ?_⟩
  · intro detected prior earlier completes
    obtain ⟨middle, priorRun⟩ := run.of_prefix earlier
    have done := future_done_iff.mpr
      (detected prior middle earlier priorRun completes.1)
    rw [(detects_of_run priorRun (returnsOn earlier)).settled] at done
    rcases done with timeout | ⟨shorter, shorterPrefix, detects⟩
    · exact Or.inl timeout
    · obtain ⟨seen, none⟩ := isBikeHandshake_iff.mp detects
      by_cases same : shorter = prior
      · rw [same] at none
        exact Or.inr none
      · exact absurd seen (completes.2 shorter shorterPrefix same)
  · intro unadvanced prior middle earlier priorRun seen
    rw [← future_done_iff,
      (detects_of_run priorRun (returnsOn earlier)).settled]
    exact (unadvanced.of_prefix earlier).settledBy seen
  · intro otherEvents otherFinal otherRun otherReturns sameFrames untimed
      otherUntimed unadvanced otherUnadvanced
    have same : commandsReceived otherEvents = commandsReceived events := by
      rw [commandsReceived, sameFrames, commandsReceived]
    rw [(detects_of_run otherRun otherReturns).done_iff otherUntimed otherUnadvanced,
      (detects_of_run run returns).done_iff untimed unadvanced, same]

/-- The commands of a complete handshake, followed by an advance of the command
channel itself. -/
def ADVANCED_HANDSHAKE : List Command :=
  [ .versionCommand 3,
    .maxSegmentationPacketCommand 244 ] ++
    NON_COMMAND_CHANNELS.map (Command.advanceTransmitWindowCommand · 1) ++
    [.advanceTransmitWindowCommand .command 1]

/-- A notification that carries the given commands, a frame each. -/
def commandNotification (commands : List Command) : Notification where
  sender := "MCSP"
  data := frameFormat.encodeAll (commands.map commandFrame)

/-- The plain handshake is detected. -/
theorem handshake_detected_iff_plain :
    ∃ final : System Unit,
      Run (System.step {}) Anything (System.initial ())
        [ .startCalled,
          .notification (commandNotification (ADVANCED_HANDSHAKE.take 9)) ]
        final ∧
      ((∃ commands, final.session.handshakeFuture = .resolved commands) ∨
        final.session.handshakeFuture = .cancelled) := by
  have run := Run.of_execute (System.step {}) Anything (System.initial ())
    [ .startCalled,
      .notification (commandNotification (ADVANCED_HANDSHAKE.take 9)) ] rfl
  have received : commandsReceived
      [ .startCalled,
        .notification (commandNotification (ADVANCED_HANDSHAKE.take 9)) ] =
          ADVANCED_HANDSHAKE.take 9 := by
    decide
  have seen : RequiredSeen (ADVANCED_HANDSHAKE.take 9) :=
    { version := by decide
      maxPacket := ⟨244, by decide⟩
      advances := fun channel other =>
        ⟨1, by cases channel <;> first | exact absurd rfl other | decide⟩ }
  have none : NoCommandAdvance (ADVANCED_HANDSHAKE.take 9) := by
    intro advance present
    simp [ADVANCED_HANDSHAKE, NON_COMMAND_CHANNELS] at present
  refine ⟨_, run, (handshake_detected_iff {} run fun notification _ =>
    Callbacks.neverRaise_none.returnOn notification).1.mpr ?_ _ _
      List.prefix_rfl run (by rw [received]; exact seen)⟩
  intro prior earlier _
  refine Or.inr (NoCommandAdvance.mono (commandsReceived_subset earlier) ?_)
  rw [received]
  exact none

/-- In one notification the handshake is missed; in two it is detected. -/
theorem handshake_missed_in_one_notification :
    ∃ missed detected : System Unit,
      Run (System.step {}) Anything (System.initial ())
        [ .startCalled,
          .notification (commandNotification ADVANCED_HANDSHAKE) ] missed ∧
      Run (System.step {}) Anything (System.initial ())
        [ .startCalled,
          .notification (commandNotification (ADVANCED_HANDSHAKE.take 9)),
          .notification (commandNotification (ADVANCED_HANDSHAKE.drop 9)) ]
        detected ∧
      missed.session.handshakeCommands = ADVANCED_HANDSHAKE ∧
      RequiredSeen missed.session.handshakeCommands ∧
      missed.session.handshakeFuture = .pending ∧
      detected.session.handshakeCommands = ADVANCED_HANDSHAKE ∧
      detected.session.handshakeFuture =
        .resolved (ADVANCED_HANDSHAKE.take 9) := by
  have missedRun := Run.of_execute (System.step {}) Anything
    (System.initial ())
    [ .startCalled,
      .notification (commandNotification ADVANCED_HANDSHAKE) ] rfl
  have detectedRun := Run.of_execute (System.step {}) Anything
    (System.initial ())
    [ .startCalled,
      .notification (commandNotification (ADVANCED_HANDSHAKE.take 9)),
      .notification (commandNotification (ADVANCED_HANDSHAKE.drop 9)) ] rfl
  have seen : RequiredSeen ADVANCED_HANDSHAKE :=
    { version := by decide
      maxPacket := ⟨244, by decide⟩
      advances := fun channel other =>
        ⟨1, by cases channel <;> first | exact absurd rfl other | decide⟩ }
  refine ⟨_, _, missedRun, detectedRun, ?_, ?_, ?_, ?_, ?_⟩
  · decide
  · exact seen
  · decide
  · decide
  · decide

end Live
end BoschBle
