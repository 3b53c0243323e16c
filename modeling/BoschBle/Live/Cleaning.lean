import BoschBle.Live.SessionRun

/-!
# Malformed input

A notification that does not split and a frame that does not decode are
reported to a callback and otherwise ignored.  Cleaning a run removes both, and
the run that is left reaches the same system but for the world of the
callbacks.
-/

namespace BoschBle
namespace Live

open Foundation Mcsp

/-- Whether the payload of a frame decodes. -/
def isDecodable (frame : Frame) : Bool :=
  (commandOf frame).isSome || (messageOf frame).isSome

/-- A notification with only the decodable ones of its frames. -/
def Notification.keeping
    (notification : Notification)
    (frames : List Frame) : Notification :=
  { notification with data := frameFormat.encodeAll (frames.filter isDecodable) }

/-- Drop a notification that does not split, and undecodable frames from one
that does. -/
def Event.cleaned : Event -> List Event
  | .notification delivered =>
      match splitFrames delivered.data with
      | .error _ => []
      | .ok frames => [.notification (delivered.keeping frames)]
  | other => [other]

theorem cleaned_of_error
    {notification : Notification} {exc : Exn}
    (rejected : splitFrames notification.data = .error exc) :
    (Event.notification notification).cleaned = [] := by
  simp only [Event.cleaned, rejected]

theorem cleaned_of_ok
    {notification : Notification} {frames : List Frame}
    (splits : splitFrames notification.data = .ok frames) :
    (Event.notification notification).cleaned =
      [.notification (notification.keeping frames)] := by
  simp only [Event.cleaned, splits]

/-- The cleaned notification splits into the decodable frames. -/
theorem splitFrames_keeping
    {notification : Notification} {frames : List Frame}
    (splits : splitFrames notification.data = .ok frames) :
    splitFrames (notification.keeping frames).data =
      .ok (frames.filter isDecodable) := by
  obtain ⟨fits, _⟩ := encodeAll_of_splitFrames splits
  exact splitFrames_encodeAll fun frame present =>
    fits frame (List.mem_of_mem_filter present)

variable {World : Type} {callbacks : Callbacks World}

/-- A frame that does not decode does not touch the session. -/
theorem receiveFrame_of_undecodable
    (session : McspLiveSession)
    {frame : Frame}
    (bad : ¬isDecodable frame) :
    session.receiveFrame callbacks frame = session := by
  rw [isDecodable, Bool.or_eq_true, not_or, Option.not_isSome_iff_eq_none,
    Option.not_isSome_iff_eq_none] at bad
  unfold McspLiveSession.receiveFrame repliesTo
  rw [bad.1, bad.2]
  cases callbacks.startupResponder <;> rfl

theorem receiveFrames_filter
    (session : McspLiveSession)
    (frames : List Frame) :
    session.receiveFrames callbacks (frames.filter isDecodable) =
      session.receiveFrames callbacks frames := by
  induction frames generalizing session with
  | nil => rfl
  | cons frame rest inductionHypothesis =>
      by_cases good : isDecodable frame
      · rw [List.filter_cons_of_pos good]
        exact inductionHypothesis (session.receiveFrame callbacks frame)
      · rw [List.filter_cons_of_neg good]
        have skipped : session.receiveFrame callbacks frame = session :=
          receiveFrame_of_undecodable session good
        change _ = (session.receiveFrame callbacks frame).receiveFrames
          callbacks rest
        rw [skipped]
        exact inductionHypothesis session

theorem receive_keeping
    (session : McspLiveSession)
    {notification : Notification} {frames : List Frame}
    (splits : splitFrames notification.data = .ok frames) :
    session.receive callbacks (notification.keeping frames) =
      session.receive callbacks notification := by
  unfold McspLiveSession.receive
  rw [splits, splitFrames_keeping splits]
  simp only [receiveFrames_filter]

/-! ## The world of the callbacks -/

/-- Replace the world of the callbacks. -/
def System.withWorld (system : System World) (world : World) : System World :=
  { system with world := world }

theorem taskDone_withWorld
    (system : System World) (world : World) (next : Writer) :
    (system.withWorld world).taskDone next =
      (system.taskDone next).withWorld world := by
  unfold System.taskDone System.withWorld
  dsimp only
  split <;> rfl

theorem stopStep_withWorld (system : System World) (world : World) :
    (system.withWorld world).stopStep =
      system.stopStep.map (·.withWorld world) := by
  unfold System.stopStep System.withWorld
  dsimp only
  split
  · split
    · rfl
    · split <;> rfl
  · rw [Option.map_map]
    rfl
  · rfl
  · rfl

/-- A write is started in any world when `on_send` returns in it. -/
theorem writerGet_withWorld
    (neverRaise : callbacks.NeverRaise)
    {before after : System World}
    (world : World)
    (stepped : before.writerGet callbacks = some after) :
    ∃ otherWorld, (before.withWorld world).writerGet callbacks =
      some (after.withWorld otherWorld) := by
  have sends (packet : Bytes) (anywhere : World) :
      ∃ later, System.callOnSend callbacks packet anywhere = (.ok (), later) := by
    unfold System.callOnSend
    cases set : callbacks.onSend with
    | none => exact ⟨anywhere, rfl⟩
    | some onSend =>
        obtain ⟨_, later, run⟩ :=
          neverRaise.onSend onSend set packet anywhere
        exact ⟨later, run⟩
  unfold System.writerGet System.withWorld at *
  cases writer : before.writer with
  | getting =>
      cases gets : before.session.sendQueue.getNowait with
      | none =>
          rw [writer, gets] at stepped
          cases stepped
      | some taken =>
          obtain ⟨item, queue⟩ := taken
          rw [writer, gets] at stepped
          cases item with
          | none =>
              cases stepped
              refine ⟨world, ?_⟩
              simp only [Option.some.injEq]
              exact taskDone_withWorld { before with
                session := { before.session with sendQueue := queue } }
                world .returned
          | some packet =>
              obtain ⟨later, run⟩ := sends packet before.world
              obtain ⟨otherLater, otherRun⟩ := sends packet world
              simp only [run, Option.some.injEq] at stepped
              subst stepped
              refine ⟨otherLater, ?_⟩
              simp only [otherRun]
  | _ =>
      rw [writer] at stepped
      cases stepped

/-- Every step that is not a notification is made in any world alike. -/
theorem step_withWorld
    (neverRaise : callbacks.NeverRaise)
    {before after : System World} {event : Event}
    (world : World)
    (silent : event.notified = none)
    (stepped : before.step callbacks event = some after) :
    ∃ otherWorld, (before.withWorld world).step callbacks event =
      some (after.withWorld otherWorld) := by
  cases event with
  | notification notification => cases silent
  | writerGet => exact writerGet_withWorld neverRaise world stepped
  | stopStep =>
      refine ⟨world, (stopStep_withWorld before world).trans ?_⟩
      rw [show before.stopStep = some after from stepped, Option.map_some]
  | writeReturns =>
      simp only [System.step] at stepped
      split at stepped
      case h_1 packet writing =>
        cases stepped
        refine ⟨world, ?_⟩
        simp only [System.step, System.withWorld, writing, Option.some.injEq]
        exact taskDone_withWorld
          { before with written := before.written ++ [packet] } world .getting
      case h_2 => cases stepped
  | writeRaises exc =>
      simp only [System.step] at stepped
      split at stepped
      case h_1 packet writing =>
        cases stepped
        refine ⟨world, ?_⟩
        simp only [System.step, System.withWorld, writing, Option.some.injEq]
        exact taskDone_withWorld
          { before with failures := before.failures ++ [exc] } world
          (.failed exc)
      case h_2 => cases stepped
  | queueHandshakeResponse commands =>
      refine ⟨world, ?_⟩
      simp only [System.step] at stepped
      simp only [System.step, System.withWorld]
      split at stepped <;> cases stepped <;> rfl
  | joinStep =>
      refine ⟨world, ?_⟩
      simp only [System.step] at stepped
      split at stepped
      case h_1 stopError join waiting =>
        rw [Option.map_eq_some_iff] at stepped
        obtain ⟨polled, polls, rfl⟩ := stepped
        simp only [System.step, System.withWorld, waiting, polls,
          Option.map_some]
      case h_2 => cases stepped
  | stopNotifyRaises exc =>
      refine ⟨world, ?_⟩
      simp only [System.step, Option.ite_none_right_eq_some] at stepped
      obtain ⟨stopping, stepped⟩ := stepped
      split at stepped
      case isTrue held =>
        cases stepped
        exact (if_pos stopping).trans (if_pos held)
      case isFalse breaks =>
        cases stepped
        exact (if_pos stopping).trans (if_neg breaks)
  | queuePackets packets =>
      cases stepped
      exact ⟨world, rfl⟩
  | handshakeTimeout =>
      cases stepped
      exact ⟨world, rfl⟩
  | _ =>
      refine ⟨world, ?_⟩
      simp only [System.step, Option.ite_none_right_eq_some,
        Option.some.injEq] at stepped
      obtain ⟨enabled, rfl⟩ := stepped
      exact if_pos enabled

/-- A notification and its cleaned form do the same to the session. -/
theorem notification_withWorld
    (neverRaise : callbacks.NeverRaise)
    {before after : System World} {notification : Notification}
    (world : World)
    (stepped :
      before.step callbacks (.notification notification) = some after) :
    ∃ otherWorld,
      Run (System.step callbacks) Anything (before.withWorld world)
        (Event.notification notification).cleaned
        (after.withWorld otherWorld) := by
  obtain ⟨handled, handles, session_eq⟩ :=
    notifyHandler_session (neverRaise.returnOn notification)
      ⟨before.session, before.world⟩
  simp only [System.step, Option.ite_none_left_eq_some,
    Option.some.injEq, handles] at stepped
  obtain ⟨started, rfl⟩ := stepped
  cases splits : splitFrames notification.data with
  | error exc =>
      rw [cleaned_of_error splits]
      rw [McspLiveSession.receive, splits] at session_eq
      refine ⟨world, ?_⟩
      simp only at session_eq ⊢
      rw [session_eq]
      exact Run.nil
  | ok frames =>
      obtain ⟨other, otherHandles, other_eq⟩ :=
        notifyHandler_session
          (neverRaise.returnOn (notification.keeping frames))
          ⟨before.session, world⟩
      rw [cleaned_of_ok splits]
      rw [receive_keeping _ splits] at other_eq
      refine ⟨other.world, Run.single trivial ?_⟩
      simp only [System.step, System.withWorld, if_neg started, otherHandles,
        other_eq, session_eq]

/-- With callbacks that never raise, the cleaned run reaches the same system
but for their world: a notification that does not split leaves the session as
it was, and an undecodable frame leaves no trace. -/
theorem cleaned_run_agrees
    (callbacks : Callbacks World)
    (neverRaise : callbacks.NeverRaise) :
    (∀ world events final,
      Run (System.step callbacks) Anything (System.initial world) events
        final ->
      ∃ cleaned otherWorld,
        Run (System.step callbacks) Anything (System.initial world)
          (events.flatMap Event.cleaned) cleaned ∧
        cleaned = final.withWorld otherWorld) ∧
    (∀ (notification : Notification) (frames : List Frame),
      splitFrames notification.data = .ok frames ->
        splitFrames (notification.keeping frames).data =
          .ok (frames.filter isDecodable)) ∧
    (∀ (notification : Notification) (exc : Exn),
      splitFrames notification.data = .error exc ->
        ∀ before : Env World, ∃ after,
          notifyHandler callbacks notification before = (.ok (), after) ∧
            after.session = before.session) := by
  refine ⟨?_, fun _ _ splits => splitFrames_keeping splits, ?_⟩
  · intro world events final run
    have answers : ∀ (before : System World) (event : Event)
        (after other : System World),
        (∃ otherWorld, other = before.withWorld otherWorld) ->
        Anything before event -> before.step callbacks event = some after ->
          ∃ otherAfter,
            Run (System.step callbacks) Anything other event.cleaned
              otherAfter ∧
            ∃ otherWorld, otherAfter = after.withWorld otherWorld := by
      rintro before event after _ ⟨world, rfl⟩ _ stepped
      cases event with
      | notification notification =>
          obtain ⟨otherWorld, run⟩ :=
            notification_withWorld neverRaise world stepped
          exact ⟨_, run, otherWorld, rfl⟩
      | _ =>
          obtain ⟨otherWorld, otherStepped⟩ :=
            step_withWorld neverRaise world rfl stepped
          exact ⟨_, Run.single trivial otherStepped, otherWorld, rfl⟩
    obtain ⟨cleaned, cleanedRun, otherWorld, cleaned_eq⟩ :=
      run.simulate answers ⟨world, rfl⟩
    exact ⟨cleaned, otherWorld, cleanedRun, cleaned_eq⟩
  · intro notification exc rejected before
    obtain ⟨after, handles, session_eq⟩ :=
      notifyHandler_session (neverRaise.returnOn notification) before
    refine ⟨after, handles, session_eq.trans ?_⟩
    rw [McspLiveSession.receive, rejected]

/-- Callbacks that collect the texts of decode errors. -/
def tracingCallbacks : Callbacks (List String) where
  onDecodeError := some fun _ exc =>
    Effect.modify fun errors => errors ++ [exc.message]

theorem tracingCallbacks_neverRaise : tracingCallbacks.NeverRaise where
  startupResponder := nofun
  onNotify := nofun
  onFrame := nofun
  onCommand := nofun
  onMessage := nofun
  onDecodeError := by
    intro onDecodeError set item exc
    cases set
    exact Effect.NeverRaises.modify _
  onSend := nofun

/-- A truncated notification and an unknown command next to a good one. -/
theorem cleaned_run_agrees_tracing :
    ∃ final cleaned : System (List String), ∃ otherWorld,
      Run (System.step tracingCallbacks) Anything (System.initial [])
        [ .startCalled,
          .notification ⟨"MCSP", [0x10, 0x02, 0x01]⟩,
          .notification
            ⟨"MCSP", [0x10, 0x01, 0x09, 0x10, 0x02, 0x01, 0x03]⟩ ] final ∧
      Run (System.step tracingCallbacks) Anything (System.initial [])
        [ .startCalled,
          .notification ⟨"MCSP", [0x10, 0x02, 0x01, 0x03]⟩ ] cleaned ∧
      final.session.handshakeCommands = [.versionCommand 3] ∧
      cleaned = final.withWorld otherWorld := by
  have run := Run.of_execute (System.step tracingCallbacks) Anything
    (System.initial [])
    [ .startCalled,
      .notification ⟨"MCSP", [0x10, 0x02, 0x01]⟩,
      .notification
        ⟨"MCSP", [0x10, 0x01, 0x09, 0x10, 0x02, 0x01, 0x03]⟩ ] rfl
  obtain ⟨cleaned, otherWorld, cleanedRun, cleaned_eq⟩ :=
    (cleaned_run_agrees tracingCallbacks tracingCallbacks_neverRaise).1
      [] _ _ run
  exact ⟨_, cleaned, otherWorld, run, cleanedRun, by decide, cleaned_eq⟩

end Live
end BoschBle
