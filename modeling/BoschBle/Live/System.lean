import BoschBle.Foundation.Transition
import BoschBle.Live.Session

/-!
# The tasks of a live session

Beside the notification callback a session has three tasks: the caller's
`start`, the writer, and the caller's `stop`, which joins the queue in a task of
its own.  A step of the system is what happens between two suspension points of
one of them, so every run is an interleaving that the event loop can produce.
The system also records what was written and what was raised.
-/

namespace BoschBle
namespace Live

open Foundation

/-- The call of `start`. -/
inductive StartTask
  | notCalled
  | startingNotify
  | returned
  | failed (exc : Exn)
  deriving DecidableEq

/-- The task that runs `_writer`. -/
inductive Writer
  | notStarted
  | getting
  | writing (packet : Bytes)
  | returned
  | failed (exc : Exn)
  deriving DecidableEq

/-- How the writer ended, if it has ended. -/
def Writer.result : Writer -> Option (Except Exn Unit)
  | .returned => some (.ok ())
  | .failed exc => some (.error exc)
  | _ => none

/-- The call of `stop`. -/
inductive StopTask
  | notCalled
  | stoppingNotify
  | waiting (stopError : Option Exn) (join : JoinTask)
  | awaitingWriter (stopError : Option Exn)
  | cancellingJoin (outcome : Except Exn Unit)
  | finished (outcome : Except Exn Unit)
  deriving DecidableEq

/-- The count of unfinished packets reached zero. -/
def StopTask.wakeJoin : StopTask -> StopTask
  | .waiting stopError join => .waiting stopError join.wake
  | other => other

/-- How `stop` ends once the writer has ended. -/
def stopOutcome
    (stopError : Option Exn)
    (writerResult : Except Exn Unit) : Except Exn Unit :=
  match writerResult, stopError with
  | .error exc, _ => .error exc
  | .ok (), some exc => .error exc
  | .ok (), none => .ok ()

/-- A session with its tasks. -/
structure System (World : Type) where
  session : McspLiveSession := {}
  world : World
  start : StartTask := .notCalled
  writer : Writer := .notStarted
  stop : StopTask := .notCalled
  /-- How `stop_notify` ended. -/
  stopNotify : Option (Except Exn Unit) := none
  /-- The packets of the writes that returned. -/
  written : List Bytes := []
  /-- What `on_send` and the writes raised. -/
  failures : List Exn := []

/-- What can happen next. -/
inductive Event
  | startCalled
  | startNotifyReturns
  | startNotifyRaises (exc : Exn)
  | notification (notification : Notification)
  | queueHandshakeResponse (commands : List Mcsp.Command)
  | queuePackets (packets : List Bytes)
  | handshakeTimeout
  | writerGet
  | writeReturns
  | writeRaises (exc : Exn)
  | stopCalled
  | stopNotifyReturns
  | stopNotifyRaises (exc : Exn)
  | joinStep
  | stopStep
  deriving DecidableEq

/-- Events in which a notification or a caller may put packets. -/
def Event.enqueues : Event -> Bool
  | .notification _ | .queueHandshakeResponse _ | .queuePackets _ => true
  | _ => false

namespace System

variable {World : Type} (callbacks : Callbacks World)

/-- The packets ever put into the send queue, oldest first. -/
def packets (system : System World) : List Bytes :=
  system.session.sendQueue.history.filterMap id

/-- The writer reports a task done and goes on as `next`. -/
def taskDone (system : System World) (next : Writer) : System World :=
  match system.session.sendQueue.taskDone with
  | .error exc => { system with writer := .failed exc }
  | .ok queue =>
      { system with
        session := { system.session with sendQueue := queue }
        writer := next
        stop := if queue.unfinished = 0 then system.stop.wakeJoin
          else system.stop }

/-- Call `on_send`. -/
def callOnSend (packet : Bytes) (world : World) : Except Exn Unit × World :=
  match callbacks.onSend with
  | none => (.ok (), world)
  | some onSend => onSend packet world

/-- The writer takes an item: the sentinel ends it, a packet goes through
`on_send` into a write. -/
def writerGet (system : System World) : Option (System World) :=
  match system.writer, system.session.sendQueue.getNowait with
  | .getting, some (item, queue) =>
      let system :=
        { system with session := { system.session with sendQueue := queue } }
      match item with
      | none => some (system.taskDone .returned)
      | some packet =>
          match callOnSend callbacks packet system.world with
          | (.ok (), world) =>
              some { system with world := world, writer := .writing packet }
          | (.error exc, world) =>
              some (taskDone
                { system with
                  world := world
                  failures := system.failures ++ [exc] }
                (.failed exc))
  | _, _ => none

/-- `stop` goes on behind `stop_notify`. -/
def joinOrFinish
    (system : System World)
    (stopError : Option Exn) : System World :=
  { system with
    stop :=
      if system.writer = .notStarted then
        .finished (stopOutcome stopError (.ok ()))
      else .waiting stopError .created }

/-- `stop` resumes from the wait it is in, if that wait is over. -/
def stopStep (system : System World) : Option (System World) :=
  match system.stop with
  | .waiting stopError join =>
      match system.writer.result with
      | some result =>
          let outcome := stopOutcome stopError result
          some { system with
            stop := if join = .done then .finished outcome
              else .cancellingJoin outcome }
      | none =>
          if join = .done then
            some { system with
              session :=
                { system.session with
                  sendQueue := system.session.sendQueue.putNowait none }
              stop := .awaitingWriter stopError }
          else none
  | .awaitingWriter stopError =>
      system.writer.result.map fun result =>
        { system with stop := .finished (stopOutcome stopError result) }
  | .cancellingJoin outcome => some { system with stop := .finished outcome }
  | _ => none

/-- One step of the system. -/
def step (system : System World) : Event -> Option (System World)
  | .startCalled =>
      if system.start = .notCalled then
        some { system with start := .startingNotify, writer := .getting }
      else none
  | .startNotifyReturns =>
      if system.start = .startingNotify then
        some { system with start := .returned }
      else none
  | .startNotifyRaises exc =>
      if system.start = .startingNotify then
        some { system with start := .failed exc }
      else none
  | .notification notification =>
      if system.start = .notCalled then none
      else
        let (_, after) :=
          notifyHandler callbacks notification ⟨system.session, system.world⟩
        some { system with session := after.session, world := after.world }
  | .queueHandshakeResponse commands =>
      match system.session.queueHandshakeResponse commands with
      | .ok session => some { system with session := session }
      | .error _ => some system
  | .queuePackets packets =>
      some { system with session := system.session.queuePackets packets }
  | .handshakeTimeout =>
      some { system with session := system.session.timeOutHandshake }
  | .writerGet => writerGet callbacks system
  | .writeReturns =>
      match system.writer with
      | .writing packet =>
          some (taskDone
            { system with written := system.written ++ [packet] } .getting)
      | _ => none
  | .writeRaises exc =>
      match system.writer with
      | .writing _ =>
          some (taskDone
            { system with failures := system.failures ++ [exc] } (.failed exc))
      | _ => none
  | .stopCalled =>
      if system.stop = .notCalled then
        some { system with stop := .stoppingNotify }
      else none
  | .stopNotifyReturns =>
      if system.stop = .stoppingNotify then
        some { joinOrFinish system none with stopNotify := some (.ok ()) }
      else none
  | .stopNotifyRaises exc =>
      if system.stop = .stoppingNotify then
        -- Only an `Exception` is held back until the writer has ended.
        if exc.type.isException then
          some { joinOrFinish system (some exc) with
            stopNotify := some (.error exc) }
        else
          some { system with
            stop := .finished (.error exc)
            stopNotify := some (.error exc) }
      else none
  | .joinStep =>
      match system.stop with
      | .waiting stopError join =>
          (join.poll system.session.sendQueue.unfinished).map fun polled =>
            { system with stop := .waiting stopError polled }
      | _ => none
  | .stopStep => stopStep system

/-- A system before `start`. -/
def initial (world : World) : System World where
  world := world

end System

/-! ## The send queue under the events that fill it -/

/-- The later queue is the earlier one with packets put behind it. -/
def Enqueues (before after : McspLiveSession) : Prop :=
  ∃ packets : List Bytes,
    after.sendQueue = before.sendQueue.putAll (packets.map some)

theorem Enqueues.refl (session : McspLiveSession) : Enqueues session session :=
  ⟨[], rfl⟩

theorem Enqueues.trans
    {before middle after : McspLiveSession}
    (first : Enqueues before middle)
    (second : Enqueues middle after) : Enqueues before after := by
  obtain ⟨earlier, middle_eq⟩ := first
  obtain ⟨later, after_eq⟩ := second
  refine ⟨earlier ++ later, ?_⟩
  rw [after_eq, middle_eq, List.map_append, AsyncQueue.putAll_append]

theorem enqueues_queuePackets (session : McspLiveSession) (packets : List Bytes) :
    Enqueues session (session.queuePackets packets) :=
  ⟨packets, rfl⟩

theorem enqueues_acceptPackets (session : McspLiveSession) (packets : List Bytes) :
    Enqueues session (session.acceptPackets packets) := by
  unfold McspLiveSession.acceptPackets
  split
  · exact Enqueues.refl session
  · split
    · exact enqueues_queuePackets session packets
    · exact Enqueues.refl session

theorem sendQueue_checkHandshake (session : McspLiveSession) :
    session.checkHandshake.sendQueue = session.sendQueue := by
  unfold McspLiveSession.checkHandshake
  split <;> rfl

theorem sendQueue_timeOutHandshake (session : McspLiveSession) :
    session.timeOutHandshake.sendQueue = session.sendQueue := by
  unfold McspLiveSession.timeOutHandshake
  split <;> rfl

section Handler

variable {World : Type} (callbacks : Callbacks World)

/-- The session of an environment only gets packets put behind its queue. -/
def EnvEnqueues (before after : Env World) : Prop :=
  Enqueues before.session after.session

theorem whenSet_keeps
    (callback : Option γ) (call : γ -> Effect World Unit) :
    Effect.Keeps (@EnvEnqueues World) (whenSet callback call) := by
  unfold whenSet
  cases callback with
  | none => exact Effect.Keeps.pure (fun env => Enqueues.refl env.session) ()
  | some callback =>
      exact Effect.Keeps.zoom fun env _ => Enqueues.refl env.session

/-- Whether or not its callbacks return, a notification only puts packets. -/
theorem notifyHandler_keeps (notification : Notification) :
    Effect.Keeps (@EnvEnqueues World)
      (notifyHandler callbacks notification) := by
  have reflexive (env : Env World) : EnvEnqueues env env :=
    Enqueues.refl env.session
  have transitive (before middle after : Env World)
      (first : EnvEnqueues before middle)
      (second : EnvEnqueues middle after) : EnvEnqueues before after :=
    Enqueues.trans first second
  unfold notifyHandler
  apply Effect.Keeps.bind transitive (whenSet_keeps _ _)
  intro _
  split
  · exact whenSet_keeps _ _
  · refine Effect.Keeps.bind transitive ?_ fun _ =>
      Effect.Keeps.modify fun env =>
        ⟨[], sendQueue_checkHandshake env.session⟩
    apply Effect.Keeps.forEach reflexive transitive
    intro frame _
    unfold handleFrame
    apply Effect.Keeps.bind transitive (whenSet_keeps _ _)
    intro _
    split
    · split
      · exact whenSet_keeps _ _
      · refine Effect.Keeps.bind transitive ?_ fun _ => whenSet_keeps _ _
        exact Effect.Keeps.modify fun env => ⟨[], rfl⟩
    · split
      · exact whenSet_keeps _ _
      · apply Effect.Keeps.bind transitive (whenSet_keeps _ _)
        intro _
        split
        · exact Effect.Keeps.pure reflexive ()
        · apply Effect.Keeps.bind transitive
            (Effect.Keeps.lift reflexive _)
          intro packets
          exact Effect.Keeps.modify fun env =>
            enqueues_acceptPackets env.session packets

end Handler

theorem enqueues_queueHandshakeResponse
    {session after : McspLiveSession} {commands : List Mcsp.Command}
    (queues : session.queueHandshakeResponse commands = .ok after) :
    Enqueues session after := by
  obtain ⟨response, builds⟩ := exists_buildHandshakeResponse commands
  rw [McspLiveSession.queueHandshakeResponse, builds] at queues
  simp only [bind, Except.bind] at queues
  split at queues
  · cases queues
    exact Enqueues.trans (enqueues_queuePackets _ response)
      (enqueues_queuePackets _ session.startupPacketsPending)
  · cases queues
    exact enqueues_queuePackets _ response

end Live
end BoschBle
