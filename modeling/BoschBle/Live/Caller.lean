import BoschBle.Foundation.Raising
import BoschBle.Live.Detection
import BoschBle.Live.Shutdown

/-!
# The caller of a session

`handshake.py` and `dashboard.py` drive a session in the same way.  They start it, wait
for the handshake and answer it, go on for some time, and stop the session in a `finally`
clause.  The caller is one more task beside those of the session: between two of its
steps anything may happen that the session allows.
-/

namespace BoschBle
namespace Live

open Foundation Mcsp

/-- Where the caller is. -/
inductive CallerTask
  | notStarted
  | starting
  /-- In `wait_for_handshake`. -/
  | awaitingHandshake
  /-- In the rest of the block. -/
  | answered
  /-- In `stop`, with how the block was left. -/
  | stopping (left : Except Exn Unit)
  | finished (outcome : Except Exn Unit)
  deriving DecidableEq

/-- A session with its caller. -/
structure Called (World : Type) where
  system : System World
  task : CallerTask := .notStarted

/-- The steps of a session with its caller. -/
inductive CallerEvent
  /-- A step of another task. -/
  | other (event : Event)
  | start
  | startEnds
  /-- The wait returns the commands, and the caller answers them. -/
  | handshake (commands : List Command)
  /-- The wait times out or is cancelled. -/
  | handshakeFails (exc : Exn)
  /-- The rest of the block ends. -/
  | leaves (left : Except Exn Unit)
  | stopEnds
  deriving DecidableEq

/-- The steps that the caller takes itself. -/
def Event.ofCaller : Event -> Bool
  | .startCalled | .queueHandshakeResponse _ | .queuePackets _ | .handshakeTimeout
  | .stopCalled => true
  | _ => false

/-- What a step is to the session. -/
def CallerEvent.events : CallerEvent -> List Event
  | .other event => [event]
  | .start => [.startCalled]
  | .handshake commands => [.queueHandshakeResponse commands]
  | .handshakeFails _ => [.handshakeTimeout, .stopCalled]
  | .leaves _ => [.stopCalled]
  | .startEnds | .stopEnds => []

/-- The commands that a step answers. -/
def CallerEvent.answer : CallerEvent -> Option (List Command)
  | .handshake commands => some commands
  | _ => none

/-- How a step leaves the block, where it does.  An answer does not raise
(`queueHandshakeResponse_ok`), so the block is left where the wait fails or at its end. -/
def CallerEvent.left : CallerEvent -> Option (Except Exn Unit)
  | .handshakeFails exc => some (.error exc)
  | .leaves left => some left
  | _ => none

namespace Called

variable {World : Type} (callbacks : Callbacks World)

/-- The `finally` clause begins. -/
def beginStop (system : System World) (left : Except Exn Unit) : Option (Called World) :=
  (system.step callbacks .stopCalled).map fun system => ⟨system, .stopping left⟩

/-- The state behind a step, if the step can be taken. -/
def step (called : Called World) : CallerEvent -> Option (Called World)
  | .other event =>
      if event.ofCaller then none
      else (called.system.step callbacks event).map fun system =>
        { called with system := system }
  | .start =>
      match called.task with
      | .notStarted =>
          (called.system.step callbacks .startCalled).map fun system => ⟨system, .starting⟩
      | _ => none
  | .startEnds =>
      match called.task, called.system.start with
      | .starting, .returned => some { called with task := .awaitingHandshake }
      -- The session is started in front of the `try`.
      | .starting, .failed exc => some { called with task := .finished (.error exc) }
      | _, _ => none
  | .handshake commands =>
      match called.task, called.system.session.handshakeFuture with
      | .awaitingHandshake, .resolved found =>
          if found = commands then
            match called.system.session.queueHandshakeResponse commands with
            | .ok session => some ⟨{ called.system with session := session }, .answered⟩
            | .error exc => beginStop callbacks called.system (.error exc)
          else none
      | _, _ => none
  | .handshakeFails exc =>
      match called.task with
      | .awaitingHandshake =>
          -- A wait that ends early cancels the future.
          beginStop callbacks
            { called.system with session := called.system.session.timeOutHandshake } (.error exc)
      | _ => none
  | .leaves left =>
      match called.task with
      | .answered => beginStop callbacks called.system left
      | _ => none
  | .stopEnds =>
      match called.task, called.system.stop with
      | .stopping left, .finished ended =>
          some { called with task := .finished (Program.finish left ended) }
      | _, _ => none

/-- A new session that the caller has not started yet. -/
def initial (world : World) : Called World where
  system := System.initial world

end Called

/-- The step brings a notification. -/
def CallerEvent.notifies : CallerEvent -> Bool
  | .other (.notification _) => true
  | _ => false

/-- No notification arrives once `stop_notify` has succeeded. -/
def Quiet (called : Called World) (event : CallerEvent) : Prop :=
  event.notifies = true -> called.system.stopNotify ≠ some (.ok ())

instance (called : Called World) (event : CallerEvent) : Decidable (Quiet called event) :=
  inferInstanceAs (Decidable (_ = true -> ¬called.system.stopNotify = some (.ok ())))

section Caller

variable {World : Type} {callbacks : Callbacks World}

/-! ## What a step of the caller does -/

theorem queueHandshakeResponse_ok (session : McspLiveSession) (commands : List Command) :
    ∃ after, session.queueHandshakeResponse commands = .ok after := by
  obtain ⟨response, builds⟩ := exists_buildHandshakeResponse commands
  rw [McspLiveSession.queueHandshakeResponse, builds]
  simp only [bind, Except.bind]
  split <;> exact ⟨_, rfl⟩

namespace Called

variable {called after : Called World}

/-- Another task makes a step of the session. -/
theorem step_other
    {event : Event}
    (stepped : called.step callbacks (.other event) = some after) :
    event.ofCaller = false ∧ ∃ next, called.system.step callbacks event = some next ∧
      after = { called with system := next } := by
  simp only [step, Option.ite_none_left_eq_some] at stepped
  obtain ⟨other, stepped⟩ := stepped
  obtain ⟨next, moved, after_eq⟩ := Option.map_eq_some_iff.mp stepped
  exact ⟨Bool.eq_false_of_not_eq_true other, next, moved, after_eq.symm⟩

/-- The caller goes on behind `start`, or ends with its exception. -/
theorem step_startEnds
    (stepped : called.step callbacks .startEnds = some after) :
    called.system.start = .returned ∧ after = { called with task := .awaitingHandshake } ∨
      ∃ exc, called.system.start = .failed exc ∧
        after = { called with task := .finished (.error exc) } := by
  simp only [step] at stepped
  split at stepped
  case h_1 started => exact Or.inl ⟨started, (Option.some.inj stepped).symm⟩
  case h_2 exc _ failed => exact Or.inr ⟨exc, failed, (Option.some.inj stepped).symm⟩
  case h_3 => cases stepped

/-- The caller answers the handshake that its future is resolved with. -/
theorem step_handshake
    {commands : List Command}
    (stepped : called.step callbacks (.handshake commands) = some after) :
    called.system.session.handshakeFuture = .resolved commands ∧ ∃ session,
      called.system.session.queueHandshakeResponse commands = .ok session ∧
        after = ⟨{ called.system with session := session }, .answered⟩ := by
  simp only [step] at stepped
  split at stepped
  case h_1 resolved =>
    split at stepped
    case isTrue same =>
      obtain ⟨session, queues⟩ := queueHandshakeResponse_ok called.system.session commands
      rw [queues] at stepped
      rw [resolved, same]
      exact ⟨rfl, session, queues, (Option.some.inj stepped).symm⟩
    case isFalse => cases stepped
  case h_2 => cases stepped

/-- The caller ends behind `stop`. -/
theorem step_stopEnds
    (stepped : called.step callbacks .stopEnds = some after) :
    ∃ left ended, called.task = .stopping left ∧ called.system.stop = .finished ended ∧
      after = { called with task := .finished (Program.finish left ended) } := by
  simp only [step] at stepped
  split at stepped
  case h_1 stopping stopped => exact ⟨_, _, stopping, stopped, (Option.some.inj stepped).symm⟩
  case h_2 => cases stepped

end Called

/-! ## What other tasks leave alone -/

theorem taskDone_fields (system : System World) (next : Writer) :
    ((system.taskDone next).stop = system.stop ∨
        (system.taskDone next).stop = system.stop.wakeJoin) ∧
      (system.taskDone next).stopNotify = system.stopNotify ∧
        (system.taskDone next).start = system.start := by
  unfold System.taskDone
  split
  · exact ⟨Or.inl rfl, rfl, rfl⟩
  · refine ⟨?_, rfl, rfl⟩
    dsimp only
    split
    · exact Or.inr rfl
    · exact Or.inl rfl

/-- What a step does to the call of `stop`: nothing but to wake its join, unless it is
the call, or a step within it. -/
theorem stop_of_transition
    {before after : System World} {event : Event}
    (transition : Transition before event after) :
    (after.stop = before.stop ∨ after.stop = before.stop.wakeJoin) ∧
        after.stopNotify = before.stopNotify ∨
      event = .stopCalled ∧ after.stop = .stoppingNotify ∨
      before.stop ≠ .notCalled ∧ (∀ ended, before.stop ≠ .finished ended) ∧
        after.stop ≠ .notCalled := by
  have within {stop : StopTask} {next : StopTask} (now : before.stop = stop)
      (called : stop ≠ .notCalled) (running : ∀ ended, stop ≠ .finished ended)
      (goesOn : next ≠ .notCalled) :
      before.stop ≠ .notCalled ∧ (∀ ended, before.stop ≠ .finished ended) ∧
        next ≠ .notCalled := by
    rw [now]
    exact ⟨called, running, goesOn⟩
  cases transition with
  | startCalled => exact Or.inl ⟨Or.inl rfl, rfl⟩
  | startEnds => exact Or.inl ⟨Or.inl rfl, rfl⟩
  | put => exact Or.inl ⟨Or.inl rfl, rfl⟩
  | takePacket => exact Or.inl ⟨Or.inl rfl, rfl⟩
  | takeSentinel | sendRaises | writeReturns | writeRaises =>
      obtain ⟨stop, stopNotify, _⟩ := taskDone_fields _ _
      exact Or.inl ⟨stop, stopNotify⟩
  | stopCalled => exact Or.inr (Or.inl ⟨rfl, rfl⟩)
  | stopNotifyReturns stopping | stopNotifyRaises stopping =>
      refine Or.inr (Or.inr (within stopping (by simp) (by simp) ?_))
      unfold System.joinOrFinish
      dsimp only
      split <;> simp
  | stopNotifyBreaks stopping =>
      exact Or.inr (Or.inr (within stopping (by simp) (by simp) (by simp)))
  | joinStep waiting =>
      exact Or.inr (Or.inr (within waiting (by simp) (by simp) (by simp)))
  | wakeEnded waiting =>
      refine Or.inr (Or.inr (within waiting (by simp) (by simp) ?_))
      dsimp only
      split <;> simp
  | wakeJoined waiting =>
      exact Or.inr (Or.inr (within waiting (by simp) (by simp) (by simp)))
  | writerAwaited awaiting =>
      exact Or.inr (Or.inr (within awaiting (by simp) (by simp) (by simp)))
  | joinCancelled cancelling =>
      exact Or.inr (Or.inr (within cancelling (by simp) (by simp) (by simp)))

/-- A call of `start` that has ended is not changed any more. -/
theorem start_of_transition
    {before after : System World} {event : Event}
    (transition : Transition before event after) :
    after.start = before.start ∨ before.start = .notCalled ∨
      before.start = .startingNotify := by
  cases transition with
  | startCalled fresh => exact Or.inr (Or.inl fresh)
  | startEnds starting => exact Or.inr (Or.inr starting)
  | takeSentinel | sendRaises | writeReturns | writeRaises =>
      exact Or.inl (taskDone_fields _ _).2.2
  | _ => exact Or.inl rfl

/-! ## What a caller has done -/

/-- `stop` has not been called. -/
structure Unstopped (system : System World) : Prop where
  stop : system.stop = .notCalled
  stopNotify : system.stopNotify = none

/-- The answers in front of the `finally` clause: a block that was left without an
exception has answered the handshake. -/
def AnswersOf (answers : List (List Command)) (left : Except Exn Unit) : Prop :=
  (∃ commands, answers = [commands]) ∨ answers = [] ∧ ∃ exc, left = .error exc

/-- What was answered, how the block was left and what was called, by where the caller
is. -/
inductive Follows :
    List (List Command) -> List (Except Exn Unit) -> Called World -> Prop
  | notStarted
      {system : System World}
      (unstopped : Unstopped system) :
      Follows [] [] ⟨system, .notStarted⟩
  | starting
      {system : System World}
      (unstopped : Unstopped system) :
      Follows [] [] ⟨system, .starting⟩
  | awaitingHandshake
      {system : System World}
      (unstopped : Unstopped system)
      (started : system.start = .returned) :
      Follows [] [] ⟨system, .awaitingHandshake⟩
  | answered
      {system : System World} (commands : List Command)
      (unstopped : Unstopped system)
      (started : system.start = .returned) :
      Follows [commands] [] ⟨system, .answered⟩
  | stopping
      {system : System World} {answers : List (List Command)} {left : Except Exn Unit}
      (answersOf : AnswersOf answers left)
      (called : system.stop ≠ .notCalled) :
      Follows answers [left] ⟨system, .stopping left⟩
  | unstarted
      {system : System World} {exc : Exn}
      (unstopped : Unstopped system)
      (failed : system.start = .failed exc) :
      Follows [] [] ⟨system, .finished (.error exc)⟩
  | finished
      {system : System World} {answers : List (List Command)} {left ended : Except Exn Unit}
      (answersOf : AnswersOf answers left)
      (stopped : system.stop = .finished ended) :
      Follows answers [left] ⟨system, .finished (Program.finish left ended)⟩

section Other

variable {before after : System World} {event : Event}

theorem Unstopped.of_transition
    (unstopped : Unstopped before)
    (transition : Transition before event after)
    (other : event.ofCaller = false) :
    Unstopped after := by
  rcases stop_of_transition transition with
    ⟨same | woken, notified⟩ | ⟨rfl, _⟩ | ⟨called, _⟩
  · exact ⟨same.trans unstopped.stop, notified.trans unstopped.stopNotify⟩
  · rw [unstopped.stop] at woken
    exact ⟨woken, notified.trans unstopped.stopNotify⟩
  · cases other
  · exact absurd unstopped.stop called

theorem called_of_transition
    (called : before.stop ≠ .notCalled)
    (transition : Transition before event after) :
    after.stop ≠ .notCalled := by
  rcases stop_of_transition transition with ⟨same | woken, _⟩ | ⟨_, stopping⟩ | ⟨_, _, stays⟩
  · rwa [same]
  · rw [woken]
    cases stop : before.stop with
    | notCalled => exact absurd stop called
    | _ => simp [StopTask.wakeJoin]
  · simp [stopping]
  · exact stays

theorem finished_of_transition
    {ended : Except Exn Unit}
    (finished : before.stop = .finished ended)
    (transition : Transition before event after)
    (other : event.ofCaller = false) :
    after.stop = .finished ended := by
  rcases stop_of_transition transition with
    ⟨same | woken, _⟩ | ⟨rfl, _⟩ | ⟨_, running, _⟩
  · exact same.trans finished
  · rw [woken, finished]
    rfl
  · cases other
  · exact absurd finished (running ended)

theorem started_of_transition
    {start : StartTask}
    (is : before.start = start)
    (called : start ≠ .notCalled)
    (ended : start ≠ .startingNotify)
    (transition : Transition before event after) :
    after.start = start := by
  rcases start_of_transition transition with same | fresh | starting
  · exact same.trans is
  · exact absurd (is.symm.trans fresh) called
  · exact absurd (is.symm.trans starting) ended

end Other

/-- The other tasks do not move the caller. -/
theorem Follows.other
    {answers : List (List Command)} {lefts : List (Except Exn Unit)}
    {before after : System World} {task : CallerTask} {event : Event}
    (follows : Follows answers lefts ⟨before, task⟩)
    (transition : Transition before event after)
    (other : event.ofCaller = false) :
    Follows answers lefts ⟨after, task⟩ := by
  cases follows with
  | notStarted unstopped => exact .notStarted (unstopped.of_transition transition other)
  | starting unstopped => exact .starting (unstopped.of_transition transition other)
  | awaitingHandshake unstopped started =>
      exact .awaitingHandshake (unstopped.of_transition transition other)
        (started_of_transition started (by simp) (by simp) transition)
  | answered commands unstopped started =>
      exact .answered commands (unstopped.of_transition transition other)
        (started_of_transition started (by simp) (by simp) transition)
  | stopping answersOf called =>
      exact .stopping answersOf (called_of_transition called transition)
  | unstarted unstopped failed =>
      exact .unstarted (unstopped.of_transition transition other)
        (started_of_transition failed (by simp) (by simp) transition)
  | finished answersOf stopped =>
      exact .finished answersOf (finished_of_transition stopped transition other)

/-- The caller stops the session where it has started it. -/
theorem beginStop_follows
    {answers : List (List Command)} {system : System World} {left : Except Exn Unit}
    {after : Called World}
    (begins : Called.beginStop callbacks system left = some after)
    (answersOf : AnswersOf answers left) :
    Follows answers [left] after := by
  obtain ⟨stopping, stepped, rfl⟩ := Option.map_eq_some_iff.mp begins
  simp only [System.step, Option.ite_none_right_eq_some, Option.some.injEq] at stepped
  obtain ⟨_, rfl⟩ := stepped
  exact .stopping answersOf (by simp)

theorem Follows.answers
    {answers : List (List Command)} {lefts : List (Except Exn Unit)} {called : Called World}
    (follows : Follows answers lefts called) :
    answers = [] ∨ ∃ commands, answers = [commands] := by
  cases follows with
  | answered commands => exact Or.inr ⟨commands, rfl⟩
  | stopping answersOf => exact answersOf.elim Or.inr fun none => Or.inl none.1
  | finished answersOf => exact answersOf.elim Or.inr fun none => Or.inl none.1
  | _ => exact Or.inl rfl

theorem finish_eq_ok
    {left ended : Except Exn Unit}
    (ok : Program.finish left ended = .ok ()) :
    left = .ok () ∧ ended = .ok () := by
  cases ended with
  | ok value => exact ⟨ok, rfl⟩
  | error exc => cases ok

/-- How a caller ends. -/
theorem Follows.ends
    {answers : List (List Command)} {lefts : List (Except Exn Unit)} {called : Called World}
    {outcome : Except Exn Unit}
    (follows : Follows answers lefts called)
    (finished : called.task = .finished outcome) :
    (lefts = [] ∧ ∃ exc, called.system.start = .failed exc ∧ outcome = .error exc) ∨
      ∃ left ended, lefts = [left] ∧ called.system.stop = .finished ended ∧
        outcome = Program.finish left ended ∧ AnswersOf answers left := by
  cases follows with
  | unstarted _ failed =>
      cases finished
      exact Or.inl ⟨rfl, _, failed, rfl⟩
  | finished answersOf stopped =>
      cases finished
      exact Or.inr ⟨_, _, rfl, stopped, rfl, answersOf⟩
  | _ => cases finished

/-- Without an exception a caller has answered and stopped. -/
theorem Follows.ends_ok
    {answers : List (List Command)} {lefts : List (Except Exn Unit)} {called : Called World}
    (follows : Follows answers lefts called)
    (finished : called.task = .finished (.ok ())) :
    called.system.stop = .finished (.ok ()) ∧ answers ≠ [] := by
  rcases follows.ends finished with
    ⟨_, exc, _, impossible⟩ | ⟨left, ended, _, stopped, ok, answersOf⟩
  · cases impossible
  · obtain ⟨rfl, rfl⟩ := finish_eq_ok ok.symm
    refine ⟨stopped, ?_⟩
    rcases answersOf with ⟨commands, rfl⟩ | ⟨_, exc, impossible⟩
    · exact List.cons_ne_nil _ _
    · cases impossible

/-- The step lemma. -/
theorem Follows.step
    {answers : List (List Command)} {lefts : List (Except Exn Unit)}
    {before after : Called World} {event : CallerEvent}
    (follows : Follows answers lefts before)
    (stepped : before.step callbacks event = some after) :
    Follows (answers ++ event.answer.toList) (lefts ++ event.left.toList) after := by
  obtain ⟨system, task⟩ := before
  cases event with
  | other event =>
      obtain ⟨other, next, moved, rfl⟩ := Called.step_other stepped
      change Follows (answers ++ []) (lefts ++ []) _
      rw [List.append_nil, List.append_nil]
      exact follows.other (transition_of_step moved) other
  | start =>
      cases follows with
      | notStarted unstopped =>
          obtain ⟨next, moved, rfl⟩ := Option.map_eq_some_iff.mp stepped
          simp only [System.step, Option.ite_none_right_eq_some, Option.some.injEq] at moved
          obtain ⟨_, rfl⟩ := moved
          exact .starting ⟨unstopped.stop, unstopped.stopNotify⟩
      | _ => cases stepped
  | startEnds =>
      cases follows with
      | starting unstopped =>
          rcases Called.step_startEnds stepped with ⟨started, rfl⟩ | ⟨exc, failed, rfl⟩
          · exact .awaitingHandshake unstopped started
          · exact .unstarted unstopped failed
      | _ => cases stepped
  | handshake commands =>
      cases follows with
      | awaitingHandshake unstopped started =>
          obtain ⟨_, session, _, rfl⟩ := Called.step_handshake stepped
          exact .answered commands ⟨unstopped.stop, unstopped.stopNotify⟩ started
      | _ => cases stepped
  | handshakeFails exc =>
      cases follows with
      | awaitingHandshake => exact beginStop_follows stepped (Or.inr ⟨rfl, exc, rfl⟩)
      | _ => cases stepped
  | leaves left =>
      cases follows with
      | answered commands => exact beginStop_follows stepped (Or.inl ⟨commands, rfl⟩)
      | _ => cases stepped
  | stopEnds =>
      cases follows with
      | stopping answersOf =>
          obtain ⟨_, _, same, stopped, rfl⟩ := Called.step_stopEnds stepped
          cases same
          change Follows (answers ++ []) [_] _
          rw [List.append_nil]
          exact .finished answersOf stopped
      | _ => cases stepped

theorem filterMap_append_singleton
    {τ : Type} (part : CallerEvent -> Option τ) (events : List CallerEvent)
    (event : CallerEvent) :
    (events ++ [event]).filterMap part = events.filterMap part ++ (part event).toList := by
  rw [List.filterMap_append]
  cases of : part event with
  | none => rw [List.filterMap_cons_none of]; rfl
  | some _ => rw [List.filterMap_cons_some of]; rfl

/-- The commands that were answered, in order. -/
def answersIn (events : List CallerEvent) : List (List Command) :=
  events.filterMap CallerEvent.answer

theorem answersIn_append (events : List CallerEvent) (event : CallerEvent) :
    answersIn (events ++ [event]) = answersIn events ++ event.answer.toList :=
  filterMap_append_singleton CallerEvent.answer events event

/-- How the block was left, by the step that has left it. -/
def leavesIn (events : List CallerEvent) : List (Except Exn Unit) :=
  events.filterMap CallerEvent.left

theorem leavesIn_append (events : List CallerEvent) (event : CallerEvent) :
    leavesIn (events ++ [event]) = leavesIn events ++ event.left.toList :=
  filterMap_append_singleton CallerEvent.left events event

/-- The run lemma. -/
theorem follows_of_run
    {allowed : Called World -> CallerEvent -> Prop}
    {world : World} {events : List CallerEvent} {final : Called World}
    (run : Run (Called.step callbacks) allowed (Called.initial world) events final) :
    Follows (answersIn events) (leavesIn events) final := by
  induction run with
  | nil => exact .notStarted ⟨rfl, rfl⟩
  | snoc _ _ stepped inductionHypothesis =>
      rw [answersIn_append, leavesIn_append]
      exact inductionHypothesis.step stepped

/-! ## The run of the session -/

theorem quietAfterStop_of_silent
    {system : System World} {event : Event}
    (other : event ≠ .stopCalled)
    (silent : event.enqueues = false) :
    QuietAfterStop system event := by
  refine ⟨fun isStop => absurd isStop other, ?_⟩
  intro enqueues
  rw [silent] at enqueues
  cases enqueues

theorem run_of_beginStop
    {system : System World} {left : Except Exn Unit} {after : Called World}
    (begins : Called.beginStop callbacks system left = some after)
    (started : system.start = .returned) :
    Run (System.step callbacks) QuietAfterStop system [.stopCalled] after.system := by
  obtain ⟨stopping, moved, rfl⟩ := Option.map_eq_some_iff.mp begins
  refine Run.single ⟨fun _ => started, ?_⟩ moved
  intro impossible
  cases impossible

/-- The session makes the steps that the caller's step is to it. -/
theorem run_of_step
    {answers : List (List Command)} {lefts : List (Except Exn Unit)}
    {before after : Called World} {event : CallerEvent}
    (follows : Follows answers lefts before)
    (quiet : Quiet before event)
    (stepped : before.step callbacks event = some after) :
    Run (System.step callbacks) QuietAfterStop before.system event.events after.system := by
  obtain ⟨system, task⟩ := before
  cases event with
  | other event =>
      obtain ⟨other, next, moved, rfl⟩ := Called.step_other stepped
      refine Run.single ⟨?_, ?_⟩ moved
      · rintro rfl
        cases other
      · intro enqueues
        cases event with
        | notification notification => exact quiet rfl
        | queueHandshakeResponse | queuePackets => cases other
        | _ => cases enqueues
  | start =>
      cases follows with
      | notStarted =>
          obtain ⟨next, moved, rfl⟩ := Option.map_eq_some_iff.mp stepped
          exact Run.single (quietAfterStop_of_silent (by simp) rfl) moved
      | _ => cases stepped
  | startEnds =>
      cases follows with
      | starting =>
          rcases Called.step_startEnds stepped with ⟨_, rfl⟩ | ⟨_, _, rfl⟩ <;> exact Run.nil
      | _ => cases stepped
  | handshake commands =>
      cases follows with
      | awaitingHandshake unstopped =>
          obtain ⟨_, session, queues, rfl⟩ := Called.step_handshake stepped
          refine Run.single ⟨?_, ?_⟩ ?_
          · intro impossible
            cases impossible
          · intro _ succeeded
            cases unstopped.stopNotify.symm.trans succeeded
          · simp only [System.step, queues]
      | _ => cases stepped
  | handshakeFails exc =>
      cases follows with
      | awaitingHandshake _ started =>
          have timesOut : Run (System.step callbacks) QuietAfterStop system [.handshakeTimeout]
              { system with session := system.session.timeOutHandshake } :=
            Run.single (quietAfterStop_of_silent (by simp) rfl) rfl
          exact timesOut.trans (run_of_beginStop stepped started)
      | _ => cases stepped
  | leaves left =>
      cases follows with
      | answered _ _ started => exact run_of_beginStop stepped started
      | _ => cases stepped
  | stopEnds =>
      cases follows with
      | stopping =>
          obtain ⟨_, _, _, _, rfl⟩ := Called.step_stopEnds stepped
          exact Run.nil
      | _ => cases stepped

/-- The session's part of the events. -/
def sessionEvents (events : List CallerEvent) : List Event :=
  events.flatMap CallerEvent.events

theorem sessionEvents_append (events : List CallerEvent) (event : CallerEvent) :
    sessionEvents (events ++ [event]) = sessionEvents events ++ event.events := by
  rw [sessionEvents, List.flatMap_append, List.flatMap_singleton]
  rfl

/-- What the caller and the other tasks do is a run of the session. -/
theorem session_of_run
    {world : World} {events : List CallerEvent} {final : Called World}
    (run : Run (Called.step callbacks) Quiet (Called.initial world) events final) :
    Run (System.step callbacks) QuietAfterStop (System.initial world)
      (sessionEvents events) final.system := by
  induction run with
  | nil => exact Run.nil
  | snoc run quiet stepped inductionHypothesis =>
      rw [sessionEvents_append]
      exact inductionHypothesis.trans (run_of_step (follows_of_run run) quiet stepped)

/-! ## The handshake that is answered -/

/-- A future is resolved with the commands that some prefix of the events has brought,
and they are a handshake. -/
theorem resolved_of_run
    {world : World} {events : List Event} {final : System World} {commands : List Command}
    (run : Run (System.step callbacks) Anything (System.initial world) events final)
    (returns : ∀ notification, Event.notification notification ∈ events ->
      callbacks.ReturnOn notification)
    (resolved : final.session.handshakeFuture = .resolved commands) :
    isBikeHandshake commands = true ∧
      ∃ prior, prior <+: events ∧ commands = commandsReceived prior := by
  induction run with
  | nil => cases resolved
  | @snoc events before after event run permitted stepped inductionHypothesis =>
      have earlier (same : before.session.handshakeFuture = .resolved commands) :
          isBikeHandshake commands = true ∧
            ∃ prior, prior <+: events ++ [event] ∧ commands = commandsReceived prior := by
        obtain ⟨isHandshake, prior, isPrefix, received⟩ := inductionHypothesis
          (fun notification present => returns notification (List.mem_append_left _ present)) same
        exact ⟨isHandshake, prior, isPrefix.trans (List.prefix_append _ _), received⟩
      have session_eq := session_of_step callbacks stepped
      have detects := detects_of_run (Run.snoc run permitted stepped) returns
      cases event with
      | notification notification =>
          obtain ⟨environment, handled, environment_eq⟩ :=
            notifyHandler_session (returns notification (List.mem_append_right _
              (List.mem_singleton_self _))) ⟨before.session, before.world⟩
          change after.session = _ at session_eq
          rw [handled, environment_eq] at session_eq
          cases splits : splitFrames notification.data with
          | error exc =>
              apply earlier
              rw [session_eq, McspLiveSession.receive, splits] at resolved
              exact resolved
          | ok frames =>
              have checked := (before.session.processed_receive callbacks splits).checked
              rw [← session_eq, resolved] at checked
              split at checked
              case isTrue complete =>
                rw [Future.resolved.injEq] at checked
                rw [checked]
                exact ⟨complete.2, _, List.prefix_rfl, detects.commands⟩
              case isFalse => exact earlier checked.symm
      | queueHandshakeResponse other =>
          obtain ⟨_, _, _, _, _, _, future_eq⟩ :=
            McspLiveSession.queueHandshakeResponse_fields session_eq
          exact earlier (future_eq.symm.trans resolved)
      | queuePackets packets =>
          change after.session = _ at session_eq
          rw [session_eq] at resolved
          exact earlier resolved
      | handshakeTimeout =>
          change after.session = _ at session_eq
          rw [session_eq, McspLiveSession.timeOutHandshake] at resolved
          split at resolved
          · exact earlier resolved
          · cases resolved
      | _ => exact earlier (session_eq.2.symm.trans resolved)

/-! ## How a caller ends -/

/-- Packets come from the replies, and the handshake is answered by the caller only. -/
theorem sessionEvents_of_run
    {allowed : Called World -> CallerEvent -> Prop}
    {world : World} {events : List CallerEvent} {final : Called World}
    (run : Run (Called.step callbacks) allowed (Called.initial world) events final) :
    (∀ packets, Event.queuePackets packets ∉ sessionEvents events) ∧
      (sessionEvents events).filterMap Event.handshakeCall = answersIn events := by
  induction run with
  | nil => exact ⟨fun _ => List.not_mem_nil, rfl⟩
  | @snoc events before after event run _ stepped inductionHypothesis =>
      obtain ⟨noDirect, calls⟩ := inductionHypothesis
      have ofEvent : (∀ packets, Event.queuePackets packets ∉ event.events) ∧
          event.events.filterMap Event.handshakeCall = event.answer.toList := by
        cases event with
        | other event =>
            obtain ⟨other, -⟩ := Called.step_other stepped
            cases event with
            | queuePackets | queueHandshakeResponse => cases other
            | _ => exact ⟨by simp [CallerEvent.events], rfl⟩
        | _ => exact ⟨by simp [CallerEvent.events], rfl⟩
      constructor
      · intro packets present
        rw [sessionEvents_append, List.mem_append] at present
        exact present.elim (noDirect packets) (ofEvent.1 packets)
      · rw [sessionEvents_append, List.filterMap_append, calls, ofEvent.2, answersIn_append]

theorem mem_sessionEvents
    {events : List CallerEvent} {notification : Notification}
    (present : Event.notification notification ∈ sessionEvents events) :
    .other (.notification notification) ∈ events := by
  obtain ⟨event, inEvents, isNotification⟩ := List.mem_flatMap.mp present
  cases event with
  | other event =>
      rw [CallerEvent.events, List.mem_singleton] at isNotification
      rwa [isNotification]
  | _ => simp [CallerEvent.events] at isNotification

/-- What is answered is a handshake that the bike has sent by then. -/
theorem answers_of_run
    {world : World} {events : List CallerEvent} {final : Called World}
    (run : Run (Called.step callbacks) Quiet (Called.initial world) events final)
    (returns : ∀ notification, CallerEvent.other (.notification notification) ∈ events ->
      callbacks.ReturnOn notification) :
    ∀ commands ∈ answersIn events, isBikeHandshake commands = true ∧
      ∃ prior, prior <+: sessionEvents events ∧ commands = commandsReceived prior := by
  induction run with
  | nil => exact fun _ impossible => absurd impossible List.not_mem_nil
  | @snoc events before after event run _ stepped inductionHypothesis =>
      have earlierReturns : ∀ notification,
          CallerEvent.other (.notification notification) ∈ events ->
            callbacks.ReturnOn notification :=
        fun notification present => returns notification (List.mem_append_left _ present)
      have grows : sessionEvents events <+: sessionEvents (events ++ [event]) := by
        rw [sessionEvents_append]
        exact List.prefix_append _ _
      intro commands answered
      rw [answersIn_append, List.mem_append] at answered
      rcases answered with before | now
      · obtain ⟨isHandshake, prior, isPrefix, received⟩ :=
          inductionHypothesis earlierReturns commands before
        exact ⟨isHandshake, prior, isPrefix.trans grows, received⟩
      · cases event with
        | handshake other =>
            rw [CallerEvent.answer, Option.toList_some, List.mem_singleton] at now
            subst now
            obtain ⟨resolved, -⟩ := Called.step_handshake stepped
            have sessionRun := (session_of_run run).mono fun _ _ _ => trivial
            obtain ⟨isHandshake, prior, isPrefix, received⟩ := resolved_of_run sessionRun
              (fun notification present => earlierReturns notification
                (mem_sessionEvents present)) resolved
            exact ⟨isHandshake, prior, isPrefix.trans grows, received⟩
        | _ => exact absurd now List.not_mem_nil

/-- Writes happen in order, and a `stop` that returned has written everything. -/
theorem written_of_run
    {world : World} {events : List Event} {final : System World}
    (run : Run (System.step callbacks) QuietAfterStop (System.initial world) events final) :
    final.written <+: final.session.packets ∧
      (final.stop = .finished (.ok ()) -> final.stopNotify = some (.ok ()) ∧
        final.written = final.session.packets) := by
  obtain ⟨taken, took, history⟩ := (accounted_of_run run).history
  have packets_eq : final.session.packets =
      final.written ++ (taken ++ final.session.sendQueue.items).filterMap id := by
    rw [McspLiveSession.packets, history, List.append_assoc, List.filterMap_append,
      filterMap_id_map_some]
  constructor
  · rw [packets_eq]
    exact List.prefix_append _ _
  · intro stopped
    obtain ⟨succeeded, returned, items⟩ := (drained_of_run run).finished stopped
    rw [returned] at took
    have sentinel : taken = [none] := took
    refine ⟨succeeded, ?_⟩
    rw [packets_eq, items, sentinel]
    exact (List.append_nil _).symm

/-- What a caller sends: nothing unless it answers a handshake, and then its reply to the
handshake and the replies to the messages.  It answers once at most, and what it answers
is a handshake that the bike has sent.  Where it ends without an exception it has answered
and everything was written.  It ends where `start` has failed, with its exception and the
block never entered, or with `stop`: then the block was left once, and the exception of
`stop` comes before how it was left. -/
theorem caller_outcome
    (callbacks : Callbacks World)
    {world : World} {events : List CallerEvent} {final : Called World}
    (run : Run (Called.step callbacks) Quiet (Called.initial world) events final)
    (returns : ∀ notification, CallerEvent.other (.notification notification) ∈ events ->
      callbacks.ReturnOn notification) :
    ((answersIn events = [] ∧ final.system.written = [] ∧ final.task ≠ .finished (.ok ())) ∨
      ∃ commands response, answersIn events = [commands] ∧ isBikeHandshake commands = true ∧
        (∃ prior, prior <+: sessionEvents events ∧ commands = commandsReceived prior) ∧
        buildHandshakeResponse commands = .ok response ∧
        final.system.written <+:
          response ++ repliesReceived callbacks (sessionEvents events) ∧
        (final.task = .finished (.ok ()) -> final.system.stopNotify = some (.ok ()) ∧
          final.system.written =
            response ++ repliesReceived callbacks (sessionEvents events))) ∧
    ∀ outcome, final.task = .finished outcome ->
      (leavesIn events = [] ∧ ∃ exc, final.system.start = .failed exc ∧ outcome = .error exc) ∨
        ∃ left ended, leavesIn events = [left] ∧ final.system.stop = .finished ended ∧
          outcome = Program.finish left ended := by
  have follows := follows_of_run run
  have sessionRun := session_of_run run
  obtain ⟨noDirect, calls⟩ := sessionEvents_of_run run
  obtain ⟨isPrefix, flushed⟩ := written_of_run sessionRun
  have answered := answers_of_run run returns
  have once : (answersIn events).length ≤ 1 := by
    rcases follows.answers with none | ⟨commands, one⟩
    · rw [none]
      exact Nat.zero_le 1
    · rw [one]
      exact Nat.le_refl 1
  have order : StartupOrder callbacks (sessionEvents events) final.system.session := by
    apply startupOrder_of_run (sessionRun.mono fun _ _ _ => trivial) noDirect
    · rwa [calls]
    · exact fun notification present => returns notification (mem_sessionEvents present)
  rw [StartupOrder, calls] at order
  refine ⟨?_, ?_⟩
  · rcases follows.answers with none | ⟨commands, one⟩
    · rw [none] at order
      refine Or.inl ⟨none, ?_, fun finished => (follows.ends_ok finished).2 none⟩
      rw [order.1] at isPrefix
      exact List.prefix_nil.mp isPrefix
    · rw [one] at order
      obtain ⟨response, builds, packets_eq, _⟩ := order
      rw [packets_eq] at isPrefix flushed
      obtain ⟨isHandshake, received⟩ :=
        answered commands (by rw [one]; exact List.mem_singleton_self _)
      refine Or.inr ⟨commands, response, one, isHandshake, received, builds, isPrefix, ?_⟩
      exact fun finished => flushed (follows.ends_ok finished).1
  · intro outcome finished
    rcases follows.ends finished with failed | ⟨left, ended, leaves, stopped, ends, _⟩
    · exact Or.inl failed
    · exact Or.inr ⟨left, ended, leaves, stopped, ends⟩

/-- A bike shakes hands, and the caller leaves at once. -/
def answeredEvents : List CallerEvent :=
  [ .start, .other .startNotifyReturns, .startEnds,
    .other (.notification (commandNotification (ADVANCED_HANDSHAKE.take 9))),
    .handshake (ADVANCED_HANDSHAKE.take 9), .leaves (.ok ()), .other .stopNotifyReturns,
    .other .joinStep ] ++
    (List.replicate 9 [CallerEvent.other .writerGet, .other .writeReturns]).flatten ++
      [.other .joinStep, .other .stopStep, .other .writerGet, .other .stopStep, .stopEnds]

theorem caller_outcome_answered :
    ∃ final : Called Unit, ∃ commands response,
      Run (Called.step {}) Quiet (Called.initial ()) answeredEvents final ∧
        final.task = .finished (.ok ()) ∧ buildHandshakeResponse commands = .ok response ∧
        final.system.written =
          response ++ repliesReceived ({} : Callbacks Unit) (sessionEvents answeredEvents) := by
  have run := Run.of_execute (Called.step {}) Quiet (Called.initial ()) answeredEvents rfl
  rcases (caller_outcome {} run fun notification _ =>
      Callbacks.neverRaise_none.returnOn notification).1 with
    ⟨_, _, impossible⟩ | ⟨commands, response, _, _, _, builds, _, flushed⟩
  · exact absurd rfl impossible
  · exact ⟨_, commands, response, run, rfl, builds, (flushed rfl).2⟩

end Caller
end Live
end BoschBle
