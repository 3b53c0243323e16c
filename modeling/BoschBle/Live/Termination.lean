import BoschBle.Live.Caller

/-!
# How long `stop` takes

Each step of the writer, of the join and of `stop` brings the end of `stop` nearer.  So a
caller in its `finally` clause ends however these tasks are scheduled, once nothing is put
any more.
-/

namespace BoschBle
namespace Live

open Foundation

/-- A step of the writer, of the join or of `stop`. -/
def Event.ofTasks : Event -> Bool
  | .writerGet | .writeReturns | .writeRaises _ | .stopNotifyReturns | .stopNotifyRaises _
  | .joinStep | .stopStep => true
  | _ => false

/-- A step of these tasks, or the caller goes on behind `stop`. -/
def CallerEvent.ends : CallerEvent -> Bool
  | .other event => event.ofTasks
  | .stopEnds => true
  | _ => false

/-- Only such steps are taken. -/
def Ends {World : Type} (_ : Called World) (event : CallerEvent) : Prop :=
  event.ends = true

instance {World : Type} (called : Called World) (event : CallerEvent) :
    Decidable (Ends called event) :=
  inferInstanceAs (Decidable (_ = true))

/-- How many steps a join has to take at most, a wake-up included. -/
def joinSteps : JoinTask -> Nat
  | .created => 3
  | .waiting => 2
  | .woken => 1
  | .done => 0

/-- How many steps `stop` has to take at most, with those that the sentinel costs. -/
def StopTask.steps : StopTask -> Nat
  | .notCalled => 9
  | .stoppingNotify => 8
  | .waiting _ join => joinSteps join + 4
  | .awaitingWriter _ | .cancellingJoin _ => 1
  | .finished _ => 0

/-- How many steps the tasks have to take at most. -/
def System.steps {World : Type} (system : System World) : Nat :=
  2 * system.session.sendQueue.items.length + system.writer.inHand + system.stop.steps

/-- How many steps it takes at most until the caller has ended. -/
def Called.steps {World : Type} (called : Called World) : Nat :=
  match called.task with
  | .finished _ => called.system.steps
  | _ => called.system.steps + 1

section Termination

variable {World : Type} {callbacks : Callbacks World}

theorem steps_wakeJoin (stop : StopTask) :
    stop.wakeJoin.steps ≤ stop.steps := by
  cases stop with
  | waiting stopError join =>
      cases join <;> exact Nat.add_le_add_right (by decide) 4
  | _ => exact Nat.le_refl _

theorem steps_taskDone (system : System World) (next : Writer) :
    (system.taskDone next).steps ≤
      2 * system.session.sendQueue.items.length + next.inHand + system.stop.steps := by
  unfold System.taskDone
  split
  case h_1 => exact Nat.add_le_add_right (Nat.le_add_right _ _) _
  case h_2 queue done =>
    have items_eq : queue.items = system.session.sendQueue.items := by
      unfold AsyncQueue.taskDone at done
      split at done
      · cases done
      · cases done
        rfl
    unfold System.steps
    dsimp only
    rw [items_eq]
    apply Nat.add_le_add_left
    split
    · exact steps_wakeJoin system.stop
    · exact Nat.le_refl _

theorem joinSteps_of_poll
    {unfinished : Nat} {join polled : JoinTask}
    (polls : join.poll unfinished = some polled) :
    joinSteps polled < joinSteps join := by
  cases join with
  | created =>
      cases polls
      split <;> decide
  | woken =>
      cases polls
      decide
  | waiting => cases polls
  | done => cases polls

theorem steps_writerGet
    {before after : System World}
    (stepped : before.writerGet callbacks = some after) :
    after.steps < before.steps := by
  unfold System.writerGet at stepped
  split at stepped
  case h_2 => cases stepped
  case h_1 item queue getting gets =>
    have items_eq := (AsyncQueue.getNowait_eq_some gets).1
    have before_eq : before.steps = 2 * (queue.items.length + 1) + before.stop.steps := by
      rw [System.steps, items_eq, getting, List.length_cons]
      rfl
    cases item with
    | none =>
        cases stepped
        refine Nat.lt_of_le_of_lt (steps_taskDone _ .returned) ?_
        change 2 * queue.items.length + 0 + before.stop.steps < _
        omega
    | some packet =>
        dsimp only at stepped
        split at stepped
        case h_1 world _ =>
          cases stepped
          change 2 * queue.items.length + 1 + before.stop.steps < _
          omega
        case h_2 exc world _ =>
          cases stepped
          refine Nat.lt_of_le_of_lt (steps_taskDone _ (.failed exc)) ?_
          change 2 * queue.items.length + 0 + before.stop.steps < _
          omega

theorem steps_joinOrFinish (system : System World) (stopError : Option Exn) :
    (system.joinOrFinish stopError).steps <
      2 * system.session.sendQueue.items.length + system.writer.inHand + 8 := by
  apply Nat.add_lt_add_left
  unfold System.joinOrFinish
  dsimp only
  split
  · exact Nat.succ_pos 7
  · exact Nat.lt_succ_self 7

theorem steps_stopStep
    {before after : System World}
    (stepped : before.stopStep = some after) :
    after.steps < before.steps := by
  unfold System.stopStep at stepped
  split at stepped
  case h_1 stopError join waiting =>
    split at stepped
    case h_1 =>
      cases stepped
      apply Nat.add_lt_add_left
      rw [waiting]
      dsimp only
      split <;> simp only [StopTask.steps] <;> omega
    case h_2 =>
      split at stepped
      case isTrue joined =>
        cases stepped
        simp only [System.steps, waiting, joined, StopTask.steps, joinSteps,
          AsyncQueue.items_putNowait, List.length_append, List.length_singleton]
        omega
      case isFalse => cases stepped
  case h_2 stopError awaiting =>
    obtain ⟨result, _, rfl⟩ := Option.map_eq_some_iff.mp stepped
    apply Nat.add_lt_add_left
    rw [awaiting]
    exact Nat.zero_lt_one
  case h_3 outcome cancelling =>
    cases stepped
    apply Nat.add_lt_add_left
    rw [cancelling]
    exact Nat.zero_lt_one
  case h_4 => cases stepped

/-- The step lemma. -/
theorem steps_of_step
    {before after : System World} {event : Event}
    (stepped : before.step callbacks event = some after)
    (ofTasks : event.ofTasks = true) :
    after.steps < before.steps := by
  have writing_eq {packet : Bytes} (writing : before.writer = .writing packet) :
      before.steps = 2 * before.session.sendQueue.items.length + 1 + before.stop.steps := by
    rw [System.steps, writing]
    rfl
  have stopping_eq (stopping : before.stop = .stoppingNotify) : before.steps =
      2 * before.session.sendQueue.items.length + before.writer.inHand + 8 := by
    rw [System.steps, stopping]
    rfl
  cases event with
  | writerGet => exact steps_writerGet stepped
  | writeReturns =>
      simp only [System.step] at stepped
      split at stepped
      case h_1 packet writing =>
        cases stepped
        refine Nat.lt_of_le_of_lt (steps_taskDone _ .getting) ?_
        rw [writing_eq writing]
        exact Nat.add_lt_add_right (Nat.lt_succ_self _) _
      case h_2 => cases stepped
  | writeRaises exc =>
      simp only [System.step] at stepped
      split at stepped
      case h_1 packet writing =>
        cases stepped
        refine Nat.lt_of_le_of_lt (steps_taskDone _ (.failed exc)) ?_
        rw [writing_eq writing]
        exact Nat.add_lt_add_right (Nat.lt_succ_self _) _
      case h_2 => cases stepped
  | stopNotifyReturns =>
      simp only [System.step, Option.ite_none_right_eq_some, Option.some.injEq] at stepped
      obtain ⟨stopping, rfl⟩ := stepped
      rw [stopping_eq stopping]
      exact steps_joinOrFinish before none
  | stopNotifyRaises exc =>
      simp only [System.step, Option.ite_none_right_eq_some] at stepped
      obtain ⟨stopping, stepped⟩ := stepped
      rw [stopping_eq stopping]
      split at stepped <;> cases stepped
      · exact steps_joinOrFinish before (some exc)
      · exact Nat.add_lt_add_left (Nat.succ_pos 7) _
  | joinStep =>
      simp only [System.step] at stepped
      split at stepped
      case h_1 stopError join waiting =>
        obtain ⟨polled, polls, rfl⟩ := Option.map_eq_some_iff.mp stepped
        apply Nat.add_lt_add_left
        rw [waiting]
        exact Nat.add_lt_add_right (joinSteps_of_poll polls) 4
      case h_2 => cases stepped
  | stopStep => exact steps_stopStep stepped
  | _ => cases ofTasks

/-! ## The caller -/

theorem callerSteps_of_step
    {before after : Called World} {event : CallerEvent}
    (stepped : before.step callbacks event = some after)
    (ends : event.ends = true) :
    after.steps < before.steps := by
  cases event with
  | other event =>
      obtain ⟨_, next, moved, rfl⟩ := Called.step_other stepped
      have fewer := steps_of_step moved ends
      unfold Called.steps
      dsimp only
      split
      · exact fewer
      · exact Nat.succ_lt_succ fewer
  | stopEnds =>
      obtain ⟨_, _, stopping, _, rfl⟩ := Called.step_stopEnds stepped
      rw [Called.steps, Called.steps, stopping]
      exact Nat.lt_succ_self _
  | _ => cases ends

theorem callerSteps_of_run
    {before after : Called World} {events : List CallerEvent}
    (run : Run (Called.step callbacks) Ends before events after) :
    events.length + after.steps ≤ before.steps := by
  induction run with
  | nil => exact Nat.le_of_eq (Nat.zero_add _)
  | snoc _ ends stepped inductionHypothesis =>
      have fewer := callerSteps_of_step stepped ends
      rw [List.length_append, List.length_singleton]
      omega

/-- A session whose `stop` runs has a step to take. -/
theorem exists_step_of_stopping
    {system : System World}
    (callbacks : Callbacks World)
    (accounted : Accounted system)
    (unblocked : Unblocked system)
    (called : system.stop ≠ .notCalled)
    (running : ∀ ended, system.stop ≠ .finished ended) :
    ∃ event, event.ofTasks = true ∧ (system.step callbacks event).isSome = true := by
  have ofBusy (busy : system.WriterBusy) :
      ∃ event, event.ofTasks = true ∧ (system.step callbacks event).isSome = true := by
    rcases busy.isSome callbacks with gets | writes
    · exact ⟨.writerGet, rfl, gets⟩
    · exact ⟨.writeReturns, rfl, writes⟩
  cases stop : system.stop with
  | notCalled => exact absurd stop called
  | stoppingNotify =>
      refine ⟨.stopNotifyReturns, rfl, ?_⟩
      simp only [System.step, stop, if_true, Option.isSome_some]
  | waiting stopError join =>
      rcases unblocked.joinable callbacks accounted stop with rfl | ended | ⟨_, polls⟩ | busy
      · refine ⟨.stopStep, rfl, ?_⟩
        simp only [System.step, System.stopStep, stop, if_true]
        split <;> rfl
      · refine ⟨.stopStep, rfl, ?_⟩
        obtain ⟨result, ended⟩ := Option.isSome_iff_exists.mp ended
        simp only [System.step, System.stopStep, stop, ended, Option.isSome_some]
      · exact ⟨.joinStep, rfl, polls⟩
      · exact ofBusy busy
  | awaitingWriter stopError =>
      rcases unblocked.awaitable accounted stop with ended | busy
      · refine ⟨.stopStep, rfl, ?_⟩
        obtain ⟨result, ended⟩ := Option.isSome_iff_exists.mp ended
        simp only [System.step, System.stopStep, stop, ended, Option.map_some,
          Option.isSome_some]
      · exact ofBusy busy
  | cancellingJoin outcome =>
      refine ⟨.stopStep, rfl, ?_⟩
      simp only [System.step, System.stopStep, stop, Option.isSome_some]
  | finished outcome => exact absurd stop (running outcome)

theorem ofCaller_of_ofTasks {event : Event} (ofTasks : event.ofTasks = true) :
    event.ofCaller = false := by
  cases event <;> first | rfl | cases ofTasks

theorem quiet_of_ends
    {called : Called World} {event : CallerEvent}
    (ends : event.ends = true) :
    Quiet called event := by
  have silent : event.notifies = false := by
    cases event with
    | other event => cases event <;> first | rfl | cases ends
    | _ => rfl
  intro notifies
  rw [silent] at notifies
  cases notifies

/-- The `finally` clause runs, or the caller has ended behind it. -/
def Leaving (left : Except Exn Unit) (called : Called World) : Prop :=
  called.task = .stopping left ∨
    ∃ ended, called.system.stop = .finished ended ∧
      called.task = .finished (Program.finish left ended)

theorem leaving_of_step
    {left : Except Exn Unit} {before after : Called World} {event : CallerEvent}
    (leaving : Leaving left before)
    (ends : event.ends = true)
    (stepped : before.step callbacks event = some after) :
    Leaving left after := by
  cases event with
  | other event =>
      obtain ⟨_, next, moved, rfl⟩ := Called.step_other stepped
      rcases leaving with stopping | ⟨ended, stopped, finished⟩
      · exact Or.inl stopping
      · have stays := finished_of_transition stopped (transition_of_step moved)
          (ofCaller_of_ofTasks ends)
        exact Or.inr ⟨ended, stays, finished⟩
  | stopEnds =>
      obtain ⟨_, ended, stopping, stopped, rfl⟩ := Called.step_stopEnds stepped
      rcases leaving with same | ⟨_, _, finished⟩
      · cases same.symm.trans stopping
        exact Or.inr ⟨ended, stopped, rfl⟩
      · cases finished.symm.trans stopping
  | _ => cases ends

theorem leaving_of_run
    {left : Except Exn Unit} {before after : Called World} {events : List CallerEvent}
    (leaving : Leaving left before)
    (run : Run (Called.step callbacks) Ends before events after) :
    Leaving left after := by
  induction run with
  | nil => exact leaving
  | snoc _ ends stepped inductionHypothesis =>
      exact leaving_of_step inductionHypothesis ends stepped

theorem called_of_stopping
    {answers : List (List Mcsp.Command)} {lefts : List (Except Exn Unit)}
    {called : Called World} {left : Except Exn Unit}
    (follows : Follows answers lefts called)
    (stopping : called.task = .stopping left) :
    called.system.stop ≠ .notCalled := by
  cases follows with
  | stopping _ isCalled => exact isCalled
  | _ => cases stopping

theorem steps_of_stopping
    {answers : List (List Mcsp.Command)} {lefts : List (Except Exn Unit)}
    {called : Called World} {left : Except Exn Unit}
    (follows : Follows answers lefts called)
    (stopping : called.task = .stopping left) :
    called.steps ≤ 2 * called.system.session.sendQueue.items.length + 10 := by
  have inHand : called.system.writer.inHand ≤ 1 := by
    cases called.system.writer <;> simp only [Writer.inHand, Nat.zero_le, Nat.le_refl]
  have stopSteps : called.system.stop.steps ≤ 8 := by
    cases stop : called.system.stop with
    | notCalled => exact absurd stop (called_of_stopping follows stopping)
    | waiting _ join => cases join <;> simp [StopTask.steps, joinSteps]
    | _ => simp [StopTask.steps]
  rw [Called.steps, stopping]
  unfold System.steps
  dsimp only
  omega

/-- A caller in its `finally` clause ends: once nothing is put any more, it and the tasks
take at most two steps for each packet in the queue and ten more, in whatever order, and
where none of them has a step to take, the caller has ended with what the block and
`stop` have left. -/
theorem caller_ends
    (callbacks : Callbacks World)
    {world : World} {events more : List CallerEvent} {before after : Called World}
    {left : Except Exn Unit}
    (run : Run (Called.step callbacks) Quiet (Called.initial world) events before)
    (stopping : before.task = .stopping left)
    (ending : Run (Called.step callbacks) Ends before more after) :
    more.length ≤ 2 * before.system.session.sendQueue.items.length + 10 ∧
      ((∀ event, event.ends = true -> after.step callbacks event = none) ->
        ∃ ended, after.system.stop = .finished ended ∧
          after.task = .finished (Program.finish left ended)) := by
  have whole := run.trans (ending.mono fun _ _ ends => quiet_of_ends ends)
  have sessionRun := session_of_run whole
  constructor
  · have bound := steps_of_stopping (follows_of_run run) stopping
    have fewer := callerSteps_of_run ending
    omega
  · intro stuck
    rcases leaving_of_run (Or.inl stopping) ending with stopping | ended
    · -- A caller that still stops the session has a step to take itself, or the session has.
      have stops : ∀ ended, after.system.stop ≠ .finished ended := by
        intro ended stopped
        have step := stuck .stopEnds rfl
        simp only [Called.step, stopping, stopped] at step
        cases step
      have called := called_of_stopping (follows_of_run whole) stopping
      obtain ⟨event, ofTasks, steps⟩ := exists_step_of_stopping callbacks
        (accounted_of_run sessionRun) (unblocked_of_run (fun _ _ quiet => quiet.1) sessionRun)
        called stops
      have step := stuck (.other event) ofTasks
      simp only [Called.step, ofCaller_of_ofTasks ofTasks, Bool.false_eq_true, if_false,
        Option.map_eq_none_iff] at step
      rw [step] at steps
      cases steps
    · exact ended

theorem caller_ends_answered :
    ∃ before after : Called Unit,
      Run (Called.step {}) Quiet (Called.initial ()) (answeredEvents.take 6) before ∧
        Run (Called.step {}) Ends before (answeredEvents.drop 6) after ∧
          (answeredEvents.drop 6).length ≤
            2 * before.system.session.sendQueue.items.length + 10 := by
  obtain ⟨before, after, run, stopping, ending⟩ : ∃ before after : Called Unit,
      Run (Called.step {}) Quiet (Called.initial ()) (answeredEvents.take 6) before ∧
        before.task = .stopping (.ok ()) ∧
          Run (Called.step {}) Ends before (answeredEvents.drop 6) after :=
    ⟨_, _, Run.of_execute _ _ _ _ rfl, rfl, Run.of_execute _ _ _ _ rfl⟩
  exact ⟨before, after, run, ending, (caller_ends {} run stopping ending).1⟩

end Termination
end Live
end BoschBle
