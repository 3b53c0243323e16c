import BoschBle.Bluez.Trace
import BoschBle.Bluez.WaitState
import BoschBle.Foundation.Environment
import BoschBle.Foundation.Locals

/-!
# Capturing a trace

`btmon_text_capture` runs `btmon` around a block.  Beside the block a writer copies the
output of `btmon` to a file, line by line.  The environment has the process and the
writer in its state: they move whenever they can, so that a trace goes through every
order of their moves and of the calls of the tool.  What the functions print is left out.
-/

namespace BoschBle
namespace Bluez

open Foundation

/-! ## Calls -/

/-- A call of a capture. -/
inductive CaptureCall
  /-- `NamedTemporaryFile(..., delete=False)`, which leaves an empty file. -/
  | makeTrace
  /-- `create_subprocess_exec` for `btmon`, and the task for the writer. -/
  | create
  /-- `wait_for(ready.wait(), timeout=5.0)`. -/
  | waitReady
  /-- `process.returncode is not None`. -/
  | exited
  | terminate
  /-- `wait_for(process.wait(), timeout=5.0)`. -/
  | waitExit
  | kill
  /-- `process.wait()`. -/
  | wait
  /-- `await writer_task`. -/
  | writer
  | traceExists
  /-- `trace_path.read_text(...)`. -/
  | readTrace
  deriving DecidableEq

/-- What the calls of a capture return. -/
@[reducible] def CaptureAnswer : CaptureCall -> Type
  | .makeTrace => String
  | .exited => Bool
  | .traceExists => Bool
  | .readTrace => Text
  | _ => Unit

/-- A call of a tool that captures. -/
inductive TraceCall
  | timed (call : TimedCall)
  | capture (call : CaptureCall)
  | sleep (milliseconds : Nat)
  /-- The report of an experiment. -/
  | writeSummary (path address outcome : String) (summary : PairAttemptSummary)
  deriving DecidableEq

/-- What the calls of a tool under a capture return. -/
@[reducible] def TraceAnswer : TraceCall -> Type
  | .timed call => TimedAnswer call
  | .capture call => CaptureAnswer call
  | .sleep _ => Unit
  | .writeSummary _ _ _ _ => Unit

/-- A program that works under a capture. -/
abbrev TraceAction (α : Type) : Type :=
  Program TraceCall TraceAnswer α

/-- A call of such a program with its outcome. -/
abbrev TraceStep : Type :=
  Exchange TraceCall TraceAnswer

/-- The calls of `bluez.py` within such a tool. -/
def timed : Embedding TimedCall TimedAnswer TraceCall TraceAnswer where
  call := .timed
  answer := fun _ => rfl

/-- Those of them that go to the system. -/
def traced : Embedding Call Answer TraceCall TraceAnswer where
  call := fun call => .timed (.system call)
  answer := fun _ => rfl

/-- Make a call of the capture. -/
def performCapture (call : CaptureCall) : TraceAction (CaptureAnswer call) :=
  Program.perform (TraceCall.capture call)

/-! ## The capture -/

/-- The error of a capture that could not be made, `ConnectionSetupStep.CAPTURE`. -/
def captureError (detail : String) : Exn :=
  ⟨.user "ConnectionSetupError", "BlueZ btmon capture failed for controller: " ++ detail⟩

/-- Run a program, and where it times out do something else. -/
def onTimeout (program other : TraceAction α) : TraceAction α :=
  Program.tryExcept program fun exc =>
    if exc.type = .timeoutError then other else Program.raise exc

/-- The clean-up of a capture. -/
def endCapture : TraceAction Unit := do
  let exited <- performCapture .exited
  if !exited then do
    performCapture .terminate
    onTimeout (performCapture .waitExit) do
      performCapture .kill
      performCapture .wait
    performCapture .writer
  else
    performCapture .writer

/-- The experiment must not have outlived the capture. -/
def checkRunning (tracePath : String) : TraceAction Unit := do
  let exited <- performCapture .exited
  if exited then
    Program.raise
      (captureError ("capture exited before experiment finished; inspect " ++ tracePath))
  else
    return ()

section Capture

variable {σ : Type}

/-- What is done while `btmon` runs. -/
def captureBlock
    (tracePath : String)
    (block : Local σ TraceCall TraceAnswer α) : Local σ TraceCall TraceAnswer α := do
  Local.lift (onTimeout (performCapture .waitReady)
    (Program.raise (captureError ("capture did not become ready; inspect " ++ tracePath))))
  let value <- block
  Local.lift (checkRunning tracePath)
  return value

/-- The file of a capture: the one that was given, or else a new temporary one. -/
def capturePath : Option String -> TraceAction String
  | some path => return path
  | none => performCapture .makeTrace

/-- `async with btmon_text_capture(path=path) as trace_path` around a block. -/
def btmonTextCapture
    (path : Option String)
    (block : String -> Local σ TraceCall TraceAnswer α) : Local σ TraceCall TraceAnswer α := do
  let tracePath <- Local.lift (capturePath path)
  Local.lift (performCapture .create)
  Local.tryFinally (captureBlock tracePath (block tracePath)) endCapture

end Capture

/-! ## The process and the writer -/

/-- `read_text` reads every line break as a newline. -/
def universalNewlines : Text -> Text
  | [] => []
  | '\r' :: '\n' :: rest => '\n' :: universalNewlines rest
  | '\r' :: rest => '\n' :: universalNewlines rest
  | char :: rest => char :: universalNewlines rest

/-- What `btmon` prints once it is capturing. -/
def banner : Text :=
  "Bluetooth monitor".toList

/-- The state beside the tool.  The output of `btmon` is taken as the text that it is
decoded to. -/
structure Captured where
  started : Bool := false
  /-- The lines that `btmon` has printed. -/
  printed : List Text := []
  exited : Bool := false
  file : Option Text := none
  /-- How many lines the writer has copied, once it has opened the file. -/
  copied : Option Nat := none
  ready : Bool := false
  /-- How the writer has ended. -/
  writer : Option (Except Exn Unit) := none

namespace Captured

/-- A move of `btmon` or of the writer. -/
inductive Moves : Captured -> Captured -> Prop
  | prints
      {state : Captured}
      (line : Text)
      (started : state.started = true)
      (running : state.exited = false) :
      Moves state { state with printed := state.printed ++ [line] }
  | exits
      {state : Captured}
      (started : state.started = true) :
      Moves state { state with exited := true }
  | opens
      {state : Captured}
      (started : state.started = true)
      (closed : state.copied = none)
      (running : state.writer = none) :
      Moves state { state with copied := some 0, file := some [] }
  | copies
      {state : Captured} {copied : Nat} {file line : Text}
      (opened : state.copied = some copied)
      (running : state.writer = none)
      (holds : state.file = some file)
      (next : state.printed[copied]? = some line) :
      Moves state
        { state with
          copied := some (copied + 1)
          file := some (file ++ line)
          ready := state.ready || Text.contains banner line }
  | ends
      {state : Captured}
      (exited : state.exited = true)
      (running : state.writer = none)
      (complete : state.copied = some state.printed.length) :
      Moves state { state with writer := some (.ok ()) }
  /-- A writer that raises may leave anything in the file. -/
  | fails
      {state : Captured}
      (exc : Exn)
      (torn : Option Text)
      (started : state.started = true)
      (running : state.writer = none) :
      Moves state { state with writer := some (.error exc), file := torn }

/-- An exchange of the tool.  Every call may raise. -/
inductive Answers : Captured -> TraceStep -> Captured -> Prop
  | raises (state : Captured) (call : TraceCall) (exc : Exn) :
      Answers state ⟨call, .error exc⟩ state
  | timed (state : Captured) (call : TimedCall) (answer : TimedAnswer call) :
      Answers state ⟨.timed call, .ok answer⟩ state
  | sleep (state : Captured) (milliseconds : Nat) :
      Answers state ⟨.sleep milliseconds, .ok ()⟩ state
  | writeSummary (state : Captured) (path address outcome : String)
      (summary : PairAttemptSummary) :
      Answers state ⟨.writeSummary path address outcome summary, .ok ()⟩ state
  | makeTrace
      {state : Captured}
      (path : String)
      (unstarted : state.started = false) :
      Answers state ⟨.capture .makeTrace, .ok path⟩ { state with file := some [] }
  | create
      {state : Captured}
      (unstarted : state.started = false) :
      Answers state ⟨.capture .create, .ok ()⟩ { state with started := true }
  | waitReady
      {state : Captured}
      (ready : state.ready = true) :
      Answers state ⟨.capture .waitReady, .ok ()⟩ state
  /-- That the process has exited is known some time after it has. -/
  | exited
      {state : Captured}
      (known : Bool)
      (has : known = true -> state.exited = true) :
      Answers state ⟨.capture .exited, .ok known⟩ state
  | terminate (state : Captured) : Answers state ⟨.capture .terminate, .ok ()⟩ state
  | kill (state : Captured) : Answers state ⟨.capture .kill, .ok ()⟩ state
  | waitExit
      {state : Captured}
      (exited : state.exited = true) :
      Answers state ⟨.capture .waitExit, .ok ()⟩ state
  | wait
      {state : Captured}
      (exited : state.exited = true) :
      Answers state ⟨.capture .wait, .ok ()⟩ state
  | writer
      {state : Captured}
      (ended : state.writer = some (.ok ())) :
      Answers state ⟨.capture .writer, .ok ()⟩ state
  | traceExists (state : Captured) :
      Answers state ⟨.capture .traceExists, .ok state.file.isSome⟩ state
  | readTrace
      {state : Captured} {file : Text}
      (holds : state.file = some file) :
      Answers state ⟨.capture .readTrace, .ok (universalNewlines file)⟩ state

end Captured

/-- The capture as the environment of a run: `btmon` and its writer move between the calls.
-/
def captureEnvironment : Environment TraceCall TraceAnswer Captured where
  moves := Captured.Moves
  answers := Captured.Answers

namespace Captured

/-- What holds of every state that is reached. -/
structure Sound (state : Captured) : Prop where
  unstarted : state.started = false ->
    state.printed = [] ∧ state.copied = none ∧ state.ready = false ∧ state.writer = none ∧
      state.exited = false
  /-- A writer that has not ended has copied the lines that it counts. -/
  copying : state.writer = none -> ∀ copied, state.copied = some copied ->
    copied ≤ state.printed.length ∧ state.file = some (state.printed.take copied).flatten
  /-- A banner has been printed and was copied. -/
  announced : state.ready = true -> ∃ line ∈ state.printed, Text.contains banner line = true
  complete : state.writer = some (.ok ()) ->
    state.exited = true ∧ state.file = some state.printed.flatten

theorem sound_new : Sound {} where
  unstarted := fun _ => ⟨rfl, rfl, rfl, rfl, rfl⟩
  copying := by
    intro _ copied impossible
    cases impossible
  announced := by
    intro impossible
    cases impossible
  complete := by
    intro impossible
    cases impossible

theorem sound_of_moves
    {state next : Captured}
    (moved : Moves state next)
    (sound : state.Sound) :
    next.Sound := by
  cases moved with
  | prints line started running =>
      refine ⟨?_, ?_, ?_, ?_⟩
      · intro unstarted
        exact absurd (started.symm.trans unstarted) (by decide)
      · intro writing copied opened
        obtain ⟨inRange, file⟩ := sound.copying writing copied opened
        dsimp only
        rw [List.length_append, List.take_append_of_le_length inRange]
        exact ⟨inRange.trans (Nat.le_add_right _ _), file⟩
      · intro ready
        obtain ⟨first, printed, isBanner⟩ := sound.announced ready
        exact ⟨first, List.mem_append_left _ printed, isBanner⟩
      · intro ended
        exact absurd ((sound.complete ended).1.symm.trans running) (by decide)
  | exits started =>
      refine ⟨?_, sound.copying, sound.announced, ?_⟩
      · intro unstarted
        exact absurd (started.symm.trans unstarted) (by decide)
      · intro ended
        exact ⟨rfl, (sound.complete ended).2⟩
  | opens started closed running =>
      refine ⟨?_, ?_, sound.announced, ?_⟩
      · intro unstarted
        exact absurd (started.symm.trans unstarted) (by decide)
      · intro writing copied opened
        cases opened
        exact ⟨Nat.zero_le _, rfl⟩
      · intro ended
        exact absurd (running.symm.trans ended) (Option.some_ne_none _).symm
  | @copies copied file line opened running holds next =>
      obtain ⟨inRange, file_eq⟩ := sound.copying running copied opened
      refine ⟨?_, ?_, ?_, ?_⟩
      · intro unstarted
        rw [(sound.unstarted unstarted).2.1] at opened
        cases opened
      · intro writing count counted
        cases counted
        refine ⟨(List.getElem?_eq_some_iff.mp next).1, ?_⟩
        rw [holds, Option.some.injEq] at file_eq
        rw [List.take_add_one, next, List.flatten_append, ← file_eq]
        exact congrArg (fun added => some (file ++ added)) (List.append_nil line).symm
      · intro ready
        rcases (Bool.or_eq_true _ _).mp ready with ready | isBanner
        · exact sound.announced ready
        · exact ⟨line, List.mem_of_getElem? next, isBanner⟩
      · intro ended
        exact absurd (running.symm.trans ended) (Option.some_ne_none _).symm
  | ends exited running complete =>
      obtain ⟨_, file⟩ := sound.copying running _ complete
      rw [List.take_length] at file
      refine ⟨?_, ?_, sound.announced, fun _ => ⟨exited, file⟩⟩
      · intro unstarted
        rw [(sound.unstarted unstarted).2.1] at complete
        cases complete
      · intro impossible
        cases impossible
  | fails exc torn started running =>
      refine ⟨?_, ?_, sound.announced, ?_⟩
      · intro unstarted
        exact absurd (started.symm.trans unstarted) (by decide)
      · intro impossible
        cases impossible
      · intro impossible
        cases impossible

theorem sound_of_answers
    {state next : Captured} {step : TraceStep}
    (answered : Answers state step next)
    (sound : state.Sound) :
    next.Sound := by
  cases answered with
  | makeTrace path unstarted =>
      obtain ⟨none, closed, unready, running, alive⟩ := sound.unstarted unstarted
      refine ⟨sound.unstarted, ?_, sound.announced, ?_⟩
      · intro _ copied opened
        rw [closed] at opened
        cases opened
      · intro ended
        rw [running] at ended
        cases ended
  | create unstarted =>
      refine ⟨?_, sound.copying, sound.announced, sound.complete⟩
      intro impossible
      cases impossible
  | _ => exact sound

theorem sound_stable : captureEnvironment.Stable Sound where
  moves := fun _ _ => sound_of_moves
  answers := fun _ _ _ => sound_of_answers

/-- A writer that has ended well has ended for good. -/
theorem ended_stable :
    captureEnvironment.Stable fun state =>
      state.started = true ∧ state.writer = some (.ok ()) where
  moves := by
    rintro state next moved ⟨started, ended⟩
    have notRunning : state.writer ≠ none := by
      rw [ended]
      exact Option.some_ne_none _
    cases moved with
    | prints line _ _ => exact ⟨started, ended⟩
    | exits _ => exact ⟨started, ended⟩
    | opens _ _ running => exact absurd running notRunning
    | copies _ running _ _ => exact absurd running notRunning
    | ends _ running _ => exact absurd running notRunning
    | fails _ _ _ running => exact absurd running notRunning
  answers := by
    rintro state step next answered ⟨started, ended⟩
    cases answered with
    | makeTrace path unstarted => exact absurd (started.symm.trans unstarted) (by decide)
    | create unstarted => exact absurd (started.symm.trans unstarted) (by decide)
    | _ => exact ⟨started, ended⟩

theorem ready_stable : captureEnvironment.Stable fun state => state.ready = true where
  moves := by
    intro state next moved ready
    cases moved with
    | copies _ _ _ _ => exact (Bool.or_eq_true _ _).mpr (Or.inl ready)
    | _ => exact ready
  answers := by
    intro state step next answered ready
    cases answered <;> exact ready

/-- The file holds all that `btmon` has printed, and `btmon` prints no more. -/
def Complete (state : Captured) : Prop :=
  state.exited = true ∧ state.file = some state.printed.flatten

theorem ended_of_writer
    {trace : List TraceStep} {last : Captured}
    (goes : captureEnvironment.Goes {} trace last)
    (awaited : ⟨.capture .writer, .ok ()⟩ ∈ trace) :
    last.started = true ∧ last.writer = some (.ok ()) := by
  apply ended_stable.established sound_stable _ goes awaited sound_new
  intro state next sound answered
  cases answered with
  | writer ended =>
      refine ⟨?_, ended⟩
      cases started : state.started with
      | true => rfl
      | false =>
          rw [(sound.unstarted started).2.2.2.1] at ended
          cases ended

/-- Where the writer was awaited the file is complete. -/
theorem complete_of_writer
    {trace : List TraceStep} {last : Captured}
    (goes : captureEnvironment.Goes {} trace last)
    (awaited : ⟨.capture .writer, .ok ()⟩ ∈ trace) :
    last.Complete :=
  (sound_stable.keeps goes sound_new).complete (ended_of_writer goes awaited).2

/-- A writer that has ended well has left a file that nothing changes. -/
theorem frozen_stable (printed : List Text) :
    captureEnvironment.Stable fun state =>
      state.Sound ∧ state.started = true ∧ state.writer = some (.ok ()) ∧
        state.printed = printed where
  moves := by
    rintro state next moved ⟨sound, started, ended, rfl⟩
    obtain ⟨startedNext, endedNext⟩ := ended_stable.moves state next moved ⟨started, ended⟩
    refine ⟨sound_of_moves moved sound, startedNext, endedNext, ?_⟩
    cases moved with
    | prints line _ running =>
        exact absurd ((sound.complete ended).1.symm.trans running) (by decide)
    | _ => rfl
  answers := by
    rintro state next after answered ⟨sound, started, ended, rfl⟩
    obtain ⟨startedNext, endedNext⟩ := ended_stable.answers state next after answered
      ⟨started, ended⟩
    refine ⟨sound_of_answers answered sound, startedNext, endedNext, ?_⟩
    cases answered <;> rfl

/-- What is read where the writer was awaited is all that `btmon` has printed. -/
theorem read_of_writer
    {before behind : List TraceStep} {text : Text} {last : Captured}
    (goes : captureEnvironment.Goes {} (before ++ behind) last)
    (awaited : ⟨.capture .writer, .ok ()⟩ ∈ before)
    (read : ⟨.capture .readTrace, .ok text⟩ ∈ behind) :
    text = universalNewlines last.printed.flatten := by
  obtain ⟨middle, earlier, later⟩ := Environment.goes_append.mp goes
  have frozen := ended_of_writer earlier awaited
  have reads := (frozen_stable middle.printed).keeps later
    ⟨sound_stable.keeps earlier sound_new, frozen.1, frozen.2, rfl⟩
  have always : captureEnvironment.Stable fun _ : Captured =>
      text = universalNewlines middle.printed.flatten :=
    ⟨fun _ _ _ => id, fun _ _ _ _ => id⟩
  rw [reads.2.2.2]
  apply always.established (frozen_stable middle.printed) _ later read
    ⟨sound_stable.keeps earlier sound_new, frozen.1, frozen.2, rfl⟩
  rintro state next ⟨sound, _, ended, printed⟩ answered
  cases answered with
  | readTrace holds =>
      rw [(sound.complete ended).2, Option.some.injEq] at holds
      rw [← printed, holds]

/-- The file is there where the writer was awaited. -/
theorem exists_of_writer
    {before behind : List TraceStep} {known : Bool} {last : Captured}
    (goes : captureEnvironment.Goes {} (before ++ behind) last)
    (awaited : ⟨.capture .writer, .ok ()⟩ ∈ before)
    (asked : ⟨.capture .traceExists, .ok known⟩ ∈ behind) :
    known = true := by
  obtain ⟨middle, earlier, later⟩ := Environment.goes_append.mp goes
  have frozen := ended_of_writer earlier awaited
  have always : captureEnvironment.Stable fun _ : Captured => known = true :=
    ⟨fun _ _ _ => id, fun _ _ _ _ => id⟩
  apply always.established (frozen_stable middle.printed) _ later asked
    ⟨sound_stable.keeps earlier sound_new, frozen.1, frozen.2, rfl⟩
  rintro state next ⟨sound, _, ended, _⟩ answered
  cases answered with
  | traceExists =>
      rw [(sound.complete ended).2]
      rfl

/-- Where the capture has become ready a banner was printed. -/
theorem announced_of_ready
    {trace : List TraceStep} {last : Captured}
    (goes : captureEnvironment.Goes {} trace last)
    (awaited : ⟨.capture .waitReady, .ok ()⟩ ∈ trace) :
    ∃ line ∈ last.printed, Text.contains banner line = true := by
  have ready := ready_stable.established sound_stable (by
    intro state next _ answered
    cases answered with
    | waitReady ready => exact ready) goes awaited sound_new
  exact (sound_stable.keeps goes sound_new).announced ready

end Captured

/-! ## Runs of a capture -/

section Capture

variable {σ : Type} {trace : List TraceStep}

theorem onTimeout_ok
    {program other : TraceAction α} {value : α}
    (runs : (onTimeout program other).Runs trace (.ok value)) :
    program.Runs trace (.ok value) ∨
      ∃ first second exc, trace = first ++ second ∧ program.Runs first (.error exc) ∧
        other.Runs second (.ok value) := by
  rcases Program.runs_tryExcept.mp runs with
    ⟨_, same, returns⟩ | ⟨_, _, impossible, _⟩ | ⟨first, second, exc, rfl, _, raises, handles⟩
  · rw [Except.ok.inj same]
    exact Or.inl returns
  · cases impossible
  · split at handles
    case isTrue => exact Or.inr ⟨first, second, exc, rfl, raises, handles⟩
    case isFalse =>
      obtain ⟨_, impossible⟩ := Program.runs_done.mp handles
      cases impossible

/-- A clean-up that returns has awaited the writer. -/
theorem endCapture_ok
    (runs : endCapture.Runs trace (.ok ())) :
    ⟨.capture .writer, .ok ()⟩ ∈ trace := by
  have awaited {trace : List TraceStep}
      (runs : (performCapture .writer).Runs trace (.ok ())) :
      ⟨.capture .writer, .ok ()⟩ ∈ trace := by
    rw [Program.runs_perform.mp runs]
    exact List.mem_singleton_self _
  obtain ⟨asks, rest, exited, rfl, _, ends⟩ := Program.runs_bind_ok.mp runs
  apply List.mem_append_right
  split at ends
  case isTrue =>
    obtain ⟨_, later, _, rfl, _, waits⟩ := Program.runs_bind_ok.mp ends
    obtain ⟨_, last, _, rfl, _, writes⟩ := Program.runs_bind_ok.mp waits
    exact List.mem_append_right _ (List.mem_append_right _ (awaited writes))
  case isFalse => exact awaited ends

/-- What is done while `btmon` runs raises before its block, and would with any other, or
has begun the block behind the wait for the banner. -/
theorem captureBlock_runs
    {tracePath : String} {block : Local σ TraceCall TraceAnswer α}
    {locals after : σ} {result : Except Exn α}
    (runs : Local.Runs (captureBlock tracePath block) locals trace result after) :
    (after = locals ∧ (∃ exc, result = .error exc) ∧
        ∀ other : Local σ TraceCall TraceAnswer α,
          Local.Runs (captureBlock tracePath other) locals trace result after) ∨
      ∃ first inner last ended, trace = first ++ (inner ++ last) ∧
        ⟨.capture .waitReady, .ok ()⟩ ∈ first ∧ Local.Runs block locals inner ended after ∧
          ∀ value, result = .ok value -> ended = .ok value := by
  rcases Local.runs_lift_bind.mp runs with
    ⟨exc, rfl, raises, rfl⟩ | ⟨first, rest, _, rfl, ready, continues⟩
  · exact Or.inl ⟨rfl, ⟨exc, rfl⟩,
      fun _ => Local.runs_lift_bind.mpr (Or.inl ⟨exc, rfl, raises, rfl⟩)⟩
  have awaited : ⟨.capture .waitReady, .ok ()⟩ ∈ first := by
    rcases onTimeout_ok ready with performed | ⟨_, _, _, _, _, impossible⟩
    · rw [Program.runs_perform.mp performed]
      exact List.mem_singleton_self _
    · obtain ⟨_, impossible⟩ := Program.runs_done.mp impossible
      cases impossible
  rcases Local.runs_bind.mp continues with
    ⟨exc, rfl, raises⟩ | ⟨inner, last, value, middle, rfl, blockRuns, checks⟩
  · refine Or.inr ⟨first, rest, [], .error exc, ?_, awaited, raises, ?_⟩
    · rw [List.append_nil]
    · intro value impossible
      cases impossible
  · rcases Local.runs_lift_bind.mp checks with
      ⟨exc, rfl, _, rfl⟩ | ⟨asks, none, _, rfl, _, returns⟩
    · refine Or.inr ⟨first, inner, last, .ok value, rfl, awaited, blockRuns, ?_⟩
      intro other impossible
      cases impossible
    · obtain ⟨rfl, rfl, rfl⟩ := Local.runs_pure.mp returns
      exact Or.inr ⟨first, inner, asks ++ [], .ok value, rfl, awaited, blockRuns, fun _ => id⟩

/-- The block of a capture is run where the capture has become ready, and a run that does
not come to that would be the same with any other block.  A capture that returns has
awaited its writer. -/
theorem btmonTextCapture_runs
    {path : Option String} {block : String -> Local σ TraceCall TraceAnswer α}
    {locals after : σ} {result : Except Exn α}
    (runs : Local.Runs (btmonTextCapture path block) locals trace result after) :
    (after = locals ∧ (∃ exc, result = .error exc) ∧
        ∀ other : String -> Local σ TraceCall TraceAnswer α,
          Local.Runs (btmonTextCapture path other) locals trace result after) ∨
      ∃ tracePath first inner last ended, trace = first ++ (inner ++ last) ∧
        (∀ given, path = some given -> tracePath = given) ∧
          ⟨.capture .waitReady, .ok ()⟩ ∈ first ∧
            Local.Runs (block tracePath) locals inner ended after ∧
              ∀ value, result = .ok value ->
                ended = .ok value ∧ ⟨.capture .writer, .ok ()⟩ ∈ last := by
  rcases Local.runs_lift_bind.mp runs with
    ⟨exc, rfl, raises, rfl⟩ | ⟨names, rest, tracePath, rfl, given, continues⟩
  · exact Or.inl ⟨rfl, ⟨exc, rfl⟩,
      fun _ => Local.runs_lift_bind.mpr (Or.inl ⟨exc, rfl, raises, rfl⟩)⟩
  have isGiven : ∀ given, path = some given -> tracePath = given := by
    rintro other rfl
    obtain ⟨_, same⟩ := Program.runs_done.mp given
    exact Except.ok.inj same
  rcases Local.runs_lift_bind.mp continues with
    ⟨exc, rfl, raises, rfl⟩ | ⟨creates, captures, _, rfl, made, captured⟩
  · refine Or.inl ⟨rfl, ⟨exc, rfl⟩, fun _ => ?_⟩
    apply Local.runs_lift_bind.mpr
    refine Or.inr ⟨names, rest, tracePath, rfl, given, ?_⟩
    exact Local.runs_lift_bind.mpr (Or.inl ⟨exc, rfl, raises, rfl⟩)
  obtain ⟨body, ending, middle, ends, rfl, blockRuns, cleans, rfl⟩ :=
    Local.runs_tryFinally.mp captured
  rcases captureBlock_runs blockRuns with
    ⟨rfl, ⟨exc, rfl⟩, alike⟩ | ⟨first, inner, last, ended, rfl, awaited, innerRuns, returned⟩
  · refine Or.inl ⟨rfl, ?_, fun other => ?_⟩
    · cases ends with
      | ok _ => exact ⟨exc, rfl⟩
      | error other => exact ⟨other, rfl⟩
    · apply Local.runs_lift_bind.mpr
      refine Or.inr ⟨names, _, tracePath, rfl, given, ?_⟩
      apply Local.runs_lift_bind.mpr
      refine Or.inr ⟨creates, _, (), rfl, made, ?_⟩
      apply Local.runs_tryFinally.mpr
      exact ⟨body, ending, .error exc, ends, rfl, alike (other tracePath), cleans, rfl⟩
  · refine Or.inr ⟨tracePath, names ++ (creates ++ first), inner, last ++ ending, ended, ?_,
      isGiven, List.mem_append_right _ (List.mem_append_right _ awaited), innerRuns, ?_⟩
    · simp only [List.append_assoc]
    · intro value returns
      cases ends with
      | ok _ =>
          exact ⟨returned value returns, List.mem_append_right _ (endCapture_ok cleans)⟩
      | error other => cases returns

/-- Around a block that returns, a capture returns where `btmon` exits behind it. -/
theorem btmonTextCapture_of_block
    {path : Option String} {tracePath : String} {names : List TraceStep}
    {block : String -> Local σ TraceCall TraceAnswer α}
    {locals after : σ} {value : α}
    (named : (capturePath path).Runs names (.ok tracePath))
    (runs : Local.Runs (block tracePath) locals trace (.ok value) after) :
    Local.Runs (btmonTextCapture path block) locals
      (names ++ ([⟨.capture .create, .ok ()⟩, ⟨.capture .waitReady, .ok ()⟩] ++
        (trace ++ [⟨.capture .exited, .ok false⟩, ⟨.capture .exited, .ok true⟩,
          ⟨.capture .writer, .ok ()⟩]))) (.ok value) after := by
  have ends : endCapture.Runs [⟨.capture .exited, .ok true⟩, ⟨.capture .writer, .ok ()⟩]
      (.ok ()) := by
    repeat first | exact Program.Runs.done | apply Program.Runs.ask
  have waits : (onTimeout (performCapture .waitReady) (Program.raise
      (captureError ("capture did not become ready; inspect " ++ tracePath)))).Runs
        [⟨.capture .waitReady, .ok ()⟩] (.ok ()) :=
    Program.Runs.ask Program.Runs.done
  have checks : (checkRunning tracePath).Runs [⟨.capture .exited, .ok false⟩] (.ok ()) :=
    Program.Runs.ask Program.Runs.done
  have captured : Local.Runs (captureBlock tracePath (block tracePath)) locals
      (⟨.capture .waitReady, .ok ()⟩ :: (trace ++ [⟨.capture .exited, .ok false⟩])) (.ok value)
        after := by
    apply Local.runs_lift_bind.mpr
    refine Or.inr ⟨[_], _, (), rfl, waits, ?_⟩
    apply Local.runs_bind.mpr
    refine Or.inr ⟨trace, _, value, after, rfl, runs, ?_⟩
    apply Local.runs_lift_bind.mpr
    exact Or.inr ⟨[_], [], (), rfl, checks, Local.runs_pure.mpr ⟨rfl, rfl, rfl⟩⟩
  apply Local.runs_lift_bind.mpr
  refine Or.inr ⟨names, _, tracePath, rfl, named, ?_⟩
  apply Local.runs_lift_bind.mpr
  refine Or.inr ⟨[_], _, (), rfl, Program.runs_perform.mpr rfl, ?_⟩
  apply Local.runs_tryFinally.mpr
  refine ⟨_, _, .ok value, .ok (), ?_, captured, ends, rfl⟩
  rw [List.cons_append, List.append_assoc]
  rfl

/-- In every order of the moves of `btmon`, of the writer and of the tool: the block of a
capture begins only where `btmon` has printed its banner.  A run in which it does not begin
raises, and would be the same with any other block.  Behind a capture that returns, its
block has returned, `btmon` has exited and the file holds all that it has printed. -/
theorem btmonTextCapture_complete
    {path : Option String} {block : String -> Local σ TraceCall TraceAnswer α}
    {locals after : σ} {result : Except Exn α} {last : Captured}
    (runs : Local.Runs (btmonTextCapture path block) locals trace result after)
    (goes : captureEnvironment.Goes {} trace last) :
    ((∃ exc, result = .error exc) ∧
        ∀ other : String -> Local σ TraceCall TraceAnswer α,
          Local.Runs (btmonTextCapture path other) locals trace result after) ∨
      ∃ tracePath before inner behind ended ready, trace = before ++ (inner ++ behind) ∧
        (∀ given, path = some given -> tracePath = given) ∧
          Local.Runs (block tracePath) locals inner ended after ∧
            captureEnvironment.Goes {} before ready ∧
              captureEnvironment.Goes ready (inner ++ behind) last ∧
                (∃ line ∈ ready.printed, Text.contains banner line = true) ∧
                  ∀ value, result = .ok value -> ended = .ok value ∧ last.Complete := by
  rcases btmonTextCapture_runs runs with
    ⟨_, raised, alike⟩ | ⟨tracePath, first, inner, behind, ended, rfl, isGiven, awaited,
      blockRuns, returned⟩
  · exact Or.inl ⟨raised, alike⟩
  obtain ⟨ready, earlier, later⟩ := Environment.goes_append.mp goes
  refine Or.inr ⟨tracePath, first, inner, behind, ended, ready, rfl, isGiven, blockRuns,
    earlier, later, Captured.announced_of_ready earlier awaited, ?_⟩
  intro value returns
  obtain ⟨ended_eq, written⟩ := returned value returns
  refine ⟨ended_eq, Captured.complete_of_writer goes ?_⟩
  exact List.mem_append_right _ (List.mem_append_right _ written)

/-! ## Captures that are copied as they are printed -/

/-- A writer that has copied every line so far. -/
def copying (lines : List Text) : Captured where
  started := true
  printed := lines
  file := some lines.flatten
  copied := some lines.length
  ready := lines.any (Text.contains banner)

theorem copying_append (lines : List Text) (line : Text) :
    copying (lines ++ [line]) =
      { copying lines with
        printed := lines ++ [line]
        copied := some (lines.length + 1)
        file := some (lines.flatten ++ line)
        ready := lines.any (Text.contains banner) || Text.contains banner line } := by
  rw [copying, copying, List.length_append, List.flatten_append, List.flatten_singleton,
    List.any_append, List.any_cons, List.any_nil, Bool.or_false, List.length_singleton]

theorem goes_copying (lines more : List Text) :
    captureEnvironment.Goes (copying lines) [] (copying (lines ++ more)) := by
  induction more generalizing lines with
  | nil =>
      rw [List.append_nil]
      exact .stays _
  | cons line more inductionHypothesis =>
      have printed : (lines ++ [line])[lines.length]? = some line :=
        List.getElem?_concat_length
      have goesOn := inductionHypothesis (lines ++ [line])
      rw [copying_append, List.append_assoc, List.singleton_append] at goesOn
      exact .moves (.prints line rfl rfl) (.moves (.copies rfl rfl rfl printed) goesOn)

/-- Whether a step is not about the capture. -/
def isAside (step : TraceStep) : Bool :=
  match step.call with
  | .capture _ => false
  | _ => true

/-- Steps that are not about the capture leave it alone. -/
theorem goes_aside
    {trace : List TraceStep}
    (aside : trace.all isAside = true)
    (state : Captured) :
    captureEnvironment.Goes state trace state := by
  induction trace with
  | nil => exact .stays state
  | cons step trace inductionHypothesis =>
      rw [List.all_cons, Bool.and_eq_true] at aside
      have goesOn := inductionHypothesis aside.2
      obtain ⟨call, answer⟩ := step
      cases answer with
      | error exc => exact .answers (.raises state call exc) goesOn
      | ok value =>
          cases call with
          | timed call => exact .answers (.timed state call value) goesOn
          | sleep milliseconds => exact .answers (.sleep state milliseconds) goesOn
          | writeSummary path address outcome summary =>
              exact .answers (.writeSummary state path address outcome summary) goesOn
          | capture call => cases aside.1

/-- A capture whose lines are copied: the first ones before its block, with the banner, and
the others within it. -/
theorem goes_capture
    {trace : List TraceStep} {lines : List Text}
    (announced : lines.any (Text.contains banner) = true)
    (aside : trace.all isAside = true)
    (more : List Text)
    (file : Option Text) :
    captureEnvironment.Goes { file := file }
      ([⟨.capture .create, .ok ()⟩, ⟨.capture .waitReady, .ok ()⟩] ++
        (trace ++ [⟨.capture .exited, .ok false⟩, ⟨.capture .exited, .ok true⟩,
          ⟨.capture .writer, .ok ()⟩]))
      { copying (lines ++ more) with exited := true, writer := some (.ok ()) } := by
  refine .answers (.create rfl) (.moves (.opens rfl rfl rfl) ?_)
  apply (goes_copying [] lines).trans
  refine .answers (.waitReady announced) ?_
  apply (goes_aside aside _).trans
  apply (goes_copying lines more).trans
  refine .answers (.exited false nofun) (.moves (.exits rfl) ?_)
  exact .answers (.exited true fun _ => rfl)
    (.moves (.ends rfl rfl rfl) (.answers (.writer rfl) (.stays _)))

/-- A block that waits while `btmon` goes on printing. -/
def pausedBlock (_ : String) : Local Unit TraceCall TraceAnswer Unit :=
  Local.lift (Program.perform (TraceCall.sleep 500))

/-- The capture of that block. -/
def pausedCapture : List TraceStep :=
  [⟨.capture .create, .ok ()⟩, ⟨.capture .waitReady, .ok ()⟩] ++
    ([⟨.sleep 500, .ok ()⟩] ++ [⟨.capture .exited, .ok false⟩, ⟨.capture .exited, .ok true⟩,
      ⟨.capture .writer, .ok ()⟩])

/-- What is printed before the block and within it is captured. -/
theorem btmonTextCapture_complete_paused :
    ∃ last : Captured, captureEnvironment.Goes {} pausedCapture last ∧
      last.printed = [banner, "LE Scan\n".toList] ∧ last.Complete ∧
        ∃ before inner behind, pausedCapture = before ++ (inner ++ behind) ∧
          Local.Runs (pausedBlock "btmon.log") () inner (.ok ()) () := by
  have paused : Local.Runs (pausedBlock "btmon.log") () [⟨.sleep 500, .ok ()⟩] (.ok ()) () := by
    repeat first | exact Program.Runs.done | apply Program.Runs.ask
  have announced : [banner].any (Text.contains banner) = true := by
    decide
  have goes := @goes_capture [⟨.sleep 500, .ok ()⟩] _ announced rfl ["LE Scan\n".toList] none
  have named : (capturePath (some "btmon.log")).Runs [] (.ok "btmon.log") :=
    Program.Runs.done
  have runs := btmonTextCapture_of_block named paused
  rcases btmonTextCapture_complete runs goes with
    ⟨⟨_, impossible⟩, _⟩ | ⟨tracePath, before, inner, behind, ended, _, trace_eq, isGiven,
      blockRuns, _, _, _, complete⟩
  · cases impossible
  obtain ⟨rfl, isComplete⟩ := complete () rfl
  rw [isGiven "btmon.log" rfl] at blockRuns
  exact ⟨_, goes, rfl, isComplete, before, inner, behind, trace_eq, blockRuns⟩

end Capture
end Bluez
end BoschBle
