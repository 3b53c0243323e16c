import BoschBle.Foundation.Raising

/-!
# Monitors

A monitor is an automaton that reads the exchanges of a program and permits, in each
of its states, some of the calls.  `Checks` is the proof method of the module: from a
state every call of a program is permitted in the state that the monitor is in then,
and where the program ends a postcondition holds.  It has one rule for each way to
build a program, and `checks_iff` says what it means for the runs.
-/

namespace BoschBle
namespace Foundation

/-- A monitor follows the calls of a run, and says which of them may be made. -/
structure Monitor (Call : Type) (Answer : Call -> Type) (σ : Type) where
  /-- The state behind an exchange. -/
  observe : σ -> Exchange Call Answer -> σ
  /-- Whether a call may be made in a state. -/
  permits : σ -> Call -> Prop

namespace Monitor

variable {Call : Type} {Answer : Call -> Type} (monitor : Monitor Call Answer σ)

/-- The state behind a trace. -/
def after (state : σ) (trace : List (Exchange Call Answer)) : σ :=
  trace.foldl monitor.observe state

@[simp] theorem after_nil (state : σ) : monitor.after state [] = state :=
  rfl

@[simp] theorem after_cons
    (state : σ) (step : Exchange Call Answer) (trace : List (Exchange Call Answer)) :
    monitor.after state (step :: trace) = monitor.after (monitor.observe state step) trace :=
  rfl

/-- Every call is permitted in the state that it is made in. -/
def Obeys (state : σ) (trace : List (Exchange Call Answer)) : Prop :=
  ∀ before step rest, trace = before ++ step :: rest ->
    monitor.permits (monitor.after state before) step.call

theorem obeys_nil (state : σ) : monitor.Obeys state [] := by
  intro before step rest impossible
  exact absurd impossible.symm (List.append_ne_nil_of_right_ne_nil _ (List.cons_ne_nil _ _))

theorem obeys_cons
    {state : σ} {step : Exchange Call Answer} {trace : List (Exchange Call Answer)} :
    monitor.Obeys state (step :: trace) ↔
      monitor.permits state step.call ∧ monitor.Obeys (monitor.observe state step) trace := by
  constructor
  · intro obeys
    refine ⟨obeys [] step trace rfl, ?_⟩
    intro before other rest split
    exact obeys (step :: before) other rest (by rw [split, List.cons_append])
  · rintro ⟨permitted, obeys⟩ before other rest split
    cases before with
    | nil =>
        obtain ⟨rfl, rfl⟩ := List.cons.inj split
        exact permitted
    | cons first before =>
        obtain ⟨rfl, tail_eq⟩ := List.cons.inj split
        exact obeys before other rest tail_eq

/-- From a state the monitor permits every call of the program, and the postcondition
holds of the state and the result at its end. -/
def Checks (post : σ -> Except Exn α -> Prop) : Program Call Answer α -> σ -> Prop
  | .done result, state => post state result
  | .ask call next, state =>
      monitor.permits state call ∧
        ∀ answer, Checks post (next answer) (monitor.observe state ⟨call, answer⟩)

variable {monitor}

/-- What checking a program says about its runs. -/
theorem checks_iff
    {post : σ -> Except Exn α -> Prop} {program : Program Call Answer α} {state : σ} :
    monitor.Checks post program state ↔
      ∀ trace result, program.Runs trace result ->
        monitor.Obeys state trace ∧ post (monitor.after state trace) result := by
  constructor
  · intro checks trace result runs
    induction runs generalizing state with
    | done => exact ⟨monitor.obeys_nil state, checks⟩
    | ask remaining inductionHypothesis =>
        obtain ⟨obeys, holds⟩ := inductionHypothesis (checks.2 _)
        exact ⟨monitor.obeys_cons.mpr ⟨checks.1, obeys⟩, holds⟩
  · intro every
    induction program generalizing state with
    | done result => exact (every [] result Program.Runs.done).2
    | ask call next inductionHypothesis =>
        constructor
        · obtain ⟨rest, result, runs⟩ := (next (.error ⟨.osError, ""⟩)).exists_runs
          exact (monitor.obeys_cons.mp (every _ result (Program.Runs.ask runs)).1).1
        · intro answer
          apply inductionHypothesis
          intro trace result runs
          obtain ⟨obeys, holds⟩ := every _ result (Program.Runs.ask runs)
          exact ⟨(monitor.obeys_cons.mp obeys).2, holds⟩

/-! ## Rules -/

theorem checks_handle
    {post : σ -> Except Exn β -> Prop} {program : Program Call Answer α}
    {next : Except Exn α -> Program Call Answer β} {state : σ} :
    monitor.Checks post (program.handle next) state ↔
      monitor.Checks (fun state result => monitor.Checks post (next result) state)
        program state := by
  induction program generalizing state with
  | done result => rfl
  | ask call rest inductionHypothesis =>
      rw [Program.handle, Checks, Checks]
      exact and_congr_right fun _ => forall_congr' fun answer => inductionHypothesis answer

namespace Checks

variable {state : σ} {post : σ -> Except Exn β -> Prop}

theorem mono
    {program : Program Call Answer α} {stronger weaker : σ -> Except Exn α -> Prop}
    (checks : monitor.Checks stronger program state)
    (implies : ∀ state result, stronger state result -> weaker state result) :
    monitor.Checks weaker program state := by
  induction program generalizing state with
  | done result => exact implies state result checks
  | ask call next inductionHypothesis =>
      exact ⟨checks.1, fun answer => inductionHypothesis answer (checks.2 answer)⟩

theorem perform
    {call : Call} {post : σ -> Except Exn (Answer call) -> Prop}
    (permitted : monitor.permits state call)
    (holds : ∀ answer, post (monitor.observe state ⟨call, answer⟩) answer) :
    monitor.Checks post (Program.perform call) state :=
  ⟨permitted, holds⟩

theorem bind
    {program : Program Call Answer α} {next : α -> Program Call Answer β}
    {middle : σ -> Except Exn α -> Prop}
    (first : monitor.Checks middle program state)
    (returns : ∀ state value, middle state (.ok value) ->
      monitor.Checks post (next value) state)
    (raises : ∀ state exc, middle state (.error exc) -> post state (.error exc)) :
    monitor.Checks post (program >>= next) state := by
  apply checks_handle.mpr
  apply first.mono
  intro state result holds
  cases result with
  | ok value => exact returns state value holds
  | error exc => exact raises state exc holds

/-- A call, and what goes on with its value. -/
theorem perform_bind
    {call : Call} {next : Answer call -> Program Call Answer β}
    (permitted : monitor.permits state call)
    (returns : ∀ value, monitor.Checks post (next value)
      (monitor.observe state ⟨call, .ok value⟩))
    (raises : ∀ exc, post (monitor.observe state ⟨call, .error exc⟩) (.error exc)) :
    monitor.Checks post (Program.perform call >>= next) state := by
  refine ⟨permitted, ?_⟩
  intro answer
  cases answer with
  | ok value => exact returns value
  | error exc => exact raises exc

theorem tryExcept
    {program : Program Call Answer β} {handler : Exn -> Program Call Answer β}
    {middle : σ -> Except Exn β -> Prop}
    (body : monitor.Checks middle program state)
    (returns : ∀ state value, middle state (.ok value) -> post state (.ok value))
    (passes : ∀ state exc, middle state (.error exc) -> exc.type.isException = false ->
      post state (.error exc))
    (handles : ∀ state exc, middle state (.error exc) -> exc.type.isException = true ->
      monitor.Checks post (handler exc) state) :
    monitor.Checks post (program.tryExcept handler) state := by
  apply checks_handle.mpr
  apply body.mono
  intro state result holds
  cases result with
  | ok value => exact returns state value holds
  | error exc =>
      dsimp only
      split
      case isTrue caught => exact handles state exc holds caught
      case isFalse uncaught => exact passes state exc holds (Bool.eq_false_iff.mpr uncaught)

theorem tryFinally
    {program : Program Call Answer β} {clause : Program Call Answer Unit}
    {middle : σ -> Except Exn β -> Prop}
    (body : monitor.Checks middle program state)
    (leaves : ∀ state result, middle state result ->
      monitor.Checks (fun state ends => post state (Program.finish result ends)) clause state) :
    monitor.Checks post (program.tryFinally clause) state := by
  apply checks_handle.mpr
  apply body.mono
  intro state result holds
  apply checks_handle.mpr
  apply (leaves state result holds).mono
  intro state ends holds
  cases ends with
  | ok value => exact holds
  | error exc => exact holds

/-- Calls that a state permits and that leave the monitor in it. -/
theorem of_only
    {program : Program Call Answer β}
    (only : program.Only fun call => monitor.permits state call ∧
      ∀ answer, monitor.observe state ⟨call, answer⟩ = state)
    (holds : ∀ result, post state result) :
    monitor.Checks post program state := by
  induction program with
  | done result => exact holds result
  | ask call next inductionHypothesis =>
      refine ⟨only.1.1, ?_⟩
      intro answer
      rw [only.1.2 answer]
      exact inductionHypothesis answer (only.2 answer)

section Embedded

variable {Wider : Type} {WiderAnswer : Wider -> Type}
  {wider : Monitor Wider WiderAnswer σ} {embedding : Embedding Call Answer Wider WiderAnswer}

theorem embed_perform
    {call : Call} {post : σ -> Except Exn (Answer call) -> Prop}
    (permitted : wider.permits state (embedding.call call))
    (holds : ∀ answer, post (wider.observe state (embedding.lift ⟨call, answer⟩)) answer) :
    wider.Checks post (embedding.embed (Program.perform call)) state := by
  refine ⟨permitted, ?_⟩
  intro answer
  have same : cast (embedding.answers call).symm (cast (embedding.answers call) answer) =
      answer :=
    (cast_cast _ _ _).trans (cast_eq _ _)
  have ends := holds (cast (embedding.answers call) answer)
  rw [Embedding.lift, same] at ends
  exact ends

/-- A call of an inner environment, and what goes on with its value. -/
theorem embed_perform_bind
    {call : Call} {next : Answer call -> Program Wider WiderAnswer β}
    (permitted : wider.permits state (embedding.call call))
    (returns : ∀ value, wider.Checks post (next value)
      (wider.observe state (embedding.lift ⟨call, .ok value⟩)))
    (raises : ∀ exc, post (wider.observe state (embedding.lift ⟨call, .error exc⟩))
      (.error exc)) :
    wider.Checks post (embedding.embed (Program.perform call) >>= next) state := by
  have performs : wider.Checks
      (fun after result => after = wider.observe state (embedding.lift ⟨call, result⟩))
      (embedding.embed (Program.perform call)) state :=
    embed_perform permitted fun _ => rfl
  apply Checks.bind performs
  · rintro _ value rfl
    exact returns value
  · rintro _ exc rfl
    exact raises exc

end Embedded
end Checks

/-! ## What a program keeps -/

variable (monitor) in
/-- From every state that has the property each call of the program is permitted, and the
program ends in such a state. -/
def Keeps (holds : σ -> Prop) (program : Program Call Answer α) : Prop :=
  ∀ state, holds state -> monitor.Checks (fun after _ => holds after) program state

namespace Keeps

variable {holds : σ -> Prop}

theorem done (result : Except Exn α) :
    monitor.Keeps holds (.done result : Program Call Answer α) :=
  fun _ start => start

theorem perform
    {call : Call}
    (permitted : ∀ state, holds state -> monitor.permits state call)
    (kept : ∀ state answer, holds state -> holds (monitor.observe state ⟨call, answer⟩)) :
    monitor.Keeps holds (Program.perform call) :=
  fun state start => ⟨permitted state start, fun answer => kept state answer start⟩

theorem bind
    {program : Program Call Answer α} {next : α -> Program Call Answer β}
    (first : monitor.Keeps holds program)
    (second : ∀ value, monitor.Keeps holds (next value)) :
    monitor.Keeps holds (program >>= next) := by
  intro state start
  apply (first state start).bind
  · intro after value kept
    exact second value after kept
  · intro after exc kept
    exact kept

theorem tryExcept
    {program : Program Call Answer α} {handler : Exn -> Program Call Answer α}
    (body : monitor.Keeps holds program)
    (handles : ∀ exc, monitor.Keeps holds (handler exc)) :
    monitor.Keeps holds (program.tryExcept handler) := by
  intro state start
  apply (body state start).tryExcept
  · intro after value kept
    exact kept
  · intro after exc kept _
    exact kept
  · intro after exc kept _
    exact handles exc after kept

theorem tryFinally
    {program : Program Call Answer α} {clause : Program Call Answer Unit}
    (body : monitor.Keeps holds program)
    (last : monitor.Keeps holds clause) :
    monitor.Keeps holds (program.tryFinally clause) := by
  intro state start
  apply (body state start).tryFinally
  intro after _ kept
  exact last after kept

theorem ite
    {condition : Prop} [Decidable condition] {first second : Program Call Answer α}
    (isTrue : monitor.Keeps holds first)
    (isFalse : monitor.Keeps holds second) :
    monitor.Keeps holds (if condition then first else second) := by
  split
  · exact isTrue
  · exact isFalse

/-- Calls that are permitted and that the monitor does not see. -/
theorem of_only
    {program : Program Call Answer α}
    (only : ∀ state, holds state -> program.Only fun call => monitor.permits state call ∧
      ∀ answer, monitor.observe state ⟨call, answer⟩ = state) :
    monitor.Keeps holds program :=
  fun state start => Checks.of_only (only state start) fun _ => start

end Keeps
end Monitor
end Foundation
end BoschBle
