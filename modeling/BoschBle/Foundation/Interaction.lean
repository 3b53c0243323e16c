import BoschBle.Foundation.Effect
import Mathlib.Data.List.Induction

/-!
# Programs that call their environment

A program makes calls, and the environment answers each with a value or with an
exception.  A run of a program is the list of its exchanges with the
environment together with its result; whatever the environment answers is a run.
`Safe` is the proof method of the module: from a history of exchanges every call
of the program is one that the history allows, and every result satisfies a
postcondition.  It has one rule for each way to build a program.
-/

namespace BoschBle
namespace Foundation

/-- A program ends with a result or makes a call and goes on with the answer. -/
inductive Program (Call : Type) (Answer : Call -> Type) (α : Type)
  | done (result : Except Exn α)
  | ask (call : Call) (next : Except Exn (Answer call) -> Program Call Answer α)

/-- A call with its answer. -/
structure Exchange (Call : Type) (Answer : Call -> Type) where
  call : Call
  answer : Except Exn (Answer call)

namespace Program

variable {Call : Type} {Answer : Call -> Type}

/-- Go on with the result of a program, raised or returned. -/
def handle
    (next : Except Exn α -> Program Call Answer β) :
    Program Call Answer α -> Program Call Answer β
  | .done result => next result
  | .ask call rest => .ask call fun answer => (rest answer).handle next

/-- Go on where a program has returned. -/
def andThen (next : α -> Program Call Answer β) : Except Exn α -> Program Call Answer β
  | .ok value => next value
  | .error exc => .done (.error exc)

instance : Monad (Program Call Answer) where
  pure value := .done (.ok value)
  bind program next := program.handle (andThen next)

/-- Raise an exception. -/
def raise (exc : Exn) : Program Call Answer α :=
  .done (.error exc)

/-- Make one call. -/
def perform (call : Call) : Program Call Answer (Answer call) :=
  .ask call .done

/-- `try` with an `except Exception` clause. -/
def tryExcept
    (program : Program Call Answer α)
    (handler : Exn -> Program Call Answer α) : Program Call Answer α :=
  program.handle fun
    | .ok value => .done (.ok value)
    | .error exc => if exc.type.isException then handler exc else raise exc

/-- `try` with a `finally` clause.  What the clause raises replaces the result. -/
def tryFinally
    (program : Program Call Answer α)
    (clause : Program Call Answer Unit) : Program Call Answer α :=
  program.handle fun result => clause.handle (andThen fun _ => .done result)

theorem handle_done (program : Program Call Answer α) :
    program.handle .done = program := by
  induction program with
  | done result => rfl
  | ask call next inductionHypothesis =>
      rw [handle]
      congr 1
      funext answer
      exact inductionHypothesis answer

theorem handle_handle
    (program : Program Call Answer α)
    (first : Except Exn α -> Program Call Answer β)
    (second : Except Exn β -> Program Call Answer γ) :
    (program.handle first).handle second =
      program.handle fun result => (first result).handle second := by
  induction program with
  | done result => rfl
  | ask call next inductionHypothesis =>
      rw [handle, handle, handle]
      congr 1
      funext answer
      exact inductionHypothesis answer

theorem andThen_pure :
    (andThen fun value => .done (.ok value)) =
      (.done : Except Exn α -> Program Call Answer α) := by
  funext result
  cases result with
  | ok value => rfl
  | error exc => rfl

theorem andThen_handle
    (first : α -> Program Call Answer β)
    (second : β -> Program Call Answer γ) :
    (fun result => (andThen first result).handle (andThen second)) =
      andThen fun value => (first value).handle (andThen second) := by
  funext result
  cases result with
  | ok value => rfl
  | error exc => rfl

instance : LawfulMonad (Program Call Answer) :=
  LawfulMonad.mk' _
    (fun program => (congrArg program.handle andThen_pure).trans (handle_done program))
    (fun _ _ => rfl)
    (fun program first second =>
      (handle_handle program _ _).trans
        (congrArg program.handle (andThen_handle first second)))

/-! ## Runs -/

/-- The runs of a program: its exchanges, oldest first, and its result. -/
inductive Runs :
    Program Call Answer α -> List (Exchange Call Answer) -> Except Exn α -> Prop
  | done {result : Except Exn α} : Runs (.done result) [] result
  | ask
      {call : Call}
      {next : Except Exn (Answer call) -> Program Call Answer α}
      {answer : Except Exn (Answer call)}
      {rest : List (Exchange Call Answer)} {result : Except Exn α}
      (remaining : Runs (next answer) rest result) :
      Runs (.ask call next) (⟨call, answer⟩ :: rest) result

section Inversion

variable {trace : List (Exchange Call Answer)}

@[simp] theorem runs_done {given result : Except Exn α} :
    Runs (.done given : Program Call Answer α) trace result ↔
      trace = [] ∧ result = given := by
  constructor
  · intro runs
    cases runs
    exact ⟨rfl, rfl⟩
  · rintro ⟨rfl, rfl⟩
    exact Runs.done

theorem runs_ask
    {call : Call} {next : Except Exn (Answer call) -> Program Call Answer α}
    {result : Except Exn α} :
    Runs (.ask call next) trace result ↔
      ∃ answer rest, trace = ⟨call, answer⟩ :: rest ∧
        Runs (next answer) rest result := by
  constructor
  · intro runs
    cases runs with
    | ask remaining => exact ⟨_, _, rfl, remaining⟩
  · rintro ⟨answer, rest, rfl, remaining⟩
    exact Runs.ask remaining

theorem runs_perform {call : Call} {result : Except Exn (Answer call)} :
    Runs (perform call : Program Call Answer (Answer call)) trace result ↔
      trace = [⟨call, result⟩] := by
  unfold perform
  rw [runs_ask]
  constructor
  · rintro ⟨answer, rest, rfl, remaining⟩
    obtain ⟨rfl, rfl⟩ := runs_done.mp remaining
    rfl
  · rintro rfl
    exact ⟨result, [], rfl, Runs.done⟩

theorem runs_handle
    {program : Program Call Answer α}
    {next : Except Exn α -> Program Call Answer β} {result : Except Exn β} :
    Runs (program.handle next) trace result ↔
      ∃ first second middle, trace = first ++ second ∧
        Runs program first middle ∧ Runs (next middle) second result := by
  induction program generalizing trace with
  | done given =>
      rw [handle]
      constructor
      · intro runs
        exact ⟨[], trace, given, rfl, Runs.done, runs⟩
      · rintro ⟨first, second, middle, rfl, given_runs, runs⟩
        obtain ⟨rfl, rfl⟩ := runs_done.mp given_runs
        exact runs
  | ask call rest inductionHypothesis =>
      rw [handle, runs_ask]
      constructor
      · rintro ⟨answer, tail, rfl, remaining⟩
        obtain ⟨first, second, middle, rfl, firstRuns, secondRuns⟩ :=
          (inductionHypothesis answer).mp remaining
        exact ⟨_ :: first, second, middle, rfl, Runs.ask firstRuns, secondRuns⟩
      · rintro ⟨first, second, middle, rfl, firstRuns, secondRuns⟩
        obtain ⟨answer, tail, rfl, remaining⟩ := runs_ask.mp firstRuns
        exact ⟨answer, tail ++ second, rfl, (inductionHypothesis answer).mpr
          ⟨tail, second, middle, rfl, remaining, secondRuns⟩⟩

/-- A sequence returns exactly when both of its parts return. -/
theorem runs_bind_ok
    {program : Program Call Answer α} {next : α -> Program Call Answer β}
    {value : β} :
    Runs (program >>= next) trace (.ok value) ↔
      ∃ first second middle, trace = first ++ second ∧
        Runs program first (.ok middle) ∧ Runs (next middle) second (.ok value) := by
  change Runs (program.handle (andThen next)) trace (.ok value) ↔ _
  rw [runs_handle]
  constructor
  · rintro ⟨first, second, middle, trace_eq, firstRuns, secondRuns⟩
    cases middle with
    | ok middle => exact ⟨first, second, middle, trace_eq, firstRuns, secondRuns⟩
    | error exc => cases secondRuns
  · rintro ⟨first, second, middle, trace_eq, firstRuns, secondRuns⟩
    exact ⟨first, second, .ok middle, trace_eq, firstRuns, secondRuns⟩

/-- A sequence raises where its first part raises or, once that has returned,
its second. -/
theorem runs_bind_error
    {program : Program Call Answer α} {next : α -> Program Call Answer β}
    {exc : Exn} :
    Runs (program >>= next) trace (.error exc) ↔
      Runs program trace (.error exc) ∨
        ∃ first second middle, trace = first ++ second ∧
          Runs program first (.ok middle) ∧
            Runs (next middle) second (.error exc) := by
  change Runs (program.handle (andThen next)) trace (.error exc) ↔ _
  rw [runs_handle]
  constructor
  · rintro ⟨first, second, middle, trace_eq, firstRuns, secondRuns⟩
    cases middle with
    | ok middle =>
        exact Or.inr ⟨first, second, middle, trace_eq, firstRuns, secondRuns⟩
    | error other =>
        obtain ⟨rfl, same⟩ := runs_done.mp secondRuns
        cases same
        rw [List.append_nil] at trace_eq
        exact Or.inl (trace_eq ▸ firstRuns)
  · rintro (firstRuns | ⟨first, second, middle, trace_eq, firstRuns, secondRuns⟩)
    · exact ⟨trace, [], .error exc, (List.append_nil trace).symm, firstRuns, Runs.done⟩
    · exact ⟨first, second, .ok middle, trace_eq, firstRuns, secondRuns⟩

end Inversion

/-- Every program runs to an end. -/
theorem exists_runs (program : Program Call Answer α) :
    ∃ trace result, Runs program trace result := by
  induction program with
  | done result => exact ⟨[], result, Runs.done⟩
  | ask call next inductionHypothesis =>
      obtain ⟨rest, result, runs⟩ := inductionHypothesis (.error ⟨.osError, ""⟩)
      exact ⟨_, result, Runs.ask runs⟩

/-- The answers of the environment determine a run: of two runs that one trace
starts with, neither goes on where the other has ended. -/
theorem Runs.unique
    {program : Program Call Answer α}
    {first second tail tail' : List (Exchange Call Answer)}
    {result result' : Except Exn α}
    (runs : Runs program first result)
    (runs' : Runs program second result')
    (same : first ++ tail = second ++ tail') :
    first = second ∧ result = result' := by
  induction runs generalizing second with
  | done =>
      obtain ⟨rfl, rfl⟩ := runs_done.mp runs'
      exact ⟨rfl, rfl⟩
  | ask remaining inductionHypothesis =>
      obtain ⟨answer, rest, rfl, remaining'⟩ := runs_ask.mp runs'
      obtain ⟨head_eq, tail_eq⟩ := List.cons.inj same
      cases head_eq
      obtain ⟨rfl, result_eq⟩ := inductionHypothesis remaining' tail_eq
      exact ⟨rfl, result_eq⟩

/-! ## Which calls a program makes -/

/-- Whatever the answers, every call of the program has the property. -/
def Only (property : Call -> Prop) : Program Call Answer α -> Prop
  | .done _ => True
  | .ask call next => property call ∧ ∀ answer, Only property (next answer)

namespace Only

variable {property : Call -> Prop}

theorem perform {call : Call} (permitted : property call) :
    Only property (Program.perform call : Program Call Answer (Answer call)) :=
  ⟨permitted, fun _ => trivial⟩

theorem handle
    {program : Program Call Answer α}
    {next : Except Exn α -> Program Call Answer β}
    (first : Only property program)
    (second : ∀ result, Only property (next result)) :
    Only property (program.handle next) := by
  induction program with
  | done result => exact second result
  | ask call rest inductionHypothesis =>
      exact ⟨first.1, fun answer => inductionHypothesis answer (first.2 answer)⟩

theorem bind
    {program : Program Call Answer α} {next : α -> Program Call Answer β}
    (first : Only property program)
    (second : ∀ value, Only property (next value)) :
    Only property (program >>= next) := by
  apply handle first
  intro result
  cases result with
  | ok value => exact second value
  | error exc => exact trivial

theorem tryExcept
    {program : Program Call Answer α} {handler : Exn -> Program Call Answer α}
    (body : Only property program)
    (handles : ∀ exc, Only property (handler exc)) :
    Only property (program.tryExcept handler) := by
  apply handle body
  intro result
  cases result with
  | ok value => exact trivial
  | error exc =>
      dsimp only
      split
      · exact handles exc
      · exact trivial

theorem tryFinally
    {program : Program Call Answer α} {clause : Program Call Answer Unit}
    (body : Only property program)
    (last : Only property clause) :
    Only property (program.tryFinally clause) := by
  apply handle body
  intro result
  apply handle last
  intro ends
  cases ends with
  | ok value => exact trivial
  | error exc => exact trivial

theorem mono
    {weaker : Call -> Prop} {program : Program Call Answer α}
    (only : Only property program)
    (implies : ∀ call, property call -> weaker call) :
    Only weaker program := by
  induction program with
  | done result => exact trivial
  | ask call next inductionHypothesis =>
      exact ⟨implies call only.1,
        fun answer => inductionHypothesis answer (only.2 answer)⟩

theorem and
    {other : Call -> Prop} {program : Program Call Answer α}
    (first : Only property program)
    (second : Only other program) :
    Only (fun call => property call ∧ other call) program := by
  induction program with
  | done result => exact trivial
  | ask call next inductionHypothesis =>
      exact ⟨⟨first.1, second.1⟩,
        fun answer => inductionHypothesis answer (first.2 answer) (second.2 answer)⟩

theorem of_runs
    {program : Program Call Answer α} {trace : List (Exchange Call Answer)}
    {result : Except Exn α}
    (only : Only property program)
    (runs : Runs program trace result) :
    ∀ exchange ∈ trace, property exchange.call := by
  induction runs with
  | done => simp
  | ask remaining inductionHypothesis =>
      rw [List.forall_mem_cons]
      exact ⟨only.1, inductionHypothesis (only.2 _)⟩

end Only

/-! ## Calls that the history allows -/

section Safe

variable (allowed : List (Exchange Call Answer) -> Call -> Prop)

/-- From a history, every call of the program is allowed by the history up to
it, and every result satisfies the postcondition with the history up to it. -/
def Safe
    (post : List (Exchange Call Answer) -> Except Exn α -> Prop) :
    Program Call Answer α -> List (Exchange Call Answer) -> Prop
  | .done result, history => post history result
  | .ask call next, history =>
      allowed history call ∧
        ∀ answer, (next answer).Safe post (history ++ [⟨call, answer⟩])

variable {allowed}

theorem safe_handle
    {program : Program Call Answer α}
    {next : Except Exn α -> Program Call Answer β}
    {post : List (Exchange Call Answer) -> Except Exn β -> Prop}
    {history : List (Exchange Call Answer)} :
    (program.handle next).Safe allowed post history ↔
      program.Safe allowed (fun history result => (next result).Safe allowed post history)
        history := by
  induction program generalizing history with
  | done result => rfl
  | ask call rest inductionHypothesis =>
      rw [handle, Safe, Safe]
      exact and_congr_right fun _ => forall_congr' fun answer =>
        inductionHypothesis answer

theorem Safe.mono
    {program : Program Call Answer α}
    {post weaker : List (Exchange Call Answer) -> Except Exn α -> Prop}
    {history : List (Exchange Call Answer)}
    (safe : program.Safe allowed post history)
    (implies : ∀ history result, post history result -> weaker history result) :
    program.Safe allowed weaker history := by
  induction program generalizing history with
  | done result => exact implies history result safe
  | ask call next inductionHypothesis =>
      exact ⟨safe.1, fun answer => inductionHypothesis answer (safe.2 answer)⟩

/-- What safety says about a run. -/
theorem safe_iff
    {program : Program Call Answer α}
    {post : List (Exchange Call Answer) -> Except Exn α -> Prop}
    {history : List (Exchange Call Answer)} :
    program.Safe allowed post history ↔
      ∀ trace result, Runs program trace result ->
        post (history ++ trace) result ∧
          ∀ before exchange after, trace = before ++ exchange :: after ->
            allowed (history ++ before) exchange.call := by
  constructor
  · intro safe trace result runs
    induction runs generalizing history with
    | done =>
        rw [List.append_nil]
        refine ⟨safe, ?_⟩
        intro before exchange after impossible
        simp at impossible
    | ask remaining inductionHypothesis =>
        obtain ⟨post_holds, later⟩ := inductionHypothesis (safe.2 _)
        rw [List.append_assoc, List.singleton_append] at post_holds
        refine ⟨post_holds, ?_⟩
        intro before exchange after split
        cases before with
        | nil =>
            obtain ⟨rfl, _⟩ := List.cons.inj split
            rw [List.append_nil]
            exact safe.1
        | cons first before =>
            obtain ⟨rfl, rest_eq⟩ := List.cons.inj split
            have permitted := later before exchange after rest_eq
            rwa [List.append_assoc, List.singleton_append] at permitted
  · intro every
    induction program generalizing history with
    | done result =>
        have ended := (every [] result Runs.done).1
        rwa [List.append_nil] at ended
    | ask call next inductionHypothesis =>
        constructor
        · obtain ⟨rest, result, runs⟩ := exists_runs (next (.error ⟨.osError, ""⟩))
          have first := (every _ result (Runs.ask runs)).2 [] _ rest rfl
          rwa [List.append_nil] at first
        · intro answer
          apply inductionHypothesis
          intro trace result runs
          obtain ⟨post_holds, later⟩ := every _ result (Runs.ask runs)
          rw [List.append_assoc, List.singleton_append]
          refine ⟨post_holds, ?_⟩
          intro before exchange after split
          rw [List.append_assoc, List.singleton_append]
          apply later (_ :: before) exchange after
          rw [split, List.cons_append]

/-- Behind a program the history is extended by a run of it. -/
theorem Safe.and_runs
    {program : Program Call Answer α}
    {post : List (Exchange Call Answer) -> Except Exn α -> Prop}
    {history : List (Exchange Call Answer)}
    (safe : program.Safe allowed post history) :
    program.Safe allowed
      (fun after result => post after result ∧
        ∃ trace, after = history ++ trace ∧ Runs program trace result)
      history := by
  rw [safe_iff] at safe ⊢
  intro trace result runs
  obtain ⟨post_holds, permitted⟩ := safe trace result runs
  exact ⟨⟨post_holds, trace, rfl, runs⟩, permitted⟩

end Safe

/-! ## Triples -/

/-- From every history with the precondition the program is safe, and where it
returns the postcondition holds. -/
def Triple
    (allowed : List (Exchange Call Answer) -> Call -> Prop)
    (pre : List (Exchange Call Answer) -> Prop)
    (program : Program Call Answer α)
    (post : List (Exchange Call Answer) -> α -> Prop) : Prop :=
  ∀ history, pre history ->
    program.Safe allowed (fun after result => ∀ value, result = .ok value ->
      post after value) history

namespace Triple

variable {allowed : List (Exchange Call Answer) -> Call -> Prop}
  {pre : List (Exchange Call Answer) -> Prop}

theorem done
    {value : α} {post : List (Exchange Call Answer) -> α -> Prop}
    (implies : ∀ history, pre history -> post history value) :
    Triple allowed pre (Pure.pure value) post := by
  intro history holds result same
  cases same
  exact implies history holds

theorem raise
    {exc : Exn} {post : List (Exchange Call Answer) -> α -> Prop} :
    Triple allowed pre (Program.raise exc) post := by
  intro history holds result impossible
  cases impossible

theorem perform
    {call : Call} {post : List (Exchange Call Answer) -> Answer call -> Prop}
    (permitted : ∀ history, pre history -> allowed history call)
    (implies : ∀ history value, pre history ->
      post (history ++ [⟨call, .ok value⟩]) value) :
    Triple allowed pre (Program.perform call) post := by
  intro history holds
  refine ⟨permitted history holds, ?_⟩
  intro answer value same
  rw [same]
  exact implies history value holds

theorem bind
    {program : Program Call Answer α} {next : α -> Program Call Answer β}
    {middle : List (Exchange Call Answer) -> α -> Prop}
    {post : List (Exchange Call Answer) -> β -> Prop}
    (first : Triple allowed pre program middle)
    (second : ∀ value, Triple allowed (fun history => middle history value)
      (next value) post) :
    Triple allowed pre (program >>= next) post := by
  intro history holds
  change (program.handle (andThen next)).Safe allowed _ history
  rw [safe_handle]
  apply (first history holds).mono
  intro after result ends
  cases result with
  | ok value => exact second value after (ends value rfl)
  | error exc =>
      intro value impossible
      cases impossible

theorem mono
    {program : Program Call Answer α}
    {stronger : List (Exchange Call Answer) -> Prop}
    {post weaker : List (Exchange Call Answer) -> α -> Prop}
    (triple : Triple allowed pre program post)
    (before : ∀ history, stronger history -> pre history)
    (after : ∀ history value, post history value -> weaker history value) :
    Triple allowed stronger program weaker := by
  intro history holds
  apply (triple history (before history holds)).mono
  intro final result ends value same
  exact after final value (ends value same)

/-- A handler that makes no calls. -/
theorem tryExcept
    {program : Program Call Answer α} {handler : Exn -> Program Call Answer α}
    {post : List (Exchange Call Answer) -> α -> Prop}
    (body : Triple allowed pre program post)
    (handles : ∀ exc, Triple allowed (fun _ => True) (handler exc) post) :
    Triple allowed pre (program.tryExcept handler) post := by
  intro history holds
  unfold Program.tryExcept
  rw [safe_handle]
  apply (body history holds).mono
  intro after result ends
  cases result with
  | ok value =>
      intro other same
      exact ends other same
  | error exc =>
      dsimp only
      split
      · exact handles exc after trivial
      · intro value impossible
        cases impossible

section Calm

/-! Calls that every history allows, and conditions that they keep. -/

variable {calm : Call -> Prop}

/-- The condition survives calm calls. -/
def Stable
    (calm : Call -> Prop)
    (condition : List (Exchange Call Answer) -> Prop) : Prop :=
  ∀ history trace, (∀ exchange ∈ trace, calm exchange.call) ->
    condition history -> condition (history ++ trace)

/-- A program of calm calls. -/
theorem of_only
    (allow : ∀ history call, calm call -> allowed history call)
    {program : Program Call Answer α}
    (only : Only calm program)
    (stable : Stable calm pre) :
    Triple allowed pre program fun history _ => pre history := by
  intro history holds
  rw [safe_iff]
  intro trace result runs
  have every := only.of_runs runs
  constructor
  · intro value _
    exact stable history trace every holds
  · intro before exchange after split
    apply allow
    apply every
    rw [split]
    exact List.mem_append_right _ List.mem_cons_self

theorem tryFinally
    (allow : ∀ history call, calm call -> allowed history call)
    {program : Program Call Answer α} {clause : Program Call Answer Unit}
    {post : List (Exchange Call Answer) -> α -> Prop}
    (body : Triple allowed pre program post)
    (only : Only calm clause)
    (stable : ∀ value, Stable calm fun history => post history value) :
    Triple allowed pre (program.tryFinally clause) post := by
  intro history holds
  unfold Program.tryFinally
  rw [safe_handle]
  apply (body history holds).mono
  intro after result ends
  rw [safe_handle]
  have kept : Stable calm fun history =>
      ∀ value, result = .ok value -> post history value := by
    intro history trace every known value same
    exact stable value history trace every (known value same)
  rw [safe_iff]
  intro trace outcome runs
  have every := only.of_runs runs
  constructor
  · cases outcome with
    | ok value => exact kept after trace every ends
    | error exc =>
        intro value impossible
        cases impossible
  · intro before exchange later split
    apply allow
    apply every
    rw [split]
    exact List.mem_append_right _ List.mem_cons_self

end Calm

/-- What a triple says about the runs from an empty history. -/
theorem of_runs
    {program : Program Call Answer α}
    {post : List (Exchange Call Answer) -> α -> Prop}
    {trace : List (Exchange Call Answer)} {result : Except Exn α}
    (triple : Triple allowed pre program post)
    (initially : pre [])
    (runs : Runs program trace result) :
    (∀ value, result = .ok value -> post trace value) ∧
      ∀ before exchange after, trace = before ++ exchange :: after ->
        allowed before exchange.call :=
  safe_iff.mp (triple [] initially) trace result runs

end Triple

/-! ## What is observed of the runs -/

section Yields

variable {ε : Type} {observe : Exchange Call Answer -> Option ε}

/-- From a history of observations, every run of the program ends with the
postcondition. -/
def Yields
    (observe : Exchange Call Answer -> Option ε)
    (history : List ε)
    (program : Program Call Answer α)
    (post : List ε -> Except Exn α -> Prop) : Prop :=
  ∀ trace result, Runs program trace result ->
    post (history ++ trace.filterMap observe) result

namespace Yields

variable {history : List ε}

theorem done
    {result : Except Exn α} {post : List ε -> Except Exn α -> Prop}
    (holds : post history result) :
    Yields observe history (.done result) post := by
  intro trace other runs
  obtain ⟨rfl, rfl⟩ := runs_done.mp runs
  rw [List.filterMap_nil, List.append_nil]
  exact holds

theorem perform
    {call : Call} {post : List ε -> Except Exn (Answer call) -> Prop}
    (holds : ∀ answer, post (history ++ (observe ⟨call, answer⟩).toList) answer) :
    Yields observe history (Program.perform call) post := by
  intro trace answer runs
  obtain rfl := runs_perform.mp runs
  have observed := holds answer
  rw [List.filterMap_cons]
  cases seen : observe ⟨call, answer⟩ with
  | none => rwa [seen] at observed
  | some event => rwa [seen] at observed

theorem handle
    {program : Program Call Answer α} {next : Except Exn α -> Program Call Answer β}
    {middle : List ε -> Except Exn α -> Prop} {post : List ε -> Except Exn β -> Prop}
    (first : Yields observe history program middle)
    (second : ∀ events result, middle events result ->
      Yields observe events (next result) post) :
    Yields observe history (program.handle next) post := by
  intro trace result runs
  obtain ⟨before, after, outcome, rfl, firstRuns, secondRuns⟩ := runs_handle.mp runs
  have ended := second _ outcome (first before outcome firstRuns) after result secondRuns
  rwa [List.append_assoc, ← List.filterMap_append] at ended

theorem bind
    {program : Program Call Answer α} {next : α -> Program Call Answer β}
    {middle : List ε -> Except Exn α -> Prop} {post : List ε -> Except Exn β -> Prop}
    (first : Yields observe history program middle)
    (raises : ∀ events exc, middle events (.error exc) -> post events (.error exc))
    (second : ∀ events value, middle events (.ok value) ->
      Yields observe events (next value) post) :
    Yields observe history (program >>= next) post := by
  change Yields observe history (program.handle (andThen next)) post
  refine handle first ?_
  intro events result ended
  cases result with
  | ok value => exact second events value ended
  | error exc => exact done (raises events exc ended)

theorem mono
    {program : Program Call Answer α} {post weaker : List ε -> Except Exn α -> Prop}
    (yields : Yields observe history program post)
    (implies : ∀ events result, post events result -> weaker events result) :
    Yields observe history program weaker :=
  fun trace result runs => implies _ result (yields trace result runs)

/-- A program of calls that are not observed. -/
theorem of_only
    {program : Program Call Answer α}
    (only : Only (fun call => ∀ answer, observe ⟨call, answer⟩ = none) program) :
    Yields observe history program fun events _ => events = history := by
  intro trace result runs
  have unobserved : trace.filterMap observe = [] :=
    List.filterMap_eq_nil_iff.mpr fun exchange inTrace =>
      only.of_runs runs exchange inTrace exchange.answer
  rw [unobserved, List.append_nil]

/-- A sequence whose first part is not observed. -/
theorem bind_of_only
    {program : Program Call Answer α} {next : α -> Program Call Answer β}
    {post : List ε -> Except Exn β -> Prop}
    (only : Only (fun call => ∀ answer, observe ⟨call, answer⟩ = none) program)
    (raises : ∀ exc, post history (.error exc))
    (second : ∀ value, Yields observe history (next value) post) :
    Yields observe history (program >>= next) post := by
  refine bind (of_only only) ?_ ?_
  · rintro _ exc rfl
    exact raises exc
  · rintro _ value rfl
    exact second value

end Yields

end Yields

/-- Where calls of a kind are made only while fewer than a bound have been, no
more than the bound are made. -/
theorem countP_le_of_allowed
    {kind : Exchange Call Answer -> Bool} {bound : Nat}
    {trace : List (Exchange Call Answer)}
    (permitted : ∀ before exchange after, trace = before ++ exchange :: after ->
      kind exchange = true -> before.countP kind < bound) :
    trace.countP kind ≤ bound := by
  induction trace using List.reverseRecOn with
  | nil => exact Nat.zero_le bound
  | append_singleton before exchange inductionHypothesis =>
      rw [List.countP_append, List.countP_singleton]
      by_cases isKind : kind exchange = true
      · have room := permitted before exchange [] rfl isKind
        rw [if_pos isKind]
        exact room
      · rw [if_neg isKind]
        apply inductionHypothesis
        intro earlier other after split
        apply permitted earlier other (after ++ [exchange])
        rw [split, List.append_assoc, List.cons_append]

end Program
end Foundation
end BoschBle
