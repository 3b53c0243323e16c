import Mathlib.Data.List.Basic

/-!
# Context managers made from generators

A generator emits events, suspends at its yields, and is resumed there either
normally or with an exception.  Made into a context manager it is entered up to
its first yield; the exception of the `with` body is thrown in there, and the
generator must then stop.  Otherwise the manager raises a `RuntimeError` of its
own and closes the generator.
-/

namespace BoschBle
namespace Foundation

/-- A generator that emits `τ`, yields `α` and raises `ε`. -/
inductive Generator (τ α ε : Type)
  | finished (result : Except ε Unit)
  | emit (event : τ) (rest : Generator τ α ε)
  | suspended (value : α) (resume : Except ε Unit -> Generator τ α ε)

/-- An entry of the trace of a generator. -/
inductive Mark (τ α : Type)
  | event (event : τ)
  | yielded (value : α)
  deriving DecidableEq

/-- Where a generator that runs comes to rest. -/
inductive Rest (τ α ε : Type)
  | stopped (result : Except ε Unit)
  | atYield (value : α) (resume : Except ε Unit -> Generator τ α ε)

/-- How a `with` statement ends for its caller. -/
inductive WithResult (ε : Type)
  | returned
  | raised (exc : ε)
  | runtimeError (text : String)
  deriving DecidableEq

/-- How a `with` statement ends whose generator stops after its yield. -/
def WithResult.ofStop : Except ε Unit -> WithResult ε
  | .ok () => .returned
  | .error exc => .raised exc

theorem WithResult.ofStop_eq_raised_iff
    {result : Except ε Unit} {exc : ε} :
    ofStop result = .raised exc ↔ result = .error exc := by
  cases result with
  | ok value =>
      constructor
      · intro impossible
        cases impossible
      · intro impossible
        cases impossible
  | error other =>
      constructor
      · intro same
        rw [raised.inj same]
      · intro same
        rw [Except.error.inj same]
        rfl

namespace Generator

/-- Raise an exception. -/
def raise (exc : ε) : Generator τ α ε :=
  .finished (.error exc)

/-- Go on behind a call that may raise. -/
def perform
    (result : Except ε Unit)
    (next : Generator τ α ε) : Generator τ α ε :=
  match result with
  | .ok () => next
  | .error exc => raise exc

/-- Run something on the way out of a generator.  What it raises replaces how
the generator ended. -/
def onExit (exit : Except ε Unit) : Generator τ α ε -> Generator τ α ε
  | .finished result => .finished (exit.bind fun _ => result)
  | .emit event rest => .emit event (rest.onExit exit)
  | .suspended value resume =>
      .suspended value fun sent => (resume sent).onExit exit

/-- `async with`: a block that is not entered is not left either. -/
def asyncWith
    (enter exit : Except ε Unit)
    (block : Generator τ α ε) : Generator τ α ε :=
  perform enter (block.onExit exit)

/-- `try` with a handler for everything that the block raises. -/
def tryExcept
    (handler : ε -> Generator τ α ε) : Generator τ α ε -> Generator τ α ε
  | .finished (.ok ()) => .finished (.ok ())
  | .finished (.error exc) => handler exc
  | .emit event rest => .emit event (rest.tryExcept handler)
  | .suspended value resume =>
      .suspended value fun sent => (resume sent).tryExcept handler

/-- What a step raises within a block, once the exit of the block has run. -/
def raisedThrough (exit result : Except ε Unit) : Except ε Unit :=
  match result with
  | .ok () => .ok ()
  | .error exc => exit.bind fun _ => .error exc

theorem perform_bind
    (first second : Except ε Unit)
    (next : Generator τ α ε) :
    perform (do first; second) next = perform first (perform second next) := by
  cases first with
  | ok value => rfl
  | error exc => rfl

/-- A step within a block is a step before it, if the exit runs where the step
raises. -/
theorem onExit_perform
    (exit result : Except ε Unit)
    (next : Generator τ α ε) :
    (perform result next).onExit exit =
      perform (raisedThrough exit result) (next.onExit exit) := by
  cases result with
  | ok value => rfl
  | error exc =>
      cases exit with
      | ok value => rfl
      | error replacing => rfl

/-- An exit that does nothing changes nothing. -/
theorem onExit_ok (generator : Generator τ α ε) :
    generator.onExit (.ok ()) = generator := by
  induction generator with
  | finished result => rfl
  | emit event rest inductionHypothesis =>
      rw [onExit, inductionHypothesis]
  | suspended value resume inductionHypothesis =>
      rw [onExit]
      congr 1
      funext sent
      exact inductionHypothesis sent

/-- Run a generator to its next yield or to its end. -/
def advance : Generator τ α ε -> List (Mark τ α) × Rest τ α ε
  | .finished result => ([], .stopped result)
  | .emit event rest => (.event event :: rest.advance.1, rest.advance.2)
  | .suspended value resume => ([.yielded value], .atYield value resume)

@[simp] theorem advance_emit (event : τ) (rest : Generator τ α ε) :
    (emit event rest).advance =
      (.event event :: rest.advance.1, rest.advance.2) := rfl

/-- Close a generator that is suspended: the exit exception is thrown in, and
leaving with it is the regular end. -/
def close
    (exit : ε)
    (isExit : ε -> Bool)
    (resume : Except ε Unit -> Generator τ α ε)
    (text : String) : List (Mark τ α) × WithResult ε :=
  let (marks, next) := (resume (.error exit)).advance
  match next with
  | .stopped (.ok ()) => (marks, .runtimeError text)
  | .stopped (.error exc) =>
      if isExit exc then (marks, .runtimeError text) else (marks, .raised exc)
  | .atYield _ _ =>
      (marks, .runtimeError "async generator ignored GeneratorExit")

/-- Run a `with` statement on the manager of a generator. -/
def withStatement
    (exit : ε)
    (isExit : ε -> Bool)
    (generator : Generator τ α ε)
    (body : α -> Except ε Unit) : List (Mark τ α) × WithResult ε :=
  let (before, first) := generator.advance
  match first with
  | .stopped (.ok ()) => (before, .runtimeError "generator didn't yield")
  | .stopped (.error exc) => (before, .raised exc)
  | .atYield value resume =>
      let sent := body value
      let (after, second) := (resume sent).advance
      match second with
      | .stopped result => (before ++ after, .ofStop result)
      | .atYield _ resume =>
          let text :=
            match sent with
            | .ok () => "generator didn't stop"
            | .error _ => "generator didn't stop after athrow()"
          let (closing, result) := close exit isExit resume text
          (before ++ after ++ closing, result)

section Bounds

variable (counted : τ -> Bool)

/-- No run of the generator, however it is resumed, emits more than `bound` of
the counted events. -/
def AtMost : Nat -> Generator τ α ε -> Prop
  | _, .finished _ => True
  | bound, .emit event rest =>
      ∃ left, (counted event).toNat + left = bound ∧ AtMost left rest
  | bound, .suspended _ resume => ∀ sent, AtMost bound (resume sent)

/-- How many of the counted events a mark is. -/
def weight : Mark τ α -> Nat
  | .event event => (counted event).toNat
  | .yielded _ => 0

/-- The number of counted events in a trace. -/
def countEvents : List (Mark τ α) -> Nat
  | [] => 0
  | mark :: rest => weight counted mark + countEvents rest

variable {counted}

theorem countEvents_append (first second : List (Mark τ α)) :
    countEvents counted (first ++ second) =
      countEvents counted first + countEvents counted second := by
  induction first with
  | nil => exact (Nat.zero_add _).symm
  | cons mark rest inductionHypothesis =>
      rw [List.cons_append, countEvents, countEvents, inductionHypothesis,
        Nat.add_assoc]

/-- A handler that emits at most as much as a bound, around a block that emits
none of the counted events. -/
theorem AtMost.tryExcept
    {handler : ε -> Generator τ α ε} {block : Generator τ α ε} {bound : Nat}
    (silent : AtMost counted 0 block)
    (handles : ∀ exc, AtMost counted bound (handler exc)) :
    AtMost counted bound (block.tryExcept handler) := by
  induction block with
  | finished result =>
      cases result with
      | ok value => exact trivial
      | error exc => exact handles exc
  | emit event rest inductionHypothesis =>
      obtain ⟨left, nothing, restSilent⟩ := silent
      obtain ⟨weightless, rfl⟩ := Nat.add_eq_zero_iff.mp nothing
      refine ⟨bound, ?_, inductionHypothesis restSilent⟩
      rw [weightless, Nat.zero_add]
  | suspended value resume inductionHypothesis =>
      intro sent
      exact inductionHypothesis sent (silent sent)

/-- Where a generator comes to rest, what it has emitted is off its bound. -/
theorem AtMost.advance
    {generator : Generator τ α ε} {bound : Nat}
    (atMost : AtMost counted bound generator) :
    ∃ left, countEvents counted generator.advance.1 + left = bound ∧
      ∀ value resume, generator.advance.2 = .atYield value resume ->
        ∀ sent, AtMost counted left (resume sent) := by
  induction generator generalizing bound with
  | finished result =>
      refine ⟨bound, Nat.zero_add bound, ?_⟩
      intro value resume impossible
      cases impossible
  | emit event rest inductionHypothesis =>
      obtain ⟨less, bound_eq, restAtMost⟩ := atMost
      obtain ⟨left, less_eq, resumes⟩ := inductionHypothesis restAtMost
      refine ⟨left, ?_, resumes⟩
      rw [advance_emit, countEvents, weight, ← bound_eq, ← less_eq,
        Nat.add_assoc]
  | suspended value resume =>
      refine ⟨bound, Nat.zero_add bound, ?_⟩
      intro other again same
      cases same
      exact atMost

/-- A bound on every run of the generator bounds the whole `with` statement. -/
theorem AtMost.withStatement
    {generator : Generator τ α ε} {bound : Nat}
    (atMost : AtMost counted bound generator)
    (exit : ε)
    (isExit : ε -> Bool)
    (body : α -> Except ε Unit) :
    countEvents counted
      (generator.withStatement exit isExit body).1 ≤ bound := by
  obtain ⟨left, bound_eq, resumes⟩ := atMost.advance
  unfold Generator.withStatement
  generalize generator.advance = entered at bound_eq resumes ⊢
  obtain ⟨before, first⟩ := entered
  dsimp only at bound_eq resumes ⊢
  split
  case h_1 => dsimp only; omega
  case h_2 => dsimp only; omega
  case h_3 value resume =>
    obtain ⟨later, left_eq, closes⟩ :=
      (resumes value resume rfl (body value)).advance
    generalize (resume (body value)).advance = resumed at left_eq closes ⊢
    obtain ⟨after, second⟩ := resumed
    dsimp only at left_eq closes ⊢
    split
    case h_1 => dsimp only; rw [countEvents_append]; omega
    case h_2 other again =>
      obtain ⟨_, later_eq, _⟩ := (closes other again rfl (.error exit)).advance
      unfold close
      generalize (again (.error exit)).advance = closed at later_eq ⊢
      obtain ⟨closing, third⟩ := closed
      dsimp only at later_eq ⊢
      have total : countEvents counted (before ++ after ++ closing) ≤ bound := by
        rw [countEvents_append, countEvents_append]
        omega
      split
      case h_1 => exact total
      case h_2 => split <;> exact total
      case h_3 => exact total

end Bounds

/-- A generator that stops before its first yield never runs the body. -/
theorem withStatement_of_stopped
    {generator : Generator τ α ε} {marks : List (Mark τ α)} {exc : ε}
    (stops : generator.advance = (marks, .stopped (.error exc)))
    (exit : ε)
    (isExit : ε -> Bool)
    (body : α -> Except ε Unit) :
    generator.withStatement exit isExit body = (marks, .raised exc) := by
  unfold withStatement
  rw [stops]

section AtYield

variable {generator : Generator τ α ε} {before after : List (Mark τ α)}
  {value : α} {resume : Except ε Unit -> Generator τ α ε}

/-- A generator that stops when it is resumed decides how the statement
ends. -/
theorem withStatement_of_resumed
    {body : α -> Except ε Unit} {result : Except ε Unit}
    (yields : generator.advance = (before, .atYield value resume))
    (stops : (resume (body value)).advance = (after, .stopped result))
    (exit : ε)
    (isExit : ε -> Bool) :
    generator.withStatement exit isExit body =
      (before ++ after, .ofStop result) := by
  unfold withStatement
  rw [yields]
  dsimp only
  rw [stops]

/-- What a resumed generator emits is in the trace behind the yield. -/
theorem exists_trace_of_yield
    (yields : generator.advance = (before, .atYield value resume))
    (exit : ε)
    (isExit : ε -> Bool)
    (body : α -> Except ε Unit) :
    ∃ later, (generator.withStatement exit isExit body).1 =
      before ++ ((resume (body value)).advance.1 ++ later) := by
  unfold withStatement
  rw [yields]
  dsimp only
  cases (resume (body value)).advance.2 with
  | stopped result =>
      refine ⟨[], ?_⟩
      rw [List.append_nil]
  | atYield other again => exact ⟨_, List.append_assoc _ _ _⟩

end AtYield
end Generator
end Foundation
end BoschBle
