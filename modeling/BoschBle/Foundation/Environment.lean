import BoschBle.Foundation.Raising

/-!
# Environments that move

An environment has a state, which changes with its answers and in moves of its own.  A
trace goes from one state to another where each of its exchanges may take place, with
any number of moves before, between and behind them.  What is stable is not undone.
-/

namespace BoschBle
namespace Foundation

/-- What surrounds a program: it moves by itself, and it answers calls. -/
structure Environment (Call : Type) (Answer : Call -> Type) (σ : Type) where
  /-- A move from one state to another. -/
  moves : σ -> σ -> Prop
  /-- An exchange that may take place in a state, and the state behind it. -/
  answers : σ -> Exchange Call Answer -> σ -> Prop

namespace Environment

variable {Call : Type} {Answer : Call -> Type} (environment : Environment Call Answer σ)

/-- The trace goes from the one state to the other. -/
inductive Goes : σ -> List (Exchange Call Answer) -> σ -> Prop
  | stays (state : σ) : Goes state [] state
  | moves
      {state next last : σ} {trace : List (Exchange Call Answer)}
      (moved : environment.moves state next)
      (goesOn : Goes next trace last) :
      Goes state trace last
  | answers
      {state next last : σ} {step : Exchange Call Answer} {trace : List (Exchange Call Answer)}
      (answered : environment.answers state step next)
      (goesOn : Goes next trace last) :
      Goes state (step :: trace) last

/-- What no move and no answer undoes. -/
structure Stable (holds : σ -> Prop) : Prop where
  moves : ∀ state next, environment.moves state next -> holds state -> holds next
  answers : ∀ state step next, environment.answers state step next -> holds state -> holds next

variable {environment}

theorem Goes.trans
    {first second : List (Exchange Call Answer)} {start middle last : σ}
    (goes : environment.Goes start first middle)
    (goesOn : environment.Goes middle second last) :
    environment.Goes start (first ++ second) last := by
  induction goes with
  | stays => exact goesOn
  | moves moved _ inductionHypothesis => exact Goes.moves moved (inductionHypothesis goesOn)
  | answers answered _ inductionHypothesis =>
      exact Goes.answers answered (inductionHypothesis goesOn)

/-- There is a state between two parts of a trace. -/
theorem goes_append
    {first second : List (Exchange Call Answer)} {start last : σ} :
    environment.Goes start (first ++ second) last ↔
      ∃ middle, environment.Goes start first middle ∧ environment.Goes middle second last := by
  constructor
  · intro goes
    generalize trace_eq : first ++ second = trace at goes
    induction goes generalizing first with
    | stays state =>
        obtain ⟨rfl, rfl⟩ := List.append_eq_nil_iff.mp trace_eq
        exact ⟨state, Goes.stays state, Goes.stays state⟩
    | moves moved _ inductionHypothesis =>
        obtain ⟨middle, earlier, later⟩ := inductionHypothesis trace_eq
        exact ⟨middle, Goes.moves moved earlier, later⟩
    | @answers state _ _ _ _ answered goesOn inductionHypothesis =>
        cases first with
        | nil =>
            rw [List.nil_append] at trace_eq
            rw [trace_eq]
            exact ⟨state, Goes.stays state, Goes.answers answered goesOn⟩
        | cons step first =>
            obtain ⟨rfl, rest_eq⟩ := List.cons.inj trace_eq
            obtain ⟨middle, earlier, later⟩ := inductionHypothesis rest_eq
            exact ⟨middle, Goes.answers answered earlier, later⟩
  · rintro ⟨middle, earlier, later⟩
    exact earlier.trans later

/-- The first exchange of a trace takes place between two states. -/
theorem goes_cons
    {step : Exchange Call Answer} {trace : List (Exchange Call Answer)} {start last : σ} :
    environment.Goes start (step :: trace) last ↔
      ∃ before after, environment.Goes start [] before ∧
        environment.answers before step after ∧ environment.Goes after trace last := by
  constructor
  · intro goes
    generalize whole_eq : step :: trace = whole at goes
    induction goes with
    | stays => cases whole_eq
    | moves moved _ inductionHypothesis =>
        obtain ⟨before, after, moves, answered, goesOn⟩ := inductionHypothesis whole_eq
        exact ⟨before, after, Goes.moves moved moves, answered, goesOn⟩
    | @answers state after _ _ _ answered goesOn =>
        cases whole_eq
        exact ⟨state, after, Goes.stays state, answered, goesOn⟩
  · rintro ⟨before, after, moves, answered, goesOn⟩
    exact moves.trans (Goes.answers answered goesOn)

namespace Stable

variable {holds other : σ -> Prop}

/-- What is stable holds behind a trace if it holds in front of it. -/
theorem keeps
    {trace : List (Exchange Call Answer)} {start last : σ}
    (stable : environment.Stable holds)
    (goes : environment.Goes start trace last)
    (initially : holds start) :
    holds last := by
  induction goes with
  | stays => exact initially
  | moves moved _ inductionHypothesis =>
      exact inductionHypothesis (stable.moves _ _ moved initially)
  | answers answered _ inductionHypothesis =>
      exact inductionHypothesis (stable.answers _ _ _ answered initially)

/-- What an answer establishes in states with an invariant holds behind every trace
with that answer. -/
theorem established
    {step : Exchange Call Answer} {trace : List (Exchange Call Answer)} {start last : σ}
    (stable : environment.Stable holds)
    (invariant : environment.Stable other)
    (gives : ∀ state next, other state -> environment.answers state step next -> holds next)
    (goes : environment.Goes start trace last)
    (present : step ∈ trace)
    (initially : other start) :
    holds last := by
  obtain ⟨first, second, rfl⟩ := List.append_of_mem present
  obtain ⟨middle, earlier, later⟩ := goes_append.mp goes
  obtain ⟨before, after, moves, answered, goesOn⟩ := goes_cons.mp later
  have between : other before := invariant.keeps moves (invariant.keeps earlier initially)
  exact stable.keeps goesOn (gives before after between answered)

end Stable
end Environment
end Foundation
end BoschBle
