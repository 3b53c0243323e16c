import Mathlib.Data.List.Basic

/-!
# Runs of a transition system

A system is a partial step function on states and events.  A run records its
events, oldest first, and a guard may restrict the events of a run by the state
they meet.  The module has the two rules that results about runs rest on: an
invariant that every step keeps, and a simulation that replaces every event by
a list of events.
-/

namespace BoschBle
namespace Foundation

/-- The runs of `step` from `start` whose events satisfy `allowed`. -/
inductive Run
    (step : σ -> ι -> Option σ)
    (allowed : σ -> ι -> Prop)
    (start : σ) : List ι -> σ -> Prop
  | nil : Run step allowed start [] start
  | snoc {events : List ι} {before after : σ} {event : ι} :
      Run step allowed start events before ->
      allowed before event ->
      step before event = some after ->
      Run step allowed start (events ++ [event]) after

namespace Run

variable {step : σ -> ι -> Option σ} {allowed : σ -> ι -> Prop}

/-- The invariant rule. -/
theorem invariant
    {property : σ -> Prop}
    {start final : σ} {events : List ι}
    (initially : property start)
    (preserved : ∀ before event after, property before ->
      allowed before event -> step before event = some after ->
        property after)
    (run : Run step allowed start events final) :
    property final := by
  induction run with
  | nil => exact initially
  | snoc _ permitted stepped inductionHypothesis =>
      exact preserved _ _ _ inductionHypothesis permitted stepped

/-- The invariant rule for an invariant of the state and of the events so
far. -/
theorem invariant_events
    {property : List ι -> σ -> Prop}
    {start final : σ} {events : List ι}
    (initially : property [] start)
    (preserved : ∀ events before event after, property events before ->
      allowed before event -> step before event = some after ->
        property (events ++ [event]) after)
    (run : Run step allowed start events final) :
    property events final := by
  induction run with
  | nil => exact initially
  | snoc _ permitted stepped inductionHypothesis =>
      exact preserved _ _ _ _ inductionHypothesis permitted stepped

/-- A run under a guard is a run under a weaker guard. -/
theorem mono
    {weaker : σ -> ι -> Prop}
    {start final : σ} {events : List ι}
    (run : Run step allowed start events final)
    (implies : ∀ state event, allowed state event -> weaker state event) :
    Run step weaker start events final := by
  induction run with
  | nil => exact nil
  | snoc _ permitted stepped inductionHypothesis =>
      exact snoc inductionHypothesis (implies _ _ permitted) stepped

theorem single
    {start after : σ} {event : ι}
    (permitted : allowed start event)
    (stepped : step start event = some after) :
    Run step allowed start [event] after :=
  have run : Run step allowed start ([] ++ [event]) after :=
    snoc nil permitted stepped
  run

/-- Runs compose. -/
theorem trans
    {start middle final : σ} {first second : List ι}
    (firstRun : Run step allowed start first middle)
    (secondRun : Run step allowed middle second final) :
    Run step allowed start (first ++ second) final := by
  induction secondRun with
  | nil => rwa [List.append_nil]
  | snoc _ permitted stepped inductionHypothesis =>
      rw [← List.append_assoc]
      exact snoc inductionHypothesis permitted stepped

/-- Every prefix of a run is a run. -/
theorem of_prefix
    {start final : σ} {events prior : List ι}
    (run : Run step allowed start events final)
    (earlier : prior <+: events) :
    ∃ middle, Run step allowed start prior middle := by
  induction run with
  | nil =>
      rw [List.prefix_nil.mp earlier]
      exact ⟨start, nil⟩
  | snoc run permitted stepped inductionHypothesis =>
      rcases List.prefix_concat_iff.mp earlier with rfl | earlier
      · exact ⟨_, snoc run permitted stepped⟩
      · exact inductionHypothesis earlier

/-- The simulation rule: related states stay related when every event of one
system is answered by the run of its translation in the other. -/
theorem simulate
    {otherStep : τ -> κ -> Option τ} {otherAllowed : τ -> κ -> Prop}
    {related : σ -> τ -> Prop}
    {translate : ι -> List κ}
    (answers : ∀ before event after other, related before other ->
      allowed before event -> step before event = some after ->
        ∃ otherAfter,
          Run otherStep otherAllowed other (translate event) otherAfter ∧
            related after otherAfter)
    {start final : σ} {events : List ι} {otherStart : τ}
    (initially : related start otherStart)
    (run : Run step allowed start events final) :
    ∃ otherFinal,
      Run otherStep otherAllowed otherStart (events.flatMap translate)
        otherFinal ∧ related final otherFinal := by
  induction run with
  | nil => exact ⟨otherStart, nil, initially⟩
  | snoc _ permitted stepped inductionHypothesis =>
      obtain ⟨middle, otherRun, relates⟩ := inductionHypothesis
      obtain ⟨otherFinal, answer, finalRelates⟩ :=
        answers _ _ _ middle relates permitted stepped
      refine ⟨otherFinal, ?_, finalRelates⟩
      rw [List.flatMap_append, List.flatMap_singleton]
      exact trans otherRun answer

end Run

/-- Take the given events one after the other, as long as they are allowed. -/
def execute
    (step : σ -> ι -> Option σ)
    (allowed : σ -> ι -> Prop)
    [∀ state event, Decidable (allowed state event)]
    (start : σ) : List ι -> Option σ
  | [] => some start
  | event :: rest =>
      if allowed start event then
        (step start event).bind fun after => execute step allowed after rest
      else none

/-- Whatever the executor reaches is reached by a run. -/
theorem Run.of_execute
    (step : σ -> ι -> Option σ)
    (allowed : σ -> ι -> Prop)
    [∀ state event, Decidable (allowed state event)]
    (start : σ)
    (events : List ι)
    {final : σ}
    (executes : execute step allowed start events = some final) :
    Run step allowed start events final := by
  induction events generalizing start with
  | nil =>
      cases executes
      exact Run.nil
  | cons event rest inductionHypothesis =>
      simp only [execute, Option.ite_none_right_eq_some,
        Option.bind_eq_some_iff] at executes
      obtain ⟨permitted, after, stepped, remaining⟩ := executes
      rw [← List.singleton_append]
      exact Run.trans (Run.single permitted stepped)
        (inductionHypothesis after remaining)

end Foundation
end BoschBle
