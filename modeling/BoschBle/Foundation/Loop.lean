import Mathlib.Logic.Basic

/-!
# Terminating loops

A loop is a body that either continues with a new state or stops with a
result, together with a measure that every continuing pass lowers.  Running a
loop is structural in a fuel argument that the measure bounds, so a loop on a
concrete state evaluates, and `exec_of_next` and `exec_of_stop` unroll it by one
pass.
-/

namespace BoschBle
namespace Foundation

/-- What one pass of a loop body does. -/
inductive Pass (σ ρ : Type)
  | next (state : σ)
  | stop (result : ρ)

/-- Run a loop body for at most `fuel` passes. -/
def runPasses (body : σ -> Pass σ ρ) : Nat -> σ -> Option ρ
  | 0, _ => none
  | fuel + 1, state =>
      match body state with
      | .next after => runPasses body fuel after
      | .stop result => some result

/-- A loop that carries its own termination argument. -/
structure Loop (σ ρ : Type) where
  /-- One pass. -/
  body : σ -> Pass σ ρ
  /-- A bound on the number of passes that are left. -/
  measure : σ -> Nat
  /-- Every pass that continues lowers the bound. -/
  decreases : ∀ state after,
    body state = .next after -> measure after < measure state

namespace Loop

/-- Fuel above the measure always gives the same result. -/
theorem exists_runPasses (loop : Loop σ ρ) (state : σ) :
    ∃ result, ∀ fuel, loop.measure state < fuel ->
      runPasses loop.body fuel state = some result := by
  generalize bound_eq : loop.measure state = bound
  induction bound using Nat.strongRecOn generalizing state with
  | ind bound inductionHypothesis =>
      cases passes : loop.body state with
      | stop result =>
          refine ⟨result, ?_⟩
          intro fuel enough
          cases fuel with
          | zero => omega
          | succ fuel => simp only [runPasses, passes]
      | next after =>
          have lower := loop.decreases state after passes
          rw [bound_eq] at lower
          obtain ⟨result, runs⟩ :=
            inductionHypothesis (loop.measure after) lower after rfl
          refine ⟨result, ?_⟩
          intro fuel enough
          cases fuel with
          | zero => omega
          | succ fuel =>
              simp only [runPasses, passes]
              exact runs fuel (by omega)

/-- The loop ends: its measure, plus one, is fuel enough. -/
theorem runPasses_isSome (loop : Loop σ ρ) (state : σ) :
    (runPasses loop.body (loop.measure state + 1) state).isSome := by
  obtain ⟨result, runs⟩ := loop.exists_runPasses state
  rw [runs _ (Nat.lt_succ_self _)]
  rfl

/-- The result of a loop. -/
def exec (loop : Loop σ ρ) (state : σ) : ρ :=
  (runPasses loop.body (loop.measure state + 1) state).get
    (loop.runPasses_isSome state)

theorem runPasses_eq_exec
    (loop : Loop σ ρ)
    (state : σ)
    {fuel : Nat}
    (enough : loop.measure state < fuel) :
    runPasses loop.body fuel state = some (loop.exec state) := by
  obtain ⟨result, runs⟩ := loop.exists_runPasses state
  rw [runs fuel enough, exec, Option.some_inj]
  exact Option.get_of_eq_some _ (runs _ (Nat.lt_succ_self _)) |>.symm

theorem exec_of_stop
    {loop : Loop σ ρ} {state : σ} {result : ρ}
    (stops : loop.body state = .stop result) :
    loop.exec state = result := by
  have runs := loop.runPasses_eq_exec state (Nat.lt_succ_self _)
  simp only [runPasses, stops, Option.some_inj] at runs
  exact runs.symm

theorem exec_of_next
    {loop : Loop σ ρ} {state after : σ}
    (continues : loop.body state = .next after) :
    loop.exec state = loop.exec after := by
  have lower := loop.decreases state after continues
  have runs := loop.runPasses_eq_exec state (Nat.lt_succ_self _)
  simp only [runPasses, continues] at runs
  rw [loop.runPasses_eq_exec after lower, Option.some_inj] at runs
  exact runs.symm

/-- The invariant rule: a property of a state and of the loop's result there
that every pass carries backwards holds of every state. -/
theorem exec_induction
    (loop : Loop σ ρ)
    (property : σ -> ρ -> Prop)
    (stops : ∀ state result,
      loop.body state = .stop result -> property state result)
    (continues : ∀ state after,
      loop.body state = .next after ->
        property after (loop.exec after) -> property state (loop.exec after))
    (state : σ) :
    property state (loop.exec state) := by
  generalize bound_eq : loop.measure state = bound
  induction bound using Nat.strongRecOn generalizing state with
  | ind bound inductionHypothesis =>
      cases passes : loop.body state with
      | stop result =>
          rw [exec_of_stop passes]
          exact stops state result passes
      | next after =>
          have lower := loop.decreases state after passes
          rw [bound_eq] at lower
          rw [exec_of_next passes]
          exact continues state after passes
            (inductionHypothesis (loop.measure after) lower after rfl)

/-- Two loops whose passes stop together with equal results, and otherwise
continue to related states, have equal results on related states. -/
theorem exec_simulation
    {left : Loop σ ρ} {right : Loop τ ρ}
    (related : σ -> τ -> Prop)
    (stops : ∀ state other result, related state other ->
      left.body state = .stop result -> right.body other = .stop result)
    (continues : ∀ state other after, related state other ->
      left.body state = .next after ->
        ∃ otherAfter, right.body other = .next otherAfter ∧
          related after otherAfter)
    {state : σ} {other : τ}
    (start : related state other) :
    left.exec state = right.exec other := by
  have simulated := exec_induction left
    (fun state result => ∀ other,
      related state other -> right.exec other = result)
    (fun state result passes other relates =>
      exec_of_stop (stops state other result relates passes))
    (fun state after passes hypothesis other relates => by
      obtain ⟨otherAfter, otherPasses, afterRelates⟩ :=
        continues state other after relates passes
      rw [exec_of_next otherPasses]
      exact hypothesis otherAfter afterRelates)
    state
  exact (simulated other start).symm

end Loop
end Foundation
end BoschBle
