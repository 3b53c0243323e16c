import BoschBle.Foundation.Raising

/-!
# Programs with local variables

A program with local variables ends with their values beside its result: what was
assigned before an exception stays assigned behind it.
-/

namespace BoschBle
namespace Foundation

/-- A program with the values of local variables. -/
def Local (σ : Type) (Call : Type) (Answer : Call -> Type) (α : Type) : Type :=
  σ -> Program Call Answer (Except Exn α × σ)

namespace Local

variable {σ : Type} {Call : Type} {Answer : Call -> Type}

/-- Go on where a program has returned. -/
def andThen (next : α -> Local σ Call Answer β) :
    Except Exn α × σ -> Program Call Answer (Except Exn β × σ)
  | (.ok value, locals) => next value locals
  | (.error exc, locals) => .done (.ok (.error exc, locals))

instance : Monad (Local σ Call Answer) where
  pure value := fun locals => .done (.ok (.ok value, locals))
  bind program next := fun locals => program locals >>= andThen next

/-- A program that does not know the variables. -/
def lift (program : Program Call Answer α) : Local σ Call Answer α :=
  fun locals => program.handle fun result => .done (.ok (result, locals))

/-- Assign to a variable. -/
def assign (update : σ -> σ) : Local σ Call Answer Unit :=
  fun locals => .done (.ok (.ok (), update locals))

/-- `try` with a `finally` clause. -/
def tryFinally (program : Local σ Call Answer α) (clause : Program Call Answer Unit) :
    Local σ Call Answer α :=
  fun locals => program locals >>= fun ended =>
    clause.handle fun ends => .done (.ok (Program.finish ended.1 ends, ended.2))

/-- The program alone, from these values. -/
def value (program : Local σ Call Answer α) (locals : σ) : Program Call Answer α := do
  let ended <- program locals
  Program.done ended.1

/-- A run from values of the variables, with the values behind it. -/
def Runs
    (program : Local σ Call Answer α)
    (locals : σ)
    (trace : List (Exchange Call Answer))
    (result : Except Exn α)
    (after : σ) : Prop :=
  (program locals).Runs trace (.ok (result, after))

section Rules

variable {locals after : σ} {trace : List (Exchange Call Answer)}

theorem runs_pure {value : α} {result : Except Exn α} :
    Runs (Pure.pure value : Local σ Call Answer α) locals trace result after ↔
      trace = [] ∧ result = .ok value ∧ after = locals := by
  refine Program.runs_done.trans (and_congr_right fun _ => ?_)
  rw [Except.ok.injEq, Prod.mk.injEq]

theorem runs_assign {update : σ -> σ} {result : Except Exn Unit} :
    Runs (assign update : Local σ Call Answer Unit) locals trace result after ↔
      trace = [] ∧ result = .ok () ∧ after = update locals := by
  refine Program.runs_done.trans (and_congr_right fun _ => ?_)
  rw [Except.ok.injEq, Prod.mk.injEq]

theorem runs_lift {program : Program Call Answer α} {result : Except Exn α} :
    Runs (lift program) locals trace result after ↔
      program.Runs trace result ∧ after = locals := by
  unfold Runs lift
  rw [Program.runs_handle]
  constructor
  · rintro ⟨first, second, middle, rfl, runs, ends⟩
    obtain ⟨rfl, same⟩ := Program.runs_done.mp ends
    rw [Except.ok.injEq, Prod.mk.injEq] at same
    obtain ⟨rfl, rfl⟩ := same
    rw [List.append_nil]
    exact ⟨runs, rfl⟩
  · rintro ⟨runs, rfl⟩
    exact ⟨trace, [], result, (List.append_nil trace).symm, runs, Program.Runs.done⟩

theorem runs_value_ok {program : Local σ Call Answer α} {result : α} :
    (program.value locals).Runs trace (.ok result) ↔
      ∃ after, Runs program locals trace (.ok result) after := by
  refine Program.runs_bind_ok.trans ?_
  constructor
  · rintro ⟨first, second, ⟨middle, after⟩, rfl, runs, ends⟩
    obtain ⟨rfl, rfl⟩ := Program.runs_done.mp ends
    rw [List.append_nil]
    exact ⟨after, runs⟩
  · rintro ⟨after, runs⟩
    exact ⟨trace, [], (.ok result, after), (List.append_nil trace).symm, runs,
      Program.Runs.done⟩

theorem runs_bind
    {program : Local σ Call Answer α} {next : α -> Local σ Call Answer β}
    {result : Except Exn β} :
    Runs (program >>= next) locals trace result after ↔
      (∃ exc, result = .error exc ∧ Runs program locals trace (.error exc) after) ∨
        ∃ first second value between, trace = first ++ second ∧
          Runs program locals first (.ok value) between ∧
            Runs (next value) between second result after := by
  refine Program.runs_bind_ok.trans ?_
  constructor
  · rintro ⟨first, second, ⟨middle, between⟩, rfl, runs, continues⟩
    cases middle with
    | ok value => exact Or.inr ⟨first, second, value, between, rfl, runs, continues⟩
    | error exc =>
        obtain ⟨rfl, same⟩ := Program.runs_done.mp continues
        rw [Except.ok.injEq, Prod.mk.injEq] at same
        obtain ⟨rfl, rfl⟩ := same
        rw [List.append_nil]
        exact Or.inl ⟨exc, rfl, runs⟩
  · rintro (⟨exc, rfl, runs⟩ | ⟨first, second, value, between, rfl, runs, continues⟩)
    · exact ⟨trace, [], (.error exc, after), (List.append_nil trace).symm, runs,
        Program.Runs.done⟩
    · exact ⟨first, second, (.ok value, between), rfl, runs, continues⟩

/-- A program that is lifted leaves the variables as they are. -/
theorem runs_lift_bind
    {program : Program Call Answer α} {next : α -> Local σ Call Answer β}
    {result : Except Exn β} :
    Runs (lift program >>= next) locals trace result after ↔
      (∃ exc, result = .error exc ∧ program.Runs trace (.error exc) ∧ after = locals) ∨
        ∃ first second value, trace = first ++ second ∧ program.Runs first (.ok value) ∧
          Runs (next value) locals second result after := by
  rw [runs_bind]
  apply or_congr
  · exact exists_congr fun exc => and_congr_right fun _ => runs_lift
  · constructor
    · rintro ⟨first, second, value, between, rfl, lifted, continues⟩
      obtain ⟨runs, rfl⟩ := runs_lift.mp lifted
      exact ⟨first, second, value, rfl, runs, continues⟩
    · rintro ⟨first, second, value, rfl, runs, continues⟩
      exact ⟨first, second, value, locals, rfl, runs_lift.mpr ⟨runs, rfl⟩, continues⟩

theorem runs_assign_bind
    {update : σ -> σ} {next : Unit -> Local σ Call Answer β} {result : Except Exn β} :
    Runs (assign update >>= next) locals trace result after ↔
      Runs (next ()) (update locals) trace result after :=
  Iff.rfl

theorem runs_tryFinally
    {program : Local σ Call Answer α} {clause : Program Call Answer Unit}
    {result : Except Exn α} :
    Runs (program.tryFinally clause) locals trace result after ↔
      ∃ first second middle ends, trace = first ++ second ∧
        Runs program locals first middle after ∧ clause.Runs second ends ∧
          result = Program.finish middle ends := by
  refine Program.runs_bind_ok.trans ?_
  constructor
  · rintro ⟨first, second, ⟨middle, between⟩, rfl, runs, continues⟩
    obtain ⟨clauseTrace, rest, ends, rfl, clauseRuns, finishes⟩ := Program.runs_handle.mp continues
    obtain ⟨rfl, same⟩ := Program.runs_done.mp finishes
    rw [Except.ok.injEq, Prod.mk.injEq] at same
    obtain ⟨rfl, rfl⟩ := same
    rw [List.append_nil]
    exact ⟨first, clauseTrace, middle, ends, rfl, runs, clauseRuns, rfl⟩
  · rintro ⟨first, second, middle, ends, rfl, runs, clauseRuns, rfl⟩
    refine ⟨first, second, (middle, after), rfl, runs, ?_⟩
    exact Program.runs_handle.mpr
      ⟨second, [], ends, (List.append_nil second).symm, clauseRuns, Program.Runs.done⟩

end Rules
end Local
end Foundation
end BoschBle
