import BoschBle.Foundation.Embedding

/-!
# Where a program raises

How sequences, handlers and clean-up clauses run, whether they raise or not.  A passive
program has no exceptions of its own: where it raises, its last call has raised, and
it passes that on.
-/

namespace BoschBle
namespace Foundation
namespace Program

variable {Call : Type} {Answer : Call -> Type}

section Sequence

variable {trace : List (Exchange Call Answer)}

theorem runs_bind
    {program : Program Call Answer α} {next : α -> Program Call Answer β}
    {result : Except Exn β} :
    (program >>= next).Runs trace result ↔
      (∃ exc, result = .error exc ∧ program.Runs trace (.error exc)) ∨
        ∃ first second middle, trace = first ++ second ∧
          program.Runs first (.ok middle) ∧ (next middle).Runs second result := by
  cases result with
  | ok value =>
      rw [runs_bind_ok]
      constructor
      · exact Or.inr
      · rintro (⟨exc, impossible, _⟩ | goesOn)
        · cases impossible
        · exact goesOn
  | error exc =>
      rw [runs_bind_error]
      constructor
      · rintro (raises | goesOn)
        · exact Or.inl ⟨exc, rfl, raises⟩
        · exact Or.inr goesOn
      · rintro (⟨_, same, raises⟩ | goesOn)
        · rw [Except.error.inj same]
          exact Or.inl raises
        · exact Or.inr goesOn

/-- A call, and what goes on with its value. -/
theorem runs_perform_bind
    {call : Call} {next : Answer call -> Program Call Answer β} {result : Except Exn β} :
    (Program.perform call >>= next).Runs trace result ↔
      (∃ exc, result = .error exc ∧ trace = [⟨call, .error exc⟩]) ∨
        ∃ value rest, trace = ⟨call, .ok value⟩ :: rest ∧ (next value).Runs rest result := by
  rw [runs_bind]
  apply or_congr
  · exact exists_congr fun exc => and_congr_right fun _ => runs_perform
  · constructor
    · rintro ⟨first, rest, value, rfl, calls, runs⟩
      rw [runs_perform.mp calls]
      exact ⟨value, rest, rfl, runs⟩
    · rintro ⟨value, rest, rfl, runs⟩
      exact ⟨[_], rest, value, rfl, runs_perform.mpr rfl, runs⟩

/-- How a `try` with an `except Exception` clause runs. -/
theorem runs_tryExcept
    {program : Program Call Answer α} {handler : Exn -> Program Call Answer α}
    {result : Except Exn α} :
    (program.tryExcept handler).Runs trace result ↔
      (∃ value, result = .ok value ∧ program.Runs trace (.ok value)) ∨
        (∃ exc, exc.type.isException = false ∧ result = .error exc ∧
          program.Runs trace (.error exc)) ∨
        ∃ first second exc, trace = first ++ second ∧ exc.type.isException = true ∧
          program.Runs first (.error exc) ∧ (handler exc).Runs second result := by
  unfold Program.tryExcept
  rw [runs_handle]
  constructor
  · rintro ⟨first, second, middle, rfl, runs, continues⟩
    cases middle with
    | ok value =>
        obtain ⟨rfl, rfl⟩ := runs_done.mp continues
        rw [List.append_nil]
        exact Or.inl ⟨value, rfl, runs⟩
    | error exc =>
        dsimp only at continues
        split at continues
        case isTrue caught =>
          exact Or.inr (Or.inr ⟨first, second, exc, rfl, caught, runs, continues⟩)
        case isFalse uncaught =>
          obtain ⟨rfl, rfl⟩ := runs_done.mp continues
          rw [List.append_nil]
          exact Or.inr (Or.inl ⟨exc, Bool.eq_false_iff.mpr uncaught, rfl, runs⟩)
  · rintro (⟨value, rfl, runs⟩ | ⟨exc, uncaught, rfl, runs⟩ |
      ⟨first, second, exc, rfl, caught, runs, continues⟩)
    · exact ⟨trace, [], .ok value, (List.append_nil trace).symm, runs, Runs.done⟩
    · refine ⟨trace, [], .error exc, (List.append_nil trace).symm, runs, ?_⟩
      dsimp only
      rw [if_neg (Bool.eq_false_iff.mp uncaught)]
      exact Runs.done
    · refine ⟨first, second, .error exc, rfl, runs, ?_⟩
      dsimp only
      rwa [if_pos caught]

/-- What a `finally` clause leaves of the result of its block. -/
def finish (result : Except Exn α) : Except Exn Unit -> Except Exn α
  | .ok _ => result
  | .error exc => .error exc

/-- How a `try` with a `finally` clause runs. -/
theorem runs_tryFinally
    {program : Program Call Answer α} {clause : Program Call Answer Unit}
    {result : Except Exn α} :
    (program.tryFinally clause).Runs trace result ↔
      ∃ first second middle ends, trace = first ++ second ∧ program.Runs first middle ∧
        clause.Runs second ends ∧ result = finish middle ends := by
  unfold Program.tryFinally
  rw [runs_handle]
  constructor
  · rintro ⟨first, rest, middle, rfl, runs, leaves⟩
    obtain ⟨second, last, ends, rfl, clauseRuns, finishes⟩ := runs_handle.mp leaves
    cases ends with
    | ok value =>
        obtain ⟨rfl, rfl⟩ := runs_done.mp finishes
        rw [List.append_nil]
        exact ⟨first, second, _, .ok value, rfl, runs, clauseRuns, rfl⟩
    | error exc =>
        obtain ⟨rfl, rfl⟩ := runs_done.mp finishes
        rw [List.append_nil]
        exact ⟨first, second, middle, .error exc, rfl, runs, clauseRuns, rfl⟩
  · rintro ⟨first, second, middle, ends, rfl, runs, clauseRuns, rfl⟩
    refine ⟨first, second, middle, rfl, runs, ?_⟩
    rw [runs_handle]
    refine ⟨second, [], ends, (List.append_nil second).symm, clauseRuns, ?_⟩
    cases ends with
    | ok value => exact Runs.done
    | error exc => exact Runs.done

end Sequence

/-! ## Passive programs -/

/-- The trace ends with a call that raised the exception. -/
def EndsRaising (trace : List (Exchange Call Answer)) (exc : Exn) : Prop :=
  ∃ before call, trace = before ++ [⟨call, .error exc⟩]

theorem EndsRaising.single (call : Call) (exc : Exn) :
    EndsRaising [(⟨call, .error exc⟩ : Exchange Call Answer)] exc :=
  ⟨[], call, rfl⟩

theorem EndsRaising.cons
    {trace : List (Exchange Call Answer)} {exc : Exn}
    (ends : EndsRaising trace exc)
    (step : Exchange Call Answer) :
    EndsRaising (step :: trace) exc := by
  obtain ⟨earlier, call, rfl⟩ := ends
  exact ⟨step :: earlier, call, rfl⟩

theorem EndsRaising.append_left
    {trace : List (Exchange Call Answer)} {exc : Exn}
    (ends : EndsRaising trace exc)
    (before : List (Exchange Call Answer)) :
    EndsRaising (before ++ trace) exc := by
  obtain ⟨earlier, call, rfl⟩ := ends
  exact ⟨before ++ earlier, call, (List.append_assoc _ _ _).symm⟩

/-- Every run that raises ends with the call that raised, which is one of these. -/
def RaisesOnly (allowed : Call -> Exn -> Prop) (program : Program Call Answer α) : Prop :=
  ∀ trace exc, program.Runs trace (.error exc) ->
    ∃ before call, trace = before ++ [⟨call, .error exc⟩] ∧ allowed call exc

namespace RaisesOnly

variable {allowed : Call -> Exn -> Prop}

theorem done (value : α) :
    RaisesOnly allowed (Pure.pure value : Program Call Answer α) := by
  intro trace exc runs
  obtain ⟨_, impossible⟩ := runs_done.mp runs
  cases impossible

theorem perform
    {call : Call}
    (may : ∀ exc, allowed call exc) :
    RaisesOnly allowed (Program.perform call : Program Call Answer (Answer call)) := by
  intro trace exc runs
  rw [runs_perform.mp runs]
  exact ⟨[], call, rfl, may exc⟩

theorem bind
    {program : Program Call Answer α} {next : α -> Program Call Answer β}
    (first : RaisesOnly allowed program)
    (second : ∀ value, RaisesOnly allowed (next value)) :
    RaisesOnly allowed (program >>= next) := by
  intro trace exc runs
  rcases runs_bind_error.mp runs with raises | ⟨earlier, later, middle, rfl, _, raises⟩
  · exact first trace exc raises
  · obtain ⟨before, call, rfl, may⟩ := second middle later exc raises
    exact ⟨earlier ++ before, call, (List.append_assoc _ _ _).symm, may⟩

theorem ite
    {condition : Prop} [Decidable condition] {first second : Program Call Answer α}
    (holds : RaisesOnly allowed first)
    (fails : RaisesOnly allowed second) :
    RaisesOnly allowed (if condition then first else second) := by
  split
  case isTrue => exact holds
  case isFalse => exact fails

/-- A handler passes on what it does not catch, and what it raises itself. -/
theorem tryExcept
    {program : Program Call Answer α} {handler : Exn -> Program Call Answer α}
    {inner : Call -> Exn -> Prop}
    (body : RaisesOnly inner program)
    (uncaught : ∀ call exc, inner call exc -> exc.type.isException = false -> allowed call exc)
    (handles : ∀ exc, RaisesOnly allowed (handler exc)) :
    RaisesOnly allowed (program.tryExcept handler) := by
  intro trace exc runs
  rcases runs_tryExcept.mp runs with
    ⟨_, impossible, _⟩ | ⟨other, passes, same, raises⟩ |
      ⟨first, second, other, rfl, _, _, raises⟩
  · cases impossible
  · cases same
    obtain ⟨before, call, rfl, may⟩ := body trace exc raises
    exact ⟨before, call, rfl, uncaught call exc may passes⟩
  · obtain ⟨before, call, rfl, may⟩ := handles other second exc raises
    exact ⟨first ++ before, call, (List.append_assoc _ _ _).symm, may⟩

end RaisesOnly

/-- Whatever the call that has raised. -/
abbrev Passive (program : Program Call Answer α) : Prop :=
  RaisesOnly (fun _ _ => True) program

namespace Passive

theorem perform (call : Call) :
    Passive (Program.perform call : Program Call Answer (Answer call)) :=
  RaisesOnly.perform fun _ => trivial

theorem ends
    {program : Program Call Answer α} {trace : List (Exchange Call Answer)} {exc : Exn}
    (passive : Passive program)
    (raises : program.Runs trace (.error exc)) :
    EndsRaising trace exc := by
  obtain ⟨before, call, rfl, _⟩ := passive trace exc raises
  exact ⟨before, call, rfl⟩

theorem embed
    {Wider : Type} {WiderAnswer : Wider -> Type}
    {program : Program Call Answer α}
    (passive : Passive program)
    (embedding : Embedding Call Answer Wider WiderAnswer) :
    Passive (embedding.embed program) := by
  intro trace exc runs
  obtain ⟨inner, rfl, raises⟩ := embedding.runs_embed.mp runs
  obtain ⟨before, call, rfl⟩ := passive.ends raises
  have same : embedding.lift ⟨call, .error exc⟩ = ⟨embedding.call call, .error exc⟩ := by
    rw [Embedding.lift]
    congr 1
    have casts : ∀ (Other : Type) (equal : Answer call = Other),
        cast (congrArg (Except Exn) equal) (.error exc : Except Exn (Answer call)) =
          (.error exc : Except Exn Other) := by
      rintro Other rfl
      rfl
    exact casts _ (embedding.answer call).symm
  refine ⟨before.map embedding.lift, embedding.call call, ?_, trivial⟩
  rw [List.map_append, List.map_singleton, same]

end Passive
end Program
end Foundation
end BoschBle
