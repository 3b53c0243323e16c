import BoschBle.Foundation.Interaction

/-!
# Programs of an environment within a wider one

An embedding takes the calls of an environment for calls of a wider one with the
same answers.  A program then runs in the wider environment as it does in its own:
the runs of the embedded program are the runs of the program, exchange by exchange.
-/

namespace BoschBle
namespace Foundation

/-- Calls of one environment as calls of another. -/
structure Embedding
    (Call : Type) (Answer : Call -> Type)
    (Wider : Type) (WiderAnswer : Wider -> Type) where
  call : Call -> Wider
  /-- The calls have the same answers there. -/
  answer : ∀ inner, WiderAnswer (call inner) = Answer inner

namespace Embedding

variable {Call : Type} {Answer : Call -> Type}
  {Wider : Type} {WiderAnswer : Wider -> Type}
  (embedding : Embedding Call Answer Wider WiderAnswer)

theorem answers (inner : Call) :
    Except Exn (WiderAnswer (embedding.call inner)) = Except Exn (Answer inner) :=
  congrArg (Except Exn) (embedding.answer inner)

/-- An exchange of the inner environment in the wider one. -/
def lift (step : Exchange Call Answer) : Exchange Wider WiderAnswer :=
  ⟨embedding.call step.call, cast (embedding.answers step.call).symm step.answer⟩

/-- A program of the inner environment in the wider one. -/
def embed : Program Call Answer α -> Program Wider WiderAnswer α
  | .done result => .done result
  | .ask inner next =>
      .ask (embedding.call inner) fun answer =>
        embed (next (cast (embedding.answers inner) answer))

@[simp] theorem embed_done (result : Except Exn α) :
    embedding.embed (.done result : Program Call Answer α) = .done result :=
  rfl

/-- An environment within itself. -/
def refl : Embedding Call Answer Call Answer where
  call := id
  answer := fun _ => rfl

@[simp] theorem embed_refl (program : Program Call Answer α) : refl.embed program = program := by
  induction program with
  | done result => rfl
  | ask inner next inductionHypothesis =>
      rw [embed]
      congr 1
      funext answer
      exact inductionHypothesis answer

/-! ## Runs -/

section Runs

variable {program : Program Call Answer α} {result : Except Exn α}

theorem runs_lift
    {trace : List (Exchange Call Answer)}
    (runs : program.Runs trace result) :
    (embedding.embed program).Runs (trace.map embedding.lift) result := by
  induction runs with
  | done => exact Program.Runs.done
  | @ask inner next answer rest result _ inductionHypothesis =>
      have same : cast (embedding.answers inner)
          (cast (embedding.answers inner).symm answer) = answer :=
        (cast_cast _ _ _).trans (cast_eq _ _)
      apply Program.Runs.ask
      change (embedding.embed (next (cast (embedding.answers inner)
        (cast (embedding.answers inner).symm answer)))).Runs _ _
      rw [same]
      exact inductionHypothesis

/-- The runs of an embedded program are the runs of the program. -/
theorem runs_embed {trace : List (Exchange Wider WiderAnswer)} :
    (embedding.embed program).Runs trace result ↔
      ∃ inner, trace = inner.map embedding.lift ∧ program.Runs inner result := by
  constructor
  · intro runs
    induction program generalizing trace with
    | done given =>
        obtain ⟨rfl, rfl⟩ := Program.runs_done.mp runs
        exact ⟨[], rfl, Program.Runs.done⟩
    | ask inner next inductionHypothesis =>
        obtain ⟨answer, rest, rfl, remaining⟩ := Program.runs_ask.mp runs
        obtain ⟨steps, rfl, innerRuns⟩ := inductionHypothesis _ remaining
        refine ⟨⟨inner, cast (embedding.answers inner) answer⟩ :: steps, ?_,
          Program.Runs.ask innerRuns⟩
        have same : cast (embedding.answers inner).symm
            (cast (embedding.answers inner) answer) = answer :=
          (cast_cast _ _ _).trans (cast_eq _ _)
        rw [List.map_cons, lift, same]
  · rintro ⟨inner, rfl, runs⟩
    exact embedding.runs_lift runs

end Runs

/-- What is said of every call of a program is said of its calls in the wider
environment. -/
theorem only_embed
    {property : Call -> Prop} {wider : Wider -> Prop}
    {program : Program Call Answer α}
    (only : Program.Only property program)
    (implies : ∀ inner, property inner -> wider (embedding.call inner)) :
    Program.Only wider (embedding.embed program) := by
  induction program with
  | done result => exact trivial
  | ask inner next inductionHypothesis =>
      exact ⟨implies inner only.1, fun answer => inductionHypothesis _ (only.2 _)⟩

end Embedding
end Foundation
end BoschBle
