import BoschBle.Foundation.Monitor

/-!
# Loops of programs

A loop over a list runs a body for each item.  Attempts run a body again where its
exception says that another attempt may succeed, with a pause before the next attempt
and at most a given number of times.
-/

namespace BoschBle
namespace Foundation
namespace Program

variable {Call : Type} {Answer : Call -> Type}

/-! ## Loops over lists -/

section Loop

variable {ι : Type}

/-- `for item in items`. -/
def forEach (body : ι -> Program Call Answer Unit) : List ι -> Program Call Answer Unit
  | [] => Pure.pure ()
  | item :: rest => do
      body item
      forEach body rest

variable {body : ι -> Program Call Answer Unit}

theorem forEach_append (first second : List ι) :
    forEach body (first ++ second) = (do
      forEach body first
      forEach body second) := by
  induction first with
  | nil => rfl
  | cons item first inductionHypothesis =>
      rw [List.cons_append, forEach, forEach, inductionHypothesis, bind_assoc]

theorem forEach_flatMap (expand : κ -> List ι) (items : List κ) :
    forEach body (items.flatMap expand) =
      forEach (fun item => forEach body (expand item)) items := by
  induction items with
  | nil => rfl
  | cons item items inductionHypothesis =>
      rw [List.flatMap_cons, forEach_append, inductionHypothesis, forEach]

/-- A loop that returns has run its body for each item in turn. -/
theorem runs_forEach_ok {items : List ι} {trace : List (Exchange Call Answer)} :
    (forEach body items).Runs trace (.ok ()) ↔
      ∃ blocks, trace = blocks.flatten ∧
        List.Forall₂ (fun item block => (body item).Runs block (.ok ())) items blocks := by
  induction items generalizing trace with
  | nil =>
      constructor
      · intro runs
        exact ⟨[], (runs_done.mp runs).1, List.Forall₂.nil⟩
      · rintro ⟨blocks, rfl, each⟩
        cases each
        exact Runs.done
  | cons item items inductionHypothesis =>
      rw [forEach, runs_bind_ok]
      constructor
      · rintro ⟨block, rest, _, rfl, runs, loops⟩
        obtain ⟨blocks, rfl, each⟩ := inductionHypothesis.mp loops
        exact ⟨block :: blocks, rfl, List.Forall₂.cons runs each⟩
      · rintro ⟨_, rfl, each⟩
        cases each with
        | @cons _ block _ blocks runs each =>
            exact ⟨block, blocks.flatten, (), rfl, runs,
              inductionHypothesis.mpr ⟨blocks, rfl, each⟩⟩

theorem raisesOnly_forEach
    {allowed : Call -> Exn -> Prop} {items : List ι}
    (each : ∀ item ∈ items, RaisesOnly allowed (body item)) :
    RaisesOnly allowed (forEach body items) := by
  induction items with
  | nil => exact RaisesOnly.done ()
  | cons item items inductionHypothesis =>
      rw [List.forall_mem_cons] at each
      exact each.1.bind fun _ => inductionHypothesis each.2

/-- What each pass keeps, the loop keeps. -/
theorem keeps_forEach
    {monitor : Monitor Call Answer σ} {holds : σ -> Prop} {items : List ι}
    (each : ∀ item ∈ items, monitor.Keeps holds (body item)) :
    monitor.Keeps holds (forEach body items) := by
  induction items with
  | nil => exact Monitor.Keeps.done _
  | cons item items inductionHypothesis =>
      rw [List.forall_mem_cons] at each
      exact each.1.bind fun _ => inductionHypothesis each.2

end Loop

/-! ## Attempts -/

section Retry

variable {γ : Type} (again : Exn -> Option γ) (pause : Nat -> γ -> Program Call Answer Unit)
  (body : Program Call Answer α)

/-- Run the body, and again at most so many times.  The attempts are numbered. -/
def retry : Nat -> Nat -> Program Call Answer α
  | 0, _ => body
  | left + 1, attempt =>
      body.tryExcept fun exc =>
        match again exc with
        | none => raise exc
        | some reason => do
            pause attempt reason
            retry left (attempt + 1)

variable {again pause body}

/-- Attempts that each start idle, with what a failed one leaves for its pause. -/
theorem checks_retry
    {monitor : Monitor Call Answer σ} {post : σ -> Except Exn α -> Prop}
    {idle failed : Nat -> σ -> Prop} {last : Nat}
    (attempts : ∀ attempt state, idle attempt state ->
      monitor.Checks (fun after result => post after result ∧
        ∀ exc, result = .error exc -> failed attempt after) body state)
    (pauses : ∀ attempt state reason, attempt < last -> failed attempt state ->
      monitor.Checks (fun after result =>
        (result = .ok () -> idle (attempt + 1) after) ∧
          ∀ exc, result = .error exc -> post after (.error exc)) (pause attempt reason) state)
    {state : σ} {attempt : Nat}
    (start : idle attempt state)
    {left : Nat}
    (total : attempt + left = last) :
    monitor.Checks post (retry again pause body left attempt) state := by
  induction left generalizing state attempt with
  | zero => exact (attempts attempt state start).mono fun _ _ holds => holds.1
  | succ left inductionHypothesis =>
      apply (attempts attempt state start).tryExcept
      · intro after value holds
        exact holds.1
      · intro after exc holds _
        exact holds.1
      · intro after exc holds _
        split
        case h_1 => exact holds.1
        case h_2 reason _ =>
          apply (pauses attempt after reason (by omega) (holds.2 exc rfl)).bind
          · intro later _ paused
            exact inductionHypothesis (paused.1 rfl) (by omega)
          · intro later other paused
            exact paused.2 other rfl

end Retry
end Program
end Foundation
end BoschBle
