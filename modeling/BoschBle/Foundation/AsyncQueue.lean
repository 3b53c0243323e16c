import BoschBle.Foundation.Effect
import Mathlib.Data.List.Infix

/-!
# A first-in first-out queue with unfinished-task accounting

Putting an item counts one unfinished task and `taskDone` takes one off the
count.  A join waits until the count is zero; it is a task of its own, which is
woken by the `taskDone` that reaches zero and then ends whatever is put
afterwards.  The history of everything ever put is kept along.
-/

namespace BoschBle
namespace Foundation

/-- An unbounded queue. -/
structure AsyncQueue (α : Type) where
  /-- The items that wait to be taken, oldest first. -/
  items : List α
  /-- The number of items put for which no task was reported done. -/
  unfinished : Nat
  /-- Everything ever put, oldest first. -/
  history : List α
  /-- Items leave at the front, so those that wait are the last ones put. -/
  items_suffix : items <:+ history

namespace AsyncQueue

/-- The queue into which nothing was put. -/
def empty : AsyncQueue α where
  items := []
  unfinished := 0
  history := []
  items_suffix := List.suffix_rfl

/-- Put an item at the end. -/
def putNowait (queue : AsyncQueue α) (item : α) : AsyncQueue α where
  items := queue.items ++ [item]
  unfinished := queue.unfinished + 1
  history := queue.history ++ [item]
  items_suffix := List.suffix_append_inj_of_length_eq (by simp) |>.mpr
    ⟨queue.items_suffix, rfl⟩

/-- Put a list of items in order. -/
def putAll (queue : AsyncQueue α) (items : List α) : AsyncQueue α :=
  items.foldl putNowait queue

/-- Take the first item, if there is one. -/
def getNowait (queue : AsyncQueue α) : Option (α × AsyncQueue α) :=
  match waiting : queue.items with
  | [] => none
  | item :: rest =>
      some (item,
        { queue with
          items := rest
          items_suffix := by
            have suffix := queue.items_suffix
            rw [waiting] at suffix
            exact (List.suffix_cons item rest).trans suffix })

/-- Report one task done. -/
def taskDone (queue : AsyncQueue α) : Except Exn (AsyncQueue α) :=
  if queue.unfinished = 0 then
    .error ⟨.valueError, "task_done() called too many times"⟩
  else
    .ok { queue with unfinished := queue.unfinished - 1 }

@[simp] theorem items_putNowait (queue : AsyncQueue α) (item : α) :
    (queue.putNowait item).items = queue.items ++ [item] := rfl

@[simp] theorem unfinished_putNowait (queue : AsyncQueue α) (item : α) :
    (queue.putNowait item).unfinished = queue.unfinished + 1 := rfl

@[simp] theorem history_putNowait (queue : AsyncQueue α) (item : α) :
    (queue.putNowait item).history = queue.history ++ [item] := rfl

@[simp] theorem putAll_nil (queue : AsyncQueue α) : queue.putAll [] = queue :=
  rfl

/-- Putting a list appends it to the waiting items and to the history. -/
theorem putAll_fields (queue : AsyncQueue α) (items : List α) :
    (queue.putAll items).items = queue.items ++ items ∧
      (queue.putAll items).unfinished = queue.unfinished + items.length ∧
      (queue.putAll items).history = queue.history ++ items := by
  induction items generalizing queue with
  | nil => simp
  | cons item rest inductionHypothesis =>
      obtain ⟨items_eq, unfinished_eq, history_eq⟩ :=
        inductionHypothesis (queue.putNowait item)
      change (queue.putNowait item |>.putAll rest).items = _ ∧
        (queue.putNowait item |>.putAll rest).unfinished = _ ∧
        (queue.putNowait item |>.putAll rest).history = _
      rw [items_eq, unfinished_eq, history_eq, items_putNowait,
        unfinished_putNowait, history_putNowait, List.length_cons]
      refine ⟨?_, by omega, ?_⟩
      · rw [List.append_assoc, List.singleton_append]
      · rw [List.append_assoc, List.singleton_append]

@[simp] theorem items_putAll (queue : AsyncQueue α) (items : List α) :
    (queue.putAll items).items = queue.items ++ items :=
  (queue.putAll_fields items).1

@[simp] theorem unfinished_putAll (queue : AsyncQueue α) (items : List α) :
    (queue.putAll items).unfinished = queue.unfinished + items.length :=
  (queue.putAll_fields items).2.1

@[simp] theorem history_putAll (queue : AsyncQueue α) (items : List α) :
    (queue.putAll items).history = queue.history ++ items :=
  (queue.putAll_fields items).2.2

theorem putAll_append (queue : AsyncQueue α) (first second : List α) :
    queue.putAll (first ++ second) = (queue.putAll first).putAll second :=
  List.foldl_append

/-- Taking an item removes the head and touches nothing else. -/
theorem getNowait_eq_some
    {queue after : AsyncQueue α} {item : α}
    (gets : queue.getNowait = some (item, after)) :
    queue.items = item :: after.items ∧
      after.unfinished = queue.unfinished ∧
      after.history = queue.history := by
  unfold getNowait at gets
  split at gets
  case h_1 => cases gets
  case h_2 first rest waiting =>
    cases gets
    exact ⟨waiting, rfl, rfl⟩

theorem getNowait_isSome_iff {queue : AsyncQueue α} :
    queue.getNowait.isSome ↔ queue.items ≠ [] := by
  unfold getNowait
  split
  case h_1 waiting => simp [waiting]
  case h_2 waiting => simp [waiting]

theorem taskDone_of_pos
    {queue : AsyncQueue α}
    (positive : 0 < queue.unfinished) :
    queue.taskDone =
      .ok { queue with unfinished := queue.unfinished - 1 } := by
  rw [taskDone, if_neg (by omega)]

end AsyncQueue

/-- A task that runs the join of a queue. -/
inductive JoinTask
  | created
  | waiting
  | woken
  | done
  deriving DecidableEq

namespace JoinTask

/-- Whether the task has a step to take. -/
def poll (unfinished : Nat) : JoinTask -> Option JoinTask
  | .created => some (if unfinished = 0 then .done else .waiting)
  | .woken => some .done
  | .waiting | .done => none

/-- The count of unfinished tasks reached zero. -/
def wake : JoinTask -> JoinTask
  | .waiting => .woken
  | other => other

/-- A join starts to wait only where something is unfinished. -/
theorem pos_of_poll_waiting
    {unfinished : Nat} {join : JoinTask}
    (polls : join.poll unfinished = some .waiting) : 0 < unfinished := by
  cases join with
  | created =>
      simp only [poll, Option.some.injEq] at polls
      split at polls
      case isTrue => cases polls
      case isFalse more => exact Nat.pos_of_ne_zero more
  | woken => cases polls
  | waiting => cases polls
  | done => cases polls

/-- A join is over where it finds nothing unfinished, or where it was woken. -/
theorem poll_eq_some
    {unfinished : Nat} {join polled : JoinTask}
    (polls : join.poll unfinished = some polled) :
    polled = .waiting ∨ polled = .done ∧ (unfinished = 0 ∨ join = .woken) := by
  cases join with
  | created =>
      simp only [poll, Option.some.injEq] at polls
      split at polls
      case isTrue none => exact Or.inr ⟨polls.symm, Or.inl none⟩
      case isFalse => exact Or.inl polls.symm
  | woken =>
      cases polls
      exact Or.inr ⟨rfl, Or.inr rfl⟩
  | waiting => cases polls
  | done => cases polls

end JoinTask

/-- A future: unresolved, resolved with a value, or cancelled. -/
inductive Future (α : Type)
  | pending
  | resolved (value : α)
  | cancelled
  deriving DecidableEq

/-- Whether a future is resolved or cancelled. -/
def Future.done : Future α -> Bool
  | .pending => false
  | _ => true

@[simp] theorem Future.done_resolved (value : α) :
    (Future.resolved value).done = true := rfl

@[simp] theorem Future.done_cancelled :
    (Future.cancelled : Future α).done = true := rfl

end Foundation
end BoschBle
