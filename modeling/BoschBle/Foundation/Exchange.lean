import BoschBle.Foundation.Transition

/-!
# Exchanges of messages

Messages are in flight and are delivered in any order.  A delivered message is
answered by messages of the next round.  Where no answer is answered itself,
the exchange ends after the round of the answers.
-/

namespace BoschBle
namespace Foundation
namespace Exchange

variable {μ : Type} (answer : μ -> List μ)

/-- Messages in flight, each with the number of answers it goes back to. -/
abbrev InFlight (μ : Type) : Type := List (Nat × μ)

/-- The messages that open an exchange. -/
def start (initial : List μ) : InFlight μ :=
  initial.map fun message => (0, message)

/-- Deliver the message at an index and send its answers. -/
def deliver (inFlight : InFlight μ) (index : Nat) : Option (InFlight μ) :=
  match inFlight[index]? with
  | none => none
  | some (round, message) =>
      some (inFlight.eraseIdx index ++
        (answer message).map fun reply => (round + 1, reply))

/-- No answer is answered. -/
def AnswersOnce : Prop :=
  ∀ message, ∀ reply ∈ answer message, answer reply = []

/-- How many deliveries are left. -/
def remaining : InFlight μ -> Nat
  | [] => 0
  | (_, message) :: rest => 1 + (answer message).length + remaining rest

theorem remaining_append (first second : InFlight μ) :
    remaining answer (first ++ second) =
      remaining answer first + remaining answer second := by
  induction first with
  | nil => rw [List.nil_append, remaining, Nat.zero_add]
  | cons message rest inductionHypothesis =>
      rw [List.cons_append, remaining, remaining, inductionHypothesis]
      omega

theorem remaining_start (initial : List μ) :
    remaining answer (start initial) =
      initial.length + (initial.flatMap answer).length := by
  induction initial with
  | nil => rfl
  | cons message rest inductionHypothesis =>
      rw [start] at inductionHypothesis
      rw [start, List.map_cons, remaining, inductionHypothesis, List.length_cons,
        List.flatMap_cons, List.length_append]
      omega

/-- Taking a message out takes its delivery and its answers off the rest. -/
theorem remaining_eraseIdx
    {inFlight : InFlight μ} {index round : Nat} {message : μ}
    (present : inFlight[index]? = some (round, message)) :
    remaining answer inFlight =
      1 + (answer message).length + remaining answer (inFlight.eraseIdx index) := by
  induction inFlight generalizing index with
  | nil => cases present
  | cons first rest inductionHypothesis =>
      cases index with
      | zero =>
          cases present
          rfl
      | succ index =>
          rw [List.getElem?_cons_succ] at present
          rw [List.eraseIdx_cons_succ, remaining, remaining,
            inductionHypothesis present]
          omega

theorem remaining_replies
    {replies : List μ}
    (round : Nat)
    (unanswered : ∀ reply ∈ replies, answer reply = []) :
    remaining answer (replies.map fun reply => (round, reply)) =
      replies.length := by
  induction replies with
  | nil => rfl
  | cons reply rest inductionHypothesis =>
      rw [List.forall_mem_cons] at unanswered
      rw [List.map_cons, remaining, unanswered.1,
        inductionHypothesis unanswered.2, List.length_cons, List.length_nil]
      omega

/-- A message in flight opens the exchange, or it answers one that does. -/
def FirstRound (initial : List μ) (entry : Nat × μ) : Prop :=
  entry.1 = 0 ∧ entry.2 ∈ initial ∨
    entry.1 = 1 ∧ entry.2 ∈ initial.flatMap answer

variable {answer}

/-- A delivery takes one step off the exchange and stays in its first round. -/
theorem deliver_firstRound
    (once : AnswersOnce answer)
    {initial : List μ} {before after : InFlight μ} {index : Nat}
    (rounds : ∀ entry ∈ before, FirstRound answer initial entry)
    (delivers : deliver answer before index = some after) :
    (∀ entry ∈ after, FirstRound answer initial entry) ∧
      remaining answer before = remaining answer after + 1 := by
  unfold deliver at delivers
  split at delivers
  · cases delivers
  · rename_i round message present
    cases delivers
    have entryRound := rounds _ (List.mem_of_getElem? present)
    constructor
    · rw [List.forall_mem_append]
      constructor
      · intro entry kept
        exact rounds entry (List.mem_of_mem_eraseIdx kept)
      · intro entry isReply
        obtain ⟨reply, answers, rfl⟩ := List.mem_map.mp isReply
        rcases entryRound with ⟨zero, opens⟩ | ⟨_, answersInitial⟩
        · refine Or.inr ⟨congrArg (· + 1) zero, ?_⟩
          exact List.mem_flatMap.mpr ⟨message, opens, answers⟩
        · obtain ⟨opening, _, isAnswer⟩ := List.mem_flatMap.mp answersInitial
          rw [once opening message isAnswer] at answers
          cases answers
    · rw [remaining_append, remaining_replies answer _ (once message),
        remaining_eraseIdx answer present]
      omega

/-- Whatever the order of the deliveries, an exchange whose answers are not
answered has one round of answers and ends. -/
theorem run_firstRound
    (once : AnswersOnce answer)
    {initial : List μ} {events : List Nat} {final : InFlight μ}
    (run : Run (deliver answer) (fun _ _ => True) (start initial) events final) :
    (∀ entry ∈ final, FirstRound answer initial entry) ∧
      events.length + remaining answer final =
        initial.length + (initial.flatMap answer).length := by
  induction run with
  | nil =>
      constructor
      · intro entry present
        obtain ⟨message, opens, rfl⟩ := List.mem_map.mp present
        exact Or.inl ⟨rfl, opens⟩
      · rw [List.length_nil, Nat.zero_add, remaining_start]
  | snoc _ _ delivers inductionHypothesis =>
      obtain ⟨rounds, count⟩ := inductionHypothesis
      obtain ⟨afterRounds, decreases⟩ := deliver_firstRound once rounds delivers
      refine ⟨afterRounds, ?_⟩
      rw [List.length_append, List.length_singleton]
      omega

end Exchange
end Foundation
end BoschBle
