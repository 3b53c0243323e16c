import Mathlib.Data.List.Induction

/-!
# Registers written by events

A register keeps the last value that an event has written.  Its value after a
run depends on the events of its own stream only, so not on how the events of
other streams are interleaved with them.  A latch is a register that is not
written again once it holds an item of a certain kind.
-/

namespace BoschBle
namespace Foundation

/-- The last value that a list of events writes. -/
def lastWritten (written : ι -> Option τ) (events : List ι) : Option τ :=
  (events.filterMap written).getLast?

theorem lastWritten_append_singleton
    (written : ι -> Option τ)
    (events : List ι)
    (event : ι) :
    lastWritten written (events ++ [event]) =
      (written event).or (lastWritten written events) := by
  unfold lastWritten
  rw [List.filterMap_append]
  cases write : written event with
  | none => simp [write]
  | some value => simp [write]

/-- A register that stores a function of what is written. -/
theorem lastWritten_map
    (written : ι -> Option τ)
    (store : τ -> υ)
    (events : List ι) :
    lastWritten (fun event => (written event).map store) events =
      (lastWritten written events).map store := by
  unfold lastWritten
  rw [← List.getLast?_map, List.map_filterMap]

/-- A part of the state that every event overwrites or keeps holds the last
written value. -/
theorem foldl_register
    (observe : σ -> τ)
    {step : σ -> ι -> σ}
    {written : ι -> Option τ}
    (writes : ∀ state event,
      observe (step state event) = (written event).getD (observe state))
    (start : σ)
    (events : List ι) :
    observe (events.foldl step start) =
      (lastWritten written events).getD (observe start) := by
  induction events using List.reverseRecOn with
  | nil => rfl
  | append_singleton events event inductionHypothesis =>
      rw [List.foldl_append, List.foldl_cons, List.foldl_nil, writes,
        inductionHypothesis, lastWritten_append_singleton]
      cases written event <;> rfl

/-- What is written by the events of one stream depends on that stream only. -/
theorem lastWritten_eq_of_filter
    {written : ι -> Option τ}
    {inStream : ι -> Bool}
    (own : ∀ event value, written event = some value -> inStream event = true)
    {left right : List ι}
    (same : left.filter inStream = right.filter inStream) :
    lastWritten written left = lastWritten written right := by
  have restricted (events : List ι) :
      (events.filter inStream).filterMap written = events.filterMap written := by
    rw [List.filterMap_filter]
    congr 1
    funext event
    cases write : written event with
    | none => simp
    | some value => simp [own event value write]
  rw [lastWritten, lastWritten, ← restricted left, same, restricted right]

/-- The first item of a kind, or the last item where there is none of it. -/
def firstOrLast (kind : ι -> Bool) (items : List ι) : Option ι :=
  (items.find? kind).or items.getLast?

/-- What a latch holds after one more item. -/
theorem firstOrLast_append_singleton
    (kind : ι -> Bool)
    (items : List ι)
    (item : ι) :
    firstOrLast kind (items ++ [item]) =
      if items.any kind then firstOrLast kind items else some item := by
  unfold firstOrLast
  rw [List.find?_append]
  cases found : items.find? kind with
  | none =>
      have noneOf : items.any kind = false := by
        rw [List.any_eq_false]
        exact List.find?_eq_none.mp found
      rw [noneOf]
      cases isKind : kind item with
      | true => simp [isKind]
      | false => simp [isKind]
  | some first =>
      have someOf : items.any kind = true := by
        rw [List.any_eq_true]
        exact ⟨first, List.mem_of_find?_eq_some found, List.find?_some found⟩
      rw [someOf]
      rfl

theorem firstOrLast_isSome
    (kind : ι -> Bool)
    (items : List ι) :
    (firstOrLast kind items).isSome = true ↔ items ≠ [] := by
  unfold firstOrLast
  cases items with
  | nil => simp
  | cons item rest => simp [List.getLast?_cons]

theorem mem_of_firstOrLast
    {kind : ι -> Bool} {items : List ι} {item : ι}
    (held : firstOrLast kind items = some item) :
    item ∈ items := by
  unfold firstOrLast at held
  rcases Option.or_eq_some_iff.mp held with found | ⟨_, last⟩
  · exact List.mem_of_find?_eq_some found
  · exact List.mem_of_getLast? last

/-- A latch holds an item of the kind exactly when there is one. -/
theorem firstOrLast_kind
    {kind : ι -> Bool} {items : List ι} {item : ι}
    (held : firstOrLast kind items = some item) :
    kind item = true ↔ items.any kind = true := by
  rw [List.any_eq_true]
  constructor
  · intro isKind
    exact ⟨item, mem_of_firstOrLast held, isKind⟩
  · rintro ⟨other, present, isKind⟩
    unfold firstOrLast at held
    cases found : items.find? kind with
    | none => exact absurd isKind (List.find?_eq_none.mp found other present)
    | some first =>
        rw [found, Option.some_or, Option.some.injEq] at held
        rw [← held]
        exact List.find?_some found

end Foundation
end BoschBle
