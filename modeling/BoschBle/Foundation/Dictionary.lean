import Mathlib.Data.List.Nodup

/-!
# Dictionaries

A dictionary is a list of keys and values in which every key is once, in the order in
which the keys came in.
-/

namespace BoschBle
namespace Foundation
namespace Dictionary

variable {α β : Type} [DecidableEq α]

/-- A key that is once has its value, wherever it stands. -/
theorem lookup_of_mem
    {entries : List (α × β)} {key : α} {value : β}
    (distinct : (entries.map Prod.fst).Nodup)
    (present : (key, value) ∈ entries) :
    entries.lookup key = some value := by
  rw [List.lookup_eq_some_iff]
  obtain ⟨front, back, rfl⟩ := List.append_of_mem present
  refine ⟨front, back, rfl, ?_⟩
  intro entry inFront
  rw [List.map_append, List.map_cons, List.nodup_append] at distinct
  have differs := distinct.2.2 entry.1 (List.mem_map_of_mem inFront) key List.mem_cons_self
  simpa using differs.symm

/-- What is not a key has no value. -/
theorem lookup_eq_none
    {entries : List (α × β)} {key : α}
    (absent : key ∉ entries.map Prod.fst) :
    entries.lookup key = none := by
  rw [List.lookup_eq_none_iff]
  intro entry present
  rw [bne_iff_ne]
  rintro rfl
  exact absent (List.mem_map_of_mem present)

/-- Removing a key keeps the values of the others. -/
theorem lookup_filter
    {removed key : α}
    (distinct : key ≠ removed)
    (entries : List (α × β)) :
    (entries.filter fun entry => entry.1 ≠ removed).lookup key = entries.lookup key := by
  induction entries with
  | nil => rfl
  | cons entry entries inductionHypothesis =>
      by_cases isRemoved : entry.1 = removed
      case pos =>
        have otherKey : (key == entry.1) = false := by
          rw [isRemoved]
          exact beq_eq_false_iff_ne.mpr distinct
        rw [List.filter_cons_of_neg (by simpa using isRemoved), inductionHypothesis,
          List.lookup_cons, otherKey]
      case neg =>
        rw [List.filter_cons_of_pos (by simpa using isRemoved), List.lookup_cons,
          List.lookup_cons, inductionHypothesis]

/-! ## Setting a value -/

/-- `dictionary[key] = value`, which keeps the place of a key that is there. -/
def setItem (entries : List (α × β)) (key : α) (value : β) :
    List (α × β) :=
  if key ∈ entries.map Prod.fst then
    entries.map fun entry => if entry.1 = key then (key, value) else entry
  else entries ++ [(key, value)]

theorem keys_replaced
    (entries : List (α × β))
    (key : α)
    (value : β) :
    (entries.map fun entry => if entry.1 = key then (key, value) else entry).map Prod.fst =
      entries.map Prod.fst := by
  rw [List.map_map]
  apply List.map_congr_left
  intro entry _
  simp only [Function.comp_apply]
  split
  case isTrue isKey => exact isKey.symm
  case isFalse => rfl

theorem nodup_setItem
    {entries : List (α × β)}
    (distinct : (entries.map Prod.fst).Nodup)
    (key : α)
    (value : β) :
    ((setItem entries key value).map Prod.fst).Nodup := by
  rw [setItem]
  split
  case isTrue =>
    rw [keys_replaced]
    exact distinct
  case isFalse absent =>
    rw [List.map_append, List.nodup_append]
    refine ⟨distinct, List.nodup_singleton _, ?_⟩
    rintro other isKey last isLast rfl
    rw [List.map_singleton, List.mem_singleton] at isLast
    subst isLast
    exact absent isKey

theorem lookup_replaced
    {entries : List (α × β)} {key : α}
    (present : key ∈ entries.map Prod.fst)
    (value : β) :
    (entries.map fun entry => if entry.1 = key then (key, value) else entry).lookup key =
      some value := by
  induction entries with
  | nil => cases present
  | cons entry entries inductionHypothesis =>
      rw [List.map_cons]
      by_cases isKey : entry.1 = key
      case pos => rw [if_pos isKey, List.lookup_cons_self]
      case neg =>
        have inRest : key ∈ entries.map Prod.fst :=
          (List.mem_cons.mp present).resolve_left fun same => isKey same.symm
        have otherKey : (key == entry.1) = false :=
          beq_eq_false_iff_ne.mpr fun same => isKey same.symm
        rw [if_neg isKey, List.lookup_cons, otherKey]
        exact inductionHypothesis inRest

/-- The key has the value, and the others keep theirs. -/
theorem lookup_setItem
    (entries : List (α × β))
    (key : α)
    (value : β)
    (other : α) :
    (setItem entries key value).lookup other =
      if other = key then some value else entries.lookup other := by
  by_cases isKey : other = key
  case pos =>
    rw [if_pos isKey, isKey, setItem]
    split
    case isTrue present => exact lookup_replaced present value
    case isFalse absent =>
      rw [List.lookup_append, lookup_eq_none absent, List.lookup_cons_self]
      rfl
  case neg =>
    have kept : (setItem entries key value).filter (fun entry => entry.1 ≠ key) =
        entries.filter fun entry => entry.1 ≠ key := by
      rw [setItem]
      split
      case isTrue =>
        rw [List.filter_map]
        have unchanged : ∀ entry ∈ entries.filter fun entry => entry.1 ≠ key,
            (if entry.1 = key then (key, value) else entry) = entry := by
          intro entry isOther
          exact if_neg (of_decide_eq_true (List.mem_filter.mp isOther).2)
        have sameFilter : ((fun entry : α × β => decide (entry.1 ≠ key)) ∘ fun entry =>
            if entry.1 = key then (key, value) else entry) =
              fun entry => decide (entry.1 ≠ key) := by
          funext entry
          simp only [Function.comp_apply]
          split
          case isTrue isEntryKey => rw [isEntryKey]
          case isFalse => rfl
        rw [sameFilter, List.map_congr_left unchanged, List.map_id']
      case isFalse => simp [List.filter_append]
    rw [if_neg isKey, ← lookup_filter isKey, kept, lookup_filter isKey]

end Dictionary
end Foundation
end BoschBle
