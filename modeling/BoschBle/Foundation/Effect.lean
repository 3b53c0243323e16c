import Mathlib.Data.List.Forall2

/-!
# Raising computations on a mutable state

A computation reads and writes a state and either returns a value or raises an
exception.  State changes made before a raise are kept, as in a language whose
objects are mutated in place.  `Returns` is the inversion rule of the module:
a sequence of commands returns exactly when every command of it returns.
`Keeps` relates the states before and after whatever the outcome.
-/

namespace BoschBle
namespace Foundation

/-- Exception classes.  `user` is a class that a program declares itself. -/
inductive ExnType
  | valueError
  | typeError
  | indexError
  | overflowError
  | runtimeError
  | osError
  | timeoutError
  | cancelledError
  | generatorExit
  | keyboardInterrupt
  | user (name : String)
  deriving DecidableEq

/-- The classes that `except Exception` catches. -/
def ExnType.isException : ExnType -> Bool
  | .cancelledError | .generatorExit | .keyboardInterrupt => false
  | _ => true

/-- The subclasses of `OSError` without a constructor of their own. -/
def osErrorNames : List String :=
  [ "BlockingIOError", "ChildProcessError", "ConnectionError", "BrokenPipeError",
    "ConnectionAbortedError", "ConnectionRefusedError", "ConnectionResetError",
    "FileExistsError", "FileNotFoundError", "InterruptedError", "IsADirectoryError",
    "NotADirectoryError", "PermissionError", "ProcessLookupError" ]

/-- The classes that `except OSError` catches. -/
def ExnType.isOsError : ExnType -> Bool
  | .osError | .timeoutError => true
  | .user name => osErrorNames.contains name
  | _ => false

/-- A raised exception: its class and the text that `str` gives for it. -/
structure Exn where
  /-- The class of the exception. -/
  type : ExnType
  /-- The text of the exception. -/
  message : String
  deriving DecidableEq

/-- A list of fallible calls returns exactly when each call returns. -/
theorem mapM_eq_ok_iff
    {call : α -> Except Exn β} {items : List α} {results : List β} :
    items.mapM call = .ok results ↔
      List.Forall₂ (fun item result => call item = .ok result) items results := by
  induction items generalizing results with
  | nil =>
      rw [List.mapM_nil, List.forall₂_nil_left_iff]
      exact ⟨fun equal => (Except.ok.inj equal).symm, fun equal => by rw [equal]; rfl⟩
  | cons item rest inductionHypothesis =>
      rw [List.mapM_cons, List.forall₂_cons_left_iff]
      cases first : call item with
      | error exc =>
          constructor
          · intro impossible
            cases impossible
          · rintro ⟨_, _, impossible, _⟩
            cases impossible
      | ok result =>
          constructor
          · intro returns
            cases remaining : rest.mapM call with
            | error exc =>
                rw [remaining] at returns
                cases returns
            | ok tail =>
                rw [remaining] at returns
                cases returns
                exact ⟨result, tail, rfl, inductionHypothesis.mp remaining, rfl⟩
          · rintro ⟨value, tail, value_eq, tailReturns, rfl⟩
            rw [inductionHypothesis.mpr tailReturns, value_eq]
            rfl

/-- Every result of a list of calls comes from one of them. -/
theorem exists_of_mem_mapM
    {call : α -> Except Exn β} {items : List α} {results : List β} {result : β}
    (returns : items.mapM call = .ok results)
    (present : result ∈ results) :
    ∃ item ∈ items, call item = .ok result := by
  rw [mapM_eq_ok_iff] at returns
  induction returns with
  | nil => cases present
  | cons first _ inductionHypothesis =>
      rcases List.mem_cons.mp present with rfl | inRest
      · exact ⟨_, List.mem_cons_self, first⟩
      · obtain ⟨item, isItem, calls⟩ := inductionHypothesis inRest
        exact ⟨item, List.mem_cons_of_mem _ isItem, calls⟩

/-- Each of them gives its result. -/
theorem mem_of_mapM
    {call : α -> Except Exn β} {items : List α} {results : List β}
    {item : α} {result : β}
    (returns : items.mapM call = .ok results)
    (isItem : item ∈ items)
    (calls : call item = .ok result) :
    result ∈ results := by
  rw [mapM_eq_ok_iff] at returns
  induction returns with
  | nil => cases isItem
  | cons first _ inductionHypothesis =>
      rcases List.mem_cons.mp isItem with rfl | inRest
      · rw [first] at calls
        cases calls
        exact List.mem_cons_self
      · exact List.mem_cons_of_mem _ (inductionHypothesis inRest)

/-- A list of calls that all return collects their values. -/
theorem mapM_of_forall_ok
    {call : α -> Except Exn β} {value : α -> β} {items : List α}
    (returns : ∀ item ∈ items, call item = .ok (value item)) :
    items.mapM call = .ok (items.map value) := by
  rw [mapM_eq_ok_iff, List.forall₂_map_right_iff]
  exact List.forall₂_same.mpr returns

/-- A computation on a state of type `σ`. -/
def Effect (σ : Type) (α : Type) : Type :=
  σ -> Except Exn α × σ

namespace Effect

instance : Monad (Effect σ) where
  pure value := fun state => (.ok value, state)
  bind first next := fun state =>
    match first state with
    | (.ok value, after) => next value after
    | (.error exc, after) => (.error exc, after)

/-- Read the state. -/
def get : Effect σ σ :=
  fun state => (.ok state, state)

/-- Replace the state by a function of it. -/
def modify (update : σ -> σ) : Effect σ Unit :=
  fun state => (.ok (), update state)

/-- Run a pure function that may raise. -/
def lift (result : Except Exn α) : Effect σ α :=
  fun state => (result, state)

/-- Run a computation on one component of the state. -/
def zoom
    (read : σ -> τ)
    (write : τ -> σ -> σ)
    (computation : Effect τ α) : Effect σ α :=
  fun state =>
    let (result, component) := computation (read state)
    (result, write component state)

/-- Run a body for every item of a list, in order. -/
def forEach (items : List ι) (body : ι -> Effect σ Unit) : Effect σ Unit :=
  match items with
  | [] => pure ()
  | item :: rest => do
      body item
      forEach rest body

/-- From `before` the computation returns `value` and leaves `after`. -/
def Returns
    (computation : Effect σ α)
    (before : σ)
    (value : α)
    (after : σ) : Prop :=
  computation before = (.ok value, after)

@[simp] theorem returns_pure {before after : σ} {given value : α} :
    Returns (pure given : Effect σ α) before value after ↔
      given = value ∧ before = after := by
  change ((.ok given, before) : Except Exn α × σ) = (.ok value, after) ↔ _
  simp

@[simp] theorem returns_bind
    {first : Effect σ α} {next : α -> Effect σ β}
    {before after : σ} {value : β} :
    Returns (first >>= next) before value after ↔
      ∃ middleValue middle, Returns first before middleValue middle ∧
        Returns (next middleValue) middle value after := by
  unfold Returns
  change (match first before with
    | (.ok value, after) => next value after
    | (.error exc, after) => (.error exc, after)) = _ ↔ _
  rcases first before with ⟨result, middle⟩
  cases result with
  | error exc => simp
  | ok middleValue =>
      constructor
      · intro run
        exact ⟨middleValue, middle, rfl, run⟩
      · rintro ⟨_, _, first_eq, run⟩
        cases first_eq
        exact run

@[simp] theorem returns_get {before after value : σ} :
    Returns (get : Effect σ σ) before value after ↔
      before = value ∧ before = after := by
  simp [Returns, get]

@[simp] theorem returns_modify
    {update : σ -> σ} {before after : σ} {value : Unit} :
    Returns (modify update) before value after ↔ update before = after := by
  simp [Returns, modify]

@[simp] theorem returns_lift
    {result : Except Exn α} {before after : σ} {value : α} :
    Returns (lift result : Effect σ α) before value after ↔
      result = .ok value ∧ before = after := by
  simp [Returns, lift]

/-- A pure call that returns is its value. -/
theorem lift_ok_bind (value : α) (next : α -> Effect σ β) :
    (lift (.ok value) >>= next) = next value := rfl

theorem returns_zoom
    {read : σ -> τ} {write : τ -> σ -> σ}
    {computation : Effect τ α}
    {before after : σ} {value : α} :
    Returns (zoom read write computation) before value after ↔
      ∃ component, Returns computation (read before) value component ∧
        write component before = after := by
  unfold Returns zoom
  rcases computation (read before) with ⟨result, component⟩
  simp [and_assoc]

@[simp] theorem returns_forEach_nil
    {body : ι -> Effect σ Unit} {before after : σ} {value : Unit} :
    Returns (forEach [] body) before value after ↔ before = after := by
  simp [forEach]

@[simp] theorem returns_forEach_cons
    {item : ι} {rest : List ι} {body : ι -> Effect σ Unit}
    {before after : σ} {value : Unit} :
    Returns (forEach (item :: rest) body) before value after ↔
      ∃ middle, Returns (body item) before () middle ∧
        Returns (forEach rest body) middle value after := by
  rw [forEach, returns_bind]
  constructor
  · rintro ⟨_, middle, first, remaining⟩
    exact ⟨middle, first, remaining⟩
  · rintro ⟨middle, first, remaining⟩
    exact ⟨(), middle, first, remaining⟩

/-- A loop whose body moves an observation by `next` moves it by the fold of
`next` over the items. -/
theorem Returns.forEach_foldl
    (observe : σ -> τ)
    {next : τ -> ι -> τ}
    {items : List ι} {body : ι -> Effect σ Unit}
    (bodyMoves : ∀ item ∈ items, ∀ before after,
      Returns (body item) before () after ->
        observe after = next (observe before) item)
    {before after : σ}
    (returns : Returns (forEach items body) before () after) :
    observe after = items.foldl next (observe before) := by
  induction items generalizing before with
  | nil =>
      rw [returns_forEach_nil] at returns
      rw [returns, List.foldl_nil]
  | cons item rest inductionHypothesis =>
      rw [returns_forEach_cons] at returns
      obtain ⟨middle, first, remaining⟩ := returns
      rw [List.foldl_cons,
        ← bodyMoves item List.mem_cons_self before middle first]
      exact inductionHypothesis
        (fun other present => bodyMoves other (List.mem_cons_of_mem item present))
        remaining

/-- When a loop returns, its body has returned for every item. -/
theorem Returns.forEach_mem
    {items : List ι} {body : ι -> Effect σ Unit}
    {before after : σ}
    (returns : Returns (forEach items body) before () after)
    {item : ι}
    (present : item ∈ items) :
    ∃ middle next, Returns (body item) middle () next := by
  induction items generalizing before with
  | nil => cases present
  | cons first rest inductionHypothesis =>
      rw [returns_forEach_cons] at returns
      obtain ⟨middle, firstReturns, remaining⟩ := returns
      rcases List.mem_cons.mp present with rfl | present
      · exact ⟨before, middle, firstReturns⟩
      · exact inductionHypothesis remaining present

/-- Whatever the outcome, the states before and after are related. -/
def Keeps (related : σ -> σ -> Prop) (computation : Effect σ α) : Prop :=
  ∀ before, related before (computation before).2

namespace Keeps

variable {related : σ -> σ -> Prop}

theorem lift
    (reflexive : ∀ state, related state state)
    (result : Except Exn α) : Keeps related (Effect.lift result) :=
  reflexive

theorem pure
    (reflexive : ∀ state, related state state)
    (value : α) : Keeps related (Pure.pure value : Effect σ α) :=
  reflexive

theorem modify
    {update : σ -> σ}
    (updates : ∀ state, related state (update state)) :
    Keeps related (Effect.modify update) :=
  updates

/-- What the first computation does survives what the next one does. -/
theorem bind_absorb
    {absorbed : σ -> σ -> Prop}
    {first : Effect σ α} {next : α -> Effect σ β}
    (absorbs : ∀ before middle after,
      related before middle -> absorbed middle after -> related before after)
    (firstKeeps : Keeps related first)
    (nextKeeps : ∀ value, Keeps absorbed (next value)) :
    Keeps related (first >>= next) := by
  intro before
  change related before (match first before with
    | (.ok value, after) => next value after
    | (.error exc, after) => (.error exc, after)).2
  have firstStep := firstKeeps before
  generalize first before = outcome at firstStep ⊢
  obtain ⟨result, middle⟩ := outcome
  cases result with
  | error exc => exact firstStep
  | ok value => exact absorbs _ _ _ firstStep (nextKeeps value middle)

theorem bind
    {first : Effect σ α} {next : α -> Effect σ β}
    (transitive : ∀ before middle after,
      related before middle -> related middle after -> related before after)
    (firstKeeps : Keeps related first)
    (nextKeeps : ∀ value, Keeps related (next value)) :
    Keeps related (first >>= next) :=
  bind_absorb transitive firstKeeps nextKeeps

theorem zoom
    {read : σ -> τ} {write : τ -> σ -> σ} {computation : Effect τ α}
    (writes : ∀ state component, related state (write component state)) :
    Keeps related (Effect.zoom read write computation) :=
  fun before => writes before (computation (read before)).2

theorem forEach
    {items : List ι} {body : ι -> Effect σ Unit}
    (reflexive : ∀ state, related state state)
    (transitive : ∀ before middle after,
      related before middle -> related middle after -> related before after)
    (bodyKeeps : ∀ item ∈ items, Keeps related (body item)) :
    Keeps related (Effect.forEach items body) := by
  induction items with
  | nil => exact pure reflexive ()
  | cons item rest inductionHypothesis =>
      apply bind transitive (bodyKeeps item List.mem_cons_self)
      intro _
      exact inductionHypothesis fun other present =>
        bodyKeeps other (List.mem_cons_of_mem item present)

end Keeps

/-- The computation returns from every state. -/
def NeverRaises (computation : Effect σ α) : Prop :=
  ∀ before, ∃ value after, Returns computation before value after

namespace NeverRaises

theorem pure (value : α) :
    NeverRaises (Pure.pure value : Effect σ α) := by
  intro before
  exact ⟨value, before, by simp⟩

theorem bind
    {first : Effect σ α} {next : α -> Effect σ β}
    (firstReturns : NeverRaises first)
    (nextReturns : ∀ value, NeverRaises (next value)) :
    NeverRaises (first >>= next) := by
  intro before
  obtain ⟨middleValue, middle, firstRun⟩ := firstReturns before
  obtain ⟨value, after, nextRun⟩ := nextReturns middleValue middle
  exact ⟨value, after, returns_bind.mpr
    ⟨middleValue, middle, firstRun, nextRun⟩⟩

theorem modify (update : σ -> σ) : NeverRaises (Effect.modify update) := by
  intro before
  exact ⟨(), update before, by simp⟩

theorem lift {result : Except Exn α} {value : α} (ok : result = .ok value) :
    NeverRaises (Effect.lift result : Effect σ α) := by
  intro before
  exact ⟨value, before, by simp [ok]⟩

theorem zoom
    {read : σ -> τ} {write : τ -> σ -> σ}
    {computation : Effect τ α}
    (returns : NeverRaises computation) :
    NeverRaises (Effect.zoom read write computation) := by
  intro before
  obtain ⟨value, component, run⟩ := returns (read before)
  exact ⟨value, write component before,
    returns_zoom.mpr ⟨component, run, rfl⟩⟩

theorem forEach
    {items : List ι} {body : ι -> Effect σ Unit}
    (bodyReturns : ∀ item ∈ items, NeverRaises (body item)) :
    NeverRaises (Effect.forEach items body) := by
  induction items with
  | nil => exact pure ()
  | cons item rest inductionHypothesis =>
      apply bind (bodyReturns item List.mem_cons_self)
      intro _
      exact inductionHypothesis fun other present =>
        bodyReturns other (List.mem_cons_of_mem item present)

end NeverRaises

/-- Where the computation raises, it leaves the state as it was. -/
def RaisesUnchanged (computation : Effect σ α) : Prop :=
  ∀ before exc after, computation before = (.error exc, after) -> after = before

namespace RaisesUnchanged

theorem pure (value : α) :
    RaisesUnchanged (Pure.pure value : Effect σ α) := by
  intro before exc after raises
  cases raises

theorem modify (update : σ -> σ) :
    RaisesUnchanged (Effect.modify update) := by
  intro before exc after raises
  cases raises

/-- A pure call in front changes nothing. -/
theorem lift_bind
    {result : Except Exn α} {next : α -> Effect σ β}
    (nextUnchanged : ∀ value, RaisesUnchanged (next value)) :
    RaisesUnchanged (Effect.lift result >>= next) := by
  intro before exc after raises
  cases result with
  | error reason =>
      cases raises
      rfl
  | ok value => exact nextUnchanged value before exc after raises

end RaisesUnchanged

end Effect
end Foundation
end BoschBle
