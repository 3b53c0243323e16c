import Mathlib.Data.List.Basic

/-!
# Interleavings

Two lists that keep their orders in a third, and the selections from it that do not
see one of the two.
-/

namespace BoschBle
namespace Foundation

/-- The last list consists of the elements of the two lists, each in its order. -/
inductive Interleaving : List α -> List α -> List α -> Prop
  | nil : Interleaving [] [] []
  | left
      (next : α)
      (interleaves : Interleaving first second merged) :
      Interleaving (next :: first) second (next :: merged)
  | right
      (next : α)
      (interleaves : Interleaving first second merged) :
      Interleaving first (next :: second) (next :: merged)

/-- A monadic filter looks at the elements from the front. -/
theorem filterM_cons
    {m : Type -> Type v} [Monad m] [LawfulMonad m]
    (keeps : α -> m Bool)
    (first : α)
    (rest : List α) :
    (first :: rest).filterM keeps = do
      let keep <- keeps first
      let kept <- rest.filterM keeps
      return if keep then first :: kept else kept := by
  have onto (items accumulated : List α) :
      List.filterAuxM keeps items accumulated =
        (fun kept => kept ++ accumulated) <$> List.filterAuxM keeps items [] := by
    induction items generalizing accumulated with
    | nil => simp [List.filterAuxM]
    | cons item items inductionHypothesis =>
        simp only [List.filterAuxM, map_bind]
        congr 1
        ext keep
        rw [inductionHypothesis (cond keep (item :: accumulated) accumulated),
          inductionHypothesis (cond keep [item] [])]
        cases keep <;> simp
  simp only [List.filterM, List.filterAuxM, bind_assoc]
  congr 1
  ext keep
  rw [onto rest (cond keep [first] [])]
  cases keep <;> simp

theorem filterM_cons_drop
    {m : Type -> Type v} [Monad m] [LawfulMonad m]
    {keeps : α -> m Bool} {first : α}
    (drops : keeps first = pure false)
    (rest : List α) :
    (first :: rest).filterM keeps = rest.filterM keeps := by
  rw [filterM_cons, drops]
  simp

theorem filterM_cons_keep
    {m : Type -> Type v} [Monad m] [LawfulMonad m]
    {keeps : α -> m Bool} {first : α}
    (kept : keeps first = pure true)
    (rest : List α) :
    (first :: rest).filterM keeps = (fun kept => first :: kept) <$> rest.filterM keeps := by
  rw [filterM_cons, kept]
  simp

/-- A filter that raises nothing keeps the elements whose answer is yes. -/
theorem eq_filter_of_filterM
    {ε : Type} {keeps : α -> Except ε Bool} {items kept : List α}
    (returns : items.filterM keeps = .ok kept) :
    kept = items.filter fun item => (keeps item).toOption == some true := by
  induction items generalizing kept with
  | nil => exact (Except.ok.inj returns).symm
  | cons first rest inductionHypothesis =>
      rw [filterM_cons] at returns
      cases answer : keeps first with
      | error exc =>
          rw [answer] at returns
          cases returns
      | ok keep =>
          rw [answer] at returns
          cases others : rest.filterM keeps with
          | error exc =>
              rw [others] at returns
              cases returns
          | ok keptRest =>
              rw [others] at returns
              rw [List.filter_cons, answer, ← inductionHypothesis others,
                ← Except.ok.inj returns]
              cases keep <;> rfl

namespace Interleaving

/-- One list in front of the other. -/
theorem append (first second : List α) :
    Interleaving first second (first ++ second) := by
  induction first with
  | nil =>
      induction second with
      | nil => exact .nil
      | cons next second inductionHypothesis => exact .right next inductionHypothesis
  | cons next first inductionHypothesis => exact .left next inductionHypothesis

variable {first second merged : List α}

/-- Nothing else is in the merged list. -/
theorem mem
    {item : α}
    (interleaves : Interleaving first second merged)
    (isIn : item ∈ merged) :
    item ∈ first ∨ item ∈ second := by
  induction interleaves with
  | nil => exact Or.inl isIn
  | left next _ inductionHypothesis =>
      rcases List.mem_cons.mp isIn with rfl | isIn
      · exact Or.inl List.mem_cons_self
      · exact (inductionHypothesis isIn).imp_left (List.mem_cons_of_mem next)
  | right next _ inductionHypothesis =>
      rcases List.mem_cons.mp isIn with rfl | isIn
      · exact Or.inr List.mem_cons_self
      · exact (inductionHypothesis isIn).imp_right (List.mem_cons_of_mem next)

/-- The second list may go on before and after. -/
theorem surround
    (interleaves : Interleaving first second merged)
    (before after : List α) :
    Interleaving first (before ++ second ++ after) (before ++ merged ++ after) := by
  have goesOn : Interleaving first (second ++ after) (merged ++ after) := by
    induction interleaves with
    | nil => exact append [] after
    | left next _ inductionHypothesis => exact .left next inductionHypothesis
    | right next _ inductionHypothesis => exact .right next inductionHypothesis
  rw [List.append_assoc, List.append_assoc]
  induction before with
  | nil => exact goesOn
  | cons next before inductionHypothesis => exact .right next inductionHypothesis

/-- A filter that drops the first list. -/
theorem filter_eq
    {keeps : α -> Bool}
    (interleaves : Interleaving first second merged)
    (drops : ∀ item ∈ first, keeps item = false) :
    merged.filter keeps = second.filter keeps := by
  induction interleaves with
  | nil => rfl
  | left next _ inductionHypothesis =>
      rw [List.forall_mem_cons] at drops
      rw [List.filter_cons, drops.1, inductionHypothesis drops.2]
      rfl
  | right next _ inductionHypothesis =>
      rw [List.filter_cons, List.filter_cons, inductionHypothesis drops]

/-- So with a monadic filter that drops the first list without an effect. -/
theorem filterM_eq
    {m : Type -> Type v} [Monad m] [LawfulMonad m]
    {keeps : α -> m Bool}
    (interleaves : Interleaving first second merged)
    (drops : ∀ item ∈ first, keeps item = pure false) :
    merged.filterM keeps = second.filterM keeps := by
  induction interleaves with
  | nil => rfl
  | left next _ inductionHypothesis =>
      rw [List.forall_mem_cons] at drops
      rw [filterM_cons_drop drops.1, inductionHypothesis drops.2]
  | right next _ inductionHypothesis =>
      rw [filterM_cons, filterM_cons, inductionHypothesis drops]

end Interleaving
end Foundation
end BoschBle
