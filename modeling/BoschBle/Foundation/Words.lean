import BoschBle.Foundation.Regex
import Mathlib.Data.List.Basic

/-!
# Words in texts

Where a word can stand in a text that is put together from parts.  A character of
the word that a part does not have decides which parts the word can lie in.
-/

namespace BoschBle
namespace Foundation
namespace Text

/-- `word in text`. -/
theorem contains_iff {word text : Text} :
    contains word text = true ↔ word <:+: text := by
  rw [contains]
  induction text with
  | nil =>
      rw [suffixFrom, List.infix_nil]
      split <;> simp [*]
  | cons char rest inductionHypothesis =>
      rw [suffixFrom, List.infix_cons_iff, ← inductionHypothesis, ← List.isPrefixOf_iff_prefix]
      split <;> simp [*]

section Bar

variable {bar : α} {head tail before behind : List α}

/-- The first bar splits a list in one way. -/
theorem split_at_bar
    {left right : List α}
    (text_eq : head ++ bar :: tail = left ++ bar :: right)
    (headFree : bar ∉ head)
    (leftFree : bar ∉ left) :
    head = left ∧ tail = right := by
  rcases List.append_eq_append_iff.mp text_eq with
    ⟨extra, left_eq, tail_eq⟩ | ⟨extra, head_eq, right_eq⟩
  · cases extra with
    | nil => exact ⟨by rw [left_eq, List.append_nil], (List.cons.inj tail_eq).2⟩
    | cons first extra =>
        obtain ⟨rfl, -⟩ := List.cons.inj tail_eq
        rw [left_eq] at leftFree
        exact absurd (List.mem_append_right head List.mem_cons_self) leftFree
  · cases extra with
    | nil => exact ⟨by rw [head_eq, List.append_nil], (List.cons.inj right_eq).2.symm⟩
    | cons first extra =>
        obtain ⟨rfl, -⟩ := List.cons.inj right_eq
        rw [head_eq] at headFree
        exact absurd (List.mem_append_right left List.mem_cons_self) headFree

/-- A word with a bar does not stand in a text without one. -/
theorem not_infix_of_notMem
    {text : List α}
    (free : bar ∉ text) :
    ¬ head ++ bar :: tail <:+: text := by
  intro inText
  exact free (inText.subset (List.mem_append_right head List.mem_cons_self))

/-- The bar of a word is the first bar of the text, or the word stands behind that. -/
theorem infix_cut
    (headFree : bar ∉ head)
    (beforeFree : bar ∉ before) :
    head ++ bar :: tail <:+: before ++ bar :: behind ↔
      (head <:+ before ∧ tail <+: behind) ∨ head ++ bar :: tail <:+: behind := by
  constructor
  · rintro ⟨front, back, text_eq⟩
    by_cases inFront : bar ∈ front
    · obtain ⟨first, rest, rfl, firstFree⟩ := List.eq_append_cons_of_mem inFront
      have aligned : first ++ bar :: (rest ++ (head ++ bar :: tail) ++ back) =
          before ++ bar :: behind := by
        rw [← text_eq]
        simp only [List.append_assoc, List.cons_append]
      obtain ⟨-, behind_eq⟩ := split_at_bar aligned firstFree beforeFree
      exact Or.inr ⟨rest, back, behind_eq⟩
    · have aligned : (front ++ head) ++ bar :: (tail ++ back) = before ++ bar :: behind := by
        rw [← text_eq]
        simp only [List.append_assoc, List.cons_append]
      have free : bar ∉ front ++ head := by
        rw [List.mem_append, not_or]
        exact ⟨inFront, headFree⟩
      obtain ⟨before_eq, behind_eq⟩ := split_at_bar aligned free beforeFree
      exact Or.inl ⟨⟨front, before_eq⟩, ⟨back, behind_eq⟩⟩
  · rintro (⟨⟨front, rfl⟩, ⟨back, rfl⟩⟩ | ⟨front, back, rfl⟩)
    · exact ⟨front, back, by simp only [List.append_assoc, List.cons_append]⟩
    · exact ⟨before ++ bar :: front, back, by simp only [List.append_assoc, List.cons_append]⟩

/-- A word without a bar stands in front of the bar or behind it. -/
theorem infix_around_bar
    {word : List α}
    (free : bar ∉ word) :
    word <:+: before ++ bar :: behind ↔ word <:+: before ∨ word <:+: behind := by
  have noPrefix {part : List α} (partFree : bar ∉ part) (starts : part <+: bar :: behind) :
      part = [] := by
    cases part with
    | nil => rfl
    | cons first part =>
        obtain ⟨rfl, -⟩ := List.cons_prefix_cons.mp starts
        exact absurd List.mem_cons_self partFree
  rw [List.infix_append_iff, List.infix_cons_iff]
  constructor
  · rintro (inBefore | (starts | inBehind) | ⟨front, back, rfl, ends, starts⟩)
    · exact Or.inl inBefore
    · rw [noPrefix free starts]
      exact Or.inl (List.nil_infix)
    · exact Or.inr inBehind
    · rw [List.mem_append, not_or] at free
      rw [noPrefix free.2 starts, List.append_nil]
      exact Or.inl ends.isInfix
  · rintro (inBefore | inBehind)
    · exact Or.inl inBefore
    · exact Or.inr (Or.inl (Or.inr inBehind))

/-- A word whose head does not stand in front of the bar stands behind it. -/
theorem infix_behind_bar
    (headFree : bar ∉ head)
    (beforeFree : bar ∉ before)
    (notEnd : ¬ head <:+ before) :
    head ++ bar :: tail <:+: before ++ bar :: behind ↔ head ++ bar :: tail <:+: behind := by
  rw [infix_cut headFree beforeFree, or_iff_right]
  exact fun both => notEnd both.1

/-- Two texts with a bar that start alike agree up to it. -/
theorem prefix_cut
    (headFree : bar ∉ head)
    (beforeFree : bar ∉ before) :
    head ++ bar :: tail <+: before ++ bar :: behind ↔ head = before ∧ tail <+: behind := by
  constructor
  · rintro ⟨back, text_eq⟩
    rw [List.append_assoc, List.cons_append] at text_eq
    obtain ⟨head_eq, tail_eq⟩ := split_at_bar text_eq headFree beforeFree
    exact ⟨head_eq, back, tail_eq⟩
  · rintro ⟨rfl, back, rfl⟩
    exact ⟨back, by rw [List.append_assoc, List.cons_append]⟩

end Bar

/-- A word that does not end as the last part of a text does is not at its end. -/
theorem not_suffix_append
    {word last : List α}
    (wordLonger : ¬ word <:+ last)
    (lastLonger : ¬ last <:+ word)
    (front : List α) :
    ¬ word <:+ front ++ last := by
  intro ends
  rcases List.suffix_or_suffix_of_suffix ends (List.suffix_append front last) with
    shorter | longer
  · exact wordLonger shorter
  · exact lastLonger longer

/-! ## Words in lines -/

/-- A word without a newline stands in one of the lines. -/
theorem infix_unlines
    {word : Text} {lines : List Text}
    (nonempty : word ≠ [])
    (oneLine : '\n' ∉ word) :
    word <:+: Regex.unlines lines ↔ ∃ line ∈ lines, word <:+: line := by
  induction lines with
  | nil => simp [Regex.unlines, nonempty]
  | cons line lines inductionHypothesis =>
      have lines_eq : Regex.unlines (line :: lines) = line ++ '\n' :: Regex.unlines lines := by
        simp [Regex.unlines]
      rw [lines_eq, infix_around_bar oneLine, inductionHypothesis, List.exists_mem_cons_iff]

theorem lower_unlines (lines : List Text) :
    lower (Regex.unlines lines) = Regex.unlines (lines.map lower) := by
  have newline : lower ['\n'] = ['\n'] := by decide
  rw [Regex.unlines, Regex.unlines, lower, List.map_flatMap, List.flatMap_map]
  refine congrArg (fun next => lines.flatMap next) (funext fun line => ?_)
  exact (lower_append line ['\n']).trans (congrArg (lower line ++ ·) newline)

/-! ## Words in joined parts -/

/-- The parts between bars, each with what the separator leaves around it. -/
def cells (front left right : List α) : List (List α) -> List (List α)
  | [] => [front]
  | part :: rest =>
      match rest with
      | [] => [front ++ part]
      | _ :: _ => (front ++ part ++ left) :: cells right left right rest

/-- What stands in a joined text where it stands on one side of every bar stands in a
part. -/
theorem holds_joined_iff
    {bar : α} {left right : List α} {holds : List α -> Prop}
    (splits : ∀ before behind, holds (before ++ bar :: behind) ↔ holds before ∨ holds behind)
    (front : List α)
    (parts : List (List α)) :
    holds (front ++ (left ++ bar :: right).intercalate parts) ↔
      ∃ cell ∈ cells front left right parts, holds cell := by
  induction parts generalizing front with
  | nil => simp [cells, List.intercalate]
  | cons part rest inductionHypothesis =>
      cases rest with
      | nil => simp [cells, List.intercalate]
      | cons next rest =>
          have joined : front ++ (left ++ bar :: right).intercalate (part :: next :: rest) =
              (front ++ part ++ left) ++
                bar :: (right ++ (left ++ bar :: right).intercalate (next :: rest)) := by
            simp [List.intercalate]
          rw [joined, splits, inductionHypothesis]
          exact (List.exists_mem_cons_iff _ _ _).symm

theorem of_mem_cells
    {front left right cell : List α} {parts : List (List α)}
    (isCell : cell ∈ cells front left right parts) :
    (parts = [] ∧ cell = front) ∨
      ∃ part ∈ parts, ∃ before ∈ [front, right], ∃ behind ∈ [[], left],
        cell = before ++ (part ++ behind) := by
  induction parts generalizing front with
  | nil => exact Or.inl ⟨rfl, List.mem_singleton.mp isCell⟩
  | cons part rest inductionHypothesis =>
      refine Or.inr ?_
      cases rest with
      | nil =>
          obtain rfl := List.mem_singleton.mp isCell
          exact ⟨part, List.mem_cons_self, front, List.mem_cons_self, [], List.mem_cons_self,
            by rw [List.append_nil]⟩
      | cons next rest =>
          rcases List.mem_cons.mp isCell with rfl | inRest
          · exact ⟨part, List.mem_cons_self, front, List.mem_cons_self, left,
              List.mem_cons_of_mem _ List.mem_cons_self, List.append_assoc _ _ _⟩
          · rcases inductionHypothesis inRest with
              ⟨⟨⟩, -⟩ | ⟨other, inNext, before, isBefore, isRest⟩
            refine ⟨other, List.mem_cons_of_mem _ inNext, before, ?_, isRest⟩
            simp only [List.mem_cons, List.not_mem_nil, or_false, or_self] at isBefore ⊢
            exact Or.inr isBefore

theorem exists_cell
    {left right part : List α} {parts : List (List α)}
    (isPart : part ∈ parts)
    (front : List α) :
    ∃ cell ∈ cells front left right parts, part <:+: cell := by
  induction parts generalizing front with
  | nil => cases isPart
  | cons first rest inductionHypothesis =>
      cases rest with
      | nil =>
          obtain rfl := List.mem_singleton.mp isPart
          exact ⟨_, List.mem_cons_self, (List.suffix_append front part).isInfix⟩
      | cons next rest =>
          rcases List.mem_cons.mp isPart with rfl | inRest
          · exact ⟨_, List.mem_cons_self, front, left, rfl⟩
          · obtain ⟨cell, isCell, stands⟩ := inductionHypothesis inRest right
            exact ⟨cell, List.mem_cons_of_mem _ isCell, stands⟩

end Text
end Foundation
end BoschBle
