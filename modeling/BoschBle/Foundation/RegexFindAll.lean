import BoschBle.Foundation.RegexLines
import BoschBle.Foundation.Words

/-!
# All matches of a pattern

`re.finditer` goes on behind each match, so the matches do not overlap.  The matches of a
pattern within a line are those of the lines.
-/

namespace BoschBle
namespace Foundation
namespace Regex

/-- What the group captures where the pattern matches at a place, and the length of the
match. -/
def matchWith (regex : Regex) (previous : Option Char) (text : Text) : Option (Text × Nat) :=
  regex.run ⟨previous, text, none, none⟩ fun cursor =>
    some (cursor.captured.getD [], text.length - cursor.rest.length)

/-- The matches behind a number of characters that belong to the last one. -/
def findAllFrom (regex : Regex) : Nat -> Option Char -> Text -> List Text
  | _, previous, [] => (regex.matchAt previous []).toList
  | taken + 1, _, char :: rest => findAllFrom regex taken (some char) rest
  | 0, previous, char :: rest =>
      match regex.matchWith previous (char :: rest) with
      | none => findAllFrom regex 0 (some char) rest
      | some (found, length) => found :: findAllFrom regex (length - 1) (some char) rest

/-- What the group captures in the matches of `re.finditer`, for a pattern that does not
match nothing. -/
def findAll (regex : Regex) (text : Text) : List Text :=
  regex.findAllFrom 0 none text

/-! ## What matches -/

theorem anchorless_of_withinLine
    {regex : Regex}
    (within : regex.WithinLine) :
    regex.Anchorless := by
  induction regex with
  | empty => trivial
  | one accepts => trivial
  | many accepts => trivial
  | andThen first second firstHypothesis secondHypothesis =>
      exact ⟨firstHypothesis within.1, secondHypothesis within.2⟩
  | either first second firstHypothesis secondHypothesis =>
      exact ⟨firstHypothesis within.1, secondHypothesis within.2⟩
  | group body inductionHypothesis => exact inductionHypothesis within
  | _ => cases within

theorem nullable_of_spells_nil
    {regex : Regex}
    (spelled : regex.Spells []) :
    regex.nullable = true := by
  induction regex with
  | one accepts =>
      obtain ⟨char, isNil, -⟩ := spelled
      cases isNil
  | andThen first second firstHypothesis secondHypothesis =>
      obtain ⟨front, back, isNil, frontSpelled, backSpelled⟩ := spelled
      obtain ⟨rfl, rfl⟩ := List.append_eq_nil_iff.mp isNil.symm
      rw [nullable, firstHypothesis frontSpelled, secondHypothesis backSpelled]
      rfl
  | either first second firstHypothesis secondHypothesis =>
      rw [nullable, Bool.or_eq_true]
      exact spelled.imp firstHypothesis secondHypothesis
  | group body inductionHypothesis => exact inductionHypothesis spelled
  | _ => rfl

/-- What a matcher returns comes from what is behind the pattern. -/
theorem runMany_result
    {accepts : Char -> Bool} {next : Cursor -> Option β} {holds : β -> Prop}
    (each : ∀ cursor result, next cursor = some result -> holds result)
    {text : Text} {cursor : Cursor} {result : β}
    (found : runMany accepts next text cursor = some result) :
    holds result := by
  induction text generalizing cursor with
  | nil => exact each cursor result found
  | cons char rest inductionHypothesis =>
      rw [runMany] at found
      split at found
      · rcases Option.or_eq_some_iff.mp found with longer | ⟨-, here⟩
        · exact inductionHypothesis longer
        · exact each cursor result here
      · exact each cursor result found

theorem eq_some_of_ite
    {condition : Prop} [Decidable condition] {found : Option β} {result : β}
    (passes : (if condition then found else none) = some result) :
    found = some result := by
  split at passes
  · exact passes
  · cases passes

theorem run_result
    {regex : Regex} {next : Cursor -> Option β} {holds : β -> Prop}
    (each : ∀ cursor result, next cursor = some result -> holds result)
    {cursor : Cursor} {result : β}
    (found : regex.run cursor next = some result) :
    holds result := by
  induction regex generalizing next cursor result with
  | empty => exact each cursor result found
  | one accepts =>
      rw [run] at found
      split at found
      · cases found
      · exact each _ _ (eq_some_of_ite found)
  | andThen first second firstHypothesis secondHypothesis =>
      exact firstHypothesis
        (fun _ _ inSecond => secondHypothesis each inSecond) found
  | either first second firstHypothesis secondHypothesis =>
      rcases Option.or_eq_some_iff.mp found with inFirst | ⟨-, inSecond⟩
      · exact firstHypothesis each inFirst
      · exact secondHypothesis each inSecond
  | many accepts => exact runMany_result each found
  | group body inductionHypothesis =>
      exact inductionHypothesis (fun _ _ closed => each _ _ closed) found
  | lineStart => exact each _ _ (eq_some_of_ite found)
  | lineEnd => exact each _ _ (eq_some_of_ite found)
  | textStart => exact each _ _ (eq_some_of_ite found)
  | textEnd => exact each _ _ (eq_some_of_ite found)

section Matches

variable {regex : Regex}

theorem matchWith_isSome (previous : Option Char) (text : Text) :
    (regex.matchWith previous text).isSome = (regex.matchAt previous text).isSome := by
  rw [Bool.eq_iff_iff, matchWith, matchAt, run_isSome, run_isSome]
  simp

theorem matchWith_eq_none
    {previous : Option Char} {text : Text}
    (misses : regex.matchAt previous text = none) :
    regex.matchWith previous text = none := by
  rw [← Option.not_isSome_iff_eq_none, matchWith_isSome, misses]
  exact Bool.false_ne_true

theorem length_of_matchWith
    {previous : Option Char} {text found : Text} {length : Nat}
    (isMatch : regex.matchWith previous text = some (found, length)) :
    length ≤ text.length := by
  refine @run_result _ _ _ (fun pair => pair.2 ≤ text.length) ?_ _ _ isMatch
  rintro cursor _ ⟨⟩
  exact Nat.sub_le _ _

/-- Nothing matches where a text ends. -/
theorem matchAt_nil
    (within : regex.WithinLine)
    (consumes : regex.nullable = false)
    (previous : Option Char) :
    regex.matchAt previous [] = none := by
  rw [← Option.not_isSome_iff_eq_none,
    matchAt_isSome_iff_spells (anchorless_of_withinLine within)]
  rintro ⟨taken, rest, isNil, spelled⟩
  obtain ⟨rfl, -⟩ := List.append_eq_nil_iff.mp isNil.symm
  rw [nullable_of_spells_nil spelled] at consumes
  cases consumes

/-- A match in a line does not depend on what is around the line. -/
theorem matchWith_lineStop
    (within : regex.WithinLine)
    {behind : Text}
    (stops : LineStop behind)
    (previous : Option Char)
    (line : Text) :
    regex.matchWith previous (line ++ behind) = regex.matchWith none line := by
  have agree : AgreeBefore behind []
      (fun cursor => some (cursor.captured.getD [], (line ++ behind).length - cursor.rest.length))
      (fun cursor => some (cursor.captured.getD [], line.length - cursor.rest.length)) := by
    intro _ _ rest _ captured
    simp only [List.length_append, List.append_nil, Nat.add_sub_add_right]
  have moved := run_lineStop within stops (show LineStop [] from nofun) agree
    previous none line none none
  rw [List.append_nil] at moved
  exact moved

/-! ## Where the matches are -/

theorem findAllFrom_withinLine
    (within : regex.WithinLine)
    (taken : Nat)
    (previous : Option Char)
    (text : Text) :
    regex.findAllFrom taken previous text = regex.findAllFrom taken none text := by
  have noChar : LineStop [] := nofun
  have sameWith (line : Text) : regex.matchWith previous line = regex.matchWith none line := by
    have moved := matchWith_lineStop within noChar previous line
    rwa [List.append_nil] at moved
  have sameAt : regex.matchAt previous [] = regex.matchAt none [] :=
    matchAt_lineStop within noChar noChar previous none []
  cases text with
  | nil => rw [findAllFrom, findAllFrom, sameAt]
  | cons char rest =>
      cases taken with
      | zero => rw [findAllFrom, findAllFrom, sameWith]
      | succ taken => rfl

/-- The matches of a line come before the matches behind it. -/
theorem findAllFrom_newline
    (within : regex.WithinLine)
    (consumes : regex.nullable = false)
    {taken : Nat} {line : Text}
    (fits : taken ≤ line.length)
    (behind : Text) :
    regex.findAllFrom taken none (line ++ '\n' :: behind) =
      regex.findAllFrom taken none line ++ regex.findAll behind := by
  have inLine := matchWith_lineStop within (lineStop_newline behind) none
  induction line generalizing taken with
  | nil =>
      obtain rfl : taken = 0 := Nat.le_zero.mp fits
      have nothing := matchAt_nil within consumes none
      have here := (inLine []).trans (matchWith_eq_none nothing)
      rw [List.nil_append] at here ⊢
      have none_eq : regex.findAllFrom 0 none [] = [] := by
        rw [findAllFrom, nothing]
        rfl
      rw [none_eq, List.nil_append, findAllFrom, here]
      exact findAllFrom_withinLine within 0 (some '\n') behind
  | cons char line inductionHypothesis =>
      rw [List.cons_append]
      cases taken with
      | succ taken =>
          have fewer : taken ≤ line.length := Nat.le_of_succ_le_succ fits
          rw [findAllFrom, findAllFrom, findAllFrom_withinLine within,
            findAllFrom_withinLine within taken (some char) line, inductionHypothesis fewer]
      | zero =>
          have here := inLine (char :: line)
          rw [List.cons_append] at here
          rw [findAllFrom, findAllFrom, here]
          cases found : regex.matchWith none (char :: line) with
          | none =>
              dsimp only
              rw [findAllFrom_withinLine within, findAllFrom_withinLine within 0 (some char) line,
                inductionHypothesis (Nat.zero_le _)]
          | some pair =>
              obtain ⟨captured, length⟩ := pair
              have short : length - 1 ≤ line.length :=
                Nat.sub_le_of_le_add (length_of_matchWith found)
              dsimp only
              rw [findAllFrom_withinLine within,
                findAllFrom_withinLine within (length - 1) (some char) line,
                inductionHypothesis short, List.cons_append]

theorem findAll_unlines
    (within : regex.WithinLine)
    (consumes : regex.nullable = false)
    (lines : List Text) :
    regex.findAll (unlines lines) = lines.flatMap regex.findAll := by
  induction lines with
  | nil =>
      rw [unlines, List.flatMap_nil, List.flatMap_nil, findAll, findAllFrom,
        matchAt_nil within consumes]
      rfl
  | cons line lines inductionHypothesis =>
      have lines_eq : unlines (line :: lines) = line ++ '\n' :: unlines lines := by
        simp [unlines]
      rw [lines_eq, List.flatMap_cons, ← inductionHypothesis]
      exact findAllFrom_newline within consumes (Nat.zero_le _) (unlines lines)

/-- A text in which nothing matches has no matches. -/
theorem findAll_of_search
    (within : regex.WithinLine)
    {text : Text}
    (misses : regex.search text = none) :
    regex.findAll text = [] := by
  rw [findAll]
  induction text with
  | nil =>
      rw [findAllFrom, show regex.matchAt none [] = none from misses]
      rfl
  | cons char rest inductionHypothesis =>
      rw [search, searchFrom, Option.or_eq_none_iff, searchFrom_withinLine within] at misses
      rw [findAllFrom, matchWith_eq_none misses.1]
      dsimp only
      rw [findAllFrom_withinLine within, inductionHypothesis misses.2]

/-- Nothing is found where no match starts. -/
theorem findAll_pass
    (within : regex.WithinLine)
    {skipped rest : Text}
    (misses : ∀ front back, skipped = front ++ back -> back ≠ [] ->
      regex.matchAt none (back ++ rest) = none) :
    regex.findAll (skipped ++ rest) = regex.findAll rest := by
  rw [findAll]
  induction skipped with
  | nil => rfl
  | cons char skipped inductionHypothesis =>
      have missesHere := misses [] (char :: skipped) rfl (List.cons_ne_nil _ _)
      rw [List.cons_append] at missesHere ⊢
      rw [findAllFrom, matchWith_eq_none missesHere]
      dsimp only
      rw [findAllFrom_withinLine within]
      apply inductionHypothesis
      intro front back split nonempty
      exact misses (char :: front) back (by rw [split, List.cons_append]) nonempty

theorem findAllFrom_covered
    (within : regex.WithinLine)
    (consumes : regex.nullable = false)
    {taken : Nat} {text : Text}
    (covered : text.length ≤ taken)
    (previous : Option Char) :
    regex.findAllFrom taken previous text = [] := by
  induction text generalizing taken previous with
  | nil =>
      rw [findAllFrom, matchAt_nil within consumes]
      rfl
  | cons char rest inductionHypothesis =>
      cases taken with
      | zero => cases covered
      | succ taken =>
          rw [findAllFrom]
          exact inductionHypothesis (Nat.le_of_succ_le_succ covered) (some char)

/-- A match of the whole text is the only one. -/
theorem findAll_whole
    (within : regex.WithinLine)
    (consumes : regex.nullable = false)
    {text found : Text}
    (nonempty : text ≠ [])
    (isMatch : regex.matchWith none text = some (found, text.length)) :
    regex.findAll text = [found] := by
  obtain ⟨char, rest, rfl⟩ := List.exists_cons_of_ne_nil nonempty
  rw [findAll, findAllFrom, isMatch]
  dsimp only
  rw [List.length_cons, Nat.add_sub_cancel,
    findAllFrom_covered within consumes (Nat.le_refl _)]

end Matches

end Regex
end Foundation
end BoschBle
