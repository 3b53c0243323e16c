import BoschBle.Foundation.RegexSemantics
import Mathlib.Data.List.Forall2

/-!
# Patterns and lines

A search for a pattern within a line goes from line to line, and it passes a text at
whose places the pattern does not match.
-/

namespace BoschBle
namespace Foundation
namespace Regex

/-! ## Searching lines -/

section Search

variable {regex : Regex}

/-- A search for a pattern without anchors does not see what is in front of the text. -/
theorem searchFrom_withinLine
    (within : regex.WithinLine)
    (previous : Option Char)
    (text : Text) :
    regex.searchFrom previous text = regex.search text := by
  have noChar : LineStop [] := nofun
  have same (line : Text) : regex.matchAt previous line = regex.matchAt none line := by
    have moved := matchAt_lineStop within noChar noChar previous none line
    rwa [List.append_nil] at moved
  cases text with
  | nil => exact same []
  | cons char rest => rw [search, searchFrom, searchFrom, same]

theorem lineStop_newline (behind : Text) : LineStop ('\n' :: behind) := by
  intro char isFirst
  exact (Option.some.inj isFirst).symm

/-- A search looks into a line first and then behind it. -/
theorem search_newline
    (within : regex.WithinLine)
    (line behind : Text) :
    regex.search (line ++ '\n' :: behind) =
      (regex.search line).or (regex.search behind) := by
  have noChar : LineStop [] := nofun
  have inLine (rest : Text) :
      regex.matchAt none (rest ++ '\n' :: behind) = regex.matchAt none rest := by
    have moved := matchAt_lineStop within (lineStop_newline behind) noChar none none rest
    rwa [List.append_nil] at moved
  have first (char : Char) (rest : Text) :
      regex.search (char :: rest) = (regex.matchAt none (char :: rest)).or (regex.search rest) := by
    rw [← searchFrom_withinLine within (some char) rest]
    rfl
  induction line with
  | nil =>
      have atEnd := inLine []
      rw [List.nil_append] at atEnd ⊢
      rw [first, atEnd]
      rfl
  | cons char line inductionHypothesis =>
      have here := inLine (char :: line)
      rw [List.cons_append] at here ⊢
      rw [first, here, inductionHypothesis, ← Option.or_assoc, ← first]

/-- Lines with a newline between any two of them. -/
def joinLines (first : Text) (rest : List Text) : Text :=
  first ++ rest.flatMap fun line => '\n' :: line

theorem joinLines_cons (first second : Text) (rest : List Text) :
    joinLines first (second :: rest) = first ++ '\n' :: joinLines second rest :=
  rfl

theorem search_joinLines
    (within : regex.WithinLine)
    (first : Text)
    (rest : List Text) :
    regex.search (joinLines first rest) = (first :: rest).findSome? regex.search := by
  induction rest generalizing first with
  | nil =>
      rw [joinLines, List.flatMap_nil, List.append_nil, List.findSome?_singleton]
  | cons second rest inductionHypothesis =>
      have inFirst : (first :: second :: rest).findSome? regex.search =
          (regex.search first).or ((second :: rest).findSome? regex.search) := by
        rw [List.findSome?_cons]
        cases regex.search first <;> rfl
      rw [joinLines_cons, search_newline within, inductionHypothesis, inFirst]

end Search

/-! ## What a search finds -/

theorem spells_lit {string : String} {text : Text} :
    (lit string).Spells text ↔ text = string.toList := by
  rw [lit]
  generalize string.toList = chars
  induction chars generalizing text with
  | nil => simp [sequence, Spells]
  | cons char chars inductionHypothesis =>
      rw [List.map_cons, spells_sequence_cons]
      constructor
      · rintro ⟨_, back, rfl, ⟨other, rfl, equal⟩, isRest⟩
        rw [inductionHypothesis.mp isRest, beq_iff_eq.mp equal]
        rfl
      · rintro rfl
        exact ⟨[char], chars, rfl, ⟨char, rfl, beq_self_eq_true char⟩,
          inductionHypothesis.mpr rfl⟩

theorem anchorless_lit (string : String) : (lit string).Anchorless := by
  rw [lit]
  generalize string.toList = chars
  induction chars with
  | nil => trivial
  | cons char chars inductionHypothesis =>
      cases chars with
      | nil => trivial
      | cons second chars => exact ⟨trivial, inductionHypothesis⟩

theorem spells_oneOrMore
    {accepts : Char -> Bool} {text : Text} :
    (oneOrMore accepts).Spells text ↔ text ≠ [] ∧ ∀ char ∈ text, accepts char = true := by
  constructor
  · rintro ⟨_, rest, rfl, ⟨char, rfl, accepted⟩, allAccepted⟩
    refine ⟨List.cons_ne_nil char rest, ?_⟩
    rw [List.singleton_append, List.forall_mem_cons]
    exact ⟨accepted, allAccepted⟩
  · rintro ⟨nonempty, allAccepted⟩
    obtain ⟨char, rest, rfl⟩ := List.exists_cons_of_ne_nil nonempty
    rw [List.forall_mem_cons] at allAccepted
    exact ⟨[char], rest, rfl, ⟨char, rfl, allAccepted.1⟩, allAccepted.2⟩

theorem matchAt_isSome_iff_spells
    {regex : Regex} {previous : Option Char} {text : Text}
    (anchorless : regex.Anchorless) :
    (regex.matchAt previous text).isSome = true ↔
      ∃ taken rest, text = taken ++ rest ∧ regex.Spells taken := by
  have taken := reaches_iff_spells anchorless ⟨previous, text, none, none⟩ fun _ => True
  simpa [matchAt_isSome] using taken

theorem searchFrom_isSome
    {regex : Regex} {previous : Option Char} {text : Text}
    (anchorless : regex.Anchorless) :
    (regex.searchFrom previous text).isSome = true ↔
      ∃ front taken rest, text = front ++ taken ++ rest ∧ regex.Spells taken := by
  induction text generalizing previous with
  | nil =>
      rw [searchFrom, matchAt_isSome_iff_spells anchorless]
      constructor
      · rintro ⟨taken, rest, text_eq, spelled⟩
        exact ⟨[], taken, rest, text_eq, spelled⟩
      · rintro ⟨front, taken, rest, text_eq, spelled⟩
        obtain ⟨frontTaken, rfl⟩ := List.append_eq_nil_iff.mp text_eq.symm
        obtain ⟨-, rfl⟩ := List.append_eq_nil_iff.mp frontTaken
        exact ⟨[], [], rfl, spelled⟩
  | cons char text inductionHypothesis =>
      rw [searchFrom, Option.isSome_or, Bool.or_eq_true, inductionHypothesis,
        matchAt_isSome_iff_spells anchorless]
      constructor
      · rintro (⟨taken, rest, text_eq, spelled⟩ | ⟨front, taken, rest, rfl, spelled⟩)
        · exact ⟨[], taken, rest, text_eq, spelled⟩
        · exact ⟨char :: front, taken, rest, rfl, spelled⟩
      · rintro ⟨front, taken, rest, text_eq, spelled⟩
        cases front with
        | nil => exact Or.inl ⟨taken, rest, text_eq, spelled⟩
        | cons first front =>
            obtain ⟨-, behind_eq⟩ := List.cons.inj text_eq
            exact Or.inr ⟨front, taken, rest, behind_eq, spelled⟩

/-- A pattern for the start of the text is found at the start only. -/
theorem search_textStart (rest : List Regex) (text : Text) :
    (sequence (.textStart :: rest)).search text =
      (sequence (.textStart :: rest)).matchAt none text := by
  have missesBehind (char : Char) (text : Text) :
      (sequence (.textStart :: rest)).searchFrom (some char) text = none := by
    have misses (char : Char) (text : Text) :
        (sequence (.textStart :: rest)).matchAt (some char) text = none := by
      rw [← Option.not_isSome_iff_eq_none, matchAt_isSome]
      simp [reaches_sequence_cons, Reaches]
    induction text generalizing char with
    | nil => exact misses char []
    | cons first text inductionHypothesis =>
        rw [searchFrom, misses, inductionHypothesis]
        rfl
  cases text with
  | nil => rfl
  | cons char text => rw [search, searchFrom, missesBehind, Option.or_none]

theorem run_sequence_cons
    {first : Regex} {rest : List Regex} {cursor : Cursor} {next : Cursor -> Option β} :
    (sequence (first :: rest)).run cursor next =
      first.run cursor fun middle => (sequence rest).run middle next := by
  cases rest with
  | nil => rfl
  | cons second rest => rfl

/-- Patterns for single characters take these characters. -/
theorem run_ones
    {patterns : List (Char -> Bool)} {taken rest : Text} {next : Cursor -> Option β}
    (accepted : List.Forall₂ (fun accepts char => accepts char = true) patterns taken)
    (cursor : Cursor)
    (rest_eq : cursor.rest = taken ++ rest) :
    (sequence (patterns.map .one)).run cursor next = next (cursor.advanceBy taken rest) := by
  induction accepted generalizing cursor with
  | nil => exact congrArg next (cursor.advanceBy_nil rest_eq).symm
  | cons first _ inductionHypothesis =>
      rw [List.map_cons, run_sequence_cons, run, rest_eq, List.cons_append]
      dsimp only
      rw [if_pos first, inductionHypothesis _ rfl, Cursor.advanceBy_cons]

theorem run_lit
    (string : String)
    {rest : Text} {next : Cursor -> Option β}
    (cursor : Cursor)
    (rest_eq : cursor.rest = string.toList ++ rest) :
    (lit string).run cursor next = next (cursor.advanceBy string.toList rest) := by
  have accepted : List.Forall₂ (fun (accepts : Char -> Bool) char => accepts char = true)
      (string.toList.map fun char other => other == char) string.toList := by
    rw [List.forall₂_map_left_iff]
    exact List.forall₂_same.mpr fun char _ => beq_self_eq_true char
  have runs := @run_ones β _ _ _ next accepted cursor rest_eq
  rwa [List.map_map] at runs

theorem run_exactly
    {accepts : Char -> Bool} {taken rest : Text} {next : Cursor -> Option β}
    (accepted : ∀ char ∈ taken, accepts char = true)
    (cursor : Cursor)
    (rest_eq : cursor.rest = taken ++ rest) :
    (exactly taken.length accepts).run cursor next = next (cursor.advanceBy taken rest) := by
  have each : List.Forall₂ (fun (accepts : Char -> Bool) char => accepts char = true)
      (List.replicate taken.length accepts) taken := by
    rw [← List.map_const', List.forall₂_map_left_iff]
    exact List.forall₂_same.mpr accepted
  have runs := @run_ones β _ _ _ next each cursor rest_eq
  rwa [List.map_replicate] at runs

/-! ## Passing a text that no match starts in -/

/-- A search passes a text at whose places the pattern does not match. -/
theorem searchFrom_pass
    {regex : Regex} {skipped rest : Text}
    (misses : ∀ front back previous, skipped = front ++ back -> back ≠ [] ->
      regex.matchAt previous (back ++ rest) = none)
    (previous : Option Char) :
    ∃ last, regex.searchFrom previous (skipped ++ rest) = regex.searchFrom last rest := by
  induction skipped generalizing previous with
  | nil => exact ⟨previous, rfl⟩
  | cons char skipped inductionHypothesis =>
      have missesRest (front back : Text) (previous : Option Char)
          (split : skipped = front ++ back)
          (nonempty : back ≠ []) :
          regex.matchAt previous (back ++ rest) = none :=
        misses (char :: front) back previous (by rw [split, List.cons_append]) nonempty
      obtain ⟨last, passes⟩ := inductionHypothesis missesRest (some char)
      have missesHere := misses [] (char :: skipped) previous rfl (List.cons_ne_nil _ _)
      refine ⟨last, ?_⟩
      rw [List.cons_append] at missesHere ⊢
      rw [searchFrom, missesHere, passes]
      rfl

end Regex
end Foundation
end BoschBle
