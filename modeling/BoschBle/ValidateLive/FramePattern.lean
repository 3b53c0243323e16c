import BoschBle.Foundation.Words
import BoschBle.ValidateLive.Validator

/-!
# The pattern for frames

A match of the pattern is a label in either case and hexadecimal digits behind it.
-/

namespace BoschBle
namespace ValidateLive

open Foundation

theorem spells_litIgnoringCase {string : String} {text : Text} :
    (litIgnoringCase string).Spells text ↔ Text.lower text = Text.lower string.toList := by
  rw [litIgnoringCase]
  generalize string.toList = chars
  induction chars generalizing text with
  | nil => simp [Regex.sequence, Regex.Spells, Text.lower]
  | cons char chars inductionHypothesis =>
      rw [List.map_cons, Regex.spells_sequence_cons]
      constructor
      · rintro ⟨_, back, rfl, ⟨other, rfl, equal⟩, isRest⟩
        rw [Text.lower_cons, Text.lower_append, inductionHypothesis.mp isRest,
          ← beq_iff_eq.mp equal]
        rfl
      · intro text_eq
        cases text with
        | nil => cases text_eq
        | cons other rest =>
            obtain ⟨equal, isRest⟩ := List.cons.inj text_eq
            exact ⟨[other], rest, rfl, ⟨other, rfl, beq_iff_eq.mpr equal⟩,
              inductionHypothesis.mpr isRest⟩

/-- A label and at least one hexadecimal digit. -/
def labelled (label : String) : Regex :=
  Regex.sequence [litIgnoringCase label, .group (Regex.oneOrMore Regex.isHexDigit)]

theorem spells_labelled {label : String} {text : Text} :
    (labelled label).Spells text ↔
      ∃ front digits, text = front ++ digits ∧ Text.lower front = Text.lower label.toList ∧
        digits ≠ [] ∧ ∀ char ∈ digits, Regex.isHexDigit char = true := by
  rw [labelled, Regex.spells_sequence_cons]
  constructor
  · rintro ⟨front, digits, rfl, isLabel, areDigits⟩
    exact ⟨front, digits, rfl, spells_litIgnoringCase.mp isLabel,
      Regex.spells_oneOrMore.mp areDigits⟩
  · rintro ⟨front, digits, rfl, isLabel, areDigits⟩
    exact ⟨front, digits, rfl, spells_litIgnoringCase.mpr isLabel,
      Regex.spells_oneOrMore.mpr areDigits⟩

theorem run_litIgnoringCase
    (string : String)
    {rest : Text} {next : Regex.Cursor -> Option β}
    (cursor : Regex.Cursor)
    (rest_eq : cursor.rest = string.toList ++ rest) :
    (litIgnoringCase string).run cursor next = next (cursor.advanceBy string.toList rest) := by
  have accepted : List.Forall₂ (fun (accepts : Char -> Bool) char => accepts char = true)
      (string.toList.map fun char other => other.toLower == char.toLower) string.toList := by
    rw [List.forall₂_map_left_iff]
    exact List.forall₂_same.mpr fun char _ => beq_self_eq_true char.toLower
  have runs := @Regex.run_ones β _ _ _ next accepted cursor rest_eq
  rwa [List.map_map] at runs

/-- The label with all the digits behind it is one match. -/
theorem matchWith_labelled
    (label : String)
    {digits : Text}
    (nonempty : digits ≠ [])
    (areDigits : ∀ char ∈ digits, Regex.isHexDigit char = true) :
    (labelled label).matchWith none (label.toList ++ digits) =
      some (digits, (label.toList ++ digits).length) := by
  obtain ⟨first, digits, rfl⟩ := List.exists_cons_of_ne_nil nonempty
  rw [List.forall_mem_cons] at areDigits
  rw [Regex.matchWith, labelled, Regex.run_sequence_cons, run_litIgnoringCase label _ rfl]
  simp only [Regex.sequence, Regex.oneOrMore, Regex.run, Regex.Cursor.advanceBy, areDigits.1,
    if_true]
  have taken := @Regex.runMany_eq_some _ Regex.isHexDigit
    (fun after => some ((after.opened.getD []), (label.toList ++ first :: digits).length -
      after.rest.length)) (first :: digits, (label.toList ++ first :: digits).length) digits []
      none areDigits.2 (fun _ isHead => absurd isHead (Option.not_mem_none _)) (some first)
      (some [first]) (by simp)
  rw [List.append_nil] at taken
  exact taken

/-! ## The frames of the validator -/

theorem withinLine_CHANNEL1_PATTERN : CHANNEL1_PATTERN.WithinLine := by
  decide

theorem nullable_CHANNEL1_PATTERN : CHANNEL1_PATTERN.nullable = false := by
  decide

/-- What is behind the first equals sign up to the first digit. -/
def frameTail (digit : Char) : Text :=
  "channel1 end".toList ++ '=' :: ("true hex".toList ++ ['=', digit])

theorem prefix_of_spells
    {taken : Text}
    (spelled : CHANNEL1_PATTERN.Spells taken) :
    ∃ digit, "frame channel".toList ++ '=' :: frameTail digit <+: Text.lower taken := by
  have pattern_eq : CHANNEL1_PATTERN = labelled "FRAME channel=CHANNEL1 end=True hex=" := rfl
  have label_eq : Text.lower "FRAME channel=CHANNEL1 end=True hex=".toList =
      "frame channel".toList ++ '=' :: ("channel1 end".toList ++
        '=' :: ("true hex".toList ++ ['='])) := by
    decide
  rw [pattern_eq] at spelled
  obtain ⟨front, digits, rfl, isLabel, nonempty, -⟩ := spells_labelled.mp spelled
  obtain ⟨digit, digits, rfl⟩ := List.exists_cons_of_ne_nil nonempty
  have tail_eq : frameTail digit.toLower =
      "channel1 end".toList ++ '=' :: ("true hex".toList ++ ['=', digit.toLower]) := rfl
  refine ⟨digit.toLower, Text.lower digits, ?_⟩
  rw [Text.lower_append, Text.lower_cons, isLabel, label_eq, tail_eq]
  simp only [List.append_assoc, List.cons_append, List.nil_append]

theorem prefix_of_matchAt
    {text : Text}
    (isMatch : (CHANNEL1_PATTERN.matchAt none text).isSome = true) :
    ∃ digit, "frame channel".toList ++ '=' :: frameTail digit <+: Text.lower text := by
  have anchorless := Regex.anchorless_of_withinLine withinLine_CHANNEL1_PATTERN
  obtain ⟨taken, rest, rfl, spelled⟩ := (Regex.matchAt_isSome_iff_spells anchorless).mp isMatch
  obtain ⟨digit, starts⟩ := prefix_of_spells spelled
  rw [Text.lower_append]
  exact ⟨digit, starts.trans (List.prefix_append _ _)⟩

/-- Where the words of a frame do not stand, no frame is found. -/
theorem findAll_of_not_infix
    {text : Text}
    (absent : ∀ digit, ¬ "frame channel".toList ++ '=' :: frameTail digit <:+: Text.lower text) :
    CHANNEL1_PATTERN.findAll text = [] := by
  have anchorless := Regex.anchorless_of_withinLine withinLine_CHANNEL1_PATTERN
  refine Regex.findAll_of_search withinLine_CHANNEL1_PATTERN ?_
  rw [← Option.not_isSome_iff_eq_none, Regex.search, Regex.searchFrom_isSome anchorless]
  rintro ⟨front, taken, rest, rfl, spelled⟩
  obtain ⟨digit, starts⟩ := prefix_of_spells spelled
  refine absent digit (List.IsInfix.trans starts.isInfix ?_)
  rw [Text.lower_append, Text.lower_append]
  exact ⟨Text.lower front, Text.lower rest, rfl⟩

/-- The whole line of a frame is one match. -/
theorem findAll_frame
    {digits : Text}
    (nonempty : digits ≠ [])
    (areDigits : ∀ char ∈ digits, Regex.isHexDigit char = true) :
    CHANNEL1_PATTERN.findAll ("FRAME channel=CHANNEL1 end=True hex=".toList ++ digits) =
      [digits] :=
  Regex.findAll_whole withinLine_CHANNEL1_PATTERN nullable_CHANNEL1_PATTERN
    (List.append_ne_nil_of_right_ne_nil _ nonempty) (matchWith_labelled _ nonempty areDigits)

/-- No match starts in front of a label that is not the one of a frame, nor in front of
the label of a frame. -/
theorem findAll_behind
    {skipped behind rest : Text}
    (aligned : ∀ back, back <:+ skipped -> back ≠ [] ->
      ∃ label, back ++ rest = label ++ '=' :: behind ∧ '=' ∉ label ∧
        Text.lower label ≠ "frame channel".toList) :
    CHANNEL1_PATTERN.findAll (skipped ++ rest) = CHANNEL1_PATTERN.findAll rest := by
  refine Regex.findAll_pass withinLine_CHANNEL1_PATTERN ?_
  rintro front back rfl nonempty
  obtain ⟨label, text_eq, labelFree, other⟩ := aligned back (List.suffix_append _ _) nonempty
  rw [← Option.not_isSome_iff_eq_none]
  intro isMatch
  obtain ⟨digit, starts⟩ := prefix_of_matchAt isMatch
  have lower_eq : Text.lower (label ++ '=' :: behind) =
      Text.lower label ++ '=' :: Text.lower behind := by
    rw [Text.lower_append, Text.lower_cons]
    rfl
  rw [text_eq, lower_eq, Text.prefix_cut (by decide) (Text.notMem_lower (by decide) labelFree)]
    at starts
  exact other starts.1.symm

end ValidateLive
end BoschBle
