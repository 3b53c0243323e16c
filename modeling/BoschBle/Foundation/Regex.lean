import BoschBle.Foundation.Text

/-!
# Patterns on texts

A backtracking matcher for patterns over characters: alternatives are tried from
the left and repetitions from the longest, so a search finds the match that
`re.search` finds.  A pattern has at most one group, and repeats single characters
only.  The rules of the module say where a match cannot start, and that a pattern
that accepts no newline does not see what is behind the line.
-/

namespace BoschBle
namespace Foundation

/-- A pattern. -/
inductive Regex
  | empty
  | one (accepts : Char -> Bool)
  | andThen (first second : Regex)
  | either (first second : Regex)
  /-- Any number of characters, as many as possible. -/
  | many (accepts : Char -> Bool)
  /-- The group that captures. -/
  | group (body : Regex)
  /-- `^` with the flag `m`. -/
  | lineStart
  /-- `$` with the flag `m`. -/
  | lineEnd
  /-- `^` without the flag. -/
  | textStart
  /-- `$` without the flag. -/
  | textEnd

namespace Regex

/-- A place in a text, with what the group has captured. -/
structure Cursor where
  /-- The character in front of the place. -/
  previous : Option Char
  rest : Text
  /-- What the group has consumed, while it is open. -/
  opened : Option Text
  captured : Option Text

/-- The place behind the next character. -/
def Cursor.advance (cursor : Cursor) (char : Char) (rest : Text) : Cursor :=
  { cursor with
    previous := some char
    rest := rest
    opened := cursor.opened.map fun text => text ++ [char] }

/-- Go on behind as many of the characters as possible, and behind fewer where
that fails. -/
def runMany
    (accepts : Char -> Bool)
    (next : Cursor -> Option β) : Text -> Cursor -> Option β
  | [], cursor => next cursor
  | char :: rest, cursor =>
      if accepts char then
        (runMany accepts next rest (cursor.advance char rest)).or (next cursor)
      else next cursor

/-- Match a pattern at a place and go on behind the match.  Where that fails the
next match is tried. -/
def run : Regex -> Cursor -> (Cursor -> Option β) -> Option β
  | .empty, cursor, next => next cursor
  | .one accepts, cursor, next =>
      match cursor.rest with
      | [] => none
      | char :: rest => if accepts char then next (cursor.advance char rest) else none
  | .andThen first second, cursor, next =>
      first.run cursor fun middle => second.run middle next
  | .either first second, cursor, next =>
      (first.run cursor next).or (second.run cursor next)
  | .many accepts, cursor, next => runMany accepts next cursor.rest cursor
  | .group body, cursor, next =>
      body.run { cursor with opened := some [] } fun after =>
        next { after with opened := none, captured := after.opened }
  | .lineStart, cursor, next =>
      if cursor.previous = none ∨ cursor.previous = some '\n' then next cursor else none
  | .lineEnd, cursor, next =>
      if cursor.rest.head? = none ∨ cursor.rest.head? = some '\n' then next cursor else none
  | .textStart, cursor, next => if cursor.previous = none then next cursor else none
  | .textEnd, cursor, next =>
      if cursor.rest = [] ∨ cursor.rest = ['\n'] then next cursor else none

/-- What the group captures where the pattern matches at a place; nothing for a
pattern without a group. -/
def matchAt (regex : Regex) (previous : Option Char) (text : Text) : Option Text :=
  regex.run ⟨previous, text, none, none⟩ fun cursor => some (cursor.captured.getD [])

/-- The first match at or behind a place. -/
def searchFrom (regex : Regex) (previous : Option Char) : Text -> Option Text
  | [] => regex.matchAt previous []
  | char :: rest =>
      (regex.matchAt previous (char :: rest)).or (regex.searchFrom (some char) rest)

/-- `re.search`. -/
def search (regex : Regex) (text : Text) : Option Text :=
  regex.searchFrom none text

/-! ## Patterns -/

/-- The patterns one after the other. -/
def sequence : List Regex -> Regex
  | [] => .empty
  | [last] => last
  | first :: rest => .andThen first (sequence rest)

/-- The characters of a string. -/
def lit (string : String) : Regex :=
  sequence (string.toList.map fun char => .one fun other => other == char)

/-- At least one character. -/
def oneOrMore (accepts : Char -> Bool) : Regex :=
  .andThen (.one accepts) (.many accepts)

/-- `?`. -/
def optional (regex : Regex) : Regex :=
  .either regex .empty

/-- A fixed number of characters. -/
def exactly (count : Nat) (accepts : Char -> Bool) : Regex :=
  sequence (List.replicate count (.one accepts))

/-- `.`. -/
def dot (char : Char) : Bool :=
  char != '\n'

/-- The code points of the digits zero: `\d` in Unicode 15.1. -/
def digitBases : List Nat :=
  [0x30, 0x660, 0x6f0, 0x7c0, 0x966, 0x9e6, 0xa66, 0xae6, 0xb66, 0xbe6, 0xc66, 0xce6,
    0xd66, 0xde6, 0xe50, 0xed0, 0xf20, 0x1040, 0x1090, 0x17e0, 0x1810, 0x1946, 0x19d0,
    0x1a80, 0x1a90, 0x1b50, 0x1bb0, 0x1c40, 0x1c50, 0xa620, 0xa8d0, 0xa900, 0xa9d0,
    0xa9f0, 0xaa50, 0xabf0, 0xff10, 0x104a0, 0x10d30, 0x11066, 0x110f0, 0x11136,
    0x111d0, 0x112f0, 0x11450, 0x114d0, 0x11650, 0x116c0, 0x11730, 0x118e0, 0x11950,
    0x11c50, 0x11d50, 0x11da0, 0x11f50, 0x16a60, 0x16ac0, 0x16b50, 0x1d7ce, 0x1d7d8,
    0x1d7e2, 0x1d7ec, 0x1d7f6, 0x1e140, 0x1e2f0, 0x1e4f0, 0x1e950, 0x1fbf0]

/-- The value of a digit. -/
def digitValue (char : Char) : Option Nat :=
  let code := char.toNat
  (digitBases.find? fun base => base ≤ code && code < base + 10).map fun base => code - base

/-- `\d`. -/
def isDigit (char : Char) : Bool :=
  (digitValue char).isSome

/-- The digits of a hexadecimal number, in both letter cases. -/
def isHexDigit (char : Char) : Bool :=
  ('0' ≤ char && char ≤ '9') || ('A' ≤ char && char ≤ 'F') || ('a' ≤ char && char ≤ 'f')

theorem digitValue_lt
    {char : Char} {value : Nat}
    (isValue : digitValue char = some value) :
    value < 10 := by
  obtain ⟨base, found, rfl⟩ := Option.map_eq_some_iff.mp isValue
  have inRange := List.find?_some found
  rw [Bool.and_eq_true, decide_eq_true_eq, decide_eq_true_eq] at inRange
  omega

/-- The digits of ASCII come first. -/
theorem digitValue_of_isDigit
    {char : Char}
    (ascii : char.isDigit = true) :
    digitValue char = some (char.toNat - '0'.toNat) := by
  have inRange : 48 ≤ char.toNat ∧ char.toNat ≤ 57 := by
    simpa [Char.isDigit, UInt32.le_iff_toNat_le] using ascii
  have found : (digitBases.find? fun base =>
      base ≤ char.toNat && char.toNat < base + 10) = some 0x30 := by
    apply List.find?_cons_of_pos
    rw [Bool.and_eq_true, decide_eq_true_eq, decide_eq_true_eq]
    omega
  exact congrArg (Option.map fun base => char.toNat - base) found

/-- What holds of the hexadecimal digits of ASCII holds of all of them. -/
theorem forall_isHexDigit
    (holds : Char -> Prop)
    (each : ∀ code < 128, isHexDigit (Char.ofNat code) = true ->
      holds (Char.ofNat code))
    {char : Char}
    (isHex : isHexDigit char = true) :
    holds char := by
  have ascii : char.toNat < 128 := by
    simp only [isHexDigit, Bool.or_eq_true, Bool.and_eq_true, decide_eq_true_eq,
      Char.le_def, UInt32.le_iff_toNat_le] at isHex
    have code_eq : char.toNat = char.val.toNat := rfl
    rw [code_eq]
    obtain (⟨_, below⟩ | ⟨_, below⟩) | ⟨_, below⟩ := isHex
    · exact below.trans_lt (by decide)
    · exact below.trans_lt (by decide)
    · exact below.trans_lt (by decide)
  have holdsOfCode := each char.toNat ascii
  rw [Char.ofNat_toNat] at holdsOfCode
  exact holdsOfCode isHex

/-! ## Where a match cannot start -/

/-- The pattern may match nothing. -/
def nullable : Regex -> Bool
  | .one _ => false
  | .andThen first second => first.nullable && second.nullable
  | .either first second => first.nullable || second.nullable
  | .group body => body.nullable
  | _ => true

/-- The pattern may match something that starts with the character. -/
def canStart : Regex -> Char -> Bool
  | .one accepts, char | .many accepts, char => accepts char
  | .andThen first second, char =>
      first.canStart char || (first.nullable && second.canStart char)
  | .either first second, char => first.canStart char || second.canStart char
  | .group body, char => body.canStart char
  | _, _ => false

/-- In front of a character that it cannot start with, a pattern can match
nothing at most. -/
theorem run_of_canStart
    {regex : Regex} {previous : Option Char} {char : Char} {rest : Text}
    {opened captured : Option Text} {next : Cursor -> Option β}
    (cannot : regex.canStart char = false)
    (stops : regex.nullable = true -> ∀ opened captured,
      next ⟨previous, char :: rest, opened, captured⟩ = none) :
    regex.run ⟨previous, char :: rest, opened, captured⟩ next = none := by
  induction regex generalizing opened captured next with
  | empty => exact stops rfl opened captured
  | one accepts =>
      have rejected : accepts char = false := cannot
      simp only [run, rejected, Bool.false_eq_true, if_false]
  | andThen first second firstHypothesis secondHypothesis =>
      rw [canStart, Bool.or_eq_false_iff, Bool.and_eq_false_imp] at cannot
      apply firstHypothesis cannot.1
      intro firstNullable opened captured
      apply secondHypothesis (cannot.2 firstNullable)
      intro secondNullable
      apply stops
      rw [nullable, firstNullable, secondNullable]
      rfl
  | either first second firstHypothesis secondHypothesis =>
      rw [canStart, Bool.or_eq_false_iff] at cannot
      have firstFails :
          first.run ⟨previous, char :: rest, opened, captured⟩ next = none :=
        firstHypothesis cannot.1 fun isNullable =>
          stops (by rw [nullable, isNullable, Bool.true_or])
      have secondFails :
          second.run ⟨previous, char :: rest, opened, captured⟩ next = none :=
        secondHypothesis cannot.2 fun isNullable =>
          stops (by rw [nullable, isNullable, Bool.or_true])
      rw [run, firstFails, secondFails]
      rfl
  | many accepts =>
      have rejected : accepts char = false := cannot
      simp only [run, runMany, rejected, Bool.false_eq_true, if_false]
      exact stops rfl opened captured
  | group body inductionHypothesis =>
      apply inductionHypothesis cannot
      intro isNullable opened _
      exact stops isNullable none opened
  | lineStart =>
      simp only [run, stops rfl opened captured, ite_self]
  | lineEnd =>
      simp only [run, stops rfl opened captured, ite_self]
  | textStart =>
      simp only [run, stops rfl opened captured, ite_self]
  | textEnd =>
      simp only [run, stops rfl opened captured, ite_self]

theorem matchAt_of_canStart
    {regex : Regex} {previous : Option Char} {char : Char} {rest : Text}
    (consumes : regex.nullable = false)
    (cannot : regex.canStart char = false) :
    regex.matchAt previous (char :: rest) = none := by
  apply run_of_canStart cannot
  intro isNullable
  rw [consumes] at isNullable
  cases isNullable

/-- A search passes characters that no match starts with. -/
theorem searchFrom_skip
    {regex : Regex}
    (consumes : regex.nullable = false)
    (previous : Option Char)
    {skipped rest : Text}
    (cannot : ∀ char ∈ skipped, regex.canStart char = false) :
    ∃ last, regex.searchFrom previous (skipped ++ rest) = regex.searchFrom last rest := by
  induction skipped generalizing previous with
  | nil => exact ⟨previous, rfl⟩
  | cons char skipped inductionHypothesis =>
      rw [List.forall_mem_cons] at cannot
      obtain ⟨last, same⟩ := inductionHypothesis (some char) cannot.2
      refine ⟨last, ?_⟩
      rw [List.cons_append, searchFrom, matchAt_of_canStart consumes cannot.1, same]
      rfl

theorem searchFrom_of_matchAt
    {regex : Regex} {previous : Option Char} {text found : Text}
    (isMatch : regex.matchAt previous text = some found) :
    regex.searchFrom previous text = some found := by
  cases text with
  | nil => exact isMatch
  | cons char rest =>
      rw [searchFrom, isMatch]
      rfl

/-- Repetition takes all the characters that it accepts if the rest matches behind
them. -/
theorem runMany_eq_some
    {accepts : Char -> Bool} {next : Cursor -> Option β} {result : β}
    {taken rest : Text} {captured : Option Text}
    (accepted : ∀ char ∈ taken, accepts char = true)
    (stops : ∀ char ∈ rest.head?, accepts char = false)
    (previous : Option Char)
    (opened : Option Text)
    (matchesBehind : ∀ previous, next ⟨previous, rest,
      opened.map (fun text => text ++ taken), captured⟩ = some result) :
    runMany accepts next (taken ++ rest) ⟨previous, taken ++ rest, opened, captured⟩ =
      some result := by
  induction taken generalizing previous opened with
  | nil =>
      have here := matchesBehind previous
      simp only [List.append_nil, Option.map_id'] at here
      cases rest with
      | nil => exact here
      | cons char rest =>
          have rejected : accepts char = false := stops char rfl
          rw [List.nil_append, runMany, rejected]
          exact here
  | cons char taken inductionHypothesis =>
      rw [List.forall_mem_cons] at accepted
      have longer := inductionHypothesis accepted.2 (some char)
        (opened.map fun text => text ++ [char]) (by
          intro previous
          simpa [Option.map_map, Function.comp_def] using matchesBehind previous)
      rw [List.cons_append, runMany, accepted.1, if_pos rfl]
      change Option.or (runMany accepts next (taken ++ rest) ⟨some char, taken ++ rest,
        opened.map fun text => text ++ [char], captured⟩) _ = some result
      rw [longer]
      rfl

/-! ## Patterns within a line -/

/-- The pattern has no anchors and accepts no newline. -/
def WithinLine : Regex -> Prop
  | .empty => True
  | .one accepts | .many accepts => accepts '\n' = false
  | .andThen first second | .either first second => first.WithinLine ∧ second.WithinLine
  | .group body => body.WithinLine
  | .lineStart | .lineEnd | .textStart | .textEnd => False

instance decidableWithinLine : (regex : Regex) -> Decidable regex.WithinLine
  | .empty => .isTrue trivial
  | .one accepts | .many accepts => inferInstanceAs (Decidable (accepts '\n' = false))
  | .andThen first second | .either first second =>
      let _ := decidableWithinLine first
      let _ := decidableWithinLine second
      inferInstanceAs (Decidable (first.WithinLine ∧ second.WithinLine))
  | .group body => decidableWithinLine body
  | .lineStart | .lineEnd | .textStart | .textEnd => .isFalse id

section WithinLine

variable {next next' : Cursor -> Option β}

/-- A line ends in front of the text. -/
def LineStop (behind : Text) : Prop :=
  ∀ char ∈ behind.head?, char = '\n'

/-- Two continuations agree on places in the same line, whatever is in front of it and
behind it. -/
def AgreeBefore
    (behind behind' : Text)
    (next next' : Cursor -> Option β) : Prop :=
  ∀ previous previous' line opened captured,
    next ⟨previous, line ++ behind, opened, captured⟩ =
      next' ⟨previous', line ++ behind', opened, captured⟩

theorem runMany_lineStop
    {accepts : Char -> Bool} {behind : Text}
    (noNewline : accepts '\n' = false)
    (stops : LineStop behind)
    (cursor : Cursor) :
    runMany accepts next behind cursor = next cursor := by
  cases behind with
  | nil => rfl
  | cons char rest => rw [stops char rfl, runMany, noNewline, if_neg Bool.false_ne_true]

/-- A pattern within a line does not see where the line starts and what is behind it. -/
theorem run_lineStop
    {regex : Regex} {behind behind' : Text}
    (within : regex.WithinLine)
    (stops : LineStop behind)
    (stops' : LineStop behind')
    (agree : AgreeBefore behind behind' next next') :
    AgreeBefore behind behind' (fun cursor => regex.run cursor next)
      (fun cursor => regex.run cursor next') := by
  induction regex generalizing next next' with
  | empty => exact agree
  | one accepts =>
      have fails {behind : Text} {continuation : Cursor -> Option β}
          (stops : LineStop behind) (previous : Option Char) (opened captured : Option Text) :
          (one accepts).run ⟨previous, behind, opened, captured⟩ continuation = none := by
        cases behind with
        | nil => rfl
        | cons char rest =>
            have rejected : accepts char = false := by
              rw [stops char rfl]
              exact within
            simp only [run, rejected, Bool.false_eq_true, if_false]
      intro previous previous' line opened captured
      cases line with
      | nil => exact (fails stops _ _ _).trans (fails stops' _ _ _).symm
      | cons char line =>
          simp only [run, List.cons_append]
          cases accepted : accepts char with
          | true => exact agree (some char) (some char) line _ captured
          | false => rfl
  | andThen first second firstHypothesis secondHypothesis =>
      exact firstHypothesis within.1 (secondHypothesis within.2 agree)
  | either first second firstHypothesis secondHypothesis =>
      intro previous previous' line opened captured
      exact congrArg₂ Option.or
        (firstHypothesis within.1 agree previous previous' line opened captured)
        (secondHypothesis within.2 agree previous previous' line opened captured)
  | many accepts =>
      intro previous previous' line opened captured
      change runMany accepts next (line ++ behind) _ = runMany accepts next' (line ++ behind') _
      induction line generalizing previous previous' opened with
      | nil =>
          rw [List.nil_append, List.nil_append, runMany_lineStop within stops,
            runMany_lineStop within stops']
          exact agree previous previous' [] opened captured
      | cons char line inductionHypothesis =>
          rw [List.cons_append, List.cons_append, runMany, runMany]
          cases accepted : accepts char with
          | true =>
              have longer := inductionHypothesis (some char) (some char)
                (opened.map fun text => text ++ [char])
              rw [if_pos rfl, if_pos rfl]
              exact congrArg₂ Option.or longer
                (agree previous previous' (char :: line) opened captured)
          | false => exact agree previous previous' (char :: line) opened captured
  | group body inductionHypothesis =>
      have closes : AgreeBefore behind behind'
          (fun after => next { after with opened := none, captured := after.opened })
          (fun after => next' { after with opened := none, captured := after.opened }) :=
        fun previous previous' line opened _ => agree previous previous' line none opened
      intro previous previous' line opened captured
      exact inductionHypothesis within closes previous previous' line (some []) captured
  | _ => cases within

/-- A pattern within a line is matched in the line. -/
theorem matchAt_lineStop
    {regex : Regex} {behind behind' : Text}
    (within : regex.WithinLine)
    (stops : LineStop behind)
    (stops' : LineStop behind')
    (previous previous' : Option Char)
    (line : Text) :
    regex.matchAt previous (line ++ behind) = regex.matchAt previous' (line ++ behind') := by
  have agree : AgreeBefore behind behind' (fun cursor => some (cursor.captured.getD []))
      (fun cursor => some (cursor.captured.getD [])) :=
    fun _ _ _ _ _ => rfl
  exact run_lineStop within stops stops' agree previous previous' line none none

theorem matchAt_withinLine
    {regex : Regex}
    (within : regex.WithinLine)
    (previous : Option Char)
    (line behind behind' : Text) :
    regex.matchAt previous (line ++ '\n' :: behind) =
      regex.matchAt previous (line ++ '\n' :: behind') := by
  have stops (rest : Text) : LineStop ('\n' :: rest) := by
    rintro char ⟨⟩
    rfl
  exact matchAt_lineStop within (stops behind) (stops behind') previous previous line

end WithinLine

/-! ## Splitting a text -/

/-- Split a text in front of the lines at which the pattern matches, behind a
piece that is being read. -/
def splitFrom (ahead : Regex) (piece : Text) (atStart : Bool) : Text -> List Text
  | [] =>
      if atStart && (ahead.matchAt none []).isSome then [piece, []] else [piece]
  | char :: rest =>
      if atStart && (ahead.matchAt none (char :: rest)).isSome then
        piece :: splitFrom ahead [char] (char == '\n') rest
      else splitFrom ahead (piece ++ [char]) (char == '\n') rest

/-- `re.split` with `(?m)^(?=...)`, for a pattern without anchors. -/
def splitAhead (ahead : Regex) (text : Text) : List Text :=
  splitFrom ahead [] true text

/-- What is in front of the piece that is being read stays in front. -/
theorem splitFrom_piece
    (ahead : Regex)
    (piece : Text)
    (atStart : Bool)
    (text : Text) :
    ∃ first rest, splitFrom ahead piece atStart text = first :: rest ∧
      ∀ before, splitFrom ahead (before ++ piece) atStart text =
        (before ++ first) :: rest := by
  induction text generalizing piece atStart with
  | nil =>
      simp only [splitFrom]
      split
      · exact ⟨piece, [[]], rfl, fun _ => rfl⟩
      · exact ⟨piece, [], rfl, fun _ => rfl⟩
  | cons char text inductionHypothesis =>
      simp only [splitFrom]
      split
      · exact ⟨piece, _, rfl, fun _ => rfl⟩
      · obtain ⟨first, rest, pieces_eq, prepend⟩ :=
          inductionHypothesis (piece ++ [char]) (char == '\n')
        refine ⟨first, rest, pieces_eq, ?_⟩
        intro before
        rw [List.append_assoc]
        exact prepend before

section Split

variable {ahead : Regex}

/-- A text of whole lines is split by itself. -/
theorem splitFrom_lines
    (within : ahead.WithinLine)
    (consumes : ahead.matchAt none [] = none)
    (piece : Text)
    (atStart : Bool)
    (line : Text) :
    ∃ init last, splitFrom ahead piece atStart (line ++ ['\n']) = init ++ [last] ∧
      ∀ behind, splitFrom ahead piece atStart (line ++ '\n' :: behind) =
        init ++ splitFrom ahead last true behind := by
  induction line generalizing piece atStart with
  | nil =>
      simp only [List.nil_append, splitFrom, beq_self_eq_true, Bool.true_and, consumes,
        Option.isSome_none, Bool.false_eq_true, if_false]
      have same (behind : Text) : ahead.matchAt none ('\n' :: behind) =
          ahead.matchAt none ['\n'] :=
        matchAt_withinLine within none [] behind []
      simp only [same]
      split
      · exact ⟨[piece], ['\n'], rfl, fun _ => rfl⟩
      · exact ⟨[], piece ++ ['\n'], rfl, fun _ => rfl⟩
  | cons char line inductionHypothesis =>
      simp only [List.cons_append, splitFrom]
      have same (behind : Text) : ahead.matchAt none (char :: (line ++ '\n' :: behind)) =
          ahead.matchAt none (char :: (line ++ ['\n'])) :=
        matchAt_withinLine within none (char :: line) behind []
      simp only [same]
      split
      · obtain ⟨init, last, pieces_eq, continues⟩ :=
          inductionHypothesis [char] (char == '\n')
        refine ⟨piece :: init, last, ?_, ?_⟩
        · rw [pieces_eq, List.cons_append]
        · intro behind
          rw [continues, List.cons_append]
      · exact inductionHypothesis (piece ++ [char]) (char == '\n')

/-- The pieces of a text make up the text. -/
theorem flatten_splitFrom
    (piece : Text)
    (atStart : Bool)
    (text : Text) :
    (splitFrom ahead piece atStart text).flatten = piece ++ text := by
  induction text generalizing piece atStart with
  | nil =>
      simp only [splitFrom]
      split <;> simp
  | cons char text inductionHypothesis =>
      simp only [splitFrom]
      split
      · rw [List.flatten_cons, inductionHypothesis]
        rfl
      · rw [inductionHypothesis, List.append_assoc]
        rfl

theorem flatten_splitAhead (text : Text) :
    (ahead.splitAhead text).flatten = text :=
  flatten_splitFrom [] true text

/-- Behind the first piece the text is split as it is on its own.  The first piece
consists of whole lines. -/
theorem splitFrom_behind
    (consumes : ahead.matchAt none [] = none)
    {piece first second text : Text} {atStart : Bool} {rest : List Text}
    (splits : splitFrom ahead piece atStart text = first :: second :: rest) :
    ∃ front behind, text = front ++ behind ∧ first = piece ++ front ∧
      (front = [] ∧ atStart = true ∨ ∃ line, front = line ++ ['\n']) ∧
        ahead.splitAhead behind = [] :: second :: rest := by
  induction text generalizing piece atStart with
  | nil => simp [splitFrom, consumes] at splits
  | cons char text inductionHypothesis =>
      rw [splitFrom] at splits
      split at splits
      case isTrue starts =>
        obtain ⟨rfl, rest_eq⟩ := List.cons.inj splits
        rw [Bool.and_eq_true] at starts
        refine ⟨[], char :: text, rfl, (List.append_nil _).symm, Or.inl ⟨rfl, starts.1⟩, ?_⟩
        rw [splitAhead, splitFrom, starts.2, Bool.true_and, if_pos rfl, rest_eq]
      case isFalse goesOn =>
        obtain ⟨front, behind, rfl, first_eq, lines, splitsBehind⟩ :=
          inductionHypothesis splits
        refine ⟨char :: front, behind, rfl, ?_, Or.inr ?_, splitsBehind⟩
        · rw [first_eq, List.append_assoc]
          rfl
        · rcases lines with ⟨rfl, isNewline⟩ | ⟨line, rfl⟩
          · exact ⟨[], by rw [beq_iff_eq.mp isNewline]; rfl⟩
          · exact ⟨char :: line, rfl⟩

/-- Whole lines are split in the same way in front of all texts at whose start the
pattern matches. -/
theorem splitAhead_lines
    (within : ahead.WithinLine)
    (consumes : ahead.matchAt none [] = none)
    (line : Text) :
    ∃ init last, ahead.splitAhead (line ++ ['\n']) = init ++ [last] ∧
      ∀ behind pieces, ahead.splitAhead behind = [] :: pieces ->
        ahead.splitAhead (line ++ ['\n'] ++ behind) = init ++ last :: pieces := by
  obtain ⟨init, last, pieces_eq, continues⟩ :=
    splitFrom_lines within consumes [] true line
  refine ⟨init, last, pieces_eq, ?_⟩
  intro behind pieces splitsBehind
  obtain ⟨first, rest, behind_eq, prepend⟩ := splitFrom_piece ahead [] true behind
  have splitsAt : ahead.splitAhead behind = first :: rest := behind_eq
  rw [splitsBehind] at splitsAt
  obtain ⟨rfl, rfl⟩ := List.cons.inj splitsAt
  have lastPieces : splitFrom ahead last true behind = last :: pieces := by
    simpa using prepend last
  rw [List.append_assoc, List.singleton_append, splitAhead, continues, lastPieces]

/-- The text is a piece: it consists of whole lines, and the pattern matches at
the first of them only. -/
structure IsPiece (ahead : Regex) (text : Text) : Prop where
  lines : ∃ line, text = line ++ ['\n']
  splits : ahead.splitAhead text = [[], text]

/-- One more piece in front of pieces. -/
theorem splitAhead_piece
    (within : ahead.WithinLine)
    (consumes : ahead.matchAt none [] = none)
    {piece behind : Text} {pieces : List Text}
    (isPiece : IsPiece ahead piece)
    (splitsBehind : ahead.splitAhead behind = [] :: pieces) :
    ahead.splitAhead (piece ++ behind) = [] :: piece :: pieces := by
  obtain ⟨line, rfl⟩ := isPiece.lines
  obtain ⟨init, last, pieces_eq, continues⟩ := splitAhead_lines within consumes line
  rw [isPiece.splits] at pieces_eq
  have initLength : init.length = 1 := by
    simpa using congrArg List.length pieces_eq
  obtain ⟨rfl, last_eq⟩ := List.append_inj
    (show [[]] ++ [line ++ ['\n']] = init ++ [last] from pieces_eq) initLength.symm
  obtain ⟨rfl, -⟩ := List.cons.inj last_eq
  exact continues behind pieces splitsBehind

/-- Nothing but pieces is split into them. -/
theorem splitAhead_flatten
    (within : ahead.WithinLine)
    (consumes : ahead.matchAt none [] = none)
    {pieces : List Text}
    (arePieces : ∀ piece ∈ pieces, IsPiece ahead piece) :
    ahead.splitAhead pieces.flatten = [] :: pieces := by
  induction pieces with
  | nil => simp [splitAhead, splitFrom, consumes]
  | cons piece pieces inductionHypothesis =>
      rw [List.forall_mem_cons] at arePieces
      rw [List.flatten_cons]
      exact splitAhead_piece within consumes arePieces.1 (inductionHypothesis arePieces.2)

/-- Pieces that are put in behind the first piece of a text are pieces of the
text. -/
theorem splitAhead_insert
    (within : ahead.WithinLine)
    (consumes : ahead.matchAt none [] = none)
    {text front second : Text} {rest inserted : List Text}
    (splits : ahead.splitAhead text = front :: second :: rest)
    (arePieces : ∀ piece ∈ inserted, IsPiece ahead piece) :
    ahead.splitAhead (front ++ inserted.flatten ++ (second :: rest).flatten) =
      front :: (inserted ++ second :: rest) := by
  obtain ⟨front', behind, rfl, rfl, lines, splitsBehind⟩ :=
    splitFrom_behind consumes splits
  have behind_eq : (second :: rest).flatten = behind := by
    simpa [splitsBehind] using @flatten_splitAhead ahead behind
  have splitsInserted :
      ahead.splitAhead (inserted.flatten ++ behind) = [] :: (inserted ++ second :: rest) := by
    induction inserted with
    | nil => exact splitsBehind
    | cons piece inserted inductionHypothesis =>
        rw [List.forall_mem_cons] at arePieces
        rw [List.flatten_cons, List.append_assoc]
        exact splitAhead_piece within consumes arePieces.1
          (inductionHypothesis arePieces.2)
  rw [behind_eq, List.append_assoc]
  rcases lines with ⟨rfl, -⟩ | ⟨line, rfl⟩
  · exact splitsInserted
  · obtain ⟨init, last, -, continues⟩ := splitAhead_lines within consumes line
    have pieces_eq := (continues behind _ splitsBehind).symm.trans splits
    have initEmpty : init = [] := by
      have lengths := congrArg List.length pieces_eq
      simpa using lengths
    rw [initEmpty] at pieces_eq continues
    obtain ⟨rfl, -⟩ := List.cons.inj pieces_eq
    exact continues _ _ splitsInserted

/-- The rest of a line belongs to the piece. -/
theorem splitFrom_rest
    (piece : Text)
    {line : Text}
    (oneLine : '\n' ∉ line)
    (behind : Text) :
    splitFrom ahead piece false (line ++ '\n' :: behind) =
      splitFrom ahead (piece ++ line ++ ['\n']) true behind := by
  induction line generalizing piece with
  | nil => simp [splitFrom]
  | cons char line inductionHypothesis =>
      rw [List.mem_cons, not_or] at oneLine
      have inside : (char == '\n') = false := beq_eq_false_iff_ne.mpr (Ne.symm oneLine.1)
      rw [List.cons_append, splitFrom, inside, Bool.false_and, if_neg Bool.false_ne_true,
        inductionHypothesis _ oneLine.2]
      simp

/-- So does a line that the pattern cannot start with. -/
theorem splitFrom_indented
    (consumes : ahead.nullable = false)
    (piece : Text)
    {char : Char} {line : Text}
    (oneLine : '\n' ∉ char :: line)
    (cannot : ahead.canStart char = false)
    (behind : Text) :
    splitFrom ahead piece true (char :: line ++ '\n' :: behind) =
      splitFrom ahead (piece ++ char :: line ++ ['\n']) true behind := by
  rw [List.mem_cons, not_or] at oneLine
  have inside : (char == '\n') = false := beq_eq_false_iff_ne.mpr (Ne.symm oneLine.1)
  have noMatch (rest : Text) : ahead.matchAt none (char :: rest) = none :=
    matchAt_of_canStart consumes cannot
  rw [List.cons_append, splitFrom, noMatch, Option.isSome_none, Bool.and_false,
    if_neg Bool.false_ne_true, inside, splitFrom_rest _ oneLine.2]
  simp

/-- The lines of a text. -/
def unlines (lines : List Text) : Text :=
  lines.flatMap fun line => line ++ ['\n']

/-- A line on its own that the pattern cannot start with. -/
def Indented (ahead : Regex) (line : Text) : Prop :=
  '\n' ∉ line ∧ ∃ char ∈ line.head?, ahead.canStart char = false

theorem splitFrom_unlines
    (consumes : ahead.nullable = false)
    (noEmpty : ahead.matchAt none [] = none)
    (piece : Text)
    {others : List Text}
    (indented : ∀ other ∈ others, Indented ahead other) :
    splitFrom ahead piece true (unlines others) = [piece ++ unlines others] := by
  induction others generalizing piece with
  | nil => simp [unlines, splitFrom, noEmpty]
  | cons other others inductionHypothesis =>
      rw [List.forall_mem_cons] at indented
      obtain ⟨oneLine, char, isFirst, cannot⟩ := indented.1
      obtain ⟨rest, rfl⟩ := List.head?_eq_some_iff.mp isFirst
      have unlines_eq : unlines ((char :: rest) :: others) =
          char :: rest ++ '\n' :: unlines others := by
        simp [unlines]
      rw [unlines_eq, splitFrom_indented consumes piece oneLine cannot,
        inductionHypothesis _ indented.2]
      simp

/-- A piece from its lines: the pattern matches at the first line and cannot
start with another. -/
theorem isPiece_of_lines
    {first : Text} {others : List Text}
    (within : ahead.WithinLine)
    (consumes : ahead.nullable = false)
    (noEmpty : ahead.matchAt none [] = none)
    (nonempty : first ≠ [])
    (matchesFirst : (ahead.matchAt none (first ++ ['\n'])).isSome = true)
    (oneLine : '\n' ∉ first)
    (indented : ∀ other ∈ others, Indented ahead other) :
    IsPiece ahead (unlines (first :: others)) := by
  obtain ⟨char, first, rfl⟩ := List.exists_cons_of_ne_nil nonempty
  have unlines_eq : unlines ((char :: first) :: others) =
      char :: first ++ '\n' :: unlines others := by
    simp [unlines]
  rw [List.mem_cons, not_or] at oneLine
  have inside : (char == '\n') = false := beq_eq_false_iff_ne.mpr (Ne.symm oneLine.1)
  constructor
  · rcases List.eq_nil_or_concat others with rfl | ⟨init, last, rfl⟩
    · exact ⟨char :: first, by simp [unlines]⟩
    · exact ⟨unlines ((char :: first) :: init) ++ last, by simp [unlines]⟩
  · have startsHere : (ahead.matchAt none (char :: (first ++ '\n' :: unlines others))).isSome =
        true := by
      have same := matchAt_withinLine within none (char :: first) (unlines others) []
      rw [List.cons_append] at same
      rw [same]
      exact matchesFirst
    rw [unlines_eq, splitAhead, List.cons_append, splitFrom, startsHere, Bool.true_and,
      if_pos rfl, inside, splitFrom_rest _ oneLine.2,
      splitFrom_unlines consumes noEmpty _ indented]
    simp

end Split

end Regex
end Foundation
end BoschBle
