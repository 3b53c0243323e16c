import BoschBle.Foundation.RegexLines

/-!
# Texts of records

A text that is put together from records, each of which starts with a line that the
pattern matches and goes on with lines that it does not, is split into the records
again.
-/

namespace BoschBle
namespace Foundation
namespace Regex

/-! ## Records -/

/-- Lines that belong together: the pattern matches at no line but perhaps the first. -/
structure Block (ahead : Regex) where
  first : Text
  rest : List Text
  oneLine : ∀ line ∈ first :: rest, '\n' ∉ line
  inside : ∀ line ∈ rest, ahead.matchAt none line = none

/-- A block that the pattern matches at. -/
structure Record (ahead : Regex) extends Block ahead where
  starts : (ahead.matchAt none first).isSome = true

variable {ahead : Regex}

namespace Block

/-- The lines of a block. -/
def lines (block : Block ahead) : List Text :=
  block.first :: block.rest

/-- The text of a block. -/
def text (block : Block ahead) : Text :=
  joinLines block.first block.rest

/-- The text of the block ends with a newline. -/
def Ended (block : Block ahead) : Prop :=
  block.rest.getLast? = some []

/-- The block without lines. -/
def none : Block ahead where
  first := []
  rest := []
  oneLine := by simp
  inside := nofun

/-- The block with one more newline behind it. -/
def spaced (noEmpty : ahead.matchAt Option.none [] = Option.none) (block : Block ahead) :
    Block ahead where
  first := block.first
  rest := block.rest ++ [[]]
  oneLine := by
    intro line isLine
    rw [← List.cons_append, List.mem_append, List.mem_singleton] at isLine
    rcases isLine with isLine | rfl
    · exact block.oneLine line isLine
    · exact List.not_mem_nil
  inside := by
    intro line isLine
    rw [List.mem_append, List.mem_singleton] at isLine
    rcases isLine with isLine | rfl
    · exact block.inside line isLine
    · exact noEmpty

theorem text_spaced
    (noEmpty : ahead.matchAt Option.none [] = Option.none)
    (block : Block ahead) :
    (block.spaced noEmpty).text = block.text ++ ['\n'] := by
  simp [text, joinLines, spaced]

theorem lines_spaced
    (noEmpty : ahead.matchAt Option.none [] = Option.none)
    (block : Block ahead) :
    (block.spaced noEmpty).lines = block.lines ++ [[]] :=
  rfl

theorem ended_spaced
    (noEmpty : ahead.matchAt Option.none [] = Option.none)
    (block : Block ahead) :
    (block.spaced noEmpty).Ended :=
  List.getLast?_concat

end Block

/-! ## Splitting into records -/

section Split

variable {piece : Text}

/-- The piece goes on where the pattern does not match. -/
theorem splitFrom_goesOn
    {text : Text}
    (misses : ahead.matchAt none text = none) :
    splitFrom ahead piece true text = splitFrom ahead piece false text := by
  cases text with
  | nil => rw [splitFrom, splitFrom, misses]; rfl
  | cons char rest => rw [splitFrom, splitFrom, misses]; rfl

/-- It ends where the pattern matches. -/
theorem splitFrom_starts
    {text : Text}
    (nonempty : text ≠ [])
    (starts : (ahead.matchAt none text).isSome = true) :
    splitFrom ahead piece true text = piece :: splitFrom ahead [] false text := by
  cases text with
  | nil => cases nonempty rfl
  | cons char rest => rw [splitFrom, splitFrom, starts]; rfl

/-- A last line belongs to the piece. -/
theorem splitFrom_lastLine
    {line : Text}
    (oneLine : '\n' ∉ line) :
    splitFrom ahead piece false line = [piece ++ line] := by
  induction line generalizing piece with
  | nil => rw [List.append_nil]; rfl
  | cons char line inductionHypothesis =>
      rw [List.mem_cons, not_or] at oneLine
      have inside : (char == '\n') = false := beq_eq_false_iff_ne.mpr (Ne.symm oneLine.1)
      rw [splitFrom, inside, Bool.false_and, if_neg Bool.false_ne_true,
        inductionHypothesis oneLine.2, List.append_assoc, List.singleton_append]

theorem lineStop_flatMap (rest : List Text) :
    LineStop (rest.flatMap fun line => '\n' :: line) := by
  cases rest with
  | nil => exact nofun
  | cons line rest => exact lineStop_newline _

/-- Whether the pattern matches at lines is decided in the first of them. -/
theorem matchAt_joinLines
    (within : ahead.WithinLine)
    (first : Text)
    (rest : List Text) :
    ahead.matchAt none (joinLines first rest) = ahead.matchAt none first := by
  have moved := matchAt_lineStop within (lineStop_flatMap rest)
    (show LineStop [] from nofun) none none first
  rwa [List.append_nil] at moved

theorem joinLines_append
    (first : Text)
    {rest : List Text}
    (ended : rest.getLast? = some [])
    (behind : Text) :
    ∃ lines, rest = lines ++ [[]] ∧
      joinLines first rest ++ behind = joinLines first (lines ++ [behind]) := by
  obtain ⟨lines, rfl⟩ := List.getLast?_eq_some_iff.mp ended
  exact ⟨lines, rfl, by simp [joinLines]⟩

/-- The lines behind the first belong to the piece. -/
theorem splitFrom_joinLines
    (within : ahead.WithinLine)
    {first : Text} {rest : List Text}
    (oneLine : ∀ line ∈ first :: rest, '\n' ∉ line)
    (inside : ∀ line ∈ rest, ahead.matchAt none line = none) :
    splitFrom ahead piece false (joinLines first rest) = [piece ++ joinLines first rest] := by
  induction rest generalizing first piece with
  | nil =>
      rw [joinLines, List.flatMap_nil, List.append_nil]
      exact splitFrom_lastLine (oneLine first List.mem_cons_self)
  | cons second rest inductionHypothesis =>
      rw [List.forall_mem_cons] at oneLine inside
      have goesOn : ahead.matchAt none (joinLines second rest) = none :=
        (matchAt_joinLines within second rest).trans inside.1
      rw [joinLines_cons, splitFrom_rest piece oneLine.1, splitFrom_goesOn goesOn,
        inductionHypothesis oneLine.2 inside.2]
      simp

/-- Behind them a line starts. -/
theorem splitFrom_ended
    (within : ahead.WithinLine)
    {first : Text} {rest : List Text}
    (oneLine : ∀ line ∈ first :: rest, '\n' ∉ line)
    (inside : ∀ line ∈ rest, ahead.matchAt none line = none)
    (ended : rest.getLast? = some [])
    (behind : Text) :
    splitFrom ahead piece false (joinLines first rest ++ behind) =
      splitFrom ahead (piece ++ joinLines first rest) true behind := by
  induction rest generalizing first piece with
  | nil => cases ended
  | cons second rest inductionHypothesis =>
      rw [List.forall_mem_cons] at oneLine inside
      have joined_eq : joinLines first (second :: rest) ++ behind =
          first ++ '\n' :: (joinLines second rest ++ behind) := by
        rw [joinLines_cons, List.append_assoc, List.cons_append]
      rw [joined_eq, splitFrom_rest piece oneLine.1]
      cases rest with
      | nil =>
          obtain rfl : second = [] := Option.some.inj ended
          simp [joinLines]
      | cons third rest =>
          have goesOn : ahead.matchAt none (joinLines second (third :: rest) ++ behind) =
              none := by
            obtain ⟨lines, -, appended⟩ := joinLines_append second
              (show (third :: rest).getLast? = some [] from ended) behind
            rw [appended, matchAt_joinLines within]
            exact inside.1
          rw [splitFrom_goesOn goesOn, inductionHypothesis oneLine.2 inside.2 ended,
            joinLines_cons first]
          simp

theorem Record.first_ne_nil
    (noEmpty : ahead.matchAt none [] = none)
    (record : Record ahead) :
    record.first ≠ [] := by
  intro isEmpty
  have starts := record.starts
  rw [isEmpty, noEmpty] at starts
  cases starts

/-- A piece ends in front of a record. -/
theorem splitFrom_record
    (within : ahead.WithinLine)
    (noEmpty : ahead.matchAt none [] = none)
    (record : Record ahead)
    {behind : Text}
    (ended : behind = [] ∨ record.Ended) :
    splitFrom ahead piece true (record.text ++ behind) =
      piece :: splitFrom ahead [] false (record.text ++ behind) := by
  have nonempty : record.text ++ behind ≠ [] := by
    simp [Block.text, joinLines, record.first_ne_nil noEmpty]
  have decided : ahead.matchAt none (record.text ++ behind) =
      ahead.matchAt none record.first := by
    rcases ended with rfl | ended
    · rw [List.append_nil]
      exact matchAt_joinLines within record.first record.rest
    · obtain ⟨lines, -, appended⟩ := joinLines_append record.first ended behind
      rw [Block.text, appended]
      exact matchAt_joinLines within record.first _
  apply splitFrom_starts nonempty
  rw [decided]
  exact record.starts

theorem splitFrom_records
    (within : ahead.WithinLine)
    (noEmpty : ahead.matchAt none [] = none)
    {records : List (Record ahead)}
    (ended : ∀ record ∈ records.dropLast, record.Ended) :
    splitFrom ahead piece true (records.flatMap fun record => record.text) =
      piece :: records.map fun record => record.text := by
  induction records generalizing piece with
  | nil => exact splitFrom_goesOn noEmpty
  | cons record records inductionHypothesis =>
      rw [List.flatMap_cons, List.map_cons]
      cases records with
      | nil =>
          rw [List.flatMap_nil, splitFrom_record within noEmpty record (Or.inl rfl),
            List.append_nil]
          exact congrArg (piece :: ·) (splitFrom_joinLines within record.oneLine record.inside)
      | cons second records =>
          rw [List.dropLast_cons_cons, List.forall_mem_cons] at ended
          rw [splitFrom_record within noEmpty record (Or.inr ended.1)]
          refine congrArg (piece :: ·) ?_
          exact (splitFrom_ended within record.oneLine record.inside ended.1 _).trans
            (inductionHypothesis ended.2)

end Split

/-! ## Texts of records -/

/-- Records one after the other, behind a block at whose start the pattern does not
match.  Where something follows, a block ends with a newline. -/
structure Records (ahead : Regex) where
  front : Block ahead
  records : List (Record ahead)
  silent : ahead.matchAt none front.first = none
  frontEnded : records ≠ [] -> front.text = [] ∨ front.Ended
  ended : ∀ record ∈ records.dropLast, record.Ended

namespace Records

/-- The text of the front and of all records. -/
def text (all : Records ahead) : Text :=
  all.front.text ++ all.records.flatMap fun record => record.text

/-- The texts of the front and of the records. -/
def pieces (all : Records ahead) : List Text :=
  all.front.text :: all.records.map fun record => record.text

/-- A text of records is split into the records. -/
theorem splitAhead_text
    (within : ahead.WithinLine)
    (noEmpty : ahead.matchAt none [] = none)
    (all : Records ahead) :
    ahead.splitAhead all.text = all.pieces := by
  obtain ⟨front, records, silent, frontEnded, ended⟩ := all
  have frontGoesOn : ahead.matchAt none front.text = none :=
    (matchAt_joinLines within front.first front.rest).trans silent
  rw [splitAhead, text, pieces]
  dsimp only
  cases records with
  | nil =>
      rw [List.flatMap_nil, List.append_nil, splitFrom_goesOn frontGoesOn]
      exact splitFrom_joinLines within front.oneLine front.inside
  | cons record records =>
      rcases frontEnded (List.cons_ne_nil _ _) with isEmpty | frontEnded
      · rw [isEmpty, List.nil_append]
        exact splitFrom_records within noEmpty ended
      · have goesOn : ahead.matchAt none (front.text ++
            (record :: records).flatMap fun record => record.text) = none := by
          obtain ⟨lines, -, appended⟩ := joinLines_append front.first frontEnded
            ((record :: records).flatMap fun record => record.text)
          rw [Block.text, appended, matchAt_joinLines within, silent]
        rw [splitFrom_goesOn goesOn]
        exact (splitFrom_ended within front.oneLine front.inside frontEnded _).trans
          (splitFrom_records within noEmpty ended)

end Records

/-! ## Records that are joined again -/

/-- The record with one more newline behind it. -/
def Record.spaced (noEmpty : ahead.matchAt none [] = none) (record : Record ahead) :
    Record ahead where
  toBlock := record.toBlock.spaced noEmpty
  starts := record.starts

/-- The records with an empty line between any two of them. -/
def rejoin (noEmpty : ahead.matchAt none [] = none) : List (Record ahead) -> List (Record ahead)
  | [] => []
  | [last] => [last]
  | first :: second :: rest => first.spaced noEmpty :: rejoin noEmpty (second :: rest)

section Rejoin

variable (noEmpty : ahead.matchAt none [] = none) (records : List (Record ahead))

theorem flatMap_rejoin :
    ((rejoin noEmpty records).flatMap fun record => record.text) =
      ['\n'].intercalate (records.map fun record => record.text) := by
  induction records using rejoin.induct with
  | case1 => rfl
  | case2 last => simp [rejoin]
  | case3 first second rest inductionHypothesis =>
      rw [rejoin, List.flatMap_cons, inductionHypothesis]
      have spacedText : (first.spaced noEmpty).text = first.text ++ ['\n'] :=
        Block.text_spaced noEmpty first.toBlock
      rw [spacedText]
      simp [List.intercalate]

theorem rejoin_ne_nil
    (record : Record ahead) :
    rejoin noEmpty (record :: records) ≠ [] := by
  cases records with
  | nil => exact List.cons_ne_nil _ _
  | cons second rest => exact List.cons_ne_nil _ _

theorem ended_rejoin :
    ∀ record ∈ (rejoin noEmpty records).dropLast, record.Ended := by
  induction records using rejoin.induct with
  | case1 => exact nofun
  | case2 last => exact nofun
  | case3 first second rest inductionHypothesis =>
      rw [rejoin, List.dropLast_cons_of_ne_nil (rejoin_ne_nil noEmpty rest second),
        List.forall_mem_cons]
      exact ⟨Block.ended_spaced noEmpty first.toBlock, inductionHypothesis⟩

/-- What does not depend on the newline is found in the records again. -/
theorem filterMap_rejoin
    {found : Record ahead -> Option β}
    (same : ∀ record ∈ records, found (record.spaced noEmpty) = found record) :
    (rejoin noEmpty records).filterMap found = records.filterMap found := by
  induction records using rejoin.induct with
  | case1 => rfl
  | case2 last => rfl
  | case3 first second rest inductionHypothesis =>
      rw [List.forall_mem_cons] at same
      rw [rejoin, List.filterMap_cons, List.filterMap_cons, same.1, inductionHypothesis same.2]

end Rejoin

/-- Pieces of a text of records that are joined by newlines are the text of the chosen
records. -/
theorem Records.exists_rejoined
    (noEmpty : ahead.matchAt none [] = none)
    (all : Records ahead)
    (keeps : Text -> Bool) :
    ∃ own : Records ahead, own.text = ['\n'].intercalate (all.pieces.filter keeps) ∧
      own.records = rejoin noEmpty (all.records.filter fun record => keeps record.text) ∧
        (own.front.first = [] ∨ own.front.first = all.front.first) := by
  have ended := ended_rejoin noEmpty (all.records.filter fun record => keeps record.text)
  have chosenTexts : (all.records.map fun record => record.text).filter keeps =
      (all.records.filter fun record => keeps record.text).map fun record => record.text :=
    List.filter_map
  have joined := flatMap_rejoin noEmpty (all.records.filter fun record => keeps record.text)
  rw [pieces, List.filter_cons, chosenTexts]
  cases keeps all.front.text with
  | false =>
      exact ⟨⟨Block.none, _, noEmpty, fun _ => Or.inl rfl, ended⟩, joined, rfl, Or.inl rfl⟩
  | true =>
      cases chosen : all.records.filter fun record => keeps record.text with
      | nil =>
          refine ⟨⟨all.front, [], all.silent, nofun, nofun⟩, ?_, rfl, Or.inr rfl⟩
          simp [Records.text]
      | cons record records =>
          rw [chosen] at ended joined
          refine ⟨⟨all.front.spaced noEmpty, _, all.silent,
            fun _ => Or.inr (Block.ended_spaced noEmpty all.front), ended⟩, ?_, rfl, Or.inr rfl⟩
          rw [Records.text, joined, Block.text_spaced]
          simp [List.intercalate]

end Regex
end Foundation
end BoschBle
