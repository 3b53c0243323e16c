import Mathlib.Data.List.DropRight

/-!
# Text

The string methods that the program applies to the output of tools, on lists of
characters.  Case is that of ASCII: letters outside of it stay as they are, where
the methods of Python change them too (a Kelvin sign becomes a `k`, and a long
s an `S`).  Addresses and the words that the program looks for are ASCII.
-/

namespace BoschBle
namespace Foundation

/-- A text as its characters. -/
abbrev Text : Type :=
  List Char

namespace Text

/-- `str.isspace` of one character. -/
def isSpace (char : Char) : Bool :=
  let code := char.toNat
  (0x09 ≤ code && code ≤ 0x0d) || (0x1c ≤ code && code ≤ 0x20) || code == 0x85 ||
    code == 0xa0 || code == 0x1680 || (0x2000 ≤ code && code ≤ 0x200a) ||
      code == 0x2028 || code == 0x2029 || code == 0x202f || code == 0x205f ||
        code == 0x3000

/-- The characters at which `str.splitlines` splits. -/
def isLineBreak (char : Char) : Bool :=
  let code := char.toNat
  (0x0a ≤ code && code ≤ 0x0d) || (0x1c ≤ code && code ≤ 0x1e) || code == 0x85 ||
    code == 0x2028 || code == 0x2029

/-- `str.strip`. -/
def strip (text : Text) : Text :=
  (text.dropWhile isSpace).rdropWhile isSpace

/-- `str.lower` of an ASCII text. -/
def lower (text : Text) : Text :=
  text.map Char.toLower

/-- `str.upper` of an ASCII text. -/
def upper (text : Text) : Text :=
  text.map Char.toUpper

/-- The lines behind a line that is being read.  A carriage return and a
newline are one line break. -/
def splitLinesFrom (line : Text) : Text -> List Text
  | [] => if line = [] then [] else [line]
  | '\r' :: '\n' :: rest => line :: splitLinesFrom [] rest
  | char :: rest =>
      if isLineBreak char then line :: splitLinesFrom [] rest
      else splitLinesFrom (line ++ [char]) rest

/-- `str.splitlines`. -/
def splitLines (text : Text) : List Text :=
  splitLinesFrom [] text

/-- The words behind a word that is being read. -/
def splitWordsFrom (word : Text) : Text -> List Text
  | [] => if word = [] then [] else [word]
  | char :: rest =>
      if isSpace char then
        if word = [] then splitWordsFrom [] rest
        else word :: splitWordsFrom [] rest
      else splitWordsFrom (word ++ [char]) rest

/-- `str.split` without a separator. -/
def splitWords (text : Text) : List Text :=
  splitWordsFrom [] text

/-- `str.split` without a separator, with a number of splits at most.  The text
behind them keeps its white space at the end. -/
def splitWordsMax : Nat -> Text -> List Text
  | 0, text =>
      let rest := text.dropWhile isSpace
      if rest = [] then [] else [rest]
  | count + 1, text =>
      let rest := text.dropWhile isSpace
      if rest = [] then []
      else
        rest.takeWhile (fun char => !isSpace char) ::
          splitWordsMax count (rest.dropWhile fun char => !isSpace char)

/-- The text from the first place where a word occurs. -/
def suffixFrom (word : Text) : Text -> Option Text
  | [] => if word = [] then some [] else none
  | char :: rest =>
      if word.isPrefixOf (char :: rest) then some (char :: rest)
      else suffixFrom word rest

/-- `word in text`. -/
def contains (word text : Text) : Bool :=
  (suffixFrom word text).isSome

/-! ## White space -/

/-- White space only. -/
def Blank (text : Text) : Prop :=
  ∀ char ∈ text, isSpace char = true

/-- At least one character and no white space. -/
def IsWord (text : Text) : Prop :=
  text ≠ [] ∧ ∀ char ∈ text, isSpace char = false

/-- The text starts and ends with something else than white space. -/
def Trimmed (text : Text) : Prop :=
  text ≠ [] ∧ (∀ char ∈ text.head?, isSpace char = false) ∧
    ∀ char ∈ text.getLast?, isSpace char = false

theorem trimmed_of_ends
    {text : Text} {first last : Char}
    (isFirst : text.head? = some first)
    (isLast : text.getLast? = some last)
    (firstVisible : isSpace first = false)
    (lastVisible : isSpace last = false) :
    Trimmed text := by
  refine ⟨?_, ?_, ?_⟩
  · rintro rfl
    cases isFirst
  · rw [isFirst]
    intro char same
    cases same
    exact firstVisible
  · rw [isLast]
    intro char same
    cases same
    exact lastVisible

theorem dropWhile_blank
    {spaces body : Text}
    (blank : Blank spaces)
    (starts : ∀ char ∈ body.head?, isSpace char = false) :
    (spaces ++ body).dropWhile isSpace = body := by
  rw [List.dropWhile_append_of_pos blank]
  cases body with
  | nil => rfl
  | cons char body =>
      rw [List.dropWhile_cons_of_neg]
      rw [starts char rfl]
      exact Bool.false_ne_true

/-- Stripping removes the white space at both ends. -/
theorem strip_of_trimmed
    {front body back : Text}
    (blankFront : Blank front)
    (trimmed : Trimmed body)
    (blankBack : Blank back) :
    strip (front ++ body ++ back) = body := by
  obtain ⟨nonempty, starts, ends⟩ := trimmed
  have headOfAppend : ∀ char ∈ (body ++ back).head?, isSpace char = false := by
    intro char isHead
    rw [List.head?_append_of_ne_nil _ nonempty] at isHead
    exact starts char isHead
  have blankReverse : Blank back.reverse := fun char present =>
    blankBack char (List.mem_reverse.mp present)
  have headOfReverse : ∀ char ∈ body.reverse.head?, isSpace char = false := by
    rw [List.head?_reverse]
    exact ends
  rw [strip, List.append_assoc, dropWhile_blank blankFront headOfAppend, List.rdropWhile,
    List.reverse_append, dropWhile_blank blankReverse headOfReverse, List.reverse_reverse]

/-- The first word is split off. -/
theorem splitWordsMax_word
    {spaces word rest : Text}
    (count : Nat)
    (blank : Blank spaces)
    (isWord : IsWord word)
    (stops : ∀ char ∈ rest.head?, isSpace char = true) :
    splitWordsMax (count + 1) (spaces ++ (word ++ rest)) =
      word :: splitWordsMax count rest := by
  obtain ⟨nonempty, noSpace⟩ := isWord
  have starts : ∀ char ∈ (word ++ rest).head?, isSpace char = false := by
    intro char isHead
    rw [List.head?_append_of_ne_nil _ nonempty] at isHead
    exact noSpace char (List.mem_of_mem_head? isHead)
  have inWord : ∀ char ∈ word, (!isSpace char) = true := by
    intro char present
    rw [noSpace char present]
    rfl
  have notNil : word ++ rest ≠ [] := by
    simp [nonempty]
  have taken : (word ++ rest).takeWhile (fun char => !isSpace char) = word := by
    rw [List.takeWhile_append_of_pos inWord]
    cases rest with
    | nil => rw [List.takeWhile_nil, List.append_nil]
    | cons char rest =>
        rw [List.takeWhile_cons_of_neg, List.append_nil]
        rw [stops char rfl]
        exact Bool.false_ne_true
  have dropped : (word ++ rest).dropWhile (fun char => !isSpace char) = rest := by
    rw [List.dropWhile_append_of_pos inWord]
    cases rest with
    | nil => rfl
    | cons char rest =>
        rw [List.dropWhile_cons_of_neg]
        rw [stops char rfl]
        exact Bool.false_ne_true
  simp only [splitWordsMax, dropWhile_blank blank starts, if_neg notNil, taken, dropped]

/-- What is behind the last split is one part. -/
theorem splitWordsMax_zero
    {spaces body : Text}
    (blank : Blank spaces)
    (nonempty : body ≠ [])
    (starts : ∀ char ∈ body.head?, isSpace char = false) :
    splitWordsMax 0 (spaces ++ body) = [body] := by
  simp only [splitWordsMax, dropWhile_blank blank starts, if_neg nonempty]

/-! ## Lines and words -/

/-- No character that ends a line. -/
def OneLine (text : Text) : Prop :=
  ∀ char ∈ text, isLineBreak char = false

instance (text : Text) : Decidable (OneLine text) :=
  decidable_of_iff (text.all (fun char => !isLineBreak char) = true) (by simp [OneLine])

theorem splitLinesFrom_line
    {line : Text}
    (oneLine : OneLine line)
    (before rest : Text) :
    splitLinesFrom before (line ++ '\n' :: rest) = (before ++ line) :: splitLines rest := by
  induction line generalizing before with
  | nil =>
      rw [List.nil_append, List.append_nil, splitLinesFrom, if_pos (by decide), splitLines]
      rintro tail ⟨⟩
  | cons char line inductionHypothesis =>
      have notBreak := oneLine char List.mem_cons_self
      rw [List.cons_append, splitLinesFrom, if_neg (by rw [notBreak]; decide),
        inductionHypothesis (fun other inLine => oneLine other (List.mem_cons_of_mem _ inLine)),
        List.append_assoc, List.singleton_append]
      rintro tail rfl
      exact absurd notBreak (by decide)

/-- A line is split off. -/
theorem splitLines_line
    {line : Text}
    (oneLine : OneLine line)
    (rest : Text) :
    splitLines (line ++ '\n' :: rest) = line :: splitLines rest :=
  splitLinesFrom_line oneLine [] rest

theorem splitLines_lines
    {lines : List Text}
    (oneLine : ∀ line ∈ lines, OneLine line)
    (rest : Text) :
    splitLines (lines.flatMap (fun line => line ++ ['\n']) ++ rest) =
      lines ++ splitLines rest := by
  induction lines with
  | nil => rfl
  | cons line lines inductionHypothesis =>
      rw [List.forall_mem_cons] at oneLine
      rw [List.flatMap_cons, List.append_assoc, List.append_assoc, List.singleton_append,
        splitLines_line oneLine.1, inductionHypothesis oneLine.2, List.cons_append]

theorem splitWordsFrom_space
    (word before rest : Text) :
    splitWordsFrom word (before ++ ' ' :: rest) =
      splitWordsFrom word before ++ splitWords rest := by
  induction before generalizing word with
  | nil =>
      have isBlank : isSpace ' ' = true := by decide
      rw [List.nil_append, splitWordsFrom.eq_2, if_pos isBlank, splitWordsFrom.eq_1]
      split
      case isTrue => rfl
      case isFalse => rfl
  | cons char before inductionHypothesis =>
      rw [List.cons_append, splitWordsFrom, splitWordsFrom]
      split
      case isTrue =>
        split
        case isTrue => exact inductionHypothesis []
        case isFalse => rw [inductionHypothesis, List.cons_append]
      case isFalse => exact inductionHypothesis _

/-- A space is between words. -/
theorem splitWords_space (before rest : Text) :
    splitWords (before ++ ' ' :: rest) = splitWords before ++ splitWords rest :=
  splitWordsFrom_space [] before rest

/-! ## Letter case -/

theorem toUpper_toUpper (char : Char) : char.toUpper.toUpper = char.toUpper := by
  by_cases isLower : 'a'.val ≤ char.val ∧ char.val ≤ 'z'.val
  case neg =>
    have unchanged : char.toUpper = char := dif_neg isLower
    rw [unchanged, unchanged]
  case pos =>
    have raised : char.toUpper = ⟨char.val + ('A'.val - 'a'.val), _⟩ := dif_pos isLower
    have code : char.toUpper.val = char.val + ('A'.val - 'a'.val) := by rw [raised]
    have notLower : ¬('a'.val ≤ char.toUpper.val ∧ char.toUpper.val ≤ 'z'.val) := by
      have offset : ('A'.val - 'a'.val).toNat = 2 ^ 32 - 32 := by decide
      have first : 'a'.val.toNat = 97 := by decide
      have last : 'z'.val.toNat = 122 := by decide
      rw [UInt32.le_iff_toNat_le, UInt32.le_iff_toNat_le, first, last] at isLower
      rw [code, UInt32.le_iff_toNat_le, UInt32.le_iff_toNat_le, first, last,
        UInt32.toNat_add, offset]
      omega
    exact dif_neg notLower

/-- What is no letter in lower case comes from itself. -/
theorem eq_of_toLower_eq
    {char other : Char}
    (noLetter : other.toNat < 97 ∨ 122 < other.toNat)
    (same : char.toLower = other) :
    char = other := by
  by_cases isUpper : 'A'.val ≤ char.val ∧ char.val ≤ 'Z'.val
  case neg => exact (dif_neg isUpper : char.toLower = char).symm.trans same
  case pos =>
    have lowered : char.toLower = ⟨char.val + ('a'.val - 'A'.val), _⟩ := dif_pos isUpper
    have code : char.toLower.val = char.val + ('a'.val - 'A'.val) := by rw [lowered]
    have offset : ('a'.val - 'A'.val).toNat = 32 := by decide
    have first : 'A'.val.toNat = 65 := by decide
    have last : 'Z'.val.toNat = 90 := by decide
    rw [same] at code
    have codes : other.toNat = _ := congrArg UInt32.toNat code
    rw [UInt32.le_iff_toNat_le, UInt32.le_iff_toNat_le, first, last] at isUpper
    rw [UInt32.toNat_add, offset] at codes
    omega

theorem lower_append (first second : Text) :
    lower (first ++ second) = lower first ++ lower second :=
  List.map_append

theorem lower_cons (char : Char) (rest : Text) :
    lower (char :: rest) = char.toLower :: lower rest :=
  List.map_cons

theorem notMem_lower
    {bar : Char} {text : Text}
    (noLetter : bar.toNat < 97 ∨ 122 < bar.toNat)
    (free : bar ∉ text) :
    bar ∉ lower text := by
  intro present
  obtain ⟨char, isChar, same⟩ := List.mem_map.mp present
  rw [eq_of_toLower_eq noLetter same] at isChar
  exact free isChar

theorem upper_upper (text : Text) : upper (upper text) = upper text := by
  rw [upper, upper, List.map_map]
  exact List.map_congr_left fun char _ => toUpper_toUpper char

end Text
end Foundation
end BoschBle
