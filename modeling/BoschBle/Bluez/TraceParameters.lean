import BoschBle.Bluez.TraceAttribution
import BoschBle.Foundation.RegexRecords

/-!
# The parameters of new connections

Each event that creates a connection to the target, and carries four parameters, gives
one entry, whatever happens in between.  The entries do not change when the trace is cut
down to the events of the target.
-/

namespace BoschBle
namespace Bluez

open Foundation

/-! ## Events as btmon prints them -/

/-- An event starts with a header line and goes on up to the next one. -/
abbrev Event : Type :=
  Regex.Record headerPattern

/-- What stands in front of the first event, and the events. -/
abbrev BtmonTrace : Type :=
  Regex.Records headerPattern

/-- The command in the header line of an event that creates a connection. -/
def createCommand : Text :=
  "< HCI Command: LE Create Connection".toList

/-- The line names the command: an opcode follows, or nothing. -/
def NamesCreate (line : Text) : Prop :=
  ∃ front blanks behind, line = front ++ createCommand ++ blanks ++ behind ∧
    Text.Blank blanks ∧ (behind = [] ∨ behind.head? = some '(')

/-- The line names the command with its opcode in parentheses. -/
def HasOpcode (line : Text) : Prop :=
  ∃ front blanks opcode, line = front ++ createCommand ++ blanks ++ '(' :: opcode ∧
    Text.Blank blanks

/-- The labels of an address line. -/
def addressLabels : List Text :=
  ["Peer address:".toList, "Address:".toList]

/-- The first line with the label of an address is the address of the peer. -/
def NamesPeer (lines : List Text) (address : Text) : Prop :=
  ∃ before indent gap behind after,
    lines = before ++ (indent ++ "Peer address:".toList ++ gap ++ address ++ behind) :: after ∧
      (∀ line ∈ before, ∀ label ∈ addressLabels, ¬ label <:+: line) ∧
        Text.Blank indent ∧ Text.Blank gap ∧ gap ≠ [] ∧
          address.length = 17 ∧ ∀ char ∈ address, isAddressChar char = true

/-- The line carries a parameter: a hexadecimal number in parentheses behind the label. -/
def Carries (label : String) (line : Text) : Prop :=
  ∃ front middle digits behind,
    line = front ++ label.toList ++ ":".toList ++ middle ++ "(0x".toList ++ digits ++
        ")".toList ++ behind ∧
      digits ≠ [] ∧ ∀ digit ∈ digits, Regex.isHexDigit digit = true

/-- The labels of the four parameters. -/
def parameterLabels : List String :=
  ["Min connection interval", "Max connection interval", "Connection latency",
    "Supervision timeout"]

namespace Event

/-- The event creates a connection. -/
def IsCreate (event : Event) : Prop :=
  NamesCreate event.first

/-- The event creates a connection to the target. -/
def CreatesFor (target : String) (event : Event) : Prop :=
  event.IsCreate ∧ ∃ address, NamesPeer event.lines address ∧
    normalizeAddress (String.ofList address) = normalizeAddress target

/-- Each of the four parameters is on some line of the event. -/
def CarriesAll (event : Event) : Prop :=
  ∀ label ∈ parameterLabels, ∃ line ∈ event.lines, Carries label line

/-- The number in the first line that carries the parameter. -/
def valueOf (event : Event) (label : String) : Nat :=
  intOfHex ((event.lines.findSome? (valuePattern label).search).getD [])

/-- The four parameters of an event. -/
def parameters (event : Event) : LeConnectionParameters where
  minInterval := event.valueOf "Min connection interval"
  maxInterval := event.valueOf "Max connection interval"
  latency := event.valueOf "Connection latency"
  timeout := event.valueOf "Supervision timeout"

end Event

/-- The events that create connections have an opcode and name a peer. -/
structure AsPrinted (trace : BtmonTrace) : Prop where
  front : ¬ NamesCreate trace.front.first
  opcode : ∀ event ∈ trace.records, Event.IsCreate event -> HasOpcode event.first
  peer : ∀ event ∈ trace.records, Event.IsCreate event ->
    ∃ address, NamesPeer event.lines address

theorem headerPattern_nil : headerPattern.matchAt none [] = none := by
  decide

/-- The events of a trace are read from its text. -/
theorem traceEvents_text (trace : BtmonTrace) :
    traceEvents trace.text = trace.pieces :=
  trace.splitAhead_text headerPattern_withinLine headerPattern_nil

/-! ## The header line -/

/-- Where the name of a command ends: in front of a parenthesis or at the end of the
text. -/
theorem nameEnd_reaches {cursor : Regex.Cursor} :
    (∃ stop, (nameEnd .textEnd).Reaches cursor stop) ↔
      ∃ blanks behind, cursor.rest = blanks ++ behind ∧ Text.Blank blanks ∧
        (behind.head? = some '(' ∨ behind = [] ∨ behind = ['\n']) := by
  constructor
  · rintro ⟨stop, ⟨_, ⟨blanks, behind, rest_eq, blank, rfl⟩, char, rest, behind_eq, isOpen, -⟩ |
      ⟨_, ⟨blanks, behind, rest_eq, blank, rfl⟩, atEnd, -⟩⟩
    · obtain rfl := beq_iff_eq.mp isOpen
      have opens := congrArg List.head? (show behind = _ :: rest from behind_eq)
      exact ⟨blanks, behind, rest_eq, blank, Or.inl opens⟩
    · exact ⟨blanks, behind, rest_eq, blank, Or.inr atEnd⟩
  · rintro ⟨blanks, behind, rest_eq, blank, opens | atEnd⟩
    · obtain ⟨rest, rfl⟩ := List.head?_eq_some_iff.mp opens
      exact ⟨_, Or.inl ⟨_, ⟨blanks, _, rest_eq, blank, rfl⟩, '(', rest, rfl, rfl, rfl⟩⟩
    · exact ⟨_, Or.inr ⟨_, ⟨blanks, behind, rest_eq, blank, rfl⟩, atEnd, rfl⟩⟩

/-- The pattern up to the name of the command. -/
def createName : List Regex :=
  [.many Regex.dot, Regex.lit "< HCI Command: LE Create Connection"]

theorem spells_createName {text : Text} :
    (Regex.sequence createName).Spells text ↔
      ∃ front, text = front ++ createCommand ∧ '\n' ∉ front := by
  have areDots (front : Text) :
      (Regex.many Regex.dot).Spells front ↔ '\n' ∉ front := by
    rw [Regex.Spells]
    simp [Regex.dot, List.forall_mem_ne']
  rw [createName, Regex.spells_sequence_cons]
  simp only [areDots, Regex.sequence]
  simp only [Regex.spells_lit]
  constructor
  · rintro ⟨front, _, rfl, oneLine, rfl⟩
    exact ⟨front, rfl, oneLine⟩
  · rintro ⟨front, rfl, oneLine⟩
    exact ⟨front, createCommand, rfl, oneLine, rfl⟩

theorem createPattern_isSome {text : Text} :
    (createPattern.search text).isSome = true ↔
      ∃ front blanks behind, text = front ++ createCommand ++ (blanks ++ behind) ∧
        '\n' ∉ front ∧ Text.Blank blanks ∧
          (behind.head? = some '(' ∨ behind = [] ∨ behind = ['\n']) := by
  have shape : createPattern =
      Regex.sequence (Regex.textStart :: (createName ++ [nameEnd .textEnd])) := rfl
  have anchorless : (Regex.sequence createName).Anchorless := by
    simp [createName, Regex.sequence, Regex.lit, Regex.Anchorless]
  have named := Regex.reaches_iff_spells anchorless ⟨none, text, none, none⟩ fun rest =>
    ∃ blanks behind, rest = blanks ++ behind ∧ Text.Blank blanks ∧
      (behind.head? = some '(' ∨ behind = [] ∨ behind = ['\n'])
  rw [shape, Regex.search_textStart, Regex.matchAt_isSome]
  simp only [Regex.reaches_sequence_cons, Regex.reaches_sequence_append]
  constructor
  · rintro ⟨_, _, ⟨_, rfl⟩, middle, reaches, _, ends, -⟩
    obtain ⟨taken, rest, text_eq, isName, blanks, behind, rfl, blank, behindName⟩ :=
      named.mp ⟨middle, reaches, nameEnd_reaches.mp ⟨_, ends⟩⟩
    obtain ⟨front, rfl, oneLine⟩ := spells_createName.mp isName
    exact ⟨front, blanks, behind, text_eq, oneLine, blank, behindName⟩
  · rintro ⟨front, blanks, behind, text_eq, oneLine, blank, behindName⟩
    obtain ⟨middle, reaches, rest_eq⟩ := named.mpr ⟨_, _, text_eq,
      spells_createName.mpr ⟨front, rfl, oneLine⟩, blanks, behind, rfl, blank, behindName⟩
    obtain ⟨stop, ends⟩ := nameEnd_reaches.mpr rest_eq
    exact ⟨stop, _, ⟨rfl, rfl⟩, middle, reaches, stop, ends, rfl⟩

/-- A line ends in front of what does not fit on it. -/
theorem exists_line_split
    {left right line behind : Text}
    (text_eq : left ++ right = line ++ behind)
    (oneLine : '\n' ∉ left)
    (stops : Regex.LineStop behind) :
    ∃ rest, line = left ++ rest ∧ right = rest ++ behind := by
  rcases List.append_eq_append_iff.mp text_eq with
    ⟨rest, line_eq, right_eq⟩ | ⟨extra, left_eq, behind_eq⟩
  · exact ⟨rest, line_eq, right_eq⟩
  · cases extra with
    | nil =>
        refine ⟨[], ?_, behind_eq.symm⟩
        rw [left_eq, List.append_nil, List.append_nil]
    | cons char extra =>
        have isNewline : char = '\n' := stops char (by rw [behind_eq]; rfl)
        rw [left_eq, isNewline] at oneLine
        exact absurd (List.mem_append_right line List.mem_cons_self) oneLine

theorem createCommand_oneLine : '\n' ∉ createCommand := by
  decide

section Block

variable (block : Regex.Block headerPattern)

/-- The name is found in the header line only. -/
theorem namesCreate_of_search
    (found : (createPattern.search block.text).isSome = true) :
    NamesCreate block.first := by
  obtain ⟨front, blanks, behind, text_eq, oneLine, blank, ends⟩ := createPattern_isSome.mp found
  have nameInLine : '\n' ∉ front ++ createCommand := by
    rw [List.mem_append, not_or]
    exact ⟨oneLine, createCommand_oneLine⟩
  obtain ⟨rest, first_eq, behind_eq⟩ :=
    exists_line_split text_eq.symm nameInLine (Regex.lineStop_flatMap block.rest)
  rcases List.append_eq_append_iff.mp behind_eq with
    ⟨extra, rest_eq, extra_eq⟩ | ⟨extra, blanks_eq, -⟩
  · -- The blanks end on the line.
    cases extra with
    | nil =>
        refine ⟨front, rest, [], by rw [first_eq, List.append_nil], ?_, Or.inl rfl⟩
        rw [rest_eq, List.append_nil]
        exact blank
    | cons char extra =>
        refine ⟨front, blanks, char :: extra, ?_, blank, Or.inr ?_⟩
        · rw [first_eq, rest_eq]
          simp only [List.append_assoc]
        · rcases ends with opens | rfl | rfl
          · rw [extra_eq] at opens
            exact opens
          · cases extra_eq
          · have onLine : '\n' ∉ block.first := block.oneLine _ List.mem_cons_self
            obtain ⟨isNewline, -⟩ := List.cons.inj extra_eq
            rw [first_eq, rest_eq, ← isNewline] at onLine
            simp at onLine
  · have restBlank : Text.Blank rest := by
      intro char isChar
      exact blank char (by rw [blanks_eq]; exact List.mem_append_left extra isChar)
    exact ⟨front, rest, [], by rw [first_eq, List.append_nil], restBlank, Or.inl rfl⟩

theorem search_of_hasOpcode
    (named : HasOpcode block.first) :
    (createPattern.search block.text).isSome = true := by
  obtain ⟨front, blanks, opcode, first_eq, blank⟩ := named
  have oneLine : '\n' ∉ front := by
    have onLine := block.oneLine _ List.mem_cons_self
    rw [first_eq] at onLine
    intro isNewline
    exact onLine (by simp [isNewline])
  refine createPattern_isSome.mpr ⟨front, blanks, '(' :: opcode ++
    block.rest.flatMap (fun line => '\n' :: line), ?_, oneLine, blank, Or.inl rfl⟩
  rw [Regex.Block.text, Regex.joinLines, first_eq]
  simp only [List.append_assoc]

end Block

/-! ## The address line -/

/-- A pattern for an address behind a label. -/
def addressPattern (label : Regex) : Regex :=
  Regex.sequence
    [label, Regex.oneOrMore Text.isSpace, .group (Regex.exactly 17 isAddressChar)]

section Address

variable {label : Regex}

/-- The pattern takes labels of addresses only. -/
def TakesLabels (label : Regex) : Prop :=
  label.Anchorless ∧ ∀ text, label.Spells text -> text ∈ addressLabels

theorem takesLabels_peer : TakesLabels (Regex.lit "Peer address:") := by
  constructor
  · simp [Regex.lit, Regex.sequence, Regex.Anchorless]
  · intro text spelled
    rw [Regex.spells_lit.mp spelled]
    exact List.mem_cons_self

theorem takesLabels_either :
    TakesLabels (.either (Regex.lit "Peer address:") (Regex.lit "Address:")) := by
  constructor
  · simp [Regex.lit, Regex.sequence, Regex.Anchorless]
  · rintro text (isPeer | isAddress)
    · rw [Regex.spells_lit.mp isPeer]
      exact List.mem_cons_self
    · rw [Regex.spells_lit.mp isAddress]
      exact List.mem_cons_of_mem _ List.mem_cons_self

theorem prefix_of_matchAt
    (takes : TakesLabels label)
    {previous : Option Char} {text : Text}
    (found : (addressPattern label).matchAt previous text ≠ none) :
    ∃ name ∈ addressLabels, name <+: text := by
  have anchorless : (addressPattern label).Anchorless := by
    refine ⟨takes.1, ?_⟩
    simp [Regex.oneOrMore, Regex.exactly, List.replicate, Regex.sequence, Regex.Anchorless]
  rw [← Option.isSome_iff_ne_none, Regex.matchAt_isSome_iff_spells anchorless] at found
  obtain ⟨_, rest, rfl, name, behind, rfl, spelled, -⟩ := found
  exact ⟨name, takes.2 name spelled, behind ++ rest, by rw [List.append_assoc]⟩

/-- A search passes a line without a label. -/
theorem searchFrom_line
    (takes : TakesLabels label)
    {line : Text}
    (unlabelled : ∀ name ∈ addressLabels, ¬ name <:+: line)
    (previous : Option Char)
    (rest : Text) :
    ∃ last, (addressPattern label).searchFrom previous (line ++ ['\n'] ++ rest) =
      (addressPattern label).searchFrom last rest := by
  apply Regex.searchFrom_pass
  intro front back previous split nonempty
  by_contra found
  obtain ⟨name, isLabel, behind, name_eq⟩ := prefix_of_matchAt takes found
  have nameOneLine : '\n' ∉ name := by
    rcases List.mem_pair.mp isLabel with rfl | rfl <;> decide
  rcases List.eq_nil_or_concat back with isEmpty | ⟨init, last, rfl⟩
  · exact nonempty isEmpty
  · rw [List.concat_eq_append, ← List.append_assoc] at split
    obtain ⟨rfl, last_eq⟩ := List.append_inj' split rfl
    obtain rfl : '\n' = last := List.head_eq_of_cons_eq last_eq
    have text_eq : name ++ behind = init ++ '\n' :: rest := by
      rw [name_eq]
      simp
    obtain ⟨onLine, init_eq, -⟩ :=
      exists_line_split text_eq nameOneLine (Regex.lineStop_newline rest)
    refine unlabelled name isLabel ⟨front, onLine, ?_⟩
    rw [init_eq, List.append_assoc]

/-- It passes lines without labels. -/
theorem searchFrom_lines
    (takes : TakesLabels label)
    {lines : List Text}
    (unlabelled : ∀ line ∈ lines, ∀ name ∈ addressLabels, ¬ name <:+: line)
    (previous : Option Char)
    (rest : Text) :
    ∃ last, (addressPattern label).searchFrom previous (Regex.unlines lines ++ rest) =
      (addressPattern label).searchFrom last rest := by
  induction lines generalizing previous with
  | nil => exact ⟨previous, rfl⟩
  | cons line lines inductionHypothesis =>
      rw [List.forall_mem_cons] at unlabelled
      obtain ⟨middle, passesLine⟩ :=
        searchFrom_line takes unlabelled.1 previous (Regex.unlines lines ++ rest)
      obtain ⟨last, passes⟩ := inductionHypothesis unlabelled.2 middle
      refine ⟨last, ?_⟩
      rw [← passes, ← passesLine, Regex.unlines, List.flatMap_cons, List.append_assoc]
      rfl

/-- It passes blanks. -/
theorem searchFrom_blank
    (takes : TakesLabels label)
    {indent : Text}
    (blank : Text.Blank indent)
    (previous : Option Char)
    (rest : Text) :
    ∃ last, (addressPattern label).searchFrom previous (indent ++ rest) =
      (addressPattern label).searchFrom last rest := by
  apply Regex.searchFrom_pass
  intro front back previous split nonempty
  by_contra found
  obtain ⟨name, isLabel, behind, name_eq⟩ := prefix_of_matchAt takes found
  obtain ⟨char, back, rfl⟩ := List.exists_cons_of_ne_nil nonempty
  have isBlank : Text.isSpace char = true :=
    blank char (by rw [split]; exact List.mem_append_right front List.mem_cons_self)
  rcases List.mem_pair.mp isLabel with rfl | rfl
  · obtain rfl : 'P' = char := List.head_eq_of_cons_eq name_eq
    cases isBlank
  · obtain rfl : 'A' = char := List.head_eq_of_cons_eq name_eq
    cases isBlank

theorem isSpace_of_isAddressChar
    {char : Char}
    (isChar : isAddressChar char = true) :
    Text.isSpace char = false := by
  rw [isAddressChar, Bool.or_eq_true] at isChar
  cases isChar with
  | inl isHex =>
      apply Regex.forall_isHexDigit _ _ isHex
      decide
  | inr isColon =>
      rw [beq_iff_eq.mp isColon]
      decide

/-- The address behind the label is captured. -/
theorem matchAt_address
    (takesPeer : ∀ (cursor : Regex.Cursor) (next : Regex.Cursor -> Option Text) rest result,
      cursor.rest = "Peer address:".toList ++ rest ->
        next (cursor.advanceBy "Peer address:".toList rest) = some result ->
          label.run cursor next = some result)
    {gap address : Text}
    (blank : Text.Blank gap)
    (gapNonempty : gap ≠ [])
    (length_eq : address.length = 17)
    (areAddressChars : ∀ char ∈ address, isAddressChar char = true)
    (previous : Option Char)
    (behind : Text) :
    (addressPattern label).matchAt previous
        ("Peer address:".toList ++ (gap ++ (address ++ behind))) = some address := by
  let next (cursor : Regex.Cursor) : Option Text :=
    (Regex.group (Regex.exactly 17 isAddressChar)).run cursor
      fun cursor => some (cursor.captured.getD [])
  have captures (previous : Option Char) :
      next ⟨previous, address ++ behind, none, none⟩ = some address := by
    dsimp only [next]
    rw [Regex.run, ← length_eq, Regex.run_exactly areAddressChars _ rfl]
    rfl
  have stops : ∀ char ∈ (address ++ behind).head?, Text.isSpace char = false := by
    cases address with
    | nil => cases length_eq
    | cons first rest =>
        intro char isFirst
        obtain rfl : first = char := Option.some.inj isFirst
        exact isSpace_of_isAddressChar (areAddressChars first List.mem_cons_self)
  obtain ⟨space, spaces, rfl⟩ := List.exists_cons_of_ne_nil gapNonempty
  rw [Text.Blank, List.forall_mem_cons] at blank
  rw [Regex.matchAt, addressPattern, Regex.run_sequence_cons]
  refine takesPeer _ _ _ _ rfl ?_
  rw [Regex.run_sequence_cons, Regex.oneOrMore, Regex.run, Regex.run]
  dsimp only [Regex.Cursor.advanceBy, List.cons_append]
  rw [if_pos blank.1]
  exact Regex.runMany_eq_some blank.2 stops (some space) none captures

theorem joinLines_split
    {first line : Text} {rest before after : List Text}
    (lines_eq : first :: rest = before ++ line :: after) :
    Regex.joinLines first rest = Regex.unlines before ++ Regex.joinLines line after := by
  induction before generalizing first rest with
  | nil =>
      obtain ⟨rfl, rfl⟩ := List.cons.inj lines_eq
      rfl
  | cons other before inductionHypothesis =>
      obtain ⟨rfl, rest_eq⟩ := List.cons.inj lines_eq
      cases rest with
      | nil => cases before <;> cases rest_eq
      | cons second rest =>
          rw [Regex.joinLines_cons, inductionHypothesis rest_eq]
          simp [Regex.unlines]

/-- A search finds the address in the first line with a label. -/
theorem search_address
    (takes : TakesLabels label)
    (takesPeer : ∀ (cursor : Regex.Cursor) (next : Regex.Cursor -> Option Text) rest result,
      cursor.rest = "Peer address:".toList ++ rest ->
        next (cursor.advanceBy "Peer address:".toList rest) = some result ->
          label.run cursor next = some result)
    {block : Regex.Block headerPattern} {address : Text}
    (names : NamesPeer block.lines address) :
    (addressPattern label).search block.text = some address := by
  obtain ⟨before, indent, gap, behind, after, lines_eq, unlabelled, indentBlank, gapBlank,
    gapNonempty, length_eq, areAddressChars⟩ := names
  have text_eq : block.text = Regex.unlines before ++ (indent ++ ("Peer address:".toList ++
      (gap ++ (address ++ (behind ++ after.flatMap fun line => '\n' :: line))))) := by
    rw [Regex.Block.text, joinLines_split lines_eq, Regex.joinLines]
    simp only [List.append_assoc]
  obtain ⟨middle, passesLines⟩ := searchFrom_lines takes unlabelled none
    (indent ++ ("Peer address:".toList ++
      (gap ++ (address ++ (behind ++ after.flatMap fun line => '\n' :: line)))))
  obtain ⟨last, passesIndent⟩ := searchFrom_blank takes indentBlank middle
    ("Peer address:".toList ++
      (gap ++ (address ++ (behind ++ after.flatMap fun line => '\n' :: line))))
  rw [text_eq, Regex.search, passesLines, passesIndent]
  exact Regex.searchFrom_of_matchAt (matchAt_address takesPeer gapBlank gapNonempty length_eq
    areAddressChars last _)

end Address

theorem search_peerAddressPattern
    {block : Regex.Block headerPattern} {address : Text}
    (names : NamesPeer block.lines address) :
    peerAddressPattern.search block.text = some address := by
  refine @search_address (Regex.lit "Peer address:") takesLabels_peer ?_ block address names
  intro cursor next rest result rest_eq found
  rw [Regex.run_lit _ cursor rest_eq]
  exact found

theorem search_peerPattern
    {block : Regex.Block headerPattern} {address : Text}
    (names : NamesPeer block.lines address) :
    peerPattern.search block.text = some address := by
  refine @search_address (.either (Regex.lit "Peer address:") (Regex.lit "Address:"))
    takesLabels_either ?_ block address names
  intro cursor next rest result rest_eq found
  rw [Regex.run, Regex.run_lit _ cursor rest_eq, found]
  rfl

/-! ## The lines of the parameters -/

theorem valuePattern_withinLine
    {label : String}
    (isLabel : label ∈ parameterLabels) :
    (valuePattern label).WithinLine := by
  revert label
  decide

/-- A line of an event carries a parameter if the pattern finds it there. -/
theorem valuePattern_isSome
    {label : String} {line : Text}
    (oneLine : '\n' ∉ line) :
    ((valuePattern label).search line).isSome = true ↔ Carries label line := by
  have anchorless : (valuePattern label).Anchorless :=
    ⟨Regex.anchorless_lit label, Regex.anchorless_lit ":", trivial,
      Regex.anchorless_lit "(0x", ⟨trivial, trivial⟩, Regex.anchorless_lit ")"⟩
  have spelled (taken : Text) : (valuePattern label).Spells taken ↔
      ∃ middle digits, taken = label.toList ++ (":".toList ++ (middle ++ ("(0x".toList ++
          (digits ++ ")".toList)))) ∧
        (Regex.many Regex.dot).Spells middle ∧
          digits ≠ [] ∧ ∀ digit ∈ digits, Regex.isHexDigit digit = true := by
    have digitsSpelled (digits : Text) :
        (Regex.group (Regex.oneOrMore Regex.isHexDigit)).Spells digits ↔
          digits ≠ [] ∧ ∀ digit ∈ digits, Regex.isHexDigit digit = true :=
      Regex.spells_oneOrMore
    have nothingSpelled (text : Text) : (Regex.sequence []).Spells text ↔ text = [] := Iff.rfl
    rw [valuePattern]
    simp only [Regex.spells_sequence_cons, Regex.spells_lit, digitsSpelled, nothingSpelled]
    constructor
    · rintro ⟨_, _, rfl, rfl, _, _, rfl, rfl, middle, _, rfl, areDots, _, _, rfl, rfl,
        digits, _, rfl, areDigits, _, _, rfl, rfl, rfl⟩
      exact ⟨middle, digits, by rw [List.append_nil], areDots, areDigits⟩
    · rintro ⟨middle, digits, rfl, areDots, areDigits⟩
      exact ⟨_, _, rfl, rfl, _, _, rfl, rfl, middle, _, rfl, areDots, _, _, rfl, rfl,
        digits, _, rfl, areDigits, _, [], by rw [List.append_nil], rfl, rfl⟩
  rw [Regex.search, Regex.searchFrom_isSome anchorless]
  simp only [spelled]
  constructor
  · rintro ⟨front, _, behind, rfl, middle, digits, rfl, -, areDigits⟩
    exact ⟨front, middle, digits, behind, by simp only [List.append_assoc], areDigits⟩
  · rintro ⟨front, middle, digits, behind, rfl, areDigits⟩
    have areDots : (Regex.many Regex.dot).Spells middle := by
      intro char isChar
      rw [Regex.dot, bne_iff_ne]
      rintro rfl
      exact oneLine (by simp [isChar])
    refine ⟨front, _, behind, ?_, middle, digits, rfl, areDots, areDigits⟩
    simp only [List.append_assoc]

/-! ## The parameters of an event -/

/-- The pattern finds a parameter that some line carries. -/
theorem search_value_isSome
    {label : String}
    (isLabel : label ∈ parameterLabels)
    (event : Event) :
    ((valuePattern label).search event.text).isSome = true ↔
      ∃ line ∈ event.lines, Carries label line := by
  rw [Regex.Block.text, Regex.search_joinLines (valuePattern_withinLine isLabel),
    List.findSome?_isSome_iff]
  refine exists_congr fun line => and_congr_right fun isLine => ?_
  exact valuePattern_isSome (event.oneLine line isLine)

theorem search_value
    {label : String}
    (isLabel : label ∈ parameterLabels)
    {event : Event}
    (carries : ∃ line ∈ event.lines, Carries label line) :
    ∃ digits, (valuePattern label).search event.text = some digits ∧
      intOfHex digits = event.valueOf label := by
  obtain ⟨digits, found⟩ :=
    Option.isSome_iff_exists.mp ((search_value_isSome isLabel event).mpr carries)
  refine ⟨digits, found, ?_⟩
  rw [Regex.Block.text, Regex.search_joinLines (valuePattern_withinLine isLabel)] at found
  rw [Event.valueOf, Regex.Block.lines, found]
  rfl

/-- The four numbers in the text of an event. -/
def numbersIn (event : Text) : Option LeConnectionParameters := do
  let minInterval <- (valuePattern "Min connection interval").search event
  let maxInterval <- (valuePattern "Max connection interval").search event
  let latency <- (valuePattern "Connection latency").search event
  let timeout <- (valuePattern "Supervision timeout").search event
  return ⟨intOfHex minInterval, intOfHex maxInterval, intOfHex latency, intOfHex timeout⟩

theorem numbersIn_of_carriesAll
    {event : Event}
    (carries : event.CarriesAll) :
    numbersIn event.text = some event.parameters := by
  have value (label : String) (isLabel : label ∈ parameterLabels) :=
    search_value isLabel (carries label isLabel)
  obtain ⟨_, minFound, min_eq⟩ := value "Min connection interval" (by decide)
  obtain ⟨_, maxFound, max_eq⟩ := value "Max connection interval" (by decide)
  obtain ⟨_, latencyFound, latency_eq⟩ := value "Connection latency" (by decide)
  obtain ⟨_, timeoutFound, timeout_eq⟩ := value "Supervision timeout" (by decide)
  rw [numbersIn, minFound, maxFound, latencyFound, timeoutFound, Event.parameters, ← min_eq,
    ← max_eq, ← latency_eq, ← timeout_eq]
  rfl

theorem carriesAll_of_numbersIn
    {event : Event} {numbers : LeConnectionParameters}
    (found : numbersIn event.text = some numbers) :
    event.CarriesAll := by
  rw [numbersIn] at found
  obtain ⟨_, minFound, found⟩ := Option.bind_eq_some_iff.mp found
  obtain ⟨_, maxFound, found⟩ := Option.bind_eq_some_iff.mp found
  obtain ⟨_, latencyFound, found⟩ := Option.bind_eq_some_iff.mp found
  obtain ⟨_, timeoutFound, -⟩ := Option.bind_eq_some_iff.mp found
  have carried {label : String} {digits : Text} (isLabel : label ∈ parameterLabels)
      (labelFound : (valuePattern label).search event.text = some digits) :
      ∃ line ∈ event.lines, Carries label line :=
    (search_value_isSome isLabel event).mp (Option.isSome_iff_exists.mpr ⟨digits, labelFound⟩)
  intro label isLabel
  have oneOf := isLabel
  simp only [parameterLabels, List.mem_cons, List.not_mem_nil, or_false] at oneOf
  rcases oneOf with rfl | rfl | rfl | rfl
  · exact carried isLabel minFound
  · exact carried isLabel maxFound
  · exact carried isLabel latencyFound
  · exact carried isLabel timeoutFound

/-- What is read in an event that creates a connection. -/
theorem parametersIn_of_names
    {block : Regex.Block headerPattern} {target : String} {address : Text}
    (found : (createPattern.search block.text).isSome = true)
    (names : NamesPeer block.lines address) :
    parametersIn (some target) block.text =
      if normalizeAddress (String.ofList address) = normalizeAddress target then
        numbersIn block.text
      else none := by
  have created : (createPattern.search block.text).isNone = false := by
    rw [← Option.not_isSome, found]
    rfl
  rw [parametersIn, created, if_neg Bool.false_ne_true, search_peerAddressPattern names]
  by_cases isTarget : normalizeAddress (String.ofList address) = normalizeAddress target
  · simp [isTarget, numbersIn]
  · simp [isTarget]

theorem parametersIn_of_not_found
    {block : Regex.Block headerPattern} {address : Option String}
    (plain : ¬ NamesCreate block.first) :
    parametersIn address block.text = none := by
  have missing : (createPattern.search block.text).isNone = true := by
    rw [Option.isNone_iff_eq_none, ← Option.not_isSome_iff_eq_none]
    exact fun found => plain (namesCreate_of_search block found)
  rw [parametersIn, missing, if_pos rfl]

theorem parametersIn_of_creates
    {event : Event} {target : String}
    (opcode : event.IsCreate -> HasOpcode event.first)
    (creates : event.CreatesFor target)
    (carries : event.CarriesAll) :
    parametersIn (some target) event.text = some event.parameters := by
  obtain ⟨isCreate, address, names, isTarget⟩ := creates
  have found := search_of_hasOpcode event.toBlock (opcode isCreate)
  rw [parametersIn_of_names found names, if_pos isTarget, numbersIn_of_carriesAll carries]

theorem parametersIn_of_not_creates
    {event : Event} {target : String}
    (opcode : event.IsCreate -> HasOpcode event.first)
    (peer : event.IsCreate -> ∃ address, NamesPeer event.lines address)
    (other : ¬ (event.CreatesFor target ∧ event.CarriesAll)) :
    parametersIn (some target) event.text = none := by
  by_cases isCreate : event.IsCreate
  · obtain ⟨address, names⟩ := peer isCreate
    have found := search_of_hasOpcode event.toBlock (opcode isCreate)
    rw [parametersIn_of_names found names]
    by_cases isTarget : normalizeAddress (String.ofList address) = normalizeAddress target
    · rw [if_pos isTarget]
      cases numbers : numbersIn event.text with
      | none => rfl
      | some values =>
          exact absurd ⟨⟨isCreate, address, names, isTarget⟩,
            carriesAll_of_numbersIn numbers⟩ other
    · rw [if_neg isTarget]
  · exact parametersIn_of_not_found isCreate

/-! ## Traces -/

/-- A newline behind an event does not change what is read in it. -/
theorem parametersIn_spaced
    {event : Event} {target : String}
    (opcode : event.IsCreate -> HasOpcode event.first)
    (peer : event.IsCreate -> ∃ address, NamesPeer event.lines address) :
    parametersIn (some target) (event.spaced headerPattern_nil).text =
      parametersIn (some target) event.text := by
  have text_eq : (event.spaced headerPattern_nil).text = event.text ++ '\n' :: [] :=
    Regex.Block.text_spaced headerPattern_nil event.toBlock
  by_cases isCreate : event.IsCreate
  · obtain ⟨address, names⟩ := peer isCreate
    have namesSpaced : NamesPeer (event.spaced headerPattern_nil).lines address := by
      obtain ⟨before, indent, gap, behind, after, lines_eq, rest⟩ := names
      refine ⟨before, indent, gap, behind, after ++ [[]], ?_, rest⟩
      have spaced_eq : (event.spaced headerPattern_nil).lines = event.lines ++ [[]] :=
        Regex.Block.lines_spaced headerPattern_nil event.toBlock
      rw [spaced_eq, lines_eq, List.append_assoc, List.cons_append]
    have sameNumbers : numbersIn (event.text ++ '\n' :: []) = numbersIn event.text := by
      have sameValue (label : String) (isLabel : label ∈ parameterLabels) :
          (valuePattern label).search (event.text ++ '\n' :: []) =
            (valuePattern label).search event.text := by
        have nothing : (valuePattern label).search [] = none := by
          revert label
          decide
        rw [Regex.search_newline (valuePattern_withinLine isLabel), nothing, Option.or_none]
      simp only [numbersIn,
        sameValue "Min connection interval" (by decide),
        sameValue "Max connection interval" (by decide),
        sameValue "Connection latency" (by decide),
        sameValue "Supervision timeout" (by decide)]
    have found := search_of_hasOpcode event.toBlock (opcode isCreate)
    have foundSpaced := search_of_hasOpcode (event.spaced headerPattern_nil).toBlock
      (opcode isCreate)
    rw [parametersIn_of_names foundSpaced namesSpaced, parametersIn_of_names found names,
      text_eq, sameNumbers]
  · have plain : ¬ NamesCreate event.toBlock.first := isCreate
    have plainSpaced : ¬ NamesCreate (event.spaced headerPattern_nil).toBlock.first := isCreate
    rw [parametersIn_of_not_found plain, parametersIn_of_not_found plainSpaced]

/-- The events that are not selected carry nothing for the target. -/
theorem isSelected_of_creates
    {event : Event} {target : String}
    (creates : event.CreatesFor target)
    (handles : List Nat) :
    isSelected (normalizeAddress target) handles event.text = .ok true := by
  obtain ⟨-, address, names, isTarget⟩ := creates
  have peer_eq : peerOf event.text = some (normalizeAddress target) := by
    rw [peerOf, search_peerPattern names, Option.map_some, isTarget]
  rw [isSelected_of_peerOf peer_eq, beq_self_eq_true]

/-- The front carries nothing. -/
theorem parse_records
    {trace : BtmonTrace}
    (plain : ¬ NamesCreate trace.front.first)
    (target : String) :
    parseInitialConnectionParameters trace.text (some target) =
      trace.records.filterMap fun event => parametersIn (some target) event.text := by
  rw [parseInitialConnectionParameters, traceEvents_text, Regex.Records.pieces,
    List.filterMap_cons, parametersIn_of_not_found plain, List.filterMap_map]
  rfl

theorem not_namesCreate_nil : ¬ NamesCreate [] := by
  rintro ⟨front, blanks, behind, text_eq, -⟩
  have named := (List.append_eq_nil_iff.mp (List.append_eq_nil_iff.mp text_eq.symm).1).1
  have noCommand : createCommand = [] := (List.append_eq_nil_iff.mp named).2
  exact absurd noCommand (by decide)

open scoped Classical in
/-- Each event that creates a connection to the target and carries all parameters gives
one entry, and no other does.  The target's own text gives the same entries, and traces
that are put one behind the other give the entries of both. -/
theorem parseInitialConnectionParameters_asPrinted
    (trace : BtmonTrace)
    (printed : AsPrinted trace)
    (target : String) :
    parseInitialConnectionParameters trace.text (some target) =
        (trace.records.filter fun event : Event =>
          event.CreatesFor target ∧ event.CarriesAll).map Event.parameters ∧
      (∀ own, traceForDevice trace.text target = .ok own ->
        parseInitialConnectionParameters own (some target) =
          parseInitialConnectionParameters trace.text (some target)) ∧
      ∀ behind : BtmonTrace, (trace.text = [] ∨ ∃ line, trace.text = line ++ ['\n']) ->
        behind.front.text = [] ->
          parseInitialConnectionParameters (trace.text ++ behind.text) (some target) =
            parseInitialConnectionParameters trace.text (some target) ++
              parseInitialConnectionParameters behind.text (some target) := by
  refine ⟨?_, ?_, ?_⟩
  · rw [parse_records printed.front, ← List.filterMap_eq_map, List.filterMap_filter]
    apply List.filterMap_congr
    intro event isEvent
    by_cases gives : Event.CreatesFor target event ∧ Event.CarriesAll event
    · rw [parametersIn_of_creates (printed.opcode event isEvent) gives.1 gives.2]
      simp [gives]
    · rw [parametersIn_of_not_creates (printed.opcode event isEvent)
        (printed.peer event isEvent) gives]
      simp [gives]
  · intro own returns
    obtain ⟨handles, selected, -, filters, rfl⟩ := traceForDevice_eq_ok_iff.mp returns
    rw [traceEvents_text] at filters
    obtain ⟨rejoined, text_eq, records_eq, front_eq⟩ :=
      trace.exists_rejoined headerPattern_nil fun event =>
        (isSelected (normalizeAddress target) handles event).toOption == some true
    have plain : ¬ NamesCreate rejoined.front.first := by
      rcases front_eq with isEmpty | same
      · rw [isEmpty]
        exact not_namesCreate_nil
      · rw [same]
        exact printed.front
    rw [eq_filter_of_filterM filters, ← text_eq, parse_records plain, parse_records printed.front,
      records_eq, Regex.filterMap_rejoin, List.filterMap_filter]
    · apply List.filterMap_congr
      intro event isEvent
      by_cases creates : Event.CreatesFor target event
      · rw [isSelected_of_creates creates]
        rfl
      · have nothing := parametersIn_of_not_creates (printed.opcode event isEvent)
          (printed.peer event isEvent) fun gives => creates gives.1
        rw [nothing, ite_self]
    · intro event isEvent
      have inTrace := (List.mem_filter.mp isEvent).1
      exact parametersIn_spaced (printed.opcode event inTrace) (printed.peer event inTrace)
  · intro behind whole startsWithEvent
    have nothing : parametersIn (some target) [] = none := by
      rfl
    have behindSplits : traceEvents behind.text =
        [] :: behind.records.map fun event => event.text := by
      rw [traceEvents_text, Regex.Records.pieces, startsWithEvent]
    rcases whole with isEmpty | ⟨line, isLine⟩
    · rw [isEmpty]
      rfl
    · obtain ⟨init, last, splits, splitsBoth⟩ :=
        Regex.splitAhead_lines headerPattern_withinLine headerPattern_nil line
      have both : traceEvents (line ++ ['\n'] ++ behind.text) = _ :=
        splitsBoth _ _ behindSplits
      have alone : traceEvents (line ++ ['\n']) = _ := splits
      have lastAhead : init ++ last :: behind.records.map (fun event => event.text) =
          (init ++ [last]) ++ behind.records.map fun event => event.text := by
        rw [List.append_assoc, List.singleton_append]
      have frontDropped : ([] :: behind.records.map fun event => event.text).filterMap
            (parametersIn (some target)) =
          (behind.records.map fun event => event.text).filterMap (parametersIn (some target)) :=
        List.filterMap_cons_none nothing
      simp only [parseInitialConnectionParameters, isLine, both, alone, behindSplits]
      rw [frontDropped, lastAhead, List.filterMap_append]

/-- A connection is created. -/
def created : Event where
  first := "< HCI Command: LE Create Connection (0x08|0x000d) plen 25".toList
  rest :=
    ["        Peer address: 00:04:63:AA:BB:CC (Public)".toList,
      "        Min connection interval: 30.00 msec (0x0018)".toList,
      "        Max connection interval: 30.00 msec (0x0018)".toList,
      "        Connection latency: 0 (0x0000)".toList,
      "        Supervision timeout: 720 msec (0x0048)".toList, []]
  oneLine := by decide
  inside := by decide
  starts := by decide

/-- Its parameters are updated. -/
def updated : Event where
  first := "> HCI Event: LE Meta Event (0x3e) plen 10".toList
  rest :=
    ["      LE Connection Update Complete (0x03)".toList,
      "        Connection latency: 2 (0x0002)".toList,
      "        Supervision timeout: 4000 msec (0x0190)".toList, []]
  oneLine := by decide
  inside := by decide
  starts := by decide

theorem created_ended : ∀ event ∈ [created, updated].dropLast, event.Ended := by
  rw [List.dropLast_cons_cons, List.dropLast_singleton, List.forall_mem_singleton]
  rfl

/-- The trace of a connection that is created and then updated. -/
def createdAndUpdated : BtmonTrace where
  front := Regex.Block.none
  records := [created, updated]
  silent := headerPattern_nil
  frontEnded := fun _ => Or.inl rfl
  ended := created_ended

theorem blank_space : Text.Blank [' '] := by
  rw [Text.Blank, List.forall_mem_singleton]
  rfl

theorem created_namesPeer : NamesPeer created.lines "00:04:63:AA:BB:CC".toList := by
  have addressChars : ("00:04:63:AA:BB:CC".toList.all isAddressChar) = true := by decide
  refine ⟨[created.first], List.replicate 8 ' ', [' '], " (Public)".toList,
    created.rest.tail, rfl, ?_, ?_, blank_space, List.cons_ne_nil _ _, rfl,
    List.all_eq_true.mp addressChars⟩
  · rw [List.forall_mem_singleton]
    intro label isLabel labelled
    rcases List.mem_pair.mp isLabel with rfl | rfl
    · have present := labelled.subset (show 'P' ∈ "Peer address:".toList by decide)
      exact absurd present (by decide)
    · have present := labelled.subset (show 'A' ∈ "Address:".toList by decide)
      exact absurd present (by decide)
  · intro char isChar
    rw [List.eq_of_mem_replicate isChar]
    rfl

theorem updated_not_isCreate : ¬ updated.IsCreate := by
  rintro ⟨front, blanks, behind, line_eq, -⟩
  have inLine : '<' ∈ updated.first := by
    rw [line_eq]
    have named : '<' ∈ createCommand := by decide
    simp [named]
  exact absurd inLine (by decide)

theorem createdAndUpdated_asPrinted : AsPrinted createdAndUpdated := by
  have opcode : HasOpcode created.first :=
    ⟨[], [' '], "0x08|0x000d) plen 25".toList, rfl, blank_space⟩
  constructor
  · exact not_namesCreate_nil
  · intro event isEvent isCreate
    rcases List.mem_pair.mp isEvent with rfl | rfl
    · exact opcode
    · exact absurd isCreate updated_not_isCreate
  · intro event isEvent isCreate
    rcases List.mem_pair.mp isEvent with rfl | rfl
    · exact ⟨_, created_namesPeer⟩
    · exact absurd isCreate updated_not_isCreate

theorem created_createsFor : created.CreatesFor "00:04:63:aa:bb:cc" := by
  refine ⟨⟨[], [' '], "(0x08|0x000d) plen 25".toList, rfl, blank_space, Or.inr rfl⟩, _,
    created_namesPeer, ?_⟩
  decide

theorem created_numbers : numbersIn created.text = some ⟨24, 24, 0, 72⟩ := by
  decide +kernel

theorem created_carriesAll : created.CarriesAll :=
  carriesAll_of_numbersIn created_numbers

open scoped Classical in
/-- The parameters of the create command are found, and those of the update are not. -/
theorem parseInitialConnectionParameters_created :
    (createdAndUpdated.records.filter fun event : Event =>
        event.CreatesFor "00:04:63:aa:bb:cc" ∧ event.CarriesAll) = [created] ∧
      parseInitialConnectionParameters createdAndUpdated.text (some "00:04:63:aa:bb:cc") =
        [⟨24, 24, 0, 72⟩] := by
  have creates : (createdAndUpdated.records.filter fun event : Event =>
      event.CreatesFor "00:04:63:aa:bb:cc" ∧ event.CarriesAll) = [created] := by
    have createdStays : created.CreatesFor "00:04:63:aa:bb:cc" ∧ created.CarriesAll :=
      ⟨created_createsFor, created_carriesAll⟩
    have updatedDrops : ¬ (updated.CreatesFor "00:04:63:aa:bb:cc" ∧ updated.CarriesAll) :=
      fun creates => updated_not_isCreate creates.1.1
    change [created, updated].filter _ = _
    simp only [List.filter_cons, List.filter_nil, createdStays, updatedDrops, and_self,
      decide_true, decide_false, if_true, Bool.false_eq_true, if_false]
  have parameters : created.parameters = ⟨24, 24, 0, 72⟩ :=
    Option.some.inj ((numbersIn_of_carriesAll created_carriesAll).symm.trans created_numbers)
  refine ⟨creates, ?_⟩
  rw [(parseInitialConnectionParameters_asPrinted createdAndUpdated createdAndUpdated_asPrinted
    "00:04:63:aa:bb:cc").1, creates, List.map_singleton, parameters]

end Bluez
end BoschBle
