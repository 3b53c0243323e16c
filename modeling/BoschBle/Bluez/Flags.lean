import BoschBle.Bluez.State

/-!
# What a text says about a flag

`bluetoothctl` prints the properties of a device, and some of their values are chosen
by the device.  The first line that says anything about a flag decides it, and a line
says something about a flag as well when its value does.  So a value can decide a flag
exactly if no line in front of it does.
-/

namespace BoschBle
namespace Bluez

open Foundation

/-! ## Lines -/

/-- The properties that are read as flags. -/
inductive FlagKey
  | paired
  | trusted
  | connected
  | servicesResolved
  | discovering
  deriving DecidableEq

/-- The name of the property in what the tools print. -/
def FlagKey.text : FlagKey -> String
  | .paired => "Paired"
  | .trusted => "Trusted"
  | .connected => "Connected"
  | .servicesResolved => "ServicesResolved"
  | .discovering => "Discovering"

/-- A text of one line. -/
abbrev SingleLine : Type :=
  {line : Text // Text.OneLine line}

/-- A line `Property: value`. -/
structure PropertyLine where
  indent : Text
  property : Text
  value : SingleLine
  blank : Text.Blank indent
  oneLine : Text.OneLine (indent ++ property)
  starts : ∃ first rest, property = first :: rest ∧ Text.isSpace first = false
  noColon : ':' ∉ property

/-- The characters of the line. -/
def PropertyLine.text (line : PropertyLine) : Text :=
  line.indent ++ line.property ++ ": ".toList ++ line.value.1

/-- The line with another value. -/
def PropertyLine.withValue (line : PropertyLine) (value : SingleLine) : PropertyLine :=
  { line with value := value }

/-- A text with a property line between other lines. -/
def textOf (before : List SingleLine) (line : PropertyLine) (after : String) : String :=
  String.ofList (before.flatMap (fun other => other.1 ++ ['\n']) ++
    (line.text ++ '\n' :: after.toList))

theorem PropertyLine.text_oneLine (line : PropertyLine) : Text.OneLine line.text := by
  intro char inText
  rw [text, List.append_assoc] at inText
  obtain inFront | inBack := List.mem_append.mp inText
  · exact line.oneLine char inFront
  · obtain inColon | inValue := List.mem_append.mp inBack
    · obtain rfl | rfl := List.mem_pair.mp inColon
      · decide
      · decide
    · exact line.value.2 char inValue

/-! ## What a line says -/

/-- A word without the dots in front of it and the colons behind it, in lower case. -/
def bareWord (word : Text) : Text :=
  Text.lower (((Text.strip word).dropWhile fun char => char = '.').rdropWhile
    fun char => char = ':')

/-- A text reads yes, true, no or false. -/
def IsFlag (value : Text) : Prop :=
  (flagValue (Text.lower (Text.strip value))).isSome

/-- A line that says something about a flag: the line of the property itself with a
flag as its value, or one with the property as a word and with a flag as a later word. -/
inductive Settles (key : FlagKey) (line : Text) : Prop
  | property
      (name value : Text)
      (line_eq : Text.strip line = name ++ ':' :: value)
      (isName : Text.lower name = Text.lower key.text.toList)
      (isFlag : IsFlag value)
  | words
      (front middle back : List Text)
      (word flag : Text)
      (words_eq : Text.splitWords (Text.strip line) =
        front ++ word :: (middle ++ flag :: back))
      (isName : bareWord word = Text.lower key.text.toList)
      (isFlag : IsFlag (bareWord flag))

/-- What a line says about a flag. -/
def lineFlag (key : FlagKey) (line : Text) : Option Bool :=
  let normalized := Text.strip line
  if normalized = [] then none
  else (colonFlag (Text.lower key.text.toList) normalized).or
    (columnFlag (Text.lower key.text.toList) normalized)

theorem parseFlag_eq
    (text : String)
    (key : FlagKey) :
    parseFlag text key.text = (Text.splitLines text.toList).findSome? (lineFlag key) :=
  rfl

/-- The lines in front of a property line have the first word. -/
theorem parseFlag_textOf
    (key : FlagKey)
    (before : List SingleLine)
    (line : PropertyLine)
    (after : String) :
    parseFlag (textOf before line after) key.text =
      (before.findSome? fun other => lineFlag key other.1).or
        ((lineFlag key line.text).or (parseFlag after key.text)) := by
  have beforeLines : ∀ other ∈ before.map Subtype.val, Text.OneLine other := by
    intro other isBefore
    obtain ⟨single, _, rfl⟩ := List.mem_map.mp isBefore
    exact single.2
  have text_eq : (textOf before line after).toList =
      (before.map Subtype.val).flatMap (fun other => other ++ ['\n']) ++
        (line.text ++ '\n' :: after.toList) := by
    rw [textOf, String.toList_ofList, List.flatMap_map]
  rw [parseFlag_eq, parseFlag_eq, text_eq, Text.splitLines_lines beforeLines,
    Text.splitLines_line line.text_oneLine, List.findSome?_append, List.findSome?_map,
    List.findSome?_cons]
  cases lineFlag key line.text with
  | none => rfl
  | some flag => rfl

theorem colon_notMem (key : FlagKey) : ':' ∉ Text.lower key.text.toList := by
  cases key <;> decide

theorem dropWhile_name
    {name : Text}
    (noColon : ':' ∉ name)
    (value : Text) :
    ((name ++ ':' :: value).dropWhile fun char => char ≠ ':').drop 1 = value := by
  have inName : ∀ char ∈ name, decide (char ≠ ':') = true := by
    intro char isIn
    rw [decide_eq_true_eq]
    rintro rfl
    exact noColon isIn
  rw [List.dropWhile_append_of_pos inName, List.dropWhile_cons_of_neg (by decide)]
  rfl

theorem colonFlag_isSome
    (key : FlagKey)
    (line : Text) :
    (colonFlag (Text.lower key.text.toList) line).isSome = true ↔
      ∃ name value, line = name ++ ':' :: value ∧
        Text.lower name = Text.lower key.text.toList ∧ IsFlag value := by
  have noColon {name : Text} (isName : Text.lower name = Text.lower key.text.toList) :
      ':' ∉ name := by
    intro isIn
    refine colon_notMem key ?_
    rw [← isName]
    exact List.mem_map.mpr ⟨':', isIn, by decide⟩
  rw [colonFlag]
  constructor
  · intro isSome
    split at isSome
    case isFalse => cases isSome
    case isTrue isPrefix =>
      obtain ⟨rest, lower_eq⟩ := List.isPrefixOf_iff_prefix.mp isPrefix
      rw [List.append_assoc, List.singleton_append] at lower_eq
      obtain ⟨name, tail, rfl, isName, tail_eq⟩ := List.map_eq_append_iff.mp lower_eq.symm
      obtain ⟨colon, value, rfl, isColon, _⟩ := List.map_eq_cons_iff.mp tail_eq
      cases Text.eq_of_toLower_eq (Or.inl (by decide)) isColon
      rw [dropWhile_name (noColon isName)] at isSome
      exact ⟨name, value, rfl, isName, isSome⟩
  · rintro ⟨name, value, rfl, isName, isFlag⟩
    have isPrefix : (Text.lower key.text.toList ++ [':']).isPrefixOf
        (Text.lower (name ++ ':' :: value)) = true := by
      rw [List.isPrefixOf_iff_prefix, ← isName]
      exact ⟨Text.lower value, by simp [Text.lower]⟩
    rw [if_pos isPrefix, dropWhile_name (noColon isName)]
    exact isFlag

/-- What is behind the first place of a word is behind every place of it. -/
theorem idxOf_append_le
    (front back : List Text)
    (word : Text) :
    (front ++ word :: back).idxOf word ≤ front.length := by
  rw [List.idxOf_append]
  split
  case isTrue isIn => exact (List.idxOf_lt_length_iff.mpr isIn).le
  case isFalse => rw [List.idxOf_cons_self, Nat.zero_add]

theorem columnFlag_isSome
    (key : FlagKey)
    (line : Text) :
    (columnFlag (Text.lower key.text.toList) line).isSome = true ↔
      ∃ front middle back word flag,
        Text.splitWords line = front ++ word :: (middle ++ flag :: back) ∧
          bareWord word = Text.lower key.text.toList ∧ IsFlag (bareWord flag) := by
  change (if Text.lower key.text.toList ∈ (Text.splitWords line).map bareWord then
    ((((Text.splitWords line).map bareWord).drop
      (((Text.splitWords line).map bareWord).idxOf (Text.lower key.text.toList) + 1)).reverse.findSome?
        fun part => flagValue (Text.lower (Text.strip part))) else none).isSome = true ↔ _
  generalize Text.splitWords line = words
  constructor
  · intro isSome
    split at isSome
    case isFalse => cases isSome
    case isTrue isIn =>
      obtain ⟨part, isPart, isFlag⟩ := List.findSome?_isSome_iff.mp isSome
      rw [List.mem_reverse, ← List.map_drop] at isPart
      obtain ⟨flag, isFlagWord, rfl⟩ := List.mem_map.mp isPart
      obtain ⟨middle, back, behind_eq⟩ := List.append_of_mem isFlagWord
      have inRange := List.idxOf_lt_length_iff.mpr isIn
      have isName := List.getElem_idxOf inRange
      rw [List.getElem_map] at isName
      rw [List.length_map] at inRange
      refine ⟨words.take ((words.map bareWord).idxOf (Text.lower key.text.toList)), middle,
        back, _, flag, ?_, isName, isFlag⟩
      rw [← behind_eq, ← List.drop_eq_getElem_cons inRange, List.take_append_drop]
  · rintro ⟨front, middle, back, word, flag, rfl, isName, isFlag⟩
    have parts_eq : (front ++ word :: (middle ++ flag :: back)).map bareWord =
        front.map bareWord ++ Text.lower key.text.toList ::
          (middle ++ flag :: back).map bareWord := by
      rw [List.map_append, List.map_cons, isName]
    rw [parts_eq, if_pos (List.mem_append_right _ List.mem_cons_self),
      List.findSome?_isSome_iff]
    refine ⟨bareWord flag, List.mem_reverse.mpr ?_, isFlag⟩
    have notLater := Nat.succ_le_succ (idxOf_append_le (front.map bareWord)
      ((middle ++ flag :: back).map bareWord) (Text.lower key.text.toList))
    refine (List.drop_sublist_drop_left _ notLater).subset ?_
    rw [Nat.succ_eq_add_one, List.drop_length_add_append, List.drop_one, List.tail_cons]
    exact List.mem_map_of_mem (List.mem_append_right _ List.mem_cons_self)

theorem lineFlag_isSome
    (key : FlagKey)
    (line : Text) :
    (lineFlag key line).isSome = true ↔ Settles key line := by
  rw [lineFlag]
  split
  case isTrue isEmpty =>
    refine ⟨nofun, ?_⟩
    intro settles
    cases settles with
    | property name value line_eq =>
        rw [isEmpty] at line_eq
        cases name <;> cases line_eq
    | words front middle back word flag words_eq =>
        rw [isEmpty] at words_eq
        cases front <;> cases words_eq
  case isFalse =>
    rw [Option.isSome_or, Bool.or_eq_true, colonFlag_isSome, columnFlag_isSome]
    constructor
    · rintro (⟨name, value, line_eq, isName, isFlag⟩ |
        ⟨front, middle, back, word, flag, words_eq, isName, isFlag⟩)
      · exact .property name value line_eq isName isFlag
      · exact .words front middle back word flag words_eq isName isFlag
    · intro settles
      cases settles with
      | property name value line_eq isName isFlag =>
          exact .inl ⟨name, value, line_eq, isName, isFlag⟩
      | words front middle back word flag words_eq isName isFlag =>
          exact .inr ⟨front, middle, back, word, flag, words_eq, isName, isFlag⟩

/-! ## A value that decides a flag -/

/-- A flag as the tools print it. -/
def flagText (flag : Bool) : String :=
  if flag then "yes" else "no"

theorem oneLine_speaking (key : FlagKey) (flag : Bool) :
    Text.OneLine (key.text.toList ++ ' ' :: (flagText flag).toList) := by
  cases key <;> cases flag <;> decide

/-- The name of a flag with a value. -/
def speaking (key : FlagKey) (flag : Bool) : SingleLine :=
  ⟨key.text.toList ++ ' ' :: (flagText flag).toList, oneLine_speaking key flag⟩

theorem columnFlag_last
    (key : FlagKey)
    {line : Text} {words : List Text} {word flagWord : Text} {flag : Bool}
    (words_eq : Text.splitWords line = words ++ [word, flagWord])
    (isName : bareWord word = Text.lower key.text.toList)
    (isFlag : flagValue (Text.lower (Text.strip (bareWord flagWord))) = some flag) :
    columnFlag (Text.lower key.text.toList) line = some flag := by
  have parts_eq : (Text.splitWords line).map bareWord =
      words.map bareWord ++ Text.lower key.text.toList :: [bareWord flagWord] := by
    rw [words_eq, List.map_append, List.map_cons, List.map_singleton, isName]
  change (if Text.lower key.text.toList ∈ (Text.splitWords line).map bareWord then
    ((((Text.splitWords line).map bareWord).drop
      (((Text.splitWords line).map bareWord).idxOf
        (Text.lower key.text.toList) + 1)).reverse.findSome?
          fun part => flagValue (Text.lower (Text.strip part))) else none) = _
  have atFront := idxOf_append_le (words.map bareWord) [bareWord flagWord]
    (Text.lower key.text.toList)
  rw [parts_eq, if_pos (List.mem_append_right _ List.mem_cons_self)]
  generalize List.idxOf (Text.lower key.text.toList) _ = place at atFront
  rw [List.append_cons, List.drop_append_of_le_length, List.reverse_append,
    List.reverse_singleton, List.singleton_append, List.findSome?_cons, isFlag]
  rw [List.length_append]
  exact Nat.succ_le_succ atFront

/-- A line with such a value decides the flag. -/
theorem lineFlag_speaking
    (key : FlagKey)
    (flag : Bool)
    (line : PropertyLine) :
    lineFlag key (line.withValue (speaking key flag)).text = some flag := by
  have stripped : Text.strip (line.withValue (speaking key flag)).text =
      line.property ++ ':' :: ' ' :: (speaking key flag).1 := by
    obtain ⟨first, rest, property_eq, visible⟩ := line.starts
    have lastVisible : ∀ char ∈ (flagText flag).toList.getLast?,
        Text.isSpace char = false := by
      cases flag
      · rintro char ⟨⟩
        decide
      · rintro char ⟨⟩
        decide
    have trimmed : Text.Trimmed (line.property ++ ':' :: ' ' :: (speaking key flag).1) := by
      refine ⟨by simp, ?_, ?_⟩
      · rw [property_eq]
        rintro char ⟨⟩
        exact visible
      · rw [speaking, ← List.cons_append, ← List.cons_append, List.append_cons _ ' ',
          ← List.append_assoc, List.getLast?_append]
        cases flag
        · exact lastVisible
        · exact lastVisible
    have blank : Text.Blank [] := fun char impossible => absurd impossible List.not_mem_nil
    have whole := Text.strip_of_trimmed line.blank trimmed blank
    rw [List.append_nil] at whole
    rw [← whole, PropertyLine.text, PropertyLine.withValue]
    simp
  have nonempty : line.property ++ ':' :: ' ' :: (speaking key flag).1 ≠ [] := by simp
  have noColonFlag : colonFlag (Text.lower key.text.toList)
      (line.property ++ ':' :: ' ' :: (speaking key flag).1) = none := by
    rw [colonFlag, dropWhile_name line.noColon]
    split
    · cases key <;> cases flag <;> decide
    · rfl
  have words_eq : Text.splitWords (line.property ++ ':' :: ' ' :: (speaking key flag).1) =
      Text.splitWords (line.property ++ [':']) ++
        [key.text.toList, (flagText flag).toList] := by
    rw [List.append_cons, Text.splitWords_space]
    congr 1
    cases key <;> cases flag <;> decide
  rw [lineFlag, stripped, if_neg nonempty, noColonFlag, Option.none_or]
  refine columnFlag_last key words_eq ?_ ?_
  · cases key <;> decide
  · cases flag <;> decide

/-! ## Whether a value can decide a flag -/

/-- The flags of a state that pairing depends on. -/
def deviceFlags (state : BluezState) : List (Option Bool) :=
  [state.paired, state.trusted, state.connected]

/-- The flags of a device that `bluetoothctl` prints. -/
def DEVICE_FLAG_KEYS : List FlagKey :=
  [.paired, .trusted, .connected]

/-- No value of a property changes a flag. -/
def Unchanged (key : FlagKey) (before : List SingleLine) (line : PropertyLine)
    (after : String) : Prop :=
  ∀ value, parseFlag (textOf before (line.withValue value) after) key.text =
    parseFlag (textOf before line after) key.text

theorem unchanged_iff
    (key : FlagKey)
    (before : List SingleLine)
    (line : PropertyLine)
    (after : String) :
    Unchanged key before line after ↔ ∃ other ∈ before, Settles key other.1 := by
  constructor
  · intro unchanged
    by_contra notSettled
    have silent : (before.findSome? fun other => lineFlag key other.1) = none := by
      rw [List.findSome?_eq_none_iff]
      intro other isBefore
      rw [← Option.not_isSome_iff_eq_none, lineFlag_isSome]
      exact fun settles => notSettled ⟨other, isBefore, settles⟩
    have decides (flag : Bool) :
        parseFlag (textOf before (line.withValue (speaking key flag)) after) key.text =
          some flag := by
      rw [parseFlag_textOf, silent, lineFlag_speaking]
      rfl
    have same := (unchanged (speaking key true)).trans (unchanged (speaking key false)).symm
    rw [decides, decides] at same
    cases same
  · rintro ⟨other, isBefore, settles⟩ value
    have decided : (before.findSome? fun other => lineFlag key other.1).isSome = true :=
      List.findSome?_isSome_iff.mpr ⟨other, isBefore, (lineFlag_isSome key other.1).mpr settles⟩
    rw [parseFlag_textOf, parseFlag_textOf, Option.or_of_isSome decided,
      Option.or_of_isSome decided]

/-- A value of a property changes no flag of a text exactly if a line in front of it
settles the flag, and no flag of a state exactly if lines in front of it settle them
all. -/
theorem parseFlag_unchanged_iff
    (before : List SingleLine)
    (line : PropertyLine)
    (after : String) :
    (∀ key, (∀ value, parseFlag (textOf before (line.withValue value) after) key.text =
        parseFlag (textOf before line after) key.text) ↔
      ∃ other ∈ before, Settles key other.1) ∧
    ∀ (address : String) (process : CompletedProcess) (busctl : Option CompletedProcess)
      (device : Option Device) (visible pairingAdvertisement : Option Bool),
      (∀ value, deviceFlags (buildState address
            { process with stdout := textOf before (line.withValue value) after }
            busctl device visible pairingAdvertisement) =
          deviceFlags (buildState address { process with stdout := textOf before line after }
            busctl device visible pairingAdvertisement)) ↔
        ∀ key ∈ DEVICE_FLAG_KEYS, ∃ other ∈ before, Settles key other.1 := by
  have unchanged (key : FlagKey) (rest : String) :
      (∀ value, parseFlag (textOf before (line.withValue value) rest) key.text =
        parseFlag (textOf before line rest) key.text) ↔
          ∃ other ∈ before, Settles key other.1 :=
    unchanged_iff key before line rest
  refine ⟨fun key => unchanged key after, ?_⟩
  intro address process busctl device visible pairingAdvertisement
  have output (printed : PropertyLine) :
      outputText { process with stdout := textOf before printed after } =
        textOf before printed (after ++ "\n" ++ process.stderr) := by
    apply String.toList_inj.mp
    simp only [outputText, textOf, String.toList_append, String.toList_ofList,
      List.append_assoc, List.cons_append]
  have flags (printed : PropertyLine) :
      deviceFlags (buildState address
          { process with stdout := textOf before printed after }
          busctl device visible pairingAdvertisement) =
        DEVICE_FLAG_KEYS.map fun key => parseFlag
          (textOf before printed (after ++ "\n" ++ process.stderr)) key.text := by
    rw [← output printed]
    rfl
  simp only [flags, List.map_inj_left]
  constructor
  · intro same key isKey
    rw [← unchanged key (after ++ "\n" ++ process.stderr)]
    exact fun value => same value key isKey
  · intro settled value key isKey
    exact (unchanged key _).mpr (settled key isKey) value

/-! A device that is not paired, and whose name tells that it is. -/

theorem blank_tab : Text.Blank ['\t'] := by
  intro char isIn
  rw [List.mem_singleton.mp isIn]
  rfl

theorem oneLine_name : Text.OneLine (['\t'] ++ "Name".toList) := by
  decide

theorem noColon_name : ':' ∉ "Name".toList := by
  decide

theorem oneLine_eBike : Text.OneLine "smart system eBike".toList := by
  decide

/-- The line that names the bike. -/
def eBikeLine : PropertyLine :=
  ⟨['\t'], "Name".toList, ⟨"smart system eBike".toList, oneLine_eBike⟩, blank_tab, oneLine_name,
    ⟨'N', "ame".toList, rfl, rfl⟩, noColon_name⟩

theorem parseFlag_reads_name :
    Text.lower eBikeLine.property ≠ Text.lower FlagKey.paired.text.toList ∧
    textOf [] eBikeLine "\tPaired: no\n" =
      "\tName: smart system eBike\n\tPaired: no\n" ∧
    textOf [] (eBikeLine.withValue (speaking .paired true)) "\tPaired: no\n" =
      "\tName: Paired yes\n\tPaired: no\n" ∧
    parseFlag (textOf [] eBikeLine "\tPaired: no\n") "Paired" = some false ∧
    parseFlag (textOf [] (eBikeLine.withValue (speaking .paired true)) "\tPaired: no\n")
      "Paired" = some true := by
  decide

end Bluez
end BoschBle
