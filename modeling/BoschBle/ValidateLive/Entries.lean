import BoschBle.ValidateLive.Commands
import BoschBle.ValidateLive.FramePattern

/-!
# What the lines of a log show

The validator looks for a command as it is written, and for the words `send hex` and
`frame channel` in front of an equals sign in either case.  A line that the log writes
shows what its entry is about.  Only the line of a notification, which repeats what
others have sent, may show more.
-/

namespace BoschBle
namespace ValidateLive

open Foundation Common Mcsp MessageBus Live Handshake

/-! ## Labels -/

/-- The words in front of the equals sign that the validator looks for. -/
def heads : List Text :=
  ["send hex".toList, "frame channel".toList]

/-- The word does not stand in the text in front of an equals sign. -/
def Silent (head text : Text) : Prop :=
  ¬ head ++ ['='] <:+: Text.lower text

/-- The label does not end with the word, whatever is in front of the label. -/
def Clear (head label : Text) : Prop :=
  '=' ∉ label ∧ ¬ head <:+ Text.lower label ∧ ¬ Text.lower label <:+ head

instance (head label : Text) : Decidable (Clear head label) :=
  inferInstanceAs (Decidable (_ ∧ _))

theorem lower_at_equals (before behind : Text) :
    Text.lower (before ++ '=' :: behind) = Text.lower before ++ '=' :: Text.lower behind := by
  rw [Text.lower_append, Text.lower_cons]
  rfl

theorem notMem_lower_equals
    {text : Text}
    (free : '=' ∉ text) :
    '=' ∉ Text.lower text :=
  Text.notMem_lower (by decide) free

section Silent

variable {head front label behind : Text}

theorem silent_free
    {text : Text}
    (free : '=' ∉ text) :
    Silent head text :=
  Text.not_infix_of_notMem (notMem_lower_equals free)

theorem not_infix_of_silent
    {text : Text}
    (silent : Silent head text)
    (tail : Text) :
    ¬ head ++ '=' :: tail <:+: Text.lower text := by
  intro stands
  refine silent (List.IsInfix.trans ⟨[], tail, ?_⟩ stands)
  rw [List.nil_append, List.append_assoc, List.singleton_append]

/-- Behind a clear label the word may stand only where it stands in the rest. -/
theorem stands_label
    (headFree : '=' ∉ head)
    (frontFree : '=' ∉ front)
    (clear : Clear head label)
    (tail : Text) :
    head ++ '=' :: tail <:+: Text.lower (front ++ (label ++ '=' :: behind)) ↔
      head ++ '=' :: tail <:+: Text.lower behind := by
  obtain ⟨labelFree, notEnd, notLonger⟩ := clear
  rw [← List.append_assoc, lower_at_equals]
  refine Text.infix_behind_bar headFree ?_ ?_
  · refine notMem_lower_equals ?_
    rw [List.mem_append, not_or]
    exact ⟨frontFree, labelFree⟩
  · rw [Text.lower_append]
    exact Text.not_suffix_append notEnd notLonger _

theorem silent_label
    (headFree : '=' ∉ head)
    (frontFree : '=' ∉ front)
    (clear : Clear head label)
    (silent : Silent head behind) :
    Silent head (front ++ (label ++ '=' :: behind)) :=
  (stands_label headFree frontFree clear []).not.mpr silent

end Silent

/-! ## Silent lines -/

section Lines

variable {head front behind : Text}

theorem head_free
    (isHead : head ∈ heads) :
    '=' ∉ head := by
  revert head
  decide

/-- A text that starts with a clear label. -/
theorem silent_start
    {label : Text}
    (isHead : head ∈ heads)
    (clear : ∀ head ∈ heads, Clear head label)
    (frontFree : '=' ∉ front)
    (free : '=' ∉ behind) :
    Silent head (front ++ (label ++ '=' :: behind)) :=
  silent_label (head_free isHead) frontFree (clear head isHead) (silent_free free)

theorem notMem_append
    {char : Char} {first second : Text}
    (firstFree : char ∉ first)
    (secondFree : char ∉ second) :
    char ∉ first ++ second := by
  rw [List.mem_append, not_or]
  exact ⟨firstFree, secondFree⟩

theorem clear_commandLabel (type : CommandType) :
    '(' ∈ commandLabel type ∧ ∀ head ∈ heads, Clear head (commandLabel type) := by
  cases type <;> decide

theorem silent_commandRepr
    (isHead : head ∈ heads)
    (frontFree : '=' ∉ front)
    (behindFree : '=' ∉ behind)
    (command : Command) :
    Silent head (front ++ (commandRepr command ++ behind)) := by
  have digitsFree (value : Nat) : '=' ∉ Nat.toDigits 10 value :=
    notMem_toDigits (by decide) value
  have numberFree (value : Nat) : '=' ∉ Nat.toDigits 10 value ++ ")".toList ++ behind :=
    notMem_append (notMem_append (digitsFree value) (by decide)) behindFree
  rw [commandRepr_label, List.append_assoc, List.cons_append]
  refine silent_label (head_free isHead) frontFree ((clear_commandLabel _).2 head isHead) ?_
  cases command with
  | versionCommand version => exact silent_free (numberFree version)
  | advanceTransmitWindowCommand channel advance =>
      have text_eq : commandRest (.advanceTransmitWindowCommand channel advance) ++ behind =
          channelRepr channel ++ (", advance".toList ++
            '=' :: (Nat.toDigits 10 advance ++ ")".toList ++ behind)) := by
        change channelRepr channel ++ (", advance".toList ++
          '=' :: (Nat.toDigits 10 advance ++ ")".toList)) ++ behind = _
        simp only [List.append_assoc, List.cons_append]
      rw [text_eq]
      exact silent_start isHead (by decide) (free_channelRepr channel).2.2.2
        (numberFree advance)
  | disableFlowControlCommand channel =>
      exact silent_free (notMem_append
        (notMem_append (free_channelRepr channel).2.2.2 (by decide)) behindFree)
  | maxSegmentationPacketCommand maxPacketSize => exact silent_free (numberFree maxPacketSize)

theorem silent_message
    (isHead : head ∈ heads)
    (frontFree : '=' ∉ front)
    (behindFree : '=' ∉ behind)
    (message : MessageFrame) :
    Silent head (front ++ ((formatMessageFrame message).toList ++ behind)) := by
  obtain ⟨summary, plain, message_eq | message_eq⟩ := exists_summary message
  · rw [message_eq]
    exact silent_free (notMem_append frontFree (notMem_append plain.1 behindFree))
  · have text_eq : front ++ ((formatMessageFrame message).toList ++ behind) =
        (front ++ summary) ++ (" payload".toList ++
          '=' :: ((Bytes.hex message.payload).toList ++ behind)) := by
      rw [message_eq]
      simp only [List.append_assoc, List.cons_append]
    rw [text_eq]
    exact silent_start isHead (by decide) (notMem_append frontFree plain.1)
      (notMem_append (Plain.hex _).1 behindFree)

theorem silent_summarizeFrame
    (isHead : head ∈ heads)
    (frontFree : '=' ∉ front)
    (behindFree : '=' ∉ behind)
    (frame : Frame) :
    Silent head (front ++ (summarizeFrame frame ++ behind)) := by
  rw [summarizeFrame]
  split
  · split
    · rename_i command _
      rw [List.append_assoc, ← List.append_assoc front]
      exact silent_commandRepr isHead (notMem_append frontFree (by decide)) behindFree command
    · exact silent_free (notMem_append frontFree
        (notMem_append (notMem_append (by decide) (Plain.hex _).1) behindFree))
  · split
    · exact silent_message isHead frontFree behindFree _
    · exact silent_free (notMem_append frontFree (notMem_append (Plain.hex _).1 behindFree))

/-- Where every part of a joined text is silent, the text is. -/
theorem silent_joined
    (isHead : head ∈ heads)
    {parts : List Text}
    (frontFree : '=' ∉ front)
    (partsSilent : ∀ part ∈ parts, ∀ before behind, '=' ∉ before -> '=' ∉ behind ->
      Silent head (before ++ (part ++ behind))) :
    Silent head (front ++ " | ".toList.intercalate parts) := by
  have noBar : ∀ head ∈ heads, '|' ∉ head ++ ['='] := by decide
  have spaceFree : ∀ behind ∈ [[], [' ']], '=' ∉ behind := by decide
  have splits (before behind : Text) :
      head ++ ['='] <:+: Text.lower (before ++ '|' :: behind) ↔
        head ++ ['='] <:+: Text.lower before ∨ head ++ ['='] <:+: Text.lower behind := by
    rw [Text.lower_append, Text.lower_cons]
    exact Text.infix_around_bar (noBar head isHead)
  intro stands
  obtain ⟨cell, isCell, inCell⟩ := (@Text.holds_joined_iff _ '|' [' '] [' ']
    (fun text => head ++ ['='] <:+: Text.lower text) splits front parts).mp stands
  rcases Text.of_mem_cells isCell with
    ⟨-, rfl⟩ | ⟨part, isPart, before, isBefore, behind, isBehind, rfl⟩
  · exact silent_free frontFree inCell
  · refine partsSilent part isPart before behind ?_ (spaceFree behind isBehind) inCell
    rcases List.mem_cons.mp isBefore with rfl | isSpace
    · exact frontFree
    · rw [List.mem_singleton.mp isSpace]
      decide

theorem silent_summarizePacket
    (isHead : head ∈ heads)
    (frontFree : '=' ∉ front)
    (payload : Bytes) :
    Silent head (front ++ summarizePacket payload) := by
  rw [summarizePacket]
  cases splitFrames payload with
  | error exc => exact silent_free (notMem_append frontFree (Plain.hex payload).1)
  | ok frames =>
      refine silent_joined isHead frontFree
        fun part isPart before behind beforeFree behindFree => ?_
      obtain ⟨frame, -, rfl⟩ := List.mem_map.mp isPart
      exact silent_summarizeFrame isHead beforeFree behindFree frame

end Lines

/-! ## What entries show -/

/-- The text of a notification behind its label. -/
def notifyText (sender : String) (payload : Bytes) : Text :=
  sender.toList ++ " hex=".toList ++ (Bytes.hex payload).toList ++ " raw=".toList ++
    Repr.ofBytes payload

/-- The parts of an entry that are no MCSP data are plain. -/
def Admitted : Entry -> Prop
  | .connected address => Plain address
  | .decodeFailed exc => Plain exc.message.toList
  | _ => True

/-- The entry is about a command, or repeats the text of one. -/
def ShowsCommand (command : Command) : Entry -> Prop
  | .notify sender payload => commandRepr command <:+: notifyText sender payload
  | .notifyDecoded payload =>
      ∃ frames, splitFrames payload = .ok frames ∧
        ∃ frame ∈ frames, commandOf frame = some command
  | .recv received => command = received
  | _ => False

/-- The entry is about a packet that starts with some bytes, or repeats the words of one. -/
def ShowsPacket (digits : Text) : Entry -> Prop
  | .notify sender payload =>
      "send hex".toList ++ '=' :: digits <:+: Text.lower (notifyText sender payload)
  | .send packet => digits <+: (Bytes.hex packet).toList
  | _ => False

/-- The frames that the validator finds in an entry. -/
def shownFrames : Entry -> List Text
  | .notify sender payload => CHANNEL1_PATTERN.findAll (notifyText sender payload)
  | .frame frame =>
      if frame.channel = .channel1 ∧ frame.endOfChannel = true ∧ frame.payload ≠ [] then
        [(Bytes.hex frame.payload).toList]
      else []
  | _ => []

section Entries

variable {front : Text} {entry : Entry}

/-- Neither a bar nor a newline. -/
theorem notMem_commandRepr
    {char : Char}
    (isMark : char ∈ ['|', '\n'])
    (command : Command) :
    char ∉ commandRepr command := by
  have noDigit : char.isDigit = false := by
    rcases List.mem_pair.mp isMark with rfl | rfl <;> decide
  have noSign : char ≠ '=' ∧ char ∉ ")".toList ∧ char ∉ ", advance".toList := by
    rcases List.mem_pair.mp isMark with rfl | rfl <;> decide
  have labelFree (type : CommandType) : char ∉ commandLabel type := by
    rcases List.mem_pair.mp isMark with rfl | rfl <;> cases type <;> decide
  have channelFree (channel : McspChannel) : char ∉ channelRepr channel := by
    rcases List.mem_pair.mp isMark with rfl | rfl <;> cases channel <;> decide
  have numberFree (value : Nat) : char ∉ Nat.toDigits 10 value ++ ")".toList :=
    notMem_append (notMem_toDigits noDigit value) noSign.2.1
  have equalsFree {text : Text} (free : char ∉ text) : char ∉ '=' :: text := by
    rw [List.mem_cons, not_or]
    exact ⟨noSign.1, free⟩
  rw [commandRepr_label]
  refine notMem_append (labelFree _) (equalsFree ?_)
  cases command with
  | versionCommand version => exact numberFree version
  | advanceTransmitWindowCommand channel advance =>
      exact notMem_append (channelFree channel)
        (notMem_append noSign.2.2 (equalsFree (numberFree advance)))
  | disableFlowControlCommand channel =>
      exact notMem_append (channelFree channel) noSign.2.1
  | maxSegmentationPacketCommand maxPacketSize => exact numberFree maxPacketSize

/-- A message shows no command. -/
theorem parenthesis_notMem_message (message : MessageFrame) :
    '(' ∉ (formatMessageFrame message).toList := by
  obtain ⟨summary, plain, message_eq | message_eq⟩ := exists_summary message
  · rw [message_eq]
    exact plain.2
  · rw [message_eq]
    refine notMem_append plain.2 (notMem_append (by decide) ?_)
    rw [List.mem_cons, not_or]
    exact ⟨by decide, (Plain.hex _).2⟩

theorem command_in_frame
    {before behind : Text}
    (beforeFree : '(' ∉ before)
    (behindFree : '(' ∉ behind)
    (command : Command)
    (frame : Frame) :
    commandRepr command <:+: before ++ (summarizeFrame frame ++ behind) ↔
      commandOf frame = some command := by
  have hexFree := (Plain.hex frame.payload).2
  have nothing {text : Text} (free : '(' ∉ text) :
      commandRepr command <:+: before ++ (text ++ behind) ↔ none = some command := by
    refine iff_of_false (not_command ?_) nofun
    exact notMem_append beforeFree (notMem_append free behindFree)
  rw [summarizeFrame, commandOf]
  by_cases isCommand : frame.channel = .command
  · rw [if_pos isCommand, if_pos isCommand]
    cases decodeCommandFrame frame with
    | error exc => exact nothing (notMem_append (by decide) hexFree)
    | ok other =>
        have text_eq : before ++ ("CMD ".toList ++ commandRepr other ++ behind) =
            (before ++ "CMD ".toList) ++ (commandRepr other ++ behind) := by
          simp only [List.append_assoc]
        dsimp only
        rw [text_eq, command_around (notMem_append beforeFree (by decide)) behindFree,
          Except.toOption, Option.some_inj, eq_comm]
  · rw [if_neg isCommand, if_neg isCommand]
    cases decodeMessageFrame frame.payload with
    | error exc => exact nothing hexFree
    | ok message => exact nothing (parenthesis_notMem_message message)

theorem command_in_joined
    (frontFree : '(' ∉ front)
    (command : Command)
    (frames : List Frame) :
    commandRepr command <:+: front ++ " | ".toList.intercalate (frames.map summarizeFrame) ↔
      ∃ frame ∈ frames, commandOf frame = some command := by
  have spaceFree : ∀ behind ∈ [[], [' ']], '(' ∉ behind := by decide
  have inCells := @Text.holds_joined_iff _ '|' [' '] [' ']
    (fun text => commandRepr command <:+: text)
    (fun _ _ => Text.infix_around_bar (notMem_commandRepr List.mem_cons_self command)) front
    (frames.map summarizeFrame)
  refine inCells.trans ⟨?_, ?_⟩
  · rintro ⟨cell, isCell, inCell⟩
    rcases Text.of_mem_cells isCell with
      ⟨-, rfl⟩ | ⟨part, isPart, before, isBefore, behind, isBehind, rfl⟩
    · exact absurd inCell (not_command frontFree)
    · obtain ⟨frame, isFrame, rfl⟩ := List.mem_map.mp isPart
      have beforeFree : '(' ∉ before := by
        rcases List.mem_cons.mp isBefore with rfl | isSpace
        · exact frontFree
        · rw [List.mem_singleton.mp isSpace]
          decide
      exact ⟨frame, isFrame,
        (command_in_frame beforeFree (spaceFree behind isBehind) command frame).mp inCell⟩
  · rintro ⟨frame, isFrame, carries⟩
    have inPart := (@command_in_frame [] [] (by decide) (by decide) command frame).mpr carries
    rw [List.nil_append, List.append_nil] at inPart
    obtain ⟨cell, isCell, inCell⟩ := Text.exists_cell (List.mem_map_of_mem isFrame) front
    exact ⟨cell, isCell, inPart.trans inCell⟩

/-- The line of an entry shows the commands that the entry shows. -/
theorem command_in_entry
    (frontPlain : Plain front)
    (admitted : Admitted entry)
    (command : Command) :
    commandRepr command <:+: front ++ entry.text ↔ ShowsCommand command entry := by
  have nothing {text : Text} (free : '(' ∉ text) :
      commandRepr command <:+: front ++ text ↔ False :=
    iff_of_false (not_command (notMem_append frontPlain.2 free)) id
  cases entry with
  | connected address => exact nothing (notMem_append (by decide) admitted.2)
  | notify sender payload =>
      have text_eq : front ++ (Entry.notify sender payload).text =
          (front ++ "NOTIFY sender".toList) ++ '=' :: notifyText sender payload := by
        rw [List.append_assoc]
        rfl
      have label := clear_commandLabel (commandType command)
      have labelFree : '=' ∉ commandLabel (commandType command) :=
        (label.2 _ List.mem_cons_self).1
      rw [text_eq, commandRepr_label, Text.infix_behind_bar labelFree
        (notMem_append frontPlain.1 (by decide)), ← commandRepr_label]
      · rfl
      · -- the label of a command has a parenthesis
        intro ends
        exact notMem_append frontPlain.2 (by decide : '(' ∉ "NOTIFY sender".toList)
          (ends.subset label.1)
  | notifyDecoded payload =>
      have text_eq : front ++ (Entry.notifyDecoded payload).text =
          (front ++ "NOTIFY-DECODED ".toList) ++ summarizePacket payload := by
        rw [List.append_assoc]
        rfl
      rw [text_eq, summarizePacket]
      cases splits : splitFrames payload with
      | error exc =>
          refine iff_of_false (not_command ?_) ?_
          · exact notMem_append (notMem_append frontPlain.2 (by decide)) (Plain.hex payload).2
          · rintro ⟨frames, noFrames, -⟩
            rw [splits] at noFrames
            cases noFrames
      | ok frames =>
          dsimp only
          rw [command_in_joined (notMem_append frontPlain.2 (by decide))]
          constructor
          · exact fun carried => ⟨frames, splits, carried⟩
          · rintro ⟨others, isSplit, carried⟩
            rw [splits] at isSplit
            cases isSplit
            exact carried
  | frame frame =>
      have boolFree : '(' ∉ boolText frame.endOfChannel := by
        cases frame.endOfChannel <;> decide
      exact nothing (notMem_append (notMem_append (notMem_append (notMem_append (notMem_append
        (by decide) (Plain.name _).2) (by decide)) boolFree) (by decide)) (Plain.hex _).2)
  | recv other =>
      have text_eq : front ++ (Entry.recv other).text =
          (front ++ "RECV command=".toList) ++ (commandRepr other ++ []) := by
        rw [List.append_assoc, List.append_nil]
        rfl
      rw [text_eq]
      exact command_around (notMem_append frontPlain.2 (by decide)) (by decide) other
  | message message =>
      exact nothing (notMem_append (by decide) (parenthesis_notMem_message message))
  | decodeFailed exc => exact nothing (notMem_append (by decide) admitted.2)
  | send packet => exact nothing (notMem_append (by decide) (Plain.hex packet).2)

/-- The entries that write none of the words of the validator. -/
def IsSilent : Entry -> Prop
  | .notify _ _ | .frame _ | .send _ => False
  | _ => True

theorem silent_entry
    {head : Text}
    (isHead : head ∈ heads)
    (frontPlain : Plain front)
    (admitted : Admitted entry)
    (isSilent : IsSilent entry) :
    Silent head (front ++ entry.text) := by
  have silentWord {word text : Text} (wordFree : '=' ∉ word)
      (silent : Silent head ((front ++ word) ++ text)) :
      Silent head (front ++ (word ++ text)) := by
    rwa [List.append_assoc] at silent
  cases entry with
  | notify sender payload => exact isSilent.elim
  | frame frame => exact isSilent.elim
  | send packet => exact isSilent.elim
  | connected address =>
      exact silent_free (notMem_append frontPlain.1 (notMem_append (by decide) admitted.1))
  | notifyDecoded payload =>
      exact silentWord (by decide) (silent_summarizePacket isHead
        (notMem_append frontPlain.1 (by decide)) payload)
  | recv command =>
      have text_eq : front ++ (Entry.recv command).text =
          front ++ ("RECV command".toList ++ '=' :: ([] ++ (commandRepr command ++ []))) := by
        rw [List.append_nil]
        rfl
      have clear : ∀ head ∈ heads, Clear head "RECV command".toList := by decide
      rw [text_eq]
      exact silent_label (head_free isHead) frontPlain.1 (clear head isHead)
        (silent_commandRepr isHead (by decide) (by decide) command)
  | message message =>
      have silent := silent_message isHead
        (notMem_append frontPlain.1 (by decide : '=' ∉ "MESSAGE ".toList))
        (by decide : '=' ∉ []) message
      rw [List.append_nil] at silent
      exact silentWord (by decide) silent
  | decodeFailed exc =>
      have text_eq : front ++ (Entry.decodeFailed exc).text =
          front ++ ("DECODE_FAILED error".toList ++ '=' :: exc.message.toList) := rfl
      rw [text_eq]
      exact silent_start isHead (by decide) frontPlain.1 admitted.1

/-- The line of a frame, cut at its equals signs. -/
theorem text_frame (frame : Frame) :
    (Entry.frame frame).text =
      "FRAME channel".toList ++ '=' :: (frame.channel.name.toList ++ (" end".toList ++
        '=' :: ([] ++ ((boolText frame.endOfChannel ++ " hex".toList) ++
          '=' :: (Bytes.hex frame.payload).toList)))) := by
  have first : "FRAME channel=".toList = "FRAME channel".toList ++ ['='] := by decide
  have second : " end=".toList = " end".toList ++ ['='] := by decide
  have third : " hex=".toList = " hex".toList ++ ['='] := by decide
  change "FRAME channel=".toList ++ frame.channel.name.toList ++ " end=".toList ++
    boolText frame.endOfChannel ++ " hex=".toList ++ (Bytes.hex frame.payload).toList = _
  rw [first, second, third]
  simp only [List.append_assoc, List.cons_append, List.nil_append]

theorem lower_hex (data : Bytes) :
    Text.lower (Bytes.hex data).toList = (Bytes.hex data).toList := by
  have same := Bytes.forall_hex (fun char => char.toLower = char) (by decide) data
  exact (List.map_congr_left same).trans (List.map_id _)

/-- The line of an entry shows the packets that the entry shows. -/
theorem packet_in_entry
    (frontPlain : Plain front)
    (admitted : Admitted entry)
    (digits : Text) :
    "send hex".toList ++ '=' :: digits <:+: Text.lower (front ++ entry.text) ↔
      ShowsPacket digits entry := by
  have headFree : '=' ∉ "send hex".toList := by decide
  have nothing (isSilent : IsSilent entry) :
      "send hex".toList ++ '=' :: digits <:+: Text.lower (front ++ entry.text) ↔ False :=
    iff_of_false (not_infix_of_silent
      (silent_entry List.mem_cons_self frontPlain admitted isSilent) digits) id
  cases entry with
  | notify sender payload =>
      have text_eq : front ++ (Entry.notify sender payload).text =
          front ++ ("NOTIFY sender".toList ++ '=' :: notifyText sender payload) := rfl
      rw [text_eq]
      exact stands_label headFree frontPlain.1 (by decide) digits
  | frame frame =>
      have boolClear (value : Bool) :
          Clear "send hex".toList (boolText value ++ " hex".toList) := by
        cases value <;> decide
      refine iff_of_false ?_ id
      rw [text_frame, stands_label headFree frontPlain.1 (by decide),
        stands_label headFree (Plain.name _).1 (by decide),
        stands_label headFree (by decide) (boolClear _)]
      exact not_infix_of_silent (silent_free (Plain.hex _).1) digits
  | send packet =>
      have text_eq : front ++ (Entry.send packet).text =
          (front ++ "SEND hex".toList) ++ '=' :: (Bytes.hex packet).toList := by
        rw [List.append_assoc]
        rfl
      have ends : "send hex".toList <:+ Text.lower (front ++ "SEND hex".toList) := by
        rw [Text.lower_append]
        exact ⟨Text.lower front, congrArg (Text.lower front ++ ·) (by decide)⟩
      have silent := @not_infix_of_silent "send hex".toList _
        (silent_free (Plain.hex packet).1) digits
      rw [lower_hex] at silent
      rw [text_eq, lower_at_equals, lower_hex, Text.infix_cut headFree
        (notMem_lower_equals (notMem_append frontPlain.1 (by decide)))]
      exact ⟨fun either => (either.resolve_right silent).2, fun starts => Or.inl ⟨ends, starts⟩⟩
  | connected address => exact nothing trivial
  | notifyDecoded payload => exact nothing trivial
  | recv command => exact nothing trivial
  | message message => exact nothing trivial
  | decodeFailed exc => exact nothing trivial

/-- The words of a frame stand in the line of a frame that ends CHANNEL1 and is not
empty. -/
theorem ended_of_stands
    {frame : Frame} {digit : Char}
    (frontPlain : Plain front)
    (stands : "frame channel".toList ++ '=' :: frameTail digit <:+:
      Text.lower (front ++ (Entry.frame frame).text)) :
    frame.channel = .channel1 ∧ frame.endOfChannel = true ∧ frame.payload ≠ [] := by
  have headFree : '=' ∉ "frame channel".toList := by decide
  have boolFree : '=' ∉ boolText frame.endOfChannel ++ " hex".toList := by
    cases frame.endOfChannel <;> decide
  have boolClear : Clear "frame channel".toList
      (boolText frame.endOfChannel ++ " hex".toList) := by
    cases frame.endOfChannel <;> decide
  have behindSilent : Silent "frame channel".toList (frame.channel.name.toList ++
      (" end".toList ++ '=' :: ([] ++ ((boolText frame.endOfChannel ++ " hex".toList) ++
        '=' :: (Bytes.hex frame.payload).toList)))) :=
    silent_label headFree (Plain.name _).1 (by decide)
      (silent_label headFree (by decide) boolClear (silent_free (Plain.hex _).1))
  rw [text_frame, ← List.append_assoc front, lower_at_equals, Text.infix_cut headFree
    (notMem_lower_equals (notMem_append frontPlain.1 (by decide)))] at stands
  obtain ⟨-, starts⟩ := stands.resolve_right (not_infix_of_silent behindSilent _)
  have nameFree : '=' ∉ frame.channel.name.toList ++ " end".toList :=
    notMem_append (Plain.name _).1 (by decide)
  have tail_eq : frameTail digit =
      "channel1 end".toList ++ '=' :: ("true hex".toList ++ ['=', digit]) := rfl
  rw [tail_eq, List.nil_append, ← List.append_assoc, lower_at_equals,
    Text.prefix_cut (by decide) (notMem_lower_equals nameFree), lower_at_equals,
    Text.prefix_cut (by decide) (notMem_lower_equals boolFree), lower_hex] at starts
  obtain ⟨isChannel, isEnd, isDigit⟩ := starts
  refine ⟨?_, ?_, ?_⟩
  · revert isChannel
    cases frame.channel <;> decide
  · revert isEnd
    cases frame.endOfChannel <;> decide
  · intro isEmpty
    rw [isEmpty] at isDigit
    cases List.prefix_nil.mp isDigit

/-- The validator finds in the line of an entry the frames that the entry shows. -/
theorem frames_in_entry
    (frontPlain : Plain front)
    (admitted : Admitted entry) :
    CHANNEL1_PATTERN.findAll (front ++ entry.text) = shownFrames entry := by
  have nothing (isSilent : IsSilent entry) :
      CHANNEL1_PATTERN.findAll (front ++ entry.text) = [] :=
    findAll_of_not_infix fun digit => not_infix_of_silent
      (silent_entry (List.mem_cons_of_mem _ List.mem_cons_self) frontPlain admitted isSilent) _
  cases entry with
  | notify sender payload =>
      have text_eq : front ++ (Entry.notify sender payload).text =
          (front ++ "NOTIFY sender".toList ++ ['=']) ++ notifyText sender payload := by
        simp only [List.append_assoc]
        rfl
      have labelFree : '=' ∉ front ++ "NOTIFY sender".toList :=
        notMem_append frontPlain.1 (by decide)
      rw [text_eq]
      apply @findAll_behind _ (notifyText sender payload)
      intro back isBack nonempty
      obtain ⟨label, rfl, isLabel⟩ : ∃ label, back = label ++ ['='] ∧
          label <:+ front ++ "NOTIFY sender".toList := by
        rcases List.suffix_concat_iff.mp isBack with rfl | ⟨label, rfl, isLabel⟩
        · exact absurd rfl nonempty
        · exact ⟨label, rfl, isLabel⟩
      refine ⟨label, ?_, fun present => labelFree (isLabel.subset present), ?_⟩
      · rw [List.append_assoc, List.singleton_append]
      · intro label_eq
        have ends : "frame channel".toList <:+ Text.lower (front ++ "NOTIFY sender".toList) := by
          rw [← label_eq]
          exact isLabel.map Char.toLower
        rw [Text.lower_append] at ends
        exact Text.not_suffix_append (by decide) (by decide) _ ends
  | frame frame =>
      rw [shownFrames]
      split
      case isFalse notEnded =>
        exact findAll_of_not_infix fun digit stands => notEnded (ended_of_stands frontPlain stands)
      case isTrue ended =>
        obtain ⟨isChannel, isEnd, nonempty⟩ := ended
        have text_eq : (Entry.frame frame).text =
            "FRAME channel=CHANNEL1 end=True hex=".toList ++
              (Bytes.hex frame.payload).toList := by
          change "FRAME channel=".toList ++ frame.channel.name.toList ++ " end=".toList ++
            boolText frame.endOfChannel ++ " hex=".toList ++ _ = _
          rw [isChannel, isEnd]
          exact congrArg (· ++ (Bytes.hex frame.payload).toList) (by decide)
        have skipped := @findAll_behind front (frame.channel.name.toList ++ (" end".toList ++
          '=' :: ([] ++ ((boolText frame.endOfChannel ++ " hex".toList) ++
            '=' :: (Bytes.hex frame.payload).toList)))) (Entry.frame frame).text ?_
        · rw [skipped, text_eq]
          refine findAll_frame ?_ (Bytes.forall_hex _ (by decide) _)
          obtain ⟨first, rest, payload_eq⟩ := List.exists_cons_of_ne_nil nonempty
          rw [payload_eq, Bytes.hex_cons]
          exact List.cons_ne_nil _ _
        · intro back isBack nonempty
          refine ⟨back ++ "FRAME channel".toList, ?_, ?_, ?_⟩
          · rw [text_frame]
            exact (List.append_assoc _ _ _).symm
          · exact notMem_append (fun present => frontPlain.1 (isBack.subset present)) (by decide)
          · intro label_eq
            have length_eq := congrArg List.length label_eq
            rw [Text.lower, List.length_map, List.length_append] at length_eq
            exact nonempty (List.length_eq_zero_iff.mp (by simpa using length_eq))
  | send packet =>
      have text_eq : front ++ (Entry.send packet).text =
          front ++ ("SEND hex".toList ++ '=' :: (Bytes.hex packet).toList) := rfl
      have silent : Silent "frame channel".toList
          (front ++ ("SEND hex".toList ++ '=' :: (Bytes.hex packet).toList)) :=
        silent_label (by decide) frontPlain.1 (by decide)
          (silent_free (Plain.hex packet).1)
      rw [text_eq]
      exact findAll_of_not_infix fun digit => not_infix_of_silent silent _
  | connected address => exact nothing trivial
  | notifyDecoded payload => exact nothing trivial
  | recv command => exact nothing trivial
  | message message => exact nothing trivial
  | decodeFailed exc => exact nothing trivial

end Entries

end ValidateLive
end BoschBle
