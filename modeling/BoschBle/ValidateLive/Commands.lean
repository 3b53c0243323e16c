import BoschBle.Foundation.Words
import BoschBle.ValidateLive.Lines

/-!
# Commands in a log

The texts of two commands differ, and the text of a command stands in a text around
another one only where they are the same.
-/

namespace BoschBle
namespace ValidateLive

open Foundation Common Mcsp MessageBus Live Handshake

/-! ## Injectivity -/

theorem eq_of_toDigits
    {first second : Nat}
    (same : Nat.toDigits 10 first = Nat.toDigits 10 second) :
    first = second := by
  rw [← @Nat.ofDigitChars_ten_toDigits first, same, Nat.ofDigitChars_ten_toDigits]

theorem notMem_toDigits
    {char : Char}
    (noDigit : char.isDigit = false)
    (value : Nat) :
    char ∉ Nat.toDigits 10 value := by
  intro present
  have digit := Nat.isDigit_of_mem_toDigits (by decide) (by decide) present
  rw [noDigit] at digit
  cases digit

theorem channelRepr_eq (channel : McspChannel) :
    channelRepr channel = ("<McspChannel.".toList ++ channel.name.toList) ++
      ':' :: (" ".toList ++ (Nat.toDigits 10 channel.toInt ++ ">".toList)) := by
  have colon : ": ".toList = ':' :: " ".toList := by decide
  change "<McspChannel.".toList ++ channel.name.toList ++ ": ".toList ++
    Nat.toDigits 10 channel.toInt ++ ">".toList = _
  rw [colon]
  simp only [List.append_assoc, List.cons_append]

theorem channelRepr_injective : Function.Injective channelRepr := by
  intro first second same
  have free (channel : McspChannel) :
      ':' ∉ "<McspChannel.".toList ++ channel.name.toList := by
    cases channel <;> decide
  rw [channelRepr_eq, channelRepr_eq] at same
  obtain ⟨-, behind_eq⟩ := Text.split_at_bar same (free first) (free second)
  have digits_eq := List.append_cancel_right (List.append_cancel_left behind_eq)
  have value_eq := eq_of_toDigits digits_eq
  exact Except.ok.inj (by rw [← McspChannel.ofInt_toInt first, value_eq, McspChannel.ofInt_toInt])

/-- No opening parenthesis, no comma and no closing one. -/
theorem free_channelRepr
    (channel : McspChannel) :
    '(' ∉ channelRepr channel ∧ ',' ∉ channelRepr channel ∧ ')' ∉ channelRepr channel ∧
      '=' ∉ channelRepr channel := by
  cases channel <;> decide

theorem free_commandArguments (command : Command) :
    '(' ∉ commandArguments command ∧ ')' ∉ commandArguments command := by
  have opening := notMem_toDigits (by decide : '('.isDigit = false)
  have closing := notMem_toDigits (by decide : ')'.isDigit = false)
  have label {text front behind : Text} (text_eq : text = front ++ behind)
      (frontFree : '(' ∉ front ∧ ')' ∉ front) (behindFree : '(' ∉ behind ∧ ')' ∉ behind) :
      '(' ∉ text ∧ ')' ∉ text := by
    rw [text_eq, List.mem_append, List.mem_append, not_or, not_or]
    exact ⟨⟨frontFree.1, behindFree.1⟩, frontFree.2, behindFree.2⟩
  cases command with
  | versionCommand version =>
      exact label rfl (by decide) ⟨opening version, closing version⟩
  | advanceTransmitWindowCommand channel advance =>
      have free := free_channelRepr channel
      exact label rfl (by decide) (label rfl ⟨free.1, free.2.2.1⟩
        (@label _ (',' :: " advance=".toList) _ rfl (by decide)
          ⟨opening advance, closing advance⟩))
  | disableFlowControlCommand channel =>
      have free := free_channelRepr channel
      exact label rfl (by decide) ⟨free.1, free.2.2.1⟩
  | maxSegmentationPacketCommand maxPacketSize =>
      exact label rfl (by decide) ⟨opening maxPacketSize, closing maxPacketSize⟩

/-- No class name ends with another one. -/
theorem eq_of_className
    {first second : CommandType}
    (ends : className first <:+ className second) :
    first = second := by
  revert ends
  cases first <;> cases second <;> decide

/-- The type of a command and what is in its parentheses determine it. -/
theorem eq_of_commandArguments
    {first second : Command}
    (sameType : commandType first = commandType second)
    (same : commandArguments first = commandArguments second) :
    first = second := by
  cases first with
  | versionCommand version =>
      cases second with
      | versionCommand other =>
          rw [eq_of_toDigits (List.append_cancel_left same)]
      | _ => cases sameType
  | advanceTransmitWindowCommand channel advance =>
      cases second with
      | advanceTransmitWindowCommand other otherAdvance =>
          obtain ⟨repr_eq, digits_eq⟩ := Text.split_at_bar (List.append_cancel_left same)
            (free_channelRepr channel).2.1 (free_channelRepr other).2.1
          rw [channelRepr_injective repr_eq, eq_of_toDigits (List.append_cancel_left digits_eq)]
      | _ => cases sameType
  | disableFlowControlCommand channel =>
      cases second with
      | disableFlowControlCommand other =>
          rw [channelRepr_injective (List.append_cancel_left same)]
      | _ => cases sameType
  | maxSegmentationPacketCommand maxPacketSize =>
      cases second with
      | maxSegmentationPacketCommand other =>
          rw [eq_of_toDigits (List.append_cancel_left same)]
      | _ => cases sameType

/-! ## Where the text of a command stands -/

section Standing

variable {front behind : Text} {command : Command}

/-- A text without an opening parenthesis shows no command. -/
theorem not_command
    {text : Text}
    (free : '(' ∉ text) :
    ¬ commandRepr command <:+: text := by
  rw [commandRepr_eq]
  exact Text.not_infix_of_notMem free

/-- A text around a command shows this command and no other one. -/
theorem command_around
    (frontFree : '(' ∉ front)
    (behindFree : '(' ∉ behind)
    (other : Command) :
    commandRepr command <:+: front ++ (commandRepr other ++ behind) ↔ command = other := by
  have name_free (type : CommandType) : '(' ∉ className type := by
    cases type <;> decide
  constructor
  · intro stands
    have text_eq : front ++ (commandRepr other ++ behind) =
        (front ++ className (commandType other)) ++
          '(' :: (commandArguments other ++ ')' :: behind) := by
      rw [commandRepr_eq]
      simp only [List.append_assoc, List.cons_append, List.nil_append]
    have beforeFree : '(' ∉ front ++ className (commandType other) := by
      rw [List.mem_append, not_or]
      exact ⟨frontFree, name_free _⟩
    have restFree : '(' ∉ commandArguments other ++ ')' :: behind := by
      rw [List.mem_append, List.mem_cons, not_or, not_or]
      exact ⟨(free_commandArguments other).1, by decide, behindFree⟩
    rw [text_eq, commandRepr_eq, Text.infix_cut (name_free _) beforeFree] at stands
    rcases stands with ⟨nameEnds, argumentsStart⟩ | later
    · rw [Text.prefix_cut (free_commandArguments command).2
        (free_commandArguments other).2] at argumentsStart
      have sameType : commandType command = commandType other := by
        by_contra differs
        exact Text.not_suffix_append (fun ends => differs (eq_of_className ends))
          (fun ends => differs (eq_of_className ends).symm) front nameEnds
      exact eq_of_commandArguments sameType argumentsStart.1
    · exact absurd later (Text.not_infix_of_notMem restFree)
  · rintro rfl
    exact ⟨front, behind, List.append_assoc _ _ _⟩

end Standing

end ValidateLive
end BoschBle
