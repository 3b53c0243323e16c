import BoschBle.Foundation.Dictionary
import BoschBle.Foundation.Hex
import BoschBle.Foundation.RegexFindAll
import BoschBle.MessageBus.Codec

/-!
# Validating a log

`validate_live.py` looks in the log of a handshake for commands, packets and frames that
a bike is expected to exchange.
-/

namespace BoschBle
namespace ValidateLive

open Foundation MessageBus

/-- The commands that a log has to show. -/
def MCSP_EXPECTATIONS : List String :=
  ["VersionCommand(version=3)",
    "MaxSegmentationPacketCommand(max_packet_size=244)",
    "AdvanceTransmitWindowCommand(channel=<McspChannel.CHANNEL1: 1>, advance=2048)",
    "AdvanceTransmitWindowCommand(channel=<McspChannel.CHANNEL2: 2>, advance=8192)",
    "AdvanceTransmitWindowCommand(channel=<McspChannel.CHANNEL3: 3>, advance=8192)",
    "AdvanceTransmitWindowCommand(channel=<McspChannel.CHANNEL4: 4>, advance=0)",
    "AdvanceTransmitWindowCommand(channel=<McspChannel.CHANNEL5: 5>, advance=0)",
    "AdvanceTransmitWindowCommand(channel=<McspChannel.CHANNEL6: 6>, advance=0)",
    "AdvanceTransmitWindowCommand(channel=<McspChannel.CHANNEL7: 7>, advance=0)"]

/-- The packets that a log has to show as sent. -/
def SEND_EXPECTATIONS : List String :=
  ["10020103", "10030400f4", "10020301", "10020302", "10020303", "10020304", "10020305",
    "10020306", "10020307"]

/-- The frames that a log has to show. -/
def FRAME_EXPECTATIONS : List String :=
  ["2030c0a9210809", "2030c0a9220809", "2150c09f01", "2100c09f01", "2100c09f02",
    "2150c09f02", "2150c09f03", "2002c08161", "2002c09560", "2002c0a360", "2002c0a460"]

/-- Groups of frames, one of which is enough. -/
def FRAME_GROUP_EXPECTATIONS : List (String × List String) :=
  [("UI_PRIORITY subscribe sweep", ["2002c08160", "2002c08161", "2002c08162"]),
    ("HEART_RATE_STATUS subscribe sweep", ["2002c09560", "2002c09561", "2002c09562"]),
    ("PHONE_CHARGING subscribe sweep", ["2002c0a360", "2002c0a361", "2002c0a362"]),
    ("USER_INFO subscribe sweep", ["2002c0a460", "2002c0a461", "2002c0a462"])]

/-- The letters of a string in either case. -/
def litIgnoringCase (string : String) : Regex :=
  Regex.sequence (string.toList.map fun char => .one fun other =>
    other.toLower == char.toLower)

/-- A frame of channel 1 in a log. -/
def CHANNEL1_PATTERN : Regex :=
  Regex.sequence
    [litIgnoringCase "FRAME channel=CHANNEL1 end=True hex=",
      .group (Regex.oneOrMore Regex.isHexDigit)]

/-- What the validation of a log has found. -/
structure ValidationResult where
  passed : Bool
  missing : List String
  missingMcsp : List String
  missingSend : List String
  decoded : List (Text × DirectedFrame)

/-- `decode_message_frame` of hexadecimal digits. -/
def decodeMessageText (data : Text) : Except Exn MessageFrame := do
  let raw <- Bytes.fromHex data
  decodeMessageFrame raw

/-- One pass of the loop over the frames. -/
def recordFrame
    (decoded : List (Text × DirectedFrame))
    (frameHex : Text) : Except Exn (List (Text × DirectedFrame)) := do
  match <- decodeMessageText frameHex with
  | .directed frame => return Dictionary.setItem decoded frameHex frame
  | .notify _ => return decoded

/-- The frames that the log shows. -/
def frameHexes (text : Text) : List Text :=
  (CHANNEL1_PATTERN.findAll text).map Text.lower

/-- Look for what a log has to show, and decode its frames. -/
def validateHandshakeLog (text : Text) : Except Exn ValidationResult := do
  let lowerText := Text.lower text
  let missingMcsp := MCSP_EXPECTATIONS.filter fun entry => !Text.contains entry.toList text
  let missingSend := SEND_EXPECTATIONS.filter fun entry =>
    !Text.contains ("send hex=".toList ++ entry.toList) lowerText
  let decoded <- (frameHexes text).foldlM recordFrame []
  let missing :=
    (FRAME_EXPECTATIONS.filter fun frameHex =>
      !(frameHexes text).contains frameHex.toList) ++
      (FRAME_GROUP_EXPECTATIONS.filter fun group =>
        !group.2.any fun option => (frameHexes text).contains option.toList).map Prod.fst
  return {
    passed := missing.isEmpty && missingMcsp.isEmpty && missingSend.isEmpty
    missing := missing
    missingMcsp := missingMcsp
    missingSend := missingSend
    decoded := decoded }

/-! ## What the result says -/

/-- What the log must show. -/
structure Shows (text : Text) : Prop where
  mcsp : ∀ entry ∈ MCSP_EXPECTATIONS, entry.toList <:+: text
  send : ∀ entry ∈ SEND_EXPECTATIONS, "send hex=".toList ++ entry.toList <:+: Text.lower text
  frames : ∀ frameHex ∈ FRAME_EXPECTATIONS, frameHex.toList ∈ frameHexes text
  groups : ∀ group ∈ FRAME_GROUP_EXPECTATIONS,
    ∃ option ∈ group.2, option.toList ∈ frameHexes text

theorem exists_recorded_iff
    {hexes : List Text} {start : List (Text × DirectedFrame)} :
    (∃ decoded, hexes.foldlM recordFrame start = .ok decoded) ↔
      ∀ frameHex ∈ hexes, ∃ message, decodeMessageText frameHex = .ok message := by
  induction hexes generalizing start with
  | nil => exact iff_of_true ⟨start, rfl⟩ fun _ isMember => absurd isMember List.not_mem_nil
  | cons frameHex hexes inductionHypothesis =>
      rw [List.foldlM_cons, List.forall_mem_cons]
      cases decodes : decodeMessageText frameHex with
      | error exc =>
          have raises : recordFrame start frameHex = .error exc := by
            rw [recordFrame, decodes]
            rfl
          rw [raises]
          constructor
          · rintro ⟨decoded, ⟨⟩⟩
          · rintro ⟨⟨message, ⟨⟩⟩, -⟩
      | ok message =>
          have records : ∃ after, recordFrame start frameHex = .ok after := by
            rw [recordFrame, decodes]
            cases message with
            | directed frame => exact ⟨_, rfl⟩
            | notify notification => exact ⟨_, rfl⟩
          obtain ⟨after, records⟩ := records
          rw [records]
          exact inductionHypothesis.trans ⟨fun rest => ⟨⟨message, rfl⟩, rest⟩, And.right⟩

theorem validateHandshakeLog_returns_iff {text : Text} :
    (∃ result, validateHandshakeLog text = .ok result) ↔
      ∀ frameHex ∈ frameHexes text, ∃ message, decodeMessageText frameHex = .ok message := by
  rw [← @exists_recorded_iff _ []]
  rw [validateHandshakeLog]
  cases (frameHexes text).foldlM recordFrame [] with
  | error exc => simp [bind, Except.bind]
  | ok decoded => simp [bind, Except.bind, pure, Except.pure]

theorem passed_iff
    {text : Text} {result : ValidationResult}
    (returns : validateHandshakeLog text = .ok result) :
    result.passed = true ↔ Shows text := by
  rw [validateHandshakeLog] at returns
  cases recorded : (frameHexes text).foldlM recordFrame [] with
  | error exc =>
      rw [recorded] at returns
      cases returns
  | ok decoded =>
      rw [recorded] at returns
      obtain rfl := Except.ok.inj returns
      simp only [Bool.and_eq_true, List.isEmpty_iff, List.append_eq_nil_iff, List.map_eq_nil_iff,
        List.filter_eq_nil_iff, Bool.not_eq_true', Bool.not_eq_false, List.contains_iff_mem,
        Text.contains_iff, List.any_eq_true]
      constructor
      · rintro ⟨⟨⟨frames, groups⟩, mcsp⟩, send⟩
        exact ⟨mcsp, send, frames, groups⟩
      · rintro ⟨mcsp, send, frames, groups⟩
        exact ⟨⟨⟨frames, groups⟩, mcsp⟩, send⟩

end ValidateLive
end BoschBle
