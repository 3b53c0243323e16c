import BoschBle.Bluez.Connect
import BoschBle.Foundation.Regex

/-!
# Summaries of btmon traces

How `bluez.py` cuts a trace of `btmon` into events, picks the events of a device,
and sums them up.
-/

namespace BoschBle
namespace Bluez

open Foundation

/-! ## Patterns -/

/-- `\s*\(` or `\s*$` behind a name. -/
def nameEnd (lineOrTextEnd : Regex) : Regex :=
  .either (Regex.sequence [.many Text.isSpace, Regex.lit "("])
    (Regex.sequence [.many Text.isSpace, lineOrTextEnd])

/-- What stands for the attribute protocol in a trace. -/
def attNames : Regex :=
  .either (Regex.lit "ATT:")
    (Regex.sequence [Regex.optional (Regex.lit "Bluetooth "), Regex.lit "Attribute Protocol"])

/-- What stands for the security manager in a trace. -/
def smpNames : Regex :=
  .either (Regex.lit "SMP:")
    (Regex.sequence
      [Regex.optional (Regex.lit "Bluetooth "), Regex.lit "Security Manager Protocol"])

/-- A line that starts with one of the names of a protocol. -/
def protocolPattern (names : Regex) : Regex :=
  Regex.sequence
    [.lineStart, .many Text.isSpace, names, .either (.one Text.isSpace) .lineEnd]

/-- A line of a command or an event with the name. -/
def hciPattern (name : String) : Regex :=
  .andThen .lineStart (.either
    (Regex.sequence
      [.many Regex.dot, .one fun char => char == '<' || char == '>', Regex.lit " HCI ",
        .either (Regex.lit "Command") (Regex.lit "Event"), Regex.lit ": ", Regex.lit name,
        nameEnd .lineEnd])
    (Regex.sequence
      [Regex.oneOrMore Text.isSpace, Regex.lit name, Regex.oneOrMore Text.isSpace,
        Regex.lit "(0x", Regex.oneOrMore Regex.isHexDigit, Regex.lit ")"]))

/-- What the first line of an event starts with. -/
def headerPattern : Regex :=
  Regex.sequence
    [Regex.optional (Regex.sequence
      [Regex.oneOrMore fun char => !Text.isSpace char, Regex.lit "[",
        Regex.oneOrMore Regex.isDigit, Regex.lit "]: "]),
      .one fun char => char == '<' || char == '>' || char == '@', Regex.lit " "]

/-- The characters of an address. -/
def isAddressChar (char : Char) : Bool :=
  Regex.isHexDigit char || char == ':'

/-- The address that an event names. -/
def peerPattern : Regex :=
  Regex.sequence
    [.either (Regex.lit "Peer address:") (Regex.lit "Address:"),
      Regex.oneOrMore Text.isSpace, .group (Regex.exactly 17 isAddressChar)]

/-- The handle that an event carries. -/
def handlePattern : Regex :=
  Regex.sequence
    [Regex.lit "Handle", Regex.oneOrMore fun char => char == ' ' || char == ':',
      .group (Regex.oneOrMore Regex.isDigit)]

/-- The header of an event that creates a connection. -/
def createPattern : Regex :=
  Regex.sequence
    [.textStart, .many Regex.dot, Regex.lit "< HCI Command: LE Create Connection",
      nameEnd .textEnd]

/-- The address of the peer of a create event. -/
def peerAddressPattern : Regex :=
  Regex.sequence
    [Regex.lit "Peer address:", Regex.oneOrMore Text.isSpace,
      .group (Regex.exactly 17 isAddressChar)]

/-- The hexadecimal number behind a label. -/
def valuePattern (label : String) : Regex :=
  Regex.sequence
    [Regex.lit label, Regex.lit ":", .many Regex.dot, Regex.lit "(0x",
      .group (Regex.oneOrMore Regex.isHexDigit), Regex.lit ")"]

/-- The reason of a disconnect. -/
def reasonPattern : Regex :=
  Regex.sequence
    [Regex.lit "Reason:", Regex.oneOrMore Text.isSpace, .group (Regex.oneOrMore Regex.dot)]

/-! ## Numbers -/

/-- `int` of decimal digits, which takes 4300 of them at most. -/
def intOfDigits (digits : Text) : Except Exn Nat :=
  if digits.length > 4300 then
    throw ⟨.valueError, "Exceeds the limit (4300 digits) for integer string conversion: " ++
      "value has " ++ toString digits.length ++
        " digits; use sys.set_int_max_str_digits() to increase the limit"⟩
  else
    return digits.foldl (fun value char => 10 * value + (Regex.digitValue char).getD 0) 0

/-- A number is smaller than the power of ten with as many digits as it is read from. -/
theorem foldl_digits_lt
    (value : Nat)
    (digits : Text) :
    digits.foldl (fun value char => 10 * value + (Regex.digitValue char).getD 0) value <
      (value + 1) * 10 ^ digits.length := by
  induction digits generalizing value with
  | nil =>
      rw [List.foldl_nil, List.length_nil, Nat.pow_zero, Nat.mul_one]
      exact Nat.lt_succ_self value
  | cons char digits inductionHypothesis =>
      have digit_lt : (Regex.digitValue char).getD 0 < 10 := by
        cases isValue : Regex.digitValue char with
        | none => exact Nat.succ_pos 9
        | some digit => exact Regex.digitValue_lt isValue
      have step : 10 * value + (Regex.digitValue char).getD 0 + 1 ≤ (value + 1) * 10 := by
        omega
      calc
        (char :: digits).foldl (fun value char => 10 * value + (Regex.digitValue char).getD 0) value
            < (10 * value + (Regex.digitValue char).getD 0 + 1) * 10 ^ digits.length :=
          inductionHypothesis _
        _ ≤ (value + 1) * 10 * 10 ^ digits.length := Nat.mul_le_mul_right _ step
        _ = (value + 1) * 10 ^ (char :: digits).length := by
          rw [List.length_cons, Nat.pow_succ', Nat.mul_assoc]

/-- A number that can be read can be written, and read again. -/
theorem intOfDigits_toDigits
    {digits : Text} {value : Nat}
    (reads : intOfDigits digits = .ok value) :
    intOfDigits (Nat.toDigits 10 value) = .ok value := by
  have written (limit : Nat)
      (positive : 0 < limit)
      (fits : digits.length ≤ limit)
      (value_eq : digits.foldl
        (fun value char => 10 * value + (Regex.digitValue char).getD 0) 0 = value) :
      (Nat.toDigits 10 value).length ≤ limit := by
    rw [Nat.length_toDigits_le_iff (Nat.lt_of_sub_eq_succ rfl) positive, ← value_eq]
    calc
      _ < (0 + 1) * 10 ^ digits.length := foldl_digits_lt 0 digits
      _ = 10 ^ digits.length := by rw [Nat.zero_add, Nat.one_mul]
      _ ≤ 10 ^ limit := Nat.pow_le_pow_right (Nat.succ_pos 9) fits
  have readAgain : (Nat.toDigits 10 value).foldl
      (fun value char => 10 * value + (Regex.digitValue char).getD 0) 0 = value := by
    rw [List.foldl_ext _ (fun value char => 10 * value + (char.toNat - '0'.toNat)) 0]
    · exact Nat.ofDigitChars_ten_toDigits
    · intro value char isDigit
      rw [Regex.digitValue_of_isDigit
        (Nat.isDigit_of_mem_toDigits (Nat.succ_pos 9) (Nat.le_refl 10) isDigit)]
      rfl
  unfold intOfDigits at reads ⊢
  split at reads
  case isTrue => cases reads
  case isFalse short =>
    have value_eq := Except.ok.inj reads
    have shortAgain := written _ (Nat.succ_pos _) (Nat.le_of_not_lt short) value_eq
    rw [if_neg (Nat.not_lt_of_le shortAgain), readAgain]
    rfl

/-- The value of a hexadecimal digit. -/
def hexValue (char : Char) : Nat :=
  if '0' ≤ char ∧ char ≤ '9' then char.toNat - '0'.toNat
  else if 'A' ≤ char ∧ char ≤ 'F' then char.toNat - 'A'.toNat + 10
  else char.toNat - 'a'.toNat + 10

/-- `int` of hexadecimal digits. -/
def intOfHex (digits : Text) : Nat :=
  digits.foldl (fun value char => 16 * value + hexValue char) 0

/-! ## Events -/

/-- Some line of the trace is about the protocol. -/
def traceProtocolSeen (traceText : Text) (names : Regex) : Bool :=
  ((protocolPattern names).search traceText).isSome

/-- Some event of the trace has the name. -/
def traceHciSeen (traceText : Text) (name : String) : Bool :=
  ((hciPattern name).search traceText).isSome

/-- The text in front of the first event, and the events. -/
def traceEvents (traceText : Text) : List Text :=
  headerPattern.splitAhead traceText

/-- The peer that an event names. -/
def peerOf (event : Text) : Option String :=
  (peerPattern.search event).map fun peer => normalizeAddress (String.ofList peer)

/-- The number of the handle that an event is about. -/
def handleOf (event : Text) : Except Exn (Option Nat) :=
  match handlePattern.search event with
  | none => return none
  | some digits => return some (<- intOfDigits digits)

/-- The handles in the events that name the target. -/
def handlesOf (target : String) (events : List Text) : Except Exn (List Nat) := do
  let handles <- (events.filter fun event => peerOf event == some target).mapM handleOf
  return handles.reduceOption

/-- An event is the target's if it names the target, or names nobody and is
about one of the handles. -/
def isSelected (target : String) (handles : List Nat) (event : Text) : Except Exn Bool :=
  match peerOf event with
  | some peer => return peer == target
  | none => do
      let handle <- handleOf event
      return handle.any fun handle => handles.contains handle

/-- The events of the trace that are about the device: those that name it, and those that
name nobody and carry a handle that is named together with it. -/
def traceForDevice (traceText : Text) (address : String) : Except Exn Text := do
  let events := traceEvents traceText
  let target := normalizeAddress address
  let handles <- handlesOf target events
  let selected <- events.filterM (isSelected target handles)
  return ['\n'].intercalate selected

/-- The parameters in an event that creates a connection. -/
def parametersIn (address : Option String) (event : Text) : Option LeConnectionParameters :=
  if (createPattern.search event).isNone then none
  else
    let peer := (peerAddressPattern.search event).map fun peer =>
      normalizeAddress (String.ofList peer)
    if address.isSome ∧ peer ≠ address.map normalizeAddress then none
    else do
      let minInterval <- (valuePattern "Min connection interval").search event
      let maxInterval <- (valuePattern "Max connection interval").search event
      let latency <- (valuePattern "Connection latency").search event
      let timeout <- (valuePattern "Supervision timeout").search event
      return ⟨intOfHex minInterval, intOfHex maxInterval, intOfHex latency, intOfHex timeout⟩

/-- The parameters of the create events, in their order. -/
def parseInitialConnectionParameters
    (traceText : Text)
    (address : Option String) : List LeConnectionParameters :=
  (traceEvents traceText).filterMap (parametersIn address)

/-! ## Summaries -/

/-- How far a connection has come, from the first stage to the last. -/
inductive TraceStage
  | preConnection
  | connectionComplete
  | remoteFeatures
  | llControl
  | att
  | smp
  deriving DecidableEq

/-- The last stage that the trace shows. -/
def detectTraceStage (traceText : Text) : TraceStage :=
  let hasSmp := traceProtocolSeen traceText smpNames
  let hasAtt := traceProtocolSeen traceText attNames
  let hasLlControl :=
    ["Control Opcode: LL_", "LL_VERSION_IND", "LL_FEATURE_REQ", "LL_FEATURE_RSP",
      "LL_LENGTH_REQ", "LL_LENGTH_RSP"].any fun marker =>
        Text.contains marker.toList traceText
  let hasRemoteFeatures := traceHciSeen traceText "LE Read Remote Used Features"
  let hasConnectionComplete := traceHciSeen traceText "LE Enhanced Connection Complete"
  if hasSmp then .smp
  else if hasAtt then .att
  else if hasLlControl then .llControl
  else if hasRemoteFeatures then .remoteFeatures
  else if hasConnectionComplete then .connectionComplete
  else .preConnection

/-- What a caller knows about an attempt beside its trace. -/
structure Attempt where
  pairBackend : String
  privacy : String
  visible : Option Bool
  name : Option String
  assistError : Option String
  tracePath : String
  deriving DecidableEq

/-- What a trace shows of an attempt. -/
structure PairAttemptSummary where
  attempt : Attempt
  createConnectionSeen : Bool
  enhancedConnectionCompleteSeen : Bool
  readRemoteFeaturesSeen : Bool
  disconnectReason : Option Text
  attSeen : Bool
  smpSeen : Bool
  highestStage : TraceStage
  initialParameters : List LeConnectionParameters
  deriving DecidableEq

/-- The summary of a text that is about one device. -/
def summaryOf
    (traceText : Text)
    (attempt : Attempt)
    (address : Option String) : PairAttemptSummary where
  attempt := attempt
  createConnectionSeen := traceHciSeen traceText "LE Create Connection"
  enhancedConnectionCompleteSeen := traceHciSeen traceText "LE Enhanced Connection Complete"
  readRemoteFeaturesSeen := traceHciSeen traceText "LE Read Remote Used Features"
  disconnectReason := (reasonPattern.search traceText).map Text.strip
  attSeen := traceProtocolSeen traceText attNames
  smpSeen := traceProtocolSeen traceText smpNames
  highestStage := detectTraceStage traceText
  initialParameters := parseInitialConnectionParameters traceText address

/-- The summary of a trace, of which only the events of the device count where an address is
given. -/
def summarizeBtmonTrace
    (traceText : Text)
    (attempt : Attempt)
    (address : Option String) : Except Exn PairAttemptSummary :=
  match address with
  | none => return summaryOf traceText attempt none
  | some target => do
      let traceText <- traceForDevice traceText target
      return summaryOf traceText attempt (some target)

end Bluez
end BoschBle
