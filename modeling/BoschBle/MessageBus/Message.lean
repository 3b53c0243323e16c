import BoschBle.Foundation.Bytes

/-!
# MessageBus messages

Non-command MCSP frames carry MessageBus messages: directed requests and
responses between two 15-bit addresses, or notifications from one address.
This module holds the data of the messages, the known addresses and the
one-line rendering that the tools print.
-/

namespace BoschBle
namespace MessageBus

open Foundation

/-- The type nibble of a directed message. -/
inductive MessageType
  | read
  | readResponse
  | write
  | writeResponse
  | rpc
  | rpcResponse
  | subscribe
  | subscribeResponse
  | unsubscribe
  | unsubscribeResponse
  | notify
  deriving DecidableEq

namespace MessageType

/-- The integer value of a message type. -/
def toInt : MessageType -> Nat
  | .read => 0x0
  | .readResponse => 0x1
  | .write => 0x2
  | .writeResponse => 0x3
  | .rpc => 0x4
  | .rpcResponse => 0x5
  | .subscribe => 0x6
  | .subscribeResponse => 0x7
  | .unsubscribe => 0x8
  | .unsubscribeResponse => 0x9
  | .notify => 0xA

/-- `MessageType(value)`: the message type with the given value. -/
def ofInt : Nat -> Except Exn MessageType
  | 0x0 => .ok .read
  | 0x1 => .ok .readResponse
  | 0x2 => .ok .write
  | 0x3 => .ok .writeResponse
  | 0x4 => .ok .rpc
  | 0x5 => .ok .rpcResponse
  | 0x6 => .ok .subscribe
  | 0x7 => .ok .subscribeResponse
  | 0x8 => .ok .unsubscribe
  | 0x9 => .ok .unsubscribeResponse
  | 0xA => .ok .notify
  | value => .error ⟨.valueError, s!"{value} is not a valid MessageType"⟩

/-- The upper-case name of a message type. -/
def name : MessageType -> String
  | .read => "READ"
  | .readResponse => "READ_RESPONSE"
  | .write => "WRITE"
  | .writeResponse => "WRITE_RESPONSE"
  | .rpc => "RPC"
  | .rpcResponse => "RPC_RESPONSE"
  | .subscribe => "SUBSCRIBE"
  | .subscribeResponse => "SUBSCRIBE_RESPONSE"
  | .unsubscribe => "UNSUBSCRIBE"
  | .unsubscribeResponse => "UNSUBSCRIBE_RESPONSE"
  | .notify => "NOTIFY"

theorem toInt_lt_sixteen (type : MessageType) : type.toInt < 16 := by
  cases type <;> decide

@[simp] theorem ofInt_toInt (type : MessageType) :
    ofInt type.toInt = .ok type := by
  cases type <;> rfl

end MessageType

/-- The outcome that a response reports. -/
inductive ResponseStatusCode
  | success
  | failure
  | noRouteFound
  | noAccess
  | unsupported
  | invalidParameter
  | unknownError
  deriving DecidableEq

namespace ResponseStatusCode

/-- The integer value of a status. -/
def toInt : ResponseStatusCode -> Nat
  | .success => 0x00
  | .failure => 0x01
  | .noRouteFound => 0x02
  | .noAccess => 0x03
  | .unsupported => 0x04
  | .invalidParameter => 0x05
  | .unknownError => 0xFF

/-- The status that a status byte stands for. -/
def fromByte : Nat -> ResponseStatusCode
  | 0x00 => .success
  | 0x01 => .failure
  | 0x02 => .noRouteFound
  | 0x03 => .noAccess
  | 0x04 => .unsupported
  | 0x05 => .invalidParameter
  | _ => .unknownError

theorem toInt_lt_256 (status : ResponseStatusCode) : status.toInt < 256 := by
  cases status <;> decide

@[simp] theorem fromByte_toInt (status : ResponseStatusCode) :
    fromByte status.toInt = status := by
  cases status <;> rfl

end ResponseStatusCode

/-- Names of the known addresses. -/
def ADDRESS_NAMES : List (Nat × String) :=
  [ (0x0088, "BATTERY_STATE_OF_CHARGE"),
    (0x008A, "BATTERY_CHARGING_ACTIVE"),
    (0x00BC, "BATTERY_SYSTEM_STATE_OF_CHARGE_FOR_RIDER"),
    (0x00C4, "BATTERY_INSTANCE_CHARGING_ACTIVE"),
    (0x181E, "DRIVE_UNIT_PRESENT_ASSIST_FACTOR"),
    (0x182D, "DRIVE_UNIT_DISPLAYED_BIKE_SPEED"),
    (0x4081, "UI_PRIORITY"),
    (0x4082, "FEATURE_STREAMING_ALERT"),
    (0x4083, "FEATURE_STREAMING_ALERT_RESPONSE"),
    (0x4084, "FEATURE_STREAMING_OPTION_RESPONSE"),
    (0x4085, "ALTITUDE"),
    (0x4086, "MAXIMUM_ALTITUDE"),
    (0x4087, "ASCENT"),
    (0x4088, "DESCENT"),
    (0x4089, "STATE_OF_CHARGE"),
    (0x408A, "ROAD_SLOPE"),
    (0x408B, "CURRENT_COUNTRY"),
    (0x4091, "SOFTWARE_VERSION"),
    (0x4092, "DATA_MODEL_VERSION"),
    (0x4093, "MESSAGE_BUS_BUSINESS_LOGIC_VERSION"),
    (0x4094, "HEART_RATE"),
    (0x4095, "HEART_RATE_STATUS"),
    (0x4096, "NAVIGATION_CURRENT_STATUS"),
    (0x4097, "NAVIGATION_DISTANCE_TO_DESTINATION"),
    (0x4098, "NAVIGATION_ETA"),
    (0x4099, "NAVIGATION_TIME_TO_DESTINATION"),
    (0x409A, "ALTITUDE_GRAPH_AVAILABLE_SAMPLES"),
    (0x409B, "GET_ALTITUDE_GRAPH"),
    (0x409C, "UPDATE_ISSUE_VISUALIZATION"),
    (0x409D, "VISUALIZABLE_ISSUE_TYPES"),
    (0x409F, "MOBILE_APP_FEATURE_PROPERTIES_RELEASE4"),
    (0x40A0, "LOCATION"),
    (0x40A1, "NAVIGATION_ADVICE"),
    (0x40A2, "SYSTEM_STATE_OF_CHARGE_FOR_RIDER_AT_DESTINATION"),
    (0x40A3, "PHONE_CHARGING"),
    (0x40A4, "USER_INFO"),
    (0x40A8, "SPEED"),
    (0x40A9, "STARTUP_STAGE"),
    (0x40AA, "MOBILE_APP_STATIC_FEATURE_PROPERTIES"),
    (0xF809, "ASSIST_MODE_USAGE") ]

/-- The payloads that this side provides during startup, by address. -/
def STARTUP_PROVIDER_PAYLOADS : List (Nat × Bytes) :=
  [ (0x4081, [0x08, 0x24]),
    (0x4082, []),
    (0x4085, []),
    (0x4086, []),
    (0x4087, []),
    (0x4088, []),
    (0x4089, []),
    (0x408A, []),
    (0x408B, []),
    (0x4091, []),
    (0x4092, []),
    (0x4093, []),
    (0x4094, []),
    (0x4095, []),
    (0x4096, []),
    (0x4097, []),
    (0x4098, []),
    (0x4099, []),
    (0x409A, []),
    (0x409D, [0x08, 0x00, 0x08, 0x01, 0x08, 0x02, 0x08, 0x03]),
    (0x409F, [0x08, 0x01]),
    (0x40A0, []),
    (0x40A1, []),
    (0x40A2, []),
    (0x40A3, []),
    (0x40A4, []),
    (0x40A8, []),
    (0x40AA, []) ]

/-- A request or a response between two addresses. -/
structure DirectedFrame where
  /-- The sender's address. -/
  source : Nat
  /-- The receiver's address. -/
  destination : Nat
  /-- What the message asks for or answers. -/
  messageType : MessageType
  /-- The four-bit sequence number. -/
  sequence : Nat
  /-- The bytes behind the header. -/
  payload : Bytes
  /-- The reported outcome of a response. -/
  statusCode : ResponseStatusCode := .success
  deriving DecidableEq

/-- The name of the receiver's address. -/
def DirectedFrame.targetName (frame : DirectedFrame) : Option String :=
  ADDRESS_NAMES.lookup frame.destination

/-- The field widths of the wire format. -/
structure DirectedFrame.InRange (frame : DirectedFrame) : Prop where
  source_lt : frame.source < 2 ^ 15
  destination_lt : frame.destination < 2 ^ 15
  sequence_lt : frame.sequence < 2 ^ 4

/-- A notification from an address. -/
structure NotifyFrame where
  /-- The sender's address. -/
  source : Nat
  /-- The bytes behind the header. -/
  payload : Bytes
  /-- Always `NOTIFY` on a decoded frame. -/
  messageType : MessageType := .notify
  deriving DecidableEq

/-- The name of the sender's address. -/
def NotifyFrame.sourceName (frame : NotifyFrame) : Option String :=
  ADDRESS_NAMES.lookup frame.source

/-- A decoded MessageBus message. -/
inductive MessageFrame
  | directed (frame : DirectedFrame)
  | notify (frame : NotifyFrame)
  deriving DecidableEq

/-- The payload of either kind of message. -/
def MessageFrame.payload : MessageFrame -> Bytes
  | .directed frame => frame.payload
  | .notify frame => frame.payload

/-- An address by its name, or in hexadecimal where it has none. -/
def addressText (name : Option String) (address : Nat) : String :=
  name.getD ("0x" ++ Bytes.formatHex 4 address)

/-- The one-line rendering of a message. -/
def formatMessageFrame (frame : MessageFrame) : String :=
  let summary :=
    match frame with
    | .notify notification =>
        "NOTIFY " ++ addressText notification.sourceName notification.source
    | .directed directed =>
        directed.messageType.name ++ " " ++
          addressText directed.targetName directed.destination
  if frame.payload = [] then summary
  else summary ++ " payload=" ++ Bytes.hex frame.payload

end MessageBus
end BoschBle
