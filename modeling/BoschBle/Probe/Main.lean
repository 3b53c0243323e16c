import BoschBle.Foundation.Dictionary
import BoschBle.Foundation.Interaction
import BoschBle.Foundation.Repr

/-!
# Probing a bike

`probe.py` writes small payloads to a few characteristics, reads all readable ones
behind every write, and logs which values have changed.  Its notification handler
only adds lines to the log.
-/

namespace BoschBle
namespace Probe

open Foundation

/-- The characteristics that are written. -/
def PROBE_TARGET_UUIDS : List String :=
  ["00000012-eaa2-11e9-81b4-2a2ae2dbcce4", "00000021-eaa2-11e9-81b4-2a2ae2dbcce4",
    "00000042-eaa2-11e9-81b4-2a2ae2dbcce4", "0000eba2-eaa2-11e9-81b4-2a2ae2dbcce4",
    "0000ebd1-eaa2-11e9-81b4-2a2ae2dbcce4"]

/-- What is written to them. -/
def PROBE_PAYLOADS : List Bytes :=
  [[0x00], [0x00, 0x00], [0x01], [0x01, 0x00]]

/-- How long the probe waits behind a write. -/
def PROBE_DELAY_SECONDS : Nat := 1

/-- A characteristic with its properties. -/
structure Characteristic where
  uuid : String
  properties : List String
  deriving DecidableEq

/-- The identifier in lower case. -/
def normalizeUuid (value : String) : String :=
  String.ofList (Text.lower value.toList)

/-- The identifier is one of the manufacturer's. -/
def isBoschUuid (value : String) : Bool :=
  "-eaa2-11e9-81b4-2a2ae2dbcce4".toList.isSuffixOf (normalizeUuid value).toList

/-- Whether a write asks for a response: where nothing else is offered. -/
def probeWriteResponse (char : Characteristic) : Bool :=
  char.properties.contains "write" && !char.properties.contains "write-without-response"

/-- The characteristics that notify, that can be read and that are written to. -/
def collectProbeChars (services : List (List Characteristic)) :
    List Characteristic × List Characteristic × List Characteristic :=
  let chars := services.flatten
  let targetUuids := PROBE_TARGET_UUIDS.map normalizeUuid
  (chars.filter fun char =>
      isBoschUuid (normalizeUuid char.uuid) &&
        (char.properties.contains "notify" || char.properties.contains "indicate"),
    chars.filter fun char => char.properties.contains "read",
    chars.filter fun char =>
      targetUuids.contains (normalizeUuid char.uuid) &&
        (char.properties.contains "write" ||
          char.properties.contains "write-without-response"))

/-! ## The log -/

/-- The two kinds of snapshots. -/
inductive Label
  | baseline
  | read
  deriving DecidableEq

/-- The label as it is written. -/
def Label.text : Label -> String
  | .baseline => "BASELINE"
  | .read => "READ"

/-- A line of the log, but for its time. -/
inductive Line
  | connected (address : String)
  | subscribing
  | subscribed (uuid : String)
  | subscribeFailed (uuid error : String)
  | read (label : Label) (uuid : String) (data : Bytes)
  | readFailed (label : Label) (uuid error : String)
  | probe (uuid : String) (payload : Bytes)
  | probeWriteOk (uuid : String) (payload : Bytes)
  | probeWriteFailed (uuid : String) (payload : Bytes) (error : String)
  | readChange (uuid : String) (before : Option Bytes) (after : Bytes)
  | stopping
  | unsubscribed (uuid : String)
  | unsubscribeFailed (uuid error : String)
  deriving DecidableEq

/-- The text of a line that is written at a time. -/
def Line.text (ts : String) : Line -> String
  | .connected address => ts ++ " CONNECTED " ++ address
  | .subscribing => "Subscribing to notifiable characteristics..."
  | .subscribed uuid => ts ++ " SUBSCRIBED " ++ uuid
  | .subscribeFailed uuid error => ts ++ " SUBSCRIBE_FAILED " ++ uuid ++ " error=" ++ error
  | .read label uuid data =>
      ts ++ " " ++ label.text ++ " uuid=" ++ uuid ++ " hex=" ++ data.hex ++ " raw=" ++
        String.ofList (Repr.ofBytes data)
  | .readFailed label uuid error =>
      ts ++ " " ++ label.text ++ "_FAILED uuid=" ++ uuid ++ " error=" ++ error
  | .probe uuid payload => ts ++ " PROBE uuid=" ++ uuid ++ " payload=" ++ payload.hex
  | .probeWriteOk uuid payload =>
      ts ++ " PROBE_WRITE_OK uuid=" ++ uuid ++ " payload=" ++ payload.hex
  | .probeWriteFailed uuid payload error =>
      ts ++ " PROBE_WRITE_FAILED uuid=" ++ uuid ++ " payload=" ++ payload.hex ++ " error=" ++
        error
  | .readChange uuid before after =>
      ts ++ " READ_CHANGE uuid=" ++ uuid ++ " before=" ++ (before.map Bytes.hex).getD "" ++
        " after=" ++ after.hex
  | .stopping => "Stopping notifications..."
  | .unsubscribed uuid => ts ++ " UNSUBSCRIBED " ++ uuid
  | .unsubscribeFailed uuid error =>
      ts ++ " UNSUBSCRIBE_FAILED " ++ uuid ++ " error=" ++ error

/-! ## Calls -/

/-- A call of the tool. -/
inductive Call
  | print (text : String)
  /-- `ts()` in the name of the log file. -/
  | timestamp
  | addSignalHandler (signal : String)
  /-- Entering `live.connected_client`. -/
  | enterClient (address : String)
  /-- Leaving it. -/
  | exitClient
  | isConnected
  | openLog (path : String)
  | emit (line : Line)
  /-- `client.services`, by service. -/
  | services
  /-- `STOP.is_set()`. -/
  | stopIsSet
  | startNotify (uuid : String)
  | stopNotify (uuid : String)
  | readGattChar (uuid : String)
  | writeGattChar (uuid : String) (payload : Bytes) (response : Bool)
  | sleep (seconds : Nat)
  deriving DecidableEq

/-- What a call returns. -/
@[reducible] def Answer : Call -> Type
  | .timestamp => String
  | .isConnected => Bool
  | .services => List (List Characteristic)
  | .stopIsSet => Bool
  | .readGattChar _ => Bytes
  | _ => Unit

/-- A program that makes the calls of the probe. -/
abbrev Action (α : Type) : Type :=
  Program Call Answer α

/-- A call of the probe with its outcome. -/
abbrev Step : Type :=
  Exchange Call Answer

/-- Make a call. -/
def perform (call : Call) : Action (Answer call) :=
  Program.perform call

/-- Write a line to the log. -/
def emit (line : Line) : Action Unit :=
  perform (.emit line)

/-- The result of an action, or the exception that `except Exception` catches. -/
def attempt (action : Action α) : Action (Except Exn α) :=
  Program.tryExcept (Except.ok <$> action) fun exc => return .error exc

/-! ## Snapshots -/

/-- The values of a snapshot by characteristic. -/
abbrev Values := List (String × Bytes)

/-- One pass of the loop of `snapshot_reads`.  A line that cannot be written counts as
a failure, but the value is in the dictionary already. -/
def readChar (label : Label) (uuid : String) (values : Values) : Action Values := do
  let outcome <- attempt (perform (.readGattChar uuid))
  match outcome with
  | .error exc =>
      emit (.readFailed label uuid exc.message)
      return values
  | .ok data =>
      Program.tryExcept (emit (.read label uuid data))
        fun exc => emit (.readFailed label uuid exc.message)
      return Dictionary.setItem values uuid data

/-- The loop of `snapshot_reads`. -/
def readChars (label : Label) : List Characteristic -> Values -> Action Values
  | [], values => return values
  | char :: rest, values => do
      let values <- readChar label (normalizeUuid char.uuid) values
      readChars label rest values

/-- Read all characteristics that can be read. -/
def snapshotReads (chars : List Characteristic) (label : Label) : Action Values :=
  readChars label chars []

/-! ## Probing -/

/-- The loop over the items of a snapshot. -/
def reportChanges (baseline : Values) : Values -> Action Unit
  | [] => return ()
  | (readUuid, currentValue) :: rest => do
      let previousValue := baseline.lookup readUuid
      if previousValue ≠ some currentValue then
        emit (.readChange readUuid previousValue currentValue)
      reportChanges baseline rest

/-- The loop over the payloads.  It returns the last snapshot. -/
def probePayloads
    (uuid : String)
    (response : Bool)
    (chars : List Characteristic) : List Bytes -> Values -> Action Values
  | [], baseline => return baseline
  | payload :: rest, baseline => do
      let stopped <- perform .stopIsSet
      if stopped then
        return baseline
      else
        emit (.probe uuid payload)
        let written <- attempt do
          perform (.writeGattChar uuid payload response)
          emit (.probeWriteOk uuid payload)
        match written with
        | .error exc =>
            emit (.probeWriteFailed uuid payload exc.message)
            probePayloads uuid response chars rest baseline
        | .ok () =>
            perform (.sleep PROBE_DELAY_SECONDS)
            let current <- snapshotReads chars .read
            reportChanges baseline current
            probePayloads uuid response chars rest current

/-- The loop over the characteristics that are written to. -/
def probeChars (chars : List Characteristic) :
    List Characteristic -> Values -> Action Values
  | [], baseline => return baseline
  | char :: rest, baseline => do
      let stopped <- perform .stopIsSet
      if stopped then
        return baseline
      else
        let baseline <- probePayloads (normalizeUuid char.uuid) (probeWriteResponse char)
          chars PROBE_PAYLOADS baseline
        probeChars chars rest baseline

/-! ## The tool -/

/-- One pass of the loops around the notifications. -/
def subscribe (uuid : String) : Action Unit :=
  Program.tryExcept
    (do
      perform (.startNotify uuid)
      emit (.subscribed uuid))
    fun exc => emit (.subscribeFailed uuid exc.message)

/-- End the notifications of a characteristic; a failure is only written to the log. -/
def unsubscribe (uuid : String) : Action Unit :=
  Program.tryExcept
    (do
      perform (.stopNotify uuid)
      emit (.unsubscribed uuid))
    fun exc => emit (.unsubscribeFailed uuid exc.message)

/-- One pass of the loop over the signals. -/
def addSignalHandler (signal : String) : Action Unit :=
  Program.tryExcept (perform (.addSignalHandler signal)) fun exc =>
    if exc.type = .user "NotImplementedError" then return () else Program.raise exc

/-- The part of `main` with the services of the client. -/
def probeServices (services : List (List Characteristic)) : Action Unit := do
  let (notifyChars, readableChars, writeChars) := collectProbeChars services
  if writeChars = [] then
    Program.raise ⟨.runtimeError, "No Bosch probe characteristics were found."⟩
  else
    emit .subscribing
    notifyChars.forM fun char => subscribe (normalizeUuid char.uuid)
    let baseline <- snapshotReads readableChars .baseline
    let _ <- probeChars readableChars writeChars baseline
    emit .stopping
    notifyChars.forM fun char => unsubscribe (normalizeUuid char.uuid)

/-- `out_file or f"ble_probe-{ts()}.txt"`. -/
def outPath (outFile : Option String) : Action String := do
  if outFile.getD "" = "" then
    let time <- perform .timestamp
    return "ble_probe-" ++ time ++ ".txt"
  else
    return outFile.getD ""

/-- `main`. -/
def main (address : String) (outFile : Option String) (backend : String) : Action Unit := do
  let path <- outPath outFile
  perform (.print ("Connecting to " ++ address ++ " via " ++ backend ++ " ..."))
  perform (.print ("Probing to " ++ path))
  addSignalHandler "SIGINT"
  addSignalHandler "SIGTERM"
  perform (.enterClient address)
  Program.tryFinally
    (do
      let connected <- perform .isConnected
      perform (.print ("Connected: " ++ if connected then "True" else "False"))
      perform (.openLog path)
      emit (.connected address)
      let services <- perform .services
      probeServices services)
    (perform .exitClient)

end Probe
end BoschBle
