import BoschBle.Bluez.Environment

/-!
# Connecting and pairing

The two connection paths of `bluez.py`, with the preparation that they share.
What they print is left out.  An exception may be raised wherever a call is
made: the cancellation of the task is one of them.
-/

namespace BoschBle
namespace Bluez

open Foundation

/-- The interface at which agents are registered. -/
def BLUEZ_AGENT_MANAGER_INTERFACE : String := "org.bluez.AgentManager1"

/-- The interface of a device. -/
def BLUEZ_DEVICE_INTERFACE : String := "org.bluez.Device1"

/-- The interface through which properties are set. -/
def DBUS_PROPERTIES_INTERFACE : String := "org.freedesktop.DBus.Properties"

/-- What an agent is registered as being capable of. -/
def BLUEZ_AGENT_CAPABILITY : String := "KeyboardDisplay"

/-- The path under which agents are exported. -/
def BLUEZ_AGENT_BASE_PATH : String := "/org/bosch_ble"

/-- The connection parameters of a phone, as `btmgmt` takes them. -/
def PHONE_LIKE_LE_CONNECTION_SYS_CONFIG : List String :=
  ["0017:2:1800", "0018:2:1800", "0019:2:0000", "001a:2:4800"]

/-- Connection parameters in units of the controller. -/
structure LeConnectionParameters where
  minInterval : Nat
  maxInterval : Nat
  latency : Nat
  timeout : Nat
  deriving DecidableEq

/-- The connection parameters of a phone in their units: `PHONE_LIKE_LE_CONNECTION_UNITS`.
-/
def PHONE_LIKE_PARAMETERS : LeConnectionParameters where
  minInterval := 24
  maxInterval := 24
  latency := 0
  timeout := 72

/-! ## Failures -/

/-- The steps of setting up a connection that an error may name. -/
inductive ConnectionSetupStep
  | powerOff
  | sysConfig
  | privacy
  | bondable
  | powerOn
  | pairable
  | parameters
  deriving DecidableEq

/-- What a step is called. -/
def ConnectionSetupStep.value : ConnectionSetupStep -> String
  | .powerOff => "power off"
  | .sysConfig => "set-sysconfig"
  | .privacy => "privacy"
  | .bondable => "bondable"
  | .powerOn => "power on"
  | .pairable => "pairable on"
  | .parameters => "load-conn-params"

/-- The error of a step that has failed. -/
def connectionSetupError
    (step : ConnectionSetupStep)
    (address detail : String) : Exn :=
  ⟨.user "ConnectionSetupError",
    "BlueZ " ++ step.value ++ " failed for " ++ address ++ ": " ++ detail⟩

/-- The name of an exception class. -/
def typeName : ExnType -> String
  | .valueError => "ValueError"
  | .typeError => "TypeError"
  | .indexError => "IndexError"
  | .overflowError => "OverflowError"
  | .runtimeError => "RuntimeError"
  | .osError => "OSError"
  | .timeoutError => "TimeoutError"
  | .cancelledError => "CancelledError"
  | .generatorExit => "GeneratorExit"
  | .keyboardInterrupt => "KeyboardInterrupt"
  | .user name => name

/-- The text of an exception, or its class where it has none. -/
def formatCliError (exc : Exn) : String :=
  if exc.message = "" then typeName exc.type else exc.message

/-! ## Commands -/

/-- A setting as the commands take it. -/
def onOff (value : Bool) : String :=
  if value then "on" else "off"

/-- Let the controller be paired with, or not. -/
def bluezSetPairable (pairable : Bool) : Action CompletedProcess :=
  perform (.runCommand ["bluetoothctl", "pairable", onOff pairable] 15)

/-- Switch the controller on or off. -/
def bluezSetPower (powered : Bool) : Action CompletedProcess :=
  perform (.runCommand ["sudo", "btmgmt", "power", onOff powered] 15)

/-- Switch the privacy of the controller on or off. -/
def bluezSetPrivacy (privacy : Bool) : Action CompletedProcess :=
  perform (.runCommand ["sudo", "btmgmt", "privacy", onOff privacy] 15)

/-- Let the controller keep keys, or not. -/
def bluezSetBondable (bondable : Bool) : Action CompletedProcess :=
  perform (.runCommand ["sudo", "btmgmt", "bondable", onOff bondable] 15)

/-- Set the connection parameters of a phone as the defaults of the controller. -/
def bluezSetSysConfig : Action CompletedProcess :=
  perform (.runCommand
    (["sudo", "btmgmt", "set-sysconfig", "-v"] ++ PHONE_LIKE_LE_CONNECTION_SYS_CONFIG) 15)

/-- The command of `bluez_load_connection_parameters`.  It is run by the interpreter
`executable`. -/
def loadConnectionParametersCommand
    (executable address : String)
    (controllerIndex addressType minInterval maxInterval latency timeout : Int) :
    List String :=
  ["sudo", "-n", executable, "-m", "bosch_ble.mgmt", "load-conn-params",
    "--address", address, "--controller-index", toString controllerIndex,
    "--address-type", toString addressType, "--min-interval", toString minInterval,
    "--max-interval", toString maxInterval, "--latency", toString latency,
    "--timeout", toString timeout]

/-- `bluez_load_connection_parameters` with its defaults. -/
def bluezLoadConnectionParameters (executable address : String) :
    Action CompletedProcess :=
  perform (.runCommand
    (loadConnectionParametersCommand executable address 0 1 PHONE_LIKE_PARAMETERS.minInterval
      PHONE_LIKE_PARAMETERS.maxInterval PHONE_LIKE_PARAMETERS.latency
      PHONE_LIKE_PARAMETERS.timeout) 20)

/-- Pair the device with `btmgmt`. -/
def btmgmtPairDevice (address : String) : Action CompletedProcess :=
  perform (.runCommand
    ["sudo", "btmgmt", "pair", "-c", "4", "-t", "le-public", address] 20)

/-- A method of the device on the system bus, as the command `bluez name`. -/
def callDevice
    (address name interface : String)
    (method : String -> Action Unit) : Action CompletedProcess := do
  let devicePath <- findDeviceObjectPath address
  match devicePath with
  | none =>
      return ⟨["bluez", name, address], 1, "", "Device " ++ address ++ " not available\n"⟩
  | some devicePath =>
      perform .busConnect
      Program.tryFinally
        (Program.tryExcept
          (do
            perform (.introspect BLUEZ_SERVICE devicePath interface)
            method devicePath
            return ⟨["bluez", name, address], 0, "", ""⟩)
          fun exc =>
            return ⟨["bluez", name, address], 1, "", formatCliError exc ++ "\n"⟩)
        (perform .busDisconnect)

/-- Pair the device over the system bus. -/
def bluezPairDevice (address : String) : Action CompletedProcess :=
  callDevice address "pair" BLUEZ_DEVICE_INTERFACE fun devicePath =>
    perform (.pair devicePath)

/-- Set the property `Trusted` of the device over the system bus. -/
def bluezSetTrusted (address : String) (trusted : Bool) : Action CompletedProcess :=
  callDevice address "trust" DBUS_PROPERTIES_INTERFACE fun devicePath =>
    perform (.setTrusted devicePath trusted)

/-- Ask for the password of `sudo` where there is a terminal to ask on. -/
def ensureSudoReady : Action Unit := do
  let interactive <- perform .interactiveTerminal
  if interactive then
    let returncode <- perform (.run ["sudo", "-v"])
    if returncode ≠ 0 then
      Program.raise ⟨.runtimeError, "sudo authentication failed for BlueZ setup."⟩
    else
      return ()
  else
    return ()

/-! ## Preparation -/

/-- Run a command, and raise where it fails. -/
def checked
    (failure : CompletedProcess -> Exn)
    (command : Action CompletedProcess) : Action Unit := do
  let result <- command
  if result.returncode ≠ 0 then
    Program.raise (failure result)
  else
    return ()

/-- Run the labelled commands in order up to the first that fails. -/
def runSteps : List (ConnectionSetupStep × Action CompletedProcess) -> Action Unit
  | [] => return ()
  | (label, command) :: rest => do
      checked (fun result =>
        connectionSetupError label "controller" (summarizeFailure result)) command
      runSteps rest

/-- Give the controller the settings of a phone. -/
def bluezPreparePhoneLikePairingController (privacy : Bool) : Action Unit :=
  runSteps
    [(.powerOff, bluezSetPower false),
      (.sysConfig, bluezSetSysConfig),
      (.privacy, bluezSetPrivacy privacy),
      (.bondable, bluezSetBondable true),
      (.powerOn, bluezSetPower true)]

/-- Look for the device again, with the default time. -/
def refreshVisibleDevice (address : String) : Action BluezState :=
  preflightDevice address DEFAULT_SCAN_TIMEOUT

/-- Set the controller up and check that the device is there and ready. -/
def prepareConnectAttempt
    (executable address : String)
    (privacy : Bool) : Action BluezState := do
  bluezPreparePhoneLikePairingController privacy
  checked (fun result =>
    connectionSetupError .pairable address (summarizeFailure result))
    (bluezSetPairable true)
  let state <- refreshVisibleDevice address
  Program.done (assertPairingAdvertisementReady state address)
  checked (fun result =>
    connectionSetupError .parameters address
      (summarizeFailure result ++ "; trusted mgmt access via sudo is required"))
    (bluezLoadConnectionParameters executable address)
  return state

/-! ## The connection paths -/

/-- `async with pairing_agent(address)` around a block. -/
def pairingAgent (block : Action α) : Action α := do
  perform .busConnect
  let hex <- perform .uuid4
  let path := BLUEZ_AGENT_BASE_PATH ++ "/" ++ hex
  perform (.export path)
  perform (.introspect BLUEZ_SERVICE BLUEZ_ROOT_PATH BLUEZ_AGENT_MANAGER_INTERFACE)
  perform (.registerAgent path BLUEZ_AGENT_CAPABILITY)
  Program.tryFinally
    (do
      perform (.requestDefaultAgent path)
      Program.tryFinally block
        (Program.tryExcept (perform (.unregisterAgent path)) fun _ => return ()))
    (do
      perform (.unexport path)
      perform .busDisconnect)

/-- What a device is paired with. -/
inductive PairBackend
  | dbus
  | btmgmt
  deriving DecidableEq

/-- Pair the device with the given backend. -/
def pairDevice (pairBackend : PairBackend) (address : String) : Action CompletedProcess :=
  match pairBackend with
  | .btmgmt => btmgmtPairDevice address
  | .dbus => bluezPairDevice address

/-- The state that a path starts from: from `bluetoothctl info`, or from a scan
where BlueZ does not know the device. -/
def initialState (address : String) (infoResult : CompletedProcess) : Action BluezState :=
  if isDeviceUnavailable infoResult then
    preflightDevice address DEFAULT_SCAN_TIMEOUT
  else
    return buildState address infoResult none none none none

section Assist

variable (executable address : String) (pairBackend : PairBackend) (privacy : Bool)

/-- The pairing loop over the given attempts. -/
def pairAttempts :
    List Nat -> BluezState -> Option CompletedProcess ->
      Action (BluezState × Option CompletedProcess)
  | [], infoState, lastPairResult => return (infoState, lastPairResult)
  | attempt :: rest, _, _ => do
      let infoState <- prepareConnectAttempt executable address privacy
      let pairResult <- pairDevice pairBackend address
      if pairResult.returncode = 0 then
        return (infoState, some pairResult)
      else
        let state <- readDeviceState address none none none
        if state.paired = some true then
          return (infoState, some pairResult)
        else if attempt = 2 ∨ isTransientPairFailure pairResult = false then
          Program.raise ⟨.runtimeError, "BlueZ pair failed for " ++ address ++ ": " ++
            summarizeFailure pairResult⟩
        else
          perform (.sleep second)
          pairAttempts rest infoState (some pairResult)

/-- Pair the device unless it is paired. -/
def ensurePaired (infoState : BluezState) : Action BluezState :=
  if infoState.paired = some true then
    return infoState
  else do
    ensureSudoReady
    let paired <- pairAttempts executable address pairBackend privacy [0, 1, 2] infoState none
    if paired.2 = none then
      Program.raise ⟨.runtimeError, "BlueZ pair failed for " ++ address ++
        ": pair step was not executed"⟩
    else
      return paired.1

/-- Trust the device unless it is trusted. -/
def ensureTrusted (infoState : BluezState) : Action Unit :=
  if infoState.trusted = some true then
    return ()
  else do
    let trustResult <- bluezSetTrusted address true
    if trustResult.returncode ≠ 0 then
      let state <- readDeviceState address none none none
      if state.trusted ≠ some true then
        Program.raise ⟨.runtimeError, "BlueZ trust failed for " ++ address ++ ": " ++
          summarizeFailure trustResult⟩
      else
        return ()
    else
      return ()

/-- The command that connects the device. -/
def connectCall : Call :=
  .runCommand ["bluetoothctl", "connect", address] 15

/-- The state behind a connect, unless that has failed. -/
def readConnected (connectResult : CompletedProcess) : Action BluezState := do
  let state <- readDeviceState address none none none
  if connectResult.returncode ≠ 0 ∧ state.connected ≠ some true then
    Program.raise ⟨.runtimeError, "BlueZ connect failed for " ++ address ++ ": " ++
      summarizeFailure connectResult⟩
  else if state.connected = some false then
    Program.raise ⟨.runtimeError, "BlueZ reports " ++ address ++
      " is not connected after connect attempt."⟩
  else
    return state

/-- Pair, trust and connect the device as far as it is not, under an agent of its own. -/
def assistConnection : Action BluezState := do
  let infoResult <- perform (.runCommand ["bluetoothctl", "info", address] 15)
  let infoState <- initialState address infoResult
  let connectResult <- pairingAgent do
    let infoState <- ensurePaired executable address pairBackend privacy infoState
    ensureTrusted address infoState
    perform (connectCall address)
  readConnected address connectResult

/-- The first name that is not empty, if there is one. -/
def orName (first second : Option String) : Option String :=
  match first with
  | none => second
  | some name => if name = "" then second else some name

/-- Connect a device without pairing it, and return its state with what was found of it. -/
def connectDevice : Action BluezState := do
  let infoResult <- perform (.runCommand ["bluetoothctl", "info", address] 15)
  let _ <- initialState address infoResult
  ensureSudoReady
  let infoState <- prepareConnectAttempt executable address privacy
  let connectResult <- perform (connectCall address)
  let state <- readConnected address connectResult
  let devicePath <- findDeviceObjectPath state.address
  let device : Option Device :=
    match devicePath with
    | none => infoState.device
    | some path => some ⟨some state.address, orName state.name infoState.name, some path⟩
  return { state with
    visible := infoState.visible
    device := device
    name := orName infoState.name state.name
    pairingAdvertisement := infoState.pairingAdvertisement }

end Assist

end Bluez
end BoschBle
