import BoschBle.DumpGatt.Security
import BoschBle.Foundation.Repetition

/-!
# Dumping the services of a bike

`dump_gatt.py` connects a bike, secures the connection and prints all of its services
with the values that can be read.  An attempt that fails for a passing reason is made
again.  What is printed before the client is connected is left out.
-/

namespace BoschBle
namespace DumpGatt

open Foundation
open Bluez (BluezState)
open Live (Backend DISCOVERY_RETRY_ATTEMPTS retryMessage)

/-- How many seconds a device is looked for again. -/
def REDISCOVERY_TIMEOUT : Nat := 10

/-! ## Preparing the connection -/

section Prepare

variable (host : Bluez.HostProcess) (executable address : String)

/-- `resolve_device` on the `bluez` backend. -/
def resolveDevice : Bluez.Action BluezState := do
  let discovering <- Bluez.controllerDiscoveringState
  Bluez.assertControllerReady host address discovering
  let state <- Bluez.preflightDevice address Bluez.DEFAULT_SCAN_TIMEOUT
  if state.device.isNone then
    Bluez.preflightDevice address REDISCOVERY_TIMEOUT
  else
    return state

/-- `prepare_connection` on the `bluez` backend. -/
def prepareConnection : Bluez.Action BluezState := do
  let state <- resolveDevice host address
  let connectedState <- Bluez.connectDevice executable address false
  return { connectedState with
    device := connectedState.device.or state.device
    name := Bluez.orName connectedState.name state.name
    pairingAdvertisement := none }

/-- What the client is opened for: the device that was found, or its object, or its address.
-/
def clientTargetForState (state : Option BluezState) : Bluez.Action Target :=
  match state with
  | none => Program.raise ⟨.runtimeError, "No device state available for client target"⟩
  | some state =>
      match state.device with
      | some device => return .device device
      | none => do
          let devicePath <- Bluez.findDeviceObjectPath state.address
          match devicePath with
          | some path => return .device ⟨some state.address, state.name, some path⟩
          | none => return .address state.address

end Prepare

/-! ## The report -/

/-- Print a line. -/
def print (line : String) : Action Unit :=
  perform (.print line)

/-- Read a value and print it, or why it could not be read. -/
def reportRead
    (read : Action Bytes)
    (value : Bytes -> String)
    (failure : String) : Action Unit :=
  Program.tryExcept
    (do
      let data <- read
      print (value data))
    fun exc => print (failure ++ exc.message)

/-- The properties in order, separated by commas. -/
def propsToStr (props : List String) : String :=
  ",".intercalate (props.mergeSort fun first second => first ≤ second)

/-- Print a descriptor with its value. -/
def dumpDescriptor (descriptor : Descriptor) : Action Unit := do
  print ("    [DESC] handle=" ++ toString descriptor.handle ++ " uuid=" ++ descriptor.uuid)
  reportRead (perform (.readGattDescriptor descriptor.handle))
    (fun dval => "           value=" ++ dval.hex ++ " raw=" ++ String.ofList (Repr.ofBytes dval))
    "           read failed: "

/-- Print a characteristic, with its value where it can be read, and its descriptors. -/
def dumpCharacteristic (char : Characteristic) : Action Unit := do
  print ("  [CHAR] " ++ char.uuid)
  print ("         properties=" ++ propsToStr char.properties)
  print ("         description=" ++ char.description)
  if char.properties.contains "read" then
    reportRead (perform (.readGattChar char.uuid))
      (fun value => "         value=" ++ value.hex ++ "  raw=bytearray(" ++
        String.ofList (Repr.ofBytes value) ++ ")")
      "         read failed: "
  Program.forEach dumpDescriptor char.descriptors

/-- Print a service with its characteristics. -/
def dumpService (service : Service) : Action Unit := do
  print ("[SERVICE] " ++ service.uuid ++ "  (" ++ service.description ++ ")")
  Program.forEach dumpCharacteristic service.characteristics
  print (String.ofList (List.replicate 100 '-'))

/-- Print all services of the client. -/
def dumpServices : Action Unit := do
  print ""
  print "Services and characteristics"
  print (String.ofList (List.replicate 100 '='))
  let services <- perform .services
  Program.forEach dumpService services

/-! ## Attempts -/

/-- `async with BleakClient(target)` around a block. -/
def withClient (target : Target) (block : Action Unit) : Action Unit := do
  perform (.enterClient target)
  Program.tryFinally block (perform .exitClient)

/-- `async with esphome_proxy_context(config)` around a block. -/
def withProxy (esphomeHost : String) (block : Action Unit) : Action Unit := do
  perform (.enterProxy esphomeHost)
  Program.tryFinally block
    (Program.tryExcept (perform .exitProxy) fun _ => return ())

section Attempt

variable (host : Bluez.HostProcess) (executable address : String)
  (backend : Backend) (esphomeHost : Option String)

/-- Staging, with a missing descriptor let pass. -/
def secure : Action Unit :=
  Program.tryExcept (stageBoschSecurity address backend) fun exc =>
    if exc.type = boschSecurityDescriptorMissing.type then
      return ()
    else
      Program.raise exc

/-- The block of the client. -/
def session : Action Unit := do
  let connected <- perform .isConnected
  print ("Connected: " ++ Bluez.boolText connected)
  let connected <- perform .isConnected
  if !connected then
    Program.raise ⟨.runtimeError, "Failed to connect"⟩
  else do
    secure address backend
    dumpServices

/-- What is tried in an attempt. -/
def attemptDump : Action Unit :=
  match backend with
  | .esphome =>
      if esphomeHost.getD "" = "" then
        Program.raise ⟨.runtimeError, "ESPHome host is required for esphome backend"⟩
      else
        withProxy (esphomeHost.getD "")
          (withClient (.address address) (session address .esphome))
  | .bluez => do
      let state <- system.embed (prepareConnection host executable address)
      let target <- system.embed (clientTargetForState (some state))
      withClient target (session address .bluez)

/-- What stands between two attempts. -/
def pauseAttempt (attempt : Nat) (message : String) : Action Unit := do
  print message
  system.embed (Bluez.perform (.sleep (attempt * Bluez.second)))

/-- The backend as it is printed. -/
def backendText : Backend -> String
  | .bluez => "bluez"
  | .esphome => "esphome"

/-- Print the services of the device; a discovery that fails is tried again. -/
def main : Action Unit := do
  print ("Connecting to " ++ address ++ " via " ++ backendText backend ++ " ...")
  Program.retry (fun exc => retryMessage exc address) pauseAttempt
    (attemptDump host executable address backend esphomeHost)
    (DISCOVERY_RETRY_ATTEMPTS - 1) 1

end Attempt
end DumpGatt
end BoschBle
