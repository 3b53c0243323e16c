import BoschBle.Bluez.Controller
import BoschBle.Bluez.WaitRuns
import BoschBle.Live.ConnectedClient
import BoschBle.Probe.Main

/-!
# Securing the connection

The bike talks over an encrypted connection only.  `stage_bosch_security` writes a
descriptor of the bike, and where the bike asks for encryption it pairs the device
under an agent of its own, waits for the state of the device and writes again.
-/

namespace BoschBle
namespace DumpGatt

open Foundation
open Bluez (BluezState TimedCall TimedAnswer)
open Live (Backend)
open Probe (normalizeUuid)

/-- The service whose notifications need security. -/
def BOSCH_SERVICE_UUID : String := "00000010-eaa2-11e9-81b4-2a2ae2dbcce4"

/-- Its characteristic that notifies. -/
def BOSCH_NOTIFY_CHAR_UUID : String := "00000011-eaa2-11e9-81b4-2a2ae2dbcce4"

/-- The descriptor by which notifications are switched. -/
def CCCD_UUID : String := "00002902-0000-1000-8000-00805f9b34fb"

/-! ## Services -/

/-- A descriptor of a characteristic. -/
structure Descriptor where
  handle : Nat
  uuid : String
  deriving DecidableEq

/-- A characteristic of a service. -/
structure Characteristic where
  uuid : String
  properties : List String
  description : String
  descriptors : List Descriptor
  deriving DecidableEq

/-- A service that the client has discovered. -/
structure Service where
  uuid : String
  description : String
  characteristics : List Characteristic
  deriving DecidableEq

/-- The error for a device without the descriptor. -/
def boschSecurityDescriptorMissing : Exn :=
  ⟨.user "BoschSecurityDescriptorMissing", "Bosch security descriptor was not found."⟩

/-- The first descriptor of a notify characteristic of a Bosch service. -/
def findBoschSecurityDescriptor (services : List Service) : Except Exn Descriptor :=
  let found := services.findSome? fun service =>
    if normalizeUuid service.uuid ≠ BOSCH_SERVICE_UUID then none
    else service.characteristics.findSome? fun characteristic =>
      if normalizeUuid characteristic.uuid ≠ BOSCH_NOTIFY_CHAR_UUID then none
      else characteristic.descriptors.find? fun descriptor =>
        normalizeUuid descriptor.uuid = CCCD_UUID
  match found with
  | none => .error boschSecurityDescriptorMissing
  | some descriptor => .ok descriptor

/-! ## Calls -/

/-- What a client is made for. -/
inductive Target
  | device (device : Bluez.Device)
  | address (address : String)
  deriving DecidableEq

/-- A call of the tool. -/
inductive Call
  | bluez (call : TimedCall)
  | print (line : String)
  /-- Entering `esphome_proxy_context`. -/
  | enterProxy (host : String)
  /-- The clean-up of the proxy, which makes its connection logic stop later. -/
  | exitProxy
  /-- Entering a `BleakClient`. -/
  | enterClient (target : Target)
  /-- Disconnecting the client. -/
  | exitClient
  | isConnected
  | services
  | pair
  | writeGattDescriptor (handle : Nat) (data : Bytes)
  | readGattChar (uuid : String)
  | readGattDescriptor (handle : Nat)
  deriving DecidableEq

/-- What the calls of the tool return. -/
@[reducible] def Answer : Call -> Type
  | .bluez call => TimedAnswer call
  | .isConnected => Bool
  | .services => List Service
  | .readGattChar _ => Bytes
  | .readGattDescriptor _ => Bytes
  | _ => Unit

/-- A program that makes the calls of the tool. -/
abbrev Action (α : Type) : Type :=
  Program Call Answer α

/-- A call of the tool with its outcome. -/
abbrev Step : Type :=
  Exchange Call Answer

/-- Make a call. -/
def perform (call : Call) : Action (Answer call) :=
  Program.perform call

/-- The calls of `bluez.py`. -/
def bluez : Embedding TimedCall TimedAnswer Call Answer where
  call := .bluez
  answer := fun _ => rfl

/-- Those of them that go to the system. -/
def system : Embedding Bluez.Call Bluez.Answer Call Answer where
  call := fun call => .bluez (.system call)
  answer := fun _ => rfl

/-! ## Staging -/

section Stage

variable (address : String) (backend : Backend)

/-- The error texts of a bike that asks for encryption. -/
def asksEncryption (message : Text) : Bool :=
  Text.contains "insufficient encryption".toList message ||
    Text.contains "authentication".toList message

/-- The error text of a stack that writes the descriptor itself. -/
def refusesDirect (message : Text) : Bool :=
  Text.contains "cannot write to cccd (0x2902) directly".toList message

/-- Pair the device, on BlueZ within the block of an agent. -/
def pairWithAgent : Action Unit :=
  match backend with
  | .bluez => Bluez.pairingAgentIn system (perform .pair)
  | .esphome => perform .pair

/-- The error for a device that has disconnected while it was secured. -/
def transitionDisconnected : Exn :=
  ⟨.runtimeError, "Security transition disconnected for " ++ address ++ "."⟩

/-- The wait behind a pairing, on the backend that knows the state. -/
def confirmSecured : Action Unit :=
  match backend with
  | .esphome => return ()
  | .bluez => do
      let state <- bluez.embed (Bluez.waitForState address
        { paired := some true, connected := some true, servicesResolved := some true })
      if state.connected ≠ some true then
        Program.raise (transitionDisconnected address)
      else do
        let connected <- perform .isConnected
        if !connected then
          Program.raise (transitionDisconnected address)
        else
          return ()

/-- Whether BlueZ says that the device is paired already. -/
def alreadyPaired : Action Bool :=
  match backend with
  | .esphome => return false
  | .bluez => do
      let state <- system.embed (Bluez.readDeviceState address none none none)
      return state.paired == some true

/-- The value that switches notifications off. -/
def secureValue : Bytes := [0x00, 0x00]

/-- What follows where the first write has failed. -/
def handleRefusal (descriptor : Descriptor) (exc : Exn) : Action Unit :=
  let message := Text.lower exc.message.toList
  if refusesDirect message then do
    let paired <- alreadyPaired address backend
    if paired then
      return ()
    else do
      pairWithAgent backend
      confirmSecured address backend
  else if !asksEncryption message then
    Program.raise exc
  else do
    pairWithAgent backend
    confirmSecured address backend
    perform (.writeGattDescriptor descriptor.handle secureValue)

/-- Write the descriptor that makes the bike ask for security, and handle its refusal. -/
def stageBoschSecurity : Action Unit := do
  let services <- perform .services
  let descriptor <- Program.done (findBoschSecurityDescriptor services)
  Program.tryExcept (perform (.writeGattDescriptor descriptor.handle secureValue))
    (handleRefusal address backend descriptor)

end Stage
end DumpGatt
end BoschBle
