import BoschBle.Bluez.State
import BoschBle.Foundation.Interaction

/-!
# Calls to the system

The commands that `bluez.py` runs, its scans and its calls on the system bus,
and the reads of the device state that it makes with them.
-/

namespace BoschBle
namespace Bluez

open Foundation

/-- The seconds of a scan. -/
def DEFAULT_SCAN_TIMEOUT : Nat := 5

/-- The service of BlueZ on the system bus. -/
def BLUEZ_SERVICE : String := "org.bluez"

/-- The root of the objects of BlueZ. -/
def BLUEZ_ROOT_PATH : String := "/org/bluez"

/-- A second on the clock, which counts microseconds. -/
def second : Nat := 1000000

/-- A call to the system. -/
inductive Call
  /-- `run_command` and `run_command_async`, with the timeout in seconds. -/
  | runCommand (argv : List String) (timeout : Nat)
  /-- `subprocess.run` on the terminal. -/
  | run (argv : List String)
  /-- `shutil.which`. -/
  | which (name : String)
  /-- Whether all three standard streams are terminals. -/
  | interactiveTerminal
  /-- `scan_device_advertisement`. -/
  | scan (address : String) (timeout : Nat)
  /-- `asyncio.sleep`, in microseconds. -/
  | sleep (microseconds : Nat)
  | uuid4
  /-- `MessageBus(...).connect()`. -/
  | busConnect
  /-- `bus.introspect`, and the interface of the proxy object made from it. -/
  | introspect (service path interface : String)
  | export (path : String)
  | unexport (path : String)
  /-- `bus.disconnect()`. -/
  | busDisconnect
  | registerAgent (path capability : String)
  | requestDefaultAgent (path : String)
  | unregisterAgent (path : String)
  /-- `Device1.Pair`. -/
  | pair (devicePath : String)
  /-- `Properties.Set` of the `Trusted` property. -/
  | setTrusted (devicePath : String) (trusted : Bool)
  deriving DecidableEq

/-- What a call returns. -/
@[reducible] def Answer : Call -> Type
  | .runCommand _ _ => CompletedProcess
  | .run _ => Int
  | .which _ => Option String
  | .interactiveTerminal => Bool
  | .scan _ _ => Option Device × Option AdvertisementData
  | .uuid4 => String
  | _ => Unit

/-- A program of `bluez.py`. -/
abbrev Action (α : Type) : Type :=
  Program Call Answer α

/-- An exchange with the system. -/
abbrev Step : Type :=
  Exchange Call Answer

/-- Make a call. -/
def perform (call : Call) : Action (Answer call) :=
  Program.perform call

/-! ## Reading the state of a device -/

/-- The end of the object path of a device: `dev_` and the address with underscores. -/
def deviceObjectSuffix (address : String) : String :=
  String.ofList ("dev_".toList ++ (Text.upper address.toList).map fun char =>
    if char = ':' then '_' else char)

/-- Whether `busctl` is installed. -/
def busctlAvailable : Action Bool := do
  let found <- perform (.which "busctl")
  return found.isSome

/-- The first object path in a tree that ends with the suffix. -/
def objectPathIn (stdout : String) (suffix : String) : Option String :=
  (Text.splitLines stdout.toList).findSome? fun line =>
    match Text.suffixFrom "/org/bluez".toList line with
    | none => none
    | some marked =>
        let objectPath := Text.strip marked
        if ('/' :: suffix.toList).isSuffixOf objectPath then
          some (String.ofList objectPath)
        else none

/-- The object path of the device in the tree of BlueZ, or in the tree of the whole service
where the first cannot be listed. -/
def findDeviceObjectPath (address : String) : Action (Option String) := do
  let available <- busctlAvailable
  if available then
    let suffix := deviceObjectSuffix address
    let tree <- perform (.runCommand ["busctl", "tree", BLUEZ_SERVICE, BLUEZ_ROOT_PATH] 15)
    if tree.returncode ≠ 0 then
      let tree <- perform (.runCommand ["busctl", "tree", BLUEZ_SERVICE] 15)
      if tree.returncode ≠ 0 then
        return none
      else
        return objectPathIn tree.stdout suffix
    else
      return objectPathIn tree.stdout suffix
  else
    return none

/-- Read the state of the device with `bluetoothctl`, and with `busctl` where its object is
known. -/
def readDeviceState
    (address : String)
    (device : Option Device)
    (visible : Option Bool)
    (pairingAdvertisement : Option Bool) : Action BluezState := do
  let bluetoothctl <- perform (.runCommand ["bluetoothctl", "info", address] 15)
  let devicePath <- findDeviceObjectPath address
  match devicePath with
  | none =>
      return buildState address bluetoothctl none device visible pairingAdvertisement
  | some devicePath =>
      let busctl <- perform (.runCommand
        ["busctl", "introspect", BLUEZ_SERVICE, devicePath, "org.bluez.Device1"] 15)
      return buildState address bluetoothctl (some busctl) device visible
        pairingAdvertisement

/-- Scan for the device and read its state. -/
def preflightDevice (address : String) (scanTimeout : Nat) : Action BluezState := do
  let found <- perform (.scan address scanTimeout)
  readDeviceState address found.1 (some found.1.isSome)
    (isBoschPairingAdvertisement found.2)

/-! ## What the reads do -/

/-- A call that only reads: it changes nothing on the controller or on a
device. -/
def Call.IsQuery : Call -> Prop
  | .which _ => True
  | .runCommand ("busctl" :: "tree" :: _) _ => True
  | .runCommand ("busctl" :: "introspect" :: _) _ => True
  | .runCommand ("bluetoothctl" :: "info" :: _) _ => True
  | .busConnect => True
  | .introspect _ _ _ => True
  | _ => False

theorem findDeviceObjectPath_only (address : String) :
    (findDeviceObjectPath address).Only Call.IsQuery := by
  unfold findDeviceObjectPath busctlAvailable
  apply Program.Only.bind
  · apply Program.Only.bind (Program.Only.perform trivial)
    intro found
    exact trivial
  · intro available
    split
    · apply Program.Only.bind (Program.Only.perform trivial)
      intro tree
      split
      · apply Program.Only.bind (Program.Only.perform trivial)
        intro tree
        split <;> exact trivial
      · exact trivial
    · exact trivial

theorem readDeviceState_only
    (address : String)
    (device : Option Device)
    (visible : Option Bool)
    (pairingAdvertisement : Option Bool) :
    (readDeviceState address device visible pairingAdvertisement).Only
      Call.IsQuery := by
  unfold readDeviceState
  apply Program.Only.bind (Program.Only.perform trivial)
  intro bluetoothctl
  apply Program.Only.bind (findDeviceObjectPath_only address)
  intro devicePath
  cases devicePath with
  | none => exact trivial
  | some devicePath =>
      apply Program.Only.bind (Program.Only.perform trivial)
      intro busctl
      exact trivial

/-- A preflight scans once and then only reads. -/
theorem preflightDevice_only (address : String) (scanTimeout : Nat) :
    (preflightDevice address scanTimeout).Only fun call =>
      call = .scan address scanTimeout ∨ call.IsQuery := by
  unfold preflightDevice
  apply Program.Only.bind
  · apply Program.Only.perform
    exact Or.inl rfl
  · intro found
    exact (readDeviceState_only _ _ _ _).mono fun call => Or.inr

/-- The state that a read returns says what was passed to it. -/
theorem state_of_readDeviceState
    {address : String} {device : Option Device} {visible : Option Bool}
    {pairingAdvertisement : Option Bool}
    {trace : List Step} {state : BluezState}
    (runs : (readDeviceState address device visible pairingAdvertisement).Runs trace
      (.ok state)) :
    ∃ bluetoothctl busctl, state =
      buildState address bluetoothctl busctl device visible pairingAdvertisement := by
  unfold readDeviceState at runs
  rw [Program.runs_bind_ok] at runs
  obtain ⟨_, _, bluetoothctl, _, _, runs⟩ := runs
  rw [Program.runs_bind_ok] at runs
  obtain ⟨_, _, devicePath, _, _, runs⟩ := runs
  cases devicePath with
  | none =>
      obtain ⟨_, state_eq⟩ := Program.runs_done.mp runs
      exact ⟨bluetoothctl, none, Except.ok.inj state_eq⟩
  | some devicePath =>
      dsimp only at runs
      rw [Program.runs_bind_ok] at runs
      obtain ⟨_, _, busctl, _, _, runs⟩ := runs
      obtain ⟨_, state_eq⟩ := Program.runs_done.mp runs
      exact ⟨bluetoothctl, some busctl, Except.ok.inj state_eq⟩

/-- A preflight that returns has scanned and then only read, and its state says what the
scan has found. -/
theorem runs_preflightDevice_ok
    {address : String} {scanTimeout : Nat}
    {trace : List Step} {state : BluezState}
    (runs : (preflightDevice address scanTimeout).Runs trace (.ok state)) :
    ∃ found reads, trace = ⟨.scan address scanTimeout, .ok found⟩ :: reads ∧
      (∀ step ∈ reads, step.call.IsQuery) ∧
        state.visible = found.1.isSome ∧
          state.pairingAdvertisement = isBoschPairingAdvertisement found.2 := by
  obtain ⟨first, reads, found, rfl, scans, reading⟩ := Program.runs_bind_ok.mp runs
  refine ⟨found, reads, ?_, (readDeviceState_only _ _ _ _).of_runs reading, ?_⟩
  · rw [Program.runs_perform.mp scans]
    rfl
  · obtain ⟨bluetoothctl, busctl, rfl⟩ := state_of_readDeviceState reading
    exact ⟨rfl, rfl⟩

end Bluez
end BoschBle
