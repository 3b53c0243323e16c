import BoschBle.Foundation.Bytes
import BoschBle.Foundation.Effect
import BoschBle.Foundation.Text

/-!
# Device states

What `bluez.py` knows about a device: what a scan has found, what the output of
`bluetoothctl` and `busctl` says, and the checks that it makes on both.
-/

namespace BoschBle
namespace Bluez

open Foundation

/-- The manufacturer that a bike advertises. -/
def BOSCH_MANUFACTURER_ID : Nat := 0x02A6

/-- The address in the letter case that addresses are compared in. -/
def normalizeAddress (address : String) : String :=
  String.ofList (Text.upper address.toList)

/-! ## What a scan delivers -/

/-- A device as a scan delivers it.  The address is absent where the attribute
is not a string. -/
structure Device where
  address : Option String
  name : Option String
  /-- The D-Bus path, for a device that was found over D-Bus. -/
  path : Option String
  deriving DecidableEq

/-- The advertisement data of a callback: payloads by company. -/
structure AdvertisementData where
  manufacturerData : Option (List (Nat × Bytes))
  deriving DecidableEq

/-- The pairable field of a Bosch advertisement. -/
def isBoschPairingAdvertisement : Option AdvertisementData -> Option Bool
  | none => none
  | some advertisementData =>
      let manufacturerData := advertisementData.manufacturerData.getD []
      match manufacturerData.lookup BOSCH_MANUFACTURER_ID with
      | none => some false
      | some payload =>
          if payload.length ≠ 6 then some false
          else some (payload[5]? == some 1)

/-! ## What the tools print -/

/-- A finished process. -/
structure CompletedProcess where
  args : List String
  returncode : Int
  stdout : String
  stderr : String
  deriving DecidableEq

/-- The value of a flag in lower case. -/
def flagValue (value : Text) : Option Bool :=
  if value = "yes".toList ∨ value = "true".toList then some true
  else if value = "no".toList ∨ value = "false".toList then some false
  else none

/-- The value behind the colon of a line `key: value`. -/
def colonFlag (key line : Text) : Option Bool :=
  if (key ++ [':']).isPrefixOf (Text.lower line) then
    let value := (line.dropWhile fun char => char ≠ ':').drop 1
    flagValue (Text.lower (Text.strip value))
  else none

/-- The last value behind the key in a line of columns. -/
def columnFlag (key line : Text) : Option Bool :=
  let parts := (Text.splitWords line).map fun part =>
    let bare := ((Text.strip part).dropWhile fun char => char = '.').rdropWhile
      fun char => char = ':'
    Text.lower bare
  if key ∈ parts then
    (parts.drop (parts.idxOf key + 1)).reverse.findSome? fun part =>
      flagValue (Text.lower (Text.strip part))
  else none

/-- What the first line says that says anything about the flag. -/
def parseFlag (text : String) (key : String) : Option Bool :=
  let keyLower := Text.lower key.toList
  (Text.splitLines text.toList).findSome? fun line =>
    let normalized := Text.strip line
    if normalized = [] then none
    else (colonFlag keyLower normalized).or (columnFlag keyLower normalized)

/-- The last line of what a failed process printed. -/
def summarizeFailure (result : CompletedProcess) : String :=
  let candidates := [result.stderr, result.stdout].filterMap fun line =>
    let stripped := Text.strip line.toList
    if stripped = [] then none else some stripped
  match candidates with
  | [] => "exit code " ++ toString result.returncode
  | candidate :: _ =>
      String.ofList ((Text.splitLines candidate).getLastD [])

/-- The outputs of a process that are not empty, joined and in lower case. -/
def joinedOutput (parts : List String) : Text :=
  Text.lower ("\n".toList.intercalate
    ((parts.map String.toList).filter fun part => part ≠ []))

/-- The pairing failed in a way that may pass. -/
def isTransientPairFailure (result : CompletedProcess) : Bool :=
  let text := joinedOutput [result.stderr, result.stdout]
  ["page timeout", "connect failed", "connection failed to be established",
    "le-connection-abort-by-local"].any fun marker =>
      Text.contains marker.toList text

/-- BlueZ does not know the device. -/
def isDeviceUnavailable (result : CompletedProcess) : Bool :=
  Text.contains "not available".toList (joinedOutput [result.stdout, result.stderr])

/-! ## States -/

/-- What is known about a device. -/
structure BluezState where
  address : String
  visible : Bool
  device : Option Device
  name : Option String
  paired : Option Bool
  trusted : Option Bool
  connected : Option Bool
  servicesResolved : Option Bool
  bluetoothctl : CompletedProcess
  busctl : Option CompletedProcess
  pairingAdvertisement : Option Bool
  deriving DecidableEq

/-- Whether the services are resolved: what `bluetoothctl` prints comes before `busctl`. -/
def resolveServicesState (bluetoothctlText busctlText : String) : Option Bool :=
  (parseFlag bluetoothctlText "ServicesResolved").or
    (parseFlag busctlText "ServicesResolved")

/-- Both outputs of a process. -/
def outputText (result : CompletedProcess) : String :=
  result.stdout ++ "\n" ++ result.stderr

/-- The state of a device from what the tools have printed and the scan has found. -/
def buildState
    (address : String)
    (bluetoothctl : CompletedProcess)
    (busctl : Option CompletedProcess)
    (device : Option Device)
    (visible : Option Bool)
    (pairingAdvertisement : Option Bool) : BluezState :=
  let bluetoothctlText := outputText bluetoothctl
  let busctlText := (busctl.map outputText).getD ""
  { address := address
    visible := visible.getD device.isSome
    device := device
    name := device.bind Device.name
    paired := parseFlag bluetoothctlText "Paired"
    trusted := parseFlag bluetoothctlText "Trusted"
    connected := parseFlag bluetoothctlText "Connected"
    servicesResolved := resolveServicesState bluetoothctlText busctlText
    bluetoothctl := bluetoothctl
    busctl := busctl
    pairingAdvertisement := pairingAdvertisement }

/-! ## Failures -/

/-- In which ways a bike is not ready. -/
inductive BikeReadiness
  | invisible
  | notPairing
  deriving DecidableEq

/-- What the error says of the bike. -/
def BikeReadiness.detail : BikeReadiness -> String
  | .invisible => "not visible to BlueZ; wake the bike and retry"
  | .notPairing => "visible but not in Bosch pairing advertisement mode"

/-- The error for a bike that is not ready. -/
def bikeStateError (state : BikeReadiness) (address : String) : Exn :=
  ⟨.user "BikeStateError", address ++ " is " ++ state.detail ++ "."⟩

/-- The bike is visible, and paired unless it may be in pairing mode. -/
def assertPairingAdvertisementReady (state : BluezState) (address : String) :
    Except Exn Unit :=
  if state.visible ≠ true then
    throw (bikeStateError .invisible address)
  else if state.paired = some true then
    return ()
  else if state.pairingAdvertisement = some false then
    throw (bikeStateError .notPairing address)
  else
    return ()

/-- The readiness that a connection attempt asks for. -/
def Ready (state : BluezState) : Prop :=
  state.visible = true ∧
    (state.paired = some true ∨ state.pairingAdvertisement ≠ some false)

theorem assertPairingAdvertisementReady_ok_iff
    {state : BluezState} {address : String} :
    assertPairingAdvertisementReady state address = .ok () ↔ Ready state := by
  unfold assertPairingAdvertisementReady Ready
  by_cases visible : state.visible = true
  · by_cases paired : state.paired = some true
    · simp [visible, paired, pure, Except.pure]
    · by_cases notPairing : state.pairingAdvertisement = some false
      · simp [visible, paired, notPairing, throw, throwThe, MonadExceptOf.throw]
      · simp [visible, paired, notPairing, pure, Except.pure]
  · simp [visible, throw, throwThe, MonadExceptOf.throw]

/-- An advertisement that is there is pairing-ready or not. -/
theorem isBoschPairingAdvertisement_ne_none (advertisementData : AdvertisementData) :
    isBoschPairingAdvertisement (some advertisementData) ≠ none := by
  rw [isBoschPairingAdvertisement]
  split
  · simp
  · split <;> simp

end Bluez
end BoschBle
