import BoschBle.Foundation.Dictionary
import BoschBle.Foundation.Integer
import BoschBle.Mgmt.Response

/-!
# Loading connection parameters

The command line of `python -m bosch_ble.mgmt` gives the parameters as seven pairs of
a flag and a value in any order, and the packet for the kernel has them in a fixed
little-endian layout.
-/

namespace BoschBle
namespace Mgmt

open Foundation

/-- The type of a public address. -/
def LE_PUBLIC_ADDRESS : Int := 0x01

/-- The arguments of a load command, with their defaults. -/
structure LoadConnectionParameters where
  address : String
  controllerIndex : Int := 0
  addressType : Int := LE_PUBLIC_ADDRESS
  minInterval : Int := 24
  maxInterval : Int := 24
  latency : Int := 0
  timeout : Int := 72
  deriving DecidableEq

/-! ## The packet -/

/-- One item of `bytes(int(part, 16) for part in parts)`. -/
def octetOf (printable : Char -> Bool) (part : Text) : Except Exn UInt8 := do
  let value <- Integer.intOf printable 16 part
  if 0 ≤ value ∧ value < 256 then
    .ok (UInt8.ofNat value.toNat)
  else
    .error ⟨.valueError, "bytes must be in range(0, 256)"⟩

/-- The octets of an address, the last one first. -/
def bdaddrToBytes (printable : Char -> Bool) (address : String) : Except Exn Bytes :=
  let invalid : Exn := ⟨.valueError, "Invalid Bluetooth address: " ++ address⟩
  let parts := address.toList.splitOn ':'
  if parts.length ≠ 6 then
    .error invalid
  else
    match parts.mapM (octetOf printable) with
    | .error exc => if exc.type = .valueError then .error invalid else .error exc
    | .ok octets => .ok octets.reverse

/-- An unsigned item of `struct.pack` in `width` octets. -/
def packUnsigned (width : Nat) (rangeError : String) (value : Int) : Except Exn Bytes :=
  if value < -(2 ^ 63) ∨ 2 ^ 63 ≤ value then
    .error ⟨.user "struct.error", "argument out of range"⟩
  else if value < 0 ∨ 256 ^ width ≤ value then
    .error ⟨.user "struct.error", rangeError⟩
  else
    .ok (Bytes.littleEndian width value.toNat)

/-- The format `H`. -/
def packH (value : Int) : Except Exn Bytes :=
  packUnsigned 2 "'H' format requires 0 <= number <= 65535" value

/-- The format `B`. -/
def packB (value : Int) : Except Exn Bytes :=
  packUnsigned 1 "ubyte format requires 0 <= number <= 255" value

/-- The format `6s`. -/
def pack6s (data : Bytes) : Bytes :=
  (data ++ List.replicate 6 0).take 6

/-- The packet of a load command. -/
def encodeLoadConnectionParameters
    (printable : Char -> Bool)
    (command : LoadConnectionParameters) : Except Exn Bytes := do
  let octets <- bdaddrToBytes printable command.address
  let count <- packH 1
  let addressType <- packB command.addressType
  let minInterval <- packH command.minInterval
  let maxInterval <- packH command.maxInterval
  let latency <- packH command.latency
  let timeout <- packH command.timeout
  let payload := count ++ pack6s octets ++ addressType ++ minInterval ++ maxInterval ++
    latency ++ timeout
  let opcode <- packH MGMT_OP_LOAD_CONN_PARAM
  let controllerIndex <- packH command.controllerIndex
  let length <- packH payload.length
  .ok (opcode ++ controllerIndex ++ length ++ payload)

/-! ## The command line -/

/-- The text that a wrong command line ends with. -/
def usage : String :=
  "Usage: python -m bosch_ble.mgmt load-conn-params --address <BLE_ADDRESS> " ++
  "--controller-index <index> --address-type <type> --min-interval <units> " ++
  "--max-interval <units> --latency <units> --timeout <units>"

/-- The pairs of a flag and a value that have been read, the last one first, so that
a lookup finds the last value of a flag. -/
abbrev Parsed := List (String × String)

/-- The loop of `parse_args` over the arguments behind the command. -/
def readPairs : Parsed -> List String -> Parsed
  | parsed, flag :: value :: rest => readPairs ((flag, value) :: parsed) rest
  | parsed, _ => parsed

/-- `parsed[flag]`. -/
def Parsed.item (parsed : Parsed) (flag : String) : Except Exn String :=
  match parsed.lookup flag with
  | some value => .ok value
  | none => .error ⟨.user "KeyError", "'" ++ flag ++ "'"⟩

/-- `int(parsed[flag])`. -/
def Parsed.intItem
    (printable : Char -> Bool)
    (parsed : Parsed)
    (flag : String) : Except Exn Int := do
  let value <- parsed.item flag
  Integer.intOf printable 10 value.toList

/-- Read a command line: each of the seven flags with its value, in any order. -/
def parseArgs
    (printable : Char -> Bool)
    (argv : List String) : Except Exn LoadConnectionParameters :=
  if argv.length ≠ 16 ∨ argv[1]? ≠ some "load-conn-params" then
    .error ⟨.user "SystemExit", usage⟩
  else do
    let parsed := readPairs [] (argv.drop 2)
    let address <- parsed.item "--address"
    let controllerIndex <- parsed.intItem printable "--controller-index"
    let addressType <- parsed.intItem printable "--address-type"
    let minInterval <- parsed.intItem printable "--min-interval"
    let maxInterval <- parsed.intItem printable "--max-interval"
    let latency <- parsed.intItem printable "--latency"
    let timeout <- parsed.intItem printable "--timeout"
    .ok { address, controllerIndex, addressType, minInterval, maxInterval, latency, timeout }

/-! ## Reading the command line -/

theorem readPairs_flatMap
    (parsed pairs : Parsed) :
    readPairs parsed (pairs.flatMap fun pair => [pair.1, pair.2]) =
      pairs.reverse ++ parsed := by
  induction pairs generalizing parsed with
  | nil => rfl
  | cons pair pairs inductionHypothesis =>
      rw [List.flatMap_cons, List.cons_append, List.singleton_append, readPairs,
        inductionHypothesis, List.reverse_cons, List.append_assoc]
      rfl

/-- A flag that is given once has its value, wherever it stands. -/
theorem item_of_mem
    {parsed : Parsed} {flag value : String}
    (distinct : (parsed.map Prod.fst).Nodup)
    (present : (flag, value) ∈ parsed) :
    parsed.item flag = .ok value := by
  rw [Parsed.item, Dictionary.lookup_of_mem distinct present]

/-- The number behind a flag. -/
theorem intItem_of_mem
    {printable : Char -> Bool} {parsed : Parsed} {flag : String} {value : Nat}
    (distinct : (parsed.map Prod.fst).Nodup)
    (present : (flag, toString (value : Int)) ∈ parsed)
    (fits : value < 2 ^ 16) :
    parsed.intItem printable flag = .ok (value : Int) := by
  have short : (Nat.toDigits 10 value).length ≤ 4300 := by
    have fiveDigits : (Nat.toDigits 10 value).length ≤ 5 := by
      rw [Nat.length_toDigits_le_iff (by decide) (by decide)]
      exact fits.trans (by decide)
    omega
  have written : (toString (value : Int)).toList = Nat.toDigits 10 value :=
    String.toList_ofList
  rw [Parsed.intItem, item_of_mem distinct present]
  exact (congrArg (Integer.intOf printable 10) written).trans (Integer.intOf_toDigits short)

end Mgmt
end BoschBle
