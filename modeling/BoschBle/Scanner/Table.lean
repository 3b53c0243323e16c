import BoschBle.Bluez.State
import Mathlib.Data.Finset.Sort
import Mathlib.Data.String.Basic
import Mathlib.Data.Prod.Lex
import Mathlib.Order.BooleanAlgebra.Basic

/-!
# The table of the scanner

The rows that `scan.py` shows of the devices it has seen, and the file of the addresses
that it ignores.  A time is a number of microseconds.
-/

namespace BoschBle
namespace Scanner

open Foundation

/-! ## Ignored addresses -/

/-- What `json.loads` returns. -/
inductive Json
  | null
  | bool (value : Bool)
  | number (text : String)
  | string (text : String)
  | array (items : List Json)
  | object (members : List (String × Json))

/-- The functions of `json`.  A text is written with `indent=2`. -/
structure JsonCodec where
  loads : String -> Except Exn Json
  dumps : Json -> String

/-- What reading a file gives, if the file exists. -/
abbrev Content := Option (Except Exn String)

/-- The exceptions that `load_ignored_addresses` catches. -/
def isLoadError (type : ExnType) : Bool :=
  type.isOsError || type = .user "JSONDecodeError"

/-- The text of a value that is one. -/
def Json.asString : Json -> Option String
  | .string text => some text
  | _ => none

/-- The addresses in a file; a file that is missing, cannot be read or holds no list has
none. -/
def loadIgnoredAddresses (codec : JsonCodec) : Content -> Except Exn (Finset String)
  | none => .ok ∅
  | some content =>
      match content.bind codec.loads with
      | .ok (.array items) =>
          .ok ((items.filterMap Json.asString).map Bluez.normalizeAddress).toFinset
      | .ok _ => .ok ∅
      | .error exc => if isLoadError exc.type then .ok ∅ else .error exc

/-- The text that `save_ignored_addresses` writes. -/
def saveIgnoredAddresses (codec : JsonCodec) (addresses : Finset String) : String :=
  let normalized := (addresses.val.map Bluez.normalizeAddress).sort
  codec.dumps (.array (normalized.map .string)) ++ "\n"

/-- All visible addresses become ignored, or none of them where all are. -/
def toggleVisibleIgnored
    (ignoredAddresses : Finset String)
    (visibleAddresses : List String) : Finset String :=
  let normalizedVisible := (visibleAddresses.map Bluez.normalizeAddress).toFinset
  let updated := ignoredAddresses.image Bluez.normalizeAddress
  if normalizedVisible = ∅ then updated
  else if normalizedVisible ⊆ updated then updated \ normalizedVisible
  else updated ∪ normalizedVisible

/-! ## Rows -/

/-- What is known of a device that was seen. -/
structure SeenDevice where
  name : Option String
  lastSeen : Int
  count : Nat
  rssi : Option Int
  uuids : List String
  manufacturerData : List (Nat × Bytes)
  serviceData : List (String × Bytes)

/-- A row of the table, with what it is sorted by. -/
structure TableRow where
  name : String
  address : String
  rssi : String
  seen : String
  ignored : Bool
  /-- `age_seconds`, in microseconds. -/
  age : Nat
  sortName : String
  sortAddress : String
  sortRssi : Option Int

/-- What the table is sorted by. -/
inductive SortMode
  | recent
  | rssi
  | name
  | address
  deriving DecidableEq

/-- The mode behind a press of the key. -/
def SortMode.next : SortMode -> SortMode
  | .recent => .rssi
  | .rssi => .name
  | .name => .address
  | .address => .recent

/-- After how many seconds a device is stale. -/
def STALE_AFTER_SECONDS : Nat := 30

/-- The row of a device.  Case folding is that of the Python version. -/
def rowOf
    (casefold : String -> String)
    (now : Int)
    (ignoredLookup : Finset String)
    (address : String)
    (device : SeenDevice) : TableRow :=
  let name := device.name.getD ""
  { name := if name = "" then "-" else name
    address := address
    rssi := (device.rssi.map toString).getD "-"
    seen := toString device.count
    ignored := Bluez.normalizeAddress address ∈ ignoredLookup
    age := (now - device.lastSeen).toNat
    sortName := casefold name
    sortAddress := casefold address
    sortRssi := device.rssi }

/-- The device has not been seen for some time. -/
def isStale (now : Int) (device : SeenDevice) : Bool :=
  STALE_AFTER_SECONDS * 1000000 < (now - device.lastSeen).toNat

/-- The key of the mode `recent`. -/
def recentKey (row : TableRow) : Nat ×ₗ String ×ₗ String :=
  toLex (row.age, toLex (row.sortName, row.address))

/-- The key of the mode `rssi`: rows without a strength are last. -/
def rssiKey (row : TableRow) : Bool ×ₗ Int ×ₗ Nat ×ₗ String ×ₗ String :=
  toLex (row.sortRssi.isNone, toLex (-(row.sortRssi.getD (-10000)),
    toLex (row.age, toLex (row.sortName, row.address))))

/-- The key of the mode `name`: rows without a name are last. -/
def nameKey (row : TableRow) : Bool ×ₗ String ×ₗ Nat ×ₗ String :=
  toLex (row.name = "-", toLex (row.sortName, toLex (row.age, row.sortAddress)))

/-- The key of the mode `address`. -/
def addressKey (row : TableRow) : String ×ₗ Nat ×ₗ String :=
  toLex (row.sortAddress, toLex (row.age, row.sortName))

/-- `rows.sort(key=...)`. -/
def sortRows (sortMode : SortMode) (rows : List TableRow) : List TableRow :=
  match sortMode with
  | .recent => rows.mergeSort fun left right => recentKey left ≤ recentKey right
  | .rssi => rows.mergeSort fun left right => rssiKey left ≤ rssiKey right
  | .name => rows.mergeSort fun left right => nameKey left ≤ nameKey right
  | .address => rows.mergeSort fun left right => addressKey left ≤ addressKey right

/-- The rows of the devices that are not hidden, in the order of the mode. -/
def buildTableRows
    (casefold : String -> String)
    (devices : List (String × SeenDevice))
    (now : Int)
    (sortMode : SortMode)
    (hideStale hideIgnored : Bool)
    (ignoredAddresses : Finset String) : List TableRow :=
  let ignoredLookup := ignoredAddresses.image Bluez.normalizeAddress
  let rows := devices.filterMap fun entry =>
    if hideStale && isStale now entry.2 then none
    else if hideIgnored && Bluez.normalizeAddress entry.1 ∈ ignoredLookup then none
    else some (rowOf casefold now ignoredLookup entry.1 entry.2)
  sortRows sortMode rows

/-! ## What is shown -/

@[simp] theorem normalizeAddress_normalizeAddress (address : String) :
    Bluez.normalizeAddress (Bluez.normalizeAddress address) =
      Bluez.normalizeAddress address := by
  rw [Bluez.normalizeAddress, Bluez.normalizeAddress, String.toList_ofList,
    Text.upper_upper]

theorem mem_sortRows
    {sortMode : SortMode} {rows : List TableRow} {row : TableRow} :
    row ∈ sortRows sortMode rows ↔ row ∈ rows := by
  cases sortMode with
  | recent => exact List.mem_mergeSort
  | rssi => exact List.mem_mergeSort
  | name => exact List.mem_mergeSort
  | address => exact List.mem_mergeSort

/-- The rows of the table are those of the devices that are not hidden. -/
theorem mem_buildTableRows
    {casefold : String -> String} {devices : List (String × SeenDevice)} {now : Int}
    {sortMode : SortMode} {hideStale hideIgnored : Bool} {ignoredAddresses : Finset String}
    {row : TableRow} :
    row ∈ buildTableRows casefold devices now sortMode hideStale hideIgnored
        ignoredAddresses ↔
      ∃ entry ∈ devices, ¬(hideStale = true ∧ isStale now entry.2 = true) ∧
        ¬(hideIgnored = true ∧ Bluez.normalizeAddress entry.1 ∈
            ignoredAddresses.image Bluez.normalizeAddress) ∧
          rowOf casefold now (ignoredAddresses.image Bluez.normalizeAddress) entry.1
            entry.2 = row := by
  rw [buildTableRows, mem_sortRows, List.mem_filterMap]
  refine exists_congr fun entry => and_congr_right fun _ => ?_
  by_cases stale : hideStale = true ∧ isStale now entry.2 = true
  case pos =>
    rw [if_pos (by rw [stale.1, stale.2]; rfl)]
    exact ⟨nofun, fun shown => absurd stale shown.1⟩
  case neg =>
    rw [if_neg (by rwa [Bool.and_eq_true])]
    by_cases ignored : hideIgnored = true ∧ Bluez.normalizeAddress entry.1 ∈
        ignoredAddresses.image Bluez.normalizeAddress
    case pos =>
      rw [if_pos (by rw [Bool.and_eq_true, decide_eq_true_eq]; exact ignored)]
      exact ⟨nofun, fun shown => absurd ignored shown.2.1⟩
    case neg =>
      rw [if_neg (by rw [Bool.and_eq_true, decide_eq_true_eq]; exact ignored),
        Option.some.injEq]
      exact ⟨fun same => ⟨stale, ignored, same⟩, fun shown => shown.2.2⟩

end Scanner
end BoschBle
