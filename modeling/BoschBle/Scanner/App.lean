import BoschBle.Foundation.Dictionary
import BoschBle.Scanner.Table

/-!
# The scanner

The state of `ScannerApp` and its events.  Whatever the user does, the ignored addresses
are normalized and the file holds them, and what is shown behind a refresh agrees with
them.
-/

namespace BoschBle
namespace Scanner

open Foundation

/-- The application with the rows of its table and with the file of the ignored
addresses. -/
structure ScannerApp where
  sortMode : SortMode
  hideStale : Bool
  hideIgnored : Bool
  selectedAddress : Option String
  visibleAddresses : List String
  ignoredAddresses : Finset String
  devices : List (String × SeenDevice)
  table : List TableRow
  ignoreStore : Content

/-- A device in a callback of the scanner, and its advertisement. -/
structure Detection where
  /-- Absent where the device has no such attribute. -/
  address : Option String
  name : Option String
  localName : Option String
  rssi : Option Int
  serviceUuids : List String
  manufacturerData : List (Nat × Bytes)
  serviceData : List (String × Bytes)

/-- What happens to the scanner: a device is detected, the timer fires, a key is pressed or
a row is highlighted. -/
inductive Event
  | detection (device : Detection) (now : Int)
  | refresh (now : Int)
  | cycleSort (now : Int)
  | toggleStale (now : Int)
  | toggleHideIgnored (now : Int)
  | toggleIgnoreSelected (now : Int)
  | toggleIgnoreVisible (now : Int)
  | rowHighlighted (rowKey : String)

/-- The first text that is there and not empty. -/
def firstText : List (Option String) -> Option String
  | [] => none
  | text :: rest => if text.getD "" = "" then firstText rest else text

namespace ScannerApp

/-- `__init__`. -/
def init (codec : JsonCodec) (ignoreStore : Content) : Except Exn ScannerApp := do
  let ignoredAddresses <- loadIgnoredAddresses codec ignoreStore
  return {
    sortMode := .address
    hideStale := false
    hideIgnored := false
    selectedAddress := none
    visibleAddresses := []
    ignoredAddresses := ignoredAddresses
    devices := []
    table := []
    ignoreStore := ignoreStore }

/-- Enter a detection: a name stays where the advertisement has none. -/
def detectionCallback (app : ScannerApp) (device : Detection) (now : Int) : ScannerApp :=
  let address := device.address.getD "unknown"
  let entry := (app.devices.lookup address).getD ⟨none, now, 0, none, [], [], []⟩
  { app with
    devices := Dictionary.setItem app.devices address {
      name :=
        (firstText [device.name, device.localName]).or entry.name
      lastSeen := now
      count := entry.count + 1
      rssi := device.rssi
      uuids := device.serviceUuids.mergeSort
      manufacturerData := device.manufacturerData
      serviceData := device.serviceData } }

variable (codec : JsonCodec) (casefold : String -> String)

/-- Build the table again and keep the selection where its row is still there. -/
def refreshView (app : ScannerApp) (now : Int) : ScannerApp :=
  let rows := buildTableRows casefold app.devices now app.sortMode app.hideStale
    app.hideIgnored app.ignoredAddresses
  let visibleAddresses := rows.map TableRow.address
  { app with
    table := rows
    visibleAddresses := visibleAddresses
    selectedAddress :=
      if (app.selectedAddress.any fun address => address ∈ visibleAddresses) = true then
        app.selectedAddress
      else visibleAddresses.head? }

/-- The addresses are set and written to the file. -/
def setIgnored (app : ScannerApp) (ignoredAddresses : Finset String) : ScannerApp :=
  { app with
    ignoredAddresses := ignoredAddresses
    ignoreStore := some (.ok (saveIgnoredAddresses codec ignoredAddresses)) }

/-- Ignore the selected device, or ignore it no more. -/
def toggleIgnoreSelected (app : ScannerApp) (now : Int) : ScannerApp :=
  match app.selectedAddress with
  | none => app
  | some selectedAddress =>
      let normalized := Bluez.normalizeAddress selectedAddress
      let ignoredAddresses :=
        if normalized ∈ app.ignoredAddresses then app.ignoredAddresses.erase normalized
        else insert normalized app.ignoredAddresses
      (app.setIgnored codec ignoredAddresses).refreshView casefold now

/-- Ignore all visible devices, or none of them where all are ignored. -/
def toggleIgnoreVisible (app : ScannerApp) (now : Int) : ScannerApp :=
  (app.setIgnored codec
    (toggleVisibleIgnored app.ignoredAddresses app.visibleAddresses)).refreshView casefold now

/-- The state behind an event. -/
def step (app : ScannerApp) : Event -> ScannerApp
  | .detection device now => app.detectionCallback device now
  | .refresh now => app.refreshView casefold now
  | .cycleSort now =>
      ({ app with sortMode := app.sortMode.next } : ScannerApp).refreshView casefold now
  | .toggleStale now =>
      ({ app with hideStale := !app.hideStale } : ScannerApp).refreshView casefold now
  | .toggleHideIgnored now =>
      ({ app with hideIgnored := !app.hideIgnored } : ScannerApp).refreshView casefold now
  | .toggleIgnoreSelected now => app.toggleIgnoreSelected codec casefold now
  | .toggleIgnoreVisible now => app.toggleIgnoreVisible codec casefold now
  | .rowHighlighted rowKey => { app with selectedAddress := some rowKey }

/-- The state behind a list of events. -/
def run (app : ScannerApp) (events : List Event) : ScannerApp :=
  events.foldl (step codec casefold) app

/-- The time at which an event refreshes the view, if it does. -/
def refreshTime (app : ScannerApp) : Event -> Option Int
  | .detection _ _ | .rowHighlighted _ => none
  | .toggleIgnoreSelected now => app.selectedAddress.map fun _ => now
  | .refresh now | .cycleSort now | .toggleStale now | .toggleHideIgnored now
  | .toggleIgnoreVisible now => some now

/-! ## What holds in every state -/

/-- What is written to the file can be read again. -/
def RoundTrips (codec : JsonCodec) : Prop :=
  ∀ texts : List String, codec.loads (codec.dumps (.array (texts.map .string)) ++ "\n") =
    .ok (.array (texts.map .string))

/-- The invariant of a run: the ignored addresses are normalized, the file holds them, and
no device is listed twice. -/
structure Consistent (app : ScannerApp) : Prop where
  normalized : ∀ address ∈ app.ignoredAddresses, Bluez.normalizeAddress address = address
  stored : loadIgnoredAddresses codec app.ignoreStore = .ok app.ignoredAddresses
  distinct : (app.devices.map Prod.fst).Nodup

/-- The table shows the devices that are not hidden, the ignored ones as such. -/
structure Displays (app : ScannerApp) (now : Int) : Prop where
  shown : ∀ address device, (address, device) ∈ app.devices ->
    ((∃ row ∈ app.table, row.address = address) ↔
      ¬(app.hideStale = true ∧ isStale now device = true) ∧
        ¬(app.hideIgnored = true ∧ Bluez.normalizeAddress address ∈ app.ignoredAddresses))
  known : ∀ row ∈ app.table, row.address ∈ app.devices.map Prod.fst
  ignored : ∀ row ∈ app.table,
    (row.ignored = true ↔ Bluez.normalizeAddress row.address ∈ app.ignoredAddresses)

variable {codec casefold}

theorem image_of_normalized
    {addresses : Finset String}
    (normalized : ∀ address ∈ addresses, Bluez.normalizeAddress address = address) :
    addresses.image Bluez.normalizeAddress = addresses := by
  ext address
  rw [Finset.mem_image]
  constructor
  · rintro ⟨other, isIn, rfl⟩
    rwa [normalized other isIn]
  · intro isIn
    exact ⟨address, isIn, normalized address isIn⟩

theorem filterMap_asString (texts : List String) :
    (texts.map Json.string).filterMap Json.asString = texts := by
  rw [List.filterMap_map]
  exact List.filterMap_some

/-- Normalized addresses are read as they were written. -/
theorem load_save
    (roundTrips : RoundTrips codec)
    {addresses : Finset String}
    (normalized : ∀ address ∈ addresses, Bluez.normalizeAddress address = address) :
    loadIgnoredAddresses codec (some (.ok (saveIgnoredAddresses codec addresses))) =
      .ok addresses := by
  have sameNormalized : addresses.val.map Bluez.normalizeAddress = addresses.val := by
    rw [Multiset.map_congr rfl normalized, Multiset.map_id']
  have readBack : Except.bind (.ok (saveIgnoredAddresses codec addresses)) codec.loads =
      .ok (.array (addresses.sort.map .string)) := by
    rw [saveIgnoredAddresses, sameNormalized]
    exact roundTrips addresses.sort
  rw [loadIgnoredAddresses, readBack]
  dsimp only
  have sameSorted : addresses.sort.map Bluez.normalizeAddress = addresses.sort := by
    refine List.map_congr_left ?_ |>.trans (List.map_id _)
    intro address isIn
    exact normalized address ((Finset.mem_sort _).mp isIn)
  rw [filterMap_asString, sameSorted, Finset.sort_toFinset]

theorem normalized_of_load
    {content : Content} {addresses : Finset String}
    (loaded : loadIgnoredAddresses codec content = .ok addresses) :
    ∀ address ∈ addresses, Bluez.normalizeAddress address = address := by
  rw [loadIgnoredAddresses.eq_def] at loaded
  split at loaded
  case h_1 =>
    cases loaded
    exact fun address impossible => absurd impossible (Finset.notMem_empty address)
  case h_2 content =>
    split at loaded
    case h_1 items _ =>
      cases loaded
      intro address isIn
      rw [List.mem_toFinset, List.mem_map] at isIn
      obtain ⟨other, _, rfl⟩ := isIn
      exact normalizeAddress_normalizeAddress other
    case h_2 =>
      cases loaded
      exact fun address impossible => absurd impossible (Finset.notMem_empty address)
    case h_3 =>
      split at loaded
      case isTrue =>
        cases loaded
        exact fun address impossible => absurd impossible (Finset.notMem_empty address)
      case isFalse => cases loaded

theorem normalized_toggleVisibleIgnored
    (addresses : Finset String)
    (visible : List String) :
    ∀ address ∈ toggleVisibleIgnored addresses visible,
      Bluez.normalizeAddress address = address := by
  have images : ∀ address ∈ addresses.image Bluez.normalizeAddress,
      Bluez.normalizeAddress address = address := by
    intro address isIn
    obtain ⟨other, _, rfl⟩ := Finset.mem_image.mp isIn
    exact normalizeAddress_normalizeAddress other
  intro address isIn
  rw [toggleVisibleIgnored] at isIn
  split at isIn
  case isTrue => exact images address isIn
  case isFalse =>
    split at isIn
    case isTrue => exact images address (Finset.mem_sdiff.mp isIn).1
    case isFalse =>
      obtain isOld | isVisible := Finset.mem_union.mp isIn
      · exact images address isOld
      · rw [List.mem_toFinset, List.mem_map] at isVisible
        obtain ⟨other, _, rfl⟩ := isVisible
        exact normalizeAddress_normalizeAddress other

/-! ## Steps -/

theorem Consistent.setIgnored
    (roundTrips : RoundTrips codec)
    {app : ScannerApp} {addresses : Finset String}
    (consistent : Consistent codec app)
    (normalized : ∀ address ∈ addresses, Bluez.normalizeAddress address = address) :
    Consistent codec (app.setIgnored codec addresses) :=
  ⟨normalized, load_save roundTrips normalized, consistent.distinct⟩

theorem Consistent.refreshView
    {app : ScannerApp}
    (consistent : Consistent codec app)
    (now : Int) :
    Consistent codec (app.refreshView casefold now) :=
  ⟨consistent.normalized, consistent.stored, consistent.distinct⟩

/-- What a refresh shows. -/
theorem Consistent.displays
    {app : ScannerApp}
    (consistent : Consistent codec app)
    (now : Int) :
    (app.refreshView casefold now).Displays now := by
  have sameIgnored : app.ignoredAddresses.image Bluez.normalizeAddress =
      app.ignoredAddresses := image_of_normalized consistent.normalized
  have isRow (row : TableRow) : row ∈ (app.refreshView casefold now).table ↔ _ :=
    mem_buildTableRows
  rw [sameIgnored] at isRow
  constructor
  · intro address device isDevice
    constructor
    · rintro ⟨row, inTable, rfl⟩
      obtain ⟨entry, isEntry, notStale, notIgnored, rfl⟩ := (isRow row).mp inTable
      have sameDevice : some entry.2 = some device :=
        (Dictionary.lookup_of_mem consistent.distinct isEntry).symm.trans
          (Dictionary.lookup_of_mem consistent.distinct isDevice)
      cases sameDevice
      exact ⟨notStale, notIgnored⟩
    · rintro ⟨notStale, notIgnored⟩
      refine ⟨_, (isRow _).mpr ⟨(address, device), isDevice, notStale, notIgnored, rfl⟩, rfl⟩
  · intro row inTable
    obtain ⟨entry, isEntry, _, _, rfl⟩ := (isRow row).mp inTable
    exact List.mem_map_of_mem isEntry
  · intro row inTable
    obtain ⟨entry, _, _, _, rfl⟩ := (isRow row).mp inTable
    exact decide_eq_true_iff

/-- Every event that refreshes the view has changed the state before. -/
theorem Consistent.exists_refreshView
    (roundTrips : RoundTrips codec)
    {app : ScannerApp} {event : Event} {now : Int}
    (consistent : Consistent codec app)
    (refreshes : app.refreshTime event = some now) :
    ∃ changed, Consistent codec changed ∧
      app.step codec casefold event = changed.refreshView casefold now := by
  cases event with
  | detection device time => cases refreshes
  | rowHighlighted rowKey => cases refreshes
  | refresh time =>
      cases refreshes
      exact ⟨app, consistent, rfl⟩
  | cycleSort time =>
      cases refreshes
      exact ⟨{ app with sortMode := app.sortMode.next },
        ⟨consistent.normalized, consistent.stored, consistent.distinct⟩, rfl⟩
  | toggleStale time =>
      cases refreshes
      exact ⟨{ app with hideStale := !app.hideStale },
        ⟨consistent.normalized, consistent.stored, consistent.distinct⟩, rfl⟩
  | toggleHideIgnored time =>
      cases refreshes
      exact ⟨{ app with hideIgnored := !app.hideIgnored },
        ⟨consistent.normalized, consistent.stored, consistent.distinct⟩, rfl⟩
  | toggleIgnoreVisible time =>
      cases refreshes
      exact ⟨_, consistent.setIgnored roundTrips (normalized_toggleVisibleIgnored _ _), rfl⟩
  | toggleIgnoreSelected time =>
      cases selected : app.selectedAddress with
      | none =>
          rw [refreshTime, selected] at refreshes
          cases refreshes
      | some selectedAddress =>
          rw [refreshTime, selected] at refreshes
          cases refreshes
          rw [ScannerApp.step, toggleIgnoreSelected, selected]
          refine ⟨_, consistent.setIgnored roundTrips ?_, rfl⟩
          intro address isIn
          split at isIn
          case isTrue => exact consistent.normalized address (Finset.mem_of_mem_erase isIn)
          case isFalse =>
            obtain rfl | isOld := Finset.mem_insert.mp isIn
            · exact normalizeAddress_normalizeAddress selectedAddress
            · exact consistent.normalized address isOld

theorem Consistent.step
    (roundTrips : RoundTrips codec)
    {app : ScannerApp}
    (consistent : Consistent codec app)
    (event : Event) :
    Consistent codec (app.step codec casefold event) := by
  cases refreshes : app.refreshTime event with
  | some now =>
      obtain ⟨changed, changedConsistent, step_eq⟩ :=
        consistent.exists_refreshView roundTrips refreshes
      rw [step_eq]
      exact ⟨changedConsistent.normalized, changedConsistent.stored,
        changedConsistent.distinct⟩
  | none =>
      cases event with
      | detection device now =>
          exact ⟨consistent.normalized, consistent.stored,
            Dictionary.nodup_setItem consistent.distinct _ _⟩
      | rowHighlighted rowKey =>
          exact ⟨consistent.normalized, consistent.stored, consistent.distinct⟩
      | toggleIgnoreSelected now =>
          cases selected : app.selectedAddress with
          | none =>
              rw [ScannerApp.step, toggleIgnoreSelected, selected]
              exact consistent
          | some selectedAddress =>
              rw [refreshTime, selected] at refreshes
              cases refreshes
      | refresh now => cases refreshes
      | cycleSort now => cases refreshes
      | toggleStale now => cases refreshes
      | toggleHideIgnored now => cases refreshes
      | toggleIgnoreVisible now => cases refreshes

theorem Consistent.run
    (roundTrips : RoundTrips codec)
    {app : ScannerApp}
    (consistent : Consistent codec app)
    (events : List Event) :
    Consistent codec (app.run codec casefold events) := by
  induction events generalizing app with
  | nil => exact consistent
  | cons event events inductionHypothesis =>
      exact inductionHypothesis (consistent.step roundTrips event)

theorem consistent_init
    {ignoreStore : Content} {app : ScannerApp}
    (loadable : init codec ignoreStore = .ok app) :
    Consistent codec app := by
  rw [init] at loadable
  cases loaded : loadIgnoredAddresses codec ignoreStore with
  | error exc =>
      rw [loaded] at loadable
      cases loadable
  | ok addresses =>
      rw [loaded] at loadable
      cases loadable
      exact ⟨normalized_of_load loaded, loaded, List.nodup_nil⟩

/-! ## Lists of strings

Lists of strings as `json` writes and reads them, for texts of printable ASCII
characters. -/

/-- A character within quotes. -/
def escape (char : Char) : List Char :=
  if char = '"' ∨ char = '\\' then ['\\', char] else [char]

/-- A text in quotes. -/
def quote (text : String) : List Char :=
  '"' :: (text.toList.flatMap escape ++ ['"'])

/-- The texts of a list, a line each. -/
def quoteAll : List String -> List Char
  | [] => []
  | [text] => quote text
  | text :: texts => quote text ++ ",\n  ".toList ++ quoteAll texts

/-- A list of texts, indented. -/
def dumpsTexts (texts : List String) : List Char :=
  if texts = [] then "[]".toList else "[\n  ".toList ++ quoteAll texts ++ "\n]".toList

/-- The strings of a text, behind the beginning of one that is being read. -/
def stringsFrom : Option (List Char) -> List Char -> List String
  | _, [] => []
  | none, char :: rest =>
      if char = '"' then stringsFrom (some []) rest else stringsFrom none rest
  | some read, '\\' :: char :: rest => stringsFrom (some (read ++ [char])) rest
  | some read, char :: rest =>
      if char = '"' then String.ofList read :: stringsFrom none rest
      else stringsFrom (some (read ++ [char])) rest

/-- A codec for lists of texts. -/
def textsCodec : JsonCodec where
  loads text := .ok (.array ((stringsFrom none text.toList).map .string))
  dumps
    | .array items => String.ofList (dumpsTexts (items.filterMap Json.asString))
    | _ => ""

theorem stringsFrom_escape
    (text read rest : List Char) :
    stringsFrom (some read) (text.flatMap escape ++ '"' :: rest) =
      String.ofList (read ++ text) :: stringsFrom none rest := by
  induction text generalizing read with
  | nil =>
      rw [List.flatMap_nil, List.nil_append, List.append_nil, stringsFrom, if_pos rfl]
      intro char tail impossible
      cases impossible
  | cons char text inductionHypothesis =>
      rw [List.flatMap_cons, escape]
      split
      case isTrue =>
        rw [List.append_assoc, List.cons_append, List.singleton_append, stringsFrom,
          inductionHypothesis, List.append_assoc, List.singleton_append]
      case isFalse plain =>
        rw [not_or] at plain
        rw [List.append_assoc, List.singleton_append, stringsFrom, if_neg plain.1,
          inductionHypothesis, List.append_assoc, List.singleton_append]
        rintro other tail ⟨⟩
        exact absurd rfl plain.2

theorem stringsFrom_quoteAll
    (texts : List String)
    {rest : List Char}
    (noString : stringsFrom none rest = []) :
    stringsFrom none (quoteAll texts ++ rest) = texts := by
  have first (text : String) (rest : List Char) :
      stringsFrom none (quote text ++ rest) = text :: stringsFrom none rest := by
    rw [quote, List.cons_append, List.append_assoc, List.singleton_append, stringsFrom,
      if_pos rfl, stringsFrom_escape, List.nil_append, String.ofList_toList]
  induction texts with
  | nil => exact noString
  | cons text texts inductionHypothesis =>
      cases texts with
      | nil => rw [quoteAll, first, noString]
      | cons next texts =>
          rw [quoteAll, List.append_assoc, List.append_assoc, first]
          exact congrArg (text :: ·) inductionHypothesis
          nofun

theorem roundTrips_textsCodec : RoundTrips textsCodec := by
  intro texts
  have sameTexts : stringsFrom none (dumpsTexts texts ++ "\n".toList) = texts := by
    rw [dumpsTexts]
    split
    case isTrue isEmpty =>
      rw [isEmpty]
      decide
    case isFalse =>
      rw [List.append_assoc, List.append_assoc]
      exact stringsFrom_quoteAll texts (by decide)
  change Except.ok (Json.array ((stringsFrom none (String.ofList (dumpsTexts
    ((texts.map Json.string).filterMap Json.asString)) ++ "\n").toList).map _)) = _
  rw [filterMap_asString, String.toList_append, String.toList_ofList, sameTexts]

/-! ## Runs -/

/-- In every state that the scanner reaches, the ignored addresses are normalized and
the file holds them, and every event that refreshes the view shows what is ignored. -/
theorem run_consistent
    (roundTrips : RoundTrips codec)
    {ignoreStore : Content} {app : ScannerApp}
    (loadable : init codec ignoreStore = .ok app)
    (events : List Event) :
    (∀ address ∈ (app.run codec casefold events).ignoredAddresses,
      Bluez.normalizeAddress address = address) ∧
    loadIgnoredAddresses codec (app.run codec casefold events).ignoreStore =
      .ok (app.run codec casefold events).ignoredAddresses ∧
    ∀ event now, (app.run codec casefold events).refreshTime event = some now ->
      (app.run codec casefold (events ++ [event])).Displays now := by
  have consistent : Consistent codec (app.run codec casefold events) :=
    (consistent_init loadable).run roundTrips events
  refine ⟨consistent.normalized, consistent.stored, ?_⟩
  intro event now refreshes
  obtain ⟨changed, changedConsistent, step_eq⟩ :=
    consistent.exists_refreshView roundTrips refreshes
  rw [ScannerApp.run, List.foldl_append, List.foldl_cons, List.foldl_nil]
  change ((app.run codec casefold events).step codec casefold event).Displays now
  rw [step_eq]
  exact changedConsistent.displays now

/-- The device of the file is found in another letter case, then ignored no more, and then
ignored together with the other one. -/
def togglingEvents : List Event :=
  [.detection ⟨some "aa:BB:cc:DD:ee:01", none, none, none, [], [], []⟩ 0, .refresh 1,
    .toggleIgnoreSelected 2,
    .detection ⟨some "AA:BB:CC:DD:EE:02", none, none, none, [], [], []⟩ 3, .refresh 4,
    .toggleIgnoreVisible 5]

/-- The rows of the table, with whether they are shown as ignored. -/
def shownRows (app : ScannerApp) : List (String × Bool) :=
  app.table.map fun row => (row.address, row.ignored)

/-- The table shows the device as ignored in the letter case in which it was found, and
after the toggle as not ignored. -/
theorem run_consistent_twice :
    ∃ app, init textsCodec (some (.ok "[\"aa:bb:cc:dd:ee:01\"]\n")) = .ok app ∧
      Displays (app.run textsCodec id (togglingEvents.take 2)) 1 ∧
      (app.run textsCodec id (togglingEvents.take 2)).shownRows =
        [("aa:BB:cc:DD:ee:01", true)] ∧
      Displays (app.run textsCodec id (togglingEvents.take 3)) 2 ∧
      (app.run textsCodec id (togglingEvents.take 3)).shownRows =
        [("aa:BB:cc:DD:ee:01", false)] ∧
      Displays (app.run textsCodec id togglingEvents) 5 := by
  obtain ⟨app, loadable, found, toggles, toggled⟩ :
      ∃ app, init textsCodec (some (.ok "[\"aa:bb:cc:dd:ee:01\"]\n")) = .ok app ∧
        (app.run textsCodec id (togglingEvents.take 2)).shownRows =
          [("aa:BB:cc:DD:ee:01", true)] ∧
        (app.run textsCodec id (togglingEvents.take 2)).refreshTime (.toggleIgnoreSelected 2) =
          some 2 ∧
        (app.run textsCodec id (togglingEvents.take 3)).shownRows =
          [("aa:BB:cc:DD:ee:01", false)] :=
    ⟨_, rfl, by decide +kernel, by decide +kernel, by decide +kernel⟩
  have displays (events : List Event) (event : Event) (now : Int)
      (refreshes : (app.run textsCodec id events).refreshTime event = some now) :
      (app.run textsCodec id (events ++ [event])).Displays now :=
    (run_consistent roundTrips_textsCodec loadable events).2.2 event now refreshes
  exact ⟨app, loadable, displays (togglingEvents.take 1) (.refresh 1) 1 rfl, found,
    displays (togglingEvents.take 2) (.toggleIgnoreSelected 2) 2 toggles, toggled,
    displays (togglingEvents.take 5) (.toggleIgnoreVisible 5) 5 rfl⟩

end ScannerApp
end Scanner
end BoschBle
