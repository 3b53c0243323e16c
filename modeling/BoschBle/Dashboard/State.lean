import BoschBle.Dashboard.Varint
import BoschBle.MessageBus.Message

/-!
# The dashboard state

Every decoded message updates the state of the dashboard.  Messages of a few
addresses carry varint fields, and for these an update raises when the payload
does not parse or when a value is too large to be printed.  `Readable` is the
exact condition under which an update returns.
-/

namespace BoschBle
namespace Dashboard

open Foundation MessageBus

/-- The state of the dashboard. -/
structure DashboardState where
  connectionStatus : String := "disconnected"
  startupStage : Option String := none
  assistMode : Option String := none
  batteryPercent : Option Nat := none
  speedRaw : Option Nat := none
  chargerConnected : Option Bool := none
  recentLimit : Nat := 8
  updatedAt : Option String := none
  /-- The last `recentLimit` lines, oldest first. -/
  recentFrames : List String := []
  batterySystemPercent : Option Nat := none
  batteryPackPercent : Option Nat := none
  chargingActive : Option Bool := none
  instanceChargingActive : Option Bool := none

namespace DashboardState

/-- Append to the recent lines, of which the oldest drop out. -/
def appendRecent (state : DashboardState) (line : String) : DashboardState :=
  let lines := state.recentFrames ++ [line]
  { state with recentFrames := lines.drop (lines.length - state.recentLimit) }

/-- `_recompute_battery_percent`. -/
def recomputeBatteryPercent (state : DashboardState) : DashboardState :=
  let state := { state with batteryPercent := state.batterySystemPercent }
  if state.batteryPercent = none then
    { state with batteryPercent := state.batteryPackPercent }
  else state

/-- `_recompute_charger_connected`. -/
def recomputeChargerConnected (state : DashboardState) : DashboardState :=
  let values := [state.chargingActive, state.instanceChargingActive]
  if values.any (· = some true) then
    { state with chargerConnected := some true }
  else if values.any (· ≠ none) then
    { state with chargerConnected := some false }
  else state

end DashboardState

/-- Decimal digits of an integer; the conversion is limited to 4300 digits. -/
def formatInt (value : Nat) : Except Exn String :=
  if value < 10 ^ 4300 then
    .ok (toString value)
  else
    .error ⟨.valueError,
      "Exceeds the limit (4300 digits) for integer string conversion; " ++
        "use sys.set_int_max_str_digits() to increase the limit"⟩

/-- `_apply_directed_frame`. -/
def applyDirectedFrame (frame : DirectedFrame) : Effect DashboardState Unit :=
  if frame.targetName ≠ some "STARTUP_STAGE" then
    pure ()
  else do
    let stage ← Effect.lift (decodeUint8Nullable frame.payload)
    match stage with
    | none => pure ()
    | some stage => do
        let digits ← Effect.lift (formatInt stage)
        Effect.modify fun state =>
          { state with startupStage := some ("STAGE" ++ digits) }

/-- `_apply_notify_frame`. -/
def applyNotifyFrame (frame : NotifyFrame) : Effect DashboardState Unit :=
  let source := frame.sourceName
  if source = some "BATTERY_SYSTEM_STATE_OF_CHARGE_FOR_RIDER" then do
    let percent ← Effect.lift (decodeUint frame.payload)
    Effect.modify fun state =>
      { state with batterySystemPercent := percent }.recomputeBatteryPercent
  else if source = some "BATTERY_STATE_OF_CHARGE" then do
    let percent ← Effect.lift (decodeUint frame.payload)
    Effect.modify fun state =>
      { state with batteryPackPercent := percent }.recomputeBatteryPercent
  else if source = some "BATTERY_CHARGING_ACTIVE" then do
    let active ← Effect.lift (decodeBoolean frame.payload)
    Effect.modify fun state =>
      { state with chargingActive := active }.recomputeChargerConnected
  else if source = some "BATTERY_INSTANCE_CHARGING_ACTIVE" then do
    let active ← Effect.lift (decodeBoolean frame.payload)
    Effect.modify fun state =>
      { state with instanceChargingActive := active }.recomputeChargerConnected
  else if source = some "DRIVE_UNIT_PRESENT_ASSIST_FACTOR" then do
    let assistFactor ← Effect.lift (decodeUint frame.payload)
    match assistFactor with
    | none => pure ()
    | some assistFactor => do
        let digits ← Effect.lift (formatInt assistFactor)
        Effect.modify fun state => { state with assistMode := some digits }
  else if source = some "DRIVE_UNIT_DISPLAYED_BIKE_SPEED" then do
    let (speed, valid) ← Effect.lift (decodeBikeSpeed frame.payload)
    Effect.modify fun state =>
      if valid = some true ∧ speed ≠ none then { state with speedRaw := speed }
      else if valid = some false then { state with speedRaw := none }
      else state
  else
    pure ()

/-- Update the state with a message, at the time that the clock shows. -/
def applyMessage
    (now : String)
    (frame : MessageFrame) : Effect DashboardState Unit := do
  Effect.modify fun state =>
    { state with connectionStatus := "connected", updatedAt := some now }
  Effect.modify fun state => state.appendRecent (formatMessageFrame frame)
  match frame with
  | .directed frame => applyDirectedFrame frame
  | .notify frame => applyNotifyFrame frame

/-! ## Messages that the dashboard can read -/

/-- The notifications whose payload is parsed. -/
def PARSED_SOURCES : List String :=
  [ "BATTERY_SYSTEM_STATE_OF_CHARGE_FOR_RIDER",
    "BATTERY_STATE_OF_CHARGE",
    "BATTERY_CHARGING_ACTIVE",
    "BATTERY_INSTANCE_CHARGING_ACTIVE",
    "DRIVE_UNIT_PRESENT_ASSIST_FACTOR",
    "DRIVE_UNIT_DISPLAYED_BIKE_SPEED" ]

/-- The payload parses. -/
def Parses (payload : Bytes) : Prop :=
  ∃ fields, parseVarintFields payload = .ok fields

/-- The payload parses, and field 1 can be printed if it is there. -/
def ParsesToPrintable (payload : Bytes) : Prop :=
  ∃ fields, parseVarintFields payload = .ok fields ∧
    ∀ value, fields.get 1 = some value -> value < 10 ^ 4300

/-- The messages whose update returns. -/
def Readable : MessageFrame -> Prop
  | .directed frame =>
      frame.targetName = some "STARTUP_STAGE" ->
        ParsesToPrintable frame.payload
  | .notify frame =>
      ∀ source ∈ frame.sourceName, source ∈ PARSED_SOURCES ->
        if source = "DRIVE_UNIT_PRESENT_ASSIST_FACTOR" then
          ParsesToPrintable frame.payload
        else Parses frame.payload

theorem formatInt_eq_ok_iff {value : Nat} :
    (∃ digits, formatInt value = .ok digits) ↔ value < 10 ^ 4300 := by
  unfold formatInt
  split
  case isTrue fits => exact ⟨fun _ => fits, fun _ => ⟨_, rfl⟩⟩
  case isFalse large =>
    constructor
    · rintro ⟨digits, impossible⟩
      cases impossible
    · intro fits
      exact absurd fits large

/-- A decoder returns exactly when the payload parses. -/
theorem decoder_eq_ok_iff
    {payload : Bytes} {read : Fields -> α} :
    (∃ value, (do
      let fields ← parseVarintFields payload
      .ok (read fields) : Except Exn α) = .ok value) ↔ Parses payload := by
  unfold Parses
  cases parseVarintFields payload with
  | error exc =>
      constructor
      · rintro ⟨value, impossible⟩
        cases impossible
      · rintro ⟨fields, impossible⟩
        cases impossible
  | ok fields => exact ⟨fun _ => ⟨fields, rfl⟩, fun _ => ⟨read fields, rfl⟩⟩

/-- A decoded value that is stored as it is. -/
theorem returns_store_iff
    {result : Except Exn α} {store : α -> DashboardState -> DashboardState}
    {before : DashboardState} :
    (∃ after, Effect.Returns (do
      let value ← Effect.lift result
      Effect.modify (store value)) before () after) ↔
      ∃ value, result = .ok value := by
  simp only [Effect.returns_bind, Effect.returns_lift, Effect.returns_modify]
  constructor
  · rintro ⟨after, value, middle, ⟨result_eq, _⟩, _⟩
    exact ⟨value, result_eq⟩
  · rintro ⟨value, result_eq⟩
    exact ⟨_, value, before, ⟨result_eq, rfl⟩, rfl⟩

/-- Field 1, stored in decimal digits if it is there. -/
theorem returns_print_iff
    {payload : Bytes} {store : String -> DashboardState -> DashboardState}
    {before : DashboardState} :
    (∃ after, Effect.Returns (do
      let value ← Effect.lift (decodeUint payload)
      match value with
      | none => pure ()
      | some value => do
          let digits ← Effect.lift (formatInt value)
          Effect.modify (store digits)) before () after) ↔
      ParsesToPrintable payload := by
  unfold ParsesToPrintable decodeUint
  cases parseVarintFields payload with
  | error exc =>
      constructor
      · rintro ⟨after, returns⟩
        have impossible : Effect.Returns (Effect.lift (.error exc)) before ()
          after := returns
        cases (Effect.returns_lift.mp impossible).1
      · rintro ⟨fields, impossible, _⟩
        cases impossible
  | ok fields =>
      change (∃ after, Effect.Returns (do
        let value ← Effect.lift (.ok (fields.get 1))
        match value with
        | none => pure ()
        | some value => do
            let digits ← Effect.lift (formatInt value)
            Effect.modify (store digits)) before () after) ↔ _
      rw [Effect.lift_ok_bind]
      cases field : fields.get 1 with
      | none =>
          constructor
          · intro _
            refine ⟨fields, rfl, ?_⟩
            intro value impossible
            rw [field] at impossible
            cases impossible
          · intro _
            exact ⟨before, Effect.returns_pure.mpr ⟨rfl, rfl⟩⟩
      | some value =>
          rw [returns_store_iff, formatInt_eq_ok_iff]
          constructor
          · intro fits
            refine ⟨fields, rfl, ?_⟩
            intro other other_eq
            rw [field] at other_eq
            cases other_eq
            exact fits
          · rintro ⟨other, other_eq, fits⟩
            cases other_eq
            exact fits value field

theorem applyDirectedFrame_returns_iff
    {frame : DirectedFrame} {before : DashboardState} :
    (∃ after, Effect.Returns (applyDirectedFrame frame) before () after) ↔
      Readable (.directed frame) := by
  unfold applyDirectedFrame Readable
  by_cases target : frame.targetName = some "STARTUP_STAGE"
  · rw [if_neg (not_not.mpr target)]
    exact returns_print_iff.trans
      ⟨fun parses _ => parses, fun parses => parses target⟩
  · rw [if_pos target]
    constructor
    · intro _ same
      exact absurd same target
    · intro _
      exact ⟨before, Effect.returns_pure.mpr ⟨rfl, rfl⟩⟩

/-- A notification from a source that is not parsed is readable. -/
theorem readable_of_not_parsed
    {frame : NotifyFrame}
    (other : ∀ source ∈ PARSED_SOURCES, frame.sourceName ≠ some source) :
    Readable (.notify frame) := by
  intro source source_eq parsed
  exact absurd source_eq (other source parsed)

/-- What is required of a notification from a parsed source. -/
theorem readable_iff
    {frame : NotifyFrame} {source : String}
    (source_eq : frame.sourceName = some source)
    (parsed : source ∈ PARSED_SOURCES) :
    Readable (.notify frame) ↔
      if source = "DRIVE_UNIT_PRESENT_ASSIST_FACTOR" then
        ParsesToPrintable frame.payload
      else Parses frame.payload := by
  constructor
  · intro readable
    exact readable source source_eq parsed
  · intro parses other other_eq _
    rw [source_eq, Option.mem_some_iff] at other_eq
    rw [← other_eq]
    exact parses

theorem applyNotifyFrame_returns_iff
    {frame : NotifyFrame} {before : DashboardState} :
    (∃ after, Effect.Returns (applyNotifyFrame frame) before () after) ↔
      Readable (.notify frame) := by
  unfold applyNotifyFrame
  dsimp only
  split
  case isTrue source_eq =>
    rw [readable_iff source_eq (by decide), if_neg (by decide)]
    exact returns_store_iff.trans decoder_eq_ok_iff
  case isFalse notSystem =>
    split
    case isTrue source_eq =>
      rw [readable_iff source_eq (by decide), if_neg (by decide)]
      exact returns_store_iff.trans decoder_eq_ok_iff
    case isFalse notPack =>
      split
      case isTrue source_eq =>
        rw [readable_iff source_eq (by decide), if_neg (by decide)]
        exact returns_store_iff.trans decoder_eq_ok_iff
      case isFalse notCharging =>
        split
        case isTrue source_eq =>
          rw [readable_iff source_eq (by decide), if_neg (by decide)]
          exact returns_store_iff.trans decoder_eq_ok_iff
        case isFalse notInstance =>
          split
          case isTrue source_eq =>
            rw [readable_iff source_eq (by decide), if_pos rfl]
            exact returns_print_iff
          case isFalse notAssist =>
            split
            case isTrue source_eq =>
              rw [readable_iff source_eq (by decide), if_neg (by decide)]
              exact returns_store_iff.trans decoder_eq_ok_iff
            case isFalse notSpeed =>
              constructor
              · intro _
                apply readable_of_not_parsed
                intro source parsed
                simp only [PARSED_SOURCES, List.mem_cons, List.not_mem_nil,
                  or_false] at parsed
                rcases parsed with rfl | rfl | rfl | rfl | rfl | rfl <;>
                  assumption
              · intro _
                exact ⟨before, Effect.returns_pure.mpr ⟨rfl, rfl⟩⟩

/-- An update returns exactly on readable messages, whatever the state. -/
theorem applyMessage_returns_iff
    {now : String} {frame : MessageFrame} {before : DashboardState} :
    (∃ after, Effect.Returns (applyMessage now frame) before () after) ↔
      Readable frame := by
  simp only [applyMessage, Effect.returns_bind, Effect.returns_modify]
  cases frame with
  | directed frame =>
      constructor
      · rintro ⟨after, _, _, _, _, middle, _, returns⟩
        exact applyDirectedFrame_returns_iff.mp ⟨after, returns⟩
      · intro readable
        obtain ⟨after, returns⟩ := applyDirectedFrame_returns_iff.mpr readable
        exact ⟨after, (), _, rfl, (), _, rfl, returns⟩
  | notify frame =>
      constructor
      · rintro ⟨after, _, _, _, _, middle, _, returns⟩
        exact applyNotifyFrame_returns_iff.mp ⟨after, returns⟩
      · intro readable
        obtain ⟨after, returns⟩ := applyNotifyFrame_returns_iff.mpr readable
        exact ⟨after, (), _, rfl, (), _, rfl, returns⟩

end Dashboard
end BoschBle
