import BoschBle.Dashboard.State

/-!
# Readings of the dashboard

A message says at most one thing about the bike, its reading.  An update writes
the reading into the state and recomputes what is derived from it; a message
that makes the update raise has no reading.
-/

namespace BoschBle
namespace Dashboard

open Foundation MessageBus

/-- What a message says about the bike. -/
inductive Reading
  | nothing
  | startupStage (stage : Nat)
  | assistFactor (factor : Nat)
  | speed (value : Option Nat)
  | systemCharge (percent : Option Nat)
  | packCharge (percent : Option Nat)
  | charging (active : Option Bool)
  | instanceCharging (active : Option Bool)

/-- The fields of a payload that parses. -/
def fieldsOf (payload : Bytes) : Option Fields :=
  (parseVarintFields payload).toOption

/-- Field 1, if it is there and not too large to be printed. -/
def printable (fields : Fields) : Option Nat :=
  (fields.get 1).filter fun value => value < 10 ^ 4300

/-- A speed is read where it is marked invalid, or marked valid and there. -/
def speedReading (fields : Fields) : Reading :=
  match fields.get 2, fields.get 1 with
  | some 0, _ => .speed none
  | some _, some value => .speed (some value)
  | _, _ => .nothing

/-- The reading of a notification with the given fields. -/
def notifyReading (source : Option String) (fields : Fields) : Reading :=
  if source = some "BATTERY_SYSTEM_STATE_OF_CHARGE_FOR_RIDER" then
    .systemCharge (fields.get 1)
  else if source = some "BATTERY_STATE_OF_CHARGE" then
    .packCharge (fields.get 1)
  else if source = some "BATTERY_CHARGING_ACTIVE" then
    .charging ((fields.get 1).map fun value => value ≠ 0)
  else if source = some "BATTERY_INSTANCE_CHARGING_ACTIVE" then
    .instanceCharging ((fields.get 1).map fun value => value ≠ 0)
  else if source = some "DRIVE_UNIT_PRESENT_ASSIST_FACTOR" then
    match printable fields with
    | some factor => .assistFactor factor
    | none => .nothing
  else if source = some "DRIVE_UNIT_DISPLAYED_BIKE_SPEED" then
    speedReading fields
  else .nothing

/-- The reading of a message. -/
def readingOf : MessageFrame -> Reading
  | .directed frame =>
      if frame.targetName = some "STARTUP_STAGE" then
        match (fieldsOf frame.payload).bind printable with
        | some stage => .startupStage stage
        | none => .nothing
      else .nothing
  | .notify frame =>
      match fieldsOf frame.payload with
      | some fields => notifyReading frame.sourceName fields
      | none => .nothing

namespace Reading

/-- Write a reading into the state. -/
def apply : Reading -> DashboardState -> DashboardState
  | .nothing, state => state
  | .startupStage stage, state =>
      { state with startupStage := some ("STAGE" ++ toString stage) }
  | .assistFactor factor, state =>
      { state with assistMode := some (toString factor) }
  | .speed value, state => { state with speedRaw := value }
  | .systemCharge percent, state =>
      { state with batterySystemPercent := percent }.recomputeBatteryPercent
  | .packCharge percent, state =>
      { state with batteryPackPercent := percent }.recomputeBatteryPercent
  | .charging active, state =>
      { state with chargingActive := active }.recomputeChargerConnected
  | .instanceCharging active, state =>
      { state with instanceChargingActive := active }.recomputeChargerConnected

end Reading

/-- The state once a message is listed, before it is read. -/
def listed
    (now : String)
    (frame : MessageFrame)
    (state : DashboardState) : DashboardState :=
  { state with connectionStatus := "connected", updatedAt := some now
    }.appendRecent (formatMessageFrame frame)

/-- A printed field leaves the state that its reading writes. -/
theorem state_of_print
    {payload : Bytes} {store : String -> DashboardState -> DashboardState}
    (state : DashboardState) :
    ((do
      let value ← Effect.lift (decodeUint payload)
      match value with
      | none => pure ()
      | some value => do
          let digits ← Effect.lift (formatInt value)
          Effect.modify (store digits) : Effect DashboardState Unit) state).2 =
      match (fieldsOf payload).bind printable with
      | some value => store (toString value) state
      | none => state := by
  unfold fieldsOf decodeUint
  cases parseVarintFields payload with
  | error exc => rfl
  | ok fields =>
      change ((match fields.get 1 with
        | none => pure ()
        | some value => do
            let digits ← Effect.lift (formatInt value)
            Effect.modify (store digits) : Effect DashboardState Unit) state).2 =
        match printable fields with
        | some value => store (toString value) state
        | none => state
      unfold printable
      cases fields.get 1 with
      | none => rfl
      | some value =>
          -- The bound is kept abstract: nothing depends on its value.
          unfold formatInt
          generalize (10 ^ 4300 : Nat) = limit
          by_cases fits : value < limit
          · simp only [Option.filter_some, fits, if_true, decide_true]
            rfl
          · simp only [Option.filter_some, fits, if_false, decide_false]
            rfl

/-- A stored field leaves the state that its reading writes. -/
theorem state_of_store
    {payload : Bytes} {read : Fields -> α}
    {store : α -> DashboardState -> DashboardState}
    {reading : Fields -> Reading}
    (writes : ∀ fields state,
      store (read fields) state = (reading fields).apply state)
    (state : DashboardState) :
    ((do
      let value ← Effect.lift (do
        let fields ← parseVarintFields payload
        .ok (read fields))
      Effect.modify (store value) : Effect DashboardState Unit) state).2 =
      (match fieldsOf payload with
        | some fields => reading fields
        | none => .nothing : Reading).apply state := by
  unfold fieldsOf
  cases parseVarintFields payload with
  | error exc => rfl
  | ok fields => exact writes fields state

theorem applyDirectedFrame_state
    (frame : DirectedFrame)
    (state : DashboardState) :
    (applyDirectedFrame frame state).2 =
      (readingOf (.directed frame)).apply state := by
  unfold applyDirectedFrame readingOf
  dsimp only
  by_cases target : frame.targetName = some "STARTUP_STAGE"
  · rw [if_neg (not_not.mpr target), if_pos target]
    refine (state_of_print state).trans ?_
    cases (fieldsOf frame.payload).bind printable <;> rfl
  · rw [if_pos target, if_neg target]
    rfl

/-- The speed is kept where its notification says neither a value nor that there
is none. -/
theorem speed_state
    (payload : Bytes)
    (state : DashboardState) :
    ((do
      let (speed, valid) ← Effect.lift (decodeBikeSpeed payload)
      Effect.modify fun state =>
        if valid = some true ∧ speed ≠ none then { state with speedRaw := speed }
        else if valid = some false then { state with speedRaw := none }
        else state : Effect DashboardState Unit) state).2 =
      (match fieldsOf payload with
        | some fields => speedReading fields
        | none => .nothing : Reading).apply state := by
  unfold fieldsOf decodeBikeSpeed
  cases parseVarintFields payload with
  | error exc => rfl
  | ok fields =>
      change (if (fields.get 2).map (fun validity => decide (validity ≠ 0)) =
            some true ∧ fields.get 1 ≠ none then
          { state with speedRaw := fields.get 1 }
        else if (fields.get 2).map (fun validity => decide (validity ≠ 0)) =
            some false then
          { state with speedRaw := none }
        else state) = (speedReading fields).apply state
      unfold speedReading
      generalize fields.get 2 = valid
      generalize fields.get 1 = speed
      match valid, speed with
      | none, none | none, some _ | some 0, none | some 0, some _
      | some (_ + 1), none | some (_ + 1), some _ => rfl

theorem applyNotifyFrame_state
    (frame : NotifyFrame)
    (state : DashboardState) :
    (applyNotifyFrame frame state).2 =
      (readingOf (.notify frame)).apply state := by
  unfold applyNotifyFrame readingOf notifyReading
  dsimp only
  split
  · apply state_of_store
    intro _ _
    rfl
  · split
    · apply state_of_store
      intro _ _
      rfl
    · split
      · apply state_of_store
        intro _ _
        rfl
      · split
        · apply state_of_store
          intro _ _
          rfl
        · split
          · refine (state_of_print state).trans ?_
            cases fieldsOf frame.payload with
            | none => rfl
            | some fields =>
                simp only [Option.bind_some]
                cases printable fields <;> rfl
          · split
            · exact speed_state frame.payload state
            · cases fieldsOf frame.payload <;> rfl

/-- An update lists its message and writes the reading of it. -/
theorem applyMessage_state
    (now : String)
    (frame : MessageFrame)
    (state : DashboardState) :
    (applyMessage now frame state).2 =
      (readingOf frame).apply (listed now frame state) := by
  cases frame with
  | directed frame => exact applyDirectedFrame_state frame _
  | notify frame => exact applyNotifyFrame_state frame _

/-- An update that raises has listed its message and stored nothing else. -/
theorem applyMessage_raises
    {now : String} {frame : MessageFrame} {before after : DashboardState}
    {exc : Exn}
    (raises : applyMessage now frame before = (.error exc, after)) :
    after = listed now frame before := by
  have directed (frame : DirectedFrame) :
      (applyDirectedFrame frame).RaisesUnchanged := by
    unfold applyDirectedFrame
    split
    · exact Effect.RaisesUnchanged.pure ()
    · apply Effect.RaisesUnchanged.lift_bind
      intro stage
      split
      · exact Effect.RaisesUnchanged.pure ()
      · apply Effect.RaisesUnchanged.lift_bind
        intro digits
        exact Effect.RaisesUnchanged.modify _
  have notify (frame : NotifyFrame) :
      (applyNotifyFrame frame).RaisesUnchanged := by
    unfold applyNotifyFrame
    have stores {α : Type} {result : Except Exn α}
        {store : α -> DashboardState -> DashboardState} :
        (do
          let value ← Effect.lift result
          Effect.modify (store value) : Effect DashboardState Unit
          ).RaisesUnchanged := by
      apply Effect.RaisesUnchanged.lift_bind
      intro value
      exact Effect.RaisesUnchanged.modify _
    dsimp only
    repeat' split
    · exact stores
    · exact stores
    · exact stores
    · exact stores
    · apply Effect.RaisesUnchanged.lift_bind
      intro factor
      split
      · exact Effect.RaisesUnchanged.pure ()
      · apply Effect.RaisesUnchanged.lift_bind
        intro digits
        exact Effect.RaisesUnchanged.modify _
    · exact stores
    · exact Effect.RaisesUnchanged.pure ()
  cases frame with
  | directed frame => exact directed frame _ exc after raises
  | notify frame => exact notify frame _ exc after raises

end Dashboard
end BoschBle
