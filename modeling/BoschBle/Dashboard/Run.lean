import BoschBle.Dashboard.Reading
import BoschBle.Foundation.Register

/-!
# Runs of the dashboard

A dashboard applies messages one after the other and its caller catches what an
update raises.  Its fields are registers of the readings: each holds what the
last message of its own source says, however the sources are interleaved.
-/

namespace BoschBle
namespace Dashboard

open Foundation MessageBus

/-- A message and the time that the clock shows when it is applied. -/
abbrev Stamped := String × MessageFrame

/-- `apply_message`, whose caller catches what it raises. -/
def applyCaught (state : DashboardState) (message : Stamped) : DashboardState :=
  (applyMessage message.1 message.2 state).2

/-- Apply messages one after the other. -/
def applyAll
    (state : DashboardState)
    (messages : List Stamped) : DashboardState :=
  messages.foldl applyCaught state

/-- A state that no message has been applied to. -/
def fresh (connectionStatus : String) (recentLimit : Nat) : DashboardState :=
  { connectionStatus, recentLimit }

/-! ## The registers of a message -/

namespace Reading

/-- The startup stage that is read. -/
def stage : Reading -> Option Nat
  | .startupStage stage => some stage
  | _ => none

/-- The assist factor that is read. -/
def factor : Reading -> Option Nat
  | .assistFactor factor => some factor
  | _ => none

/-- The speed that is read, or that it is withdrawn. -/
def speedValue : Reading -> Option (Option Nat)
  | .speed value => some value
  | _ => none

/-- Field 1 of the system's charge, if it is there. -/
def systemPercent : Reading -> Option (Option Nat)
  | .systemCharge percent => some percent
  | _ => none

/-- Field 1 of the pack's charge, if it is there. -/
def packPercent : Reading -> Option (Option Nat)
  | .packCharge percent => some percent
  | _ => none

end Reading

/-- The last value that messages say of one kind. -/
def lastRead
    (select : Reading -> Option τ)
    (messages : List Stamped) : Option τ :=
  lastWritten (fun message => select (readingOf message.2)) messages

theorem applyCaught_eq (state : DashboardState) (message : Stamped) :
    applyCaught state message =
      (readingOf message.2).apply (listed message.1 message.2 state) :=
  applyMessage_state message.1 message.2 state

theorem recomputeBatteryPercent_eq (state : DashboardState) :
    state.recomputeBatteryPercent =
      { state with
        batteryPercent :=
          state.batterySystemPercent.or state.batteryPackPercent } := by
  unfold DashboardState.recomputeBatteryPercent
  cases state.batterySystemPercent <;> rfl

/-- What `_recompute_charger_connected` derives from the two inputs, where it
derives anything. -/
def chargerOf (chargingActive instanceChargingActive : Option Bool) : Option Bool :=
  if chargingActive = some true ∨ instanceChargingActive = some true then
    some true
  else if chargingActive ≠ none ∨ instanceChargingActive ≠ none then
    some false
  else none

/-- The derived field is kept, not reset, where both inputs are unknown. -/
theorem recomputeChargerConnected_eq (state : DashboardState) :
    state.recomputeChargerConnected =
      { state with
        chargerConnected :=
          (chargerOf state.chargingActive state.instanceChargingActive).or
            state.chargerConnected } := by
  obtain ⟨_, _, _, _, _, _, _, _, _, _, _, charging, instanceCharging⟩ := state
  match charging, instanceCharging with
  | none, none | none, some false | none, some true
  | some false, none | some false, some false | some false, some true
  | some true, none | some true, some false | some true, some true => rfl

section Registers

variable (state : DashboardState) (message : Stamped)

theorem startupStage_applyCaught :
    (applyCaught state message).startupStage =
      ((readingOf message.2).stage.map fun stage =>
        some ("STAGE" ++ toString stage)).getD state.startupStage := by
  rw [applyCaught_eq]
  cases readingOf message.2 <;>
    simp only [Reading.apply, recomputeBatteryPercent_eq,
      recomputeChargerConnected_eq] <;> rfl

theorem assistMode_applyCaught :
    (applyCaught state message).assistMode =
      ((readingOf message.2).factor.map fun factor =>
        some (toString factor)).getD state.assistMode := by
  rw [applyCaught_eq]
  cases readingOf message.2 <;>
    simp only [Reading.apply, recomputeBatteryPercent_eq,
      recomputeChargerConnected_eq] <;> rfl

theorem speedRaw_applyCaught :
    (applyCaught state message).speedRaw =
      (readingOf message.2).speedValue.getD state.speedRaw := by
  rw [applyCaught_eq]
  cases readingOf message.2 <;>
    simp only [Reading.apply, recomputeBatteryPercent_eq,
      recomputeChargerConnected_eq] <;> rfl

theorem batterySystemPercent_applyCaught :
    (applyCaught state message).batterySystemPercent =
      (readingOf message.2).systemPercent.getD state.batterySystemPercent := by
  rw [applyCaught_eq]
  cases readingOf message.2 <;>
    simp only [Reading.apply, recomputeBatteryPercent_eq,
      recomputeChargerConnected_eq] <;> rfl

theorem batteryPackPercent_applyCaught :
    (applyCaught state message).batteryPackPercent =
      (readingOf message.2).packPercent.getD state.batteryPackPercent := by
  rw [applyCaught_eq]
  cases readingOf message.2 <;>
    simp only [Reading.apply, recomputeBatteryPercent_eq,
      recomputeChargerConnected_eq] <;> rfl

/-- The charge that is shown is always derived from the two known ones. -/
theorem batteryPercent_applyCaught
    (derived : state.batteryPercent =
      state.batterySystemPercent.or state.batteryPackPercent) :
    (applyCaught state message).batteryPercent =
      (applyCaught state message).batterySystemPercent.or
        (applyCaught state message).batteryPackPercent := by
  rw [applyCaught_eq]
  cases readingOf message.2 <;>
    simp only [Reading.apply, recomputeBatteryPercent_eq,
      recomputeChargerConnected_eq] <;> first | rfl | exact derived

theorem recentFrames_applyCaught :
    (applyCaught state message).recentFrames =
        (state.appendRecent (formatMessageFrame message.2)).recentFrames ∧
      (applyCaught state message).recentLimit = state.recentLimit := by
  rw [applyCaught_eq]
  cases readingOf message.2 <;>
    simp only [Reading.apply, recomputeBatteryPercent_eq,
      recomputeChargerConnected_eq] <;> exact ⟨rfl, rfl⟩

end Registers

/-! ## Whole runs -/

/-- The last `limit` lines. -/
def lastLines (limit : Nat) (lines : List String) : List String :=
  lines.drop (lines.length - limit)

/-- Dropping the oldest lines one by one keeps the last ones. -/
theorem lastLines_append_singleton
    (limit : Nat)
    (lines : List String)
    (line : String) :
    lastLines limit (lastLines limit lines ++ [line]) =
      lastLines limit (lines ++ [line]) := by
  unfold lastLines
  have kept : lines.drop (lines.length - limit) ++ [line] =
      (lines ++ [line]).drop (lines.length - limit) := by
    rw [List.drop_append_of_le_length (Nat.sub_le _ _)]
  rw [kept, List.drop_drop, List.length_drop, List.length_append,
    List.length_singleton]
  congr 1
  omega

section FreshRuns

variable (connectionStatus : String) (recentLimit : Nat)
  (messages : List Stamped)

theorem applyAll_append_singleton
    (state : DashboardState)
    (message : Stamped) :
    applyAll state (messages ++ [message]) =
      applyCaught (applyAll state messages) message := by
  rw [applyAll, List.foldl_append]
  rfl

theorem applyAll_recent :
    (applyAll (fresh connectionStatus recentLimit) messages).recentFrames =
        lastLines recentLimit
          (messages.map fun message => formatMessageFrame message.2) ∧
      (applyAll (fresh connectionStatus recentLimit) messages).recentLimit =
        recentLimit := by
  induction messages using List.reverseRecOn with
  | nil => exact ⟨by simp [applyAll, fresh, lastLines], rfl⟩
  | append_singleton messages message inductionHypothesis =>
      obtain ⟨frames_eq, limit_eq⟩ := inductionHypothesis
      obtain ⟨appended, kept⟩ := recentFrames_applyCaught
        (applyAll (fresh connectionStatus recentLimit) messages) message
      rw [applyAll_append_singleton, kept, appended, List.map_append]
      refine ⟨?_, limit_eq⟩
      rw [DashboardState.appendRecent, frames_eq, limit_eq]
      exact lastLines_append_singleton _ _ _

theorem applyAll_startupStage :
    (applyAll (fresh connectionStatus recentLimit) messages).startupStage =
      (lastRead Reading.stage messages).map fun stage =>
        "STAGE" ++ toString stage := by
  rw [applyAll, foldl_register DashboardState.startupStage
    startupStage_applyCaught, lastWritten_map, lastRead]
  cases lastWritten _ messages <;> rfl

theorem applyAll_assistMode :
    (applyAll (fresh connectionStatus recentLimit) messages).assistMode =
      (lastRead Reading.factor messages).map fun factor => toString factor := by
  rw [applyAll, foldl_register DashboardState.assistMode
    assistMode_applyCaught, lastWritten_map, lastRead]
  cases lastWritten _ messages <;> rfl

theorem applyAll_speedRaw :
    (applyAll (fresh connectionStatus recentLimit) messages).speedRaw =
      (lastRead Reading.speedValue messages).getD none :=
  foldl_register DashboardState.speedRaw speedRaw_applyCaught _ messages

theorem applyAll_battery :
    (applyAll (fresh connectionStatus recentLimit) messages).batteryPercent =
      ((lastRead Reading.systemPercent messages).getD none).or
        ((lastRead Reading.packPercent messages).getD none) := by
  have derived :
      (applyAll (fresh connectionStatus recentLimit) messages).batteryPercent =
        (applyAll (fresh connectionStatus recentLimit) messages
          ).batterySystemPercent.or
        (applyAll (fresh connectionStatus recentLimit) messages
          ).batteryPackPercent := by
    induction messages using List.reverseRecOn with
    | nil => rfl
    | append_singleton messages message inductionHypothesis =>
        rw [applyAll_append_singleton]
        exact batteryPercent_applyCaught _ message inductionHypothesis
  rw [derived]
  congr 1
  · exact foldl_register DashboardState.batterySystemPercent
      batterySystemPercent_applyCaught _ messages
  · exact foldl_register DashboardState.batteryPackPercent
      batteryPackPercent_applyCaught _ messages

end FreshRuns

/-! ## Streams -/

/-- The stream of a message: the address it is directed to, or the address it
notifies of. -/
inductive Stream
  | directed (destination : Nat)
  | notify (source : Nat)
  deriving DecidableEq

/-- The stream that a message belongs to. -/
def streamOf (message : Stamped) : Stream :=
  match message.2 with
  | .directed frame => .directed frame.destination
  | .notify frame => .notify frame.source

/-- Two sequences that interleave the same messages of every stream. -/
def SameStreams (left right : List Stamped) : Prop :=
  ∀ stream, left.filter (streamOf · = stream) = right.filter (streamOf · = stream)

/-- A name stands for one address. -/
theorem address_of_name
    {address known : Nat} {name : String}
    (named : ADDRESS_NAMES.lookup address = some name)
    (present : (known, name) ∈ ADDRESS_NAMES) :
    address = known := by
  have distinct : ∀ entry ∈ ADDRESS_NAMES, ∀ other ∈ ADDRESS_NAMES,
      entry.2 = other.2 -> entry.1 = other.1 := by
    decide +kernel
  obtain ⟨before, after, entries_eq, _⟩ := List.lookup_eq_some_iff.mp named
  have addressPresent : (address, name) ∈ ADDRESS_NAMES := by
    rw [entries_eq]
    exact List.mem_append_right before List.mem_cons_self
  exact distinct _ addressPresent _ present rfl

namespace Reading

/-- The stream that a reading comes from. -/
def stream : Reading -> Option Stream
  | .nothing => none
  | .startupStage _ => some (.directed 0x40A9)
  | .assistFactor _ => some (.notify 0x181E)
  | .speed _ => some (.notify 0x182D)
  | .systemCharge _ => some (.notify 0x00BC)
  | .packCharge _ => some (.notify 0x0088)
  | .charging _ => some (.notify 0x008A)
  | .instanceCharging _ => some (.notify 0x00C4)

end Reading

theorem stream_notifyReading
    {source : Nat} (fields : Fields) :
    (notifyReading (ADDRESS_NAMES.lookup source) fields).stream = none ∨
      (notifyReading (ADDRESS_NAMES.lookup source) fields).stream =
        some (.notify source) := by
  unfold notifyReading
  split
  case isTrue named =>
    rw [address_of_name named (by decide : (0x00BC, _) ∈ ADDRESS_NAMES)]
    exact Or.inr rfl
  case isFalse =>
    split
    case isTrue named =>
      rw [address_of_name named (by decide : (0x0088, _) ∈ ADDRESS_NAMES)]
      exact Or.inr rfl
    case isFalse =>
      split
      case isTrue named =>
        rw [address_of_name named (by decide : (0x008A, _) ∈ ADDRESS_NAMES)]
        exact Or.inr rfl
      case isFalse =>
        split
        case isTrue named =>
          rw [address_of_name named (by decide : (0x00C4, _) ∈ ADDRESS_NAMES)]
          exact Or.inr rfl
        case isFalse =>
          split
          case isTrue named =>
            rw [address_of_name named
              (by decide : (0x181E, _) ∈ ADDRESS_NAMES)]
            cases printable fields with
            | none => exact Or.inl rfl
            | some factor => exact Or.inr rfl
          case isFalse =>
            split
            case isTrue named =>
              rw [address_of_name named
                (by decide : (0x182D, _) ∈ ADDRESS_NAMES)]
              unfold speedReading
              split
              · exact Or.inr rfl
              · exact Or.inr rfl
              · exact Or.inl rfl
            case isFalse => exact Or.inl rfl

/-- A reading comes from the stream of its message. -/
theorem stream_readingOf (message : Stamped) :
    (readingOf message.2).stream = none ∨
      (readingOf message.2).stream = some (streamOf message) := by
  obtain ⟨now, frame⟩ := message
  cases frame with
  | directed frame =>
      unfold readingOf streamOf
      dsimp only
      split
      case isTrue named =>
        rw [address_of_name named (by decide : (0x40A9, _) ∈ ADDRESS_NAMES)]
        cases (fieldsOf frame.payload).bind printable with
        | none => exact Or.inl rfl
        | some stage => exact Or.inr rfl
      case isFalse => exact Or.inl rfl
  | notify frame =>
      unfold readingOf streamOf
      dsimp only
      cases fieldsOf frame.payload with
      | none => exact Or.inl rfl
      | some fields => exact stream_notifyReading fields

/-- What is read from one stream depends on that stream only. -/
theorem lastRead_eq_of_sameStreams
    {select : Reading -> Option τ}
    (stream : Stream)
    (own : ∀ reading value, select reading = some value ->
      reading.stream = some stream)
    {left right : List Stamped}
    (same : SameStreams left right) :
    lastRead select left = lastRead select right := by
  apply lastWritten_eq_of_filter ?_ (same stream)
  intro message value selects
  have fromStream := own _ value selects
  rcases stream_readingOf message with nothing | fromOwn
  · rw [nothing] at fromStream
    cases fromStream
  · rw [fromOwn, Option.some.injEq] at fromStream
    exact decide_eq_true fromStream

/-- A message that raises changes no field but the status, the time and the
recent lines.  After any messages the stage, the assist mode, the speed and the
charge are those of the last message that says them, the charge of the system
before that of the pack, and the recent lines are the last ones.  The stage, the
assist mode, the speed and the charge do not depend on how the streams are
interleaved. -/
theorem applyAll_fields :
    (∀ (now : String) (frame : MessageFrame) (before after : DashboardState)
      (exc : Exn), applyMessage now frame before = (.error exc, after) ->
        after.startupStage = before.startupStage ∧
          after.assistMode = before.assistMode ∧
          after.batteryPercent = before.batteryPercent ∧
          after.speedRaw = before.speedRaw ∧
          after.chargerConnected = before.chargerConnected) ∧
    (∀ (connectionStatus : String) (recentLimit : Nat) (messages : List Stamped)
      (final : DashboardState),
      applyAll (fresh connectionStatus recentLimit) messages = final ->
        final.startupStage = (lastRead Reading.stage messages).map
            (fun stage => "STAGE" ++ toString stage) ∧
          final.assistMode = (lastRead Reading.factor messages).map
            (fun factor => toString factor) ∧
          final.speedRaw = (lastRead Reading.speedValue messages).getD none ∧
          final.batteryPercent =
            ((lastRead Reading.systemPercent messages).getD none).or
              ((lastRead Reading.packPercent messages).getD none) ∧
          final.recentFrames = lastLines recentLimit
            (messages.map fun message => formatMessageFrame message.2)) ∧
    (∀ (connectionStatus : String) (recentLimit : Nat)
      (left right : List Stamped), SameStreams left right ->
        let first := applyAll (fresh connectionStatus recentLimit) left
        let second := applyAll (fresh connectionStatus recentLimit) right
        first.startupStage = second.startupStage ∧
          first.assistMode = second.assistMode ∧
          first.speedRaw = second.speedRaw ∧
          first.batteryPercent = second.batteryPercent) := by
  refine ⟨?_, ?_, ?_⟩
  · intro now frame before after exc raises
    rw [applyMessage_raises raises]
    exact ⟨rfl, rfl, rfl, rfl, rfl⟩
  · rintro connectionStatus recentLimit messages _ rfl
    exact ⟨applyAll_startupStage _ _ _, applyAll_assistMode _ _ _,
      applyAll_speedRaw _ _ _, applyAll_battery _ _ _,
      (applyAll_recent _ _ _).1⟩
  · intro connectionStatus recentLimit left right same
    have stages : lastRead Reading.stage left = lastRead Reading.stage right := by
      apply lastRead_eq_of_sameStreams (.directed 0x40A9) ?_ same
      intro reading value selects
      cases reading <;> cases selects
      rfl
    have factors :
        lastRead Reading.factor left = lastRead Reading.factor right := by
      apply lastRead_eq_of_sameStreams (.notify 0x181E) ?_ same
      intro reading value selects
      cases reading <;> cases selects
      rfl
    have speeds :
        lastRead Reading.speedValue left =
          lastRead Reading.speedValue right := by
      apply lastRead_eq_of_sameStreams (.notify 0x182D) ?_ same
      intro reading value selects
      cases reading <;> cases selects
      rfl
    have systems :
        lastRead Reading.systemPercent left =
          lastRead Reading.systemPercent right := by
      apply lastRead_eq_of_sameStreams (.notify 0x00BC) ?_ same
      intro reading value selects
      cases reading <;> cases selects
      rfl
    have packs :
        lastRead Reading.packPercent left =
          lastRead Reading.packPercent right := by
      apply lastRead_eq_of_sameStreams (.notify 0x0088) ?_ same
      intro reading value selects
      cases reading <;> cases selects
      rfl
    simp only [applyAll_startupStage, applyAll_assistMode, applyAll_speedRaw,
      applyAll_battery, stages, factors, speeds, systems, packs, and_self]

/-- The charge of the system, as a notification of it. -/
def systemChargeMessage (percent : UInt8) : Stamped :=
  ("12:00:00", .notify { source := 0x00BC, payload := [0x08, percent] })

/-- The charge of the pack, as a notification of it. -/
def packChargeMessage (percent : UInt8) : Stamped :=
  ("12:00:00", .notify { source := 0x0088, payload := [0x08, percent] })

/-- Two charges in either order. -/
theorem sameStreams_charges :
    SameStreams [systemChargeMessage 77, packChargeMessage 50]
      [packChargeMessage 50, systemChargeMessage 77] := by
  intro stream
  by_cases system : stream = .notify 0x00BC
  · subst system
    rfl
  · by_cases pack : stream = .notify 0x0088
    · subst pack
      rfl
    · have otherSystem : ¬streamOf (systemChargeMessage 77) = stream :=
        fun same => system same.symm
      have otherPack : ¬streamOf (packChargeMessage 50) = stream :=
        fun same => pack same.symm
      simp [otherSystem, otherPack]

/-- A truncated charge raises, and two charges may come in either order. -/
theorem applyAll_fields_charges :
    (∃ exc after,
      applyMessage "12:00:00" (.notify { source := 0x00BC, payload := [0x08] })
          (fresh "connecting" 8) = (.error exc, after) ∧
        after.batteryPercent = none) ∧
      (applyAll (fresh "connecting" 8)
          [systemChargeMessage 77, packChargeMessage 50]).batteryPercent =
        (applyAll (fresh "connecting" 8)
          [packChargeMessage 50, systemChargeMessage 77]).batteryPercent := by
  have raises : ∃ exc after,
      applyMessage "12:00:00" (.notify { source := 0x00BC, payload := [0x08] })
          (fresh "connecting" 8) = (.error exc, after) := ⟨_, _, rfl⟩
  obtain ⟨exc, after, raises⟩ := raises
  refine ⟨⟨exc, after, raises, ?_⟩, ?_⟩
  · exact (applyAll_fields.1 _ _ _ _ _ raises).2.2.1
  · exact (applyAll_fields.2.2 "connecting" 8 _ _ sameStreams_charges).2.2.2

/-- A notification of an assist factor. -/
def assistMessage (payload : Bytes) : Stamped :=
  ("12:00:00", .notify { source := 0x181E, payload })

/-- A factor that cannot be printed is not read. -/
theorem printable_of_large
    {fields : Fields} {value : Nat}
    (field : fields.get 1 = some value)
    (large : 10 ^ 4300 ≤ value) :
    printable fields = none := by
  rw [printable, field, Option.filter_some, if_neg]
  rw [decide_eq_true_eq]
  exact Nat.not_lt.mpr large

theorem readingOf_large
    {zeros : Nat}
    (large : 10 ^ 4300 ≤ 1 <<< (7 * zeros)) :
    readingOf
        (assistMessage (0x08 :: (List.replicate zeros 0x80 ++ [0x01]))).2 =
      .nothing := by
  have fields_eq : fieldsOf (0x08 :: (List.replicate zeros 0x80 ++ [0x01])) =
      some [(1, 1 <<< (7 * zeros))] := by
    rw [fieldsOf, parseVarintFields_zeros]
    rfl
  have notPrintable : printable [(1, 1 <<< (7 * zeros))] = none :=
    printable_of_large rfl large
  simp only [readingOf, assistMessage, fields_eq, notifyReading, notPrintable]
  rfl

theorem five_lt_pow
    {digits : Nat}
    (positive : 0 < digits) :
    5 < 10 ^ digits :=
  Nat.lt_of_lt_of_le (by decide : 5 < 10 ^ 1) (Nat.pow_le_pow_right (by decide) positive)

theorem five_lt_limit : 5 < 10 ^ 4300 :=
  five_lt_pow (by decide)

/-- A factor that is printed and then one that is not. -/
theorem assistMode_of_large
    {zeros : Nat}
    (large : 10 ^ 4300 ≤ 1 <<< (7 * zeros)) :
    (applyAll (fresh "connecting" 8)
      [assistMessage [0x08, 0x05],
        assistMessage (0x08 :: (List.replicate zeros 0x80 ++ [0x01]))]
      ).assistMode = some "5" := by
  have five : readingOf (assistMessage [0x08, 0x05]).2 = .assistFactor 5 := by
    have prints : printable [(1, 5)] = some 5 := by
      rw [printable]
      exact Option.filter_eq_some_iff.mpr ⟨rfl, decide_eq_true five_lt_limit⟩
    have fields_eq : fieldsOf [0x08, 0x05] = some [(1, 5)] := by
      decide
    simp only [readingOf, assistMessage, fields_eq, notifyReading, prints]
    rfl
  rw [applyAll_assistMode, lastRead, lastWritten, List.filterMap_cons, five,
    List.filterMap_cons, readingOf_large large]
  rfl

theorem limit_le_shift : 10 ^ 4300 ≤ 1 <<< (7 * 2041) := by
  decide +kernel

/-- An assist factor that parses but cannot be printed is not shown, and the
recent lines depend on how the streams are interleaved. -/
theorem applyAll_fields_exceptions :
    (parseVarintFields (0x08 :: (List.replicate 2041 0x80 ++ [0x01])) =
        .ok [(1, 1 <<< (7 * 2041))] ∧
      1 <<< (7 * 2041) ≠ 5 ∧
        (applyAll (fresh "connecting" 8)
          [assistMessage [0x08, 0x05],
            assistMessage (0x08 :: (List.replicate 2041 0x80 ++ [0x01]))]
          ).assistMode = some "5") ∧
      SameStreams [systemChargeMessage 77, packChargeMessage 50]
          [packChargeMessage 50, systemChargeMessage 77] ∧
        (applyAll (fresh "connecting" 8)
            [systemChargeMessage 77, packChargeMessage 50]).recentFrames ≠
          (applyAll (fresh "connecting" 8)
            [packChargeMessage 50, systemChargeMessage 77]).recentFrames := by
  have differs : 1 <<< (7 * 2041) ≠ 5 :=
    (Nat.lt_of_lt_of_le five_lt_limit limit_le_shift).ne'
  refine ⟨⟨parseVarintFields_zeros 2041, differs,
    assistMode_of_large limit_le_shift⟩, sameStreams_charges, ?_⟩
  rw [(applyAll_recent _ _ _).1, (applyAll_recent _ _ _).1]
  decide

end Dashboard
end BoschBle
