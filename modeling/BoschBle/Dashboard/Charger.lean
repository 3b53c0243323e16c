import BoschBle.Dashboard.Run

/-!
# The charger indication

Two notifications say whether the bike is charging, and the indication is
derived from what is known of them.  It is not derived again where the last
known one becomes unknown, and then it outlives them.
-/

namespace BoschBle
namespace Dashboard

open Foundation MessageBus

/-- The indication says what the known inputs say. -/
def ChargerDetermined (state : DashboardState) : Prop :=
  state.chargerConnected =
    chargerOf state.chargingActive state.instanceChargingActive

/-- A charging notification without field 1 arrives while its own input is known
and the other one is not. -/
def Forgets (state : DashboardState) (message : Stamped) : Prop :=
  match readingOf message.2 with
  | .charging none =>
      state.chargingActive ≠ none ∧ state.instanceChargingActive = none
  | .instanceCharging none =>
      state.instanceChargingActive ≠ none ∧ state.chargingActive = none
  | _ => False

theorem chargerOf_eq_none_iff {chargingActive instanceChargingActive : Option Bool} :
    chargerOf chargingActive instanceChargingActive = none ↔
      chargingActive = none ∧ instanceChargingActive = none := by
  match chargingActive, instanceChargingActive with
  | none, none | none, some false | none, some true
  | some false, none | some false, some false | some false, some true
  | some true, none | some true, some false | some true, some true => decide

/-- Where something is known after an update, the indication follows it; where
nothing is known, it is kept. -/
theorem or_eq_chargerOf_iff
    {charger chargingActive instanceChargingActive : Option Bool} :
    (chargerOf chargingActive instanceChargingActive).or charger =
        chargerOf chargingActive instanceChargingActive ↔
      (chargingActive = none -> instanceChargingActive = none ->
        charger = none) := by
  match chargingActive, instanceChargingActive with
  | none, none => simp [chargerOf]
  | none, some false | none, some true | some false, none
  | some false, some false | some false, some true
  | some true, none | some true, some false | some true, some true =>
      simp [chargerOf]

/-- From a state with a determined indication, exactly the steps that forget
lead to one without. -/
theorem chargerDetermined_applyCaught_iff
    {state : DashboardState}
    (determined : ChargerDetermined state)
    (message : Stamped) :
    ChargerDetermined (applyCaught state message) ↔ ¬Forgets state message := by
  have unknown_iff : state.chargerConnected = none ↔
      state.chargingActive = none ∧ state.instanceChargingActive = none := by
    rw [determined, chargerOf_eq_none_iff]
  unfold ChargerDetermined Forgets
  rw [applyCaught_eq]
  cases readingOf message.2 with
  | charging active =>
      simp only [Reading.apply, recomputeChargerConnected_eq]
      refine or_eq_chargerOf_iff.trans ?_
      change (active = none -> state.instanceChargingActive = none ->
        state.chargerConnected = none) ↔ _
      rw [unknown_iff]
      cases active with
      | none => tauto
      | some active => simp
  | instanceCharging active =>
      simp only [Reading.apply, recomputeChargerConnected_eq]
      refine or_eq_chargerOf_iff.trans ?_
      change (state.chargingActive = none -> active = none ->
        state.chargerConnected = none) ↔ _
      rw [unknown_iff]
      cases active with
      | none => tauto
      | some active => simp
  | systemCharge percent =>
      simp only [Reading.apply, recomputeBatteryPercent_eq]
      exact iff_of_true determined not_false
  | packCharge percent =>
      simp only [Reading.apply, recomputeBatteryPercent_eq]
      exact iff_of_true determined not_false
  | nothing => exact iff_of_true determined not_false
  | startupStage stage => exact iff_of_true determined not_false
  | assistFactor factor => exact iff_of_true determined not_false
  | speed value => exact iff_of_true determined not_false

/-- In every run from a new state, the indication is determined by the known
charging inputs in every state exactly when no message of the run makes the last
known input unknown. -/
theorem charger_determined_iff
    (connectionStatus : String)
    (recentLimit : Nat)
    (messages : List Stamped) :
    (∀ prior, prior <+: messages ->
      ChargerDetermined (applyAll (fresh connectionStatus recentLimit) prior)) ↔
      ∀ prior message, prior ++ [message] <+: messages ->
        ¬Forgets (applyAll (fresh connectionStatus recentLimit) prior) message := by
  constructor
  · intro determined prior message isPrefix
    have before := determined prior
      ((List.prefix_append prior [message]).trans isPrefix)
    rw [← chargerDetermined_applyCaught_iff before,
      ← applyAll_append_singleton]
    exact determined _ isPrefix
  · intro remembers prior isPrefix
    induction prior using List.reverseRecOn with
    | nil => rfl
    | append_singleton prior message inductionHypothesis =>
        have before := inductionHypothesis
          ((List.prefix_append prior [message]).trans isPrefix)
        rw [applyAll_append_singleton, chargerDetermined_applyCaught_iff before]
        exact remembers prior message isPrefix

/-- A charging notification and then one without field 1. -/
theorem charger_outlives_input :
    (applyAll (fresh "connecting" 8)
      [("12:00:00", .notify { source := 0x008A, payload := [0x08, 0x01] }),
        ("12:00:01", .notify { source := 0x008A, payload := [] })]
      ).chargingActive = none ∧
    (applyAll (fresh "connecting" 8)
      [("12:00:00", .notify { source := 0x008A, payload := [0x08, 0x01] }),
        ("12:00:01", .notify { source := 0x008A, payload := [] })]
      ).instanceChargingActive = none ∧
    (applyAll (fresh "connecting" 8)
      [("12:00:00", .notify { source := 0x008A, payload := [0x08, 0x01] }),
        ("12:00:01", .notify { source := 0x008A, payload := [] })]
      ).chargerConnected = some true := by
  decide

end Dashboard
end BoschBle
