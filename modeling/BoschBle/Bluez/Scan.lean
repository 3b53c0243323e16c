import BoschBle.Bluez.Environment
import BoschBle.Foundation.Register
import BoschBle.Foundation.Transition

/-!
# Scanning for a device

The scanner calls back from its start until the end of its stop, so the callback
runs before, during and after the wait for a pairing-ready advertisement.  The
callback is a latch: it keeps the newest advertisement of the device until one
is pairing-ready, and that one from then on.
-/

namespace BoschBle
namespace Bluez

open Foundation

/-- What `scan_device_advertisement` returns. -/
abbrev Found : Type :=
  Option Device × Option AdvertisementData

/-- Where a scan is.  A stop may be under way with an exception pending. -/
inductive Phase
  | starting
  | waiting
  | stopping (pending : Option Exn)
  | finished (result : Except Exn Found)

/-- A scan: the variables that the callback writes, and the event it sets. -/
structure Scan where
  phase : Phase := .starting
  foundDevice : Option Device := none
  foundAdvertisement : Option AdvertisementData := none
  pairingSeen : Bool := false

/-- A call of the detection callback. -/
structure Callback where
  device : Device
  advertisementData : Option AdvertisementData
  deriving DecidableEq

/-- What can happen next in a scan. -/
inductive ScanEvent
  | detected (callback : Callback)
  | startReturns
  | startRaises (exc : Exn)
  | pairingSeen
  | timeout
  /-- The wait is cancelled. -/
  | waitRaises (exc : Exn)
  | stopReturns
  | stopRaises (exc : Exn)

/-- The callback is for the device. -/
def Callback.isTarget (address : String) (callback : Callback) : Bool :=
  match callback.device.address with
  | none => false
  | some deviceAddress => normalizeAddress deviceAddress == normalizeAddress address

/-- The callback carries a pairing-ready Bosch advertisement. -/
def Callback.isReady (callback : Callback) : Bool :=
  isBoschPairingAdvertisement callback.advertisementData == some true

namespace Scan

/-- The detection callback. -/
def detectionCallback (address : String) (scan : Scan) (callback : Callback) : Scan :=
  if !callback.isTarget address then scan
  else if scan.pairingSeen then scan
  else
    { scan with
      foundDevice := some callback.device
      foundAdvertisement := callback.advertisementData
      pairingSeen := callback.isReady }

/-- One event of a scan for the device. -/
def step (address : String) (scan : Scan) (event : ScanEvent) : Option Scan :=
  match scan.phase, event with
  | .finished _, .detected _ => none
  | _, .detected callback => some (scan.detectionCallback address callback)
  | .starting, .startReturns => some { scan with phase := .waiting }
  | .starting, .startRaises exc => some { scan with phase := .finished (.error exc) }
  | .waiting, .pairingSeen =>
      if scan.pairingSeen then some { scan with phase := .stopping none } else none
  | .waiting, .timeout => some { scan with phase := .stopping none }
  | .waiting, .waitRaises exc => some { scan with phase := .stopping (some exc) }
  | .stopping none, .stopReturns =>
      some { scan with
        phase := .finished (.ok (scan.foundDevice, scan.foundAdvertisement)) }
  | .stopping (some exc), .stopReturns =>
      some { scan with phase := .finished (.error exc) }
  | .stopping _, .stopRaises exc => some { scan with phase := .finished (.error exc) }
  | _, _ => none

end Scan

/-! ## What a scan returns -/

/-- The callbacks for the device, in order. -/
def targetCallbacks (address : String) (events : List ScanEvent) : List Callback :=
  events.filterMap fun event =>
    match event with
    | .detected callback => if callback.isTarget address then some callback else none
    | _ => none

/-- The callback for the device that counts, as what a scan returns. -/
def foundIn (callbacks : List Callback) : Found :=
  match firstOrLast Callback.isReady callbacks with
  | none => (none, none)
  | some callback => (some callback.device, callback.advertisementData)

theorem targetCallbacks_append (address : String) (first second : List ScanEvent) :
    targetCallbacks address (first ++ second) =
      targetCallbacks address first ++ targetCallbacks address second :=
  List.filterMap_append

/-- Something was found exactly when there was a callback for the device. -/
theorem foundIn_isSome (callbacks : List Callback) :
    (foundIn callbacks).1.isSome = true ↔ callbacks ≠ [] := by
  rw [← firstOrLast_isSome Callback.isReady callbacks, foundIn]
  cases firstOrLast Callback.isReady callbacks with
  | none => simp
  | some callback => simp

/-- The advertisement that is returned is pairing-ready exactly when one for the
device was. -/
theorem isReady_foundIn (callbacks : List Callback) :
    isBoschPairingAdvertisement (foundIn callbacks).2 = some true ↔
      ∃ callback ∈ callbacks, callback.isReady = true := by
  unfold foundIn
  rw [← List.any_eq_true]
  cases held : firstOrLast Callback.isReady callbacks with
  | none =>
      have nothing : callbacks = [] := by
        have isSome := firstOrLast_isSome Callback.isReady callbacks
        rw [held] at isSome
        by_contra other
        exact absurd (isSome.mpr other) (by decide)
      rw [nothing]
      exact ⟨fun impossible => (by cases impossible), fun impossible => (by cases impossible)⟩
  | some callback =>
      rw [← firstOrLast_kind held]
      exact beq_iff_eq.symm

/-- Where every callback carries advertisement data, so does what is found. -/
theorem foundIn_known
    {callbacks : List Callback}
    (delivered : ∀ callback ∈ callbacks, callback.advertisementData ≠ none)
    (present : callbacks ≠ []) :
    isBoschPairingAdvertisement (foundIn callbacks).2 ≠ none := by
  rw [← firstOrLast_isSome Callback.isReady, Option.isSome_iff_exists] at present
  obtain ⟨callback, held⟩ := present
  obtain ⟨data, data_eq⟩ := Option.ne_none_iff_exists'.mp
    (delivered callback (mem_of_firstOrLast held))
  rw [foundIn, held]
  dsimp only
  rw [data_eq]
  exact isBoschPairingAdvertisement_ne_none data

/-! ## Runs of a scan -/

namespace Scan

/-- A step either is a callback or changes the phase only. -/
theorem step_cases
    {address : String} {before after : Scan} {event : ScanEvent}
    (stepped : step address before event = some after) :
    (∃ callback, event = .detected callback ∧
        after = before.detectionCallback address callback ∧
          ∀ result, before.phase = .finished result -> False) ∨
      targetCallbacks address [event] = [] ∧
        ∃ phase, after = { before with phase := phase } ∧
          ∀ found, phase = .finished (.ok found) ->
            found = (before.foundDevice, before.foundAdvertisement) := by
  unfold step at stepped
  split at stepped
  case h_1 => cases stepped
  case h_2 callback running =>
    exact Or.inl ⟨callback, rfl, (Option.some.inj stepped).symm, running⟩
  case h_5 =>
    rw [Option.ite_none_right_eq_some, Option.some.injEq] at stepped
    cases stepped.2
    exact Or.inr ⟨rfl, _, rfl, by simp⟩
  case h_11 => cases stepped
  -- the other events change the phase
  all_goals
    cases stepped
    exact Or.inr ⟨rfl, _, rfl, by simp⟩

/-- What holds in every state of a scan. -/
structure Sound
    (address : String)
    (events : List ScanEvent)
    (scan : Scan) : Prop where
  found : (scan.foundDevice, scan.foundAdvertisement) =
    foundIn (targetCallbacks address events)
  seen : scan.pairingSeen = (targetCallbacks address events).any Callback.isReady
  result : ∀ found, scan.phase = .finished (.ok found) ->
    found = (scan.foundDevice, scan.foundAdvertisement)

/-- Events without a callback for the device leave the latch as it is. -/
theorem Sound.extend
    {address : String} {events : List ScanEvent} {before after : Scan}
    {event : ScanEvent}
    (sound : Sound address events before)
    (silent : targetCallbacks address [event] = [])
    (same : after = { before with phase := after.phase })
    (result : ∀ found, after.phase = .finished (.ok found) ->
      found = (before.foundDevice, before.foundAdvertisement)) :
    Sound address (events ++ [event]) after := by
  rw [same]
  constructor
  · rw [targetCallbacks_append, silent, List.append_nil]
    exact sound.found
  · rw [targetCallbacks_append, silent, List.append_nil]
    exact sound.seen
  · exact result

/-- A callback writes what the latch writes. -/
theorem Sound.detected
    {address : String} {events : List ScanEvent} {scan : Scan}
    (sound : Sound address events scan)
    (running : ∀ result, scan.phase = .finished result -> False)
    (callback : Callback) :
    Sound address (events ++ [.detected callback])
      (scan.detectionCallback address callback) := by
  have unfinished (found : Found) (ended : scan.phase = .finished (.ok found)) :
      found = (scan.foundDevice, scan.foundAdvertisement) :=
    (running _ ended).elim
  unfold detectionCallback
  cases isTarget : callback.isTarget address with
  | false =>
      apply sound.extend (by simp [targetCallbacks, isTarget]) rfl unfinished
  | true =>
      have targets_eq : targetCallbacks address (events ++ [.detected callback]) =
          targetCallbacks address events ++ [callback] := by
        rw [targetCallbacks_append]
        simp [targetCallbacks, isTarget]
      have held := firstOrLast_append_singleton Callback.isReady
        (targetCallbacks address events) callback
      rw [← sound.seen] at held
      cases seen : scan.pairingSeen with
      | true =>
          rw [seen, if_pos rfl] at held
          constructor
          · rw [targets_eq, foundIn, held]
            exact sound.found
          · rw [targets_eq, List.any_append, ← sound.seen, seen]
            exact seen
          · exact unfinished
      | false =>
          rw [seen, if_neg Bool.false_ne_true] at held
          constructor
          · rw [targets_eq, foundIn, held]
            rfl
          · rw [targets_eq, List.any_append, ← sound.seen, seen]
            simp
          · intro found ended
            exact (running _ ended).elim

/-- The callbacks that a scan with Bleak delivers carry advertisement data. -/
def Delivers (_ : Scan) : ScanEvent -> Prop
  | .detected callback => callback.advertisementData ≠ none
  | _ => True

instance (scan : Scan) (event : ScanEvent) : Decidable (Delivers scan event) :=
  match event with
  | .detected callback => inferInstanceAs (Decidable (callback.advertisementData ≠ none))
  | .startReturns | .startRaises _ | .pairingSeen | .timeout | .waitRaises _
  | .stopReturns | .stopRaises _ => isTrue trivial

theorem sound_of_run
    {address : String} {events : List ScanEvent} {scan : Scan}
    {allowed : Scan -> ScanEvent -> Prop}
    (run : Run (step address) allowed {} events scan) :
    Sound address events scan := by
  refine run.invariant_events ?_ ?_
  · exact ⟨rfl, rfl, fun found impossible => by cases impossible⟩
  · intro events before event after sound _ stepped
    rcases step_cases stepped with ⟨callback, rfl, rfl, running⟩ | ⟨silent, phase, rfl, result⟩
    · exact sound.detected running callback
    · exact sound.extend silent rfl result

theorem delivered_of_run
    {address : String} {events : List ScanEvent} {scan : Scan}
    (run : Run (step address) Delivers {} events scan) :
    ∀ callback ∈ targetCallbacks address events, callback.advertisementData ≠ none := by
  induction run with
  | nil =>
      intro callback impossible
      cases impossible
  | @snoc events before after event _ permitted stepped delivered =>
      rw [targetCallbacks_append, List.forall_mem_append]
      refine ⟨delivered, ?_⟩
      cases event with
      | detected callback =>
          intro target present
          cases isTarget : callback.isTarget address with
          | true =>
              simp only [targetCallbacks, List.filterMap_cons, isTarget, if_pos,
                List.filterMap_nil, List.mem_singleton] at present
              rw [present]
              exact permitted
          | false => simp [targetCallbacks, isTarget] at present
      | _ => simp [targetCallbacks]

end Scan

/-- A scan returns the first pairing-ready callback for the device, or the last
callback for it where none is.  A preflight that returns has scanned and then only
read, and where its scan is that one, the readiness check accepts its state exactly
when there was a callback for the device and the device is paired or some callback for
it was pairing-ready. -/
theorem scan_and_readiness
    (address : String)
    (scanTimeout : Nat)
    {events : List ScanEvent} {scan : Scan} {found : Found}
    (run : Run (Scan.step address) Scan.Delivers {} events scan)
    (returns : scan.phase = .finished (.ok found)) :
    found = foundIn (targetCallbacks address events) ∧
      ∀ trace state, (preflightDevice address scanTimeout).Runs trace (.ok state) ->
        ∃ scanned reads, trace = ⟨.scan address scanTimeout, .ok scanned⟩ :: reads ∧
          (∀ step ∈ reads, step.call.IsQuery) ∧
            (scanned = found ->
              (assertPairingAdvertisementReady state address = .ok () ↔
                targetCallbacks address events ≠ [] ∧
                  (state.paired = some true ∨
                    ∃ callback ∈ targetCallbacks address events,
                      callback.isReady = true))) := by
  have sound := Scan.sound_of_run run
  have found_eq : found = foundIn (targetCallbacks address events) :=
    (sound.result found returns).trans sound.found
  refine ⟨found_eq, ?_⟩
  intro trace state runs
  obtain ⟨scanned, reads, trace_eq, queries, visible_eq, advertisement_eq⟩ :=
    runs_preflightDevice_ok runs
  refine ⟨scanned, reads, trace_eq, queries, ?_⟩
  rintro rfl
  rw [assertPairingAdvertisementReady_ok_iff, Ready, visible_eq, advertisement_eq,
    found_eq, foundIn_isSome, and_congr_right_iff]
  intro present
  rw [← isReady_foundIn]
  have known := foundIn_known (Scan.delivered_of_run run) present
  generalize isBoschPairingAdvertisement (foundIn (targetCallbacks address events)).2 =
    advertisement at known
  apply or_congr_right
  cases advertisement with
  | none => exact absurd rfl known
  | some ready => cases ready <;> simp

/-- Another bike is ready, the bike itself only in its second advertisement, and
it advertises once more while the scanner stops.  A preflight with this scan, on a
host without `busctl`, is accepted. -/
theorem scan_and_readiness_late :
    let bike : Device := ⟨some "00:04:63:AA:BB:CC", some "smart system eBike", none⟩
    let pairing : AdvertisementData :=
      ⟨some [(BOSCH_MANUFACTURER_ID, [0x10, 0xeb, 1, 3, 0, 1])]⟩
    ∃ events scan state,
      Run (Scan.step "00:04:63:aa:bb:cc") Scan.Delivers {} events scan ∧
        scan.phase = .finished (.ok (some bike, some pairing)) ∧
          (preflightDevice "00:04:63:aa:bb:cc" 5).Runs
              [⟨.scan "00:04:63:aa:bb:cc" 5, .ok (some bike, some pairing)⟩,
                ⟨.runCommand ["bluetoothctl", "info", "00:04:63:aa:bb:cc"] 15,
                  .ok ⟨[], 0, "Paired: no", ""⟩⟩,
                ⟨.which "busctl", .ok none⟩]
              (.ok state) ∧
            state.paired = some false ∧
              assertPairingAdvertisementReady state "00:04:63:aa:bb:cc" = .ok () := by
  intro bike pairing
  let other : Device := ⟨some "AA:BB:CC:DD:EE:FF", none, none⟩
  let ordinary : AdvertisementData := ⟨some []⟩
  let events : List ScanEvent :=
    [.detected ⟨other, some pairing⟩, .startReturns, .detected ⟨bike, some ordinary⟩,
      .detected ⟨bike, some pairing⟩, .pairingSeen, .detected ⟨bike, some ordinary⟩,
      .stopReturns]
  have run : Run (Scan.step "00:04:63:aa:bb:cc") Scan.Delivers {} events _ :=
    Run.of_execute (Scan.step _) Scan.Delivers _ events rfl
  have preflight : (preflightDevice "00:04:63:aa:bb:cc" 5).Runs
      [⟨.scan "00:04:63:aa:bb:cc" 5, .ok (some bike, some pairing)⟩,
        ⟨.runCommand ["bluetoothctl", "info", "00:04:63:aa:bb:cc"] 15,
          .ok ⟨[], 0, "Paired: no", ""⟩⟩,
        ⟨.which "busctl", .ok none⟩]
      (.ok (buildState "00:04:63:aa:bb:cc" ⟨[], 0, "Paired: no", ""⟩ none (some bike)
        (some true) (some true))) := by
    repeat first | exact Program.Runs.done | apply Program.Runs.ask
  obtain ⟨scanned, reads, trace_eq, _, accepts⟩ :=
    (scan_and_readiness "00:04:63:aa:bb:cc" 5 run rfl).2 _ _ preflight
  have scanned_eq : scanned = (some bike, some pairing) := by
    cases trace_eq
    rfl
  refine ⟨events, _, _, run, rfl, preflight, by decide, (accepts scanned_eq).mpr ⟨?_, ?_⟩⟩
  · exact List.ne_nil_of_mem (a := ⟨bike, some pairing⟩) (by decide)
  · exact Or.inr ⟨⟨bike, some pairing⟩, by decide, by decide⟩

end Bluez
end BoschBle
