import BoschBle.Bluez.Environment
import BoschBle.Foundation.Embedding

/-!
# Waiting for a device state

`wait_for_state` reads the state of a device again and again until it has the flags
asked for or the deadline is over.  A run of its loop is a list of rounds, and what
ends the loop is read off them.  What the functions print is left out.
-/

namespace BoschBle
namespace Bluez

open Foundation

/-- How long to wait for a state. -/
def DEFAULT_WAIT_TIMEOUT : Nat := 8 * second

/-- How long to pause between two reads. -/
def DEFAULT_WAIT_INTERVAL : Nat := 1 * second

/-! ## The clock -/

/-- A call of code that also reads the clock of the event loop. -/
inductive TimedCall
  | system (call : Call)
  /-- `loop.time()`.  The clock counts microseconds, and a reading says how far it has
  advanced since the last one, apart from the pauses in between. -/
  | time
  deriving DecidableEq

/-- What such a call returns. -/
@[reducible] def TimedAnswer : TimedCall -> Type
  | .system call => Answer call
  | .time => Nat

/-- A program that also reads the clock. -/
abbrev TimedAction (α : Type) : Type :=
  Program TimedCall TimedAnswer α

/-- An exchange of such a program. -/
abbrev TimedStep : Type :=
  Exchange TimedCall TimedAnswer

/-- Make such a call. -/
def performTimed (call : TimedCall) : TimedAction (TimedAnswer call) :=
  Program.perform call

/-- The calls to the system, which the clock does not answer. -/
def system : Embedding Call Answer TimedCall TimedAnswer where
  call := .system
  answer := fun _ => rfl

/-! ## Waiting -/

/-- The flags that are asked for, where they are. -/
structure Flags where
  paired : Option Bool := none
  connected : Option Bool := none
  servicesResolved : Option Bool := none
  deriving DecidableEq

theorem interval_pos : 0 < DEFAULT_WAIT_INTERVAL := by
  decide

/-- How long to wait, and how long to pause between two reads, in microseconds as the
clock counts them. -/
structure Waiting where
  timeout : Nat := DEFAULT_WAIT_TIMEOUT
  interval : Nat := DEFAULT_WAIT_INTERVAL
  /-- Time passes in a pause. -/
  positive : 0 < interval := by decide

/-- `matches` in `wait_for_state`. -/
def Flags.matches (flags : Flags) (state : BluezState) : Bool :=
  flags.paired.all (fun paired => state.paired == some paired) &&
    flags.connected.all (fun connected => state.connected == some connected) &&
      flags.servicesResolved.all fun resolved => state.servicesResolved == some resolved

/-- A flag as it is printed. -/
def boolText (value : Bool) : String :=
  if value then "True" else "False"

/-- The flags in the text of the error. -/
def Flags.expected (flags : Flags) : String :=
  let expectedFlags :=
    (flags.paired.map fun paired => "paired=" ++ boolText paired).toList ++
      (flags.connected.map fun connected => "connected=" ++ boolText connected).toList ++
        (flags.servicesResolved.map fun resolved =>
          "services_resolved=" ++ boolText resolved).toList
  if expectedFlags = [] then "requested state" else ", ".intercalate expectedFlags

/-- What `wait_for_state` says behind its deadline. -/
def unreached (address : String) (flags : Flags) : Exn :=
  ⟨.runtimeError, "BlueZ did not reach " ++ flags.expected ++ " for " ++ address ++ "."⟩

/-- A read of the state without a scan. -/
def readState (address : String) : TimedAction BluezState :=
  system.embed (readDeviceState address none none none)

/-- The flags without the one that nothing tells without `busctl`. -/
def targetFlags (flags : Flags) (lastState : BluezState) : Action Flags :=
  match flags.servicesResolved with
  | none => return flags
  | some _ => do
      let available <- busctlAvailable
      if !available && lastState.servicesResolved.isNone then
        return { flags with servicesResolved := none }
      else
        return flags

section Wait

variable (address : String)

/-- The loop of `wait_for_state`, at a time since the deadline was set. -/
def waitLoop
    (target : Flags)
    (waiting : Waiting)
    (now : Nat)
    (lastState : BluezState) : TimedAction BluezState :=
  if target.matches lastState then
    return lastState
  else do
    let elapsed <- performTimed .time
    if _ : waiting.timeout ≤ now + elapsed then
      Program.raise (unreached address target)
    else do
      performTimed (.system (.sleep waiting.interval))
      let lastState <- readState address
      waitLoop target waiting (now + elapsed + waiting.interval) lastState
termination_by waiting.timeout - now
decreasing_by
  have paused := waiting.positive
  omega

/-- `wait_for_state`.  The deadline is set behind the first read. -/
def waitForState (flags : Flags) (waiting : Waiting := {}) : TimedAction BluezState := do
  let lastState <- readState address
  let target <- system.embed (targetFlags flags lastState)
  let _ <- performTimed .time
  waitLoop address target waiting 0 lastState

/-- Whether `except RuntimeError` catches an exception. -/
def isRuntimeError (exc : Exn) : Bool :=
  match exc.type with
  | .runtimeError => true
  | .user name =>
      ["BikeStateError", "BoschSecurityDescriptorMissing", "ConnectionSetupError"].contains name
  | _ => false

/-- What `wait_for_services` says where it gives up. -/
def unresolved (lastState : BluezState) : Exn :=
  ⟨.runtimeError,
    match lastState.connected with
    | some true => "BlueZ connected to " ++ address ++ " but services did not resolve."
    | some false =>
        "BlueZ could not keep " ++ address ++ " connected long enough to resolve services."
    | none => "BlueZ did not report service resolution for " ++ address ++ "."⟩

/-- `wait_for_services`. -/
def waitForServices (waiting : Waiting := {}) : TimedAction BluezState := do
  let initialState <- readState address
  let available <- system.embed busctlAvailable
  if !available && initialState.servicesResolved.isNone then
    return initialState
  else
    Program.tryExcept
      (waitForState address { connected := some true, servicesResolved := some true } waiting)
      fun exc =>
        if isRuntimeError exc then do
          let lastState <- readState address
          Program.raise (unresolved address lastState)
        else
          Program.raise exc

end Wait
end Bluez
end BoschBle
