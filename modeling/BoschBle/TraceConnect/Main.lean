import BoschBle.Bluez.Capture
import BoschBle.Bluez.Controller
import BoschBle.Bluez.WaitRuns

/-!
# One connection experiment

`trace_connect.py` connects a bike under a capture and says how far that has come.  What
it prints is left out.
-/

namespace BoschBle
namespace TraceConnect

open Foundation
open Bluez (BluezState CaptureCall Captured PairAttemptSummary TraceAction TraceAnswer TraceCall
  TraceStep captureEnvironment performCapture timed traced)

/-- How an experiment ends. -/
inductive ConnectOutcome
  | bikeUnavailable
  | setupFailed
  | connectFailed
  | parametersUnknown
  | parametersDiffer
  | noAtt
  | baselineReached
  deriving DecidableEq

/-- The outcome as it is written. -/
def ConnectOutcome.value : ConnectOutcome -> String
  | .bikeUnavailable => "bike_unavailable"
  | .setupFailed => "setup_failed"
  | .connectFailed => "connect_failed"
  | .parametersUnknown => "parameters_unknown"
  | .parametersDiffer => "parameters_differ"
  | .noAtt => "no_att"
  | .baselineReached => "baseline_reached"

/-! ## The experiment -/

/-- The variables of `capture_connection` that its `try` assigns. -/
structure Experiment where
  /-- The outcome says that the baseline is reached. -/
  baseline : Bool := false
  preflight : Option BluezState := none

section Experiment

variable (host : Bluez.HostProcess) (executable address directory : String)

/-- The flags that a connected bike has. -/
def baselineFlags : Bluez.Flags :=
  { connected := some true, servicesResolved := some true }

/-- The block of the capture. -/
def experiment : Local Experiment TraceCall TraceAnswer Unit := do
  let preflight <- Local.lift
    (traced.embed (Bluez.preflightDevice address Bluez.DEFAULT_SCAN_TIMEOUT))
  Local.assign fun locals => { locals with preflight := some preflight }
  Local.lift (Program.done (Bluez.assertPairingAdvertisementReady preflight address))
  let _ <- Local.lift (traced.embed (Bluez.connectDevice executable address false))
  let _ <- Local.lift (timed.embed (Bluez.waitForState address baselineFlags
    ⟨Bluez.DEFAULT_WAIT_TIMEOUT, Bluez.DEFAULT_WAIT_INTERVAL, Bluez.interval_pos⟩))
  Local.lift (Program.perform (TraceCall.sleep 3000))
  let state <- Local.lift (traced.embed (Bluez.readDeviceState address none none none))
  if state.connected == some true && state.servicesResolved == some true then
    Local.assign fun locals => { locals with baseline := true }
  else
    return ()

/-- The file of the trace. -/
def tracePath : String :=
  directory ++ "/btmon.log"

/-- The `try` of `capture_connection`. -/
def tryConnection : Local Experiment TraceCall TraceAnswer Unit := do
  Local.lift (traced.embed (Bluez.assertControllerReady host address none))
  Bluez.btmonTextCapture (some (tracePath directory)) fun _ => experiment executable address

/-- The outcome so far. -/
def Experiment.outcome (locals : Experiment) : ConnectOutcome :=
  if locals.baseline then .baselineReached else .connectFailed

/-- The outcome and the error behind the `except` clauses. -/
def caught (locals : Experiment) : Except Exn Unit -> TraceAction (ConnectOutcome × Option String)
  | .ok _ => return (locals.outcome, none)
  | .error exc =>
      if exc.type = .user "BikeStateError" then
        return (.bikeUnavailable, some (Bluez.formatCliError exc))
      else if exc.type = .user "ConnectionSetupError" then
        return (.setupFailed, some (Bluez.formatCliError exc))
      else if exc.type.isException then
        return (locals.outcome, some (Bluez.formatCliError exc))
      else
        Program.raise exc

/-- The text of the trace, or nothing where there is no file. -/
def readTrace : TraceAction Text := do
  let known <- performCapture .traceExists
  if known then
    performCapture .readTrace
  else
    return []

/-- What the summary says about an outcome that has reached the baseline. -/
def classify (outcome : ConnectOutcome) (summary : PairAttemptSummary) : ConnectOutcome :=
  if outcome ≠ .baselineReached then outcome
  else if summary.initialParameters = [] then .parametersUnknown
  else if summary.initialParameters.any fun parameters =>
      parameters ≠ Bluez.PHONE_LIKE_PARAMETERS then .parametersDiffer
  else if summary.attSeen = false then .noAtt
  else outcome

/-- What the summary says of the attempt itself. -/
def connectAttempt (locals : Experiment) (error : Option String) : Bluez.Attempt where
  pairBackend := "connect"
  privacy := "off"
  visible := locals.preflight.map BluezState.visible
  name := locals.preflight.bind BluezState.name
  assistError := error
  tracePath := tracePath directory

/-- What follows behind the `try`. -/
def conclude (locals : Experiment) (outcome : ConnectOutcome) (error : Option String) :
    TraceAction ConnectOutcome := do
  let text <- readTrace
  let summary <- Program.done
    (Bluez.summarizeBtmonTrace text (connectAttempt directory locals error) (some address))
  Program.perform (TraceCall.writeSummary (directory ++ "/summary.json") address
    (classify outcome summary).value summary)
  return classify outcome summary

/-- Try the experiment, turn what it raised into an outcome, and write the report. -/
def captureConnection : TraceAction ConnectOutcome := do
  let ended <- tryConnection host executable address directory {}
  let (outcome, error) <- caught ended.2 ended.1
  conclude address directory ended.2 outcome error

end Experiment
end TraceConnect
end BoschBle
