import BoschBle.Bluez.Capture
import BoschBle.Bluez.ConnectOrder

/-!
# Diagnosing a pairing

`run_pair_diagnostic_attempt` pairs a device that is ready under a capture, and sums the
trace up whether the pairing succeeds or not.
-/

namespace BoschBle
namespace Bluez

open Foundation

/-- The backend as the summary of an attempt names it. -/
def PairBackend.text : PairBackend -> String
  | .dbus => "dbus"
  | .btmgmt => "btmgmt"

section Diagnosis

variable (executable address : String) (pairBackend : PairBackend) (privacy : Bool)

/-- The summary of an attempt that was not made. -/
def unattempted (visible : Bool) (name : Option String) (assistError : String) :
    PairAttemptSummary where
  attempt :=
    { pairBackend := pairBackend.text
      privacy := if privacy then "on" else "off"
      visible := some visible
      name := name
      assistError := some assistError
      tracePath := "" }
  createConnectionSeen := false
  enhancedConnectionCompleteSeen := false
  readRemoteFeaturesSeen := false
  disconnectReason := none
  attSeen := false
  smpSeen := false
  highestStage := .preConnection
  initialParameters := []

/-- What is known of an attempt that was made. -/
def attempted (name assistError : Option String) (tracePath : String) : Attempt where
  pairBackend := pairBackend.text
  privacy := if privacy then "device" else "off"
  visible := some true
  name := name
  assistError := assistError
  tracePath := tracePath

/-- The text of what has ended a pairing. -/
def assistError : TraceAction (Option String) :=
  Program.tryExcept
    (do
      let _ <- traced.embed (assistConnection executable address pairBackend privacy)
      return none)
    fun exc => return some (formatCliError exc)

/-- What is done under the capture. -/
def diagnosticBlock (tracePath : String) :
    Local Unit TraceCall TraceAnswer (Option String × String) := do
  let error <- Local.lift (assistError executable address pairBackend privacy)
  Local.lift (Program.perform (TraceCall.sleep 500))
  return (error, tracePath)

/-- Try to pair a device that is ready under a capture, and summarize what the capture
shows. -/
def runPairDiagnosticAttempt (scanTimeout : Nat) : TraceAction PairAttemptSummary := do
  let preflight <- traced.embed (preflightDevice address scanTimeout)
  if preflight.visible ≠ true then
    return unattempted pairBackend privacy false preflight.name
      "Device not visible during preflight"
  else if preflight.paired ≠ some true ∧ preflight.pairingAdvertisement = some false then
    return unattempted pairBackend privacy true preflight.name
      "Device visible but not in Bosch pairing advertisement mode"
  else do
    let captured <- Local.value
      (btmonTextCapture none (diagnosticBlock executable address pairBackend privacy)) ()
    let traceText <- performCapture .readTrace
    Program.done (summarizeBtmonTrace traceText
      (attempted pairBackend privacy preflight.name captured.1 captured.2) none)

variable {executable address pairBackend privacy} {trace : List TraceStep}

/-- A pairing that has ended within the trace, and the text of its exception. -/
inductive Assisted
    (executable address : String) (pairBackend : PairBackend) (privacy : Bool) :
    List TraceStep -> Option String -> Prop
  | paired
      {steps : List Step} {state : BluezState}
      (runs : (assistConnection executable address pairBackend privacy).Runs steps (.ok state)) :
      Assisted executable address pairBackend privacy (steps.map traced.lift) none
  | failed
      {steps : List Step} {exc : Exn}
      (caught : exc.type.isException = true)
      (runs : (assistConnection executable address pairBackend privacy).Runs steps
        (.error exc)) :
      Assisted executable address pairBackend privacy (steps.map traced.lift)
        (some (formatCliError exc))

theorem assistError_ok
    {error : Option String}
    (runs : (assistError executable address pairBackend privacy).Runs trace (.ok error)) :
    Assisted executable address pairBackend privacy trace error := by
  rcases Program.runs_tryExcept.mp runs with
    ⟨_, same, returns⟩ | ⟨_, _, impossible, _⟩ | ⟨first, second, exc, rfl, caught, raises, handles⟩
  · cases same
    obtain ⟨assists, rest, state, rfl, assisted, ends⟩ := Program.runs_bind_ok.mp returns
    obtain ⟨rfl, same⟩ := Program.runs_done.mp ends
    cases same
    obtain ⟨steps, rfl, pairs⟩ := traced.runs_embed.mp assisted
    rw [List.append_nil]
    exact Assisted.paired pairs
  · cases impossible
  · obtain ⟨rfl, same⟩ := Program.runs_done.mp handles
    cases same
    rw [List.append_nil]
    rcases Program.runs_bind_error.mp raises with fails | ⟨_, _, _, _, _, impossible⟩
    · obtain ⟨steps, rfl, pairs⟩ := traced.runs_embed.mp fails
      exact Assisted.failed caught pairs
    · obtain ⟨_, impossible⟩ := Program.runs_done.mp impossible
      cases impossible

theorem diagnosticBlock_ok
    {tracePath : String} {error : Option String} {path : String}
    (runs : Local.Runs (diagnosticBlock executable address pairBackend privacy tracePath) ()
      trace (.ok (error, path)) ()) :
    path = tracePath ∧ ∃ assists, trace = assists ++ [⟨.sleep 500, .ok ()⟩] ∧
      Assisted executable address pairBackend privacy assists error := by
  rcases Local.runs_lift_bind.mp runs with
    ⟨_, impossible, _⟩ | ⟨assists, rest, ended, rfl, assisted, continues⟩
  · cases impossible
  rcases Local.runs_lift_bind.mp continues with
    ⟨_, impossible, _⟩ | ⟨sleeps, none, _, rfl, slept, returns⟩
  · cases impossible
  obtain ⟨rfl, same, _⟩ := Local.runs_pure.mp returns
  cases same
  rw [Program.runs_perform.mp slept, List.append_nil]
  exact ⟨rfl, assists, rfl, assistError_ok assisted⟩

/-- The two checks before an attempt leave the devices that are ready. -/
theorem not_ready_iff
    {state : BluezState} :
    ¬ Ready state ↔ state.visible ≠ true ∨
      (state.paired ≠ some true ∧ state.pairingAdvertisement = some false) := by
  rw [Ready, not_and_or, not_or, not_not]

/-- A capture that has returned has paired between the wait for it and its end, and what is
read of it then is all that `btmon` has printed. -/
theorem diagnosticCapture_ok
    {earlier captures : List TraceStep} {error : Option String} {path : String} {text : Text}
    {last : Captured}
    (captured : (Local.value
      (btmonTextCapture none (diagnosticBlock executable address pairBackend privacy)) ()).Runs
        captures (.ok (error, path)))
    (goes : captureEnvironment.Goes {}
      (earlier ++ (captures ++ [⟨.capture .readTrace, .ok text⟩])) last) :
    last.Complete ∧ text = universalNewlines last.printed.flatten ∧
      ∃ before assists behind, captures = before ++ (assists ++ behind) ∧
        ⟨.capture .waitReady, .ok ()⟩ ∈ before ∧
          Assisted executable address pairBackend privacy assists error ∧
            ⟨.capture .writer, .ok ()⟩ ∈ behind := by
  obtain ⟨after, capturing⟩ := Local.runs_value_ok.mp captured
  rcases btmonTextCapture_runs capturing with
    ⟨_, ⟨_, impossible⟩, _⟩ | ⟨tracePath, before, inner, behind, ended, rfl, _, waited,
      blockRuns, returned⟩
  · cases impossible
  obtain ⟨rfl, written⟩ := returned _ rfl
  obtain ⟨rfl, assists, rfl, assisted⟩ := diagnosticBlock_ok blockRuns
  have awaited : ⟨.capture .writer, .ok ()⟩ ∈
      earlier ++ (before ++ (assists ++ [⟨.sleep 500, .ok ()⟩] ++ behind)) := by
    simp only [List.mem_append]
    exact Or.inr (Or.inr (Or.inr written))
  rw [← List.append_assoc] at goes
  refine ⟨Captured.complete_of_writer goes (List.mem_append_left _ awaited),
    Captured.read_of_writer goes awaited List.mem_cons_self, before, assists,
    ⟨.sleep 500, .ok ()⟩ :: behind, ?_, waited, assisted, List.mem_cons_of_mem _ written⟩
  rw [List.append_assoc]
  rfl

/-- An attempt that returns a summary has found the device unready, and then has neither
paired nor captured anything; or it has paired under a capture, behind the wait for it and
before its end, and whether the pairing has succeeded or not, the summary is of all that
`btmon` has printed until it exited. -/
theorem runPairDiagnosticAttempt_report
    {scanTimeout : Nat} {summary : PairAttemptSummary} {last : Captured}
    (runs : (runPairDiagnosticAttempt executable address pairBackend privacy scanTimeout).Runs
      trace (.ok summary))
    (goes : captureEnvironment.Goes {} trace last) :
    ∃ reads rest preflight, trace = reads.map traced.lift ++ rest ∧
      (preflightDevice address scanTimeout).Runs reads (.ok preflight) ∧
        (¬ Ready preflight ∧ rest = [] ∧
            (∃ visible error, summary =
              unattempted pairBackend privacy visible preflight.name error) ∨
          Ready preflight ∧ last.Complete ∧
            ∃ before assists behind error tracePath, rest = before ++ (assists ++ behind) ∧
              ⟨.capture .waitReady, .ok ()⟩ ∈ before ∧
              Assisted executable address pairBackend privacy assists error ∧
              ⟨.capture .writer, .ok ()⟩ ∈ behind ∧
                summary = summaryOf (universalNewlines last.printed.flatten)
                  (attempted pairBackend privacy preflight.name error tracePath) none) := by
  obtain ⟨first, rest, preflight, rfl, looks, continues⟩ := Program.runs_bind_ok.mp runs
  obtain ⟨reads, rfl, found⟩ := traced.runs_embed.mp looks
  refine ⟨reads, rest, preflight, rfl, found, ?_⟩
  split at continues
  case isTrue invisible =>
    obtain ⟨rfl, same⟩ := Program.runs_done.mp continues
    exact Or.inl ⟨not_ready_iff.mpr (Or.inl invisible), rfl, _, _, Except.ok.inj same⟩
  case isFalse visible =>
    split at continues
    case isTrue notPairing =>
      obtain ⟨rfl, same⟩ := Program.runs_done.mp continues
      exact Or.inl ⟨not_ready_iff.mpr (Or.inr notPairing), rfl, _, _, Except.ok.inj same⟩
    case isFalse pairing =>
      have ready : Ready preflight := by
        by_contra unready
        exact (not_ready_iff.mp unready).elim visible pairing
      obtain ⟨captures, reading, ⟨error, path⟩, rfl, captured, sums⟩ :=
        Program.runs_bind_ok.mp continues
      obtain ⟨asks, none, text, rfl, asked, summarized⟩ := Program.runs_bind_ok.mp sums
      obtain ⟨rfl, same⟩ := Program.runs_done.mp summarized
      rw [Program.runs_perform.mp asked] at goes ⊢
      obtain ⟨complete, text_eq, before, assists, behind, rfl, waited, assisted, written⟩ :=
        diagnosticCapture_ok captured goes
      refine Or.inr ⟨ready, complete, before, assists,
        behind ++ [⟨.capture .readTrace, .ok text⟩], error, path, ?_, waited, assisted,
        List.mem_append_left _ written, ?_⟩
      · simp only [List.append_assoc]
        rfl
      · rw [← text_eq]
        exact Except.ok.inj same

/-- A bike in pairing mode shows up. -/
def shownSteps : List Step :=
  ⟨.scan "00:04:63:AA:BB:CC" 5,
    .ok (some ⟨some "00:04:63:AA:BB:CC", some "smart system eBike", none⟩,
      some ⟨some [(BOSCH_MANUFACTURER_ID, [0x10, 0xeb, 1, 3, 0, 1])]⟩)⟩ ::
    readSteps "Paired: no\n"

/-- It is paired at the second try, under a capture. -/
def pairedCapture : List TraceStep :=
  [⟨.capture .makeTrace, .ok "btmon.log"⟩] ++
    ([⟨.capture .create, .ok ()⟩, ⟨.capture .waitReady, .ok ()⟩] ++
      ((retriedSteps.map traced.lift ++ [⟨.sleep 500, .ok ()⟩]) ++
        [⟨.capture .exited, .ok false⟩, ⟨.capture .exited, .ok true⟩,
          ⟨.capture .writer, .ok ()⟩]))

/-- What `btmon` prints meanwhile. -/
def smpLines : List Text :=
  ["Bluetooth monitor\n", " SMP: Pairing Request\n"].map String.toList

/-- The whole attempt. -/
def pairedSteps : List TraceStep :=
  shownSteps.map traced.lift ++
    (pairedCapture ++ [⟨.capture .readTrace, .ok (universalNewlines smpLines.flatten)⟩])

theorem pairedSteps_goes :
    captureEnvironment.Goes {} pairedSteps
      { copying smpLines with exited := true, writer := some (.ok ()) } := by
  have announced : [banner ++ ['\n']].any (Text.contains banner) = true := by
    decide
  apply (goes_aside (by decide) _).trans
  have captured := @goes_capture
    (retriedSteps.map traced.lift ++ [⟨.sleep 500, .ok ()⟩]) _ announced (by decide)
    [" SMP: Pairing Request\n".toList] (some [])
  apply (Environment.Goes.answers (Captured.Answers.makeTrace "btmon.log" rfl) captured).trans
  exact .answers (.readTrace rfl) (.stays _)

theorem pairedCapture_runs :
    Local.Runs (btmonTextCapture none
      (diagnosticBlock "python" "00:04:63:AA:BB:CC" .btmgmt false)) () pairedCapture
      (.ok (none, "btmon.log")) () := by
  have pairs : ∃ state, (assistConnection "python" "00:04:63:AA:BB:CC" .btmgmt false).Runs
      retriedSteps (.ok state) := by
    apply Exists.intro
    repeat first | exact Program.Runs.done | apply Program.Runs.ask
  obtain ⟨state, assists⟩ := pairs
  have assisted : (assistError "python" "00:04:63:AA:BB:CC" .btmgmt false).Runs
      (retriedSteps.map traced.lift) (.ok none) := by
    apply Program.runs_tryExcept.mpr
    refine Or.inl ⟨none, rfl, Program.runs_bind_ok.mpr ?_⟩
    exact ⟨_, [], state, (List.append_nil _).symm, traced.runs_lift assists, Program.Runs.done⟩
  have named : (capturePath none).Runs [⟨.capture .makeTrace, .ok "btmon.log"⟩]
      (.ok "btmon.log") :=
    Program.runs_perform.mpr rfl
  apply btmonTextCapture_of_block named
  apply Local.runs_lift_bind.mpr
  refine Or.inr ⟨_, [_], none, rfl, assisted, ?_⟩
  apply Local.runs_lift_bind.mpr
  refine Or.inr ⟨[_], [], (), rfl, Program.runs_perform.mpr rfl, ?_⟩
  exact Local.runs_pure.mpr ⟨rfl, rfl, rfl⟩

/-- An attempt that succeeds, under a capture that sees it. -/
theorem runPairDiagnosticAttempt_report_paired :
    ∃ summary before assists behind error, ∃ reads : List Step,
      (runPairDiagnosticAttempt "python" "00:04:63:AA:BB:CC" .btmgmt false 5).Runs pairedSteps
        (.ok summary) ∧
      pairedSteps = reads.map traced.lift ++ (before ++ (assists ++ behind)) ∧
        ⟨.capture .waitReady, .ok ()⟩ ∈ before ∧
          Assisted "python" "00:04:63:AA:BB:CC" .btmgmt false assists error ∧
            summary.smpSeen = true := by
  have shows : ∃ preflight, (preflightDevice "00:04:63:AA:BB:CC" 5).Runs shownSteps
      (.ok preflight) ∧ preflight.visible = true ∧
        preflight.pairingAdvertisement = some true := by
    apply Exists.intro
    constructor
    · repeat first | exact Program.Runs.done | apply Program.Runs.ask
    · exact ⟨rfl, by decide⟩
  obtain ⟨preflight, shows, visible, pairing⟩ := shows
  have runs : ∃ summary,
      (runPairDiagnosticAttempt "python" "00:04:63:AA:BB:CC" .btmgmt false 5).Runs pairedSteps
        (.ok summary) := by
    apply Exists.intro
    apply Program.runs_bind_ok.mpr
    refine ⟨_, _, preflight, rfl, traced.runs_lift shows, ?_⟩
    rw [if_neg (not_not_intro visible), if_neg]
    · apply Program.runs_bind_ok.mpr
      refine ⟨pairedCapture, [_], _, rfl, Local.runs_value_ok.mpr ⟨(), pairedCapture_runs⟩, ?_⟩
      apply Program.runs_bind_ok.mpr
      exact ⟨[_], [], _, rfl, Program.runs_perform.mpr rfl, Program.Runs.done⟩
    · rintro ⟨_, notPairing⟩
      rw [pairing] at notPairing
      cases notPairing
  obtain ⟨summary, runs⟩ := runs
  obtain ⟨reads, rest, found, trace_eq, looks, ⟨unready, rfl, _⟩ |
    ⟨_, _, before, assists, behind, error, tracePath, rfl, waited, assisted, _, summary_eq⟩⟩ :=
      runPairDiagnosticAttempt_report runs pairedSteps_goes
  · have captures : ⟨.capture .makeTrace, .ok "btmon.log"⟩ ∈ pairedSteps :=
      List.mem_append_right _ List.mem_cons_self
    rw [trace_eq, List.append_nil] at captures
    obtain ⟨step, _, impossible⟩ := List.mem_map.mp captures
    cases impossible
  · refine ⟨summary, before, assists, behind, error, reads, runs, trace_eq, waited, assisted, ?_⟩
    rw [summary_eq]
    change traceProtocolSeen (universalNewlines smpLines.flatten) smpNames = true
    decide

end Diagnosis
end Bluez
end BoschBle
