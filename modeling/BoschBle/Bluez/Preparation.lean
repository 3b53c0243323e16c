import BoschBle.Bluez.Connect

/-!
# What a preparation is

The traces of a connection attempt up to the connect itself.  A preparation runs
six controller commands, scans, checks what the scan says, and loads the
connection parameters; it is complete when all of that has succeeded, and it
ends at the first of them that fails.
-/

namespace BoschBle
namespace Bluez

open Foundation

/-! ## Kinds of calls -/

namespace Call

/-- The call pairs a device. -/
def pairs : Call -> Bool
  | .pair _ => true
  | .runCommand argv _ => ["sudo", "btmgmt", "pair"].isPrefixOf argv
  | _ => false

/-- The call connects a device. -/
def connects : Call -> Bool
  | .runCommand argv _ => ["bluetoothctl", "connect"].isPrefixOf argv
  | _ => false

/-- The call trusts a device. -/
def trusts : Call -> Bool
  | .setTrusted _ _ => true
  | _ => false

/-- The call is what a preparation is for. -/
def commits (call : Call) : Bool :=
  call.pairs || call.connects || call.trusts

/-- The call starts a preparation: it powers the controller off. -/
def starts (call : Call) : Bool :=
  call == .runCommand ["sudo", "btmgmt", "power", "off"] 15

/-- The call neither starts a preparation nor is what one is for. -/
def Quiet (call : Call) : Prop :=
  call.starts = false ∧ call.commits = false

theorem IsQuery.quiet {call : Call} (isQuery : call.IsQuery) : call.Quiet := by
  unfold IsQuery at isQuery
  split at isQuery
  · exact ⟨rfl, rfl⟩
  · constructor
    · simp [starts]
    · rfl
  · constructor
    · simp [starts]
    · rfl
  · constructor
    · simp [starts]
    · rfl
  · exact ⟨rfl, rfl⟩
  · exact ⟨rfl, rfl⟩
  · exact isQuery.elim

end Call

/-- The call is a command that has exited with status zero. -/
def Succeeded : Step -> Prop
  | ⟨.runCommand _ _, .ok result⟩ => result.returncode = 0
  | _ => False

/-! ## Preparations -/

/-- The commands that prepare the controller, in order. -/
def preparationCalls (privacy : Bool) : List Call :=
  [.runCommand ["sudo", "btmgmt", "power", "off"] 15,
    .runCommand ["sudo", "btmgmt", "set-sysconfig", "-v",
      "0017:2:1800", "0018:2:1800", "0019:2:0000", "001a:2:4800"] 15,
    .runCommand ["sudo", "btmgmt", "privacy", onOff privacy] 15,
    .runCommand ["sudo", "btmgmt", "bondable", "on"] 15,
    .runCommand ["sudo", "btmgmt", "power", "on"] 15,
    .runCommand ["bluetoothctl", "pairable", "on"] 15]

/-- The command that loads the connection parameters. -/
def parametersCall (executable address : String) : Call :=
  .runCommand
    ["sudo", "-n", executable, "-m", "bosch_ble.mgmt", "load-conn-params",
      "--address", address, "--controller-index", "0", "--address-type", "1",
      "--min-interval", "24", "--max-interval", "24", "--latency", "0",
      "--timeout", "72"] 20

/-- All commands for the controller have succeeded. -/
structure ControllerPrepared (privacy : Bool) (steps : List Step) : Prop where
  calls : steps.map Exchange.call = preparationCalls privacy
  succeeded : ∀ step ∈ steps, Succeeded step

section Preparation

variable (executable address : String) (privacy : Bool)

/-- A complete preparation, and the state that its scan has reported: the
commands for the controller have succeeded, then the scan has reported a device
that is ready, and then the parameters were loaded. -/
inductive Prepared : List Step -> BluezState -> Prop
  | intro
      {controller reads : List Step} {parameters : Step} {state : BluezState}
      (controllerPrepared : ControllerPrepared privacy controller)
      (reports : (preflightDevice address DEFAULT_SCAN_TIMEOUT).Runs reads (.ok state))
      (ready : Ready state)
      (loads : parameters.call = parametersCall executable address)
      (loaded : Succeeded parameters) :
      Prepared (controller ++ reads ++ [parameters]) state

/-- A preparation up to its failure: that of a command for the controller, that
of the scan or of a read behind it, a device that is not ready, or that of the
parameters. -/
inductive Unprepared : List Step -> Prop
  | controller
      {done : List Step} {failed : Step} {rest : List Call}
      (calls : done.map Exchange.call ++ failed.call :: rest = preparationCalls privacy)
      (succeeded : ∀ step ∈ done, Succeeded step)
      (fails : ¬Succeeded failed) :
      Unprepared (done ++ [failed])
  | scan
      {controller reads : List Step} {exc : Exn}
      (controllerPrepared : ControllerPrepared privacy controller)
      (raises : (preflightDevice address DEFAULT_SCAN_TIMEOUT).Runs reads (.error exc)) :
      Unprepared (controller ++ reads)
  | notReady
      {controller reads : List Step} {state : BluezState}
      (controllerPrepared : ControllerPrepared privacy controller)
      (reports : (preflightDevice address DEFAULT_SCAN_TIMEOUT).Runs reads (.ok state))
      (notReady : ¬Ready state) :
      Unprepared (controller ++ reads)
  | parameters
      {controller reads : List Step} {parameters : Step} {state : BluezState}
      (controllerPrepared : ControllerPrepared privacy controller)
      (reports : (preflightDevice address DEFAULT_SCAN_TIMEOUT).Runs reads (.ok state))
      (ready : Ready state)
      (loads : parameters.call = parametersCall executable address)
      (fails : ¬Succeeded parameters) :
      Unprepared (controller ++ reads ++ [parameters])

end Preparation

/-! ## Runs of a preparation -/

section Checked

variable {failure : CompletedProcess -> Exn} {argv : List String} {timeout : Nat}
  {trace : List Step}

/-- A checked command returns where it succeeds. -/
theorem runs_checked_ok :
    (checked failure (perform (.runCommand argv timeout))).Runs trace (.ok ()) ↔
      ∃ step : Step, trace = [step] ∧ step.call = .runCommand argv timeout ∧
        Succeeded step := by
  unfold checked perform
  rw [Program.runs_bind_ok]
  constructor
  · rintro ⟨first, second, result, rfl, commandRuns, checkRuns⟩
    split at checkRuns
    · cases checkRuns
    · next succeeded =>
        obtain ⟨rfl, _⟩ := Program.runs_done.mp checkRuns
        have zero : result.returncode = 0 := Decidable.not_not.mp succeeded
        rw [Program.runs_perform.mp commandRuns]
        exact ⟨_, rfl, rfl, zero⟩
  · rintro ⟨⟨call, answer⟩, rfl, rfl, succeeded⟩
    cases answer with
    | error exc => exact succeeded.elim
    | ok result =>
        have zero : result.returncode = 0 := succeeded
        refine ⟨_, [], result, rfl, Program.runs_perform.mpr rfl, ?_⟩
        rw [if_neg (Decidable.not_not.mpr zero)]
        exact Program.Runs.done

/-- A checked command raises where it does not succeed. -/
theorem runs_checked_error :
    (∃ exc, (checked failure (perform (.runCommand argv timeout))).Runs trace
        (.error exc)) ↔
      ∃ step : Step, trace = [step] ∧ step.call = .runCommand argv timeout ∧
        ¬Succeeded step := by
  unfold checked perform
  constructor
  · rintro ⟨exc, runs⟩
    rcases Program.runs_bind_error.mp runs with
      raises | ⟨first, second, result, rfl, commandRuns, checkRuns⟩
    · rw [Program.runs_perform.mp raises]
      exact ⟨_, rfl, rfl, id⟩
    · split at checkRuns
      · next failed =>
          obtain ⟨rfl, _⟩ := Program.runs_done.mp checkRuns
          rw [Program.runs_perform.mp commandRuns]
          exact ⟨_, rfl, rfl, failed⟩
      · cases checkRuns
  · rintro ⟨⟨call, answer⟩, rfl, rfl, fails⟩
    cases answer with
    | error exc =>
        exact ⟨exc, Program.runs_bind_error.mpr
          (Or.inl (Program.runs_perform.mpr rfl))⟩
    | ok result =>
        have nonzero : result.returncode ≠ 0 := fails
        refine ⟨failure result, Program.runs_bind_error.mpr
          (Or.inr ⟨_, [], result, rfl, Program.runs_perform.mpr rfl, ?_⟩)⟩
        rw [if_pos nonzero]
        exact Program.Runs.done

end Checked

/-- Commands that are run in order up to the first that fails, each with the
exception for its failure. -/
def runCommands : List ((CompletedProcess -> Exn) × List String) -> Action Unit
  | [] => return ()
  | (failure, argv) :: rest => do
      checked failure (perform (.runCommand argv 15))
      runCommands rest

/-- The calls of commands. -/
def commandCalls (commands : List ((CompletedProcess -> Exn) × List String)) :
    List Call :=
  commands.map fun command => .runCommand command.2 15

section Steps

variable {commands : List ((CompletedProcess -> Exn) × List String)} {trace : List Step}

/-- A sequence of commands returns where all of them succeed. -/
theorem runs_runCommands_ok :
    (runCommands commands).Runs trace (.ok ()) ↔
      trace.map Exchange.call = commandCalls commands ∧
        ∀ step ∈ trace, Succeeded step := by
  induction commands generalizing trace with
  | nil =>
      change (Program.done (.ok ()) : Action Unit).Runs trace (.ok ()) ↔ _
      rw [Program.runs_done]
      constructor
      · rintro ⟨rfl, _⟩
        exact ⟨rfl, by simp⟩
      · rintro ⟨nothing, _⟩
        exact ⟨List.map_eq_nil_iff.mp nothing, rfl⟩
  | cons command commands inductionHypothesis =>
      rw [runCommands, Program.runs_bind_ok]
      constructor
      · rintro ⟨first, second, _, rfl, commandRuns, restRuns⟩
        obtain ⟨step, rfl, call_eq, succeeded⟩ := runs_checked_ok.mp commandRuns
        obtain ⟨calls, restSucceeded⟩ := inductionHypothesis.mp restRuns
        constructor
        · rw [List.singleton_append, List.map_cons, call_eq, calls]
          rfl
        · rw [List.singleton_append, List.forall_mem_cons]
          exact ⟨succeeded, restSucceeded⟩
      · rintro ⟨calls, succeeded⟩
        obtain ⟨step, rest, rfl, call_eq, rest_eq⟩ := List.map_eq_cons_iff.mp calls
        rw [List.forall_mem_cons] at succeeded
        exact ⟨[step], rest, (), rfl,
          runs_checked_ok.mpr ⟨step, rfl, call_eq, succeeded.1⟩,
          inductionHypothesis.mpr ⟨rest_eq, succeeded.2⟩⟩

/-- A sequence of commands raises at the first that does not succeed. -/
theorem runs_runCommands_error :
    (∃ exc, (runCommands commands).Runs trace (.error exc)) ↔
      ∃ done failed rest, trace = done ++ [failed] ∧
        done.map Exchange.call ++ failed.call :: rest = commandCalls commands ∧
          (∀ step ∈ done, Succeeded step) ∧ ¬Succeeded failed := by
  induction commands generalizing trace with
  | nil =>
      constructor
      · rintro ⟨exc, impossible⟩
        cases impossible
      · rintro ⟨done, failed, rest, rfl, impossible, _⟩
        exact absurd impossible (by simp [commandCalls])
  | cons command commands inductionHypothesis =>
      rw [runCommands]
      constructor
      · rintro ⟨exc, runs⟩
        rcases Program.runs_bind_error.mp runs with
          raises | ⟨first, second, _, rfl, commandRuns, restRuns⟩
        · obtain ⟨step, rfl, call_eq, fails⟩ := runs_checked_error.mp ⟨exc, raises⟩
          refine ⟨[], step, commandCalls commands, rfl, ?_, by simp, fails⟩
          rw [call_eq]
          rfl
        · obtain ⟨step, rfl, call_eq, succeeded⟩ := runs_checked_ok.mp commandRuns
          obtain ⟨done, failed, rest, rfl, calls, doneSucceeded, fails⟩ :=
            inductionHypothesis.mp ⟨exc, restRuns⟩
          refine ⟨step :: done, failed, rest, rfl, ?_, ?_, fails⟩
          · rw [List.map_cons, List.cons_append, calls, call_eq]
            rfl
          · rw [List.forall_mem_cons]
            exact ⟨succeeded, doneSucceeded⟩
      · rintro ⟨done, failed, rest, rfl, calls, succeeded, fails⟩
        cases done with
        | nil =>
            obtain ⟨call_eq, _⟩ := List.cons.inj calls
            obtain ⟨exc, raises⟩ := runs_checked_error.mpr
              ⟨failed, rfl, call_eq, fails⟩
            exact ⟨exc, Program.runs_bind_error.mpr (Or.inl raises)⟩
        | cons step done =>
            obtain ⟨call_eq, rest_eq⟩ := List.cons.inj calls
            rw [List.forall_mem_cons] at succeeded
            obtain ⟨exc, raises⟩ := inductionHypothesis.mpr
              ⟨done, failed, rest, rfl, rest_eq, succeeded.2, fails⟩
            exact ⟨exc, Program.runs_bind_error.mpr (Or.inr ⟨[step], _, (), rfl,
              runs_checked_ok.mpr ⟨step, rfl, call_eq, succeeded.1⟩, raises⟩)⟩

end Steps

section Preparation

variable {executable address : String} {privacy : Bool} {trace : List Step}

/-- The commands for the controller with their failures. -/
def controllerCommands
    (address : String)
    (privacy : Bool) : List ((CompletedProcess -> Exn) × List String) :=
  let failure (step : ConnectionSetupStep) (subject : String) :=
    fun result => connectionSetupError step subject (summarizeFailure result)
  [(failure .powerOff "controller", ["sudo", "btmgmt", "power", "off"]),
    (failure .sysConfig "controller", ["sudo", "btmgmt", "set-sysconfig", "-v",
      "0017:2:1800", "0018:2:1800", "0019:2:0000", "001a:2:4800"]),
    (failure .privacy "controller", ["sudo", "btmgmt", "privacy", onOff privacy]),
    (failure .bondable "controller", ["sudo", "btmgmt", "bondable", "on"]),
    (failure .powerOn "controller", ["sudo", "btmgmt", "power", "on"]),
    (failure .pairable address, ["bluetoothctl", "pairable", "on"])]

/-- The middle part of a preparation: a scan that reports a device that is
ready. -/
def refreshReady (address : String) : Action BluezState := do
  let state <- refreshVisibleDevice address
  Program.done (assertPairingAdvertisementReady state address)
  return state

/-- The last part: the connection parameters. -/
def loadParameters (executable address : String) : Action Unit :=
  checked (fun result =>
    connectionSetupError .parameters address
      (summarizeFailure result ++ "; trusted mgmt access via sudo is required"))
    (bluezLoadConnectionParameters executable address)

/-- The three parts of a preparation. -/
theorem prepareConnectAttempt_eq
    (executable address : String)
    (privacy : Bool) :
    prepareConnectAttempt executable address privacy = (do
      runCommands (controllerCommands address privacy)
      let state <- refreshReady address
      loadParameters executable address
      return state) := by
  simp only [prepareConnectAttempt, bluezPreparePhoneLikePairingController, runSteps,
    controllerCommands, runCommands, refreshReady, bind_assoc, pure_bind]
  rfl

theorem runs_controllerCommands_ok :
    (runCommands (controllerCommands address privacy)).Runs trace (.ok ()) ↔
      ControllerPrepared privacy trace := by
  rw [runs_runCommands_ok]
  constructor
  · rintro ⟨calls, succeeded⟩
    exact ⟨calls, succeeded⟩
  · rintro ⟨calls, succeeded⟩
    exact ⟨calls, succeeded⟩

theorem runs_refreshReady_ok {state : BluezState} :
    (refreshReady address).Runs trace (.ok state) ↔
      (preflightDevice address DEFAULT_SCAN_TIMEOUT).Runs trace (.ok state) ∧
        Ready state := by
  unfold refreshReady
  rw [Program.runs_bind_ok]
  constructor
  · rintro ⟨first, second, reported, rfl, reports, checking⟩
    obtain ⟨third, fourth, _, rfl, checks, ends⟩ := Program.runs_bind_ok.mp checking
    obtain ⟨rfl, accepts⟩ := Program.runs_done.mp checks
    obtain ⟨rfl, state_eq⟩ := Program.runs_done.mp ends
    cases state_eq
    rw [List.append_nil, List.append_nil]
    exact ⟨reports, assertPairingAdvertisementReady_ok_iff.mp accepts.symm⟩
  · rintro ⟨reports, ready⟩
    refine ⟨trace, [], state, (List.append_nil trace).symm, reports, ?_⟩
    rw [assertPairingAdvertisementReady_ok_iff.mpr ready]
    exact Program.Runs.done

theorem runs_refreshReady_error :
    (∃ exc, (refreshReady address).Runs trace (.error exc)) ↔
      (∃ exc, (preflightDevice address DEFAULT_SCAN_TIMEOUT).Runs trace (.error exc)) ∨
        ∃ state, (preflightDevice address DEFAULT_SCAN_TIMEOUT).Runs trace (.ok state) ∧
          ¬Ready state := by
  unfold refreshReady
  constructor
  · rintro ⟨exc, runs⟩
    rcases Program.runs_bind_error.mp runs with
      raises | ⟨first, second, state, rfl, reports, checking⟩
    · exact Or.inl ⟨exc, raises⟩
    · right
      cases accepts : assertPairingAdvertisementReady state address with
      | ok value =>
          rw [accepts] at checking
          cases checking
      | error reason =>
          rw [accepts] at checking
          obtain ⟨rfl, _⟩ := Program.runs_done.mp checking
          rw [List.append_nil]
          refine ⟨state, reports, ?_⟩
          intro ready
          rw [assertPairingAdvertisementReady_ok_iff.mpr ready] at accepts
          cases accepts
  · rintro (⟨exc, raises⟩ | ⟨state, reports, notReady⟩)
    · exact ⟨exc, Program.runs_bind_error.mpr (Or.inl raises)⟩
    · cases accepts : assertPairingAdvertisementReady state address with
      | ok value => exact absurd (assertPairingAdvertisementReady_ok_iff.mp accepts) notReady
      | error exc =>
          refine ⟨exc, Program.runs_bind_error.mpr (Or.inr
            ⟨trace, [], state, (List.append_nil trace).symm, reports, ?_⟩)⟩
          rw [accepts]
          exact Program.Runs.done

/-- The preparation returns where everything has succeeded, with the state that
its scan has reported. -/
theorem runs_prepareConnectAttempt_ok {state : BluezState} :
    (prepareConnectAttempt executable address privacy).Runs trace (.ok state) ↔
      Prepared executable address privacy trace state := by
  rw [prepareConnectAttempt_eq]
  constructor
  · intro runs
    obtain ⟨controller, _, _, rfl, controls, runs⟩ := Program.runs_bind_ok.mp runs
    obtain ⟨reads, _, reported, rfl, reports, runs⟩ := Program.runs_bind_ok.mp runs
    obtain ⟨last, _, _, rfl, loads, ends⟩ := Program.runs_bind_ok.mp runs
    obtain ⟨rfl, state_eq⟩ := Program.runs_done.mp ends
    cases state_eq
    obtain ⟨reports, ready⟩ := runs_refreshReady_ok.mp reports
    obtain ⟨parameters, rfl, call_eq, loaded⟩ := runs_checked_ok.mp loads
    rw [List.append_nil, ← List.append_assoc]
    exact Prepared.intro (runs_controllerCommands_ok.mp controls) reports ready
      call_eq loaded
  · rintro ⟨controllerPrepared, reports, ready, loads, loaded⟩
    rw [List.append_assoc]
    exact Program.runs_bind_ok.mpr ⟨_, _, (), rfl,
      runs_controllerCommands_ok.mpr controllerPrepared,
      Program.runs_bind_ok.mpr ⟨_, _, state, rfl,
        runs_refreshReady_ok.mpr ⟨reports, ready⟩,
        Program.runs_bind_ok.mpr ⟨_, [], (), rfl,
          runs_checked_ok.mpr ⟨_, rfl, loads, loaded⟩, Program.Runs.done⟩⟩⟩

/-- The preparation raises where something has failed. -/
theorem runs_prepareConnectAttempt_error :
    (∃ exc, (prepareConnectAttempt executable address privacy).Runs trace (.error exc)) ↔
      Unprepared executable address privacy trace := by
  rw [prepareConnectAttempt_eq]
  constructor
  · rintro ⟨exc, runs⟩
    rcases Program.runs_bind_error.mp runs with
      raises | ⟨controller, _, _, rfl, controls, runs⟩
    · obtain ⟨done, failed, rest, rfl, calls, succeeded, fails⟩ :=
        runs_runCommands_error.mp ⟨exc, raises⟩
      exact Unprepared.controller calls succeeded fails
    · have prepared := runs_controllerCommands_ok.mp controls
      rcases Program.runs_bind_error.mp runs with
        raises | ⟨reads, _, state, rfl, reports, runs⟩
      · rcases runs_refreshReady_error.mp ⟨exc, raises⟩ with
          ⟨reason, raises⟩ | ⟨state, reports, notReady⟩
        · exact Unprepared.scan prepared raises
        · exact Unprepared.notReady prepared reports notReady
      · obtain ⟨reports, ready⟩ := runs_refreshReady_ok.mp reports
        rcases Program.runs_bind_error.mp runs with
          raises | ⟨_, _, _, rfl, _, impossible⟩
        · obtain ⟨parameters, rfl, call_eq, fails⟩ :=
            runs_checked_error.mp ⟨exc, raises⟩
          rw [← List.append_assoc]
          exact Unprepared.parameters prepared reports ready call_eq fails
        · cases impossible
  · intro unprepared
    cases unprepared with
    | @controller done failed rest calls succeeded fails =>
        have commands_eq : done.map Exchange.call ++ failed.call :: rest =
            commandCalls (controllerCommands address privacy) := calls
        obtain ⟨exc, raises⟩ := runs_runCommands_error.mpr
          ⟨done, failed, rest, rfl, commands_eq, succeeded, fails⟩
        exact ⟨exc, Program.runs_bind_error.mpr (Or.inl raises)⟩
    | scan controllerPrepared raises =>
        obtain ⟨exc, raises⟩ := runs_refreshReady_error.mpr (Or.inl ⟨_, raises⟩)
        exact ⟨exc, Program.runs_bind_error.mpr (Or.inr ⟨_, _, (), rfl,
          runs_controllerCommands_ok.mpr controllerPrepared,
          Program.runs_bind_error.mpr (Or.inl raises)⟩)⟩
    | notReady controllerPrepared reports notReady =>
        obtain ⟨exc, raises⟩ := runs_refreshReady_error.mpr (Or.inr ⟨_, reports, notReady⟩)
        exact ⟨exc, Program.runs_bind_error.mpr (Or.inr ⟨_, _, (), rfl,
          runs_controllerCommands_ok.mpr controllerPrepared,
          Program.runs_bind_error.mpr (Or.inl raises)⟩)⟩
    | parameters controllerPrepared reports ready loads fails =>
        obtain ⟨exc, raises⟩ := runs_checked_error.mpr ⟨_, rfl, loads, fails⟩
        rw [List.append_assoc]
        exact ⟨exc, Program.runs_bind_error.mpr (Or.inr ⟨_, _, (), rfl,
          runs_controllerCommands_ok.mpr controllerPrepared,
          Program.runs_bind_error.mpr (Or.inr ⟨_, _, _, rfl,
            runs_refreshReady_ok.mpr ⟨reports, ready⟩,
            Program.runs_bind_error.mpr (Or.inl raises)⟩)⟩)⟩

end Preparation

end Bluez
end BoschBle
