import BoschBle.Bluez.ConnectOrder
import BoschBle.TraceConnect.Main

/-!
# What a reached baseline says

An experiment that reports its baseline has passed each of its steps, in their order and
under a capture that was ready, and the report says what the trace shows of them.
-/

namespace BoschBle
namespace TraceConnect

open Foundation
open Bluez (BluezState CaptureCall Captured PairAttemptSummary TraceAction TraceAnswer TraceCall
  TraceStep captureEnvironment performCapture timed traced)

/-- The steps of an experiment that has reached its baseline: the bike was ready, it was
connected, a wait has seen it connected, with its services unless `busctl` is missing, and a
read three seconds later has seen it connected with them. -/
inductive Reached (executable address : String) : List TraceStep -> Prop
  | steps
      {looks connects reads : List Bluez.Step} {watched : List Bluez.TimedStep}
      {preflight connected state : BluezState}
      {target : Bluez.Flags} {earlier : List BluezState} {watchedState : BluezState} {now : Nat}
      (found : (Bluez.preflightDevice address Bluez.DEFAULT_SCAN_TIMEOUT).Runs looks
        (.ok preflight))
      (ready : Bluez.Ready preflight)
      (connects_ok : (Bluez.connectDevice executable address false).Runs connects
        (.ok connected))
      (watch : Bluez.Watch address baselineFlags {} target watched earlier watchedState now)
      (reaches : target.matches watchedState = true)
      (connected_seen : watchedState.connected = some true)
      (services_seen : watchedState.servicesResolved = some true ∨
        ⟨.system (.which "busctl"), .ok none⟩ ∈ watched)
      (read : (Bluez.readDeviceState address none none none).Runs reads (.ok state))
      (stays : state.connected = some true ∧ state.servicesResolved = some true) :
      Reached executable address
        (looks.map traced.lift ++ (connects.map traced.lift ++ (watched.map timed.lift ++
          (⟨.sleep 3000, .ok ()⟩ :: reads.map traced.lift))))

section Baseline

variable {host : Bluez.HostProcess} {executable address directory : String}
  {trace : List TraceStep}

/-- The block says that the baseline is reached only where it has passed all its steps. -/
theorem experiment_baseline
    {after : Experiment} {result : Except Exn Unit}
    (runs : Local.Runs (experiment executable address) {} trace result after)
    (baseline : after.baseline = true) :
    Reached executable address trace := by
  rcases Local.runs_lift_bind.mp runs with
    ⟨_, _, _, rfl⟩ | ⟨_, _, preflight, rfl, looking, afterLook⟩
  · cases baseline
  rw [Local.runs_assign_bind] at afterLook
  rcases Local.runs_lift_bind.mp afterLook with
    ⟨_, _, _, rfl⟩ | ⟨_, _, _, rfl, asserting, afterAssert⟩
  · cases baseline
  rcases Local.runs_lift_bind.mp afterAssert with
    ⟨_, _, _, rfl⟩ | ⟨_, _, connected, rfl, connecting, afterConnect⟩
  · cases baseline
  rcases Local.runs_lift_bind.mp afterConnect with
    ⟨_, _, _, rfl⟩ | ⟨_, _, watchedState, rfl, waiting, afterWait⟩
  · cases baseline
  rcases Local.runs_lift_bind.mp afterWait with
    ⟨_, _, _, rfl⟩ | ⟨_, _, _, rfl, sleeping, afterSleep⟩
  · cases baseline
  rcases Local.runs_lift_bind.mp afterSleep with
    ⟨_, _, _, rfl⟩ | ⟨_, _, state, rfl, reading, decides⟩
  · cases baseline
  obtain ⟨looks, rfl, found⟩ := traced.runs_embed.mp looking
  obtain ⟨rfl, isReady⟩ := Program.runs_done.mp asserting
  have ready := Bluez.assertPairingAdvertisementReady_ok_iff.mp isReady.symm
  obtain ⟨connects, rfl, connects_ok⟩ := traced.runs_embed.mp connecting
  obtain ⟨watched, rfl, waited⟩ := timed.runs_embed.mp waiting
  obtain ⟨target, earlier, now, watch, reaches⟩ := Bluez.waitForState_ok_iff.mp waited
  have slept := Program.runs_perform.mp sleeping
  obtain ⟨reads, rfl, read⟩ := traced.runs_embed.mp reading
  split at decides
  case isTrue stays =>
    obtain ⟨rfl, _⟩ := Local.runs_assign.mp decides
    rw [slept, List.append_nil, List.nil_append]
    have both : state.connected = some true ∧ state.servicesResolved = some true := by
      simpa only [Bool.and_eq_true, beq_iff_eq] using stays
    exact Reached.steps found ready connects_ok watch reaches
      (watch.connected_of_matches rfl reaches) (watch.resolved_of_matches rfl reaches) read both
  case isFalse =>
    obtain ⟨_, _, rfl⟩ := Local.runs_pure.mp decides
    cases baseline

/-- An experiment that passes its steps says so. -/
theorem Reached.runs
    (reached : Reached executable address trace) :
    ∃ after, Local.Runs (experiment executable address) {} trace (.ok ()) after ∧
      after.baseline = true := by
  cases reached with
  | @steps looks connects reads watched preflight connected state target earlier watchedState now
      found ready connects_ok watch reaches connected_seen services_seen read stays =>
      refine ⟨{ baseline := true, preflight := some preflight }, ?_, rfl⟩
      have waited := Bluez.waitForState_ok_iff.mpr ⟨target, earlier, now, watch, reaches⟩
      have isReady : Bluez.assertPairingAdvertisementReady preflight address = .ok () :=
        Bluez.assertPairingAdvertisementReady_ok_iff.mpr ready
      apply Local.runs_lift_bind.mpr
      refine Or.inr ⟨_, _, preflight, rfl, traced.runs_lift found, ?_⟩
      apply Local.runs_lift_bind.mpr
      refine Or.inr ⟨[], _, (), rfl, Program.runs_done.mpr ⟨rfl, isReady.symm⟩, ?_⟩
      apply Local.runs_lift_bind.mpr
      refine Or.inr ⟨_, _, connected, rfl, traced.runs_lift connects_ok, ?_⟩
      apply Local.runs_lift_bind.mpr
      refine Or.inr ⟨_, _, watchedState, rfl, timed.runs_lift waited, ?_⟩
      apply Local.runs_lift_bind.mpr
      refine Or.inr ⟨[_], _, (), rfl, Program.runs_perform.mpr rfl, ?_⟩
      apply Local.runs_lift_bind.mpr
      refine Or.inr ⟨_, [], state, (List.append_nil _).symm, traced.runs_lift read, ?_⟩
      have both : (state.connected == some true && state.servicesResolved == some true) = true := by
        rw [stays.1, stays.2]
        rfl
      rw [if_pos both]
      exact Local.runs_assign.mpr ⟨rfl, rfl, rfl⟩

theorem classify_baseline
    {outcome : ConnectOutcome} {summary : PairAttemptSummary}
    (baseline : classify outcome summary = .baselineReached) :
    outcome = .baselineReached ∧ summary.attSeen = true ∧ summary.initialParameters ≠ [] ∧
      ∀ parameters ∈ summary.initialParameters, parameters = Bluez.PHONE_LIKE_PARAMETERS := by
  unfold classify at baseline
  split at baseline
  case isTrue other => exact absurd baseline other
  case isFalse reached =>
    split at baseline
    case isTrue => cases baseline
    case isFalse known =>
      split at baseline
      case isTrue => cases baseline
      case isFalse same =>
        split at baseline
        case isTrue => cases baseline
        case isFalse seen =>
          refine ⟨baseline, Bool.eq_true_of_not_eq_false seen, known, ?_⟩
          intro parameters present
          by_contra differs
          exact same (List.any_eq_true.mpr ⟨parameters, present, decide_eq_true differs⟩)

/-- The outcome is the baseline behind the `except` clauses only if it was assigned. -/
theorem caught_baseline
    {locals : Experiment} {ended : Except Exn Unit} {error : Option String}
    (runs : (caught locals ended).Runs trace (.ok (.baselineReached, error))) :
    trace = [] ∧ locals.baseline = true ∧ (error = none -> ended = .ok ()) := by
  have assigned : ∀ {outcome : ConnectOutcome}, outcome = locals.outcome ->
      outcome = .baselineReached -> locals.baseline = true := by
    rintro _ rfl isBaseline
    unfold Experiment.outcome at isBaseline
    split at isBaseline
    case isTrue baseline => exact baseline
    case isFalse => cases isBaseline
  cases ended with
  | ok _ =>
      obtain ⟨rfl, same⟩ := Program.runs_done.mp runs
      exact ⟨rfl, assigned (congrArg Prod.fst (Except.ok.inj same)) rfl, fun _ => rfl⟩
  | error exc =>
      unfold caught at runs
      dsimp only at runs
      split at runs
      case isTrue =>
        obtain ⟨_, same⟩ := Program.runs_done.mp runs
        cases same
      case isFalse =>
        split at runs
        case isTrue =>
          obtain ⟨_, same⟩ := Program.runs_done.mp runs
          cases same
        case isFalse =>
          split at runs
          case isTrue =>
            obtain ⟨rfl, same⟩ := Program.runs_done.mp runs
            have pair := Except.ok.inj same
            refine ⟨rfl, assigned (congrArg Prod.fst pair) rfl, ?_⟩
            intro noError
            rw [noError] at pair
            cases congrArg Prod.snd pair
          case isFalse =>
            obtain ⟨_, same⟩ := Program.runs_done.mp runs
            cases same

theorem readTrace_ok
    {text : Text}
    (runs : readTrace.Runs trace (.ok text)) :
    (⟨.capture .traceExists, .ok false⟩ ∈ trace) ∨ ⟨.capture .readTrace, .ok text⟩ ∈ trace := by
  obtain ⟨asks, rest, known, rfl, asked, reads⟩ := Program.runs_bind_ok.mp runs
  rw [Program.runs_perform.mp asked]
  split at reads
  case isTrue =>
    rw [Program.runs_perform.mp reads]
    exact Or.inr (List.mem_append_right _ (List.mem_singleton_self _))
  case isFalse unknown =>
    rw [Bool.eq_false_of_not_eq_true unknown]
    exact Or.inl List.mem_cons_self

/-- The `try` says that the baseline is reached only where the controller was free and
the experiment has reached it under a capture that was ready. -/
theorem tryConnection_baseline
    {after : Experiment} {ended : Except Exn Unit}
    (runs : Local.Runs (tryConnection host executable address directory) {} trace ended after)
    (baseline : after.baseline = true) :
    ∃ free before inner behind, trace = free.map traced.lift ++ (before ++ (inner ++ behind)) ∧
      (Bluez.assertControllerReady host address none).Runs free (.ok ()) ∧
        ⟨.capture .waitReady, .ok ()⟩ ∈ before ∧ Reached executable address inner ∧
          (ended = .ok () -> ⟨.capture .writer, .ok ()⟩ ∈ behind) := by
  rcases Local.runs_lift_bind.mp runs with
    ⟨_, _, _, rfl⟩ | ⟨_, _, _, rfl, asserting, captures⟩
  · cases baseline
  obtain ⟨free, rfl, isFree⟩ := traced.runs_embed.mp asserting
  rcases Bluez.btmonTextCapture_runs captures with
    ⟨rfl, _, _⟩ | ⟨_, before, inner, behind, _, rfl, _, awaited, blockRuns, returned⟩
  · cases baseline
  exact ⟨free, before, inner, behind, rfl, isFree, awaited,
    experiment_baseline blockRuns baseline, fun isOk => (returned () isOk).2⟩

/-- An experiment that returns its baseline has found the controller free, and under a
capture that was ready it has connected a bike that was ready, and has seen it connected at
the end of a wait, with its services unless `busctl` is missing, and connected with them three
seconds later.  The report that it has written last is of a trace with attribute traffic and
with the parameters of a phone in each attempt; and unless it names an error, the trace is
all that `btmon` has printed. -/
theorem captureConnection_baseline
    {last : Captured}
    (runs : (captureConnection host executable address directory).Runs trace
      (.ok .baselineReached))
    (goes : captureEnvironment.Goes {} trace last) :
    ∃ free before inner behind text attempt summary,
      trace = free.map traced.lift ++ (before ++ (inner ++ (behind ++
        [⟨.writeSummary (directory ++ "/summary.json") address
          ConnectOutcome.baselineReached.value summary, .ok ()⟩]))) ∧
      (Bluez.assertControllerReady host address none).Runs free (.ok ()) ∧
      ⟨.capture .waitReady, .ok ()⟩ ∈ before ∧
      Reached executable address inner ∧
      Bluez.summarizeBtmonTrace text attempt (some address) = .ok summary ∧
      (summary.attSeen = true ∧ summary.initialParameters ≠ [] ∧
        ∀ parameters ∈ summary.initialParameters,
          parameters = Bluez.PHONE_LIKE_PARAMETERS) ∧
      (attempt.assistError = none ->
        last.Complete ∧ text = Bluez.universalNewlines last.printed.flatten) := by
  obtain ⟨tries, rest, ⟨ended, after⟩, rfl, tried, continues⟩ := Program.runs_bind_ok.mp runs
  obtain ⟨catches, concludes, ⟨outcome, error⟩, rfl, catching, concluding⟩ :=
    Program.runs_bind_ok.mp continues
  obtain ⟨reads, summing, text, rfl, reading, sums⟩ := Program.runs_bind_ok.mp concluding
  obtain ⟨_, writes, summary, rfl, summarized, writing⟩ := Program.runs_bind_ok.mp sums
  obtain ⟨rfl, isSummary⟩ := Program.runs_done.mp summarized
  obtain ⟨write, _, _, rfl, written, returns⟩ := Program.runs_bind_ok.mp writing
  obtain ⟨rfl, isBaseline⟩ := Program.runs_done.mp returns
  rw [Except.ok.injEq] at isBaseline
  obtain ⟨rfl, seen, known, same⟩ := classify_baseline isBaseline.symm
  obtain ⟨rfl, baseline, noError⟩ := caught_baseline catching
  rw [← isBaseline] at written
  obtain ⟨free, before, inner, behind, rfl, isFree, awaited, reached, waited⟩ :=
    tryConnection_baseline tried baseline
  have written_eq := Program.runs_perform.mp written
  rw [written_eq, List.append_nil, List.nil_append, List.nil_append] at goes ⊢
  refine ⟨free, before, inner, behind ++ reads, text, connectAttempt directory after error, summary,
    ?_, isFree, awaited, reached, isSummary.symm, ⟨seen, known, same⟩, ?_⟩
  · simp only [List.append_assoc]
  · intro none
    have inTry : ⟨.capture .writer, .ok ()⟩ ∈
        free.map traced.lift ++ (before ++ (inner ++ behind)) := by
      simp only [List.mem_append]
      exact Or.inr (Or.inr (Or.inr (waited (noError none))))
    refine ⟨Captured.complete_of_writer goes (List.mem_append_left _ inTry), ?_⟩
    rcases readTrace_ok reading with missing | read
    · cases Captured.exists_of_writer goes inTry (List.mem_append_left _ missing)
    · exact Captured.read_of_writer goes inTry (List.mem_append_left _ read)

/-! ## An experiment that reaches it -/

open Bluez (connectedSteps exited infoReads readSteps)

/-- A bike that BlueZ sees connected, with its services. -/
def resolvedText : String :=
  "Connected: yes\nServicesResolved: yes\n"

/-- The controller is free. -/
def freeSteps : List Bluez.Step :=
  [exited ["bluetoothctl", "show"] 15 "", exited ["ps", "-eo", "pid=,ppid=,args="] 15 ""]

/-- The bike is found, paired. -/
def lookSteps : List Bluez.Step :=
  ⟨.scan "00:04:63:AA:BB:CC" 5, .ok (some ⟨none, none, none⟩, none)⟩ ::
    readSteps "Paired: yes\n"

/-- The first read of a wait has the flags. -/
def watchSteps : List Bluez.TimedStep :=
  infoReads resolvedText ++ [⟨.system (.which "busctl"), .ok none⟩, ⟨.time, .ok 0⟩]

/-- The steps of the experiment. -/
def reachedSteps : List TraceStep :=
  lookSteps.map traced.lift ++ (connectedSteps.map traced.lift ++ (watchSteps.map timed.lift ++
    (⟨.sleep 3000, .ok ()⟩ :: (readSteps resolvedText).map traced.lift)))

theorem reachedSteps_reached : Reached "python" "00:04:63:AA:BB:CC" reachedSteps := by
  have found : ∃ preflight, (Bluez.preflightDevice "00:04:63:AA:BB:CC" 5).Runs lookSteps
      (.ok preflight) ∧ Bluez.Ready preflight := by
    apply Exists.intro
    constructor
    · repeat first | exact Program.Runs.done | apply Program.Runs.ask
    · exact ⟨by decide, Or.inl (by decide)⟩
  have connects : ∃ state, (Bluez.connectDevice "python" "00:04:63:AA:BB:CC" false).Runs
      connectedSteps (.ok state) := by
    apply Exists.intro
    repeat first | exact Program.Runs.done | apply Program.Runs.ask
  have watch : Bluez.Watch "00:04:63:AA:BB:CC" baselineFlags {} baselineFlags
      (infoReads resolvedText ++ ([⟨.system (.which "busctl"), .ok none⟩] ++ [⟨.time, .ok 0⟩])) []
      (Bluez.infoState resolvedText) 0 := by
    apply Bluez.Watch.start (Bluez.infoReads_runs resolvedText)
    repeat first | exact Program.Runs.done | apply Program.Runs.ask
  have read : ∃ state, (Bluez.readDeviceState "00:04:63:AA:BB:CC" none none none).Runs
      (readSteps resolvedText) (.ok state) ∧
        state.connected = some true ∧ state.servicesResolved = some true := by
    apply Exists.intro
    constructor
    · repeat first | exact Program.Runs.done | apply Program.Runs.ask
    · decide
  obtain ⟨preflight, found, ready⟩ := found
  obtain ⟨connected, connects⟩ := connects
  obtain ⟨state, read, stays⟩ := read
  exact Reached.steps found ready connects watch (by decide) (by decide) (Or.inl (by decide))
    read stays

/-- The experiment up to the end of the capture. -/
def trySteps : List TraceStep :=
  freeSteps.map traced.lift ++ ([⟨.capture .create, .ok ()⟩, ⟨.capture .waitReady, .ok ()⟩] ++
    (reachedSteps ++ [⟨.capture .exited, .ok false⟩, ⟨.capture .exited, .ok true⟩,
      ⟨.capture .writer, .ok ()⟩]))

/-- What `btmon` prints of a connection with the parameters of a phone. -/
def attLines : List Text :=
  ["Bluetooth monitor\n", "< HCI Command: LE Create Connection (0x08|0x000d) plen 25\n",
    " Peer address: 00:04:63:AA:BB:CC\n", " Min connection interval: (0x0018)\n",
    " Max connection interval: (0x0018)\n", " Connection latency: (0x0000)\n",
    " Supervision timeout: (0x0048)\n", " ATT: Read\n"].map String.toList

theorem attLines_summary (attempt : Bluez.Attempt) :
    ∃ summary, Bluez.summarizeBtmonTrace (Bluez.universalNewlines attLines.flatten) attempt
        (some "00:04:63:AA:BB:CC") = .ok summary ∧
      classify .baselineReached summary = .baselineReached := by
  have shown : ((Bluez.traceForDevice (Bluez.universalNewlines attLines.flatten)
      "00:04:63:AA:BB:CC").map fun text => (Bluez.traceProtocolSeen text Bluez.attNames,
        Bluez.parseInitialConnectionParameters text (some "00:04:63:AA:BB:CC"))) =
      .ok (true, [Bluez.PHONE_LIKE_PARAMETERS]) := by
    decide +kernel
  rw [Bluez.summarizeBtmonTrace]
  cases selected : Bluez.traceForDevice (Bluez.universalNewlines attLines.flatten)
      "00:04:63:AA:BB:CC" with
  | error exc =>
      rw [selected] at shown
      cases shown
  | ok text =>
      rw [selected] at shown
      obtain ⟨seen, parameters⟩ := Prod.mk.inj (Except.ok.inj shown)
      refine ⟨_, rfl, ?_⟩
      rw [classify, Bluez.summaryOf]
      dsimp only
      rw [seen, parameters]
      rfl

/-- The writer has copied a whole capture that ends behind the experiment. -/
theorem goes_trySteps :
    captureEnvironment.Goes {} trySteps
      { Bluez.copying attLines with exited := true, writer := some (.ok ()) } := by
  have announced : attLines.any (Text.contains Bluez.banner) = true := by
    decide
  apply (Bluez.goes_aside (by decide) _).trans
  have captured := @Bluez.goes_capture reachedSteps _ announced (by decide) [] none
  rwa [List.append_nil] at captured

/-- The trace is read and the report written. -/
def reportSteps (summary : PairAttemptSummary) : List TraceStep :=
  [⟨.capture .traceExists, .ok true⟩,
    ⟨.capture .readTrace, .ok (Bluez.universalNewlines attLines.flatten)⟩,
    ⟨.writeSummary "evidence/summary.json" "00:04:63:AA:BB:CC" "baseline_reached" summary,
      .ok ()⟩]

theorem captureConnection_baseline_connected :
    ∃ trace inner before behind,
      (captureConnection ⟨fun _ => true, 1, 0⟩ "python" "00:04:63:AA:BB:CC" "evidence").Runs
        trace (.ok .baselineReached) ∧
      trace = before ++ (inner ++ behind) ∧ Reached "python" "00:04:63:AA:BB:CC" inner := by
  obtain ⟨after, experiments, baseline⟩ := reachedSteps_reached.runs
  have tries : Local.Runs
      (tryConnection ⟨fun _ => true, 1, 0⟩ "python" "00:04:63:AA:BB:CC" "evidence") {}
      trySteps (.ok ()) after := by
    have free : (Bluez.assertControllerReady ⟨fun _ => true, 1, 0⟩ "00:04:63:AA:BB:CC" none).Runs
        freeSteps (.ok ()) := by
      repeat first | exact Program.Runs.done | apply Program.Runs.ask
    apply Local.runs_lift_bind.mpr
    refine Or.inr ⟨_, _, (), rfl, traced.runs_lift free, ?_⟩
    have named : (Bluez.capturePath (some "evidence/btmon.log")).Runs []
        (.ok "evidence/btmon.log") :=
      Program.Runs.done
    exact Bluez.btmonTextCapture_of_block named experiments
  obtain ⟨summary, isSummary, classified⟩ :=
    attLines_summary (connectAttempt "evidence" after none)
  have concludes : (conclude "00:04:63:AA:BB:CC" "evidence" after .baselineReached none).Runs
      (reportSteps summary) (.ok .baselineReached) := by
    apply Program.runs_bind_ok.mpr
    refine ⟨[_, _], [_], _, rfl, .ask (.ask .done), ?_⟩
    apply Program.runs_bind_ok.mpr
    refine ⟨[], [_], summary, rfl, Program.runs_done.mpr ⟨rfl, isSummary.symm⟩, ?_⟩
    rw [classified]
    apply Program.Runs.ask
    exact Program.Runs.done
  have runs : (captureConnection ⟨fun _ => true, 1, 0⟩ "python" "00:04:63:AA:BB:CC"
      "evidence").Runs (trySteps ++ ([] ++ reportSteps summary)) (.ok .baselineReached) := by
    apply Program.runs_bind_ok.mpr
    refine ⟨_, _, (.ok (), after), rfl, tries, ?_⟩
    apply Program.runs_bind_ok.mpr
    refine ⟨[], _, (.baselineReached, none), rfl, ?_, concludes⟩
    apply Program.runs_done.mpr
    refine ⟨rfl, ?_⟩
    rw [Experiment.outcome, baseline]
    rfl
  have goes : captureEnvironment.Goes {} (trySteps ++ ([] ++ reportSteps summary))
      { Bluez.copying attLines with exited := true, writer := some (.ok ()) } :=
    goes_trySteps.trans (.answers (.traceExists _) (.answers (.readTrace rfl)
      (.answers (.writeSummary _ _ _ _ _) (.stays _))))
  obtain ⟨free, before, inner, behind, text, attempt, shown, trace_eq, _, _, reached, _⟩ :=
    captureConnection_baseline runs goes
  have parts := trace_eq.trans (List.append_assoc _ before _).symm
  exact ⟨_, inner, _, _, runs, parts, reached⟩

end Baseline
end TraceConnect
end BoschBle
