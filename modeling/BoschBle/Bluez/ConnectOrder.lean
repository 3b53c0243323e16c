import BoschBle.Bluez.Preparation

/-!
# Nothing is connected or paired unprepared

A history is closed when every preparation in it is complete.  Both connection
paths keep their histories closed as long as they do not raise, and they connect,
pair and trust from closed histories only.
-/

namespace BoschBle
namespace Bluez

open Foundation

section Attempt

variable (executable address : String) (privacy : Bool)

/-- Every preparation that was started is complete. -/
def Closed (history : List Step) : Prop :=
  ∀ before step after, history = before ++ step :: after -> step.call.starts = true ->
    ∃ attempt state rest, step :: after = attempt ++ rest ∧
      Prepared executable address privacy attempt state

/-- The history ends with a complete preparation. -/
def EndsPrepared (history : List Step) (state : BluezState) : Prop :=
  ∃ earlier attempt, history = earlier ++ attempt ∧
    Prepared executable address privacy attempt state

/-- Behind the last complete preparation there are only queries. -/
def JustPrepared (history : List Step) : Prop :=
  ∃ earlier attempt queries state, history = earlier ++ attempt ++ queries ∧
    Prepared executable address privacy attempt state ∧
      ∀ step ∈ queries, step.call.IsQuery

end Attempt

/-- The number of preparations that were started. -/
def attempts (history : List Step) : Nat :=
  history.countP fun step => step.call.starts

/-- The number of times that pairing was asked for. -/
def pairings (history : List Step) : Nat :=
  history.countP fun step => step.call.pairs

/-! ## The shape of a preparation -/

/-- The trace starts a preparation with its first call and makes only quiet
calls behind it. -/
def StartsOnce (trace : List Step) : Prop :=
  ∃ step rest, trace = step :: rest ∧ step.call.starts = true ∧
    step.call.commits = false ∧ ∀ other ∈ rest, other.call.Quiet

theorem StartsOnce.append
    {first second : List Step}
    (startsOnce : StartsOnce first)
    (quiet : ∀ step ∈ second, step.call.Quiet) :
    StartsOnce (first ++ second) := by
  obtain ⟨step, rest, rfl, starts, idle, restQuiet⟩ := startsOnce
  refine ⟨step, rest ++ second, rfl, starts, idle, ?_⟩
  rw [List.forall_mem_append]
  exact ⟨restQuiet, quiet⟩

instance (call : Call) : Decidable call.Quiet :=
  inferInstanceAs (Decidable (_ ∧ _))

theorem quiet_of_mem_preparationCalls (privacy : Bool) :
    ∀ call ∈ (preparationCalls privacy).tail, call.Quiet := by
  cases privacy with
  | false => decide
  | true => decide

theorem parametersCall_quiet (executable address : String) :
    (parametersCall executable address).Quiet := by
  constructor
  · simp [parametersCall, Call.starts]
  · rfl

/-- The commands for the controller, as far as they were run. -/
theorem startsOnce_of_calls
    {privacy : Bool} {first : Step} {steps : List Step}
    (calls : (first :: steps).map Exchange.call <+: preparationCalls privacy) :
    StartsOnce (first :: steps) := by
  obtain ⟨rest, calls⟩ := calls
  rw [List.map_cons, List.cons_append] at calls
  obtain ⟨first_eq, rest_eq⟩ := List.cons.inj calls
  refine ⟨first, steps, rfl, ?_, ?_, ?_⟩
  · rw [first_eq]
    rfl
  · rw [first_eq]
    rfl
  · intro other present
    apply quiet_of_mem_preparationCalls privacy
    rw [preparationCalls, List.tail_cons, ← rest_eq]
    exact List.mem_append_left rest (List.mem_map_of_mem present)

section Shape

variable {executable address : String} {privacy : Bool}

theorem ControllerPrepared.startsOnce
    {steps : List Step}
    (prepared : ControllerPrepared privacy steps) :
    StartsOnce steps := by
  obtain ⟨calls, _⟩ := prepared
  cases steps with
  | nil => cases calls
  | cons first rest =>
      have isPrefix : (first :: rest).map Exchange.call <+: preparationCalls privacy :=
        ⟨[], by rw [List.append_nil, calls]⟩
      exact startsOnce_of_calls isPrefix

theorem quiet_of_preflight
    {scanTimeout : Nat} {reads : List Step} {result : Except Exn BluezState}
    (runs : (preflightDevice address scanTimeout).Runs reads result) :
    ∀ step ∈ reads, step.call.Quiet := by
  intro step present
  rcases (preflightDevice_only address scanTimeout).of_runs runs step present with
    scans | isQuery
  · rw [scans]
    exact ⟨rfl, rfl⟩
  · exact isQuery.quiet

theorem Prepared.startsOnce
    {trace : List Step} {state : BluezState}
    (prepared : Prepared executable address privacy trace state) :
    StartsOnce trace := by
  obtain ⟨controllerPrepared, reports, ready, loads, loaded⟩ := prepared
  apply (controllerPrepared.startsOnce.append (quiet_of_preflight reports)).append
  rw [List.forall_mem_singleton, loads]
  exact parametersCall_quiet executable address

theorem Unprepared.startsOnce
    {trace : List Step}
    (unprepared : Unprepared executable address privacy trace) :
    StartsOnce trace := by
  cases unprepared with
  | @controller done failed rest calls succeeded fails =>
      have isPrefix : (done ++ [failed]).map Exchange.call <+: preparationCalls privacy := by
        refine ⟨rest, ?_⟩
        rw [← calls, List.map_append, List.append_assoc]
        rfl
      cases done with
      | nil => exact startsOnce_of_calls isPrefix
      | cons first steps => exact startsOnce_of_calls isPrefix
  | scan controllerPrepared raises =>
      exact controllerPrepared.startsOnce.append (quiet_of_preflight raises)
  | notReady controllerPrepared reports notReady =>
      exact controllerPrepared.startsOnce.append (quiet_of_preflight reports)
  | parameters controllerPrepared reports ready loads fails =>
      apply (controllerPrepared.startsOnce.append (quiet_of_preflight reports)).append
      rw [List.forall_mem_singleton, loads]
      exact parametersCall_quiet executable address

theorem startsOnce_of_runs
    {trace : List Step} {result : Except Exn BluezState}
    (runs : (prepareConnectAttempt executable address privacy).Runs trace result) :
    StartsOnce trace := by
  cases result with
  | ok state => exact (runs_prepareConnectAttempt_ok.mp runs).startsOnce
  | error exc => exact (runs_prepareConnectAttempt_error.mp ⟨exc, runs⟩).startsOnce

/-- What starts with a complete preparation does not start with a failed one. -/
theorem Prepared.not_unprepared
    {attempt failed rest after : List Step} {state : BluezState}
    (prepared : Prepared executable address privacy attempt state)
    (same : attempt ++ rest = failed ++ after) :
    ¬Unprepared executable address privacy failed := by
  intro unprepared
  obtain ⟨exc, raises⟩ := runs_prepareConnectAttempt_error.mpr unprepared
  have differ := ((runs_prepareConnectAttempt_ok.mpr prepared).unique raises same).2
  cases differ

/-! ## Closed histories -/

/-- No preparation in the history has failed. -/
theorem Closed.not_unprepared
    {history before failed after : List Step}
    (closed : Closed executable address privacy history)
    (history_eq : history = before ++ failed ++ after) :
    ¬Unprepared executable address privacy failed := by
  intro unprepared
  obtain ⟨step, rest, failed_eq, starts, _⟩ := unprepared.startsOnce
  rw [failed_eq, List.append_assoc, List.cons_append] at history_eq
  obtain ⟨attempt, state, tail, attempt_eq, prepared⟩ :=
    closed before step (rest ++ after) history_eq starts
  have same : attempt ++ tail = failed ++ after := by
    rw [failed_eq, List.cons_append, attempt_eq]
  exact prepared.not_unprepared same unprepared

theorem Closed.nil : Closed executable address privacy [] := by
  intro before step after impossible
  simp at impossible

theorem Closed.append
    {first second : List Step}
    (firstClosed : Closed executable address privacy first)
    (secondClosed : Closed executable address privacy second) :
    Closed executable address privacy (first ++ second) := by
  intro before step after split starts
  rcases List.append_eq_append_iff.mp split with
    ⟨between, rfl, second_eq⟩ | ⟨between, rfl, after_eq⟩
  · exact secondClosed between step after second_eq starts
  · cases between with
    | nil => exact secondClosed [] step after after_eq.symm starts
    | cons other between =>
        obtain ⟨rfl, rfl⟩ := List.cons.inj after_eq
        obtain ⟨attempt, state, rest, attempt_eq, prepared⟩ :=
          firstClosed before step between rfl starts
        refine ⟨attempt, state, rest ++ second, ?_, prepared⟩
        rw [← List.append_assoc, ← attempt_eq]
        rfl

/-- Calls that start nothing leave nothing open. -/
theorem closed_of_quiet
    {trace : List Step}
    (quiet : ∀ step ∈ trace, step.call.starts = false) :
    Closed executable address privacy trace := by
  intro before step after split starts
  have present : step ∈ trace := by
    rw [split]
    exact List.mem_append_right _ List.mem_cons_self
  rw [quiet step present] at starts
  cases starts

theorem Prepared.closed
    {attempt : List Step} {state : BluezState}
    (prepared : Prepared executable address privacy attempt state) :
    Closed executable address privacy attempt := by
  obtain ⟨first, rest, attempt_eq, _, _, quiet⟩ := prepared.startsOnce
  intro before step after split starts
  cases before with
  | nil => exact ⟨attempt, state, [], by rw [split]; simp, prepared⟩
  | cons head before =>
      have present : step ∈ rest := by
        rw [split] at attempt_eq
        rw [← (List.cons.inj attempt_eq).2]
        exact List.mem_append_right _ List.mem_cons_self
      rw [(quiet step present).1] at starts
      cases starts

/-! ## Counting -/

theorem attempts_append (first second : List Step) :
    attempts (first ++ second) = attempts first + attempts second :=
  List.countP_append

theorem attempts_of_quiet
    {trace : List Step}
    (quiet : ∀ step ∈ trace, step.call.starts = false) :
    attempts trace = 0 := by
  rw [attempts, List.countP_eq_zero]
  intro step present
  rw [quiet step present]
  exact Bool.false_ne_true

theorem StartsOnce.attempts_eq
    {trace : List Step}
    (startsOnce : StartsOnce trace) :
    attempts trace = 1 := by
  obtain ⟨step, rest, rfl, starts, _, quiet⟩ := startsOnce
  have others := attempts_of_quiet fun other present => (quiet other present).1
  rw [attempts] at others
  rw [attempts, List.countP_cons, others, if_pos starts]

theorem pairings_append (first second : List Step) :
    pairings (first ++ second) = pairings first + pairings second :=
  List.countP_append

theorem pairs_eq_false_of_commits
    {call : Call}
    (idle : call.commits = false) :
    call.pairs = false := by
  rw [Call.commits, Bool.or_eq_false_iff, Bool.or_eq_false_iff] at idle
  exact idle.1.1

theorem pairings_of_idle
    {trace : List Step}
    (idle : ∀ step ∈ trace, step.call.commits = false) :
    pairings trace = 0 := by
  rw [pairings, List.countP_eq_zero]
  intro step present
  rw [pairs_eq_false_of_commits (idle step present)]
  exact Bool.false_ne_true

theorem StartsOnce.pairings_eq
    {trace : List Step}
    (startsOnce : StartsOnce trace) :
    pairings trace = 0 := by
  obtain ⟨step, rest, rfl, _, idle, quiet⟩ := startsOnce
  apply pairings_of_idle
  rw [List.forall_mem_cons]
  exact ⟨idle, fun other present => (quiet other present).2⟩

/-- Where every pairing is behind a preparation of its own, there are no more
pairings than preparations. -/
theorem pairings_le_attempts
    {trace : List Step}
    (justPrepared : ∀ before step after, trace = before ++ step :: after ->
      step.call.pairs = true -> JustPrepared executable address privacy before) :
    pairings trace ≤ attempts trace := by
  induction length : trace.length using Nat.strong_induction_on generalizing trace with
  | _ size inductionHypothesis =>
      -- what is true of the trace is true of its prefixes
      have ofPrefix {earlier later : List Step}
          (trace_eq : trace = earlier ++ later)
          (nonempty : later ≠ []) : pairings earlier ≤ attempts earlier := by
        apply inductionHypothesis earlier.length ?_ ?_ rfl
        · rw [← length, trace_eq, List.length_append]
          exact Nat.lt_add_of_pos_right (List.length_pos_iff.mpr nonempty)
        · intro before step after split
          apply justPrepared before step (after ++ later)
          rw [trace_eq, split, List.append_assoc, List.cons_append]
      rcases List.eq_nil_or_concat trace with rfl | ⟨before, step, trace_eq⟩
      · exact Nat.le_refl _
      · rw [List.concat_eq_append] at trace_eq
        cases isPairing : step.call.pairs with
        | false =>
            have earlier := ofPrefix trace_eq (List.cons_ne_nil _ _)
            have last : pairings [step] = 0 := by
              rw [pairings, List.countP_singleton, isPairing]
              rfl
            rw [trace_eq, pairings_append, attempts_append, last]
            omega
        | true =>
            obtain ⟨earlier, attempt, queries, state, before_eq, prepared, areQueries⟩ :=
              justPrepared before step [] trace_eq isPairing
            rw [before_eq, List.append_assoc, List.append_assoc] at trace_eq
            have bound := ofPrefix trace_eq (by simp)
            have noneInAttempt := prepared.startsOnce.pairings_eq
            have noneInQueries := pairings_of_idle fun other present =>
              (areQueries other present).quiet.2
            have started := prepared.startsOnce.attempts_eq
            have last : pairings [step] = 1 := by
              rw [pairings, List.countP_singleton, isPairing]
              rfl
            simp only [trace_eq, pairings_append, attempts_append, noneInAttempt,
              noneInQueries, started, last]
            omega

end Shape

/-! ## Which calls a history allows -/

section Guards

variable (executable address : String) (privacy : Bool)

/-- Preparations, pairings and connects are asked for in certain histories only,
and nothing is asked for what a preparation is for while one is open. -/
structure Allowed
    (mayStart mayPair mayConnect : List Step -> Prop)
    (history : List Step)
    (call : Call) : Prop where
  starts : call.starts = true -> mayStart history
  pairs : call.pairs = true -> mayPair history
  connects : call.connects = true -> mayConnect history
  commits : call.commits = true -> Closed executable address privacy history

end Guards

section Rules

variable {executable address : String} {privacy : Bool}
  {mayStart mayPair mayConnect : List Step -> Prop}

/-- A call that is not what a preparation is for is allowed unless it starts
one. -/
theorem allowed_of_idle
    {history : List Step} {call : Call}
    (idle : call.commits = false)
    (start : call.starts = true -> mayStart history) :
    Allowed executable address privacy mayStart mayPair mayConnect history call := by
  have noCommit := idle
  rw [Call.commits, Bool.or_eq_false_iff, Bool.or_eq_false_iff] at noCommit
  refine ⟨start, ?_, ?_, ?_⟩
  · intro pairs
    rw [noCommit.1.1] at pairs
    cases pairs
  · intro connects
    rw [noCommit.1.2] at connects
    cases connects
  · intro commits
    rw [idle] at commits
    cases commits

/-- Quiet calls are always allowed. -/
theorem allowed_of_quiet (history : List Step) (call : Call) (quiet : call.Quiet) :
    Allowed executable address privacy mayStart mayPair mayConnect history call := by
  apply allowed_of_idle quiet.2
  intro starts
  rw [quiet.1] at starts
  cases starts

/-- Quiet calls keep a history closed. -/
theorem stable_closed :
    Program.Triple.Stable Call.Quiet (Closed executable address privacy) := by
  intro history trace quiet closed
  exact closed.append (closed_of_quiet fun step present => (quiet step present).1)

/-- A preparation that returns has extended the history by a complete
preparation. -/
theorem prepareConnectAttempt_safe
    {history : List Step}
    (start : mayStart history) :
    (prepareConnectAttempt executable address privacy).Safe
      (Allowed executable address privacy mayStart mayPair mayConnect)
      (fun after result => ∀ state, result = .ok state ->
        ∃ attempt, after = history ++ attempt ∧
          Prepared executable address privacy attempt state)
      history := by
  rw [Program.safe_iff]
  intro trace result runs
  constructor
  · rintro state rfl
    exact ⟨trace, rfl, runs_prepareConnectAttempt_ok.mp runs⟩
  · obtain ⟨first, rest, rfl, _, idle, quiet⟩ := startsOnce_of_runs runs
    intro before step after split
    cases before with
    | nil =>
        obtain ⟨rfl, _⟩ := List.cons.inj split
        rw [List.append_nil]
        exact allowed_of_idle idle fun _ => start
    | cons head before =>
        obtain ⟨_, rest_eq⟩ := List.cons.inj split
        apply allowed_of_quiet
        apply quiet
        rw [rest_eq]
        exact List.mem_append_right _ List.mem_cons_self

/-- The reads that both paths start and end with are quiet. -/
theorem initialState_quiet (address : String) (infoResult : CompletedProcess) :
    (initialState address infoResult).Only Call.Quiet := by
  unfold initialState
  split
  · apply (preflightDevice_only address DEFAULT_SCAN_TIMEOUT).mono
    rintro call (rfl | isQuery)
    · exact ⟨rfl, rfl⟩
    · exact isQuery.quiet
  · exact trivial

theorem ensureSudoReady_quiet : ensureSudoReady.Only Call.Quiet := by
  unfold ensureSudoReady
  apply Program.Only.bind
  · exact Program.Only.perform ⟨rfl, rfl⟩
  · intro interactive
    split
    · apply Program.Only.bind
      · exact Program.Only.perform ⟨rfl, rfl⟩
      · intro returncode
        split <;> exact trivial
    · exact trivial

theorem readDeviceState_quiet (address : String) :
    (readDeviceState address none none none).Only Call.Quiet :=
  (readDeviceState_only address none none none).mono fun _ => Call.IsQuery.quiet

theorem readConnected_quiet (address : String) (connectResult : CompletedProcess) :
    (readConnected address connectResult).Only Call.Quiet := by
  unfold readConnected
  apply Program.Only.bind (readDeviceState_quiet address)
  intro state
  split
  · exact trivial
  · split <;> exact trivial

theorem info_quiet (address : String) :
    (Call.runCommand ["bluetoothctl", "info", address] 15).Quiet := by
  constructor
  · simp [Call.starts]
  · rfl

theorem connectCall_starts (address : String) :
    (connectCall address).starts = false := by
  simp [connectCall, Call.starts]

end Rules

/-! ## The connection path -/

section Connect

variable (executable address : String) (privacy : Bool)

/-- What the histories of `connect_device` allow. -/
abbrev ConnectAllows : List Step -> Call -> Prop :=
  Allowed executable address privacy (fun _ => True) (fun _ => False)
    fun history => ∃ state, EndsPrepared executable address privacy history state

/-- `connect_device` connects from complete preparations only. -/
theorem connectDevice_triple :
    Program.Triple (ConnectAllows executable address privacy)
      (Closed executable address privacy)
      (connectDevice executable address privacy)
      fun history _ => Closed executable address privacy history := by
  have quiet {α : Type} {program : Action α} (only : program.Only Call.Quiet) :
      Program.Triple (ConnectAllows executable address privacy)
        (Closed executable address privacy) program
        fun history _ => Closed executable address privacy history :=
    Program.Triple.of_only allowed_of_quiet only stable_closed
  have prepares : Program.Triple (ConnectAllows executable address privacy)
      (Closed executable address privacy)
      (prepareConnectAttempt executable address privacy)
      fun history state => Closed executable address privacy history ∧
        EndsPrepared executable address privacy history state := by
    intro history closed
    apply (prepareConnectAttempt_safe trivial).mono
    intro after result returns state same
    obtain ⟨attempt, rfl, prepared⟩ := returns state same
    exact ⟨closed.append prepared.closed, history, attempt, rfl, prepared⟩
  have connects (infoState : BluezState) :
      Program.Triple (ConnectAllows executable address privacy)
        (fun history => Closed executable address privacy history ∧
          EndsPrepared executable address privacy history infoState)
        (perform (connectCall address))
        fun history _ => Closed executable address privacy history := by
    apply Program.Triple.perform
    · intro history holds
      refine ⟨?_, ?_, fun _ => ⟨infoState, holds.2⟩, fun _ => holds.1⟩
      · intro _
        exact trivial
      · intro impossible
        cases impossible
    · intro history result holds
      apply holds.1.append
      apply closed_of_quiet
      rw [List.forall_mem_singleton]
      exact connectCall_starts address
  unfold connectDevice
  apply Program.Triple.bind (quiet (Program.Only.perform (info_quiet address)))
  intro infoResult
  apply Program.Triple.bind (quiet (initialState_quiet address infoResult))
  intro _
  apply Program.Triple.bind (quiet ensureSudoReady_quiet)
  intro _
  apply Program.Triple.bind prepares
  intro infoState
  apply Program.Triple.bind (connects infoState)
  intro connectResult
  apply Program.Triple.bind (quiet (readConnected_quiet address connectResult))
  intro state
  apply Program.Triple.bind
    (quiet ((findDeviceObjectPath_only state.address).mono fun _ => Call.IsQuery.quiet))
  intro devicePath
  exact Program.Triple.done fun _ closed => closed

end Connect

/-! ## The pairing path -/

section Assist

variable (executable address : String) (pairBackend : PairBackend) (privacy : Bool)

/-- The history ends with a preparation and a pairing behind it. -/
inductive PairedBehind : List Step -> CompletedProcess -> Prop
  | intro
      {earlier attempt pairing : List Step} {state : BluezState}
      {pairResult : CompletedProcess}
      (prepared : Prepared executable address privacy attempt state)
      (pairs : (pairDevice pairBackend address).Runs pairing (.ok pairResult)) :
      PairedBehind (earlier ++ attempt ++ pairing) pairResult

/-- The history ends with a pairing that has failed transiently, a read that
does not report the device paired, and a pause. -/
inductive RetryDue : List Step -> Prop
  | intro
      {history reads : List Step} {pause : Step}
      {pairResult : CompletedProcess} {state : BluezState}
      (paired : PairedBehind executable address pairBackend privacy history pairResult)
      (failed : pairResult.returncode ≠ 0)
      (transient : isTransientPairFailure pairResult = true)
      (reports : (readDeviceState address none none none).Runs reads (.ok state))
      (notPaired : state.paired ≠ some true)
      (pauses : pause.call = .sleep second) :
      RetryDue (history ++ reads ++ [pause])

/-- A preparation may start: it is the first, or a retry is due. -/
def MayStart (history : List Step) : Prop :=
  attempts history < 3 ∧
    (attempts history = 0 ∨ RetryDue executable address pairBackend privacy history)

/-- What the histories of `assist_connection` allow. -/
abbrev AssistAllows : List Step -> Call -> Prop :=
  Allowed executable address privacy
    (MayStart executable address pairBackend privacy)
    (JustPrepared executable address privacy)
    fun _ => True

section Rules

variable {executable address : String} {pairBackend : PairBackend} {privacy : Bool}

/-- The histories in which a pairing may be asked for. -/
def ReadyToPair
    (executable address : String)
    (privacy : Bool)
    (history : List Step) : Prop :=
  Closed executable address privacy history ∧
    JustPrepared executable address privacy history

theorem stable_readyToPair :
    Program.Triple.Stable Call.IsQuery (ReadyToPair executable address privacy) := by
  rintro history trace queries ⟨closed, earlier, attempt, between, state, rfl, prepared,
    areQueries⟩
  constructor
  · apply closed.append
    exact closed_of_quiet fun step present => (queries step present).quiet.1
  · refine ⟨earlier, attempt, between ++ trace, state, ?_, prepared, ?_⟩
    · rw [List.append_assoc]
    · rw [List.forall_mem_append]
      exact ⟨areQueries, queries⟩

theorem query_allowed (history : List Step) (call : Call) (isQuery : call.IsQuery) :
    AssistAllows executable address pairBackend privacy history call :=
  allowed_of_quiet history call isQuery.quiet

/-- Programs of queries leave a history ready to pair. -/
theorem queries_triple
    {α : Type} {program : Action α}
    (only : program.Only Call.IsQuery) :
    Program.Triple (AssistAllows executable address pairBackend privacy)
      (ReadyToPair executable address privacy) program
      fun history _ => ReadyToPair executable address privacy history :=
  Program.Triple.of_only query_allowed only stable_readyToPair

/-- A call that pairs is allowed where a pairing may be asked for. -/
theorem pairing_allowed
    {history : List Step} {call : Call}
    (ready : ReadyToPair executable address privacy history)
    (noStart : call.starts = false) :
    AssistAllows executable address pairBackend privacy history call := by
  refine ⟨?_, fun _ => ready.2, fun _ => trivial, fun _ => ready.1⟩
  intro starts
  rw [noStart] at starts
  cases starts

theorem btmgmtPair_starts (address : String) :
    (Call.runCommand ["sudo", "btmgmt", "pair", "-c", "4", "-t", "le-public", address]
      20).starts = false := by
  simp [Call.starts]

/-- A method of the device is safe where the history is ready to pair, if the
method itself is. -/
theorem callDevice_safe
    {name interface : String} {method : String -> Action Unit}
    (safe : ∀ devicePath, Program.Triple
      (AssistAllows executable address pairBackend privacy)
      (ReadyToPair executable address privacy) (method devicePath) fun _ _ => True) :
    Program.Triple (AssistAllows executable address pairBackend privacy)
      (ReadyToPair executable address privacy)
      (callDevice address name interface method)
      fun _ _ => True := by
  unfold callDevice
  apply Program.Triple.bind (queries_triple (findDeviceObjectPath_only address))
  intro devicePath
  cases devicePath with
  | none => exact Program.Triple.done fun _ _ => trivial
  | some devicePath =>
      have connecting : (perform .busConnect).Only Call.IsQuery :=
        Program.Only.perform trivial
      have introspecting :
          (perform (.introspect BLUEZ_SERVICE devicePath interface)).Only Call.IsQuery :=
        Program.Only.perform trivial
      apply Program.Triple.bind (queries_triple connecting)
      intro _
      apply Program.Triple.tryFinally allowed_of_quiet ?_ (Program.Only.perform ⟨rfl, rfl⟩)
      · intro _ _ _ _ _
        exact trivial
      · apply Program.Triple.tryExcept
        · apply Program.Triple.bind (queries_triple introspecting)
          intro _
          apply Program.Triple.bind (safe devicePath)
          intro _
          exact Program.Triple.done fun _ _ => trivial
        · intro exc
          exact Program.Triple.done fun _ _ => trivial

/-- Pairing is safe where it may be asked for. -/
theorem pairDevice_safe :
    Program.Triple (AssistAllows executable address pairBackend privacy)
      (ReadyToPair executable address privacy)
      (pairDevice pairBackend address)
      fun _ _ => True := by
  unfold pairDevice
  cases pairBackend with
  | btmgmt =>
      apply Program.Triple.perform
      · intro history ready
        exact pairing_allowed ready (btmgmtPair_starts address)
      · intro _ _ _
        exact trivial
  | dbus =>
      apply callDevice_safe
      intro devicePath
      apply Program.Triple.perform
      · intro history ready
        exact pairing_allowed ready rfl
      · intro _ _ _
        exact trivial

theorem callDevice_only
    {property : Call -> Prop} {name interface : String} {method : String -> Action Unit}
    (quiet : ∀ call, call.Quiet -> property call)
    (methodOnly : ∀ devicePath, (method devicePath).Only property) :
    (callDevice address name interface method).Only property := by
  unfold callDevice
  apply Program.Only.bind
  · exact (findDeviceObjectPath_only address).mono fun call isQuery =>
      quiet call isQuery.quiet
  · intro devicePath
    cases devicePath with
    | none => exact trivial
    | some devicePath =>
        apply Program.Only.bind (Program.Only.perform (quiet _ ⟨rfl, rfl⟩))
        intro _
        apply Program.Only.tryFinally ?_ (Program.Only.perform (quiet _ ⟨rfl, rfl⟩))
        apply Program.Only.tryExcept
        · apply Program.Only.bind (Program.Only.perform (quiet _ ⟨rfl, rfl⟩))
          intro _
          apply Program.Only.bind (methodOnly devicePath)
          intro _
          exact trivial
        · intro exc
          exact trivial

/-- Pairing starts no preparation. -/
theorem pairDevice_only :
    (pairDevice pairBackend address).Only fun call => call.starts = false := by
  unfold pairDevice
  cases pairBackend with
  | btmgmt => exact Program.Only.perform (btmgmtPair_starts address)
  | dbus =>
      apply callDevice_only
      · intro call quiet
        exact quiet.1
      · intro devicePath
        exact Program.Only.perform rfl

/-- Pairing behind a preparation. -/
theorem pairDevice_triple {state : BluezState} {count : Nat} :
    Program.Triple (AssistAllows executable address pairBackend privacy)
      (fun history => Closed executable address privacy history ∧
        attempts history = count ∧
          EndsPrepared executable address privacy history state)
      (pairDevice pairBackend address)
      fun history pairResult => Closed executable address privacy history ∧
        attempts history = count ∧
          PairedBehind executable address pairBackend privacy history pairResult := by
  rintro history ⟨closed, counted, earlier, attempt, rfl, prepared⟩
  have ready : ReadyToPair executable address privacy (earlier ++ attempt) := by
    refine ⟨closed, earlier, attempt, [], state, ?_, prepared, ?_⟩
    · rw [List.append_nil]
    · intro step impossible
      cases impossible
  apply (pairDevice_safe _ ready).and_runs.mono
  rintro after result ⟨_, trace, rfl, runs⟩ pairResult rfl
  have silent := pairDevice_only.of_runs runs
  refine ⟨closed.append (closed_of_quiet silent), ?_, PairedBehind.intro prepared runs⟩
  rw [attempts_append, counted, attempts_of_quiet silent, Nat.add_zero]

/-- Reads and pauses keep what was counted. -/
theorem stable_counted {count : Nat} :
    Program.Triple.Stable Call.Quiet fun history =>
      Closed executable address privacy history ∧ attempts history = count := by
  rintro history trace quiet ⟨closed, counted⟩
  have silent : ∀ step ∈ trace, step.call.starts = false := fun step present =>
    (quiet step present).1
  refine ⟨closed.append (closed_of_quiet silent), ?_⟩
  rw [attempts_append, counted, attempts_of_quiet silent, Nat.add_zero]

/-- Quiet programs keep what was counted. -/
theorem quiet_triple
    {α : Type} {program : Action α} {count : Nat}
    (only : program.Only Call.Quiet) :
    Program.Triple (AssistAllows executable address pairBackend privacy)
      (fun history => Closed executable address privacy history ∧ attempts history = count)
      program
      fun history _ => Closed executable address privacy history ∧
        attempts history = count :=
  Program.Triple.of_only allowed_of_quiet only stable_counted

/-- The read behind a pairing. -/
theorem reads_triple {pairResult : CompletedProcess} {count : Nat} :
    Program.Triple (AssistAllows executable address pairBackend privacy)
      (fun history => Closed executable address privacy history ∧
        attempts history = count ∧
          PairedBehind executable address pairBackend privacy history pairResult)
      (readDeviceState address none none none)
      fun history state => (Closed executable address privacy history ∧
        attempts history = count) ∧
          ∃ paired reads, history = paired ++ reads ∧
            PairedBehind executable address pairBackend privacy paired pairResult ∧
              (readDeviceState address none none none).Runs reads (.ok state) := by
  rintro history ⟨closed, counted, paired⟩
  apply (quiet_triple (readDeviceState_quiet address) history
    ⟨closed, counted⟩).and_runs.mono
  rintro after result ⟨returns, trace, rfl, runs⟩ state rfl
  exact ⟨returns state rfl, history, trace, rfl, paired, runs⟩

end Rules

variable {executable address pairBackend privacy}

/-- The pairing loop, with as many attempts left as the bound allows. -/
theorem pairAttempts_triple
    {remaining : List Nat} {count : Nat}
    (bound : remaining.length + count = 3)
    (infoState : BluezState)
    (lastPairResult : Option CompletedProcess) :
    Program.Triple (AssistAllows executable address pairBackend privacy)
      (fun history => Closed executable address privacy history ∧
        attempts history = count ∧
          (count = 0 ∨ RetryDue executable address pairBackend privacy history))
      (pairAttempts executable address pairBackend privacy remaining infoState lastPairResult)
      fun history _ => Closed executable address privacy history := by
  induction remaining generalizing count infoState lastPairResult with
  | nil => exact Program.Triple.done fun _ holds => holds.1
  | cons attempt rest inductionHypothesis =>
      rw [List.length_cons] at bound
      have prepares : Program.Triple (AssistAllows executable address pairBackend privacy)
          (fun history => Closed executable address privacy history ∧
            attempts history = count ∧
              (count = 0 ∨ RetryDue executable address pairBackend privacy history))
          (prepareConnectAttempt executable address privacy)
          fun history state => Closed executable address privacy history ∧
            attempts history = count + 1 ∧
              EndsPrepared executable address privacy history state := by
        rintro history ⟨closed, counted, first⟩
        have mayStart : MayStart executable address pairBackend privacy history := by
          constructor
          · omega
          · rw [counted]
            exact first
        apply (prepareConnectAttempt_safe mayStart).mono
        intro after result returns state same
        obtain ⟨attempt, rfl, prepared⟩ := returns state same
        refine ⟨closed.append prepared.closed, ?_, history, attempt, rfl, prepared⟩
        rw [attempts_append, counted, prepared.startsOnce.attempts_eq]
      rw [pairAttempts]
      apply Program.Triple.bind prepares
      intro infoState
      apply Program.Triple.bind pairDevice_triple
      intro pairResult
      split
      · exact Program.Triple.done fun _ holds => holds.1
      · next failed =>
          apply Program.Triple.bind reads_triple
          intro state
          split
          · exact Program.Triple.done fun _ holds => holds.1.1
          · next notPaired =>
              split
              · exact Program.Triple.raise
              · next again =>
                  rw [not_or, Bool.not_eq_false] at again
                  have more : rest.length + (count + 1) = 3 := by omega
                  have due := inductionHypothesis more infoState (some pairResult)
                  apply Program.Triple.bind ?_ fun _ => due
                  apply Program.Triple.perform
                  · intro history _
                    exact allowed_of_quiet history _ ⟨rfl, rfl⟩
                  · rintro history _ ⟨counted, paired, reads, rfl, behind, reports⟩
                    have kept := stable_counted (paired ++ reads) [⟨.sleep second, .ok ()⟩]
                      (List.forall_mem_singleton.mpr ⟨rfl, rfl⟩) counted
                    exact ⟨kept.1, kept.2, Or.inr (RetryDue.intro behind failed again.2
                      reports notPaired rfl)⟩

/-- A program that starts no preparation and does not pair. -/
theorem idle_triple
    {α : Type} {program : Action α}
    (only : program.Only fun call => call.starts = false ∧ call.pairs = false) :
    Program.Triple (AssistAllows executable address pairBackend privacy)
      (Closed executable address privacy) program
      fun history _ => Closed executable address privacy history := by
  intro history closed
  rw [Program.safe_iff]
  intro trace result runs
  have every := only.of_runs runs
  constructor
  · intro value _
    exact closed.append (closed_of_quiet fun step present => (every step present).1)
  · intro before step after split
    have present : step ∈ trace := by
      rw [split]
      exact List.mem_append_right _ List.mem_cons_self
    have closedBefore : Closed executable address privacy (history ++ before) := by
      apply closed.append
      apply closed_of_quiet
      intro other earlier
      apply (every other ?_).1
      rw [split]
      exact List.mem_append_left _ earlier
    obtain ⟨noStart, noPair⟩ := every step present
    refine ⟨?_, ?_, fun _ => trivial, fun _ => closedBefore⟩
    · intro starts
      rw [noStart] at starts
      cases starts
    · intro pairs
      rw [noPair] at pairs
      cases pairs

theorem idle_of_quiet {call : Call} (quiet : call.Quiet) :
    call.starts = false ∧ call.pairs = false :=
  ⟨quiet.1, pairs_eq_false_of_commits quiet.2⟩

theorem ensurePaired_triple (infoState : BluezState) :
    Program.Triple (AssistAllows executable address pairBackend privacy)
      (fun history => Closed executable address privacy history ∧ attempts history = 0)
      (ensurePaired executable address pairBackend privacy infoState)
      fun history _ => Closed executable address privacy history := by
  unfold ensurePaired
  split
  · exact Program.Triple.done fun _ holds => holds.1
  · apply Program.Triple.bind (quiet_triple ensureSudoReady_quiet)
    intro _
    have bound : [0, 1, 2].length + 0 = 3 := rfl
    apply Program.Triple.bind
      ((pairAttempts_triple bound infoState none).mono ?_ fun _ _ closed => closed)
    · intro paired
      split
      · exact Program.Triple.raise
      · exact Program.Triple.done fun _ closed => closed
    · rintro history ⟨closed, counted⟩
      exact ⟨closed, counted, Or.inl rfl⟩

theorem ensureTrusted_triple (infoState : BluezState) :
    Program.Triple (AssistAllows executable address pairBackend privacy)
      (Closed executable address privacy) (ensureTrusted address infoState)
      fun history _ => Closed executable address privacy history := by
  apply idle_triple
  unfold ensureTrusted
  split
  · exact trivial
  · apply Program.Only.bind
    · apply callDevice_only
      · intro call quiet
        exact idle_of_quiet quiet
      · intro devicePath
        exact Program.Only.perform ⟨rfl, rfl⟩
    · intro trustResult
      split
      · apply Program.Only.bind
        · exact (readDeviceState_quiet address).mono fun _ => idle_of_quiet
        · intro state
          split <;> exact trivial
      · exact trivial

/-- The pairing agent is registered around a block with quiet calls. -/
theorem pairingAgent_triple
    {α : Type} {block : Action α}
    {pre : List Step -> Prop}
    (stable : Program.Triple.Stable Call.Quiet pre)
    (body : Program.Triple (AssistAllows executable address pairBackend privacy) pre block
      fun history _ => Closed executable address privacy history) :
    Program.Triple (AssistAllows executable address pairBackend privacy) pre
      (pairingAgent block) fun history _ => Closed executable address privacy history := by
  have quiet {β : Type} {program : Action β} (only : program.Only Call.Quiet) :
      Program.Triple (AssistAllows executable address pairBackend privacy) pre program
        fun history _ => pre history :=
    Program.Triple.of_only allowed_of_quiet only stable
  have leaves {β : Type} {program : Action β} {clause : Action Unit}
      (inside : Program.Triple (AssistAllows executable address pairBackend privacy) pre
        program fun history _ => Closed executable address privacy history)
      (only : clause.Only Call.Quiet) :
      Program.Triple (AssistAllows executable address pairBackend privacy) pre
        (program.tryFinally clause)
        fun history _ => Closed executable address privacy history :=
    inside.tryFinally allowed_of_quiet only fun _ => stable_closed
  unfold pairingAgent
  apply Program.Triple.bind (quiet (Program.Only.perform ⟨rfl, rfl⟩))
  intro _
  apply Program.Triple.bind (quiet (Program.Only.perform ⟨rfl, rfl⟩))
  intro hex
  apply Program.Triple.bind (quiet (Program.Only.perform ⟨rfl, rfl⟩))
  intro _
  apply Program.Triple.bind (quiet (Program.Only.perform ⟨rfl, rfl⟩))
  intro _
  apply Program.Triple.bind (quiet (Program.Only.perform ⟨rfl, rfl⟩))
  intro _
  apply leaves
  · apply Program.Triple.bind (quiet (Program.Only.perform ⟨rfl, rfl⟩))
    intro _
    apply leaves body
    apply Program.Only.tryExcept (Program.Only.perform ⟨rfl, rfl⟩)
    intro exc
    exact trivial
  · apply Program.Only.bind (Program.Only.perform ⟨rfl, rfl⟩)
    intro _
    exact Program.Only.perform ⟨rfl, rfl⟩

/-- `assist_connection` pairs behind complete preparations only, and prepares
again only where a retry is due. -/
theorem assistConnection_triple :
    Program.Triple (AssistAllows executable address pairBackend privacy)
      (fun history => Closed executable address privacy history ∧ attempts history = 0)
      (assistConnection executable address pairBackend privacy)
      fun history _ => Closed executable address privacy history := by
  unfold assistConnection
  apply Program.Triple.bind (quiet_triple (Program.Only.perform (info_quiet address)))
  intro infoResult
  apply Program.Triple.bind (quiet_triple (initialState_quiet address infoResult))
  intro infoState
  apply Program.Triple.bind
  · apply pairingAgent_triple stable_counted
    apply Program.Triple.bind (ensurePaired_triple infoState)
    intro infoState
    apply Program.Triple.bind (ensureTrusted_triple infoState)
    intro _
    apply idle_triple
    exact Program.Only.perform ⟨connectCall_starts address, rfl⟩
  · intro connectResult
    exact idle_triple ((readConnected_quiet address connectResult).mono fun _ => idle_of_quiet)

end Assist

/-! ## Both paths -/

/-- Once a preparation has failed, the run raises and neither connects, pairs
nor trusts. -/
def FailsSafely
    (executable address : String)
    (privacy : Bool)
    (trace : List Step)
    (result : Except Exn α) : Prop :=
  ∀ before attempt after, trace = before ++ attempt ++ after ->
    Unprepared executable address privacy attempt ->
      (∃ exc, result = .error exc) ∧ ∀ step ∈ after, step.call.commits = false

/-- A run that commits from closed histories, and returns with one, fails
safely. -/
theorem failsSafely_of_closed
    {executable address : String} {privacy : Bool}
    {trace : List Step} {result : Except Exn α}
    (returns : ∀ value, result = .ok value -> Closed executable address privacy trace)
    (commits : ∀ before step after, trace = before ++ step :: after ->
      step.call.commits = true -> Closed executable address privacy before) :
    FailsSafely executable address privacy trace result := by
  intro before attempt after trace_eq unprepared
  constructor
  · cases result with
    | ok value => exact absurd unprepared ((returns value rfl).not_unprepared trace_eq)
    | error exc => exact ⟨exc, rfl⟩
  · intro step present
    rw [← Bool.not_eq_true]
    intro isCommit
    obtain ⟨between, rest, rfl⟩ := List.append_of_mem present
    have split : trace = (before ++ attempt ++ between) ++ step :: rest := by
      rw [trace_eq, List.append_assoc (before ++ attempt)]
    exact (commits _ step rest split isCommit).not_unprepared rfl unprepared

/-- In every run of `connect_device` a connect comes directly behind a complete
preparation, and in every run of `assist_connection` a pairing comes behind a
complete preparation and queries only; once a preparation has failed, the run
raises and neither connects, pairs nor trusts.  `assist_connection` makes at
most three attempts, and another one only behind a transient failure and a read
that does not report the device paired. -/
theorem connects_and_pairs_prepared
    (executable address : String)
    (pairBackend : PairBackend)
    (privacy : Bool) :
    (∀ trace result, (connectDevice executable address privacy).Runs trace result ->
      (∀ before step after, trace = before ++ step :: after ->
        step.call.connects = true ->
          ∃ state, EndsPrepared executable address privacy before state) ∧
        FailsSafely executable address privacy trace result) ∧
      ∀ trace result,
        (assistConnection executable address pairBackend privacy).Runs trace result ->
          (∀ before step after, trace = before ++ step :: after ->
            step.call.pairs = true -> JustPrepared executable address privacy before) ∧
          FailsSafely executable address privacy trace result ∧
          attempts trace ≤ 3 ∧ pairings trace ≤ 3 ∧
          ∀ before step after, trace = before ++ step :: after ->
            step.call.starts = true ->
              attempts before = 0 ∨
                RetryDue executable address pairBackend privacy before := by
  constructor
  · intro trace result runs
    obtain ⟨returns, allowed⟩ :=
      (connectDevice_triple executable address privacy).of_runs Closed.nil runs
    constructor
    · intro before step after split
      exact (allowed before step after split).connects
    · apply failsSafely_of_closed returns
      intro before step after split
      exact (allowed before step after split).commits
  · intro trace result runs
    obtain ⟨returns, allowed⟩ := Program.Triple.of_runs assistConnection_triple
      ⟨Closed.nil, rfl⟩ runs
    have prepared (before : List Step) (step : Step) (after : List Step)
        (split : trace = before ++ step :: after) :
        step.call.pairs = true -> JustPrepared executable address privacy before :=
      (allowed before step after split).pairs
    have bound : attempts trace ≤ 3 := by
      apply Program.countP_le_of_allowed
      intro before step after split starts
      exact ((allowed before step after split).starts starts).1
    refine ⟨prepared, ?_, bound, (pairings_le_attempts prepared).trans bound, ?_⟩
    · apply failsSafely_of_closed returns
      intro before step after split
      exact (allowed before step after split).commits
    · intro before step after split starts
      exact ((allowed before step after split).starts starts).2

/-! A bike in pairing mode, on a host without `busctl`. -/

/-- A command that exits with status zero. -/
def exited (argv : List String) (timeout : Nat) (stdout : String) : Step :=
  ⟨.runCommand argv timeout, .ok ⟨argv, 0, stdout, ""⟩⟩

/-- A read of the state where `busctl` is missing. -/
def readSteps (stdout : String) : List Step :=
  [exited ["bluetoothctl", "info", "00:04:63:AA:BB:CC"] 15 stdout,
    ⟨.which "busctl", .ok none⟩]

/-- A preparation of which every command succeeds. -/
def preparedSteps : List Step :=
  [exited ["sudo", "btmgmt", "power", "off"] 15 "",
    exited ["sudo", "btmgmt", "set-sysconfig", "-v",
      "0017:2:1800", "0018:2:1800", "0019:2:0000", "001a:2:4800"] 15 "",
    exited ["sudo", "btmgmt", "privacy", "off"] 15 "",
    exited ["sudo", "btmgmt", "bondable", "on"] 15 "",
    exited ["sudo", "btmgmt", "power", "on"] 15 "",
    exited ["bluetoothctl", "pairable", "on"] 15 "",
    ⟨.scan "00:04:63:AA:BB:CC" 5,
      .ok (some ⟨some "00:04:63:AA:BB:CC", some "smart system eBike", none⟩,
        some ⟨some [(BOSCH_MANUFACTURER_ID, [0x10, 0xeb, 1, 3, 0, 1])]⟩)⟩] ++
    readSteps "Paired: no\n" ++
    [⟨parametersCall "python" "00:04:63:AA:BB:CC", .ok ⟨[], 0, "", ""⟩⟩]

/-- A connect that succeeds. -/
def connectedSteps : List Step :=
  [exited ["bluetoothctl", "info", "00:04:63:AA:BB:CC"] 15 "Paired: no\n",
    ⟨.interactiveTerminal, .ok false⟩] ++ preparedSteps ++
    [exited ["bluetoothctl", "connect", "00:04:63:AA:BB:CC"] 15 ""] ++
    readSteps "Connected: yes\n" ++ [⟨.which "busctl", .ok none⟩]

/-- A pairing that fails transiently, and then one that succeeds. -/
def retriedSteps : List Step :=
  [exited ["bluetoothctl", "info", "00:04:63:AA:BB:CC"] 15 "Paired: no\n",
    ⟨.busConnect, .ok ()⟩, ⟨.uuid4, .ok "0"⟩, ⟨.export "/org/bosch_ble/0", .ok ()⟩,
    ⟨.introspect BLUEZ_SERVICE BLUEZ_ROOT_PATH BLUEZ_AGENT_MANAGER_INTERFACE, .ok ()⟩,
    ⟨.registerAgent "/org/bosch_ble/0" BLUEZ_AGENT_CAPABILITY, .ok ()⟩,
    ⟨.requestDefaultAgent "/org/bosch_ble/0", .ok ()⟩,
    ⟨.interactiveTerminal, .ok false⟩] ++
    preparedSteps ++
    [⟨.runCommand ["sudo", "btmgmt", "pair", "-c", "4", "-t", "le-public",
      "00:04:63:AA:BB:CC"] 20, .ok ⟨[], 1, "", "Connect Failed\n"⟩⟩] ++
    readSteps "Paired: no\n" ++ [⟨.sleep second, .ok ()⟩] ++
    preparedSteps ++
    [exited ["sudo", "btmgmt", "pair", "-c", "4", "-t", "le-public",
      "00:04:63:AA:BB:CC"] 20 "", ⟨.which "busctl", .ok none⟩] ++
    readSteps "Trusted: yes\n" ++
    [exited ["bluetoothctl", "connect", "00:04:63:AA:BB:CC"] 15 "",
      ⟨.unregisterAgent "/org/bosch_ble/0", .ok ()⟩,
      ⟨.unexport "/org/bosch_ble/0", .ok ()⟩, ⟨.busDisconnect, .ok ()⟩] ++
    readSteps "Paired: yes\nConnected: yes\n"

/-- Both runs: the connect comes behind a preparation, and so does the second
pairing, for which a retry is due. -/
theorem connects_and_pairs_prepared_retry :
    (∃ state, EndsPrepared "python" "00:04:63:AA:BB:CC" false
        (connectedSteps.take 12) state) ∧
      RetryDue "python" "00:04:63:AA:BB:CC" .btmgmt false (retriedSteps.take 22) ∧
        JustPrepared "python" "00:04:63:AA:BB:CC" false (retriedSteps.take 32) := by
  have connected : ∃ state, (connectDevice "python" "00:04:63:AA:BB:CC" false).Runs
      connectedSteps (.ok state) := by
    apply Exists.intro
    repeat first | exact Program.Runs.done | apply Program.Runs.ask
  have retried : ∃ state, (assistConnection "python" "00:04:63:AA:BB:CC" .btmgmt false).Runs
      retriedSteps (.ok state) := by
    apply Exists.intro
    repeat first | exact Program.Runs.done | apply Program.Runs.ask
  obtain ⟨_, connectRuns⟩ := connected
  obtain ⟨_, assistRuns⟩ := retried
  obtain ⟨connects, pairs⟩ :=
    connects_and_pairs_prepared "python" "00:04:63:AA:BB:CC" .btmgmt false
  obtain ⟨pairing, _, _, _, starting⟩ := pairs _ _ assistRuns
  refine ⟨(connects _ _ connectRuns).1 _ _ (connectedSteps.drop 13) rfl rfl, ?_,
    pairing _ _ (retriedSteps.drop 33) rfl rfl⟩
  rcases starting (retriedSteps.take 22) _ (retriedSteps.drop 23) rfl rfl with none | due
  · exact absurd none (by decide)
  · exact due

end Bluez
end BoschBle
