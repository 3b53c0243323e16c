import BoschBle.Bluez.DevicePaths
import BoschBle.Bluez.WaitState

/-!
# How a wait for a device state ends

A watch is what the loop of `wait_for_state` has done so far: the states that it has
read, with the time since the deadline was set.  Every run goes on from its first
watch to one of three ends.
-/

namespace BoschBle
namespace Bluez

open Foundation

/-! ## Reads -/

theorem busctlAvailable_passive : busctlAvailable.Passive :=
  (Program.Passive.perform _).bind fun _ => Program.RaisesOnly.done _

theorem findDeviceObjectPath_passive (address : String) :
    (findDeviceObjectPath address).Passive := by
  unfold findDeviceObjectPath
  apply busctlAvailable_passive.bind
  intro available
  apply Program.RaisesOnly.ite
  · apply (Program.Passive.perform _).bind
    intro tree
    apply Program.RaisesOnly.ite
    · apply (Program.Passive.perform _).bind
      intro tree
      exact Program.RaisesOnly.ite (Program.RaisesOnly.done _) (Program.RaisesOnly.done _)
    · exact Program.RaisesOnly.done _
  · exact Program.RaisesOnly.done _

theorem readDeviceState_passive
    (address : String)
    (device : Option Device)
    (visible : Option Bool)
    (pairingAdvertisement : Option Bool) :
    (readDeviceState address device visible pairingAdvertisement).Passive := by
  unfold readDeviceState
  apply (Program.Passive.perform _).bind
  intro bluetoothctl
  apply (findDeviceObjectPath_passive address).bind
  intro devicePath
  cases devicePath with
  | none => exact Program.RaisesOnly.done _
  | some devicePath =>
      exact (Program.Passive.perform _).bind fun _ => Program.RaisesOnly.done _

theorem readState_passive (address : String) : (readState address).Passive :=
  (readDeviceState_passive address none none none).embed system

theorem targetFlags_passive (flags : Flags) (lastState : BluezState) :
    (targetFlags flags lastState).Passive := by
  unfold targetFlags
  cases flags.servicesResolved with
  | none => exact Program.RaisesOnly.done _
  | some resolved =>
      apply busctlAvailable_passive.bind
      intro available
      exact Program.RaisesOnly.ite (Program.RaisesOnly.done _) (Program.RaisesOnly.done _)

/-! ## Watches -/

section Watch

variable (address : String) (flags : Flags) (waiting : Waiting)

/-- The trace reads the states `earlier` and then `last`, this long behind the
deadline being set, and the flags waited for are these. -/
inductive Watch (target : Flags) :
    List TimedStep -> List BluezState -> BluezState -> Nat -> Prop
  | start
      {reads checks : List TimedStep} {state : BluezState} {reading : Nat}
      (first : (readState address).Runs reads (.ok state))
      (targets : (system.embed (targetFlags flags state)).Runs checks (.ok target)) :
      Watch target (reads ++ (checks ++ [⟨.time, .ok reading⟩])) [] state 0
  | again
      {trace reads : List TimedStep} {earlier : List BluezState} {last state : BluezState}
      {now elapsed : Nat}
      (watch : Watch target trace earlier last now)
      (unmatched : target.matches last = false)
      (early : now + elapsed < waiting.timeout)
      (next : (readState address).Runs reads (.ok state)) :
      Watch target
        (trace ++ (⟨.time, .ok elapsed⟩ :: ⟨.system (.sleep waiting.interval), .ok ()⟩ :: reads))
        (earlier ++ [last]) state (now + elapsed + waiting.interval)

/-- How a run ends: with the first state that has the flags, behind the deadline, or
with what a call has raised. -/
inductive WaitEnds : List TimedStep -> Except Exn BluezState -> Prop
  | reached
      {target : Flags} {trace : List TimedStep} {earlier : List BluezState}
      {state : BluezState} {now : Nat}
      (watch : Watch address flags waiting target trace earlier state now)
      (reaches : target.matches state = true) :
      WaitEnds trace (.ok state)
  | late
      {target : Flags} {trace : List TimedStep} {earlier : List BluezState}
      {last : BluezState} {now elapsed : Nat}
      (watch : Watch address flags waiting target trace earlier last now)
      (unmatched : target.matches last = false)
      (past : waiting.timeout ≤ now + elapsed) :
      WaitEnds (trace ++ [⟨.time, .ok elapsed⟩]) (.error (unreached address target))
  | broken
      {trace : List TimedStep} {exc : Exn}
      (raises : Program.EndsRaising trace exc) :
      WaitEnds trace (.error exc)

variable {address flags waiting}

/-- No state that a watch has read before its last has the flags. -/
theorem Watch.unmatched
    {target : Flags} {trace : List TimedStep} {earlier : List BluezState}
    {last : BluezState} {now : Nat}
    (watch : Watch address flags waiting target trace earlier last now) :
    ∀ state ∈ earlier, target.matches state = false := by
  induction watch with
  | start first targets => exact List.forall_mem_nil _
  | again watch unmatched early next inductionHypothesis =>
      rw [List.forall_mem_append, List.forall_mem_singleton]
      exact ⟨inductionHypothesis, unmatched⟩

/-- The pauses of a watch have taken their time, and the last of them began before
the deadline. -/
theorem Watch.pauses_le
    {target : Flags} {trace : List TimedStep} {earlier : List BluezState}
    {last : BluezState} {now : Nat}
    (watch : Watch address flags waiting target trace earlier last now) :
    earlier.length * waiting.interval ≤ now ∧
      now < waiting.timeout + waiting.interval := by
  induction watch with
  | start first targets =>
      have paused := waiting.positive
      rw [List.length_nil, Nat.zero_mul]
      omega
  | again watch unmatched early next inductionHypothesis =>
      rw [List.length_append, List.length_singleton, Nat.add_mul, Nat.one_mul]
      omega

/-- From a watch the loop comes to an end. -/
theorem waitLoop_ends
    {target : Flags} {before trace : List TimedStep} {earlier : List BluezState}
    {last : BluezState} {now : Nat} {result : Except Exn BluezState}
    (watch : Watch address flags waiting target before earlier last now)
    (runs : (waitLoop address target waiting now last).Runs trace result) :
    WaitEnds address flags waiting (before ++ trace) result := by
  induction left_eq : waiting.timeout - now using Nat.strongRecOn
    generalizing before trace earlier last now with
  | ind left inductionHypothesis =>
      rw [waitLoop] at runs
      split at runs
      case isTrue reaches =>
        obtain ⟨rfl, rfl⟩ := Program.runs_done.mp runs
        rw [List.append_nil]
        exact WaitEnds.reached watch reaches
      case isFalse unreached =>
        have unmatched : target.matches last = false := Bool.eq_false_of_not_eq_true unreached
        rcases Program.runs_perform_bind.mp runs with
          ⟨exc, rfl, rfl⟩ | ⟨elapsed, rest, rfl, continues⟩
        · exact WaitEnds.broken ((Program.EndsRaising.single _ exc).append_left before)
        · split at continues
          case isTrue past =>
            obtain ⟨rfl, rfl⟩ := Program.runs_done.mp continues
            exact WaitEnds.late watch unmatched past
          case isFalse early =>
            rcases Program.runs_perform_bind.mp continues with
              ⟨exc, rfl, rfl⟩ | ⟨slept, later, rfl, pauses⟩
            · exact WaitEnds.broken
                (((Program.EndsRaising.single _ exc).cons _).append_left before)
            · rcases Program.runs_bind.mp pauses with
                ⟨exc, rfl, raises⟩ | ⟨reads, tail, state, rfl, next, loops⟩
              · exact WaitEnds.broken
                  (((((readState_passive address).ends raises).cons _).cons _).append_left before)
              · have paused := waiting.positive
                have goesOn := inductionHypothesis _ (by omega)
                  (watch.again unmatched (Nat.lt_of_not_le early) next) loops rfl
                rwa [List.append_assoc, List.cons_append, List.cons_append] at goesOn

/-- Every run of `wait_for_state` has read a state with the flags, has read none until
the deadline, or was broken off by a call. -/
theorem waitForState_ends
    {trace : List TimedStep} {result : Except Exn BluezState}
    (runs : (waitForState address flags waiting).Runs trace result) :
    WaitEnds address flags waiting trace result := by
  rcases Program.runs_bind.mp runs with
    ⟨exc, rfl, raises⟩ | ⟨reads, rest, state, rfl, first, continues⟩
  · exact WaitEnds.broken ((readState_passive address).ends raises)
  · rcases Program.runs_bind.mp continues with
      ⟨exc, rfl, raises⟩ | ⟨checks, later, target, rfl, targets, sets⟩
    · have passive := (targetFlags_passive flags state).embed system
      exact WaitEnds.broken ((passive.ends raises).append_left reads)
    · rcases Program.runs_perform_bind.mp sets with
        ⟨exc, rfl, rfl⟩ | ⟨reading, tail, rfl, loops⟩
      · exact WaitEnds.broken
          (((Program.EndsRaising.single _ exc).append_left checks).append_left reads)
      · have watch : Watch address flags waiting target
            (reads ++ (checks ++ [⟨.time, .ok reading⟩])) [] state 0 := Watch.start first targets
        have ends := waitLoop_ends watch loops
        rwa [List.append_assoc, List.append_assoc, List.singleton_append] at ends

/-- What the loop does from a watch, the whole function does. -/
theorem Watch.runs
    {target : Flags} {before trace : List TimedStep} {earlier : List BluezState}
    {last : BluezState} {now : Nat} {result : Except Exn BluezState}
    (watch : Watch address flags waiting target before earlier last now)
    (loops : (waitLoop address target waiting now last).Runs trace result) :
    (waitForState address flags waiting).Runs (before ++ trace) result := by
  induction watch generalizing trace with
  | @start reads checks state reading first targets =>
      rw [List.append_assoc, List.append_assoc, List.singleton_append]
      apply Program.runs_bind.mpr
      refine Or.inr ⟨reads, _, state, rfl, first, ?_⟩
      apply Program.runs_bind.mpr
      refine Or.inr ⟨checks, _, target, rfl, targets, ?_⟩
      apply Program.runs_perform_bind.mpr
      exact Or.inr ⟨reading, trace, rfl, loops⟩
  | @again _ reads _ last state now elapsed watch unmatched early next inductionHypothesis =>
      rw [List.append_assoc, List.cons_append, List.cons_append]
      apply inductionHypothesis
      rw [waitLoop, if_neg (Bool.eq_false_iff.mp unmatched)]
      apply Program.runs_perform_bind.mpr
      refine Or.inr ⟨elapsed, _, rfl, ?_⟩
      rw [dif_neg (Nat.not_le_of_lt early)]
      apply Program.runs_perform_bind.mpr
      refine Or.inr ⟨(), _, rfl, ?_⟩
      apply Program.runs_bind.mpr
      exact Or.inr ⟨reads, trace, state, rfl, next, loops⟩

/-- The flags waited for are those asked for, but for the one that nothing tells. -/
theorem Watch.target_eq
    {target : Flags} {trace : List TimedStep} {earlier : List BluezState}
    {last : BluezState} {now : Nat}
    (watch : Watch address flags waiting target trace earlier last now) :
    target = flags ∨
      target = { flags with servicesResolved := none } ∧
        ⟨.system (.which "busctl"), .ok none⟩ ∈ trace := by
  induction watch with
  | @start reads checks state reading first targets =>
      obtain ⟨inner, rfl, chooses⟩ := system.runs_embed.mp targets
      unfold targetFlags at chooses
      split at chooses
      case h_1 =>
        obtain ⟨_, same⟩ := Program.runs_done.mp chooses
        exact Or.inl (Except.ok.inj same)
      case h_2 =>
        obtain ⟨first, second, available, rfl, looks, returns⟩ :=
          Program.runs_bind_ok.mp chooses
        obtain ⟨found, rfl, rfl⟩ := busctlAvailable_runs looks
        split at returns
        case isTrue untold =>
          obtain ⟨rfl, same⟩ := Program.runs_done.mp returns
          have absent : found = none := by
            cases found with
            | none => rfl
            | some path => cases untold
          rw [absent]
          refine Or.inr ⟨Except.ok.inj same, ?_⟩
          apply List.mem_append_right
          exact List.mem_append_left _ List.mem_cons_self
        case isFalse =>
          obtain ⟨_, same⟩ := Program.runs_done.mp returns
          exact Or.inl (Except.ok.inj same)
  | again watch unmatched early next inductionHypothesis =>
      exact inductionHypothesis.imp id fun dropped =>
        ⟨dropped.1, List.mem_append_left _ dropped.2⟩

/-- Waiting returns exactly where a watch has come to a state with the flags. -/
theorem waitForState_ok_iff
    {trace : List TimedStep} {state : BluezState} :
    (waitForState address flags waiting).Runs trace (.ok state) ↔
      ∃ target earlier now, Watch address flags waiting target trace earlier state now ∧
        target.matches state = true := by
  constructor
  · intro runs
    generalize result_eq : Except.ok state = result at runs
    cases waitForState_ends runs with
    | reached watch reaches =>
        cases result_eq
        exact ⟨_, _, _, watch, reaches⟩
    | late watch unmatched past => cases result_eq
    | broken raises => cases result_eq
  · rintro ⟨target, earlier, now, watch, reaches⟩
    have returns : (waitLoop address target waiting now state).Runs [] (.ok state) := by
      rw [waitLoop, if_pos reaches]
      exact Program.Runs.done
    have runs := watch.runs returns
    rwa [List.append_nil] at runs

theorem isRuntimeError_of_type
    {exc : Exn}
    (isRuntime : exc.type = .runtimeError) :
    isRuntimeError exc = true := by
  unfold isRuntimeError
  rw [isRuntime]

/-- An exception that is no `RuntimeError` comes from a call. -/
theorem waitForState_raises
    {trace : List TimedStep} {exc : Exn}
    (raises : (waitForState address flags waiting).Runs trace (.error exc)) :
    exc.type = .runtimeError ∨ Program.EndsRaising trace exc := by
  generalize result_eq : Except.error exc = result at raises
  cases waitForState_ends raises with
  | reached watch reaches => cases result_eq
  | late watch unmatched past =>
      cases result_eq
      exact Or.inl rfl
  | broken ends =>
      cases result_eq
      exact Or.inr ends

theorem Flags.paired_of_matches
    {paired : Bool} {state : BluezState}
    (asks : flags.paired = some paired)
    (reaches : flags.matches state = true) :
    state.paired = some paired := by
  unfold Flags.matches at reaches
  rw [Bool.and_eq_true, Bool.and_eq_true, asks] at reaches
  exact eq_of_beq reaches.1.1

theorem Flags.connected_of_matches
    {connected : Bool} {state : BluezState}
    (asks : flags.connected = some connected)
    (reaches : flags.matches state = true) :
    state.connected = some connected := by
  unfold Flags.matches at reaches
  rw [Bool.and_eq_true, Bool.and_eq_true, asks] at reaches
  exact eq_of_beq reaches.1.2

theorem Flags.resolved_of_matches
    {resolved : Bool} {state : BluezState}
    (asks : flags.servicesResolved = some resolved)
    (reaches : flags.matches state = true) :
    state.servicesResolved = some resolved := by
  unfold Flags.matches at reaches
  rw [Bool.and_eq_true, asks] at reaches
  exact eq_of_beq reaches.2

section Reached

variable {target : Flags} {trace : List TimedStep} {earlier : List BluezState}
  {last : BluezState} {now : Nat}

/-- A watch that comes to the pairing flag it waits for comes to the one asked for. -/
theorem Watch.paired_of_matches
    {paired : Bool}
    (watch : Watch address flags waiting target trace earlier last now)
    (asks : flags.paired = some paired)
    (reaches : target.matches last = true) :
    last.paired = some paired := by
  rcases watch.target_eq with rfl | ⟨rfl, _⟩
  · exact Flags.paired_of_matches asks reaches
  · exact @Flags.paired_of_matches { flags with servicesResolved := none } _ _ asks reaches

theorem Watch.connected_of_matches
    {connected : Bool}
    (watch : Watch address flags waiting target trace earlier last now)
    (asks : flags.connected = some connected)
    (reaches : target.matches last = true) :
    last.connected = some connected := by
  rcases watch.target_eq with rfl | ⟨rfl, _⟩
  · exact Flags.connected_of_matches asks reaches
  · exact @Flags.connected_of_matches { flags with servicesResolved := none } _ _ asks reaches

/-- The services alone are not waited for where nothing tells of them. -/
theorem Watch.resolved_of_matches
    {resolved : Bool}
    (watch : Watch address flags waiting target trace earlier last now)
    (asks : flags.servicesResolved = some resolved)
    (reaches : target.matches last = true) :
    last.servicesResolved = some resolved ∨ ⟨.system (.which "busctl"), .ok none⟩ ∈ trace := by
  rcases watch.target_eq with rfl | ⟨_, missing⟩
  · exact Or.inl (Flags.resolved_of_matches asks reaches)
  · exact Or.inr missing

end Reached

/-- No run of `wait_for_state` goes on for ever, and each ends in one of three ways.  It
returns the state that it has read last, which has the flags asked for and is the first
read that has; or its clock has passed the deadline and no state read had them; or
its last call has raised. -/
theorem waitForState_outcome
    {trace : List TimedStep} {result : Except Exn BluezState}
    (runs : (waitForState address flags waiting).Runs trace result) :
    (∃ target watched earlier last now rest,
      Watch address flags waiting target watched earlier last now ∧
        trace = watched ++ rest ∧
        (target = flags ∨
          target = { flags with servicesResolved := none } ∧
            ⟨.system (.which "busctl"), .ok none⟩ ∈ trace) ∧
        (∀ state ∈ earlier, target.matches state = false) ∧
        earlier.length * waiting.interval < waiting.timeout + waiting.interval ∧
        (rest = [] ∧ target.matches last = true ∧ result = .ok last ∨
          ∃ elapsed, rest = [⟨.time, .ok elapsed⟩] ∧ target.matches last = false ∧
            waiting.timeout ≤ now + elapsed ∧
              result = .error (unreached address target))) ∨
      ∃ exc, result = .error exc ∧ Program.EndsRaising trace exc := by
  have pauses : ∀ {target watched earlier last now},
      Watch address flags waiting target watched earlier last now ->
        earlier.length * waiting.interval < waiting.timeout + waiting.interval := by
    intro target watched earlier last now watch
    obtain ⟨passed, begun⟩ := watch.pauses_le
    exact Nat.lt_of_le_of_lt passed begun
  cases waitForState_ends runs with
  | reached watch reaches =>
      exact Or.inl ⟨_, trace, _, _, _, [], watch, (List.append_nil trace).symm,
        watch.target_eq, watch.unmatched, pauses watch, Or.inl ⟨rfl, reaches, rfl⟩⟩
  | @late target watched earlier last now elapsed watch unmatched past =>
      refine Or.inl ⟨target, watched, earlier, last, now, _, watch, rfl,
        ?_, watch.unmatched, pauses watch, Or.inr ⟨elapsed, rfl, unmatched, past, rfl⟩⟩
      exact watch.target_eq.imp id fun dropped =>
        ⟨dropped.1, List.mem_append_left _ dropped.2⟩
  | broken raises => exact Or.inr ⟨_, rfl, raises⟩

end Watch

/-! ## A wait with one pause -/

/-- What `bluetoothctl info` gives. -/
def infoResult (stdout : String) : CompletedProcess :=
  ⟨["bluetoothctl", "info", "00:04:63:AA:BB:CC"], 0, stdout, ""⟩

/-- The state that `bluetoothctl` alone tells. -/
def infoState (stdout : String) : BluezState :=
  buildState "00:04:63:AA:BB:CC" (infoResult stdout) none none none none

/-- A read of the state where `busctl` is missing. -/
def infoReads (stdout : String) : List TimedStep :=
  [⟨.system (.runCommand ["bluetoothctl", "info", "00:04:63:AA:BB:CC"] 15),
      .ok (infoResult stdout)⟩,
    ⟨.system (.which "busctl"), .ok none⟩]

/-- The first read does not find the device connected, the second does. -/
def pausedSteps : List TimedStep :=
  infoReads "Connected: no\n" ++ [⟨.time, .ok 0⟩] ++
    [⟨.time, .ok 40⟩, ⟨.system (.sleep second), .ok ()⟩] ++ infoReads "Connected: yes\n"

theorem infoReads_runs (stdout : String) :
    (readState "00:04:63:AA:BB:CC").Runs (infoReads stdout) (.ok (infoState stdout)) := by
  repeat first | exact Program.Runs.done | apply Program.Runs.ask

theorem pausedSteps_watch :
    Watch "00:04:63:AA:BB:CC" { connected := some true } {} { connected := some true }
      pausedSteps [infoState "Connected: no\n"] (infoState "Connected: yes\n") 1000040 :=
  have first : Watch "00:04:63:AA:BB:CC" { connected := some true } {}
      { connected := some true } (infoReads "Connected: no\n" ++ ([] ++ [⟨.time, .ok 0⟩])) []
      (infoState "Connected: no\n") 0 :=
    Watch.start (infoReads_runs _) Program.Runs.done
  have early : 0 + 40 < DEFAULT_WAIT_TIMEOUT := by decide
  first.again (by decide) early (infoReads_runs _)

theorem waitForState_outcome_paused :
    ∃ target earlier last now, target.matches last = true ∧
      earlier.length * second < 8 * second + second ∧
      Watch "00:04:63:AA:BB:CC" { connected := some true } {} target pausedSteps earlier
        last now := by
  have runs : (waitForState "00:04:63:AA:BB:CC" { connected := some true } {}).Runs
      pausedSteps (.ok (infoState "Connected: yes\n")) :=
    waitForState_ok_iff.mpr ⟨_, _, _, pausedSteps_watch, by decide⟩
  rcases waitForState_outcome runs with
    ⟨target, watched, earlier, last, now, rest, watch, trace_eq, _, _, bound, ends⟩ |
      ⟨exc, impossible, _⟩
  · rcases ends with ⟨rfl, reaches, _⟩ | ⟨_, _, _, _, impossible⟩
    · rw [List.append_nil] at trace_eq
      rw [trace_eq]
      exact ⟨target, earlier, last, now, reaches, bound, watch⟩
    · cases impossible
  · cases impossible

section Watch

variable {address : String} {flags : Flags} {waiting : Waiting}

/-- `wait_for_services` returns a state that is connected with its services resolved.
Without `busctl` it may return a state that is only connected, and where `bluetoothctl`
does not tell about the services either, the first state that it reads, whatever that is.
It gives up with what the state is at last, and otherwise passes on what its last call
has raised. -/
theorem waitForServices_ends
    {trace : List TimedStep} {result : Except Exn BluezState}
    (runs : (waitForServices address waiting).Runs trace result) :
    (∃ state, result = .ok state ∧
      (state.connected = some true ∧
          (state.servicesResolved = some true ∨
            ⟨.system (.which "busctl"), .ok none⟩ ∈ trace) ∨
        state.servicesResolved = none ∧ ∃ reads,
          trace = reads ++ [⟨.system (.which "busctl"), .ok none⟩] ∧
            (readState address).Runs reads (.ok state))) ∨
      (∃ before reads state, trace = before ++ reads ∧
        (readState address).Runs reads (.ok state) ∧
          result = .error (unresolved address state)) ∨
      ∃ exc, result = .error exc ∧ Program.EndsRaising trace exc := by
  rcases Program.runs_bind.mp runs with
    ⟨exc, rfl, raises⟩ | ⟨reads, rest, initial, rfl, first, continues⟩
  · exact Or.inr (Or.inr ⟨exc, rfl, (readState_passive address).ends raises⟩)
  rcases Program.runs_bind.mp continues with
    ⟨exc, rfl, raises⟩ | ⟨checks, later, available, rfl, looks, waits⟩
  · have passive := (busctlAvailable_passive.embed system).ends raises
    exact Or.inr (Or.inr ⟨exc, rfl, passive.append_left reads⟩)
  split at waits
  case isTrue untold =>
    obtain ⟨rfl, rfl⟩ := Program.runs_done.mp waits
    obtain ⟨inner, rfl, asks⟩ := system.runs_embed.mp looks
    obtain ⟨found, rfl, rfl⟩ := busctlAvailable_runs asks
    rw [Bool.and_eq_true, Option.isNone_iff_eq_none] at untold
    cases found with
    | some path => cases untold.1
    | none =>
        exact Or.inl ⟨initial, rfl, Or.inr ⟨untold.2, reads, rfl, first⟩⟩
  case isFalse =>
    rcases Program.runs_tryExcept.mp waits with
      ⟨state, rfl, reaches⟩ | ⟨exc, uncaught, rfl, raises⟩ |
        ⟨before, after, exc, rfl, caught, raises, handles⟩
    · obtain ⟨target, earlier, now, watch, has⟩ := waitForState_ok_iff.mp reaches
      refine Or.inl ⟨state, rfl, Or.inl ⟨watch.connected_of_matches rfl has, ?_⟩⟩
      refine (watch.resolved_of_matches rfl has).imp id fun missing => ?_
      exact List.mem_append_right _ (List.mem_append_right _ missing)
    · rcases waitForState_raises raises with isRuntime | ends
      · rw [isRuntime] at uncaught
        cases uncaught
      · exact Or.inr (Or.inr
          ⟨exc, rfl, (ends.append_left checks).append_left reads⟩)
    · split at handles
      case isTrue =>
        rcases Program.runs_bind.mp handles with
          ⟨other, rfl, fails⟩ | ⟨again, tail, last, rfl, rereads, gives⟩
        · have passive := (readState_passive address).ends fails
          exact Or.inr (Or.inr ⟨other, rfl,
            ((passive.append_left before).append_left checks).append_left reads⟩)
        · obtain ⟨rfl, rfl⟩ := Program.runs_done.mp gives
          refine Or.inr (Or.inl ⟨reads ++ (checks ++ before), again, last, ?_, rereads, rfl⟩)
          rw [List.append_nil, List.append_assoc, List.append_assoc]
      case isFalse other =>
        obtain ⟨rfl, rfl⟩ := Program.runs_done.mp handles
        rcases waitForState_raises raises with isRuntime | ends
        · exact absurd (isRuntimeError_of_type isRuntime) other
        · rw [List.append_nil]
          exact Or.inr (Or.inr
            ⟨exc, rfl, (ends.append_left checks).append_left reads⟩)

/-- Without `busctl`, and without the flag in the output of `bluetoothctl`, the first
state is returned, though it is not connected. -/
theorem waitForServices_ends_untold :
    ∃ state, (waitForServices "00:04:63:AA:BB:CC" {}).Runs
        (infoReads "Connected: no\n" ++ [⟨.system (.which "busctl"), .ok none⟩]) (.ok state) ∧
      state.connected = some false ∧ state.servicesResolved = none ∧
        ∃ reads, infoReads "Connected: no\n" ++ [⟨.system (.which "busctl"), .ok none⟩] =
            reads ++ [⟨.system (.which "busctl"), .ok none⟩] ∧
          (readState "00:04:63:AA:BB:CC").Runs reads (.ok state) := by
  have runs : (waitForServices "00:04:63:AA:BB:CC" {}).Runs
      (infoReads "Connected: no\n" ++ [⟨.system (.which "busctl"), .ok none⟩])
      (.ok (infoState "Connected: no\n")) := by
    repeat first | exact Program.Runs.done | apply Program.Runs.ask
  rcases waitForServices_ends runs with
    ⟨state, state_eq, ⟨connected, _⟩ | ⟨untold, reads, trace_eq, first⟩⟩ |
      ⟨_, _, _, _, _, impossible⟩ | ⟨_, impossible, _⟩
  · cases state_eq
    exact absurd connected (by decide)
  · cases state_eq
    exact ⟨_, runs, by decide, untold, reads, trace_eq, first⟩
  · cases impossible
  · cases impossible

end Watch
end Bluez
end BoschBle
