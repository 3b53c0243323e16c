import BoschBle.Bluez.Preparation
import BoschBle.Foundation.Monitor

/-!
# The life of a pairing agent

`assist_connection` pairs, trusts and connects a device within the block of a pairing
agent.  A monitor follows the bus connections and the agents through a run: it lets
the device be paired, trusted and connected only while there is a default agent, and
it says what a run leaves behind.  The block of an agent is checked for every monitor
that has this one as a part, since other tools put blocks of their own into it.
-/

namespace BoschBle
namespace Bluez

open Foundation

/-! ## Calls apart from the bus -/

/-- A call that does not go over the system bus. -/
def Call.isLocal : Call -> Bool
  | .runCommand _ _ | .run _ | .which _ | .interactiveTerminal | .scan _ _ | .sleep _ => true
  | _ => false

/-- A local call that neither pairs nor connects a device. -/
def Call.IsPreparing (call : Call) : Prop :=
  call.isLocal = true ∧ call.commits = false

theorem findDeviceObjectPath_preparing (address : String) :
    (findDeviceObjectPath address).Only Call.IsPreparing := by
  unfold findDeviceObjectPath busctlAvailable
  apply Program.Only.bind
  · exact Program.Only.bind (Program.Only.perform ⟨rfl, rfl⟩) fun _ => trivial
  · intro available
    split
    · apply Program.Only.bind (Program.Only.perform ⟨rfl, rfl⟩)
      intro tree
      split
      · apply Program.Only.bind (Program.Only.perform ⟨rfl, rfl⟩)
        intro tree
        split <;> exact trivial
      · exact trivial
    · exact trivial

theorem readDeviceState_preparing
    (address : String)
    (device : Option Device)
    (visible : Option Bool)
    (pairingAdvertisement : Option Bool) :
    (readDeviceState address device visible pairingAdvertisement).Only Call.IsPreparing := by
  unfold readDeviceState
  apply Program.Only.bind (Program.Only.perform ⟨rfl, rfl⟩)
  intro bluetoothctl
  apply Program.Only.bind (findDeviceObjectPath_preparing address)
  intro devicePath
  cases devicePath with
  | none => exact trivial
  | some devicePath =>
      exact Program.Only.bind (Program.Only.perform ⟨rfl, rfl⟩) fun _ => trivial

theorem preflightDevice_preparing (address : String) (scanTimeout : Nat) :
    (preflightDevice address scanTimeout).Only Call.IsPreparing := by
  apply Program.Only.bind (Program.Only.perform ⟨rfl, rfl⟩)
  intro found
  exact readDeviceState_preparing _ _ _ _

theorem initialState_preparing (address : String) (infoResult : CompletedProcess) :
    (initialState address infoResult).Only Call.IsPreparing := by
  unfold initialState
  split
  · exact preflightDevice_preparing _ _
  · exact trivial

theorem ensureSudoReady_preparing : ensureSudoReady.Only Call.IsPreparing := by
  unfold ensureSudoReady
  apply Program.Only.bind (Program.Only.perform ⟨rfl, rfl⟩)
  intro interactive
  split
  · apply Program.Only.bind (Program.Only.perform ⟨rfl, rfl⟩)
    intro returncode
    split <;> exact trivial
  · exact trivial

theorem checked_preparing
    {failure : CompletedProcess -> Exn} {command : Action CompletedProcess}
    (preparing : command.Only Call.IsPreparing) :
    (checked failure command).Only Call.IsPreparing := by
  apply Program.Only.bind preparing
  intro result
  split <;> exact trivial

theorem runSteps_preparing
    {steps : List (ConnectionSetupStep × Action CompletedProcess)}
    (preparing : ∀ step ∈ steps, step.2.Only Call.IsPreparing) :
    (runSteps steps).Only Call.IsPreparing := by
  induction steps with
  | nil => exact trivial
  | cons step steps inductionHypothesis =>
      rw [List.forall_mem_cons] at preparing
      apply Program.Only.bind (checked_preparing preparing.1)
      intro _
      exact inductionHypothesis preparing.2

theorem prepareConnectAttempt_preparing (executable address : String) (privacy : Bool) :
    (prepareConnectAttempt executable address privacy).Only Call.IsPreparing := by
  have command (argv : List String) (timeout : Nat)
      (preparing : (Call.runCommand argv timeout).IsPreparing) :
      (perform (.runCommand argv timeout)).Only Call.IsPreparing :=
    Program.Only.perform preparing
  unfold prepareConnectAttempt
  apply Program.Only.bind
  · apply runSteps_preparing
    simp only [List.forall_mem_cons]
    exact ⟨command _ _ ⟨rfl, rfl⟩, command _ _ ⟨rfl, rfl⟩, command _ _ ⟨rfl, rfl⟩,
      command _ _ ⟨rfl, rfl⟩, command _ _ ⟨rfl, rfl⟩, List.forall_mem_nil _⟩
  intro _
  apply Program.Only.bind (checked_preparing (command _ _ ⟨rfl, rfl⟩))
  intro _
  apply Program.Only.bind (preflightDevice_preparing _ _)
  intro state
  apply Program.Only.bind (show (Program.done _ : Action Unit).Only _ from trivial)
  intro _
  exact Program.Only.bind (checked_preparing (command _ _ ⟨rfl, rfl⟩)) fun _ => trivial

/-! ## The monitor -/

/-- What there is of connections to the bus and of agents. -/
structure AgentState where
  connections : Nat := 0
  exported : List String := []
  /-- The agent that was made the default agent. -/
  default : Option String := none
  /-- How often setting an agent up, or taking its object back, has raised. -/
  broken : Nat := 0
  deriving DecidableEq

namespace AgentState

/-- Setting an agent up, or taking its object back, has raised. -/
def fail (state : AgentState) : AgentState :=
  { state with broken := state.broken + 1 }

/-- What a call does.  A refused `UnregisterAgent` ends the default agent as well: its
exception is dropped, and BlueZ drops an agent whose connection is closed, as is done next.
A `disconnect` that raises counts as closed. -/
def observe (state : AgentState) : Step -> AgentState
  | ⟨.busConnect, .ok _⟩ => { state with connections := state.connections + 1 }
  | ⟨.busDisconnect, _⟩ => { state with connections := state.connections - 1 }
  | ⟨.uuid4, .error _⟩ => state.fail
  | ⟨.export path, .ok _⟩ => { state with exported := path :: state.exported }
  | ⟨.export _, .error _⟩ => state.fail
  | ⟨.introspect _ _ interface, .error _⟩ =>
      if interface = BLUEZ_AGENT_MANAGER_INTERFACE then state.fail else state
  | ⟨.registerAgent _ _, .error _⟩ => state.fail
  | ⟨.requestDefaultAgent path, .ok _⟩ => { state with default := some path }
  | ⟨.unregisterAgent _, _⟩ => { state with default := none }
  | ⟨.unexport path, .ok _⟩ => { state with exported := state.exported.erase path }
  | ⟨.unexport _, .error _⟩ => state.fail
  | _ => state

/-- A device is paired, trusted and connected under a default agent only, an agent is
registered where its object is exported, and a connection is closed where one is open. -/
def permits (state : AgentState) : Call -> Prop
  | .registerAgent path _ => path ∈ state.exported
  | .requestDefaultAgent path => path ∈ state.exported
  | .unregisterAgent path => state.default = some path
  | .unexport path => path ∈ state.exported
  | .busDisconnect => 0 < state.connections
  | call => call.commits = true -> state.default ≠ none

/-- A call on the bus that neither pairs nor trusts a device nor is about an agent. -/
def isIdle : Call -> Bool
  | .busConnect | .uuid4 | .introspect _ _ _ | .export _ => true
  | _ => false

theorem permits_idle
    {state : AgentState} {call : Call}
    (idle : isIdle call = true) :
    state.permits call := by
  cases call <;> cases idle <;> exact fun impossible => absurd impossible Bool.false_ne_true

/-- The state with one connection more. -/
def connected (start : AgentState) : AgentState :=
  { start with connections := start.connections + 1 }

/-- The state in which an agent is registered. -/
def registered (start : AgentState) (path : String) : AgentState :=
  { start.connected with exported := path :: start.exported }

/-- The state within the block of an agent. -/
def within (start : AgentState) (path : String) : AgentState :=
  { start.registered path with default := some path }

/-- Everything was taken back, unless that or the set-up has raised: then a connection
was left open, and the result is an exception. -/
def Left (start state : AgentState) (result : Except Exn α) : Prop :=
  state = start ∨
    state.default = start.default ∧ state.connections = start.connections + 1 ∧
      state.broken = start.broken + 1 ∧ ∃ exc, result = .error exc

theorem Left.of_error
    {start state : AgentState} {exc : Exn}
    (left : Left start state (.error exc : Except Exn α)) :
    Left start state (.error exc : Except Exn β) := by
  rcases left with same | ⟨noAgent, connection, failed, _⟩
  · exact Or.inl same
  · exact Or.inr ⟨noAgent, connection, failed, exc, rfl⟩

/-- A block that returned has left nothing. -/
theorem Left.eq_start
    {start state : AgentState} {value : α}
    (left : Left start state (.ok value)) :
    state = start := by
  rcases left with same | ⟨_, _, _, exc, impossible⟩
  · exact same
  · cases impossible

end AgentState

/-- The monitor of the agents of a run. -/
def agentMonitor : Monitor Call Answer AgentState where
  observe := AgentState.observe
  permits := AgentState.permits

section Agent

variable {state : AgentState}

theorem AgentState.observe_manager (state : AgentState) (exc : Exn) :
    state.observe
        ⟨.introspect BLUEZ_SERVICE BLUEZ_ROOT_PATH BLUEZ_AGENT_MANAGER_INTERFACE, .error exc⟩ =
      state.fail := by
  change (if BLUEZ_AGENT_MANAGER_INTERFACE = BLUEZ_AGENT_MANAGER_INTERFACE
    then state.fail else state) = _
  rw [if_pos rfl]

/-- From this state the program ends in it again. -/
abbrev Keeps (state : AgentState) (program : Action α) : Prop :=
  agentMonitor.Keeps (fun other => other = state) program

theorem observe_local
    {call : Call}
    (isLocal : call.isLocal = true)
    (answer : Except Exn (Answer call)) :
    state.observe ⟨call, answer⟩ = state := by
  cases call <;> first | rfl | cases isLocal

theorem permits_local
    {call : Call}
    (isLocal : call.isLocal = true)
    (permitted : call.commits = true -> state.default ≠ none) :
    state.permits call := by
  cases call <;> first | exact permitted | cases isLocal

theorem keeps_preparing
    {program : Action α}
    (preparing : program.Only Call.IsPreparing) :
    Keeps state program := by
  apply Monitor.Keeps.of_only
  rintro _ rfl
  apply preparing.mono
  rintro call ⟨isLocal, idle⟩
  refine ⟨permits_local isLocal ?_, observe_local isLocal⟩
  intro commits
  rw [idle] at commits
  cases commits

/-- A local call under the default agent. -/
theorem keeps_perform
    {call : Call}
    (isLocal : call.isLocal = true)
    (hasAgent : state.default ≠ none) :
    Keeps state (perform call) := by
  apply Monitor.Keeps.perform
  · rintro _ rfl
    exact permits_local isLocal fun _ => hasAgent
  · rintro _ answer rfl
    exact observe_local isLocal answer

/-- A method of the device is called on a connection of its own. -/
theorem callDevice_keeps
    {address name interface : String} {method : String -> Action Unit}
    (noManager : interface ≠ BLUEZ_AGENT_MANAGER_INTERFACE)
    (hasAgent : state.default ≠ none)
    (calls : ∀ devicePath (state : AgentState), state.default ≠ none ->
      Keeps state (method devicePath)) :
    Keeps state (callDevice address name interface method) := by
  unfold callDevice
  apply Monitor.Keeps.bind (keeps_preparing (findDeviceObjectPath_preparing address))
  intro devicePath
  cases devicePath with
  | none => exact Monitor.Keeps.done _
  | some devicePath =>
      dsimp only
      rintro state rfl
      apply Monitor.Checks.perform_bind
      · intro impossible
        cases impossible
      · intro connected
        have calling : Keeps state.connected (do
            perform (.introspect BLUEZ_SERVICE devicePath interface)
            method devicePath
            return (⟨["bluez", name, address], 0, "", ""⟩ : CompletedProcess)) := by
          rintro _ rfl
          apply Monitor.Checks.perform_bind
          · intro impossible
            cases impossible
          · intro _
            have calls := calls devicePath state.connected hasAgent
            exact (calls.bind fun _ => Monitor.Keeps.done _) _ rfl
          · intro exc
            exact if_neg noManager
        have handled := calling.tryExcept fun exc =>
          Monitor.Keeps.done (.ok ⟨["bluez", name, address], 1, "", formatCliError exc ++ "\n"⟩)
        apply (handled _ rfl).tryFinally
        rintro _ result rfl
        exact Monitor.Checks.perform (Nat.succ_pos _) fun _ => rfl
      · intro exc
        rfl

theorem pairDevice_keeps
    (pairBackend : PairBackend)
    (address : String)
    (hasAgent : state.default ≠ none) :
    Keeps state (pairDevice pairBackend address) := by
  cases pairBackend with
  | btmgmt => exact keeps_perform rfl hasAgent
  | dbus =>
      apply callDevice_keeps (by decide) hasAgent
      rintro devicePath state hasAgent _ rfl
      exact Monitor.Checks.perform (fun _ => hasAgent) fun _ => rfl

theorem bluezSetTrusted_keeps
    (address : String)
    (trusted : Bool)
    (hasAgent : state.default ≠ none) :
    Keeps state (bluezSetTrusted address trusted) := by
  apply callDevice_keeps (by decide) hasAgent
  rintro devicePath state hasAgent _ rfl
  exact Monitor.Checks.perform (fun _ => hasAgent) fun _ => rfl

section Assist

variable (executable address : String) (pairBackend : PairBackend) (privacy : Bool)

theorem pairAttempts_keeps
    (hasAgent : state.default ≠ none)
    (attempts : List Nat)
    (infoState : BluezState)
    (lastPairResult : Option CompletedProcess) :
    Keeps state (pairAttempts executable address pairBackend privacy attempts infoState
      lastPairResult) := by
  induction attempts generalizing infoState lastPairResult with
  | nil => exact Monitor.Keeps.done _
  | cons attempt rest inductionHypothesis =>
      apply Monitor.Keeps.bind (keeps_preparing (prepareConnectAttempt_preparing _ _ _))
      intro infoState
      apply (pairDevice_keeps pairBackend address hasAgent).bind
      intro pairResult
      apply Monitor.Keeps.ite (Monitor.Keeps.done _)
      apply Monitor.Keeps.bind (keeps_preparing (readDeviceState_preparing _ _ _ _))
      intro readState
      apply Monitor.Keeps.ite (Monitor.Keeps.done _)
      apply Monitor.Keeps.ite (Monitor.Keeps.done _)
      exact (keeps_perform rfl hasAgent).bind fun _ => inductionHypothesis _ _

theorem ensurePaired_keeps
    (hasAgent : state.default ≠ none)
    (infoState : BluezState) :
    Keeps state (ensurePaired executable address pairBackend privacy infoState) := by
  apply Monitor.Keeps.ite (Monitor.Keeps.done _)
  apply Monitor.Keeps.bind (keeps_preparing ensureSudoReady_preparing)
  intro _
  apply Monitor.Keeps.bind
    (pairAttempts_keeps executable address pairBackend privacy hasAgent _ _ _)
  intro paired
  exact Monitor.Keeps.ite (Monitor.Keeps.done _) (Monitor.Keeps.done _)

theorem ensureTrusted_keeps
    (hasAgent : state.default ≠ none)
    (infoState : BluezState) :
    Keeps state (ensureTrusted address infoState) := by
  apply Monitor.Keeps.ite (Monitor.Keeps.done _)
  apply (bluezSetTrusted_keeps address true hasAgent).bind
  intro trustResult
  refine Monitor.Keeps.ite ?_ (Monitor.Keeps.done _)
  apply Monitor.Keeps.bind (keeps_preparing (readDeviceState_preparing _ _ _ _))
  intro readState
  exact Monitor.Keeps.ite (Monitor.Keeps.done _) (Monitor.Keeps.done _)

theorem readConnected_keeps (connectResult : CompletedProcess) :
    Keeps state (readConnected address connectResult) := by
  apply Monitor.Keeps.bind (keeps_preparing (readDeviceState_preparing _ _ _ _))
  intro state
  apply Monitor.Keeps.ite (Monitor.Keeps.done _)
  exact Monitor.Keeps.ite (Monitor.Keeps.done _) (Monitor.Keeps.done _)

end Assist

end Agent

/-! ## The block of an agent -/

section Block

variable {Wider : Type} {WiderAnswer : Wider -> Type}

/-- `pairing_agent` around a block of a wider environment. -/
def pairingAgentIn
    (embedding : Embedding Call Answer Wider WiderAnswer)
    (block : Program Wider WiderAnswer α) : Program Wider WiderAnswer α := do
  embedding.embed (perform .busConnect)
  let hex <- embedding.embed (perform .uuid4)
  let path := BLUEZ_AGENT_BASE_PATH ++ "/" ++ hex
  embedding.embed (perform (.export path))
  embedding.embed
    (perform (.introspect BLUEZ_SERVICE BLUEZ_ROOT_PATH BLUEZ_AGENT_MANAGER_INTERFACE))
  embedding.embed (perform (.registerAgent path BLUEZ_AGENT_CAPABILITY))
  Program.tryFinally
    (do
      embedding.embed (perform (.requestDefaultAgent path))
      Program.tryFinally block
        (Program.tryExcept (embedding.embed (perform (.unregisterAgent path)))
          fun _ => return ()))
    (do
      embedding.embed (perform (.unexport path))
      embedding.embed (perform .busDisconnect))

theorem pairingAgentIn_refl (block : Action α) :
    pairingAgentIn Embedding.refl block = pairingAgent block := by
  simp only [pairingAgentIn, Embedding.embed_refl]
  rfl

/-- States of a wider monitor in which it follows the agents, one for each of theirs. -/
structure AgentPart
    (embedding : Embedding Call Answer Wider WiderAnswer)
    (wider : Monitor Wider WiderAnswer σ) where
  put : AgentState -> σ
  observe : ∀ agent step, step.call.isLocal = false ->
    wider.observe (put agent) (embedding.lift step) = put (agent.observe step)
  permits : ∀ agent call, call.isLocal = false -> call.commits = false ->
    agent.permits call -> wider.permits (put agent) (embedding.call call)

/-- The monitor of the agents alone. -/
def AgentPart.whole : AgentPart Embedding.refl agentMonitor where
  put := id
  observe := fun _ _ _ => rfl
  permits := fun _ _ _ _ permitted => permitted

namespace AgentPart

variable {embedding : Embedding Call Answer Wider WiderAnswer}
  {wider : Monitor Wider WiderAnswer σ} (part : AgentPart embedding wider)
  {post : σ -> Except Exn β -> Prop}

/-- A call on the bus, and what goes on with its value. -/
theorem perform_bind
    {agent : AgentState} {call : Call} {next : Answer call -> Program Wider WiderAnswer β}
    (onBus : call.isLocal = false)
    (idle : call.commits = false)
    (permitted : agent.permits call)
    (returns : ∀ value, wider.Checks post (next value)
      (part.put (agent.observe ⟨call, .ok value⟩)))
    (raises : ∀ exc, post (part.put (agent.observe ⟨call, .error exc⟩)) (.error exc)) :
    wider.Checks post (embedding.embed (perform call) >>= next) (part.put agent) := by
  apply Monitor.Checks.embed_perform_bind (part.permits agent call onBus idle permitted)
  · intro value
    rw [part.observe agent _ onBus]
    exact returns value
  · intro exc
    rw [part.observe agent _ onBus]
    exact raises exc

theorem perform
    {agent : AgentState} {call : Call} {post : σ -> Except Exn (Answer call) -> Prop}
    (onBus : call.isLocal = false)
    (idle : call.commits = false)
    (permitted : agent.permits call)
    (holds : ∀ answer, post (part.put (agent.observe ⟨call, answer⟩)) answer) :
    wider.Checks post (embedding.embed (Bluez.perform call)) (part.put agent) := by
  apply Monitor.Checks.embed_perform (part.permits agent call onBus idle permitted)
  intro answer
  rw [part.observe agent _ onBus]
  exact holds answer

/-- What the block of an agent leaves of the state. -/
def Left (start : AgentState) (after : σ) (result : Except Exn α) : Prop :=
  ∃ agent, after = part.put agent ∧ AgentState.Left start agent result

theorem left_start
    (start : AgentState)
    (result : Except Exn α) :
    part.Left start (part.put start) result :=
  ⟨start, rfl, Or.inl rfl⟩

/-- A failure with one connection more. -/
theorem left_failed
    (start agent : AgentState)
    (noAgent : agent.default = start.default)
    (connection : agent.connections = start.connections + 1)
    (failed : agent.broken = start.broken + 1)
    (exc : Exn) :
    part.Left start (part.put agent) (.error exc : Except Exn α) :=
  ⟨agent, rfl, Or.inr ⟨noAgent, connection, failed, exc, rfl⟩⟩

/-- From the state of these agents the program ends in it again. -/
abbrev Keeps (agent : AgentState) (program : Program Wider WiderAnswer α) : Prop :=
  wider.Keeps (fun state => state = part.put agent) program

section Agent

variable {start : AgentState} {block : Program Wider WiderAnswer α} {path : String}

/-- The default agent is taken back behind the block, whatever has happened. -/
theorem requested_keeps
    (noAgent : start.default = none)
    (keeps : part.Keeps (start.within path) block) :
    part.Keeps (start.registered path)
      (do
        embedding.embed (Bluez.perform (.requestDefaultAgent path))
        Program.tryFinally block
          (Program.tryExcept (embedding.embed (Bluez.perform (.unregisterAgent path)))
            fun _ => return ())) := by
  have taken : { start.within path with default := none } = start.registered path := by
    rw [AgentState.within, AgentState.registered, AgentState.mk.injEq]
    exact ⟨rfl, rfl, noAgent.symm, rfl⟩
  have unregisters : wider.Checks (fun after _ => after = part.put (start.registered path))
      (embedding.embed (Bluez.perform (.unregisterAgent path)))
      (part.put (start.within path)) := by
    refine part.perform rfl rfl ?_ ?_
    · exact rfl
    · intro answer
      exact congrArg part.put taken
  rintro _ rfl
  refine part.perform_bind rfl rfl ?_ ?_ ?_
  · exact List.mem_cons_self
  · intro requested
    apply Monitor.Checks.tryFinally (keeps _ rfl)
    rintro _ result rfl
    apply unregisters.tryExcept
    · rintro _ value rfl
      rfl
    · rintro _ exc rfl _
      rfl
    · rintro _ exc rfl _
      rfl
  · intro exc
    rfl

/-- The object of a registered agent is taken back, and the connection closed. -/
theorem registered_left
    (noAgent : start.default = none)
    (keeps : part.Keeps (start.within path) block) :
    wider.Checks (part.Left start)
      (Program.tryFinally
        (do
          embedding.embed (Bluez.perform (.requestDefaultAgent path))
          Program.tryFinally block
            (Program.tryExcept (embedding.embed (Bluez.perform (.unregisterAgent path)))
              fun _ => return ()))
        (do
          embedding.embed (Bluez.perform (.unexport path))
          embedding.embed (Bluez.perform .busDisconnect)))
      (part.put (start.registered path)) := by
  apply Monitor.Checks.tryFinally (part.requested_keeps noAgent keeps _ rfl)
  rintro _ result rfl
  refine part.perform_bind rfl rfl ?_ ?_ ?_
  · exact List.mem_cons_self
  · intro unexported
    refine part.perform rfl rfl ?_ ?_
    · exact Nat.succ_pos _
    · intro answer
      have restored : ((start.registered path).observe
          ⟨.unexport path, .ok unexported⟩).observe ⟨.busDisconnect, answer⟩ = start := by
        have removed : (path :: start.exported).erase path = start.exported :=
          List.erase_cons_head path _
        change { start with
          connections := start.connections + 1 - 1
          exported := (path :: start.exported).erase path } = start
        rw [removed, Nat.add_sub_cancel]
      rw [restored]
      exact part.left_start start _
  · intro exc
    exact part.left_failed start (start.registered path).fail rfl rfl rfl exc

/-- The block of an agent leaves nothing, unless the agent has failed. -/
theorem pairingAgentIn_left
    (noAgent : start.default = none)
    (keeps : ∀ path, part.Keeps (start.within path) block) :
    wider.Checks (part.Left start) (pairingAgentIn embedding block)
      (part.put start) := by
  refine part.perform_bind rfl rfl (AgentState.permits_idle rfl) ?_ ?_
  · intro connected
    refine part.perform_bind rfl rfl (AgentState.permits_idle rfl) ?_ ?_
    · intro hex
      refine part.perform_bind rfl rfl (AgentState.permits_idle rfl) ?_ ?_
      · intro exported
        refine part.perform_bind rfl rfl (AgentState.permits_idle rfl) ?_ ?_
        · intro manager
          refine part.perform_bind rfl rfl ?_ ?_ ?_
          · exact List.mem_cons_self
          · intro registered
            exact part.registered_left noAgent (keeps _)
          · exact part.left_failed start (start.registered _).fail rfl rfl rfl
        · intro exc
          rw [AgentState.observe_manager]
          exact part.left_failed start (start.registered _).fail rfl rfl rfl exc
      · exact part.left_failed start start.connected.fail rfl rfl rfl
    · exact part.left_failed start start.connected.fail rfl rfl rfl
  · intro exc
    exact part.left_start start _

end Agent
end AgentPart
end Block

/-- An agent around a block of `bluez.py`. -/
theorem pairingAgent_left
    {start : AgentState} {block : Action α}
    (noAgent : start.default = none)
    (keeps : ∀ path, Keeps (start.within path) block) :
    agentMonitor.Checks (AgentState.Left start) (pairingAgent block) start := by
  rw [← pairingAgentIn_refl]
  apply (AgentPart.whole.pairingAgentIn_left noAgent keeps).mono
  rintro _ result ⟨agent, rfl, left⟩
  exact left

/-- In every run of `assist_connection` the device is paired, trusted and connected under
the agent of that run alone.  Behind it no agent is the default agent, the connections to
the bus are closed and the objects of agents are taken back, unless setting the agent up
or taking it back has raised: then one connection is left, and the run raises. -/
theorem assistConnection_agent
    {executable address : String} {pairBackend : PairBackend} {privacy : Bool}
    {trace : List Step} {result : Except Exn BluezState}
    (runs : (assistConnection executable address pairBackend privacy).Runs trace result) :
    agentMonitor.Obeys {} trace ∧ AgentState.Left {} (agentMonitor.after {} trace) result := by
  have ended (result : Except Exn BluezState) : AgentState.Left {} {} result := Or.inl rfl
  have checks : agentMonitor.Checks (AgentState.Left {})
      (assistConnection executable address pairBackend privacy) {} := by
    apply Monitor.Checks.perform_bind
    · intro impossible
      cases impossible
    · intro infoResult
      apply Monitor.Checks.bind
        (keeps_preparing (initialState_preparing address infoResult) _ rfl)
      · rintro _ infoState rfl
        apply Monitor.Checks.bind (pairingAgent_left rfl _)
        · intro after connectResult left
          rw [left.eq_start]
          apply (readConnected_keeps address connectResult _ rfl).mono
          rintro _ result rfl
          exact ended result
        · intro after exc left
          exact left.of_error
        · intro path
          have hasAgent : (AgentState.within {} path).default ≠ none := Option.some_ne_none path
          apply (ensurePaired_keeps executable address pairBackend privacy hasAgent _).bind
          intro infoState
          apply (ensureTrusted_keeps address hasAgent _).bind
          intro _
          exact keeps_perform rfl hasAgent
      · rintro _ exc rfl
        exact ended _
    · intro exc
      exact ended _
  exact Monitor.checks_iff.mp checks trace result runs

/-- BlueZ is asked for the agent manager and does not answer. -/
def unansweredSteps : List Step :=
  [⟨.runCommand ["bluetoothctl", "info", "00:04:63:AA:BB:CC"] 15,
      .ok ⟨[], 0, "Paired: yes\n", ""⟩⟩,
    ⟨.busConnect, .ok ()⟩, ⟨.uuid4, .ok "0"⟩, ⟨.export "/org/bosch_ble/0", .ok ()⟩,
    ⟨.introspect BLUEZ_SERVICE BLUEZ_ROOT_PATH BLUEZ_AGENT_MANAGER_INTERFACE,
      .error ⟨.timeoutError, ""⟩⟩]

/-- The connection that was opened for the agent stays open. -/
theorem assistConnection_agent_unanswered :
    agentMonitor.Obeys {} unansweredSteps ∧
      (agentMonitor.after {} unansweredSteps).connections = 1 := by
  have runs : (assistConnection "python" "00:04:63:AA:BB:CC" .dbus false).Runs
      unansweredSteps (.error ⟨.timeoutError, ""⟩) := by
    repeat first | exact Program.Runs.done | apply Program.Runs.ask
  obtain ⟨obeys, same | ⟨_, one, _⟩⟩ := assistConnection_agent runs
  · exact absurd same (by decide)
  · exact ⟨obeys, one⟩

end Bluez
end BoschBle
