import BoschBle.DumpGatt.Main

/-!
# What a dump may do

A monitor follows the proxy, the client and the pairing agent through a run of the
tool.  While a client is connected the tool leaves the controller alone, it pairs only
where the bike has refused a write, it writes nothing but the one descriptor, and it
reads what the client has offered.  Behind a run everything is closed again that could be
closed.
-/

namespace BoschBle
namespace DumpGatt

open Foundation
open Bluez (AgentState AgentPart TimedCall)
open Live (Backend DISCOVERY_RETRY_ATTEMPTS retryMessage)

/-! ## Calls beside a client -/

/-- A call that reads or waits, and one on the bus. -/
def IsObserving (call : Bluez.Call) : Prop :=
  call.isLocal = true -> call.IsQuery ∨ ∃ microseconds, call = .sleep microseconds

/-- A call of a wait for a state. -/
def IsWatching : TimedCall -> Prop
  | .system call => call.IsPreparing ∧ IsObserving call
  | .time => True

theorem readDeviceState_watching (address : String) :
    (Bluez.readDeviceState address none none none).Only fun call =>
      IsWatching (.system call) := by
  have reads := (Bluez.readDeviceState_preparing address none none none).and
    (Bluez.readDeviceState_only address none none none)
  exact reads.mono fun call holds => ⟨holds.1, fun _ => Or.inl holds.2⟩

theorem targetFlags_watching (flags : Bluez.Flags) (lastState : Bluez.BluezState) :
    (Bluez.targetFlags flags lastState).Only fun call => IsWatching (.system call) := by
  unfold Bluez.targetFlags Bluez.busctlAvailable
  split
  · exact trivial
  · apply Program.Only.bind
    · apply Program.Only.bind (Program.Only.perform ⟨⟨rfl, rfl⟩, fun _ => Or.inl trivial⟩)
      intro found
      exact trivial
    · intro available
      split <;> exact trivial

theorem readState_watching (address : String) :
    (Bluez.readState address).Only IsWatching :=
  Bluez.system.only_embed (readDeviceState_watching address) fun _ => id

theorem waitLoop_watching
    {address : String} {target : Bluez.Flags} {waiting : Bluez.Waiting}
    {now : Nat} {lastState : Bluez.BluezState} :
    (Bluez.waitLoop address target waiting now lastState).Only IsWatching := by
  induction left_eq : waiting.timeout - now using Nat.strongRecOn
    generalizing now lastState with
  | ind left inductionHypothesis =>
      rw [Bluez.waitLoop]
      split
      case isTrue => exact trivial
      case isFalse =>
        apply Program.Only.bind (Program.Only.perform trivial)
        intro elapsed
        split
        case isTrue => exact trivial
        case isFalse early =>
          have sleeps : IsWatching (.system (.sleep waiting.interval)) :=
            ⟨⟨rfl, rfl⟩, fun _ => Or.inr ⟨_, rfl⟩⟩
          apply Program.Only.bind (Program.Only.perform sleeps)
          intro slept
          apply Program.Only.bind (readState_watching address)
          intro state
          have paused := waiting.positive
          exact inductionHypothesis _ (by omega) rfl

theorem waitForState_watching
    (address : String)
    (flags : Bluez.Flags)
    (waiting : Bluez.Waiting) :
    (Bluez.waitForState address flags waiting).Only IsWatching := by
  apply Program.Only.bind (readState_watching address)
  intro lastState
  apply Program.Only.bind
    (Bluez.system.only_embed (targetFlags_watching flags lastState) fun _ => id)
  intro target
  apply Program.Only.bind (Program.Only.perform trivial)
  intro reading
  exact waitLoop_watching

/-- Nothing of the program goes over the bus. -/
def OnlyLocal (program : Bluez.Action α) : Prop :=
  program.Only fun call => call.isLocal = true

theorem OnlyLocal.of_preparing
    {program : Bluez.Action α}
    (only : program.Only Bluez.Call.IsPreparing) :
    OnlyLocal program :=
  only.mono fun _ => And.left

theorem OnlyLocal.bind
    {program : Bluez.Action α} {next : α -> Bluez.Action β}
    (first : OnlyLocal program)
    (second : ∀ value, OnlyLocal (next value)) :
    OnlyLocal (program >>= next) :=
  Program.Only.bind first second

theorem OnlyLocal.perform {call : Bluez.Call} (isLocal : call.isLocal = true) :
    OnlyLocal (Bluez.perform call) :=
  Program.Only.perform isLocal

theorem connectDevice_local (executable address : String) (privacy : Bool) :
    OnlyLocal (Bluez.connectDevice executable address privacy) := by
  apply OnlyLocal.bind (OnlyLocal.perform rfl)
  intro infoResult
  apply (OnlyLocal.of_preparing (Bluez.initialState_preparing _ _)).bind
  intro _
  apply (OnlyLocal.of_preparing Bluez.ensureSudoReady_preparing).bind
  intro _
  apply (OnlyLocal.of_preparing (Bluez.prepareConnectAttempt_preparing _ _ _)).bind
  intro infoState
  apply OnlyLocal.bind (OnlyLocal.perform rfl)
  intro connectResult
  apply OnlyLocal.bind
  · apply (OnlyLocal.of_preparing (Bluez.readDeviceState_preparing _ _ _ _)).bind
    intro state
    split
    · exact trivial
    · split <;> exact trivial
  · intro state
    apply (OnlyLocal.of_preparing (Bluez.findDeviceObjectPath_preparing _)).bind
    intro devicePath
    exact trivial

theorem prepareConnection_local
    (host : Bluez.HostProcess)
    (executable address : String) :
    OnlyLocal (prepareConnection host executable address) := by
  apply OnlyLocal.bind
  · apply (OnlyLocal.of_preparing Bluez.controllerDiscoveringState_preparing).bind
    intro discovering
    apply (OnlyLocal.of_preparing (Bluez.assertControllerReady_preparing host _ _)).bind
    intro _
    apply (OnlyLocal.of_preparing (Bluez.preflightDevice_preparing _ _)).bind
    intro state
    split
    · exact OnlyLocal.of_preparing (Bluez.preflightDevice_preparing _ _)
    · exact trivial
  · intro state
    apply (connectDevice_local _ _ _).bind
    intro connectedState
    exact trivial

theorem clientTargetForState_local (state : Option Bluez.BluezState) :
    OnlyLocal (clientTargetForState state) := by
  unfold clientTargetForState
  split
  · exact trivial
  · split
    · exact trivial
    · apply (OnlyLocal.of_preparing (Bluez.findDeviceObjectPath_preparing _)).bind
      intro devicePath
      split <;> exact trivial

/-! ## The monitor -/

/-- What there is of connections. -/
structure Link where
  agent : AgentState := {}
  /-- The proxies that were entered and not told to stop. -/
  proxies : Nat := 0
  /-- How often telling a proxy to stop has raised. -/
  lostProxies : Nat := 0
  /-- The clients that were connected and not disconnected. -/
  clients : Nat := 0
  /-- How often disconnecting a client has raised.  It may be connected still. -/
  lostClients : Nat := 0
  /-- How often a client was to be connected. -/
  entered : Nat := 0
  /-- The services that the client has offered last. -/
  offered : List Service := []
  /-- The client has refused a write. -/
  refused : Bool := false

namespace Link

/-- Whether a proxy is in use: it was entered and its exit has not been tried. -/
def proxy (link : Link) : Bool :=
  decide (link.lostProxies < link.proxies)

/-- Whether a client is in use: it is connected and its exit has not been tried. -/
def client (link : Link) : Bool :=
  decide (link.lostClients < link.clients)

/-- What the client has offered last. -/
def characteristics (link : Link) : List Characteristic :=
  link.offered.flatMap Service.characteristics

/-- The link behind an exchange.  A client is disconnected, and a proxy told to stop, only
where its exit returns. -/
def observe (link : Link) : Step -> Link
  | ⟨.bluez (.system call), answer⟩ => { link with agent := link.agent.observe ⟨call, answer⟩ }
  | ⟨.enterProxy _, .ok _⟩ => { link with proxies := link.proxies + 1 }
  | ⟨.exitProxy, .ok _⟩ => { link with proxies := link.proxies - 1 }
  | ⟨.exitProxy, .error _⟩ => { link with lostProxies := link.lostProxies + 1 }
  | ⟨.enterClient _, .ok _⟩ =>
      { link with
        clients := link.clients + 1
        entered := link.entered + 1
        offered := []
        refused := false }
  | ⟨.enterClient _, .error _⟩ => { link with entered := link.entered + 1 }
  | ⟨.exitClient, .ok _⟩ => { link with clients := link.clients - 1 }
  | ⟨.exitClient, .error _⟩ => { link with lostClients := link.lostClients + 1 }
  | ⟨.services, .ok services⟩ => { link with offered := services }
  | ⟨.writeGattDescriptor _ _, .error _⟩ => { link with refused := true }
  | _ => link

/-- What may be called.  Through a proxy the Bluetooth of the host is not touched. -/
def permits (backend : Backend) (address : String) (link : Link) : Call -> Prop
  | .bluez (.system call) =>
      (backend = .esphome -> ∃ microseconds, call = .sleep microseconds) ∧
        if link.client then
          link.agent.permits call ∧ call.commits = false ∧ IsObserving call
        else call.isLocal = true
  | .bluez .time => backend = .bluez ∧ link.client = true
  | .print _ => True
  | .enterProxy _ => backend = .esphome ∧ link.proxy = false ∧ link.client = false
  | .exitProxy => link.proxy = true ∧ link.client = false
  | .enterClient target =>
      link.client = false ∧ link.entered < DISCOVERY_RETRY_ATTEMPTS ∧
        link.agent.default = none ∧
          (backend = .esphome -> link.proxy = true ∧ target = .address address)
  | .exitClient => link.client = true ∧ link.agent.default = none
  | .isConnected | .services => link.client = true
  | .pair =>
      link.client = true ∧ link.refused = true ∧
        (backend = .bluez -> link.agent.default ≠ none)
  | .writeGattDescriptor handle data =>
      link.client = true ∧ data = secureValue ∧
        ∃ descriptor, findBoschSecurityDescriptor link.offered = .ok descriptor ∧
          descriptor.handle = handle
  | .readGattChar uuid =>
      link.client = true ∧ ∃ characteristic ∈ link.characteristics,
        characteristic.properties.contains "read" = true ∧ characteristic.uuid = uuid
  | .readGattDescriptor handle =>
      link.client = true ∧ ∃ characteristic ∈ link.characteristics,
        ∃ descriptor ∈ characteristic.descriptors, descriptor.handle = handle

/-- The link with a proxy and a client in use or not, as it is between the calls of the
tool.  The others are those whose exit has raised. -/
structure At (proxy client : Bool) (entered : Nat) (link : Link) : Prop where
  proxies_eq : link.proxies = link.lostProxies + proxy.toNat
  clients_eq : link.clients = link.lostClients + client.toNat
  entered_eq : link.entered = entered
  noAgent : link.agent.default = none
  /-- A connection that is left is one of an agent that has failed. -/
  connections : link.agent.connections = link.agent.broken

section At

variable {proxy client : Bool} {entered : Nat} {link : Link}

theorem At.proxy_eq (at_ : link.At proxy client entered) : link.proxy = proxy := by
  rw [Link.proxy, at_.proxies_eq]
  cases proxy <;> simp

theorem At.client_eq (at_ : link.At proxy client entered) : link.client = client := by
  rw [Link.client, at_.clients_eq]
  cases client <;> simp

/-- A client that is left is not in use any more, however its exit ends. -/
theorem At.exitClient
    (connected : link.At proxy true entered)
    (answer : Except Exn Unit) :
    (link.observe ⟨.exitClient, answer⟩).At proxy false entered := by
  cases answer with
  | ok value => exact { connected with clients_eq := congrArg Nat.pred connected.clients_eq }
  | error exc => exact { connected with clients_eq := connected.clients_eq }

/-- A proxy that is left, likewise. -/
theorem At.exitProxy
    (opened : link.At true client entered)
    (answer : Except Exn Unit) :
    (link.observe ⟨.exitProxy, answer⟩).At false client entered := by
  cases answer with
  | ok value => exact { opened with proxies_eq := congrArg Nat.pred opened.proxies_eq }
  | error exc => exact { opened with proxies_eq := opened.proxies_eq }

end At

/-- The link within the staging, where the client offers these services. -/
structure Staging
    (proxy : Bool) (entered : Nat) (services : List Service) (link : Link) : Prop
    extends At proxy true entered link where
  offers : link.offered = services

/-- The link behind a refused write. -/
structure Refused
    (proxy : Bool) (entered : Nat) (services : List Service) (link : Link) : Prop
    extends Staging proxy entered services link where
  refuses : link.refused = true

/-- Nothing is open, behind so many clients at most. -/
def Ended (last : Nat) (link : Link) : Prop :=
  ∃ entered, entered ≤ last ∧ link.At false false entered

/-- What an attempt starts from. -/
def Idle (attempt : Nat) (link : Link) : Prop :=
  attempt ≤ DISCOVERY_RETRY_ATTEMPTS ∧ ∃ entered, entered < attempt ∧
    link.At false false entered

end Link

section Monitor

variable (backend : Backend) (address : String)

/-- The monitor of the safety policy. -/
def linkMonitor : Monitor Call Answer Link where
  observe := Link.observe
  permits := Link.permits backend address

variable {backend address} {proxy client : Bool} {entered : Nat} {services : List Service}
  {link : Link}

/-! ## Staging -/

/-- A call that the monitor does not see. -/
theorem keeps_unseen
    {holds : Link -> Prop} {call : Call}
    (permitted : ∀ link, holds link -> link.permits backend address call)
    (unseen : ∀ (link : Link) answer, link.observe ⟨call, answer⟩ = link) :
    (linkMonitor backend address).Keeps holds (perform call) := by
  apply Monitor.Keeps.perform permitted
  intro link answer kept
  rwa [← unseen link answer] at kept

theorem keeps_print {holds : Link -> Prop} (line : String) :
    (linkMonitor backend address).Keeps holds (print line) :=
  keeps_unseen (fun _ _ => trivial) fun _ _ => rfl

theorem observe_local
    {call : Bluez.Call}
    (isLocal : call.isLocal = true)
    (answer : Except Exn (Bluez.Answer call)) :
    link.observe ⟨.bluez (.system call), answer⟩ = link :=
  congrArg (fun agent => { link with agent := agent }) (Bluez.observe_local isLocal answer)

variable (address) in
theorem permits_preparing
    {call : Bluez.Call}
    (connected : link.client = true)
    (preparing : call.IsPreparing)
    (observing : IsObserving call) :
    link.permits .bluez address (.bluez (.system call)) := by
  constructor
  · intro impossible
    cases impossible
  · rw [if_pos connected]
    refine ⟨Bluez.permits_local preparing.1 ?_, preparing.2, observing⟩
    intro commits
    rw [preparing.2] at commits
    cases commits

section Client

variable {holds : Link -> Prop} (connected : ∀ link, holds link -> link.client = true)
include connected

/-- Calls beside a client. -/
theorem keeps_watching
    {program : Bluez.TimedAction α}
    (watching : program.Only IsWatching) :
    (linkMonitor .bluez address).Keeps holds (bluez.embed program) := by
  apply Monitor.Keeps.of_only
  intro link kept
  apply bluez.only_embed watching
  intro call watches
  cases call with
  | time => exact ⟨⟨rfl, connected link kept⟩, fun _ => rfl⟩
  | system call =>
      exact ⟨permits_preparing address (connected link kept) watches.1 watches.2,
        fun answer => observe_local watches.1.1 answer⟩

theorem keeps_reading
    {program : Bluez.Action α}
    (watching : program.Only fun call => IsWatching (.system call)) :
    (linkMonitor .bluez address).Keeps holds (system.embed program) := by
  apply Monitor.Keeps.of_only
  intro link kept
  apply system.only_embed watching
  intro call watches
  exact ⟨permits_preparing address (connected link kept) watches.1 watches.2,
    fun answer => observe_local watches.1.1 answer⟩

theorem keeps_isConnected : (linkMonitor backend address).Keeps holds (perform .isConnected) :=
  keeps_unseen connected fun _ _ => rfl

theorem alreadyPaired_keeps :
    (linkMonitor backend address).Keeps holds (alreadyPaired address backend) := by
  cases backend with
  | esphome => exact Monitor.Keeps.done _
  | bluez =>
      apply (keeps_reading connected (readDeviceState_watching address)).bind
      intro state
      exact Monitor.Keeps.done _

theorem confirmSecured_keeps :
    (linkMonitor backend address).Keeps holds (confirmSecured address backend) := by
  cases backend with
  | esphome => exact Monitor.Keeps.done _
  | bluez =>
      apply (keeps_watching connected (waitForState_watching address _ _)).bind
      intro state
      apply Monitor.Keeps.ite (Monitor.Keeps.done _)
      apply (keeps_isConnected connected).bind
      intro stillConnected
      exact Monitor.Keeps.ite (Monitor.Keeps.done _) (Monitor.Keeps.done _)

end Client

variable (address) in
/-- The pairing agent in a link whose client is connected. -/
def agentPart (connected : link.client = true) :
    AgentPart system (linkMonitor .bluez address) where
  put := fun agent => { link with agent := agent }
  observe := fun _ _ _ => rfl
  permits := by
    intro agent call onBus idle permitted
    constructor
    · intro impossible
      cases impossible
    · refine (if_pos connected).mpr ⟨permitted, idle, ?_⟩
      intro isLocal
      rw [onBus] at isLocal
      cases isLocal

/-- Pairing leaves the link as it was, but for a connection of a failed agent. -/
theorem pairWithAgent_keeps :
    (linkMonitor backend address).Keeps (Link.Refused proxy entered services)
      (pairWithAgent backend) := by
  cases backend with
  | esphome =>
      apply keeps_unseen
      · intro link refused
        refine ⟨refused.client_eq, refused.refuses, ?_⟩
        intro impossible
        cases impossible
      · intro link answer
        rfl
  | bluez =>
      intro link refused
      have pairs (path : String) :
          (agentPart address refused.client_eq).Keeps (link.agent.within path)
            (perform .pair) := by
        rintro _ rfl
        apply Monitor.Checks.perform
        · exact ⟨refused.client_eq, refused.refuses, fun _ => Option.some_ne_none path⟩
        · intro answer
          rfl
      have leaves := (agentPart address refused.client_eq).pairingAgentIn_left refused.noAgent pairs
      apply leaves.mono
      rintro _ result ⟨agent, rfl, rfl | ⟨noAgent, connection, failed, _⟩⟩
      · exact refused
      · refine ⟨⟨⟨refused.proxies_eq, refused.clients_eq, refused.entered_eq, ?_, ?_⟩,
          refused.offers⟩, refused.refuses⟩
        · exact noAgent.trans refused.noAgent
        · exact connection.trans ((congrArg Nat.succ refused.connections).trans failed.symm)

/-- A write of the descriptor that the client offers, with what it says of a refusal. -/
theorem write_keeps
    {descriptor : Descriptor}
    (found : findBoschSecurityDescriptor services = .ok descriptor) :
    (linkMonitor backend address).Keeps (Link.Refused proxy entered services)
      (perform (.writeGattDescriptor descriptor.handle secureValue)) := by
  apply Monitor.Keeps.perform
  · intro link refused
    refine ⟨refused.client_eq, rfl, descriptor, ?_, rfl⟩
    rw [refused.offers, found]
  · intro link answer refused
    cases answer with
    | ok value => exact refused
    | error exc => exact { refused with refuses := rfl }

theorem handleRefusal_keeps
    {descriptor : Descriptor}
    (found : findBoschSecurityDescriptor services = .ok descriptor)
    (exc : Exn) :
    (linkMonitor backend address).Keeps (Link.Refused proxy entered services)
      (handleRefusal address backend descriptor exc) := by
  have connected (link : Link) (refused : link.Refused proxy entered services) :
      link.client = true :=
    refused.client_eq
  unfold handleRefusal
  apply Monitor.Keeps.ite
  · apply (alreadyPaired_keeps connected).bind
    intro paired
    apply Monitor.Keeps.ite (Monitor.Keeps.done _)
    exact pairWithAgent_keeps.bind fun _ => confirmSecured_keeps connected
  · apply Monitor.Keeps.ite (Monitor.Keeps.done _)
    apply pairWithAgent_keeps.bind
    intro _
    apply (confirmSecured_keeps connected).bind
    intro _
    exact write_keeps found

/-- The services are asked for, and what goes on knows them. -/
theorem services_keeps
    {next : List Service -> Action Unit}
    (goesOn : ∀ services, ∀ link : Link, link.Staging proxy entered services ->
      (linkMonitor backend address).Checks (fun after _ => after.At proxy true entered)
        (next services) link) :
    (linkMonitor backend address).Keeps (Link.At proxy true entered)
      (perform .services >>= next) := by
  intro link connected
  apply Monitor.Checks.perform_bind connected.client_eq
  · intro services
    exact goesOn services _ { connected with offers := rfl }
  · intro exc
    exact connected

theorem stageBoschSecurity_keeps :
    (linkMonitor backend address).Keeps (Link.At proxy true entered)
      (stageBoschSecurity address backend) := by
  apply services_keeps
  intro services link staging
  cases found : findBoschSecurityDescriptor services with
  | error exc => exact staging.toAt
  | ok descriptor =>
      have writes : (linkMonitor backend address).Checks
          (fun after result => after.Staging proxy entered services ∧
            ∀ exc, result = .error exc -> after.Refused proxy entered services)
          (perform (.writeGattDescriptor descriptor.handle secureValue)) link := by
        constructor
        · refine ⟨staging.client_eq, rfl, descriptor, ?_, rfl⟩
          rw [staging.offers, found]
        · intro answer
          cases answer with
          | ok value =>
              refine ⟨staging, ?_⟩
              intro exc impossible
              cases impossible
          | error exc =>
              exact ⟨{ staging with }, fun _ _ => { staging with refuses := rfl }⟩
      apply writes.tryExcept
      · intro after value holds
        exact holds.1.toAt
      · intro after exc holds _
        exact holds.1.toAt
      · intro after exc holds _
        apply (handleRefusal_keeps found exc after (holds.2 exc rfl)).mono
        intro last result refused
        exact refused.toAt

/-! ## The report -/

theorem reportRead_keeps
    {holds : Link -> Prop} {read : Action Bytes}
    (reads : (linkMonitor backend address).Keeps holds read)
    (value : Bytes -> String)
    (failure : String) :
    (linkMonitor backend address).Keeps holds (reportRead read value failure) := by
  apply Monitor.Keeps.tryExcept
  · exact reads.bind fun _ => keeps_print _
  · intro exc
    exact keeps_print _

theorem dumpCharacteristic_keeps
    {service : Service} {char : Characteristic}
    (offers : service ∈ services)
    (has : char ∈ service.characteristics) :
    (linkMonitor backend address).Keeps (Link.Staging proxy entered services)
      (dumpCharacteristic char) := by
  have offered (link : Link) (staging : link.Staging proxy entered services) :
      char ∈ link.characteristics := by
    rw [Link.characteristics, staging.offers]
    exact List.mem_flatMap.mpr ⟨service, offers, has⟩
  apply (keeps_print _).bind
  intro _
  apply (keeps_print _).bind
  intro _
  apply (keeps_print _).bind
  intro _
  have descriptors : (linkMonitor backend address).Keeps (Link.Staging proxy entered services)
      (Program.forEach dumpDescriptor char.descriptors) := by
    apply Program.keeps_forEach
    intro descriptor present
    apply (keeps_print _).bind
    intro _
    apply reportRead_keeps
    apply keeps_unseen
    · intro link staging
      exact ⟨staging.client_eq, char, offered link staging, descriptor, present, rfl⟩
    · intro link answer
      rfl
  split
  case isTrue readable =>
    refine Monitor.Keeps.bind ?_ fun _ => descriptors
    apply reportRead_keeps
    apply keeps_unseen
    · intro link staging
      exact ⟨staging.client_eq, char, offered link staging, readable, rfl⟩
    · intro link answer
      rfl
  case isFalse => exact descriptors

theorem dumpServices_keeps :
    (linkMonitor backend address).Keeps (Link.At proxy true entered) dumpServices := by
  apply (keeps_print _).bind
  intro _
  apply (keeps_print _).bind
  intro _
  apply (keeps_print _).bind
  intro _
  apply services_keeps
  intro services link staging
  have dumps : (linkMonitor backend address).Keeps (Link.Staging proxy entered services)
      (Program.forEach dumpService services) := by
    apply Program.keeps_forEach
    intro service offers
    apply (keeps_print _).bind
    intro _
    apply Monitor.Keeps.bind
    · apply Program.keeps_forEach
      intro char has
      exact dumpCharacteristic_keeps offers has
    · intro _
      exact keeps_print _
  apply (dumps link staging).mono
  intro after result kept
  exact kept.toAt

/-! ## Attempts -/

theorem session_keeps :
    (linkMonitor backend address).Keeps (Link.At proxy true entered)
      (session address backend) := by
  have connected (link : Link) (at_ : link.At proxy true entered) : link.client = true :=
    at_.client_eq
  apply (keeps_isConnected connected).bind
  intro _
  apply (keeps_print _).bind
  intro _
  apply (keeps_isConnected connected).bind
  intro stillConnected
  apply Monitor.Keeps.ite (Monitor.Keeps.done _)
  refine Monitor.Keeps.bind ?_ fun _ => dumpServices_keeps
  apply stageBoschSecurity_keeps.tryExcept
  intro exc
  exact Monitor.Keeps.ite (Monitor.Keeps.done _) (Monitor.Keeps.done _)

/-- A client is disconnected behind its block. -/
theorem withClient_leaves
    {target : Target} {block : Action Unit}
    (closed : link.At proxy false entered)
    (few : entered < DISCOVERY_RETRY_ATTEMPTS)
    (through : backend = .esphome -> proxy = true ∧ target = .address address)
    (keeps : (linkMonitor backend address).Keeps (Link.At proxy true (entered + 1)) block) :
    (linkMonitor backend address).Checks (fun after _ => after.At proxy false (entered + 1))
      (withClient target block) link := by
  have counted : link.entered + 1 = entered + 1 := congrArg Nat.succ closed.entered_eq
  apply Monitor.Checks.perform_bind
  · refine ⟨closed.client_eq, ?_, closed.noAgent, ?_⟩
    · rw [closed.entered_eq]
      exact few
    · rw [closed.proxy_eq]
      exact through
  · intro _
    apply Monitor.Checks.tryFinally
    · exact keeps _
        { closed with clients_eq := congrArg Nat.succ closed.clients_eq, entered_eq := counted }
    · intro after result connected
      apply Monitor.Checks.perform
      · exact ⟨connected.client_eq, connected.noAgent⟩
      · exact connected.exitClient
  · intro exc
    exact { closed with entered_eq := counted }

/-- The proxy is cleaned up behind its block. -/
theorem withProxy_leaves
    {esphomeHost : String} {block : Action Unit} {last : Nat}
    (closed : link.At false false entered)
    (unused : entered ≤ last)
    (leaves : ∀ link : Link, link.At true false entered ->
      (linkMonitor .esphome address).Checks (fun after _ => ∃ left, left ≤ last ∧
        after.At true false left) block link) :
    (linkMonitor .esphome address).Checks (fun after _ => after.Ended last)
      (withProxy esphomeHost block) link := by
  apply Monitor.Checks.perform_bind
  · exact ⟨rfl, closed.proxy_eq, closed.client_eq⟩
  · intro _
    apply Monitor.Checks.tryFinally
    · exact leaves _ { closed with proxies_eq := congrArg Nat.succ closed.proxies_eq }
    · rintro after result ⟨left, counted, opened⟩
      have exits : (linkMonitor .esphome address).Checks (fun after _ => after.Ended last)
          (perform .exitProxy) after := by
        apply Monitor.Checks.perform
        · exact ⟨opened.proxy_eq, opened.client_eq⟩
        · intro answer
          exact ⟨left, counted, opened.exitProxy answer⟩
      apply exits.tryExcept
      · intro state value kept
        exact kept
      · intro state exc kept _
        exact kept
      · intro state exc kept _
        exact kept
  · intro exc
    exact ⟨entered, unused, closed⟩

theorem keeps_local
    {program : Bluez.Action α}
    (onlyLocal : OnlyLocal program) :
    (linkMonitor .bluez address).Keeps (Link.At proxy false entered)
      (system.embed program) := by
  apply Monitor.Keeps.of_only
  intro link closed
  apply system.only_embed onlyLocal
  intro call isLocal
  refine ⟨⟨?_, ?_⟩, fun answer => observe_local isLocal answer⟩
  · intro impossible
    cases impossible
  · rw [if_neg (Bool.eq_false_iff.mp closed.client_eq)]
    exact isLocal

/-- An attempt connects one client at most. -/
theorem attemptDump_leaves
    (host : Bluez.HostProcess)
    (executable : String)
    (esphomeHost : Option String)
    (closed : link.At false false entered)
    (few : entered < DISCOVERY_RETRY_ATTEMPTS) :
    (linkMonitor backend address).Checks (fun after _ => after.Ended (entered + 1))
      (attemptDump host executable address backend esphomeHost) link := by
  cases backend with
  | esphome =>
      unfold attemptDump
      dsimp only
      split
      case isTrue => exact ⟨entered, Nat.le_succ entered, closed⟩
      case isFalse =>
        apply withProxy_leaves closed (Nat.le_succ entered)
        intro link opened
        apply (withClient_leaves opened few (fun _ => ⟨rfl, rfl⟩) session_keeps).mono
        intro after result left
        exact ⟨_, le_rfl, left⟩
  | bluez =>
      apply (keeps_local (prepareConnection_local host executable address) link closed).bind
      · intro after state kept
        apply (keeps_local (clientTargetForState_local _) after kept).bind
        · intro later target kept
          have through : Backend.bluez = .esphome -> false = true ∧ target = .address address := by
            intro impossible
            cases impossible
          apply (withClient_leaves kept few through session_keeps).mono
          intro last result left
          exact ⟨_, le_rfl, left⟩
        · intro later exc kept
          exact ⟨entered, Nat.le_succ entered, kept⟩
      · intro after exc kept
        exact ⟨entered, Nat.le_succ entered, kept⟩

theorem pauseAttempt_leaves
    {attempt : Nat}
    (early : attempt < DISCOVERY_RETRY_ATTEMPTS)
    (ended : link.Ended attempt)
    (message : String) :
    (linkMonitor backend address).Checks
      (fun after result => (result = .ok () -> after.Idle (attempt + 1)) ∧
        ∀ exc, result = .error exc -> after.Ended DISCOVERY_RETRY_ATTEMPTS)
      (pauseAttempt attempt message) link := by
  have pauses : (linkMonitor backend address).Keeps (Link.Ended attempt)
      (pauseAttempt attempt message) := by
    apply (keeps_print message).bind
    intro _
    apply keeps_unseen
    · rintro link ⟨entered, _, closed⟩
      refine ⟨fun _ => ⟨_, rfl⟩, ?_⟩
      rw [if_neg (Bool.eq_false_iff.mp closed.client_eq)]
      rfl
    · intro link answer
      rfl
  apply (pauses link ended).mono
  rintro after result ⟨entered, counted, closed⟩
  constructor
  · intro _
    exact ⟨early, entered, Nat.lt_succ_of_le counted, closed⟩
  · intro _ _
    exact ⟨entered, counted.trans early.le, closed⟩

/-! ## Whole runs -/

/-- The step is this call, and has raised. -/
def raises (call : Call) (step : Step) : Bool :=
  step.call == call &&
    match step.answer with
    | .ok _ => false
    | .error _ => true

theorem lost_observe (link : Link) (step : Step) :
    (link.observe step).lostClients =
        link.lostClients + (raises .exitClient step).toNat ∧
      (link.observe step).lostProxies =
        link.lostProxies + (raises .exitProxy step).toNat := by
  obtain ⟨call, answer⟩ := step
  cases call with
  | bluez call => cases call <;> exact ⟨rfl, rfl⟩
  | _ => cases answer <;> exact ⟨rfl, rfl⟩

/-- What is lost in a run are the exits that have raised in it. -/
theorem lost_after (link : Link) (trace : List Step) :
    ((linkMonitor backend address).after link trace).lostClients =
        link.lostClients + trace.countP (raises .exitClient) ∧
      ((linkMonitor backend address).after link trace).lostProxies =
        link.lostProxies + trace.countP (raises .exitProxy) := by
  induction trace generalizing link with
  | nil => exact ⟨rfl, rfl⟩
  | cons step trace inductionHypothesis =>
      have counted (test : Step -> Bool) :
          (step :: trace).countP test = (test step).toNat + trace.countP test := by
        rw [List.countP_cons, Nat.add_comm]
        cases test step <;> rfl
      obtain ⟨client, proxy⟩ := lost_observe link step
      rw [Monitor.after_cons, counted, counted, ← Nat.add_assoc, ← Nat.add_assoc, ← client,
        ← proxy]
      exact inductionHypothesis (link.observe step)

/-- Every run of the tool keeps to what the monitor permits: beside a client in use the
controller is left alone, the device is paired under the agent of the tool and behind a
refused write only, the descriptor found is all that is written, what the client offers
is all that is read, and through a proxy nothing of the host is used.  At its end no agent
is left, every client that was connected is disconnected and every proxy that was entered
is told to stop, but for those whose exit has raised, and at most three clients were to be
connected. -/
theorem main_safe
    {host : Bluez.HostProcess} {executable : String} {esphomeHost : Option String}
    {trace : List Step} {result : Except Exn Unit}
    (runs : (main host executable address backend esphomeHost).Runs trace result) :
    (linkMonitor backend address).Obeys {} trace ∧
      ∃ entered, entered ≤ DISCOVERY_RETRY_ATTEMPTS ∧
        ((linkMonitor backend address).after {} trace).At false false entered ∧
          ((linkMonitor backend address).after {} trace).clients =
              trace.countP (raises .exitClient) ∧
            ((linkMonitor backend address).after {} trace).proxies =
              trace.countP (raises .exitProxy) := by
  have attempts (attempt : Nat) (link : Link) (idle : link.Idle attempt) :
      (linkMonitor backend address).Checks
        (fun after result => after.Ended DISCOVERY_RETRY_ATTEMPTS ∧
          ∀ exc, result = .error exc -> after.Ended attempt)
        (attemptDump host executable address backend esphomeHost) link := by
    obtain ⟨inTime, entered, fewer, closed⟩ := idle
    have few : entered < DISCOVERY_RETRY_ATTEMPTS := Nat.lt_of_lt_of_le fewer inTime
    apply (attemptDump_leaves host executable esphomeHost closed few).mono
    rintro after result ⟨last, counted, left⟩
    exact ⟨⟨last, counted.trans few, left⟩, fun _ _ => ⟨last, counted.trans fewer, left⟩⟩
  have start : Link.Idle 1 {} := ⟨by decide, 0, Nat.one_pos, ⟨rfl, rfl, rfl, rfl, rfl⟩⟩
  have checks : (linkMonitor backend address).Checks
      (fun after _ => after.Ended DISCOVERY_RETRY_ATTEMPTS)
      (main host executable address backend esphomeHost) {} := by
    apply (keeps_print _ _ start).bind
    · intro link _ idle
      exact Program.checks_retry attempts
        (fun attempt link reason early ended => pauseAttempt_leaves early ended reason) idle rfl
    · rintro link exc ⟨_, entered, fewer, closed⟩
      exact ⟨entered, Nat.le_of_lt (fewer.trans (by decide)), closed⟩
  obtain ⟨obeys, entered, few, ended⟩ := Monitor.checks_iff.mp checks trace result runs
  obtain ⟨clients, proxies⟩ := @lost_after backend address {} trace
  refine ⟨obeys, entered, few, ended, ?_, ?_⟩
  · exact ended.clients_eq.trans (clients.trans (Nat.zero_add _))
  · exact ended.proxies_eq.trans (proxies.trans (Nat.zero_add _))

/-- The user breaks a session off, and the proxy cannot be told to stop. -/
def interruptedSteps : List Step :=
  [⟨.print "Connecting to 00:04:63:AA:BB:CC via esphome ...", .ok ()⟩,
    ⟨.enterProxy "proxy", .ok ()⟩,
    ⟨.enterClient (.address "00:04:63:AA:BB:CC"), .ok ()⟩,
    ⟨.isConnected, .ok true⟩, ⟨.print "Connected: True", .ok ()⟩, ⟨.isConnected, .ok true⟩,
    ⟨.services, .error ⟨.keyboardInterrupt, ""⟩⟩,
    ⟨.exitClient, .ok ()⟩, ⟨.exitProxy, .error ⟨.osError, ""⟩⟩]

theorem main_safe_interrupted :
    (linkMonitor .esphome "00:04:63:AA:BB:CC").Obeys {} interruptedSteps ∧
      ((linkMonitor .esphome "00:04:63:AA:BB:CC").after {} interruptedSteps).clients = 0 ∧
        ((linkMonitor .esphome "00:04:63:AA:BB:CC").after {} interruptedSteps).proxies = 1 := by
  have runs : (main ⟨fun _ => true, 1, 0⟩ "python" "00:04:63:AA:BB:CC" .esphome
      (some "proxy")).Runs interruptedSteps (.error ⟨.keyboardInterrupt, ""⟩) := by
    repeat first | exact Program.Runs.done | apply Program.Runs.ask
  obtain ⟨obeys, entered, _, _, clients, proxies⟩ := main_safe runs
  exact ⟨obeys, clients, proxies⟩

end Monitor
end DumpGatt
end BoschBle
