import BoschBle.Foundation.ContextManager
import BoschBle.Foundation.Effect
import Mathlib.Data.List.Infix

/-!
# Opening a client with retries

`connectedClient` is the generator behind the context manager that a live
session opens its client with.  The calls it makes belong to other components,
so an `Attempt` gives what each of them leads to; the pause between attempts
returns.  The yield sits inside the block whose exceptions are retried, and a
retry is decided by the text of an exception alone.
-/

namespace BoschBle
namespace Live

open Foundation

/-- A raised exception object.  Two raises with one text are two objects. -/
structure Raised where
  /-- The identity of the object. -/
  object : Nat
  /-- Its class and text. -/
  exn : Exn
  deriving DecidableEq

/-- How the device is reached. -/
inductive Backend
  | bluez
  | esphome
  deriving DecidableEq

/-- What the calls of one attempt lead to. -/
structure Attempt where
  /-- Setting up the proxy. -/
  proxy : Except Raised Unit := .ok ()
  /-- `prepare_connection`. -/
  prepare : Except Raised Unit := .ok ()
  /-- `client_target_for_state`. -/
  target : Except Raised Unit := .ok ()
  /-- Building the client and connecting it. -/
  enter : Except Raised Unit := .ok ()
  /-- What `is_connected` says then. -/
  isConnected : Bool := true
  /-- `stage_bosch_security`. -/
  staging : Except Raised Unit := .ok ()
  /-- Disconnecting the client on the way out. -/
  disconnect : Except Raised Unit := .ok ()
  /-- The identity of an exception that the attempt itself creates. -/
  fresh : Nat := 0

/-- What is observed of a run beside its yields. -/
inductive Progress
  | attempting (number : Nat)
  | printed (message : String)
  | slept (seconds : Nat)
  deriving DecidableEq

/-- How many attempts are made. -/
def DISCOVERY_RETRY_ATTEMPTS : Nat := 3

/-- `needle in text`. -/
def isIn (needle text : String) : Bool :=
  decide (needle.toList <:+: text.toList)

/-- The message of a retry.  The texts looked for are ASCII and contain no
letter that another letter is lowered to. -/
def retryMessage (error : Exn) (address : String) : Option String :=
  let message := error.message.toLower
  if isIn "failed to discover services" message then
    some ("Retrying service discovery for " ++ address ++ " ...")
  else if isIn "operation already in progress" message then
    some ("Retrying connection setup for " ++ address ++ " ...")
  else if isIn "security transition disconnected" message then
    some ("Retrying security setup for " ++ address ++ " ...")
  else
    none

namespace Attempt

/-- A `RuntimeError` that the attempt raises. -/
def runtimeError (attempt : Attempt) (text : String) : Raised where
  object := attempt.fresh
  exn := ⟨.runtimeError, text⟩

/-- The check of the host behind the `esphome` backend. -/
def checkHost (attempt : Attempt) (esphomeHost : Option String) :
    Except Raised Unit :=
  if esphomeHost.getD "" = "" then
    .error (attempt.runtimeError "ESPHome host is required for esphome backend")
  else
    .ok ()

/-- The check that the client is connected. -/
def checkConnected (attempt : Attempt) : Except Raised Unit :=
  if attempt.isConnected then
    .ok ()
  else
    .error (attempt.runtimeError "Failed to connect")

/-- Security staging, with a missing security descriptor let pass. -/
def stage (attempt : Attempt) : Except Raised Unit :=
  match attempt.staging with
  | .ok () => .ok ()
  | .error exc =>
      if exc.exn.type = .user "BoschSecurityDescriptorMissing" then .ok ()
      else .error exc

/-- The block of the client.  It yields the client under the number of the
attempt and returns when it is resumed. -/
def clientBlock (attempt : Attempt) (number : Nat) :
    Generator Progress Nat Raised :=
  .asyncWith attempt.enter attempt.disconnect <|
    .perform attempt.checkConnected <|
      .perform attempt.stage <|
        .suspended number .finished

/-- What is tried in one attempt.  The proxy swallows what its clean-up
raises. -/
def tryBlock
    (attempt : Attempt)
    (backend : Backend)
    (esphomeHost : Option String)
    (number : Nat) : Generator Progress Nat Raised :=
  match backend with
  | .esphome =>
      .perform (attempt.checkHost esphomeHost) <|
        .asyncWith attempt.proxy (.ok ()) <|
          attempt.clientBlock number
  | .bluez =>
      .perform attempt.prepare <|
        .perform attempt.target <|
          attempt.clientBlock number

end Attempt

section Run

variable (address : String)

/-- The handler of an attempt: print, pause and go on, or raise again. -/
def handleError
    (number : Nat)
    (exc : Raised)
    (next : Generator Progress Nat Raised) :
    Generator Progress Nat Raised :=
  if exc.exn.type.isException ∧ number < DISCOVERY_RETRY_ATTEMPTS then
    match retryMessage exc.exn address with
    | some message => .emit (.printed message) (.emit (.slept number) next)
    | none => .raise exc
  else
    .raise exc

variable (backend : Backend) (esphomeHost : Option String)
  (attempts : Nat -> Attempt)

/-- The loop over the attempts that remain, from the one with a given
number. -/
def attemptLoop :
    Nat -> Nat -> Option Raised -> Generator Progress Nat Raised
  | 0, _, none => .finished (.ok ())
  | 0, _, some lastError => .raise lastError
  | remaining + 1, number, _ =>
      .emit (.attempting number) <|
        ((attempts number).tryBlock backend esphomeHost number).tryExcept
          fun exc =>
            handleError address number exc
              (attemptLoop remaining (number + 1) (some exc))

/-- The generator that yields a connected client. -/
def connectedClient : Generator Progress Nat Raised :=
  attemptLoop address backend esphomeHost attempts DISCOVERY_RETRY_ATTEMPTS 1
    none

/-- What closes a generator that did not stop. -/
def GENERATOR_EXIT : Raised where
  object := 0
  exn := ⟨.generatorExit, ""⟩

/-- Whether an exception is one that closing a generator throws in. -/
def isGeneratorExit (exc : Raised) : Bool :=
  decide (exc.exn.type = .generatorExit)

/-- A `with` statement on a connected client. -/
def withConnectedClient (body : Nat -> Except Raised Unit) :
    List (Mark Progress Nat) × WithResult Raised :=
  (connectedClient address backend esphomeHost attempts).withStatement
    GENERATOR_EXIT isGeneratorExit body

end Run

/-- Whether a mark is a yield. -/
def isYield : Mark Progress Nat -> Bool
  | .event _ => false
  | .yielded _ => true

/-- Whether an event starts an attempt. -/
def isAttempting : Progress -> Bool
  | .attempting _ => true
  | _ => false

/-- What a caller relies on: at most one client, at most three attempts, no
retry behind the yield, and the exception of the body handed on as it is. -/
structure HonoursYield
    (body : Nat -> Except Raised Unit)
    (run : List (Mark Progress Nat) × WithResult Raised) : Prop where
  yields : run.1.countP isYield ≤ 1
  attempts : Generator.countEvents isAttempting run.1 ≤ 3
  noRetry : ∀ before value after, run.1 = before ++ .yielded value :: after ->
    ∀ event, .event event ∉ after
  bodyRaises : ∀ value, .yielded value ∈ run.1 ->
    ∀ exc, body value = .error exc -> run.2 = .raised exc

/-- An exception that is retried when it leaves an attempt. -/
def Retried (address : String) (number : Nat) (exc : Raised) : Prop :=
  exc.exn.type.isException ∧ number < DISCOVERY_RETRY_ATTEMPTS ∧
    (retryMessage exc.exn address).isSome

namespace Attempt

/-- What the calls from entering the client to its yield lead to. -/
def openingClient (attempt : Attempt) : Except Raised Unit := do
  attempt.enter
  Generator.raisedThrough attempt.disconnect do
    attempt.checkConnected
    attempt.stage

/-- What the calls before the yield of an attempt lead to. -/
def opening
    (attempt : Attempt)
    (backend : Backend)
    (esphomeHost : Option String) : Except Raised Unit :=
  match backend with
  | .esphome => do
      attempt.checkHost esphomeHost
      attempt.proxy
      attempt.openingClient
  | .bluez => do
      attempt.prepare
      attempt.target
      attempt.openingClient

/-- What leaves the block of the client once the body has ended. -/
def leaving
    (attempt : Attempt)
    (sent : Except Raised Unit) : Except Raised Unit :=
  attempt.disconnect.bind fun _ => sent

/-- Neither the body nor disconnecting ends an attempt with an exception that
is retried, and disconnecting replaces no exception of the body. -/
def LeavesCleanly
    (attempt : Attempt)
    (address : String)
    (number : Nat)
    (sent : Except Raised Unit) : Prop :=
  (∀ exc, attempt.disconnect = .error exc ->
    ¬ Retried address number exc ∧ ∀ raised, sent = .error raised ->
      raised = exc) ∧
  (attempt.disconnect = .ok () -> ∀ raised, sent = .error raised ->
    ¬ Retried address number raised)

end Attempt

section Rules

variable {address : String} {backend : Backend} {esphomeHost : Option String}
  {attempts : Nat -> Attempt}

/-- The attempts from the one with number `first` on open a client in the one
with number `last`: every earlier one fails and is retried. -/
inductive OpensFrom
    (address : String)
    (backend : Backend)
    (esphomeHost : Option String)
    (attempts : Nat -> Attempt) : Nat -> Nat -> Prop
  | here {number : Nat}
      (opens : (attempts number).opening backend esphomeHost = .ok ()) :
      OpensFrom address backend esphomeHost attempts number number
  | later {number last : Nat} {exc : Raised}
      (fails : (attempts number).opening backend esphomeHost = .error exc)
      (retried : Retried address number exc)
      (opens : OpensFrom address backend esphomeHost attempts (number + 1)
        last) :
      OpensFrom address backend esphomeHost attempts number last

/-- The block of the client fails before its yield, or yields and leaves when
it is resumed. -/
theorem Attempt.clientBlock_eq (attempt : Attempt) (number : Nat) :
    attempt.clientBlock number =
      .perform attempt.openingClient
        (.suspended number fun sent => .finished (attempt.leaving sent)) := by
  rw [clientBlock, ← Generator.perform_bind, Generator.asyncWith,
    Generator.onExit_perform, openingClient, Generator.perform_bind]
  rfl

/-- An attempt fails before its yield, or yields and leaves when it is
resumed. -/
theorem Attempt.tryBlock_eq (attempt : Attempt) (number : Nat) :
    attempt.tryBlock backend esphomeHost number =
      .perform (attempt.opening backend esphomeHost)
        (.suspended number fun sent => .finished (attempt.leaving sent)) := by
  cases backend with
  | esphome =>
      rw [tryBlock, Generator.asyncWith, Generator.onExit_ok, clientBlock_eq,
        opening, Generator.perform_bind, Generator.perform_bind]
  | bluez =>
      rw [tryBlock, clientBlock_eq, opening, Generator.perform_bind,
        Generator.perform_bind]

/-- A retried exception is followed by a message. -/
theorem handleError_of_retried
    {number : Nat} {exc : Raised}
    (retried : Retried address number exc)
    (next : Generator Progress Nat Raised) :
    ∃ message, handleError address number exc next =
      .emit (.printed message) (.emit (.slept number) next) := by
  obtain ⟨isException, remaining, isSome⟩ := retried
  obtain ⟨message, message_eq⟩ := Option.isSome_iff_exists.mp isSome
  refine ⟨message, ?_⟩
  rw [handleError, if_pos ⟨isException, remaining⟩, message_eq]

/-- Any other exception is raised again. -/
theorem handleError_of_not_retried
    {number : Nat} {exc : Raised}
    (final : ¬ Retried address number exc)
    (next : Generator Progress Nat Raised) :
    handleError address number exc next = .raise exc := by
  unfold handleError
  split
  case isFalse => rfl
  case isTrue remaining =>
    cases message_eq : retryMessage exc.exn address with
    | none => rfl
    | some message =>
        have isSome : (retryMessage exc.exn address).isSome := by
          rw [message_eq]
          rfl
        exact absurd ⟨remaining.1, remaining.2, isSome⟩ final

/-- The loop makes at most one attempt for each that remains. -/
theorem attemptLoop_atMost (remaining number : Nat) (lastError : Option Raised) :
    Generator.AtMost isAttempting remaining
      (attemptLoop address backend esphomeHost attempts remaining number
        lastError) := by
  induction remaining generalizing number lastError with
  | zero =>
      cases lastError with
      | none => exact trivial
      | some exc => exact trivial
  | succ remaining inductionHypothesis =>
      refine ⟨remaining, Nat.add_comm 1 remaining, ?_⟩
      apply Generator.AtMost.tryExcept
      · rw [Attempt.tryBlock_eq]
        cases (attempts number).opening backend esphomeHost with
        | error exc => exact trivial
        | ok value => exact fun sent => trivial
      · intro exc
        by_cases retried : Retried address number exc
        case pos =>
          obtain ⟨message, handles⟩ := handleError_of_retried retried
            (attemptLoop address backend esphomeHost attempts remaining
              (number + 1) (some exc))
          rw [handles]
          exact ⟨remaining, Nat.zero_add remaining, remaining,
            Nat.zero_add remaining,
            inductionHypothesis (number + 1) (some exc)⟩
        case neg =>
          rw [handleError_of_not_retried retried]
          exact trivial

/-- No run makes more attempts than there are. -/
theorem withConnectedClient_attempts
    (address : String)
    (backend : Backend)
    (esphomeHost : Option String)
    (attempts : Nat -> Attempt)
    (body : Nat -> Except Raised Unit) :
    Generator.countEvents isAttempting
      (withConnectedClient address backend esphomeHost attempts body).1 ≤
        DISCOVERY_RETRY_ATTEMPTS := by
  apply Generator.AtMost.withStatement
  exact attemptLoop_atMost DISCOVERY_RETRY_ATTEMPTS 1 none

/-- The yield of an attempt that opens. -/
theorem attemptLoop_of_opens
    {number : Nat}
    (opens : (attempts number).opening backend esphomeHost = .ok ())
    (remaining : Nat)
    (lastError : Option Raised) :
    attemptLoop address backend esphomeHost attempts (remaining + 1) number
        lastError =
      .emit (.attempting number)
        (.suspended number fun sent =>
          (Generator.finished ((attempts number).leaving sent)).tryExcept
            fun exc => handleError address number exc
              (attemptLoop address backend esphomeHost attempts remaining
                (number + 1) (some exc))) := by
  rw [attemptLoop, Attempt.tryBlock_eq, opens]
  rfl

/-- The handler of an attempt that fails before its yield. -/
theorem attemptLoop_of_fails
    {number : Nat} {exc : Raised}
    (fails : (attempts number).opening backend esphomeHost = .error exc)
    (remaining : Nat)
    (lastError : Option Raised) :
    attemptLoop address backend esphomeHost attempts (remaining + 1) number
        lastError =
      .emit (.attempting number)
        (handleError address number exc
          (attemptLoop address backend esphomeHost attempts remaining
            (number + 1) (some exc))) := by
  rw [attemptLoop, Attempt.tryBlock_eq, fails]
  rfl

/-- A failure that is retried is followed by what the next attempts do. -/
theorem advance_of_retried
    {number : Nat} {exc : Raised}
    (fails : (attempts number).opening backend esphomeHost = .error exc)
    (retried : Retried address number exc)
    (remaining : Nat)
    (lastError : Option Raised) :
    ∃ message,
      (attemptLoop address backend esphomeHost attempts (remaining + 1) number
        lastError).advance =
          ([.event (.attempting number), .event (.printed message),
              .event (.slept number)] ++
            (attemptLoop address backend esphomeHost attempts remaining
              (number + 1) (some exc)).advance.1,
            (attemptLoop address backend esphomeHost attempts remaining
              (number + 1) (some exc)).advance.2) := by
  obtain ⟨message, handles⟩ := handleError_of_retried retried
    (attemptLoop address backend esphomeHost attempts remaining (number + 1)
      (some exc))
  refine ⟨message, ?_⟩
  rw [attemptLoop_of_fails fails, handles]
  rfl

/-- Events do not yield. -/
theorem silent_append
    (events : List Progress)
    {marks : List (Mark Progress Nat)}
    (silent : ∀ mark ∈ marks, isYield mark = false) :
    ∀ mark ∈ events.map Mark.event ++ marks, isYield mark = false := by
  intro mark present
  rcases List.mem_append.mp present with isEvent | present
  · obtain ⟨event, _, rfl⟩ := List.mem_map.mp isEvent
    rfl
  · exact silent mark present

/-- Attempts that open a client bring the loop to its first yield. -/
theorem OpensFrom.advance
    {first last : Nat}
    (opens : OpensFrom address backend esphomeHost attempts first last)
    (remaining : Nat)
    (within : first ≤ DISCOVERY_RETRY_ATTEMPTS)
    (total : first + remaining = DISCOVERY_RETRY_ATTEMPTS + 1)
    (lastError : Option Raised) :
    ∃ before, ∃ next : Raised -> Generator Progress Nat Raised,
      (attemptLoop address backend esphomeHost attempts remaining first
        lastError).advance =
          (before ++ [.yielded last],
            .atYield last fun sent =>
              (Generator.finished ((attempts last).leaving sent)).tryExcept
                fun exc => handleError address last exc (next exc)) ∧
      ∀ mark ∈ before, isYield mark = false := by
  induction opens generalizing remaining lastError with
  | @here number opens =>
      obtain ⟨less, rfl⟩ : ∃ less, remaining = less + 1 :=
        Nat.exists_eq_add_one.mpr (by omega)
      rw [attemptLoop_of_opens opens]
      exact ⟨[.event (.attempting number)], _, rfl,
        silent_append [.attempting number] (List.forall_mem_nil _)⟩
  | @later number last exc fails retried opens inductionHypothesis =>
      obtain ⟨less, rfl⟩ : ∃ less, remaining = less + 1 :=
        Nat.exists_eq_add_one.mpr (by omega)
      have earlier : number < DISCOVERY_RETRY_ATTEMPTS := retried.2.1
      obtain ⟨before, next, yields, silent⟩ :=
        inductionHypothesis less earlier (by omega) (some exc)
      obtain ⟨message, advances⟩ :=
        advance_of_retried fails retried less lastError
      refine ⟨_, next, ?_, silent_append
        [.attempting number, .printed message, .slept number] silent⟩
      rw [advances, yields, List.append_assoc]
      rfl

/-- Without such attempts the loop raises before any yield. -/
theorem advance_of_not_opensFrom
    {first : Nat}
    (fails : ∀ last,
      ¬ OpensFrom address backend esphomeHost attempts first last)
    (remaining : Nat)
    (within : first ≤ DISCOVERY_RETRY_ATTEMPTS)
    (total : first + remaining = DISCOVERY_RETRY_ATTEMPTS + 1)
    (lastError : Option Raised) :
    ∃ marks exc,
      (attemptLoop address backend esphomeHost attempts remaining first
        lastError).advance = (marks, .stopped (.error exc)) ∧
      ∀ mark ∈ marks, isYield mark = false := by
  induction remaining generalizing first lastError with
  | zero => omega
  | succ remaining inductionHypothesis =>
      cases opening : (attempts first).opening backend esphomeHost with
      | ok value => exact absurd (.here opening) (fails first)
      | error exc =>
          by_cases retried : Retried address first exc
          case pos =>
            have earlier : first < DISCOVERY_RETRY_ATTEMPTS := retried.2.1
            obtain ⟨marks, final, stops, silent⟩ :=
              inductionHypothesis
                (fun last opens => fails last (.later opening retried opens))
                earlier (by omega) (some exc)
            obtain ⟨message, advances⟩ :=
              advance_of_retried opening retried remaining lastError
            refine ⟨_, final, ?_, silent_append
              [.attempting first, .printed message, .slept first] silent⟩
            rw [advances, stops]
            rfl
          case neg =>
            rw [attemptLoop_of_fails opening, handleError_of_not_retried retried]
            exact ⟨_, exc, rfl, silent_append [.attempting first] (List.forall_mem_nil _)⟩

/-- A clean exit is one whose exception is not retried and is that of the body
if the body raises. -/
theorem Attempt.leavesCleanly_iff
    {attempt : Attempt} {number : Nat} {sent : Except Raised Unit} :
    attempt.LeavesCleanly address number sent ↔
      (∀ exc, attempt.leaving sent = .error exc ->
        ¬ Retried address number exc) ∧
      ∀ raised, sent = .error raised -> attempt.leaving sent = .error raised := by
  unfold LeavesCleanly leaving
  cases attempt.disconnect with
  | ok value =>
      constructor
      · rintro ⟨_, final⟩
        exact ⟨fun exc leaves => final rfl exc leaves, fun raised raises => raises⟩
      · rintro ⟨final, _⟩
        exact ⟨nofun, fun _ raised raises => final raised raises⟩
  | error replacing =>
      constructor
      · rintro ⟨clean, _⟩
        obtain ⟨final, same⟩ := clean replacing rfl
        refine ⟨?_, ?_⟩
        · intro exc leaves
          cases leaves
          exact final
        · intro raised raises
          rw [same raised raises]
          rfl
      · rintro ⟨final, same⟩
        refine ⟨?_, nofun⟩
        intro exc leaves
        cases leaves
        refine ⟨final replacing rfl, ?_⟩
        intro raised raises
        exact (Except.error.inj (same raised raises)).symm

/-- When what leaves an opened client is not retried, the yield is the last
thing that happens. -/
theorem withConnectedClient_of_final
    {number : Nat} {body : Nat -> Except Raised Unit}
    (opens : OpensFrom address backend esphomeHost attempts 1 number)
    (final : ∀ exc, (attempts number).leaving (body number) = .error exc ->
      ¬ Retried address number exc) :
    ∃ before,
      withConnectedClient address backend esphomeHost attempts body =
        (before ++ [.yielded number],
          .ofStop ((attempts number).leaving (body number))) ∧
      ∀ mark ∈ before, isYield mark = false := by
  obtain ⟨before, next, yields, silent⟩ :=
    opens.advance DISCOVERY_RETRY_ATTEMPTS (by decide) (by decide) none
  have stops :
      ((Generator.finished ((attempts number).leaving
        (body number))).tryExcept fun exc =>
          handleError address number exc (next exc)).advance =
        ([], .stopped ((attempts number).leaving (body number))) := by
    cases leaves : (attempts number).leaving (body number) with
    | ok value => rfl
    | error exc =>
        rw [Generator.tryExcept, handleError_of_not_retried (final exc leaves)]
        rfl
  refine ⟨before, ?_, silent⟩
  rw [withConnectedClient, connectedClient,
    Generator.withStatement_of_resumed yields stops, List.append_nil]

/-- When no attempt opens a client, the body never runs. -/
theorem withConnectedClient_of_not_opens
    (fails : ∀ number,
      ¬ OpensFrom address backend esphomeHost attempts 1 number)
    (body : Nat -> Except Raised Unit) :
    ∃ marks exc,
      withConnectedClient address backend esphomeHost attempts body =
        (marks, .raised exc) ∧
      ∀ mark ∈ marks, isYield mark = false := by
  obtain ⟨marks, exc, stops, silent⟩ :=
    advance_of_not_opensFrom fails DISCOVERY_RETRY_ATTEMPTS (by decide)
      (by decide) none
  refine ⟨marks, exc, ?_, silent⟩
  rw [withConnectedClient, connectedClient,
    Generator.withStatement_of_stopped stops]

theorem countP_isYield_eq_zero
    {marks : List (Mark Progress Nat)}
    (silent : ∀ mark ∈ marks, isYield mark = false) :
    marks.countP isYield = 0 := by
  apply List.countP_eq_zero.mpr
  intro mark present
  rw [silent mark present]
  exact Bool.false_ne_true

/-- What follows the only yield of a trace that ends with it. -/
theorem eq_nil_of_yield_last
    {before front after : List (Mark Progress Nat)} {number value : Nat}
    (silent : ∀ mark ∈ before, isYield mark = false)
    (splits : before ++ [.yielded number] = front ++ .yielded value :: after) :
    after = [] := by
  rcases List.append_eq_append_iff.mp splits with
    ⟨between, _, rest⟩ | ⟨between, before_eq, rest⟩
  · cases between with
    | nil => exact (List.cons.inj rest).2.symm
    | cons mark marks =>
        have empty : marks ++ .yielded value :: after = [] :=
          (List.cons.inj rest).2.symm
        simp at empty
  · cases between with
    | nil => exact (List.cons.inj rest).2
    | cons mark marks =>
        have mark_eq : Mark.yielded value = mark := (List.cons.inj rest).1
        have present : mark ∈ before := by
          rw [before_eq]
          exact List.mem_append_right _ (List.mem_cons_self ..)
        have impossible := silent mark present
        rw [← mark_eq] at impossible
        cases impossible

/-- A run without a yield honours every body. -/
theorem honoursYield_of_silent
    {marks : List (Mark Progress Nat)} {result : WithResult Raised}
    {body : Nat -> Except Raised Unit}
    (silent : ∀ mark ∈ marks, isYield mark = false)
    (atMost : Generator.countEvents isAttempting marks ≤ 3) :
    HonoursYield body (marks, result) := by
  refine ⟨?_, atMost, ?_, ?_⟩
  · rw [countP_isYield_eq_zero silent]
    exact Nat.zero_le 1
  · intro front value after splits
    change marks = front ++ .yielded value :: after at splits
    have present : .yielded value ∈ marks := by
      rw [splits]
      exact List.mem_append_right _ (List.mem_cons_self ..)
    cases silent _ present
  · intro value present
    cases silent _ present

/-- A run that ends with its only yield honours a body whose exception it hands
on. -/
theorem honoursYield_of_yield_last
    {before : List (Mark Progress Nat)} {number : Nat}
    {result : WithResult Raised} {body : Nat -> Except Raised Unit}
    (silent : ∀ mark ∈ before, isYield mark = false)
    (atMost : Generator.countEvents isAttempting
      (before ++ [.yielded number]) ≤ 3)
    (hands : ∀ exc, body number = .error exc -> result = .raised exc) :
    HonoursYield body (before ++ [.yielded number], result) := by
  refine ⟨?_, atMost, ?_, ?_⟩
  · rw [List.countP_append, countP_isYield_eq_zero silent]
    exact Nat.le_refl 1
  · intro front value after splits event
    rw [eq_nil_of_yield_last silent splits]
    exact List.not_mem_nil
  · intro value present
    rcases List.mem_append.mp present with inBefore | last
    · cases silent _ inBefore
    · cases List.mem_singleton.mp last
      exact hands

/-- A client that opens and is left with a retried exception breaks what the
caller relies on. -/
theorem not_honoursYield_of_retried
    {number : Nat} {body : Nat -> Except Raised Unit} {exc : Raised}
    (opens : OpensFrom address backend esphomeHost attempts 1 number)
    (leaves : (attempts number).leaving (body number) = .error exc)
    (retried : Retried address number exc) :
    ¬ HonoursYield body
      (withConnectedClient address backend esphomeHost attempts body) := by
  intro honours
  obtain ⟨before, next, yields, _⟩ :=
    opens.advance DISCOVERY_RETRY_ATTEMPTS (by decide) (by decide) none
  obtain ⟨message, handles⟩ := handleError_of_retried retried (next exc)
  obtain ⟨later, trace_eq⟩ := Generator.exists_trace_of_yield yields
    GENERATOR_EXIT isGeneratorExit body
  rw [leaves, Generator.tryExcept, handles, List.append_assoc] at trace_eq
  exact honours.noRetry before number _ trace_eq (.printed message)
    (List.mem_cons_self ..)

/-- A `with` statement on a connected client honours its yield exactly when
the client that the attempts open, if they open one, is left cleanly. -/
theorem withConnectedClient_honoursYield_iff
    (address : String)
    (backend : Backend)
    (esphomeHost : Option String)
    (attempts : Nat -> Attempt)
    (body : Nat -> Except Raised Unit) :
    HonoursYield body
        (withConnectedClient address backend esphomeHost attempts body) ↔
      ∀ number, OpensFrom address backend esphomeHost attempts 1 number ->
        (attempts number).LeavesCleanly address number (body number) := by
  constructor
  · intro honours number opens
    have final : ∀ exc, (attempts number).leaving (body number) = .error exc ->
        ¬ Retried address number exc := by
      intro exc leaves retried
      exact not_honoursYield_of_retried opens leaves retried honours
    refine Attempt.leavesCleanly_iff.mpr ⟨final, ?_⟩
    intro raised raises
    obtain ⟨before, run_eq, _⟩ := withConnectedClient_of_final opens final
    have present : .yielded number ∈
        (withConnectedClient address backend esphomeHost attempts body).1 := by
      rw [run_eq]
      exact List.mem_append_right _ (List.mem_singleton_self _)
    have hands := honours.bodyRaises number present raised raises
    rw [run_eq] at hands
    exact WithResult.ofStop_eq_raised_iff.mp hands
  · intro clean
    have atMost := withConnectedClient_attempts address backend esphomeHost
      attempts body
    by_cases opens : ∃ number,
        OpensFrom address backend esphomeHost attempts 1 number
    case pos =>
      obtain ⟨number, opens⟩ := opens
      obtain ⟨final, same⟩ := Attempt.leavesCleanly_iff.mp (clean number opens)
      obtain ⟨before, run_eq, silent⟩ := withConnectedClient_of_final opens final
      rw [run_eq] at atMost ⊢
      apply honoursYield_of_yield_last silent atMost
      intro raised raises
      exact WithResult.ofStop_eq_raised_iff.mpr (same raised raises)
    case neg =>
      obtain ⟨marks, exc, run_eq, silent⟩ :=
        withConnectedClient_of_not_opens
          (fun number opened => opens ⟨number, opened⟩) body
      rw [run_eq] at atMost ⊢
      exact honoursYield_of_silent silent atMost

end Rules

/-- A connection that is lost during service discovery is set up again. -/
example :
    withConnectedClient "AA:BB:CC:DD:EE:FF" .bluez none
        (fun number =>
          if number = 1 then
            { enter := .error ⟨1, ⟨.runtimeError,
                "failed to discover services, device disconnected"⟩⟩ }
          else {})
        (fun _ => .ok ()) =
      ([ .event (.attempting 1),
         .event (.printed
          "Retrying service discovery for AA:BB:CC:DD:EE:FF ..."),
         .event (.slept 1),
         .event (.attempting 2),
         .yielded 2 ],
        .returned) := by
  decide +kernel

/-- An exception of a body with the text of a busy adapter. -/
def BUSY : Raised where
  object := 1
  exn := ⟨.runtimeError, "Operation already in progress"⟩

/-- A body that raises it makes the generator connect and yield again, and the
caller gets another exception. -/
theorem withConnectedClient_yields_again :
    withConnectedClient "AA:BB:CC:DD:EE:FF" .bluez none (fun _ => {})
        (fun _ => .error BUSY) =
      ([ .event (.attempting 1),
         .yielded 1,
         .event (.printed
          "Retrying connection setup for AA:BB:CC:DD:EE:FF ..."),
         .event (.slept 1),
         .event (.attempting 2),
         .yielded 2 ],
        .runtimeError "generator didn't stop after athrow()") ∧
    ¬ HonoursYield (fun _ => .error BUSY)
      (withConnectedClient "AA:BB:CC:DD:EE:FF" .bluez none (fun _ => {})
        (fun _ => .error BUSY)) := by
  have run_eq :
      withConnectedClient "AA:BB:CC:DD:EE:FF" .bluez none (fun _ => {})
          (fun _ => .error BUSY) =
        ([ .event (.attempting 1),
           .yielded 1,
           .event (.printed
            "Retrying connection setup for AA:BB:CC:DD:EE:FF ..."),
           .event (.slept 1),
           .event (.attempting 2),
           .yielded 2 ],
          .runtimeError "generator didn't stop after athrow()") := by
    decide +kernel
  refine ⟨run_eq, ?_⟩
  intro honours
  have yields := honours.yields
  rw [run_eq] at yields
  exact absurd yields (by decide)

end Live
end BoschBle
