import BoschBle.DumpGatt.Security

/-!
# What staging secures

Behind a staging that returns the bike has taken the write, or BlueZ says that the device
is paired.  A proxy says nothing about the device: where the stack behind it refuses to
write the descriptor, staging goes by the call that pairs.
-/

namespace BoschBle
namespace DumpGatt

open Foundation
open Bluez (BluezState)
open Live (Backend)

section Block

variable {Wider : Type} {WiderAnswer : Wider -> Type}

/-- Where the block of an agent returns, it has been run and has returned. -/
theorem pairingAgentIn_ok
    {embedding : Embedding Bluez.Call Bluez.Answer Wider WiderAnswer}
    {block : Program Wider WiderAnswer α}
    {trace : List (Exchange Wider WiderAnswer)} {value : α}
    (runs : (Bluez.pairingAgentIn embedding block).Runs trace (.ok value)) :
    ∃ before inner after, trace = before ++ (inner ++ after) ∧
      block.Runs inner (.ok value) := by
  unfold Bluez.pairingAgentIn at runs
  obtain ⟨connects, _, _, rfl, _, runs⟩ := Program.runs_bind_ok.mp runs
  obtain ⟨names, _, hex, rfl, _, runs⟩ := Program.runs_bind_ok.mp runs
  obtain ⟨exports, _, _, rfl, _, runs⟩ := Program.runs_bind_ok.mp runs
  obtain ⟨asks, _, _, rfl, _, runs⟩ := Program.runs_bind_ok.mp runs
  obtain ⟨registers, _, _, rfl, _, runs⟩ := Program.runs_bind_ok.mp runs
  obtain ⟨registered, takesBack, middle, ends, rfl, runs, _, finished⟩ :=
    Program.runs_tryFinally.mp runs
  have returned : middle = .ok value := by
    cases ends with
    | ok _ => exact finished.symm
    | error exc => cases finished
  rw [returned] at runs
  obtain ⟨requests, _, _, rfl, _, runs⟩ := Program.runs_bind_ok.mp runs
  obtain ⟨inner, unregisters, middle, ends, rfl, runs, _, finished⟩ :=
    Program.runs_tryFinally.mp runs
  have returned : middle = .ok value := by
    cases ends with
    | ok _ => exact finished.symm
    | error exc => cases finished
  rw [returned] at runs
  refine ⟨connects ++ names ++ exports ++ asks ++ registers ++ requests, inner,
    unregisters ++ takesBack, ?_, runs⟩
  simp only [List.append_assoc]

end Block

section Staging

variable (address : String)

/-- The flags that a secured device has. -/
def securedFlags : Bluez.Flags :=
  { paired := some true, connected := some true, servicesResolved := some true }

/-- Behind a pairing BlueZ is watched up to a state with the flags, in which the device is
paired and connected, and the client is still connected then.  A proxy does not know the
state. -/
inductive Confirmed : Backend -> List Step -> Prop
  | watched
      {target : Bluez.Flags} {trace : List Bluez.TimedStep} {earlier : List BluezState}
      {state : BluezState} {now : Nat}
      (watch : Bluez.Watch address securedFlags {} target trace earlier state now)
      (reaches : target.matches state = true)
      (paired : state.paired = some true)
      (connected : state.connected = some true) :
      Confirmed .bluez (trace.map bluez.lift ++ [⟨.isConnected, .ok true⟩])
  | unknown : Confirmed .esphome []

/-- BlueZ is asked whether the device is paired, and a proxy is not. -/
inductive Asked : Backend -> List Step -> Bool -> Prop
  | read
      {reads : List Bluez.Step} {state : BluezState}
      (runs : (Bluez.readDeviceState address none none none).Runs reads (.ok state)) :
      Asked .bluez (reads.map system.lift) (state.paired == some true)
  | unknown : Asked .esphome [] false

/-- The lower-case text of an exception. -/
def loweredText (exc : Exn) : Text :=
  Text.lower exc.message.toList

/-- How the device is secured in a staging that returns. -/
inductive Secured (backend : Backend) (handle : Nat) : List Step -> Prop
  /-- The bike takes the write. -/
  | accepted : Secured backend handle [⟨.writeGattDescriptor handle secureValue, .ok ()⟩]
  /-- The stack writes the descriptor itself, and the device is paired already. -/
  | known
      {exc : Exn} {asking : List Step}
      (refused : refusesDirect (loweredText exc) = true)
      (asked : Asked address backend asking true) :
      Secured backend handle
        (⟨.writeGattDescriptor handle secureValue, .error exc⟩ :: asking)
  /-- The stack writes the descriptor itself, behind a pairing. -/
  | direct
      {exc : Exn} {asking pairing confirming : List Step}
      (refused : refusesDirect (loweredText exc) = true)
      (asked : Asked address backend asking false)
      (paired : ⟨.pair, .ok ()⟩ ∈ pairing)
      (confirmed : Confirmed address backend confirming) :
      Secured backend handle
        (⟨.writeGattDescriptor handle secureValue, .error exc⟩ ::
          (asking ++ (pairing ++ confirming)))
  /-- The bike asks for encryption, and takes the write behind a pairing. -/
  | rewritten
      {exc : Exn} {pairing confirming : List Step}
      (refused : refusesDirect (loweredText exc) = false)
      (asks : asksEncryption (loweredText exc) = true)
      (paired : ⟨.pair, .ok ()⟩ ∈ pairing)
      (confirmed : Confirmed address backend confirming) :
      Secured backend handle
        (⟨.writeGattDescriptor handle secureValue, .error exc⟩ ::
          (pairing ++ (confirming ++ [⟨.writeGattDescriptor handle secureValue, .ok ()⟩])))

variable {address} {backend : Backend} {trace : List Step}

theorem pairWithAgent_ok
    (runs : (pairWithAgent backend).Runs trace (.ok ())) :
    ⟨.pair, .ok ()⟩ ∈ trace := by
  cases backend with
  | esphome =>
      rw [Program.runs_perform.mp runs]
      exact List.mem_singleton_self _
  | bluez =>
      obtain ⟨before, inner, after, rfl, pairs⟩ := pairingAgentIn_ok runs
      rw [Program.runs_perform.mp pairs]
      apply List.mem_append_right
      exact List.mem_append_left _ (List.mem_singleton_self _)

theorem confirmSecured_ok
    (runs : (confirmSecured address backend).Runs trace (.ok ())) :
    Confirmed address backend trace := by
  cases backend with
  | esphome =>
      obtain ⟨rfl, _⟩ := Program.runs_done.mp runs
      exact Confirmed.unknown
  | bluez =>
      obtain ⟨waits, rest, state, rfl, reaches, checks⟩ := Program.runs_bind_ok.mp runs
      obtain ⟨inner, rfl, waited⟩ := bluez.runs_embed.mp reaches
      obtain ⟨target, earlier, now, watch, has⟩ := Bluez.waitForState_ok_iff.mp waited
      split at checks
      case isTrue =>
        obtain ⟨_, impossible⟩ := Program.runs_done.mp checks
        cases impossible
      case isFalse =>
        obtain ⟨asks, last, connected, rfl, performed, ends⟩ := Program.runs_bind_ok.mp checks
        rw [Program.runs_perform.mp performed]
        split at ends
        case isTrue =>
          obtain ⟨_, impossible⟩ := Program.runs_done.mp ends
          cases impossible
        case isFalse stillConnected =>
          obtain ⟨rfl, _⟩ := Program.runs_done.mp ends
          cases connected with
          | false => exact absurd rfl stillConnected
          | true =>
              exact Confirmed.watched watch has (watch.paired_of_matches rfl has)
                (watch.connected_of_matches rfl has)

theorem alreadyPaired_ok
    {paired : Bool}
    (runs : (alreadyPaired address backend).Runs trace (.ok paired)) :
    Asked address backend trace paired := by
  cases backend with
  | esphome =>
      obtain ⟨rfl, same⟩ := Program.runs_done.mp runs
      cases same
      exact Asked.unknown
  | bluez =>
      obtain ⟨reads, rest, state, rfl, read, ends⟩ := Program.runs_bind_ok.mp runs
      obtain ⟨inner, rfl, reading⟩ := system.runs_embed.mp read
      obtain ⟨rfl, same⟩ := Program.runs_done.mp ends
      cases same
      rw [List.append_nil]
      exact Asked.read reading

/-- A refusal that is handled leaves the device secured. -/
theorem handleRefusal_ok
    {descriptor : Descriptor} {exc : Exn}
    (runs : (handleRefusal address backend descriptor exc).Runs trace (.ok ())) :
    Secured address backend descriptor.handle
      (⟨.writeGattDescriptor descriptor.handle secureValue, .error exc⟩ :: trace) := by
  unfold handleRefusal at runs
  dsimp only at runs
  split at runs
  case isTrue refused =>
    obtain ⟨asking, rest, paired, rfl, asks, continues⟩ := Program.runs_bind_ok.mp runs
    have asked := alreadyPaired_ok asks
    cases paired with
    | true =>
        obtain ⟨rfl, _⟩ := Program.runs_done.mp continues
        rw [List.append_nil]
        exact Secured.known refused asked
    | false =>
        obtain ⟨pairing, confirming, _, rfl, pairs, confirms⟩ :=
          Program.runs_bind_ok.mp continues
        exact Secured.direct refused asked (pairWithAgent_ok pairs) (confirmSecured_ok confirms)
  case isFalse notDirect =>
    have refused : refusesDirect (loweredText exc) = false := Bool.eq_false_of_not_eq_true notDirect
    split at runs
    case isTrue =>
      obtain ⟨_, impossible⟩ := Program.runs_done.mp runs
      cases impossible
    case isFalse notOther =>
      have asks : asksEncryption (loweredText exc) = true := by
        cases asks : asksEncryption (loweredText exc) with
        | true => rfl
        | false => exact absurd (by rw [Bool.not_eq_true']; exact asks) notOther
      obtain ⟨pairing, rest, _, rfl, pairs, continues⟩ := Program.runs_bind_ok.mp runs
      obtain ⟨confirming, last, _, rfl, confirms, writes⟩ := Program.runs_bind_ok.mp continues
      rw [Program.runs_perform.mp writes]
      exact Secured.rewritten refused asks (pairWithAgent_ok pairs) (confirmSecured_ok confirms)

/-- Staging that returns has found the descriptor of the bike.  The bike has taken the
write, or BlueZ has said that the device is paired, and behind a pairing that it is
connected, with the client connected still; or the call that pairs has returned through a
proxy, which nobody asks for the state. -/
theorem stageBoschSecurity_secures
    (runs : (stageBoschSecurity address backend).Runs trace (.ok ())) :
    ∃ services descriptor rest, trace = ⟨.services, .ok services⟩ :: rest ∧
      findBoschSecurityDescriptor services = .ok descriptor ∧
        Secured address backend descriptor.handle rest := by
  rcases Program.runs_perform_bind.mp runs with
    ⟨exc, impossible, _⟩ | ⟨services, rest, rfl, searches⟩
  · cases impossible
  obtain ⟨looks, later, descriptor, rfl, finds, stages⟩ := Program.runs_bind_ok.mp searches
  obtain ⟨rfl, found⟩ := Program.runs_done.mp finds
  refine ⟨services, descriptor, later, rfl, found.symm, ?_⟩
  rcases Program.runs_tryExcept.mp stages with
    ⟨_, _, writes⟩ | ⟨exc, _, impossible, _⟩ | ⟨first, second, exc, rfl, _, fails, handles⟩
  · rw [Program.runs_perform.mp writes]
    exact Secured.accepted
  · cases impossible
  · rw [Program.runs_perform.mp fails]
    exact handleRefusal_ok handles

/-- The services of a bike. -/
def boschServices : List Service :=
  [⟨BOSCH_SERVICE_UUID, "", [⟨BOSCH_NOTIFY_CHAR_UUID, [], "", [⟨18, CCCD_UUID⟩]⟩]⟩]

/-- The bike asks for encryption, is paired through a proxy, and takes the write then. -/
def encryptedSteps : List Step :=
  [⟨.writeGattDescriptor 18 secureValue, .error ⟨.osError, "Insufficient Encryption"⟩⟩,
    ⟨.pair, .ok ()⟩, ⟨.writeGattDescriptor 18 secureValue, .ok ()⟩]

theorem stageBoschSecurity_secures_paired :
    (stageBoschSecurity "00:04:63:AA:BB:CC" .esphome).Runs
        (⟨.services, .ok boschServices⟩ :: encryptedSteps) (.ok ()) ∧
      Secured "00:04:63:AA:BB:CC" .esphome 18 encryptedSteps := by
  have found : findBoschSecurityDescriptor boschServices = .ok ⟨18, CCCD_UUID⟩ := by
    decide
  have runs : (stageBoschSecurity "00:04:63:AA:BB:CC" .esphome).Runs
      (⟨.services, .ok boschServices⟩ :: encryptedSteps) (.ok ()) := by
    apply Program.runs_perform_bind.mpr
    refine Or.inr ⟨boschServices, _, rfl, ?_⟩
    rw [found]
    exact Program.Runs.ask (Program.Runs.ask (Program.Runs.ask Program.Runs.done))
  obtain ⟨services, descriptor, rest, same, finds, secured⟩ := stageBoschSecurity_secures runs
  cases same
  rw [found] at finds
  cases finds
  exact ⟨runs, secured⟩

end Staging
end DumpGatt
end BoschBle
