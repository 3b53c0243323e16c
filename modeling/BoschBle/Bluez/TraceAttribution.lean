import BoschBle.Bluez.TraceConnection
import BoschBle.Foundation.Effect
import BoschBle.Foundation.Interleaving
import Mathlib.Data.List.ReduceOption

/-!
# Whose events a summary is about

A trace contains the connections of all devices.  The events that carry a handle and
name nobody are attributed over the handles that the trace names together with the
target anywhere, so that a connection to another peer leaves the target's summary
alone exactly if its handle is none of these.
-/

namespace BoschBle
namespace Bluez

open Foundation

/-! ## Connections to another peer -/

/-- The event belongs to a connection: it names the peer, or it names nobody and
carries no handle but the connection's. -/
def BelongsTo (peer : String) (handle : Nat) (event : Text) : Prop :=
  peerOf event = some peer ∨
    peerOf event = none ∧ (handleOf event = .ok none ∨ handleOf event = .ok (some handle))

/-- The events of a connection from its creation to its end. -/
structure IsConnection (peer : String) (handle : Nat) (events : List Text) : Prop where
  belong : ∀ event ∈ events, BelongsTo peer handle event
  complete : ∃ create setup established traffic disconnected,
    events = create :: setup ++ established :: traffic ++ [disconnected] ∧
      (peerOf create = some peer ∧ traceHciSeen create "LE Create Connection") ∧
      (peerOf established = some peer ∧ handleOf established = .ok (some handle) ∧
        traceHciSeen established "LE Enhanced Connection Complete") ∧
      (handleOf disconnected = .ok (some handle) ∧
        traceHciSeen disconnected "Disconnect Complete")

/-- The merged trace is the trace with the events of a whole connection between the
handle and another peer.  While the connection lasts, the trace's own events are not
about the handle. -/
def AddsConnection
    (target : String)
    (handle : Nat)
    (trace merged : Text) : Prop :=
  ∃ peer connection front before during after within,
    peer ≠ normalizeAddress target ∧ IsConnection peer handle connection ∧
      traceEvents trace = front :: (before ++ during ++ after) ∧
      traceEvents merged = front :: (before ++ within ++ after) ∧
      Interleaving connection during within ∧
      ∀ event ∈ during, handleOf event ≠ .ok (some handle)

/-- The text in front of the first event is about no device. -/
def StartsSilent (trace : Text) : Prop :=
  ∀ front ∈ (traceEvents trace).head?, peerOf front = none ∧ handleOf front = .ok none

/-- Some event names the target together with the handle. -/
def NamesWithHandle (trace : Text) (target : String) (handle : Nat) : Prop :=
  ∃ event ∈ traceEvents trace,
    peerOf event = some (normalizeAddress target) ∧ handleOf event = .ok (some handle)

/-! ## A handle of its own -/

theorem handlesOf_eq_ok
    {target : String} {events : List Text} {handles : List Nat}
    (returns : handlesOf target events = .ok handles) :
    ∃ found, (events.filter fun event => peerOf event == some target).mapM handleOf =
      .ok found ∧ found.reduceOption = handles := by
  unfold handlesOf at returns
  cases called : (events.filter fun event => peerOf event == some target).mapM handleOf with
  | error exc =>
      rw [called] at returns
      cases returns
  | ok found =>
      rw [called] at returns
      cases returns
      exact ⟨found, rfl, rfl⟩

/-- The handles of the target are those that an event names together with it. -/
theorem mem_handlesOf_iff
    {target : String} {events : List Text} {handles : List Nat}
    (returns : handlesOf target events = .ok handles)
    (handle : Nat) :
    handle ∈ handles ↔
      ∃ event ∈ events, peerOf event = some target ∧ handleOf event = .ok (some handle) := by
  obtain ⟨found, called, rfl⟩ := handlesOf_eq_ok returns
  rw [List.reduceOption_mem_iff]
  constructor
  · intro present
    obtain ⟨event, isEvent, carries⟩ := exists_of_mem_mapM called present
    rw [List.mem_filter, beq_iff_eq] at isEvent
    exact ⟨event, isEvent.1, isEvent.2, carries⟩
  · rintro ⟨event, isEvent, names, carries⟩
    have isNamed : event ∈ events.filter fun event => peerOf event == some target :=
      List.mem_filter.mpr ⟨isEvent, beq_iff_eq.mpr names⟩
    exact mem_of_mapM called isNamed carries

theorem AddsConnection.interleaving
    {target : String} {handle : Nat} {trace merged : Text}
    (adds : AddsConnection target handle trace merged) :
    ∃ peer connection, peer ≠ normalizeAddress target ∧
      IsConnection peer handle connection ∧
        Interleaving connection (traceEvents trace) (traceEvents merged) := by
  obtain ⟨peer, connection, front, before, during, after, within, other, isConnection,
    traceSplits, mergedSplits, interleaves, -⟩ := adds
  refine ⟨peer, connection, other, isConnection, ?_⟩
  rw [traceSplits, mergedSplits]
  exact .right front (interleaves.surround before after)

theorem isSelected_of_peerOf
    {target peer : String} {handles : List Nat} {event : Text}
    (names : peerOf event = some peer) :
    isSelected target handles event = .ok (peer == target) := by
  rw [isSelected, names]
  rfl

theorem isSelected_of_handleOf
    {target : String} {handles : List Nat} {event : Text} {handle : Option Nat}
    (silent : peerOf event = none)
    (carries : handleOf event = .ok handle) :
    isSelected target handles event =
      .ok (handle.any fun handle => handles.contains handle) := by
  rw [isSelected, silent, carries]
  rfl

/-- An event of another peer's connection is not selected over other handles. -/
theorem isSelected_of_belongsTo
    {target peer : String} {handle : Nat} {handles : List Nat} {event : Text}
    (belongs : BelongsTo peer handle event)
    (other : peer ≠ target)
    (unused : handle ∉ handles) :
    isSelected target handles event = .ok false := by
  rcases belongs with names | ⟨silent, carries | carries⟩
  · rw [isSelected_of_peerOf names, beq_eq_false_iff_ne.mpr other]
  · exact isSelected_of_handleOf silent carries
  · have unlisted : handles.contains handle = false := by
      simpa using unused
    rw [isSelected_of_handleOf silent carries, Option.any_some, unlisted]

/-- Nor does it name the target. -/
theorem peerOf_ne_of_belongsTo
    {target peer : String} {handle : Nat} {event : Text}
    (belongs : BelongsTo peer handle event)
    (other : peer ≠ target) :
    (peerOf event == some target) = false := by
  rw [beq_eq_false_iff_ne]
  rcases belongs with names | ⟨silent, _⟩
  · rw [names]
    exact fun equal => other (Option.some.inj equal)
  · rw [silent]
    exact nofun

/-- The target's handles do not depend on it. -/
theorem handlesOf_interleaving
    {target peer : String} {handle : Nat} {connection events merged : List Text}
    (connects : IsConnection peer handle connection)
    (other : peer ≠ target)
    (interleaves : Interleaving connection events merged) :
    handlesOf target merged = handlesOf target events := by
  unfold handlesOf
  rw [interleaves.filter_eq fun event isEvent =>
    peerOf_ne_of_belongsTo (connects.belong event isEvent) other]

/-- A connection on a handle that the trace does not name together with the target
leaves the target's text alone. -/
theorem traceForDevice_of_addsConnection
    {target : String} {handle : Nat} {trace merged : Text}
    (adds : AddsConnection target handle trace merged)
    (unnamed : ¬ NamesWithHandle trace target handle) :
    traceForDevice merged target = traceForDevice trace target := by
  obtain ⟨peer, connection, other, isConnection, interleaves⟩ := adds.interleaving
  simp only [traceForDevice, handlesOf_interleaving isConnection other interleaves]
  cases called : handlesOf (normalizeAddress target) (traceEvents trace) with
  | error exc => rfl
  | ok handles =>
      have unused : handle ∉ handles :=
        fun present => unnamed ((mem_handlesOf_iff called handle).mp present)
      have sameEvents := interleaves.filterM_eq fun event isEvent =>
        isSelected_of_belongsTo (isConnection.belong event isEvent) other unused
      exact congrArg (fun selected => selected >>= fun events =>
        Except.ok (['\n'].intercalate events)) sameEvents

/-! ## A handle that another connection uses -/

/-- The events of `TraceConnection` are those of a connection, with the traffic of the
connection between them. -/
theorem isConnection
    {peer reason : String} {handle : Nat} {traffic : List Text}
    (isOther : peer ∈ otherPeers)
    (isReason : reason ∈ reasons)
    (readable : intOfDigits (Nat.toDigits 10 handle) = .ok handle)
    (belongs : ∀ event ∈ traffic, BelongsTo peer handle event) :
    IsConnection peer handle
      (creation peer :: completion peer handle :: (traffic ++ [ending handle reason])) := by
  have completionCarries : handleOf (completion peer handle) = .ok (some handle) :=
    handleOf_of_search (search_handle_completion peer handle) readable
  have endCarries : handleOf (ending handle reason) = .ok (some handle) :=
    handleOf_of_search (search_handle_ending handle reason) readable
  have creates : traceHciSeen (creation peer) "LE Create Connection" = true := by
    rcases List.mem_pair.mp isOther with rfl | rfl <;> rfl
  constructor
  · rw [List.forall_mem_cons, List.forall_mem_cons, List.forall_mem_append,
      List.forall_mem_singleton]
    exact ⟨Or.inl (peerOf_creation isOther), Or.inl (peerOf_completion isOther handle), belongs,
      Or.inr ⟨peerOf_ending isReason handle, Or.inr endCarries⟩⟩
  · exact ⟨_, [], _, traffic, _, rfl, ⟨peerOf_creation isOther, creates⟩,
      ⟨peerOf_completion isOther handle, completionCarries, rfl⟩, endCarries, rfl⟩

/-- A joined text starts with its first part. -/
theorem exists_intercalate_cons
    (separator first : Text)
    (rest : List Text) :
    ∃ behind, separator.intercalate (first :: rest) = first ++ behind := by
  cases rest with
  | nil => exact ⟨[], by simp⟩
  | cons second rest =>
      exact ⟨separator ++ separator.intercalate (second :: rest), by
        rw [List.intercalate_cons_cons, List.append_assoc]⟩

/-- The target's text is made of the events that are selected over its handles. -/
theorem traceForDevice_eq_ok_iff
    {trace own : Text} {target : String} :
    traceForDevice trace target = .ok own ↔
      ∃ handles selected, handlesOf (normalizeAddress target) (traceEvents trace) = .ok handles ∧
        (traceEvents trace).filterM (isSelected (normalizeAddress target) handles) =
          .ok selected ∧ ['\n'].intercalate selected = own := by
  simp only [traceForDevice]
  cases called : handlesOf (normalizeAddress target) (traceEvents trace) with
  | error exc => simp [bind, Except.bind]
  | ok handles =>
      cases kept : (traceEvents trace).filterM (isSelected (normalizeAddress target) handles) with
      | error exc => simp [bind, Except.bind, kept]
      | ok selected => simp [bind, Except.bind, kept, pure, Except.pure]

theorem intOfDigits_of_handleOf
    {event : Text} {handle : Nat}
    (carries : handleOf event = .ok (some handle)) :
    intOfDigits (Nat.toDigits 10 handle) = .ok handle := by
  unfold handleOf at carries
  cases found : handlePattern.search event with
  | none =>
      rw [found] at carries
      cases carries
  | some digits =>
      rw [found] at carries
      cases reads : intOfDigits digits with
      | error exc =>
          simp only [reads] at carries
          cases carries
      | ok value =>
          simp only [reads] at carries
          cases carries
          exact intOfDigits_toDigits reads

/-- One of two values is not a given one. -/
theorem exists_ne
    (value : α -> β)
    {first second : α}
    (different : value first ≠ value second)
    (given : β) :
    ∃ choice ∈ [first, second], value choice ≠ given := by
  by_cases equal : value first = given
  · exact ⟨second, by simp, fun same => different (equal.trans same.symm)⟩
  · exact ⟨first, by simp, equal⟩

/-- The front of a trace that names the target is followed by an event. -/
theorem StartsSilent.splits
    {trace : Text} {target : String} {handle : Nat}
    (silent : StartsSilent trace)
    (named : NamesWithHandle trace target handle) :
    ∃ front second rest, traceEvents trace = front :: second :: rest ∧
      peerOf front = none ∧ handleOf front = .ok none := by
  obtain ⟨event, isEvent, names, -⟩ := named
  match splits : traceEvents trace with
  | [] =>
      rw [splits] at isEvent
      cases isEvent
  | [front] =>
      rw [splits, List.mem_singleton] at isEvent
      have silentFront := silent front (by rw [splits]; rfl)
      rw [isEvent, silentFront.1] at names
      cases names
  | front :: second :: rest =>
      exact ⟨front, second, rest, rfl, silent front (by rw [splits]; rfl)⟩

/-- Of a connection to another peer over one of the target's handles the end is
selected. -/
theorem filterM_isSelected_connection
    {target peer reason : String} {handle : Nat} {handles : List Nat}
    (isOther : peer ∈ otherPeers)
    (other : peer ≠ target)
    (isReason : reason ∈ reasons)
    (readable : intOfDigits (Nat.toDigits 10 handle) = .ok handle)
    (listed : handle ∈ handles)
    (rest : List Text) :
    (creation peer :: completion peer handle :: ending handle reason :: rest).filterM
        (isSelected target handles) =
      (fun kept => ending handle reason :: kept) <$>
        rest.filterM (isSelected target handles) := by
  have otherDropped (event : Text) (names : peerOf event = some peer) :
      isSelected target handles event = .ok false := by
    rw [isSelected_of_peerOf names, beq_eq_false_iff_ne.mpr other]
  have endKept : isSelected target handles (ending handle reason) = .ok true := by
    have endCarries := handleOf_of_search (search_handle_ending handle reason) readable
    rw [isSelected_of_handleOf (peerOf_ending isReason handle) endCarries, Option.any_some,
      List.contains_iff_mem.mpr listed]
  rw [filterM_cons_drop (otherDropped _ (peerOf_creation isOther)),
    filterM_cons_drop (otherDropped _ (peerOf_completion isOther handle)),
    filterM_cons_keep endKept]

/-- Over a handle that the trace names together with the target, another peer's
connection puts its end in front of the target's text. -/
theorem exists_addsConnection
    {trace own : Text} {target reason : String} {handle : Nat}
    (silent : StartsSilent trace)
    (named : NamesWithHandle trace target handle)
    (returns : traceForDevice trace target = .ok own)
    (isReason : reason ∈ reasons) :
    ∃ merged behind, AddsConnection target handle trace merged ∧
      traceForDevice merged target = .ok (ending handle reason ++ behind) := by
  obtain ⟨handles, selected, handles_eq, selected_eq, -⟩ :=
    traceForDevice_eq_ok_iff.mp returns
  obtain ⟨peer, isOther, other⟩ : ∃ peer ∈ otherPeers, peer ≠ normalizeAddress target :=
    exists_ne id (by decide) _
  obtain ⟨front, second, rest, splits, frontSilent, frontFree⟩ := silent.splits named
  have listed : handle ∈ handles := (mem_handlesOf_iff handles_eq handle).mpr named
  obtain ⟨event, -, -, carries⟩ := named
  have readable := intOfDigits_of_handleOf carries
  have connects := isConnection isOther isReason readable (List.forall_mem_nil _)
  let connection := [creation peer, completion peer handle, ending handle reason]
  let merged := front ++ connection.flatten ++ (second :: rest).flatten
  have mergedSplits : traceEvents merged = front :: (connection ++ second :: rest) := by
    apply Regex.splitAhead_insert headerPattern_withinLine (by decide) splits
    rw [List.forall_mem_cons, List.forall_mem_cons, List.forall_mem_singleton]
    have peerOneLine : ∀ peer ∈ otherPeers, '\n' ∉ peer.toList := by decide
    have reasonOneLine : ∀ reason ∈ reasons, '\n' ∉ reason.toList := by decide
    exact ⟨isPiece_creation (peerOneLine peer isOther),
      isPiece_completion (peerOneLine peer isOther) handle,
      isPiece_ending (reasonOneLine reason isReason) handle⟩
  have interleaves : Interleaving connection (traceEvents trace) (traceEvents merged) := by
    rw [splits, mergedSplits]
    exact .right front (Interleaving.append connection (second :: rest))
  have mergedHandles := (handlesOf_interleaving connects other interleaves).trans handles_eq
  have frontDropped : isSelected (normalizeAddress target) handles front = .ok false :=
    isSelected_of_handleOf frontSilent frontFree
  have mergedSelected : (traceEvents merged).filterM
      (isSelected (normalizeAddress target) handles) =
        .ok (ending handle reason :: selected) := by
    rw [splits, filterM_cons_drop frontDropped] at selected_eq
    rw [mergedSplits, filterM_cons_drop frontDropped]
    refine (filterM_isSelected_connection isOther other isReason readable listed
      (second :: rest)).trans ?_
    rw [selected_eq]
    rfl
  obtain ⟨behind, starts⟩ := exists_intercalate_cons ['\n'] (ending handle reason) selected
  refine ⟨merged, behind, ?_, ?_⟩
  · refine ⟨peer, connection, front, [], [], second :: rest, connection, other, connects,
      splits, mergedSplits, ?_, nofun⟩
    have alone := Interleaving.append connection []
    rwa [List.append_nil] at alone
  · rw [← starts, traceForDevice_eq_ok_iff]
    exact ⟨handles, ending handle reason :: selected, mergedHandles, mergedSelected, rfl⟩

theorem summarizeBtmonTrace_eq_ok_iff
    {trace : Text} {attempt : Attempt} {target : String} {summary : PairAttemptSummary} :
    summarizeBtmonTrace trace attempt (some target) = .ok summary ↔
      ∃ own, traceForDevice trace target = .ok own ∧
        summaryOf own attempt (some target) = summary := by
  simp only [summarizeBtmonTrace]
  cases traceForDevice trace target with
  | error exc => simp [bind, Except.bind]
  | ok own => simp [bind, Except.bind, pure, Except.pure]

/-- The reason of a connection that ends in front of the rest. -/
theorem disconnectReason_ending
    {reason : String}
    (isReason : reason ∈ reasons)
    (handle : Nat)
    (behind : Text)
    (attempt : Attempt)
    (address : Option String) :
    (summaryOf (ending handle reason ++ behind) attempt address).disconnectReason =
      some reason.toList := by
  have stripped : Text.strip reason.toList = reason.toList := by
    rcases List.mem_pair.mp isReason with rfl | rfl <;> decide
  rw [summaryOf, search_reason_ending isReason, Option.map_some, stripped]

/-- Connections between a handle and other peers leave the target's summary
unchanged, wherever they are added, if no event of the trace names the target
together with the handle; and if the trace has a summary, only then. -/
theorem summarizeBtmonTrace_undisturbed_iff
    (trace : Text)
    (attempt : Attempt)
    (target : String)
    (handle : Nat) :
    (¬ NamesWithHandle trace target handle ->
      ∀ merged, AddsConnection target handle trace merged ->
        summarizeBtmonTrace merged attempt (some target) =
          summarizeBtmonTrace trace attempt (some target)) ∧
      ∀ summary, StartsSilent trace ->
        summarizeBtmonTrace trace attempt (some target) = .ok summary ->
          ((∀ merged, AddsConnection target handle trace merged ->
            summarizeBtmonTrace merged attempt (some target) = .ok summary) ↔
              ¬ NamesWithHandle trace target handle) := by
  have undisturbed_of_unnamed
      (unnamed : ¬ NamesWithHandle trace target handle)
      (merged : Text)
      (adds : AddsConnection target handle trace merged) :
      summarizeBtmonTrace merged attempt (some target) =
        summarizeBtmonTrace trace attempt (some target) := by
    simp only [summarizeBtmonTrace, traceForDevice_of_addsConnection adds unnamed]
  refine ⟨undisturbed_of_unnamed, ?_⟩
  intro summary silent summarizes
  constructor
  · intro undisturbed named
    obtain ⟨own, returns, -⟩ := summarizeBtmonTrace_eq_ok_iff.mp summarizes
    obtain ⟨reason, isReason, different⟩ : ∃ reason ∈ reasons,
        some reason.toList ≠ summary.disconnectReason :=
      exists_ne (fun reason : String => some reason.toList) (by decide) _
    -- The end of the added connection is the first that the summary finds.
    obtain ⟨merged, behind, adds, mergedReturns⟩ :=
      exists_addsConnection silent named returns isReason
    obtain ⟨mergedOwn, mergedOwn_eq, rfl⟩ :=
      summarizeBtmonTrace_eq_ok_iff.mp (undisturbed merged adds)
    rw [mergedReturns] at mergedOwn_eq
    obtain rfl := Except.ok.inj mergedOwn_eq
    exact different (disconnectReason_ending isReason handle behind attempt _).symm
  · intro unnamed merged adds
    exact (undisturbed_of_unnamed unnamed merged adds).trans summarizes

/-- A connection of the target that fails before anything is sent over it. -/
def failedConnection : List Text :=
  [creation "00:04:63:BA:64:FC", completion "00:04:63:BA:64:FC" 46,
    ending 46 "Connection Failed to be Established (0x3e)"]

/-- Attribute traffic over a handle. -/
def attributeTraffic (handle : Nat) : Text :=
  Regex.unlines
    ["< ACL Data TX: Handle ".toList ++ Nat.toDigits 10 handle ++ " flags 0x00 dlen 7".toList,
      "      ATT: Exchange MTU Request (0x02) len 2".toList]

/-- A connection to another peer that carries attribute traffic. -/
def otherConnection (handle : Nat) : List Text :=
  [creation "AA:BB:CC:DD:EE:FF", completion "AA:BB:CC:DD:EE:FF" handle,
    attributeTraffic handle, ending handle "Remote User Terminated Connection (0x13)"]

/-- The attempt that the summaries are about. -/
def connectAttempt : Attempt where
  pairBackend := "connect"
  privacy := "off"
  visible := some true
  name := none
  assistError := none
  tracePath := "btmon.log"

/-- The failed connection with another one over a handle of its own, which begins and ends
while the target is connected. -/
def besideFailedConnection : List Text :=
  [creation "00:04:63:BA:64:FC", creation "AA:BB:CC:DD:EE:FF",
    completion "00:04:63:BA:64:FC" 46, completion "AA:BB:CC:DD:EE:FF" 47, attributeTraffic 47,
    ending 47 "Remote User Terminated Connection (0x13)",
    ending 46 "Connection Failed to be Established (0x3e)"]

theorem isPiece_failedConnection :
    ∀ piece ∈ failedConnection, Regex.IsPiece headerPattern piece := by
  rw [failedConnection, List.forall_mem_cons, List.forall_mem_cons, List.forall_mem_singleton]
  exact ⟨isPiece_creation (by decide), isPiece_completion (by decide) 46,
    isPiece_ending (by decide) 46⟩

theorem isPiece_attributeTraffic (handle : Nat) :
    Regex.IsPiece headerPattern (attributeTraffic handle) := by
  apply isPiece_of_header rfl (by simp)
  · simp only [List.mem_append, not_or]
    exact ⟨⟨by decide, fun present =>
      forall_digits (fun char => char ≠ '\n') (by decide) handle _ present rfl⟩, by decide⟩
  · rw [List.forall_mem_singleton]
    exact indented_of_space rfl (by decide)

theorem isPiece_otherConnection (handle : Nat) :
    ∀ piece ∈ otherConnection handle, Regex.IsPiece headerPattern piece := by
  rw [otherConnection, List.forall_mem_cons, List.forall_mem_cons, List.forall_mem_cons,
    List.forall_mem_singleton]
  exact ⟨isPiece_creation (by decide), isPiece_completion (by decide) handle,
    isPiece_attributeTraffic handle, isPiece_ending (by decide) handle⟩

theorem traceEvents_pieces
    {pieces : List Text}
    (arePieces : ∀ piece ∈ pieces, Regex.IsPiece headerPattern piece) :
    traceEvents pieces.flatten = [] :: pieces :=
  Regex.splitAhead_flatten headerPattern_withinLine (by decide) arePieces

/-- What the code reads in the two connections, evaluated at once since each evaluation
decodes the lines anew. -/
theorem failedConnection_readings :
    (∀ event ∈ [] :: failedConnection,
      ¬ (peerOf event = some (normalizeAddress "00:04:63:BA:64:FC") ∧
        handleOf event = .ok (some 47))) ∧
    (∀ event ∈ failedConnection, handleOf event ≠ .ok (some 47)) ∧
    (∀ handle ∈ [46, 47], peerOf (attributeTraffic handle) = none ∧
      handleOf (attributeTraffic handle) = .ok (some handle)) ∧
    (summarizeBtmonTrace failedConnection.flatten connectAttempt
      (some "00:04:63:BA:64:FC")).map PairAttemptSummary.attSeen = .ok false ∧
    (summarizeBtmonTrace (otherConnection 46 ++ failedConnection).flatten connectAttempt
      (some "00:04:63:BA:64:FC")).map PairAttemptSummary.attSeen = .ok true := by
  decide +kernel

theorem otherConnection_isConnection
    {handle : Nat}
    (isHandle : handle ∈ [46, 47]) :
    IsConnection "AA:BB:CC:DD:EE:FF" handle (otherConnection handle) := by
  obtain ⟨silent, carries⟩ := failedConnection_readings.2.2.1 handle isHandle
  have belongs : ∀ event ∈ [attributeTraffic handle],
      BelongsTo "AA:BB:CC:DD:EE:FF" handle event := by
    rw [List.forall_mem_singleton]
    exact Or.inr ⟨silent, Or.inr carries⟩
  exact isConnection (by decide) (by decide) (intOfDigits_of_handleOf carries) belongs

/-- A connection over another handle leaves the failed connection's summary alone: no
attribute traffic is seen, though the merged trace has some. -/
theorem summarizeBtmonTrace_undisturbed_iff_free :
    ¬ NamesWithHandle failedConnection.flatten "00:04:63:BA:64:FC" 47 ∧
      AddsConnection "00:04:63:BA:64:FC" 47 failedConnection.flatten
        besideFailedConnection.flatten ∧
      attributeTraffic 47 ∈ traceEvents besideFailedConnection.flatten ∧
      summarizeBtmonTrace besideFailedConnection.flatten connectAttempt
          (some "00:04:63:BA:64:FC") =
        summarizeBtmonTrace failedConnection.flatten connectAttempt
          (some "00:04:63:BA:64:FC") ∧
      (summarizeBtmonTrace besideFailedConnection.flatten connectAttempt
        (some "00:04:63:BA:64:FC")).map PairAttemptSummary.attSeen = .ok false := by
  obtain ⟨notNamed, notDuring, -, notSeen, -⟩ := failedConnection_readings
  have events := traceEvents_pieces isPiece_failedConnection
  have unnamed : ¬ NamesWithHandle failedConnection.flatten "00:04:63:BA:64:FC" 47 := by
    rintro ⟨event, isEvent, named⟩
    rw [events] at isEvent
    exact notNamed event isEvent named
  have interleaves :
      Interleaving (otherConnection 47) failedConnection besideFailedConnection :=
    .right _ (.left _ (.right _ (.left _ (.left _ (.left _ (.right _ .nil))))))
  have mergedEvents : traceEvents besideFailedConnection.flatten = [] :: besideFailedConnection :=
    traceEvents_pieces fun piece isIn => (interleaves.mem isIn).elim
      (isPiece_otherConnection 47 piece) (isPiece_failedConnection piece)
  have adds : AddsConnection "00:04:63:BA:64:FC" 47 failedConnection.flatten
      besideFailedConnection.flatten :=
    ⟨"AA:BB:CC:DD:EE:FF", otherConnection 47, [], [], failedConnection, [],
      besideFailedConnection, by decide, otherConnection_isConnection (by decide), events,
      mergedEvents, interleaves, notDuring⟩
  have same := (summarizeBtmonTrace_undisturbed_iff _ connectAttempt _ 47).1 unnamed _ adds
  refine ⟨unnamed, adds, ?_, same, ?_⟩
  · rw [mergedEvents]
    simp [besideFailedConnection]
  · rw [same]
    exact notSeen

/-- The earlier connection's traffic is taken for the target's. -/
theorem summarizeBtmonTrace_reusedHandle :
    AddsConnection "00:04:63:BA:64:FC" 46 failedConnection.flatten
        (otherConnection 46 ++ failedConnection).flatten ∧
      (summarizeBtmonTrace failedConnection.flatten connectAttempt
        (some "00:04:63:BA:64:FC")).map PairAttemptSummary.attSeen = .ok false ∧
      (summarizeBtmonTrace (otherConnection 46 ++ failedConnection).flatten connectAttempt
        (some "00:04:63:BA:64:FC")).map PairAttemptSummary.attSeen = .ok true := by
  obtain ⟨-, -, -, notSeen, seen⟩ := failedConnection_readings
  refine ⟨?_, notSeen, seen⟩
  refine ⟨"AA:BB:CC:DD:EE:FF", otherConnection 46, [], [], [], failedConnection,
    otherConnection 46, by decide, otherConnection_isConnection (by decide),
    traceEvents_pieces isPiece_failedConnection, traceEvents_pieces ?_, ?_, nofun⟩
  · rw [List.forall_mem_append]
    exact ⟨isPiece_otherConnection 46, isPiece_failedConnection⟩
  · have alone := Interleaving.append (otherConnection 46) []
    rwa [List.append_nil] at alone

end Bluez
end BoschBle
