import BoschBle.Foundation.Register
import BoschBle.Probe.Main
import Mathlib.Data.List.DropRight

/-!
# The changes that a run reports

A snapshot is compared with the one in front of it, and a characteristic whose read
fails is in no snapshot.  So behind a read that fails the next value is reported as a
change, whether it is one or not.
-/

namespace BoschBle
namespace Probe

open Foundation

/-! ## Events -/

/-- What a run does about its snapshots. -/
inductive Event
  /-- The first read behind a write is next. -/
  | snapshot
  /-- A read that succeeds. -/
  | read (uuid : String) (data : Bytes)
  /-- A `READ_CHANGE` line. -/
  | change (uuid : String) (before : Option Bytes) (after : Bytes)
  /-- The run goes on with the next write, or it stops. -/
  | next
  deriving DecidableEq

/-- What a step is about the snapshots, if anything. -/
def eventOf : Step -> Option Event
  | ⟨.sleep _, .ok _⟩ => some .snapshot
  | ⟨.readGattChar uuid, .ok data⟩ => some (.read uuid data)
  | ⟨.emit (.readChange uuid before after), .ok _⟩ => some (.change uuid before after)
  | ⟨.emit .stopping, _⟩ => some .next
  | ⟨.stopIsSet, _⟩ => some .next
  | _ => none

/-- The events of a run. -/
def eventsOf (trace : List Step) : List Event :=
  trace.filterMap eventOf

/-- What a read of a characteristic returns. -/
def Event.dataOf (uuid : String) : Event -> Option Bytes
  | .read other data => if other = uuid then some data else none
  | _ => none

/-- The value of a characteristic in its last successful read. -/
def lastRead (uuid : String) (events : List Event) : Option Bytes :=
  lastWritten (Event.dataOf uuid) events

/-- The events of the last snapshot, which is the first one where no other is. -/
def previousSnapshot (events : List Event) : List Event :=
  events.rtakeWhile (· ≠ .snapshot)

/-- The events inside a snapshot that the run goes on behind. -/
structure IsSnapshot (events earlier inside : List Event) : Prop where
  inEvents : ∃ later, events = earlier ++ .snapshot :: (inside ++ .next :: later)
  noSnapshot : .snapshot ∉ inside
  noNext : .next ∉ inside

/-- A change of the characteristic is reported. -/
def Reported (uuid : String) (inside : List Event) : Prop :=
  ∃ before after, .change uuid before after ∈ inside

/-- Changes are reported behind snapshots only, and behind a snapshot those of the
characteristics whose value is not the known one. -/
def Reports (known : String -> List Event -> Option Bytes) (events : List Event) : Prop :=
  (∀ front uuid before after back, events = front ++ .change uuid before after :: back ->
    ∃ earlier inside, front = earlier ++ .snapshot :: inside ∧ .next ∉ inside) ∧
  ∀ earlier inside, IsSnapshot events earlier inside -> ∀ uuid,
    Reported uuid inside ↔
      ∃ value, lastRead uuid inside = some value ∧ known uuid earlier ≠ some value

/-- A value is compared with the one of the last successful read. -/
def ReportsChanges (events : List Event) : Prop :=
  Reports lastRead events

/-- The value that the code compares with. -/
def inPreviousSnapshot (uuid : String) (events : List Event) : Option Bytes :=
  lastRead uuid (previousSnapshot events)

/-- A characteristic has the same value before and behind a snapshot in which its read
has failed. -/
def EqualAroundFailure (events : List Event) : Prop :=
  ∃ earlier inside uuid value, IsSnapshot events earlier inside ∧
    lastRead uuid inside = some value ∧ inPreviousSnapshot uuid earlier = none ∧
      lastRead uuid earlier = some value

/-! ## Reads -/

/-- Every run of an action behind a history ends so. -/
abbrev Yields
    (history : List Event)
    (action : Action α)
    (post : List Event -> Except Exn α -> Prop) : Prop :=
  Program.Yields eventOf history action post

/-- A call that is no event. -/
def Quiet (call : Call) : Prop :=
  ∀ answer, eventOf ⟨call, answer⟩ = none

theorem only_emit
    {line : Line}
    (quiet : Quiet (.emit line)) :
    Program.Only Quiet (emit line) :=
  Program.Only.perform quiet

theorem only_attempt
    {action : Action α}
    (only : Program.Only Quiet action) :
    Program.Only Quiet (attempt action) := by
  apply Program.Only.tryExcept
  · rw [map_eq_pure_bind]
    exact only.bind fun _ => trivial
  · intro exc
    exact trivial

/-- An attempt returns the outcome of an action, but for the exceptions that are not
caught. -/
theorem yields_attempt
    {history : List Event} {action : Action α}
    {post : List Event -> Except Exn α -> Prop}
    (yields : Yields history action post) :
    Yields history (attempt action) fun events result =>
      ∃ outcome, post events outcome ∧ ∀ value, result = .ok value -> value = outcome := by
  have mapped : Yields history (Except.ok <$> action : Action (Except Exn α))
      fun events result => ∃ outcome, post events outcome ∧
        (result = .ok outcome ∨ ∃ exc, result = .error exc ∧ outcome = .error exc) := by
    rw [map_eq_pure_bind]
    refine Program.Yields.bind yields ?_ ?_
    · intro events exc ended
      exact ⟨_, ended, .inr ⟨exc, rfl, rfl⟩⟩
    · intro events value ended
      exact Program.Yields.done ⟨_, ended, .inl rfl⟩
  refine Program.Yields.handle mapped ?_
  rintro events result ⟨outcome, ended, rfl | ⟨exc, rfl, rfl⟩⟩
  · refine Program.Yields.done ⟨outcome, ended, ?_⟩
    rintro value ⟨⟩
    rfl
  · dsimp only
    split
    · refine Program.Yields.done ⟨_, ended, ?_⟩
      rintro value ⟨⟩
      rfl
    · exact Program.Yields.done ⟨_, ended, nofun⟩

/-- What a snapshot stores in its dictionary. -/
def store (values : Values) (read : String × Bytes) : Values :=
  Dictionary.setItem values read.1 read.2

/-- The values of the reads, of which a later one replaces an earlier one. -/
def valuesOf (reads : List (String × Bytes)) : Values :=
  reads.foldl store []

/-- The event of a read. -/
def readEvent (read : String × Bytes) : Event :=
  .read read.1 read.2

/-- An action makes successful reads and returns the dictionary with them. -/
def MakesReads
    (history : List Event)
    (values : Values)
    (events : List Event)
    (result : Except Exn Values) : Prop :=
  ∃ reads : List (String × Bytes), events = history ++ reads.map readEvent ∧
    ∀ stored, result = .ok stored -> stored = reads.foldl store values

theorem yields_readChar
    (history : List Event)
    (label : Label)
    (uuid : String)
    (values : Values) :
    Yields history (readChar label uuid values) (MakesReads history values) := by
  have reads : Yields history (perform (.readGattChar uuid)) fun events outcome =>
      events = history ++ (outcome.toOption.map (Event.read uuid)).toList := by
    refine Program.Yields.perform ?_
    intro outcome
    cases outcome with
    | ok data => rfl
    | error exc => rfl
  have stores {data : Bytes} :
      MakesReads history values (history ++ [.read uuid data])
        (.ok (Dictionary.setItem values uuid data)) := by
    refine ⟨[(uuid, data)], rfl, ?_⟩
    rintro stored ⟨⟩
    rfl
  have fails : MakesReads history values history (.ok values) := by
    refine ⟨[], (List.append_nil history).symm, ?_⟩
    rintro stored ⟨⟩
    rfl
  have raises {exc : Exn} (outcome : Except Exn Bytes) :
      MakesReads history values
        (history ++ (outcome.toOption.map (Event.read uuid)).toList) (.error exc) := by
    cases outcome with
    | ok data => exact ⟨[(uuid, data)], rfl, nofun⟩
    | error failure => exact ⟨[], rfl, nofun⟩
  refine Program.Yields.bind (yields_attempt reads) ?_ ?_
  · rintro _ exc ⟨outcome, rfl, _⟩
    exact raises outcome
  · rintro _ outcome ⟨_, rfl, same⟩
    cases same outcome rfl
    cases outcome with
    | error exc =>
        refine Program.Yields.bind_of_only (only_emit fun _ => rfl) ?_ ?_
        · intro failure
          exact raises (.error exc)
        · intro _
          refine Program.Yields.done ?_
          rw [Except.toOption, Option.map_none, Option.toList_none, List.append_nil]
          exact fails
    | ok data =>
        have logs : Program.Only Quiet
            (Program.tryExcept (emit (.read label uuid data))
              fun exc => emit (.readFailed label uuid exc.message)) :=
          Program.Only.tryExcept (only_emit fun _ => rfl) fun exc => only_emit fun _ => rfl
        refine Program.Yields.bind_of_only logs ?_ ?_
        · intro failure
          exact raises (.ok data)
        · intro _
          exact Program.Yields.done stores

theorem yields_readChars
    (history : List Event)
    (label : Label)
    (chars : List Characteristic)
    (values : Values) :
    Yields history (readChars label chars values) (MakesReads history values) := by
  induction chars generalizing history values with
  | nil =>
      refine Program.Yields.done ⟨[], (List.append_nil history).symm, ?_⟩
      rintro stored ⟨⟩
      rfl
  | cons char chars inductionHypothesis =>
      refine Program.Yields.bind (yields_readChar history label _ values) ?_ ?_
      · rintro _ exc ⟨reads, rfl, _⟩
        exact ⟨reads, rfl, nofun⟩
      · rintro _ stored ⟨reads, rfl, isStored⟩
        cases isStored stored rfl
        refine Program.Yields.mono (inductionHypothesis _ _) ?_
        rintro _ result ⟨later, rfl, laterStored⟩
        refine ⟨reads ++ later, ?_, ?_⟩
        · rw [List.map_append, List.append_assoc]
        · intro last returns
          rw [List.foldl_append]
          exact laterStored last returns

/-! ## Comparing -/

/-- The event about an item of a snapshot, if it was not in the one before. -/
def changeOf (baseline : Values) (item : String × Bytes) : Option Event :=
  if baseline.lookup item.1 ≠ some item.2 then
    some (.change item.1 (baseline.lookup item.1) item.2)
  else none

/-- What has changed from one snapshot to the next. -/
def changesOf (baseline current : Values) : List Event :=
  current.filterMap (changeOf baseline)

/-- The changes are reported, as far as the log can be written. -/
theorem yields_reportChanges
    (history : List Event)
    (baseline current : Values) :
    Yields history (reportChanges baseline current) fun events result =>
      ∃ reported, events = history ++ reported ∧ reported <+: changesOf baseline current ∧
        (result = .ok () -> reported = changesOf baseline current) := by
  induction current generalizing history with
  | nil =>
      exact Program.Yields.done
        ⟨[], (List.append_nil history).symm, List.prefix_rfl, fun _ => rfl⟩
  | cons item current inductionHypothesis =>
      obtain ⟨uuid, value⟩ := item
      rw [reportChanges, changesOf, List.filterMap_cons]
      by_cases differs : baseline.lookup uuid ≠ some value
      case neg =>
        have noChange : changeOf baseline (uuid, value) = none := if_neg differs
        simp only [noChange, differs, if_false]
        exact inductionHypothesis history
      case pos =>
        have isChange : changeOf baseline (uuid, value) =
            some (.change uuid (baseline.lookup uuid) value) := if_pos differs
        have reports : Yields history (emit (.readChange uuid (baseline.lookup uuid) value))
            fun events result => events = history ++ (result.toOption.map fun _ =>
              Event.change uuid (baseline.lookup uuid) value).toList := by
          refine Program.Yields.perform ?_
          intro outcome
          cases outcome with
          | ok _ => rfl
          | error exc => rfl
        simp only [isChange, differs, ne_eq, not_false_eq_true, if_true]
        refine Program.Yields.bind reports ?_ ?_
        · rintro _ exc rfl
          exact ⟨[], rfl, List.nil_prefix, nofun⟩
        · rintro _ _ rfl
          refine Program.Yields.mono (inductionHypothesis _) ?_
          rintro _ result ⟨reported, rfl, isPrefix, returns⟩
          refine ⟨.change uuid (baseline.lookup uuid) value :: reported, ?_, ?_, ?_⟩
          · rw [List.append_assoc]
            rfl
          · exact List.cons_prefix_cons.mpr ⟨rfl, isPrefix⟩
          · intro returned
            rw [returns returned]
            rfl

/-! ## The baseline -/

theorem nodup_valuesOf (reads : List (String × Bytes)) :
    ((valuesOf reads).map Prod.fst).Nodup := by
  induction reads using List.reverseRecOn with
  | nil => exact List.nodup_nil
  | append_singleton reads read inductionHypothesis =>
      rw [valuesOf, List.foldl_append]
      exact Dictionary.nodup_setItem inductionHypothesis read.1 read.2

theorem lastRead_append_of_none
    {uuid : String} {after : List Event}
    (noData : ∀ event ∈ after, event.dataOf uuid = none)
    (before : List Event) :
    lastRead uuid (before ++ after) = lastRead uuid before := by
  rw [lastRead, lastWritten, List.filterMap_append, List.filterMap_eq_nil_iff.mpr noData,
    List.append_nil]
  rfl

theorem lastRead_changes
    (uuid : String)
    (before : List Event)
    (baseline current : Values) :
    lastRead uuid (before ++ changesOf baseline current) = lastRead uuid before := by
  refine lastRead_append_of_none ?_ before
  intro event isChange
  obtain ⟨item, _, isItem⟩ := List.mem_filterMap.mp isChange
  rw [changeOf] at isItem
  split at isItem
  · cases isItem
    rfl
  · cases isItem

/-- The dictionary of a snapshot has the last value of every characteristic. -/
theorem lookup_valuesOf
    (uuid : String)
    (reads : List (String × Bytes)) :
    (valuesOf reads).lookup uuid = lastRead uuid (reads.map readEvent) := by
  induction reads using List.reverseRecOn with
  | nil => rfl
  | append_singleton reads read inductionHypothesis =>
      rw [valuesOf, List.foldl_append, List.map_append, lastRead, List.map_singleton,
        lastWritten_append_singleton]
      refine (Dictionary.lookup_setItem (valuesOf reads) read.1 read.2 uuid).trans ?_
      by_cases isRead : uuid = read.1
      case pos =>
        rw [if_pos isRead, readEvent, Event.dataOf, if_pos isRead.symm, Option.some_or]
      case neg =>
        rw [if_neg isRead, readEvent, Event.dataOf, if_neg (Ne.symm isRead), Option.none_or]
        exact inductionHypothesis

/-- The events of a snapshot that is compared with the one before. -/
def insideOf (baseline : Values) (reads : List (String × Bytes)) : List Event :=
  reads.map readEvent ++ changesOf baseline (valuesOf reads)

theorem notMem_insideOf
    {event : Event}
    (isMark : event = .snapshot ∨ event = .next)
    (baseline : Values)
    (reads : List (String × Bytes)) :
    event ∉ insideOf baseline reads := by
  rw [insideOf, List.mem_append, List.mem_map, changesOf, List.mem_filterMap]
  rintro (⟨read, _, rfl⟩ | ⟨item, _, isChange⟩)
  · cases isMark <;> contradiction
  · rw [changeOf] at isChange
    split at isChange
    · cases isChange
      cases isMark <;> contradiction
    · cases isChange

/-- What is reported is what is not in the snapshot before. -/
theorem reported_insideOf
    (uuid : String)
    (baseline : Values)
    (reads : List (String × Bytes)) :
    Reported uuid (insideOf baseline reads) ↔
      ∃ value, lastRead uuid (insideOf baseline reads) = some value ∧
        baseline.lookup uuid ≠ some value := by
  rw [insideOf, lastRead_changes, ← lookup_valuesOf]
  constructor
  · rintro ⟨before, after, isReported⟩
    rw [List.mem_append, List.mem_map, changesOf, List.mem_filterMap] at isReported
    obtain ⟨read, _, impossible⟩ | ⟨item, inSnapshot, isChange⟩ := isReported
    · cases impossible
    · rw [changeOf] at isChange
      split at isChange
      case isFalse => cases isChange
      case isTrue differs =>
        cases isChange
        exact ⟨item.2, Dictionary.lookup_of_mem (nodup_valuesOf reads) inSnapshot, differs⟩
  · rintro ⟨value, found, differs⟩
    obtain ⟨front, back, values_eq, _⟩ := List.lookup_eq_some_iff.mp found
    refine ⟨baseline.lookup uuid, value, List.mem_append_right _ ?_⟩
    rw [changesOf, List.mem_filterMap]
    refine ⟨(uuid, value), ?_, if_pos differs⟩
    rw [values_eq]
    exact List.mem_append_right _ List.mem_cons_self

/-! ## Going on -/

/-- Behind a list that an element is not in, it comes behind the whole list. -/
theorem exists_of_append_eq
    {body tail before after : List Event} {event : Event}
    (same : body ++ tail = before ++ event :: after)
    (absent : event ∉ body) :
    ∃ middle, before = body ++ middle ∧ tail = middle ++ event :: after := by
  obtain ⟨middle, before_eq, tail_eq⟩ | ⟨middle, body_eq, after_eq⟩ :=
    List.append_eq_append_iff.mp same
  · exact ⟨middle, before_eq, tail_eq⟩
  · cases middle with
    | nil =>
        rw [List.append_nil] at body_eq
        exact ⟨[], by rw [body_eq, List.append_nil], after_eq.symm⟩
    | cons first middle =>
        obtain ⟨rfl, _⟩ := List.cons.inj after_eq
        refine absurd ?_ absent
        rw [body_eq]
        exact List.mem_append_right _ List.mem_cons_self

theorem previousSnapshot_append
    {events : List Event}
    (noSnapshot : .snapshot ∉ events)
    (history : List Event) :
    previousSnapshot (history ++ events) = previousSnapshot history ++ events := by
  induction events using List.reverseRecOn with
  | nil => rw [List.append_nil, List.append_nil]
  | append_singleton events event inductionHypothesis =>
      rw [List.mem_append, not_or, List.mem_singleton] at noSnapshot
      have isOther : decide (event ≠ .snapshot) = true := decide_eq_true (Ne.symm noSnapshot.2)
      have step : previousSnapshot (history ++ events ++ [event]) =
          previousSnapshot (history ++ events) ++ [event] :=
        (List.rtakeWhile_concat _ _ event).trans (if_pos isOther)
      rw [← List.append_assoc, step, inductionHypothesis noSnapshot.1, List.append_assoc]

theorem previousSnapshot_snapshot
    {events : List Event}
    (noSnapshot : .snapshot ∉ events)
    (history : List Event) :
    previousSnapshot (history ++ .snapshot :: events) = events := by
  have starts : previousSnapshot (history ++ [.snapshot]) = [] :=
    (List.rtakeWhile_concat _ _ Event.snapshot).trans (if_neg (by simp))
  rw [List.append_cons, previousSnapshot_append noSnapshot, starts, List.nil_append]

section Reports

variable {known : String -> List Event -> Option Bytes}

theorem IsSnapshot.append
    {events earlier inside : List Event}
    (isSnapshot : IsSnapshot events earlier inside)
    (rest : List Event) :
    IsSnapshot (events ++ rest) earlier inside := by
  obtain ⟨⟨later, rfl⟩, noSnapshot, noNext⟩ := isSnapshot
  refine ⟨⟨later ++ rest, ?_⟩, noSnapshot, noNext⟩
  rw [List.append_assoc, List.cons_append, List.append_assoc, List.cons_append]

theorem Reports.of_append
    {events rest : List Event}
    (reports : Reports known (events ++ rest)) :
    Reports known events := by
  constructor
  · rintro front uuid before after back rfl
    refine reports.1 front uuid before after (back ++ rest) ?_
    rw [List.append_assoc, List.cons_append]
  · intro earlier inside isSnapshot
    exact reports.2 earlier inside (isSnapshot.append rest)

/-- A run that has gone on is judged by what it does next. -/
theorem Reports.append
    {history rest : List Event}
    (reports : Reports known (history ++ [.next]))
    (changes : ∀ front uuid before after back,
      rest = front ++ .change uuid before after :: back ->
        ∃ earlier inside, front = earlier ++ .snapshot :: inside ∧ .next ∉ inside)
    (snapshots : ∀ earlier inside, IsSnapshot rest earlier inside -> ∀ uuid,
      Reported uuid inside ↔
        ∃ value, lastRead uuid inside = some value ∧
          known uuid (history ++ [.next] ++ earlier) ≠ some value) :
    Reports known (history ++ [.next] ++ rest) := by
  constructor
  · intro front uuid before after back events_eq
    obtain ⟨middle, rfl, rest_eq⟩ | ⟨middle, history_eq, back_eq⟩ :=
      List.append_eq_append_iff.mp events_eq
    · obtain ⟨earlier, inside, rfl, noNext⟩ := changes middle uuid before after back rest_eq
      exact ⟨history ++ [.next] ++ earlier, inside, (List.append_assoc _ _ _).symm, noNext⟩
    · cases middle with
      | nil =>
          obtain ⟨earlier, inside, impossible, _⟩ :=
            changes [] uuid before after back back_eq.symm
          cases earlier <;> cases impossible
      | cons first middle =>
          obtain ⟨rfl, _⟩ := List.cons.inj back_eq
          exact reports.1 front uuid before after middle history_eq
  · rintro earlier inside ⟨⟨later, events_eq⟩, noSnapshot, noNext⟩
    obtain ⟨middle, rfl, rest_eq⟩ | ⟨middle, history_eq, back_eq⟩ :=
      List.append_eq_append_iff.mp events_eq
    · exact snapshots middle inside ⟨⟨later, rest_eq⟩, noSnapshot, noNext⟩
    · cases middle with
      | nil =>
          rw [List.append_nil] at history_eq
          have newest := snapshots [] inside ⟨⟨later, back_eq.symm⟩, noSnapshot, noNext⟩
          rwa [List.append_nil, history_eq] at newest
      | cons first middle =>
          -- the snapshot ends in the history, since that ends with what ends a snapshot
          obtain ⟨rfl, inside_eq⟩ := List.cons.inj back_eq
          refine reports.2 earlier inside ⟨?_, noSnapshot, noNext⟩
          rw [history_eq]
          obtain rfl | ⟨middle, last, rfl⟩ := List.eq_nil_or_concat' middle
          · obtain ⟨_, impossible⟩ := List.append_inj' history_eq rfl
            cases impossible
          · rw [← List.cons_append, ← List.append_assoc] at history_eq
            obtain ⟨_, last_eq⟩ := List.append_inj' history_eq rfl
            cases last_eq
            have same : inside ++ .next :: later = middle ++ .next :: rest :=
              inside_eq.trans (List.append_assoc middle [.next] rest)
            obtain ⟨behind, rfl, later_eq⟩ := exists_of_append_eq same noNext
            cases behind with
            | nil => exact ⟨[], by rw [List.append_nil]⟩
            | cons first behind =>
                obtain ⟨rfl, _⟩ := List.cons.inj later_eq
                exact ⟨behind ++ [.next], by rw [List.append_assoc, List.cons_append]⟩

end Reports

/-- Behind a history that has gone on, the snapshots are compared each with the one
before, and the baseline is the last of them. -/
structure Tracks (history : List Event) (baseline : Values) : Prop where
  reports : Reports inPreviousSnapshot (history ++ [.next])
  baseline_eq : ∀ uuid, baseline.lookup uuid = inPreviousSnapshot uuid history

theorem inPreviousSnapshot_next
    (uuid : String)
    (history : List Event) :
    inPreviousSnapshot uuid (history ++ [.next]) = inPreviousSnapshot uuid history := by
  rw [inPreviousSnapshot, previousSnapshot_append (by decide)]
  refine lastRead_append_of_none ?_ _
  intro event isNext
  rw [List.mem_singleton.mp isNext]
  rfl

theorem Tracks.next
    {history : List Event} {baseline : Values}
    (tracks : Tracks history baseline) :
    Tracks (history ++ [.next]) baseline := by
  constructor
  · refine tracks.reports.append ?_ ?_
    · intro front uuid before after back impossible
      cases front with
      | nil => cases impossible
      | cons first front => simp at impossible
    · rintro earlier inside ⟨⟨later, impossible⟩, _⟩
      cases earlier with
      | nil => cases impossible
      | cons first earlier => simp at impossible
  · intro uuid
    rw [inPreviousSnapshot_next, tracks.baseline_eq]

/-- A snapshot, in which the run is still or which it goes on behind. -/
theorem Tracks.snapshot
    {history inside rest : List Event} {baseline : Values}
    (tracks : Tracks history baseline)
    (noSnapshot : .snapshot ∉ inside)
    (noNext : .next ∉ inside)
    (ends : rest = [] ∨ rest = [.next] ∧ ∀ uuid, Reported uuid inside ↔
      ∃ value, lastRead uuid inside = some value ∧ baseline.lookup uuid ≠ some value) :
    Reports inPreviousSnapshot (history ++ [.next] ++ .snapshot :: (inside ++ rest)) := by
  have restNext : ∀ event ∈ rest, event = .next := by
    obtain rfl | ⟨rfl, _⟩ := ends
    · exact fun event impossible => absurd impossible List.not_mem_nil
    · exact fun event => List.mem_singleton.mp
  refine tracks.reports.append ?_ ?_
  · intro front uuid before after back events_eq
    cases front with
    | nil => cases events_eq
    | cons first front =>
        obtain ⟨rfl, inside_eq⟩ := List.cons.inj events_eq
        refine ⟨[], front, rfl, ?_⟩
        obtain ⟨middle, _, rest_eq⟩ | ⟨middle, rfl, _⟩ :=
          List.append_eq_append_iff.mp inside_eq
        · have inRest : .change uuid before after ∈ rest := by
            rw [rest_eq]
            exact List.mem_append_right _ List.mem_cons_self
          cases restNext _ inRest
        · exact fun isNext => noNext (List.mem_append_left _ isNext)
  · rintro earlier within ⟨⟨later, events_eq⟩, _, withinNoNext⟩ uuid
    cases earlier with
    | cons first earlier =>
        obtain ⟨_, inside_eq⟩ := List.cons.inj events_eq
        have again : .snapshot ∈ inside ++ rest := by
          rw [inside_eq]
          exact List.mem_append_right _ List.mem_cons_self
        obtain inInside | inRest := List.mem_append.mp again
        · exact absurd inInside noSnapshot
        · cases restNext _ inRest
    | nil =>
        obtain ⟨_, inside_eq⟩ := List.cons.inj events_eq
        obtain ⟨middle, rfl, rest_eq⟩ := exists_of_append_eq inside_eq noNext
        obtain rfl | ⟨rfl, compared⟩ := ends
        · simp at rest_eq
        · cases middle with
          | cons first middle => simp at rest_eq
          | nil =>
              rw [List.append_nil, List.append_nil, inPreviousSnapshot_next,
                ← tracks.baseline_eq]
              exact compared uuid

/-- A snapshot that is compared with the baseline is the next one. -/
theorem Tracks.probe
    {history : List Event} {baseline : Values}
    (tracks : Tracks history baseline)
    (reads : List (String × Bytes)) :
    Tracks (history ++ [.next] ++ .snapshot :: insideOf baseline reads)
      (valuesOf reads) := by
  have noSnapshot : .snapshot ∉ insideOf baseline reads :=
    notMem_insideOf (.inl rfl) baseline reads
  constructor
  · rw [List.append_assoc, List.cons_append]
    exact tracks.snapshot noSnapshot (notMem_insideOf (.inr rfl) baseline reads)
      (.inr ⟨rfl, fun uuid => reported_insideOf uuid baseline reads⟩)
  · intro uuid
    rw [inPreviousSnapshot, previousSnapshot_snapshot noSnapshot, insideOf,
      lastRead_changes, lookup_valuesOf]

theorem Tracks.cutShort
    {history inside : List Event} {baseline : Values} {reads : List (String × Bytes)}
    (tracks : Tracks history baseline)
    (isPrefix : inside <+: insideOf baseline reads) :
    Reports inPreviousSnapshot (history ++ [.next] ++ .snapshot :: inside) := by
  have reports := @Tracks.snapshot history inside [] baseline tracks
    (fun isIn => notMem_insideOf (.inl rfl) baseline reads (isPrefix.subset isIn))
    (fun isIn => notMem_insideOf (.inr rfl) baseline reads (isPrefix.subset isIn))
    (.inl rfl)
  rwa [List.append_nil] at reports

/-! ## The loops -/

/-- What the loops do behind a history that has gone on. -/
def KeepsTrack (events : List Event) (result : Except Exn Values) : Prop :=
  Reports inPreviousSnapshot events ∧
    ∀ reached, result = .ok reached -> Tracks events reached

theorem Tracks.keepsTrack
    {history : List Event} {baseline : Values}
    (tracks : Tracks history baseline) :
    KeepsTrack history (.ok baseline) := by
  refine ⟨tracks.reports.of_append, ?_⟩
  rintro reached ⟨⟩
  exact tracks

theorem KeepsTrack.of_error
    {events : List Event} {exc : Exn}
    (reports : Reports inPreviousSnapshot events) :
    KeepsTrack events (.error exc) :=
  ⟨reports, nofun⟩

/-- The check of the flag in front of every round. -/
theorem yields_stopIsSet (history : List Event) :
    Yields history (perform .stopIsSet) fun events _ => events = history ++ [.next] :=
  Program.Yields.perform fun _ => rfl

theorem yields_sleep (history : List Event) :
    Yields history (perform (.sleep PROBE_DELAY_SECONDS)) fun events outcome =>
      events = history ++ (outcome.toOption.map fun _ => Event.snapshot).toList := by
  refine Program.Yields.perform ?_
  intro outcome
  cases outcome with
  | ok _ => rfl
  | error exc => rfl

theorem yields_probePayloads
    {history : List Event} {baseline : Values}
    (tracks : Tracks history baseline)
    (uuid : String)
    (response : Bool)
    (chars : List Characteristic)
    (payloads : List Bytes) :
    Yields history (probePayloads uuid response chars payloads baseline) KeepsTrack := by
  induction payloads generalizing history baseline with
  | nil => exact Program.Yields.done tracks.keepsTrack
  | cons payload payloads inductionHypothesis =>
      have writes : Program.Only Quiet (attempt do
          perform (.writeGattChar uuid payload response)
          emit (.probeWriteOk uuid payload)) :=
        only_attempt ((Program.Only.perform fun _ => rfl).bind fun _ => only_emit fun _ => rfl)
      refine Program.Yields.bind (yields_stopIsSet history) ?_ ?_
      · rintro _ exc rfl
        exact .of_error tracks.reports
      rintro _ stopped rfl
      split
      · exact Program.Yields.done tracks.next.keepsTrack
      refine Program.Yields.bind_of_only (only_emit fun _ => rfl)
        (fun exc => .of_error tracks.reports) ?_
      intro _
      refine Program.Yields.bind_of_only writes (fun exc => .of_error tracks.reports) ?_
      intro written
      cases written with
      | error exc =>
          refine Program.Yields.bind_of_only (only_emit fun _ => rfl)
            (fun exc => .of_error tracks.reports) ?_
          intro _
          exact inductionHypothesis tracks.next
      | ok _ =>
          refine Program.Yields.bind (yields_sleep _) ?_ ?_
          · rintro _ exc rfl
            refine .of_error ?_
            rw [Except.toOption, Option.map_none, Option.toList_none, List.append_nil]
            exact tracks.reports
          rintro _ _ rfl
          refine Program.Yields.bind (yields_readChars _ .read chars []) ?_ ?_
          · rintro _ exc ⟨reads, rfl, _⟩
            refine .of_error ?_
            rw [List.append_assoc]
            exact tracks.cutShort (List.prefix_append (reads.map readEvent) _)
          rintro _ current ⟨reads, rfl, isStored⟩
          cases isStored current rfl
          refine Program.Yields.bind (yields_reportChanges _ baseline _) ?_ ?_
          · rintro _ exc ⟨reported, rfl, isPrefix, _⟩
            refine .of_error ?_
            rw [List.append_assoc, List.append_assoc]
            exact tracks.cutShort
              ((List.prefix_append_right_inj (reads.map readEvent)).mpr isPrefix)
          rintro _ _ ⟨reported, rfl, _, returns⟩
          rw [returns rfl, List.append_assoc, List.append_assoc]
          exact inductionHypothesis (tracks.probe reads)

theorem yields_probeChars
    {history : List Event} {baseline : Values}
    (tracks : Tracks history baseline)
    (chars writeChars : List Characteristic) :
    Yields history (probeChars chars writeChars baseline) KeepsTrack := by
  induction writeChars generalizing history baseline with
  | nil => exact Program.Yields.done tracks.keepsTrack
  | cons char writeChars inductionHypothesis =>
      refine Program.Yields.bind (yields_stopIsSet history) ?_ ?_
      · rintro _ exc rfl
        exact .of_error tracks.reports
      rintro _ stopped rfl
      split
      · exact Program.Yields.done tracks.next.keepsTrack
      refine Program.Yields.bind (yields_probePayloads tracks.next _ _ chars _) ?_ ?_
      · intro events exc keeps
        exact .of_error keeps.1
      · intro events reached keeps
        exact inductionHypothesis (keeps.2 reached rfl)

/-! ## The tool -/

theorem only_forM
    {body : Characteristic -> Action Unit}
    (only : ∀ char, Program.Only Quiet (body char))
    (chars : List Characteristic) :
    Program.Only Quiet (chars.forM body) := by
  induction chars with
  | nil => exact trivial
  | cons char chars inductionHypothesis =>
      exact (only char).bind fun _ => inductionHypothesis

/-- Reads in front of all writes are no snapshot that is compared. -/
theorem tracks_baseline (reads : List (String × Bytes)) :
    Tracks (reads.map readEvent) (valuesOf reads) := by
  have onlyReads (event : Event) (inEvents : event ∈ reads.map readEvent ++ [.next]) :
      (∃ uuid data, event = .read uuid data) ∨ event = .next := by
    obtain isRead | isNext := List.mem_append.mp inEvents
    · obtain ⟨read, _, rfl⟩ := List.mem_map.mp isRead
      exact .inl ⟨read.1, read.2, rfl⟩
    · exact .inr (List.mem_singleton.mp isNext)
  refine ⟨⟨?_, ?_⟩, ?_⟩
  · intro front uuid before after back events_eq
    have inEvents := onlyReads (.change uuid before after) (by rw [events_eq]; simp)
    simp at inEvents
  · rintro earlier inside ⟨⟨later, events_eq⟩, _⟩
    have inEvents := onlyReads .snapshot (by rw [events_eq]; simp)
    simp at inEvents
  · intro uuid
    have noSnapshot : .snapshot ∉ reads.map readEvent := by
      intro inReads
      have inEvents := onlyReads .snapshot (List.mem_append_left _ inReads)
      simp at inEvents
    have all := previousSnapshot_append noSnapshot []
    rw [List.nil_append] at all
    rw [inPreviousSnapshot, all, lookup_valuesOf]
    rfl

theorem yields_probeServices (services : List (List Characteristic)) :
    Yields [] (probeServices services) fun events _ => Reports inPreviousSnapshot events := by
  rcases collected : collectProbeChars services with ⟨notifyChars, readableChars, writeChars⟩
  have initially : Reports inPreviousSnapshot [] := (tracks_baseline []).reports.of_append
  simp only [probeServices, collected]
  split
  · exact Program.Yields.done initially
  have subscribes : Program.Only Quiet
      (notifyChars.forM fun char => subscribe (normalizeUuid char.uuid)) := by
    refine only_forM ?_ notifyChars
    intro char
    exact Program.Only.tryExcept
      ((Program.Only.perform fun _ => rfl).bind fun _ => only_emit fun _ => rfl)
      fun exc => only_emit fun _ => rfl
  have unsubscribes : Program.Only Quiet
      (notifyChars.forM fun char => unsubscribe (normalizeUuid char.uuid)) := by
    refine only_forM ?_ notifyChars
    intro char
    exact Program.Only.tryExcept
      ((Program.Only.perform fun _ => rfl).bind fun _ => only_emit fun _ => rfl)
      fun exc => only_emit fun _ => rfl
  refine Program.Yields.bind_of_only (only_emit fun _ => rfl) (fun exc => initially) ?_
  intro _
  refine Program.Yields.bind_of_only subscribes (fun exc => initially) ?_
  intro _
  refine Program.Yields.bind (yields_readChars [] .baseline readableChars []) ?_ ?_
  · rintro _ exc ⟨reads, rfl, _⟩
    exact (tracks_baseline reads).reports.of_append
  rintro _ baseline ⟨reads, rfl, isStored⟩
  cases isStored baseline rfl
  refine Program.Yields.bind
    (yields_probeChars (tracks_baseline reads) readableChars writeChars) ?_ ?_
  · intro events exc keeps
    exact keeps.1
  intro events reached keeps
  have tracks := keeps.2 reached rfl
  have stops : Yields events (emit .stopping) fun after _ => after = events ++ [.next] :=
    Program.Yields.perform fun _ => rfl
  refine Program.Yields.bind stops ?_ ?_
  · rintro _ exc rfl
    exact tracks.reports
  · rintro _ _ rfl
    refine Program.Yields.mono (Program.Yields.of_only unsubscribes) ?_
    rintro _ result rfl
    exact tracks.reports

/-- In every run a snapshot is compared with the one before it. -/
theorem yields_main
    (address : String)
    (outFile : Option String)
    (backend : String) :
    Yields [] (main address outFile backend) fun events _ =>
      Reports inPreviousSnapshot events := by
  have initially : Reports inPreviousSnapshot [] := (tracks_baseline []).reports.of_append
  have names : Program.Only Quiet (outPath outFile) := by
    rw [outPath]
    split
    · exact (Program.Only.perform fun _ => rfl).bind fun _ => trivial
    · exact trivial
  have handles (signal : String) : Program.Only Quiet (addSignalHandler signal) := by
    refine Program.Only.tryExcept (Program.Only.perform fun _ => rfl) ?_
    intro exc
    split
    · exact trivial
    · exact trivial
  have prints (text : String) : Program.Only Quiet (perform (.print text)) :=
    Program.Only.perform fun _ => rfl
  have enters : Program.Only Quiet (perform (.enterClient address)) :=
    Program.Only.perform fun _ => rfl
  unfold main
  refine Program.Yields.bind_of_only names (fun exc => initially) ?_
  intro path
  refine Program.Yields.bind_of_only (prints _) (fun exc => initially) ?_
  intro _
  refine Program.Yields.bind_of_only (prints _) (fun exc => initially) ?_
  intro _
  refine Program.Yields.bind_of_only (handles _) (fun exc => initially) ?_
  intro _
  refine Program.Yields.bind_of_only (handles _) (fun exc => initially) ?_
  intro _
  refine Program.Yields.bind_of_only enters (fun exc => initially) ?_
  intro _
  have body : Yields []
      (do
        let connected <- perform .isConnected
        perform (.print ("Connected: " ++ if connected then "True" else "False"))
        perform (.openLog path)
        emit (.connected address)
        let services <- perform .services
        probeServices services)
      fun events _ => Reports inPreviousSnapshot events := by
    refine Program.Yields.bind_of_only (Program.Only.perform fun _ => rfl)
      (fun exc => initially) ?_
    intro connected
    refine Program.Yields.bind_of_only (prints _) (fun exc => initially) ?_
    intro _
    refine Program.Yields.bind_of_only (Program.Only.perform fun _ => rfl)
      (fun exc => initially) ?_
    intro _
    refine Program.Yields.bind_of_only (only_emit fun _ => rfl) (fun exc => initially) ?_
    intro _
    refine Program.Yields.bind_of_only (Program.Only.perform fun _ => rfl)
      (fun exc => initially) ?_
    intro services
    exact yields_probeServices services
  refine Program.Yields.handle body ?_
  intro events result reports
  refine Program.Yields.bind_of_only (Program.Only.perform fun _ => rfl)
    (fun exc => reports) ?_
  intro _
  exact Program.Yields.done reports

/-! ## What is known about a characteristic -/

/-- What the last snapshot has is what the last successful read has returned. -/
theorem lastRead_of_inPreviousSnapshot
    {uuid : String} {events : List Event} {value : Bytes}
    (found : inPreviousSnapshot uuid events = some value) :
    lastRead uuid events = some value := by
  obtain ⟨front, events_eq⟩ : previousSnapshot events <:+ events :=
    List.rtakeWhile_suffix _ _
  rw [← events_eq, lastRead, lastWritten, List.filterMap_append, List.getLast?_append]
  exact Option.or_eq_some_iff.mpr (.inl found)

/-- A run reports the changes exactly if no read fails between two equal ones. -/
theorem reportsChanges_iff
    {events : List Event}
    (reports : Reports inPreviousSnapshot events) :
    ReportsChanges events ↔ ¬EqualAroundFailure events := by
  constructor
  · rintro reportsChanges ⟨earlier, inside, uuid, value, isSnapshot, found, failed, equal⟩
    have isReported : Reported uuid inside :=
      (reports.2 earlier inside isSnapshot uuid).mpr ⟨value, found, by rw [failed]; nofun⟩
    obtain ⟨other, otherFound, differs⟩ :=
      (reportsChanges.2 earlier inside isSnapshot uuid).mp isReported
    rw [found] at otherFound
    cases otherFound
    exact differs equal
  · intro notEqual
    refine ⟨reports.1, ?_⟩
    intro earlier inside isSnapshot uuid
    rw [reports.2 earlier inside isSnapshot uuid]
    refine exists_congr fun value => and_congr_right fun found => not_congr ?_
    refine ⟨lastRead_of_inPreviousSnapshot, ?_⟩
    intro equal
    cases previous : inPreviousSnapshot uuid earlier with
    | none =>
        exact absurd ⟨earlier, inside, uuid, value, isSnapshot, found, previous, equal⟩
          notEqual
    | some other => rw [← lastRead_of_inPreviousSnapshot previous, equal]

/-- In every run the changes of all characteristics are reported, and no others,
exactly if no characteristic has the same value before and behind a snapshot in which
its read has failed. -/
theorem main_reportsChanges_iff
    {address : String} {outFile : Option String} {backend : String}
    {trace : List Step} {result : Except Exn Unit}
    (runs : Program.Runs (main address outFile backend) trace result) :
    ReportsChanges (eventsOf trace) ↔ ¬EqualAroundFailure (eventsOf trace) :=
  reportsChanges_iff (yields_main address outFile backend trace result runs)

/-! A value of which one read in the middle fails. -/

/-- The characteristic that is written. -/
def probedUuid : String := "00000012-eaa2-11e9-81b4-2a2ae2dbcce4"

/-- The characteristic that is read. -/
def stableUuid : String := "00000041-eaa2-11e9-81b4-2a2ae2dbcce4"

/-- A line that is written to the log. -/
def writtenStep (line : Line) : Step := ⟨.emit line, .ok ()⟩

/-- A payload is written, and the probe waits. -/
def writeSteps (payload : Bytes) : List Step :=
  [⟨.stopIsSet, .ok false⟩, writtenStep (.probe probedUuid payload),
    ⟨.writeGattChar probedUuid payload false, .ok ()⟩,
    writtenStep (.probeWriteOk probedUuid payload), ⟨.sleep PROBE_DELAY_SECONDS, .ok ()⟩]

/-- A read that succeeds. -/
def readSteps (label : Label) (data : Bytes) : List Step :=
  [⟨.readGattChar stableUuid, .ok data⟩, writtenStep (.read label stableUuid data)]

/-- The value is read, the next read fails, and then it is read again. -/
def interruptedSteps (again : Bytes) : List Step :=
  [⟨.print "Connecting to AA:BB:CC:DD:EE:FF via bluez ...", .ok ()⟩,
    ⟨.print "Probing to probe.log", .ok ()⟩, ⟨.addSignalHandler "SIGINT", .ok ()⟩,
    ⟨.addSignalHandler "SIGTERM", .ok ()⟩, ⟨.enterClient "AA:BB:CC:DD:EE:FF", .ok ()⟩,
    ⟨.isConnected, .ok true⟩, ⟨.print "Connected: True", .ok ()⟩,
    ⟨.openLog "probe.log", .ok ()⟩, writtenStep (.connected "AA:BB:CC:DD:EE:FF"),
    ⟨.services, .ok [[⟨probedUuid, ["write-without-response"]⟩, ⟨stableUuid, ["read"]⟩]]⟩,
    writtenStep .subscribing] ++
    readSteps .baseline [0x18, 0x00] ++ [⟨.stopIsSet, .ok false⟩] ++
    writeSteps [0x00] ++
    [⟨.readGattChar stableUuid, .error ⟨.user "BleakError", "Not Permitted"⟩⟩,
      writtenStep (.readFailed .read stableUuid "Not Permitted")] ++
    writeSteps [0x00, 0x00] ++ readSteps .read again ++
    [writtenStep (.readChange stableUuid none again), ⟨.stopIsSet, .ok true⟩,
      writtenStep .stopping, ⟨.exitClient, .ok ()⟩]

theorem runs_interrupted (again : Bytes) :
    Program.Runs (main "AA:BB:CC:DD:EE:FF" (some "probe.log") "bluez")
      (interruptedSteps again) (.ok ()) := by
  repeat first | exact Program.Runs.done | apply Program.Runs.ask

theorem mem_of_lastRead
    {uuid : String} {events : List Event} {value : Bytes}
    (found : lastRead uuid events = some value) :
    .read uuid value ∈ events := by
  have written := List.mem_of_getLast? found
  obtain ⟨event, present, isRead⟩ := List.mem_filterMap.mp written
  cases event with
  | read other data =>
      simp only [Event.dataOf, Option.ite_none_right_eq_some, Option.some.injEq] at isRead
      obtain ⟨rfl, rfl⟩ := isRead
      exact present
  | _ => cases isRead

/-- Where no value is read twice, none is equal around a failure. -/
theorem not_equalAroundFailure
    {events : List Event}
    (once : ∀ uuid value, events.count (.read uuid value) ≤ 1) :
    ¬EqualAroundFailure events := by
  rintro ⟨earlier, inside, uuid, value, ⟨⟨later, rfl⟩, _, _⟩, found, _, before⟩
  have first := List.one_le_count_iff.mpr (mem_of_lastRead before)
  have second := List.one_le_count_iff.mpr (mem_of_lastRead found)
  have twice := once uuid value
  simp only [List.count_append, List.count_cons] at twice
  omega

/-- Behind the failed read a value is reported that differs from the one before it, and
nothing else. -/
theorem main_reportsChanges_iff_interrupted :
    ReportsChanges (eventsOf (interruptedSteps [0x19, 0x00])) ∧
      ((eventsOf (interruptedSteps [0x19, 0x00])).filter fun event =>
        !(event matches .read _ _ | .snapshot | .next)) =
          [.change stableUuid none [0x19, 0x00]] := by
  refine ⟨(main_reportsChanges_iff (runs_interrupted _)).mpr (not_equalAroundFailure ?_),
    by decide⟩
  intro uuid value
  by_cases present : Event.read uuid value ∈ eventsOf (interruptedSteps [0x19, 0x00])
  · have once : ∀ event ∈ eventsOf (interruptedSteps [0x19, 0x00]),
        (event matches .read _ _) = true ->
          (eventsOf (interruptedSteps [0x19, 0x00])).count event ≤ 1 := by
      decide
    exact once _ present rfl
  · rw [List.count_eq_zero_of_not_mem present]
    exact Nat.zero_le 1

/-- A value is reported as changed behind a read that fails, and it is the one of the
read before that. -/
theorem main_reports_unchanged :
    Program.Runs (main "AA:BB:CC:DD:EE:FF" (some "probe.log") "bluez")
      (interruptedSteps [0x18, 0x00]) (.ok ()) ∧
    ¬ReportsChanges (eventsOf (interruptedSteps [0x18, 0x00])) := by
  refine ⟨runs_interrupted _, ?_⟩
  intro reports
  have isSnapshot : IsSnapshot (eventsOf (interruptedSteps [0x18, 0x00]))
      [.read stableUuid [0x18, 0x00], .next, .next, .snapshot, .next]
      [.read stableUuid [0x18, 0x00], .change stableUuid none [0x18, 0x00]] :=
    ⟨⟨[.next], by decide⟩, by decide, by decide⟩
  have isReported : Reported stableUuid
      [.read stableUuid [0x18, 0x00], .change stableUuid none [0x18, 0x00]] :=
    ⟨none, [0x18, 0x00], by decide⟩
  obtain ⟨value, found, differs⟩ := (reports.2 _ _ isSnapshot stableUuid).mp isReported
  have known : some value = some [0x18, 0x00] := found.symm.trans (by decide)
  rw [known] at differs
  exact differs (by decide)

end Probe
end BoschBle
