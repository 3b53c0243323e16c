import BoschBle.Live.System

/-!
# Shutting a session down

`stop` races a join of the send queue against the writer.  `Transition` lists
what a step can do to queue, writer and `stop`; the invariants of this module
are proved from it.  `Accounted` ties the queue's count to its contents and to
the packet in the writer's hand, `Unblocked` says why no wait of `stop` is for
ever, and `Drained` why `stop` returns only when everything has been written.
-/

namespace BoschBle
namespace Live

open Foundation

variable {World : Type} {callbacks : Callbacks World}

/-! ## What a step can do -/

/-- Replace the send queue. -/
def System.withQueue
    (system : System World)
    (queue : AsyncQueue (Option Bytes)) : System World :=
  { system with session := { system.session with sendQueue := queue } }

/-- The cases of a step, with what each of them has checked. -/
inductive Transition (before : System World) : Event -> System World -> Prop
  | startCalled
      (fresh : before.start = .notCalled) :
      Transition before .startCalled
        { before with start := .startingNotify, writer := .getting }
  | startEnds {event : Event} {start : StartTask}
      (starting : before.start = .startingNotify)
      (ended : start ≠ .notCalled) :
      Transition before event { before with start := start }
  | put {event : Event} {session : McspLiveSession} {world : World}
      (packets : List Bytes)
      (puts : session.sendQueue =
        before.session.sendQueue.putAll (packets.map some))
      (silent : event.enqueues = false -> packets = []) :
      Transition before event { before with session := session, world := world }
  | takeSentinel {queue : AsyncQueue (Option Bytes)}
      (getting : before.writer = .getting)
      (gets : before.session.sendQueue.getNowait = some (none, queue)) :
      Transition before .writerGet ((before.withQueue queue).taskDone .returned)
  | sendRaises {queue : AsyncQueue (Option Bytes)} {packet : Bytes}
      {world : World} {exc : Exn}
      (getting : before.writer = .getting)
      (gets : before.session.sendQueue.getNowait = some (some packet, queue)) :
      Transition before .writerGet
        (System.taskDone
          { before.withQueue queue with
            world := world
            failures := before.failures ++ [exc] }
          (.failed exc))
  | takePacket {queue : AsyncQueue (Option Bytes)} {packet : Bytes}
      {world : World}
      (getting : before.writer = .getting)
      (gets : before.session.sendQueue.getNowait = some (some packet, queue)) :
      Transition before .writerGet
        { before.withQueue queue with
          world := world
          writer := .writing packet }
  | writeReturns {packet : Bytes}
      (writing : before.writer = .writing packet) :
      Transition before .writeReturns
        (System.taskDone
          { before with written := before.written ++ [packet] } .getting)
  | writeRaises {packet : Bytes} {exc : Exn}
      (writing : before.writer = .writing packet) :
      Transition before (.writeRaises exc)
        (System.taskDone
          { before with failures := before.failures ++ [exc] } (.failed exc))
  | stopCalled
      (fresh : before.stop = .notCalled) :
      Transition before .stopCalled { before with stop := .stoppingNotify }
  | stopNotifyReturns
      (stopping : before.stop = .stoppingNotify) :
      Transition before .stopNotifyReturns
        { before.joinOrFinish none with stopNotify := some (.ok ()) }
  | stopNotifyRaises {exc : Exn}
      (stopping : before.stop = .stoppingNotify) :
      Transition before (.stopNotifyRaises exc)
        { before.joinOrFinish (some exc) with stopNotify := some (.error exc) }
  | stopNotifyBreaks {exc : Exn}
      (stopping : before.stop = .stoppingNotify) :
      Transition before (.stopNotifyRaises exc)
        { before with
          stop := .finished (.error exc)
          stopNotify := some (.error exc) }
  | joinStep {stopError : Option Exn} {join polled : JoinTask}
      (waiting : before.stop = .waiting stopError join)
      (polls : join.poll before.session.sendQueue.unfinished = some polled) :
      Transition before .joinStep
        { before with stop := .waiting stopError polled }
  | wakeEnded {stopError : Option Exn} {join : JoinTask}
      {result : Except Exn Unit}
      (waiting : before.stop = .waiting stopError join)
      (ended : before.writer.result = some result) :
      Transition before .stopStep
        { before with
          stop := if join = .done then .finished (stopOutcome stopError result)
            else .cancellingJoin (stopOutcome stopError result) }
  | wakeJoined {stopError : Option Exn}
      (waiting : before.stop = .waiting stopError .done)
      (alive : before.writer.result = none) :
      Transition before .stopStep
        { before.withQueue (before.session.sendQueue.putNowait none) with
          stop := .awaitingWriter stopError }
  | writerAwaited {stopError : Option Exn} {result : Except Exn Unit}
      (awaiting : before.stop = .awaitingWriter stopError)
      (ended : before.writer.result = some result) :
      Transition before .stopStep
        { before with stop := .finished (stopOutcome stopError result) }
  | joinCancelled {outcome : Except Exn Unit}
      (cancelling : before.stop = .cancellingJoin outcome) :
      Transition before .stopStep { before with stop := .finished outcome }

theorem transition_of_writerGet
    {before after : System World}
    (stepped : before.writerGet callbacks = some after) :
    Transition before .writerGet after := by
  unfold System.writerGet at stepped
  split at stepped
  case h_2 => cases stepped
  case h_1 item queue getting gets =>
    cases item with
    | none =>
        cases stepped
        exact Transition.takeSentinel getting gets
    | some packet =>
        simp only at stepped
        split at stepped
        · cases stepped
          exact Transition.takePacket getting gets
        · cases stepped
          exact Transition.sendRaises getting gets

theorem transition_of_stopStep
    {before after : System World}
    (stepped : before.stopStep = some after) :
    Transition before .stopStep after := by
  unfold System.stopStep at stepped
  split at stepped
  case h_1 stopError join waiting =>
    split at stepped
    case h_1 result ended =>
      cases stepped
      exact Transition.wakeEnded waiting ended
    case h_2 alive =>
      split at stepped
      case isTrue joined =>
        cases stepped
        rw [joined] at waiting
        exact Transition.wakeJoined waiting alive
      case isFalse => cases stepped
  case h_2 stopError awaiting =>
    rw [Option.map_eq_some_iff] at stepped
    obtain ⟨result, ended, rfl⟩ := stepped
    exact Transition.writerAwaited awaiting ended
  case h_3 outcome cancelling =>
    cases stepped
    exact Transition.joinCancelled cancelling
  case h_4 => cases stepped

/-- Every step is one of the cases. -/
theorem transition_of_step
    {before after : System World} {event : Event}
    (stepped : before.step callbacks event = some after) :
    Transition before event after := by
  cases event with
  | startCalled =>
      simp only [System.step, Option.ite_none_right_eq_some,
        Option.some.injEq] at stepped
      obtain ⟨fresh, rfl⟩ := stepped
      exact Transition.startCalled fresh
  | startNotifyReturns =>
      simp only [System.step, Option.ite_none_right_eq_some,
        Option.some.injEq] at stepped
      obtain ⟨starting, rfl⟩ := stepped
      exact Transition.startEnds starting (by decide)
  | startNotifyRaises exc =>
      simp only [System.step, Option.ite_none_right_eq_some,
        Option.some.injEq] at stepped
      obtain ⟨starting, rfl⟩ := stepped
      exact Transition.startEnds starting (by simp)
  | notification notification =>
      simp only [System.step, Option.ite_none_left_eq_some,
        Option.some.injEq] at stepped
      obtain ⟨_, rfl⟩ := stepped
      obtain ⟨packets, puts⟩ := notifyHandler_keeps callbacks notification
        ⟨before.session, before.world⟩
      exact Transition.put packets puts (by simp [Event.enqueues])
  | queueHandshakeResponse commands =>
      simp only [System.step] at stepped
      split at stepped
      case h_1 session queues =>
        cases stepped
        obtain ⟨packets, puts⟩ := enqueues_queueHandshakeResponse queues
        exact Transition.put packets puts (by simp [Event.enqueues])
      case h_2 =>
        cases stepped
        exact Transition.put [] rfl fun _ => rfl
  | queuePackets packets =>
      cases stepped
      exact Transition.put packets rfl (by simp [Event.enqueues])
  | handshakeTimeout =>
      cases stepped
      exact Transition.put [] (sendQueue_timeOutHandshake _) fun _ => rfl
  | writerGet => exact transition_of_writerGet stepped
  | writeReturns =>
      simp only [System.step] at stepped
      split at stepped
      case h_1 packet writing =>
        cases stepped
        exact Transition.writeReturns writing
      case h_2 => cases stepped
  | writeRaises exc =>
      simp only [System.step] at stepped
      split at stepped
      case h_1 packet writing =>
        cases stepped
        exact Transition.writeRaises writing
      case h_2 => cases stepped
  | stopCalled =>
      simp only [System.step, Option.ite_none_right_eq_some,
        Option.some.injEq] at stepped
      obtain ⟨fresh, rfl⟩ := stepped
      exact Transition.stopCalled fresh
  | stopNotifyReturns =>
      simp only [System.step, Option.ite_none_right_eq_some,
        Option.some.injEq] at stepped
      obtain ⟨stopping, rfl⟩ := stepped
      exact Transition.stopNotifyReturns stopping
  | stopNotifyRaises exc =>
      simp only [System.step, Option.ite_none_right_eq_some] at stepped
      obtain ⟨stopping, stepped⟩ := stepped
      split at stepped
      · cases stepped
        exact Transition.stopNotifyRaises stopping
      · cases stepped
        exact Transition.stopNotifyBreaks stopping
  | joinStep =>
      simp only [System.step] at stepped
      split at stepped
      case h_1 stopError join waiting =>
        rw [Option.map_eq_some_iff] at stepped
        obtain ⟨polled, polls, rfl⟩ := stepped
        exact Transition.joinStep waiting polls
      case h_2 => cases stepped
  | stopStep => exact transition_of_stopStep stepped

/-! ## Accounting -/

/-- What the writer has taken off the queue beyond the packets it wrote. -/
def Writer.Took : Writer -> List (Option Bytes) -> Prop
  | .notStarted, taken | .getting, taken => taken = []
  | .writing packet, taken => taken = [some packet]
  | .returned, taken => taken = [none]
  | .failed _, taken => ∃ packet, taken = [some packet]

/-- The number of items taken and not yet reported done. -/
def Writer.inHand : Writer -> Nat
  | .writing _ => 1
  | _ => 0

/-- What `on_send` and the writes have raised: it ends the writer. -/
def Writer.raised : Writer -> List Exn
  | .failed exc => [exc]
  | _ => []

/-- Queue, writer and record agree. -/
structure Accounted (system : System World) : Prop where
  history : ∃ taken, system.writer.Took taken ∧
    system.session.sendQueue.history =
      system.written.map some ++ taken ++ system.session.sendQueue.items
  unfinished : system.session.sendQueue.unfinished =
    system.session.sendQueue.items.length + system.writer.inHand
  failures : system.failures = system.writer.raised
  started : system.start = .notCalled -> system.writer = .notStarted
  unstarted : system.writer = .notStarted -> system.start = .notCalled

theorem accounted_initial (world : World) :
    Accounted (System.initial world) where
  history := ⟨[], rfl, rfl⟩
  unfinished := rfl
  failures := rfl
  started := fun _ => rfl
  unstarted := fun _ => rfl

/-- With a task to report, `taskDone` lowers the count and wakes the join. -/
theorem taskDone_eq
    {system : System World}
    (positive : 0 < system.session.sendQueue.unfinished)
    (next : Writer) :
    system.taskDone next =
      { system.withQueue
          { system.session.sendQueue with
            unfinished := system.session.sendQueue.unfinished - 1 } with
        writer := next
        stop :=
          if system.session.sendQueue.unfinished - 1 = 0 then
            system.stop.wakeJoin
          else system.stop } := by
  rw [System.taskDone, AsyncQueue.taskDone_of_pos positive]
  rfl

/-- Reporting the item in hand keeps the accounts. -/
theorem Accounted.taskDone
    {system : System World} {next : Writer}
    (taken : List (Option Bytes))
    (unfinished : system.session.sendQueue.unfinished =
      system.session.sendQueue.items.length + 1)
    (history : system.session.sendQueue.history =
      system.written.map some ++ taken ++ system.session.sendQueue.items)
    (took : next.Took taken)
    (empty : next.inHand = 0)
    (failures : system.failures = next.raised)
    (started : system.start ≠ .notCalled)
    (alive : next ≠ .notStarted) :
    Accounted (system.taskDone next) := by
  rw [taskDone_eq (by omega)]
  exact
    { history := ⟨taken, took, history⟩
      unfinished := by
        change system.session.sendQueue.unfinished - 1 =
          system.session.sendQueue.items.length + next.inHand
        rw [unfinished, empty]
        rfl
      failures := failures
      started := fun unstarted => absurd unstarted started
      unstarted := fun dead => absurd dead alive }

theorem Accounted.history_of_getting
    {system : System World}
    (accounted : Accounted system)
    (getting : system.writer = .getting) :
    system.session.sendQueue.history =
      system.written.map some ++ system.session.sendQueue.items := by
  obtain ⟨taken, took, history⟩ := accounted.history
  rw [getting] at took
  rw [history, show taken = [] from took, List.append_nil]

theorem Accounted.history_of_writing
    {system : System World} {packet : Bytes}
    (accounted : Accounted system)
    (writing : system.writer = .writing packet) :
    system.session.sendQueue.history =
      system.written.map some ++ [some packet] ++
        system.session.sendQueue.items := by
  obtain ⟨taken, took, history⟩ := accounted.history
  rw [writing] at took
  rw [history, show taken = [some packet] from took]

theorem Accounted.start_ne
    {system : System World}
    (accounted : Accounted system)
    (alive : system.writer ≠ .notStarted) : system.start ≠ .notCalled :=
  fun unstarted => alive (accounted.started unstarted)

/-- An item that the writer takes is behind the packets it wrote. -/
theorem Accounted.get
    {system : System World} {queue : AsyncQueue (Option Bytes)}
    {item : Option Bytes}
    (accounted : Accounted system)
    (getting : system.writer = .getting)
    (gets : system.session.sendQueue.getNowait = some (item, queue)) :
    queue.unfinished = queue.items.length + 1 ∧
      queue.history = system.written.map some ++ [item] ++ queue.items := by
  obtain ⟨items_eq, unfinished_eq, history_eq⟩ :=
    AsyncQueue.getNowait_eq_some gets
  constructor
  · rw [unfinished_eq, accounted.unfinished, items_eq, getting]
    rfl
  · rw [history_eq, accounted.history_of_getting getting, items_eq,
      List.append_assoc, List.singleton_append]

/-- Every step keeps the accounts. -/
theorem Accounted.step
    {before after : System World} {event : Event}
    (accounted : Accounted before)
    (transition : Transition before event after) :
    Accounted after := by
  cases transition with
  | startCalled fresh =>
      have idle := accounted.started fresh
      obtain ⟨taken, took, history⟩ := accounted.history
      rw [idle] at took
      exact
        { history := ⟨taken, took, history⟩
          unfinished := by
            have unfinished := accounted.unfinished
            rw [idle] at unfinished
            exact unfinished
          failures := by
            have failures := accounted.failures
            rw [idle] at failures
            exact failures
          started := fun impossible => nomatch impossible
          unstarted := fun impossible => nomatch impossible }
  | startEnds starting ended =>
      exact
        { history := accounted.history
          unfinished := accounted.unfinished
          failures := accounted.failures
          started := fun unstarted => absurd unstarted ended
          unstarted := fun dead =>
            absurd (accounted.unstarted dead) (by rw [starting]; decide) }
  | put packets puts _ =>
      obtain ⟨taken, took, history⟩ := accounted.history
      refine ⟨⟨taken, took, ?_⟩, ?_, accounted.failures, accounted.started,
        accounted.unstarted⟩
      · simp only [puts, AsyncQueue.history_putAll, AsyncQueue.items_putAll,
          history, List.append_assoc]
      · simp only [puts, AsyncQueue.unfinished_putAll, AsyncQueue.items_putAll,
          accounted.unfinished, List.length_append]
        omega
  | takeSentinel getting gets =>
      obtain ⟨unfinished, history⟩ := accounted.get getting gets
      have failures := accounted.failures
      rw [getting] at failures
      exact Accounted.taskDone _ unfinished history rfl rfl failures
        (accounted.start_ne (by rw [getting]; decide)) (by decide)
  | sendRaises getting gets =>
      obtain ⟨unfinished, history⟩ := accounted.get getting gets
      have failures := accounted.failures
      rw [getting] at failures
      refine Accounted.taskDone _ unfinished history ⟨_, rfl⟩ rfl ?_
        (accounted.start_ne (by rw [getting]; decide)) (by simp)
      rw [failures]
      rfl
  | takePacket getting gets =>
      obtain ⟨unfinished, history⟩ := accounted.get getting gets
      have failures := accounted.failures
      rw [getting] at failures
      exact
        { history := ⟨_, rfl, history⟩
          unfinished := unfinished
          failures := failures
          started := fun unstarted => absurd unstarted
            (accounted.start_ne (by rw [getting]; decide))
          unstarted := fun impossible => nomatch impossible }
  | writeReturns writing =>
      have unfinished := accounted.unfinished
      have history := accounted.history_of_writing writing
      have failures := accounted.failures
      rw [writing] at unfinished failures
      refine Accounted.taskDone [] unfinished ?_ rfl rfl failures
        (accounted.start_ne (by rw [writing]; simp)) (by decide)
      simp only [history, List.map_append, List.map_singleton, List.append_nil]
  | writeRaises writing =>
      have unfinished := accounted.unfinished
      have history := accounted.history_of_writing writing
      have failures := accounted.failures
      rw [writing] at unfinished failures
      refine Accounted.taskDone _ unfinished history ⟨_, rfl⟩ rfl ?_
        (accounted.start_ne (by rw [writing]; simp)) (by simp)
      rw [failures]
      rfl
  | wakeJoined waiting alive =>
      obtain ⟨taken, took, history⟩ := accounted.history
      refine ⟨⟨taken, took, ?_⟩, ?_, accounted.failures, accounted.started,
        accounted.unstarted⟩
      · simp only [System.withQueue, AsyncQueue.history_putNowait,
          AsyncQueue.items_putNowait, history, List.append_assoc]
      · simp only [System.withQueue, AsyncQueue.unfinished_putNowait,
          AsyncQueue.items_putNowait, accounted.unfinished,
          List.length_append, List.length_singleton]
        omega
  | _ =>
      exact ⟨accounted.history, accounted.unfinished, accounted.failures,
        accounted.started, accounted.unstarted⟩

theorem Accounted.unfinished_pos_of_get
    {system : System World} {queue : AsyncQueue (Option Bytes)}
    {item : Option Bytes}
    (accounted : Accounted system)
    (getting : system.writer = .getting)
    (gets : system.session.sendQueue.getNowait = some (item, queue)) :
    0 < queue.unfinished := by
  rw [(accounted.get getting gets).1]
  exact Nat.succ_pos _

theorem Accounted.unfinished_pos_of_writing
    {system : System World} {packet : Bytes}
    (accounted : Accounted system)
    (writing : system.writer = .writing packet) :
    0 < system.session.sendQueue.unfinished := by
  rw [accounted.unfinished, writing, Writer.inHand]
  omega

/-! ## No wait is for ever -/

/-- `stop` is called only after `start` has succeeded. -/
def StopAfterStart (system : System World) (event : Event) : Prop :=
  event = .stopCalled -> system.start = .returned

instance (system : System World) (event : Event) :
    Decidable (StopAfterStart system event) :=
  inferInstanceAs (Decidable (event = .stopCalled -> system.start = .returned))

/-- The sentinel is put when `stop` starts to await the writer, and stays in
the queue until the writer takes it. -/
def StopTask.Sentinel
    (stop : StopTask)
    (writer : Writer)
    (queue : AsyncQueue (Option Bytes)) : Prop :=
  match stop with
  | .notCalled | .stoppingNotify | .waiting _ _ => none ∉ queue.history
  | .awaitingWriter _ => writer.result ≠ none ∨ none ∈ queue.items
  | .cancellingJoin _ | .finished _ => True

/-- The wake-up conditions of `stop`. -/
structure Unblocked (system : System World) : Prop where
  alive : system.stop ≠ .notCalled -> system.writer ≠ .notStarted
  sentinel : system.stop.Sentinel system.writer system.session.sendQueue
  join : ∀ stopError, system.stop = .waiting stopError .waiting ->
    0 < system.session.sendQueue.unfinished

theorem unblocked_initial (world : World) :
    Unblocked (System.initial world) where
  alive := fun called => absurd rfl called
  sentinel := List.not_mem_nil
  join := fun _ impossible => nomatch impossible

theorem sentinel_wakeJoin
    {stop : StopTask} {writer : Writer} {queue : AsyncQueue (Option Bytes)} :
    stop.wakeJoin.Sentinel writer queue ↔ stop.Sentinel writer queue := by
  cases stop <;> exact Iff.rfl

theorem wakeJoin_ne_waiting (stop : StopTask) (stopError : Option Exn) :
    stop.wakeJoin ≠ .waiting stopError .waiting := by
  cases stop with
  | waiting other join => cases join <;> simp [StopTask.wakeJoin, JoinTask.wake]
  | _ => simp [StopTask.wakeJoin]

/-- Reporting a task done wakes a join that has nothing left to wait for. -/
theorem Unblocked.taskDone
    {system : System World} {next : Writer}
    (positive : 0 < system.session.sendQueue.unfinished)
    (sentinel : system.stop.Sentinel next system.session.sendQueue)
    (alive : next ≠ .notStarted) :
    Unblocked (system.taskDone next) := by
  rw [taskDone_eq positive]
  refine ⟨fun _ => alive, ?_, ?_⟩
  · dsimp only
    split
    · exact sentinel_wakeJoin.mpr sentinel
    · exact sentinel
  · intro stopError waiting
    dsimp only at waiting
    split at waiting
    case isTrue => exact absurd waiting (wakeJoin_ne_waiting _ stopError)
    case isFalse more => exact Nat.pos_of_ne_zero more

/-- Taking an item out keeps the sentinel unless it is the item taken. -/
theorem StopTask.Sentinel.get
    {stop : StopTask} {before next : Writer}
    {queue after : AsyncQueue (Option Bytes)} {item : Option Bytes}
    (sentinel : stop.Sentinel before queue)
    (alive : before.result = none)
    (gets : queue.getNowait = some (item, after))
    (ends : item = none -> next.result ≠ none) :
    stop.Sentinel next after := by
  obtain ⟨items_eq, _, history_eq⟩ := AsyncQueue.getNowait_eq_some gets
  cases stop with
  | notCalled | stoppingNotify | waiting =>
      change none ∉ after.history
      rw [history_eq]
      exact sentinel
  | awaitingWriter stopError =>
      rcases sentinel with ended | queued
      · exact absurd alive ended
      · rw [items_eq, List.mem_cons] at queued
        rcases queued with taken | later
        · exact Or.inl (ends taken.symm)
        · exact Or.inr later
  | cancellingJoin outcome => exact trivial
  | finished outcome => exact trivial

/-- A writer that has ended serves as well as a live one. -/
theorem StopTask.Sentinel.ends
    {stop : StopTask} {before next : Writer}
    {queue : AsyncQueue (Option Bytes)}
    (sentinel : stop.Sentinel before queue)
    (alive : before.result = none) :
    stop.Sentinel next queue := by
  cases stop with
  | awaitingWriter stopError =>
      rcases sentinel with ended | queued
      · exact absurd alive ended
      · exact Or.inr queued
  | _ => exact sentinel

/-- Packets put behind the queue are no sentinels. -/
theorem StopTask.Sentinel.putAll
    {stop : StopTask} {writer : Writer}
    {queue : AsyncQueue (Option Bytes)}
    (sentinel : stop.Sentinel writer queue)
    (packets : List Bytes) :
    stop.Sentinel writer (queue.putAll (packets.map some)) := by
  cases stop with
  | notCalled | stoppingNotify | waiting =>
      change none ∉ (queue.putAll (packets.map some)).history
      rw [AsyncQueue.history_putAll, List.mem_append, not_or]
      exact ⟨sentinel, by simp⟩
  | awaitingWriter stopError =>
      rcases sentinel with ended | queued
      · exact Or.inl ended
      · refine Or.inr ?_
        rw [AsyncQueue.items_putAll]
        exact List.mem_append_left _ queued
  | cancellingJoin outcome => exact trivial
  | finished outcome => exact trivial

/-- Every step keeps the wake-up conditions. -/
theorem Unblocked.step
    {before after : System World} {event : Event}
    (accounted : Accounted before)
    (unblocked : Unblocked before)
    (permitted : StopAfterStart before event)
    (transition : Transition before event after) :
    Unblocked after := by
  cases transition with
  | startCalled fresh =>
      have idle := accounted.started fresh
      have uncalled : before.stop = .notCalled := by
        by_contra called
        exact unblocked.alive called idle
      have sentinel := unblocked.sentinel
      rw [uncalled] at sentinel
      refine ⟨fun _ => by simp, ?_, unblocked.join⟩
      change before.stop.Sentinel .getting before.session.sendQueue
      rw [uncalled]
      exact sentinel
  | startEnds => exact ⟨unblocked.alive, unblocked.sentinel, unblocked.join⟩
  | put packets puts _ =>
      refine ⟨unblocked.alive, ?_, ?_⟩
      · simp only [puts]
        exact unblocked.sentinel.putAll packets
      · intro stopError waiting
        simp only [puts, AsyncQueue.unfinished_putAll]
        have positive := unblocked.join stopError waiting
        omega
  | takeSentinel getting gets =>
      have alive : before.writer.result = none := by rw [getting]; rfl
      exact Unblocked.taskDone (accounted.unfinished_pos_of_get getting gets)
        (unblocked.sentinel.get alive gets fun _ => by decide) (by decide)
  | sendRaises getting gets =>
      have alive : before.writer.result = none := by rw [getting]; rfl
      refine Unblocked.taskDone (accounted.unfinished_pos_of_get getting gets)
        ?_ (by simp)
      exact unblocked.sentinel.get alive gets fun impossible =>
        nomatch impossible
  | takePacket getting gets =>
      have alive : before.writer.result = none := by rw [getting]; rfl
      refine ⟨fun _ => by simp, ?_, ?_⟩
      · exact unblocked.sentinel.get alive gets fun impossible =>
          nomatch impossible
      · intro _ _
        exact accounted.unfinished_pos_of_get getting gets
  | writeReturns writing =>
      have alive : before.writer.result = none := by rw [writing]; rfl
      exact Unblocked.taskDone (accounted.unfinished_pos_of_writing writing)
        (unblocked.sentinel.ends alive) (by decide)
  | writeRaises writing =>
      have alive : before.writer.result = none := by rw [writing]; rfl
      exact Unblocked.taskDone (accounted.unfinished_pos_of_writing writing)
        (unblocked.sentinel.ends alive) (by simp)
  | stopCalled fresh =>
      have started := permitted rfl
      have sentinel := unblocked.sentinel
      rw [fresh] at sentinel
      refine ⟨?_, sentinel, fun _ impossible =>
        nomatch impossible⟩
      intro _ dead
      have unstarted := accounted.unstarted dead
      rw [started] at unstarted
      cases unstarted
  | stopNotifyReturns stopping | stopNotifyRaises stopping =>
      have alive := unblocked.alive (by rw [stopping]; decide)
      have sentinel := unblocked.sentinel
      rw [stopping] at sentinel
      refine ⟨fun _ => alive, ?_, ?_⟩
      · simp only [System.joinOrFinish, if_neg alive]
        exact sentinel
      · intro stopError waiting
        simp only [System.joinOrFinish, if_neg alive] at waiting
        cases waiting
  | stopNotifyBreaks stopping =>
      have alive := unblocked.alive (by rw [stopping]; decide)
      exact ⟨fun _ => alive, trivial, fun _ impossible => nomatch impossible⟩
  | joinStep waiting polls =>
      have alive := unblocked.alive (by rw [waiting]; simp)
      have sentinel := unblocked.sentinel
      rw [waiting] at sentinel
      refine ⟨fun _ => alive, sentinel, ?_⟩
      intro stopError polled_eq
      simp only [StopTask.waiting.injEq] at polled_eq
      rw [polled_eq.2] at polls
      exact JoinTask.pos_of_poll_waiting polls
  | wakeEnded waiting ended =>
      have alive := unblocked.alive (by rw [waiting]; simp)
      refine ⟨fun _ => alive, ?_, ?_⟩
      · dsimp only
        split <;> exact trivial
      · intro stopError impossible
        dsimp only at impossible
        split at impossible <;> cases impossible
  | wakeJoined waiting _ =>
      have alive := unblocked.alive (by rw [waiting]; simp)
      refine ⟨fun _ => alive, ?_, fun stopError impossible =>
        nomatch impossible⟩
      exact Or.inr (List.mem_append_right _ (List.mem_singleton_self _))
  | writerAwaited awaiting _ =>
      have alive := unblocked.alive (by rw [awaiting]; simp)
      exact ⟨fun _ => alive, trivial, fun _ impossible => nomatch impossible⟩
  | joinCancelled cancelling =>
      have alive := unblocked.alive (by rw [cancelling]; simp)
      exact ⟨fun _ => alive, trivial, fun _ impossible => nomatch impossible⟩

/-- The writer has something to do: a write to finish or an item to take. -/
def System.WriterBusy (system : System World) : Prop :=
  (∃ packet, system.writer = .writing packet) ∨
    system.writer = .getting ∧ system.session.sendQueue.items ≠ []

/-- A live writer with unfinished packets is busy. -/
theorem Accounted.writerBusy
    {system : System World}
    (accounted : Accounted system)
    (started : system.writer ≠ .notStarted)
    (alive : system.writer.result = none)
    (positive : 0 < system.session.sendQueue.unfinished) :
    system.WriterBusy := by
  have unfinished := accounted.unfinished
  cases writer : system.writer with
  | notStarted => exact absurd writer started
  | getting =>
      rw [unfinished, writer] at positive
      exact Or.inr ⟨writer, List.length_pos_iff.mp positive⟩
  | writing packet => exact Or.inl ⟨packet, writer⟩
  | returned => rw [writer] at alive; cases alive
  | failed exc => rw [writer] at alive; cases alive

/-- A busy writer has a step to take. -/
theorem System.WriterBusy.isSome
    {system : System World}
    (callbacks : Callbacks World)
    (busy : system.WriterBusy) :
    (system.step callbacks .writerGet).isSome ∨
      (system.step callbacks .writeReturns).isSome := by
  rcases busy with ⟨packet, writing⟩ | ⟨getting, waiting⟩
  · refine Or.inr ?_
    simp only [System.step, writing, Option.isSome_some]
  · refine Or.inl ?_
    have gets := AsyncQueue.getNowait_isSome_iff.mpr waiting
    rw [Option.isSome_iff_exists] at gets
    obtain ⟨⟨item, queue⟩, gets⟩ := gets
    simp only [System.step, System.writerGet, getting, gets]
    cases item with
    | none => rfl
    | some packet =>
        simp only
        split <;> rfl

theorem accounted_of_run
    {allowed : System World -> Event -> Prop}
    {world : World} {events : List Event} {final : System World}
    (run : Run (System.step callbacks) allowed (System.initial world) events
      final) :
    Accounted final :=
  run.invariant (accounted_initial world) fun _ _ _ accounted _ stepped =>
    accounted.step (transition_of_step stepped)

theorem unblocked_of_run
    {allowed : System World -> Event -> Prop}
    (guarded : ∀ before event, allowed before event ->
      StopAfterStart before event)
    {world : World} {events : List Event} {final : System World}
    (run : Run (System.step callbacks) allowed (System.initial world) events
      final) :
    Unblocked final := by
  induction run with
  | nil => exact unblocked_initial world
  | snoc run permitted stepped inductionHypothesis =>
      exact inductionHypothesis.step (accounted_of_run run)
        (guarded _ _ permitted) (transition_of_step stepped)

/-- While `stop` waits for the join, the wait is over or can end. -/
theorem Unblocked.joinable
    (callbacks : Callbacks World)
    {system : System World} {stopError : Option Exn} {join : JoinTask}
    (unblocked : Unblocked system)
    (accounted : Accounted system)
    (waiting : system.stop = .waiting stopError join) :
    join = .done ∨ system.writer.result.isSome ∨
      (system.session.sendQueue.unfinished = 0 ∧
        (system.step callbacks .joinStep).isSome) ∨
      system.WriterBusy := by
  cases result : system.writer.result with
  | some value => exact Or.inr (Or.inl rfl)
  | none =>
      rcases Nat.eq_zero_or_pos system.session.sendQueue.unfinished
        with empty | positive
      · have polls (more : join.poll 0 ≠ none) :
            (system.step callbacks .joinStep).isSome := by
          simp only [System.step, waiting, empty, Option.isSome_map]
          exact Option.isSome_iff_ne_none.mpr more
        cases join with
        | done => exact Or.inl rfl
        | waiting =>
            have more := unblocked.join stopError waiting
            omega
        | created => exact Or.inr (Or.inr (Or.inl ⟨empty, polls nofun⟩))
        | woken => exact Or.inr (Or.inr (Or.inl ⟨empty, polls nofun⟩))
      · have started := unblocked.alive (by rw [waiting]; simp)
        exact Or.inr (Or.inr (Or.inr
          (accounted.writerBusy started result positive)))

/-- Once the sentinel is queued, the writer has ended or gets to it. -/
theorem Unblocked.awaitable
    {system : System World} {stopError : Option Exn}
    (unblocked : Unblocked system)
    (accounted : Accounted system)
    (awaiting : system.stop = .awaitingWriter stopError) :
    system.writer.result.isSome ∨ system.WriterBusy := by
  have sentinel := unblocked.sentinel
  have started := unblocked.alive (by rw [awaiting]; simp)
  rw [awaiting] at sentinel
  cases result : system.writer.result with
  | some value => exact Or.inl rfl
  | none =>
      rcases sentinel with ended | queued
      · exact absurd result ended
      · refine Or.inr (accounted.writerBusy started result ?_)
        have nonempty := List.length_pos_of_mem queued
        rw [accounted.unfinished]
        omega

/-- A busy writer has a step to take. -/
theorem System.WriterBusy.exists_step
    {system : System World}
    (busy : system.WriterBusy)
    (callbacks : Callbacks World) :
    ∃ event ∈ [Event.joinStep, .stopStep, .writerGet, .writeReturns],
      (system.step callbacks event).isSome := by
  rcases busy.isSome callbacks with gets | writes
  · exact ⟨.writerGet, by simp, gets⟩
  · exact ⟨.writeReturns, by simp, writes⟩

/-- `stop` never waits for something that cannot happen.  Whenever it waits for
the join or the writer, the join is done, the writer has ended, nothing is
unfinished and the join task has its step to take, or the writer is busy; once
the sentinel is queued the writer has ended or is busy.  A join that is being
cancelled ends, and in each of these states one of these tasks has a step to
take. -/
theorem stop_never_deadlocks
    (callbacks : Callbacks World)
    {world : World} {events : List Event} {final : System World}
    (run : Run (System.step callbacks) StopAfterStart (System.initial world)
      events final) :
    (∀ stopError join, final.stop = .waiting stopError join ->
      (join = .done ∨ final.writer.result.isSome ∨
        (final.session.sendQueue.unfinished = 0 ∧
          (final.step callbacks .joinStep).isSome) ∨
        final.WriterBusy)) ∧
    (∀ stopError, final.stop = .awaitingWriter stopError ->
      final.writer.result.isSome ∨ final.WriterBusy) ∧
    ((∃ stopError join, final.stop = .waiting stopError join) ∨
        (∃ stopError, final.stop = .awaitingWriter stopError) ∨
        (∃ outcome, final.stop = .cancellingJoin outcome) ->
      ∃ event ∈ [Event.joinStep, .stopStep, .writerGet, .writeReturns],
        (final.step callbacks event).isSome) := by
  have accounted := accounted_of_run run
  have unblocked := unblocked_of_run (fun _ _ permitted => permitted) run
  refine ⟨fun _ _ waiting => unblocked.joinable callbacks accounted waiting,
    fun _ awaiting => unblocked.awaitable accounted awaiting, ?_⟩
  rintro (⟨stopError, join, waiting⟩ | ⟨stopError, awaiting⟩ |
    ⟨outcome, cancelling⟩)
  · rcases unblocked.joinable callbacks accounted waiting
      with rfl | ended | ⟨_, polls⟩ | busy
    · refine ⟨.stopStep, by simp, ?_⟩
      simp only [System.step, System.stopStep, waiting, if_true]
      split <;> rfl
    · refine ⟨.stopStep, by simp, ?_⟩
      obtain ⟨result, ended⟩ := Option.isSome_iff_exists.mp ended
      simp only [System.step, System.stopStep, waiting, ended,
        Option.isSome_some]
    · exact ⟨.joinStep, by simp, polls⟩
    · exact busy.exists_step callbacks
  · rcases unblocked.awaitable accounted awaiting with ended | busy
    · refine ⟨.stopStep, by simp, ?_⟩
      obtain ⟨result, ended⟩ := Option.isSome_iff_exists.mp ended
      simp only [System.step, System.stopStep, awaiting, ended,
        Option.map_some, Option.isSome_some]
    · exact busy.exists_step callbacks
  · refine ⟨.stopStep, by simp, ?_⟩
    simp only [System.step, System.stopStep, cancelling, Option.isSome_some]

/-- A write fails with a packet still queued while `stop` waits for the join. -/
theorem stop_never_deadlocks_failed_write :
    ∃ final : System Unit,
      Run (System.step {}) StopAfterStart (System.initial ())
        [ .startCalled, .startNotifyReturns, .queuePackets [[0x01], [0x02]],
          .writerGet, .stopCalled, .stopNotifyReturns, .joinStep,
          .writeRaises ⟨.osError, "Disconnected"⟩ ] final ∧
      final.stop = .waiting none .waiting ∧
      ∃ event ∈ [Event.joinStep, .stopStep, .writerGet, .writeReturns],
        (final.step {} event).isSome := by
  have run := Run.of_execute (System.step {}) StopAfterStart (System.initial ())
    [ .startCalled, .startNotifyReturns, .queuePackets [[0x01], [0x02]],
      .writerGet, .stopCalled, .stopNotifyReturns, .joinStep,
      .writeRaises ⟨.osError, "Disconnected"⟩ ] rfl
  exact ⟨_, run, rfl,
    (stop_never_deadlocks {} run).2.2 (Or.inl ⟨none, .waiting, rfl⟩)⟩

/-! ## A normal return means everything was written -/

/-- Nothing is put into the queue once `stop_notify` has succeeded. -/
def QuietAfterStop (system : System World) (event : Event) : Prop :=
  StopAfterStart system event ∧
    (event.enqueues -> system.stopNotify ≠ some (.ok ()))

instance (system : System World) (event : Event) :
    Decidable (QuietAfterStop system event) :=
  inferInstanceAs (Decidable (_ ∧
    (event.enqueues = true -> ¬system.stopNotify = some (.ok ()))))

/-- The outcome of `stop_notify` that `stop` carries along. -/
def StopTask.Notified
    (stop : StopTask)
    (stopNotify : Option (Except Exn Unit)) : Prop :=
  match stop with
  | .notCalled | .stoppingNotify => stopNotify = none
  | .waiting stopError _ | .awaitingWriter stopError =>
      stopNotify = some (stopOutcome stopError (.ok ()))
  | .cancellingJoin _ | .finished _ => True

/-- How far the queue has drained when `stop_notify` has succeeded. -/
structure Drained (system : System World) : Prop where
  notified : system.stop.Notified system.stopNotify
  joined : ∀ join, system.stop = .waiting none join ->
    join = .woken ∨ join = .done -> system.session.sendQueue.unfinished = 0
  awaiting : system.stop = .awaitingWriter none ->
    system.writer = .getting ∧ system.session.sendQueue.items = [none] ∨
      system.writer = .returned ∧ system.session.sendQueue.items = []
  cancelling : ∀ outcome, system.stop = .cancellingJoin outcome ->
    outcome ≠ .ok ()
  finished : system.stop = .finished (.ok ()) ->
    system.stopNotify = some (.ok ()) ∧ system.writer = .returned ∧
      system.session.sendQueue.items = []

theorem drained_initial (world : World) : Drained (System.initial world) where
  notified := rfl
  joined := fun _ impossible => nomatch impossible
  awaiting := fun impossible => nomatch impossible
  cancelling := fun _ impossible => nomatch impossible
  finished := fun impossible => nomatch impossible

/-- In these states `stop_notify` has succeeded. -/
theorem Drained.succeeded
    {system : System World}
    (drained : Drained system)
    (reached : (∃ join, system.stop = .waiting none join) ∨
      system.stop = .awaitingWriter none ∨
      system.stop = .finished (.ok ())) :
    system.stopNotify = some (.ok ()) := by
  have notified := drained.notified
  rcases reached with ⟨join, waiting⟩ | awaiting | finished
  · rw [waiting] at notified
    exact notified
  · rw [awaiting] at notified
    exact notified
  · exact (drained.finished finished).1

theorem notified_wakeJoin
    {stop : StopTask} {stopNotify : Option (Except Exn Unit)} :
    stop.wakeJoin.Notified stopNotify ↔ stop.Notified stopNotify := by
  cases stop <;> exact Iff.rfl

theorem eq_of_wakeJoin
    {stop other : StopTask}
    (notWaiting : ∀ stopError join, other ≠ .waiting stopError join)
    (woken : stop.wakeJoin = other) : stop = other := by
  cases stop with
  | waiting stopError join => exact absurd woken.symm (notWaiting _ _)
  | _ => exact woken

/-- A join that is over leaves nothing to take and nothing in hand. -/
theorem Accounted.idle
    {system : System World}
    (accounted : Accounted system)
    (empty : system.session.sendQueue.unfinished = 0) :
    system.session.sendQueue.items = [] ∧ system.writer.inHand = 0 := by
  have unfinished := accounted.unfinished
  rw [empty] at unfinished
  exact ⟨List.length_eq_zero_iff.mp (by omega), by omega⟩

/-- A live writer with nothing in hand is waiting for an item. -/
theorem Writer.eq_getting
    {writer : Writer}
    (started : writer ≠ .notStarted)
    (alive : writer.result = none)
    (empty : writer.inHand = 0) : writer = .getting := by
  cases writer with
  | notStarted => exact absurd rfl started
  | getting => rfl
  | writing packet => cases empty
  | returned => cases alive
  | failed exc => cases alive

/-- The writer does not return before the sentinel is queued. -/
theorem Unblocked.result_ne_ok
    {system : System World} {stopError : Option Exn} {join : JoinTask}
    {result : Except Exn Unit}
    (accounted : Accounted system)
    (unblocked : Unblocked system)
    (waiting : system.stop = .waiting stopError join)
    (ended : system.writer.result = some result) :
    ∃ exc, result = .error exc := by
  have sentinel := unblocked.sentinel
  rw [waiting] at sentinel
  obtain ⟨taken, took, history⟩ := accounted.history
  cases writer : system.writer with
  | returned =>
      rw [writer] at took
      refine absurd ?_ sentinel
      rw [history, show taken = [none] from took]
      simp
  | failed exc =>
      rw [writer] at ended
      cases ended
      exact ⟨exc, rfl⟩
  | notStarted => rw [writer] at ended; cases ended
  | getting => rw [writer] at ended; cases ended
  | writing packet => rw [writer] at ended; cases ended

theorem stopOutcome_eq_ok
    {stopError : Option Exn} {result : Except Exn Unit}
    (ok : stopOutcome stopError result = .ok ()) :
    stopError = none ∧ result = .ok () := by
  unfold stopOutcome at ok
  split at ok
  · cases ok
  · cases ok
  · exact ⟨rfl, rfl⟩

/-- Reporting a task done drains a queue whose join is still waiting. -/
theorem Drained.taskDone
    {system : System World} {next : Writer}
    (positive : 0 < system.session.sendQueue.unfinished)
    (notified : system.stop.Notified system.stopNotify)
    (joined : ∀ join, system.stop = .waiting none join ->
      ¬(join = .woken ∨ join = .done))
    (awaiting : system.stop = .awaitingWriter none ->
      next = .returned ∧ system.session.sendQueue.items = [])
    (cancelling : ∀ outcome, system.stop = .cancellingJoin outcome ->
      outcome ≠ .ok ())
    (unfinished : system.stop ≠ .finished (.ok ())) :
    Drained (system.taskDone next) := by
  rw [taskDone_eq positive]
  by_cases empty : system.session.sendQueue.unfinished - 1 = 0
  · simp only [if_pos empty]
    refine ⟨notified_wakeJoin.mpr notified, fun _ _ _ => empty,
      ?_, ?_, ?_⟩
    · intro woken
      exact Or.inr (awaiting (eq_of_wakeJoin (by simp) woken))
    · intro outcome woken
      exact cancelling outcome (eq_of_wakeJoin (by simp) woken)
    · intro woken
      exact absurd (eq_of_wakeJoin (by simp) woken) unfinished
  · simp only [if_neg empty]
    exact ⟨notified, fun join waiting settled => absurd settled (joined join waiting),
      fun reached => Or.inr (awaiting reached), cancelling,
      fun reached => absurd reached unfinished⟩

/-- While something is unfinished no join of a quiet queue is over. -/
theorem Drained.not_joined
    {system : System World}
    (drained : Drained system)
    (positive : 0 < system.session.sendQueue.unfinished)
    (join : JoinTask)
    (waiting : system.stop = .waiting none join) :
    ¬(join = .woken ∨ join = .done) := by
  intro settled
  have empty := drained.joined join waiting settled
  omega

theorem Accounted.positive_of_get
    {system : System World} {queue : AsyncQueue (Option Bytes)}
    {item : Option Bytes}
    (accounted : Accounted system)
    (gets : system.session.sendQueue.getNowait = some (item, queue)) :
    0 < system.session.sendQueue.unfinished := by
  rw [accounted.unfinished, (AsyncQueue.getNowait_eq_some gets).1,
    List.length_cons]
  omega

theorem Drained.unfinished_of_alive
    {system : System World}
    (drained : Drained system)
    (alive : system.writer.result = none) :
    system.stop ≠ .finished (.ok ()) := by
  intro finished
  rw [(drained.finished finished).2.1] at alive
  cases alive

/-- Under a quiet queue a packet is not taken while `stop` awaits the writer. -/
theorem Drained.not_awaiting
    {system : System World} {queue : AsyncQueue (Option Bytes)}
    {packet : Bytes}
    (drained : Drained system)
    (gets : system.session.sendQueue.getNowait = some (some packet, queue)) :
    system.stop ≠ .awaitingWriter none := by
  intro reached
  have items_eq := (AsyncQueue.getNowait_eq_some gets).1
  rcases drained.awaiting reached with ⟨_, items⟩ | ⟨_, items⟩
  · rw [items] at items_eq
    cases items_eq
  · rw [items] at items_eq
    cases items_eq

theorem Drained.not_awaiting_of_writing
    {system : System World} {packet : Bytes}
    (drained : Drained system)
    (writing : system.writer = .writing packet) :
    system.stop ≠ .awaitingWriter none := by
  intro reached
  rcases drained.awaiting reached with ⟨getting, _⟩ | ⟨returned, _⟩
  · rw [writing] at getting
    cases getting
  · rw [writing] at returned
    cases returned

/-- Every step keeps a quiet queue drained. -/
theorem Drained.step
    {before after : System World} {event : Event}
    (accounted : Accounted before)
    (unblocked : Unblocked before)
    (drained : Drained before)
    (permitted : QuietAfterStop before event)
    (transition : Transition before event after) :
    Drained after := by
  cases transition with
  | startCalled fresh =>
      have idle := accounted.started fresh
      have uncalled : before.stop = .notCalled := by
        by_contra called
        exact unblocked.alive called idle
      refine ⟨drained.notified, drained.joined, ?_,
        drained.cancelling, ?_⟩
      · intro reached
        exact nomatch uncalled.symm.trans reached
      · intro reached
        exact nomatch uncalled.symm.trans reached
  | startEnds =>
      exact ⟨drained.notified, drained.joined, drained.awaiting,
        drained.cancelling, drained.finished⟩
  | put packets puts silent =>
      have quiet (succeeded : before.stopNotify = some (.ok ())) :
          packets = [] := by
        apply silent
        by_contra enqueues
        exact permitted.2 (Bool.not_eq_false _ ▸ enqueues) succeeded
      refine ⟨drained.notified, ?_, ?_,
        drained.cancelling, ?_⟩
      · intro join waiting settled
        have none := quiet (drained.succeeded (Or.inl ⟨join, waiting⟩))
        simp only [puts, none, List.map_nil, AsyncQueue.putAll_nil]
        exact drained.joined join waiting settled
      · intro reached
        have none := quiet (drained.succeeded (Or.inr (Or.inl reached)))
        simp only [puts, none, List.map_nil, AsyncQueue.putAll_nil]
        exact drained.awaiting reached
      · intro reached
        have none := quiet (drained.succeeded (Or.inr (Or.inr reached)))
        simp only [puts, none, List.map_nil, AsyncQueue.putAll_nil]
        exact drained.finished reached
  | takeSentinel getting gets =>
      have alive : before.writer.result = none := by rw [getting]; rfl
      refine Drained.taskDone (accounted.unfinished_pos_of_get getting gets)
        drained.notified (drained.not_joined (accounted.positive_of_get gets))
        (fun reached => ⟨rfl, ?_⟩) drained.cancelling
        (drained.unfinished_of_alive alive)
      have items_eq := (AsyncQueue.getNowait_eq_some gets).1
      rcases drained.awaiting reached with ⟨_, items⟩ | ⟨returned, _⟩
      · rw [items] at items_eq
        exact (List.cons.inj items_eq).2.symm
      · rw [getting] at returned
        cases returned
  | sendRaises getting gets =>
      have alive : before.writer.result = none := by rw [getting]; rfl
      exact Drained.taskDone (accounted.unfinished_pos_of_get getting gets)
        drained.notified (drained.not_joined (accounted.positive_of_get gets))
        (fun reached => absurd reached (drained.not_awaiting gets))
        drained.cancelling (drained.unfinished_of_alive alive)
  | takePacket getting gets =>
      have alive : before.writer.result = none := by rw [getting]; rfl
      exact ⟨drained.notified,
        fun join waiting settled => absurd settled
          (drained.not_joined (accounted.positive_of_get gets) join waiting),
        fun reached => absurd reached (drained.not_awaiting gets),
        drained.cancelling,
        fun reached => absurd reached (drained.unfinished_of_alive alive)⟩
  | writeReturns writing =>
      have alive : before.writer.result = none := by rw [writing]; rfl
      have positive := accounted.unfinished_pos_of_writing writing
      exact Drained.taskDone positive drained.notified
        (drained.not_joined positive)
        (fun reached => absurd reached (drained.not_awaiting_of_writing writing))
        drained.cancelling (drained.unfinished_of_alive alive)
  | writeRaises writing =>
      have alive : before.writer.result = none := by rw [writing]; rfl
      have positive := accounted.unfinished_pos_of_writing writing
      exact Drained.taskDone positive drained.notified
        (drained.not_joined positive)
        (fun reached => absurd reached (drained.not_awaiting_of_writing writing))
        drained.cancelling (drained.unfinished_of_alive alive)
  | stopCalled fresh =>
      have notified := drained.notified
      rw [fresh] at notified
      exact ⟨notified, by simp, by simp, by simp, by simp⟩
  | stopNotifyReturns stopping | stopNotifyRaises stopping =>
      have alive := unblocked.alive (by rw [stopping]; decide)
      simp only [System.joinOrFinish, if_neg alive]
      refine ⟨rfl, ?_, by simp, by simp, by simp⟩
      intro join waiting settled
      simp only [StopTask.waiting.injEq] at waiting
      rw [← waiting.2] at settled
      rcases settled with impossible | impossible <;> cases impossible
  | stopNotifyBreaks stopping =>
      exact ⟨trivial, by simp, by simp, by simp, by simp⟩
  | joinStep waiting polls =>
      have notified := drained.notified
      rw [waiting] at notified
      refine ⟨notified, ?_, by simp, by simp,
        by simp⟩
      intro join polled_eq settled
      simp only [StopTask.waiting.injEq] at polled_eq
      obtain ⟨rfl, rfl⟩ := polled_eq
      rcases JoinTask.poll_eq_some polls with rfl | ⟨_, empty | rfl⟩
      · rcases settled with impossible | impossible <;> cases impossible
      · exact empty
      · exact drained.joined .woken waiting (Or.inl rfl)
  | wakeEnded waiting ended =>
      obtain ⟨exc, rfl⟩ := unblocked.result_ne_ok accounted waiting ended
      simp only [stopOutcome]
      split
      · exact ⟨trivial, by simp, by simp, by simp, by simp⟩
      · refine ⟨trivial, by simp, by simp, ?_, by simp⟩
        intro outcome reached
        cases reached
        simp
  | wakeJoined waiting alive =>
      have started := unblocked.alive (by rw [waiting]; simp)
      have notified := drained.notified
      rw [waiting] at notified
      refine ⟨notified, by simp, ?_, by simp, by simp⟩
      intro reached
      simp only [StopTask.awaitingWriter.injEq] at reached
      subst reached
      obtain ⟨items, empty⟩ := accounted.idle
        (drained.joined .done waiting (Or.inr rfl))
      refine Or.inl ⟨Writer.eq_getting started alive empty, ?_⟩
      change before.session.sendQueue.items ++ [none] = [none]
      rw [items, List.nil_append]
  | writerAwaited awaiting ended =>
      refine ⟨trivial, by simp, by simp, by simp, ?_⟩
      intro reached
      simp only [StopTask.finished.injEq] at reached
      obtain ⟨rfl, rfl⟩ := stopOutcome_eq_ok reached
      refine ⟨drained.succeeded (Or.inr (Or.inl awaiting)), ?_⟩
      rcases drained.awaiting awaiting with ⟨getting, _⟩ | returned
      · rw [getting] at ended
        cases ended
      · exact returned
  | joinCancelled cancelling =>
      refine ⟨trivial, by simp, by simp, by simp, ?_⟩
      intro reached
      simp only [StopTask.finished.injEq] at reached
      exact absurd reached (drained.cancelling _ cancelling)

theorem drained_of_run
    {world : World} {events : List Event} {final : System World}
    (run : Run (System.step callbacks) QuietAfterStop (System.initial world)
      events final) :
    Drained final := by
  induction run with
  | nil => exact drained_initial world
  | snoc run permitted stepped inductionHypothesis =>
      exact inductionHypothesis.step (accounted_of_run run)
        (unblocked_of_run (fun _ _ quiet => quiet.1) run) permitted
        (transition_of_step stepped)

theorem filterMap_id_map_some (packets : List Bytes) :
    (packets.map some).filterMap id = packets := by
  rw [List.filterMap_map]
  exact List.filterMap_some

/-- Writes happen in order and once: what was written is a prefix of what was
put.  A normal return of `stop` means that `stop_notify` succeeded and that
everything was written, and after a failed `on_send` or write `stop` raises. -/
theorem stop_flushes_or_raises
    (callbacks : Callbacks World)
    {world : World} {events : List Event} {final : System World}
    (run : Run (System.step callbacks) QuietAfterStop (System.initial world)
      events final) :
    final.written <+: final.packets ∧
    (final.stop = .finished (.ok ()) ->
      final.stopNotify = some (.ok ()) ∧ final.written = final.packets) ∧
    (final.failures ≠ [] -> ∀ outcome, final.stop = .finished outcome ->
      ∃ exc, outcome = .error exc) := by
  have accounted := accounted_of_run run
  have drained := drained_of_run run
  obtain ⟨taken, took, history⟩ := accounted.history
  have packets_eq : final.packets = final.written ++
      (taken ++ final.session.sendQueue.items).filterMap id := by
    rw [System.packets, history, List.append_assoc, List.filterMap_append,
      filterMap_id_map_some]
  refine ⟨?_, ?_, ?_⟩
  · rw [packets_eq]
    exact List.prefix_append _ _
  · intro finished
    obtain ⟨succeeded, returned, items⟩ := drained.finished finished
    rw [returned] at took
    refine ⟨succeeded, ?_⟩
    rw [packets_eq, items, show taken = [none] from took]
    simp
  · intro failed outcome finished
    cases outcome with
    | error exc => exact ⟨exc, rfl⟩
    | ok value =>
        refine absurd ?_ failed
        rw [accounted.failures, (drained.finished finished).2.1]
        rfl

/-- Two packets are flushed while `stop` waits. -/
theorem stop_flushes_or_raises_two_packets :
    ∃ final : System Unit,
      Run (System.step {}) QuietAfterStop (System.initial ())
        [ .startCalled, .startNotifyReturns, .queuePackets [[0x01], [0x02]],
          .writerGet, .stopCalled, .stopNotifyReturns, .joinStep,
          .writeReturns, .writerGet, .writeReturns, .joinStep, .stopStep,
          .writerGet, .stopStep ] final ∧
      final.stop = .finished (.ok ()) ∧
      final.packets = [[0x01], [0x02]] ∧
      final.stopNotify = some (.ok ()) ∧ final.written = final.packets := by
  have run := Run.of_execute (System.step {}) QuietAfterStop (System.initial ())
    [ .startCalled, .startNotifyReturns, .queuePackets [[0x01], [0x02]],
      .writerGet, .stopCalled, .stopNotifyReturns, .joinStep, .writeReturns,
      .writerGet, .writeReturns, .joinStep, .stopStep, .writerGet,
      .stopStep ] rfl
  exact ⟨_, run, rfl, rfl, (stop_flushes_or_raises {} run).2.1 rfl⟩

end Live
end BoschBle
