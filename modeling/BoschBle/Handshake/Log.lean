import BoschBle.Foundation.Repr
import BoschBle.Foundation.Regex
import BoschBle.Common.Address
import BoschBle.Handshake.StartupResponse
import BoschBle.Live.PacketSummary

/-!
# The log of a handshake

`handshake.py` writes a line with a time stamp in each callback of its session.  What a
session writes is one entry after the other, in the order of its events.
-/

namespace BoschBle
namespace Handshake

open Foundation Common Mcsp MessageBus Live

/-! ## Time stamps -/

/-- What the clock shows, in whole seconds. -/
structure DateTime where
  year : Nat
  month : Nat
  day : Nat
  hour : Nat
  minute : Nat
  second : Nat

/-- Decimal digits with zeros in front. -/
def padded (width value : Nat) : Text :=
  List.replicate (width - (Nat.toDigits 10 value).length) '0' ++ Nat.toDigits 10 value

/-- `isoformat` with seconds. -/
def DateTime.isoformat (time : DateTime) : Text :=
  padded 4 time.year ++ "-".toList ++ padded 2 time.month ++ "-".toList ++
    padded 2 time.day ++ "T".toList ++ padded 2 time.hour ++ ":".toList ++
      padded 2 time.minute ++ ":".toList ++ padded 2 time.second

/-! ## Entries -/

/-- What a line tells behind its time stamp. -/
inductive Entry
  | connected (address : Text)
  | notify (sender : String) (payload : Bytes)
  | notifyDecoded (payload : Bytes)
  | frame (frame : Frame)
  | recv (command : Command)
  | message (decoded : MessageFrame)
  | decodeFailed (exc : Exn)
  | send (packet : Bytes)

/-- `str` of a truth value. -/
def boolText (value : Bool) : Text :=
  if value then "True".toList else "False".toList

/-- The line of an entry behind its time stamp. -/
def Entry.text : Entry -> Text
  | .connected address => "CONNECTED ".toList ++ address
  | .notify sender payload =>
      "NOTIFY sender=".toList ++ (sender.toList ++ " hex=".toList ++
        (Bytes.hex payload).toList ++ " raw=".toList ++ Repr.ofBytes payload)
  | .notifyDecoded payload => "NOTIFY-DECODED ".toList ++ summarizePacket payload
  | .frame received =>
      "FRAME channel=".toList ++ received.channel.name.toList ++ " end=".toList ++
        boolText received.endOfChannel ++ " hex=".toList ++ (Bytes.hex received.payload).toList
  | .recv command => "RECV command=".toList ++ commandRepr command
  | .message decoded => "MESSAGE ".toList ++ (formatMessageFrame decoded).toList
  | .decodeFailed exc => "DECODE_FAILED error=".toList ++ exc.message.toList
  | .send packet => "SEND hex=".toList ++ (Bytes.hex packet).toList

/-- The line of an entry. -/
def Entry.line (time : DateTime) (entry : Entry) : Text :=
  time.isoformat ++ " ".toList ++ entry.text

/-- The log file, and how often the clock has been read. -/
structure LogFile where
  written : Text := []
  readings : Nat := 0

section Clock

variable (now : Nat -> DateTime)

/-- Append the line of an entry. -/
def LogFile.append (file : LogFile) (entry : Entry) : LogFile where
  written := file.written ++ (entry.line (now file.readings) ++ "\n".toList)
  readings := file.readings + 1

/-- `emit` of a line with a time stamp. -/
def emit (entry : Entry) : Effect LogFile Unit :=
  Effect.modify fun file => file.append now entry

/-- `log_notify`. -/
def logNotify (sender : String) (payload : Bytes) : Effect LogFile Unit := do
  emit now (.notify sender payload)
  emit now (.notifyDecoded payload)

/-- The callbacks of the session that `main` runs. -/
def sessionCallbacks : Callbacks LogFile where
  startupResponder := some fun frame decoded => buildStartupResponsePackets frame (some decoded)
  onNotify := some fun sender payload => logNotify now sender payload
  onFrame := some fun frame => emit now (.frame frame)
  onCommand := some fun command => emit now (.recv command)
  onMessage := some fun _ decoded => emit now (.message decoded)
  onDecodeError := some fun _ exc => emit now (.decodeFailed exc)
  onSend := some fun packet => emit now (.send packet)

/-- What happens to a session. -/
inductive SessionEvent
  | notified (notification : Notification)
  | sent (packet : Bytes)

/-- What a session does at an event as far as its callbacks see it. -/
def handleEvent : SessionEvent -> Effect (Env LogFile) Unit
  | .notified notification => notifyHandler (sessionCallbacks now) notification
  | .sent packet =>
      whenSet (sessionCallbacks now).onSend fun onSend => onSend packet

/-- The log behind the first line. -/
def logSession (address : Text) (events : List SessionEvent) : Effect (Env LogFile) Unit := do
  Effect.zoom Env.world (fun world env => { env with world := world })
    (emit now (.connected address))
  Effect.forEach events (handleEvent now)

/-- The log of a session from its start. -/
def logText (address : Text) (events : List SessionEvent) : Text :=
  (logSession now address events ⟨{}, {}⟩).2.world.written

/-! ## The entries of events -/

/-- What is logged of a frame. -/
def entriesOfFrame (frame : Frame) : List Entry :=
  .frame frame ::
    if frame.channel = .command then
      match decodeCommandFrame frame with
      | .ok command => [.recv command]
      | .error exc => [.decodeFailed exc]
    else
      match decodeMessageFrame frame.payload with
      | .ok decoded => [.message decoded]
      | .error exc => [.decodeFailed exc]

/-- What is logged of an event. -/
def entriesOf : SessionEvent -> List Entry
  | .notified notification =>
      .notify notification.sender notification.data :: .notifyDecoded notification.data ::
        match splitFrames notification.data with
        | .ok frames => frames.flatMap entriesOfFrame
        | .error exc => [.decodeFailed exc]
  | .sent packet => [.send packet]

/-- The file behind entries. -/
def LogFile.appendAll (file : LogFile) (entries : List Entry) : LogFile :=
  entries.foldl (LogFile.append now) file

/-- The computation returns and writes the entries. -/
def Logs (computation : Effect (Env LogFile) Unit) (entries : List Entry) : Prop :=
  ∀ before, ∃ after, computation before = (.ok (), after) ∧
    after.world = before.world.appendAll now entries

namespace Logs

variable {now}

theorem pure : Logs now (Pure.pure ()) [] := by
  intro before
  exact ⟨before, rfl, rfl⟩

theorem bind
    {first : Effect (Env LogFile) Unit} {next : Unit -> Effect (Env LogFile) Unit}
    {before after : List Entry}
    (firstLogs : Logs now first before)
    (nextLogs : Logs now (next ()) after) :
    Logs now (first >>= next) (before ++ after) := by
  intro start
  obtain ⟨middle, firstRuns, middle_eq⟩ := firstLogs start
  obtain ⟨stop, nextRuns, stop_eq⟩ := nextLogs middle
  refine ⟨stop, ?_, ?_⟩
  · exact Effect.returns_bind.mpr ⟨(), middle, firstRuns, nextRuns⟩
  · rw [stop_eq, middle_eq, LogFile.appendAll, LogFile.appendAll, LogFile.appendAll,
      List.foldl_append]

theorem forEach
    {items : List ι} {body : ι -> Effect (Env LogFile) Unit} {entries : ι -> List Entry}
    (bodyLogs : ∀ item ∈ items, Logs now (body item) (entries item)) :
    Logs now (Effect.forEach items body) (items.flatMap entries) := by
  induction items with
  | nil => exact pure
  | cons item items inductionHypothesis =>
      rw [List.forall_mem_cons] at bodyLogs
      rw [List.flatMap_cons]
      exact bind bodyLogs.1 (inductionHypothesis bodyLogs.2)

theorem onSession (update : McspLiveSession -> McspLiveSession) :
    Logs now (Live.onSession update) [] := by
  intro before
  exact ⟨_, rfl, rfl⟩

theorem emit (entry : Entry) :
    Logs now (whenSet (some ()) fun _ => Handshake.emit now entry) [entry] := by
  intro before
  exact ⟨_, rfl, rfl⟩

end Logs

variable {now}

/-- A frame is logged, and what it carries. -/
theorem handleFrame_logs (frame : Frame) :
    Logs now (handleFrame (sessionCallbacks now) frame) (entriesOfFrame frame) := by
  rw [handleFrame, entriesOfFrame]
  by_cases isCommand : frame.channel = .command
  · rw [if_pos isCommand, if_pos isCommand]
    refine Logs.bind (Logs.emit (.frame frame)) ?_
    cases decodeCommandFrame frame with
    | error exc => exact Logs.emit (.decodeFailed exc)
    | ok command => exact Logs.bind (Logs.onSession _) (Logs.emit (.recv command))
  · rw [if_neg isCommand, if_neg isCommand]
    refine Logs.bind (Logs.emit (.frame frame)) ?_
    cases decodes : decodeMessageFrame frame.payload with
    | error exc => exact Logs.emit (.decodeFailed exc)
    | ok decoded =>
        obtain ⟨packets, answers⟩ := exists_buildStartupResponsePackets isCommand decodes
        refine Logs.bind (Logs.emit (.message decoded)) ?_
        change Logs now (Effect.lift (buildStartupResponsePackets frame (some decoded)) >>=
          fun packets => Live.onSession fun session => session.acceptPackets packets) []
        rw [answers, Effect.lift_ok_bind]
        exact Logs.onSession _

theorem handleEvent_logs (event : SessionEvent) :
    Logs now (handleEvent now event) (entriesOf event) := by
  cases event with
  | sent packet => exact Logs.emit (.send packet)
  | notified notification =>
      have notifyLogs : Logs now (whenSet (sessionCallbacks now).onNotify fun onNotify =>
          onNotify notification.sender notification.data)
          [.notify notification.sender notification.data, .notifyDecoded notification.data] := by
        intro before
        exact ⟨_, rfl, rfl⟩
      rw [handleEvent, notifyHandler, entriesOf]
      refine Logs.bind notifyLogs ?_
      cases splitFrames notification.data with
      | error exc => exact Logs.emit (.decodeFailed exc)
      | ok frames =>
          have framesLog := Logs.forEach fun frame (_ : frame ∈ frames) =>
            @handleFrame_logs now frame
          have bothLog : Logs now (Effect.forEach frames (handleFrame (sessionCallbacks now)) >>=
              fun _ => Live.onSession McspLiveSession.checkHandshake)
              (frames.flatMap entriesOfFrame ++ []) :=
            Logs.bind framesLog (Logs.onSession _)
          rwa [List.append_nil] at bothLog

/-- The lines of entries from a reading of the clock on. -/
def linesFrom (now : Nat -> DateTime) (readings : Nat) : List Entry -> List Text
  | [] => []
  | entry :: entries => entry.line (now readings) :: linesFrom now (readings + 1) entries

theorem written_appendAll (file : LogFile) (entries : List Entry) :
    (file.appendAll now entries).written =
      file.written ++ Regex.unlines (linesFrom now file.readings entries) := by
  induction entries generalizing file with
  | nil => exact (List.append_nil _).symm
  | cons entry entries inductionHypothesis =>
      have written_eq := inductionHypothesis (file.append now entry)
      have unlines_eq : Regex.unlines (linesFrom now file.readings (entry :: entries)) =
          entry.line (now file.readings) ++ "\n".toList ++
            Regex.unlines (linesFrom now (file.readings + 1) entries) := by
        rfl
      rw [LogFile.appendAll] at written_eq ⊢
      rw [List.foldl_cons, written_eq, unlines_eq]
      simp only [LogFile.append, List.append_assoc]

end Clock

/-- The first line and the entries of the events. -/
def entries (address : Text) (events : List SessionEvent) : List Entry :=
  .connected address :: events.flatMap entriesOf

/-- The log of a session is the lines of its entries. -/
theorem logText_eq (now : Nat -> DateTime) (address : Text) (events : List SessionEvent) :
    logText now address events = Regex.unlines (linesFrom now 0 (entries address events)) := by
  have firstLogs : Logs now (Effect.zoom Env.world (fun world env => { env with world := world })
      (emit now (.connected address))) [.connected address] := by
    intro before
    exact ⟨_, rfl, rfl⟩
  have logs : Logs now (logSession now address events) (entries address events) :=
    firstLogs.bind (Logs.forEach fun event _ => handleEvent_logs event)
  obtain ⟨after, runs, world_eq⟩ := logs ⟨{}, {}⟩
  rw [logText, runs]
  dsimp only
  rw [world_eq, written_appendAll]
  exact List.nil_append _

end Handshake
end BoschBle
