import BoschBle.Foundation.StreamPieces
import BoschBle.Live.Session

/-!
# Frames across notifications

The notification handler keeps nothing of a notification that does not split
into frames.  This module records what is delivered to `on_frame` when a packet
stream arrives in pieces: every frame is delivered exactly when no frame is cut.
-/

namespace BoschBle
namespace Live

open Foundation Mcsp MessageBus

variable {World : Type}

/-- Run a callback on the world beside a log of frames. -/
def onWorld
    (computation : Effect World Unit) : Effect (World × List Frame) Unit :=
  Effect.zoom Prod.fst (fun world state => (world, state.2)) computation

/-- The callbacks of a session, with a log of the frames given to `on_frame`. -/
def recordFrames (callbacks : Callbacks World) :
    Callbacks (World × List Frame) where
  startupResponder := callbacks.startupResponder
  onNotify := callbacks.onNotify.map fun onNotify sender data =>
    onWorld (onNotify sender data)
  onFrame := some fun frame => do
    Effect.modify fun state => (state.1, state.2 ++ [frame])
    match callbacks.onFrame with
    | none => pure ()
    | some onFrame => onWorld (onFrame frame)
  onCommand := callbacks.onCommand.map fun onCommand command =>
    onWorld (onCommand command)
  onMessage := callbacks.onMessage.map fun onMessage frame decoded =>
    onWorld (onMessage frame decoded)
  onDecodeError := callbacks.onDecodeError.map fun onDecodeError item exc =>
    onWorld (onDecodeError item exc)
  onSend := callbacks.onSend.map fun onSend packet => onWorld (onSend packet)

/-- Deliver notifications one after the other; the client library keeps calling
the handler whether or not it has raised. -/
def feed
    (callbacks : Callbacks World)
    (before : Env World)
    (notifications : List Notification) : Env World :=
  notifications.foldl
    (fun env notification => (notifyHandler callbacks notification env).2) before

/-- The frames given to `on_frame` while notifications are delivered. -/
def delivered
    (callbacks : Callbacks World)
    (session : McspLiveSession)
    (world : World)
    (notifications : List Notification) : List Frame :=
  (feed (recordFrames callbacks) ⟨session, (world, [])⟩ notifications).world.2

/-! ## What the log records -/

/-- The log grows by the given frames. -/
def Logs (frames : List Frame) (before after : Env (World × List Frame)) : Prop :=
  after.world.2 = before.world.2 ++ frames

theorem Logs.refl (env : Env (World × List Frame)) : Logs [] env env :=
  (List.append_nil env.world.2).symm

theorem Logs.trans
    {first second : List Frame}
    (before middle after : Env (World × List Frame))
    (firstLogs : Logs first before middle)
    (secondLogs : Logs second middle after) :
    Logs (first ++ second) before after := by
  rw [Logs, secondLogs, firstLogs, List.append_assoc]

/-- A callback that runs beside the log adds nothing to it. -/
theorem whenSet_logs_nil
    {original : Option δ} {lift : δ -> γ}
    {call : γ -> Effect (World × List Frame) Unit}
    (beside : ∀ set, ∃ computation, call (lift set) = onWorld computation) :
    Effect.Keeps (Logs []) (whenSet (original.map lift) call) := by
  intro before
  cases original with
  | none => exact Logs.refl before
  | some set =>
      obtain ⟨computation, call_eq⟩ := beside set
      change _ = before.world.2 ++ []
      rw [List.append_nil, Option.map_some, whenSet, call_eq]
      rfl

theorem onSession_logs_nil (update : McspLiveSession -> McspLiveSession) :
    Effect.Keeps (@Logs World []) (onSession update) :=
  Effect.Keeps.modify fun env => Logs.refl env

variable (callbacks : Callbacks World)

/-- Calling `on_frame` logs the frame, whether or not the callback returns. -/
theorem onFrame_logs (frame : Frame) :
    Effect.Keeps (Logs [frame])
      (whenSet (recordFrames callbacks).onFrame fun onFrame => onFrame frame) := by
  intro before
  cases set : callbacks.onFrame with
  | none => simp [whenSet, recordFrames, set]; rfl
  | some onFrame => simp [whenSet, recordFrames, set]; rfl

/-- Whether or not its callbacks return, a frame is logged once. -/
theorem handleFrame_logs (frame : Frame) :
    Effect.Keeps (Logs [frame])
      (handleFrame (recordFrames callbacks) frame) := by
  have absorbs (before middle after : Env (World × List Frame))
      (first : Logs [frame] before middle)
      (second : Logs [] middle after) : Logs [frame] before after :=
    Logs.trans before middle after first second
  have transitive (before middle after : Env (World × List Frame))
      (first : Logs [] before middle)
      (second : Logs [] middle after) : Logs [] before after :=
    Logs.trans before middle after first second
  unfold handleFrame
  apply Effect.Keeps.bind_absorb absorbs (onFrame_logs callbacks frame)
  intro _
  split
  · split
    · exact whenSet_logs_nil fun _ => ⟨_, rfl⟩
    · apply Effect.Keeps.bind transitive (onSession_logs_nil _)
      intro _
      exact whenSet_logs_nil fun _ => ⟨_, rfl⟩
  · split
    · exact whenSet_logs_nil fun _ => ⟨_, rfl⟩
    · refine Effect.Keeps.bind transitive ?_ ?_
      · exact whenSet_logs_nil fun _ => ⟨_, rfl⟩
      · intro _
        split
        · exact Effect.Keeps.pure Logs.refl ()
        · apply Effect.Keeps.bind transitive (Effect.Keeps.lift Logs.refl _)
          intro packets
          exact onSession_logs_nil _

/-- A relation that holds whatever the outcome holds when the call returns. -/
theorem logs_of_returns
    {frames : List Frame} {computation : Effect (Env (World × List Frame)) α}
    {before after : Env (World × List Frame)} {value : α}
    (keeps : Effect.Keeps (Logs frames) computation)
    (returns : Effect.Returns computation before value after) :
    Logs frames before after := by
  have logged := keeps before
  rw [Effect.Returns] at returns
  rw [returns] at logged
  exact logged

/-- A notification whose callbacks return has its frames logged; a notification
that does not split into frames has none. -/
theorem notifyHandler_logs
    {notification : Notification} {before after : Env (World × List Frame)}
    (returns : Effect.Returns
      (notifyHandler (recordFrames callbacks) notification) before () after) :
    Logs (framesOf notification) before after := by
  rw [notifyHandler, Effect.returns_bind] at returns
  obtain ⟨_, seen, called, rest⟩ := returns
  have seenLogs : Logs [] before seen := by
    apply logs_of_returns ?_ called
    exact whenSet_logs_nil fun _ => ⟨_, rfl⟩
  rw [← List.nil_append (framesOf notification)]
  apply Logs.trans before seen after seenLogs
  unfold framesOf
  cases splits : splitFrames notification.data with
  | error exc =>
      rw [splits] at rest
      apply logs_of_returns ?_ rest
      exact whenSet_logs_nil fun _ => ⟨_, rfl⟩
  | ok frames =>
      rw [splits] at rest
      simp only [Effect.returns_bind] at rest
      obtain ⟨_, handled, handles, checks⟩ := rest
      have checkLogs := logs_of_returns (onSession_logs_nil _) checks
      have handledLogs : handled.world.2 =
          frames.foldl (fun log frame => log ++ [frame]) seen.world.2 := by
        refine Effect.Returns.forEach_foldl (fun env => env.world.2) ?_ handles
        intro frame _ before after returns
        exact logs_of_returns (handleFrame_logs callbacks frame) returns
      rw [List.foldl_append_eq_append, ← List.flatMap_def,
        List.flatMap_singleton'] at handledLogs
      have allLogs := Logs.trans seen handled after handledLogs checkLogs
      rwa [List.append_nil] at allLogs

/-! ## Callbacks that return beside the log -/

variable {callbacks}

theorem onWorld_neverRaises
    {computation : Effect World Unit}
    (returns : computation.NeverRaises) :
    (onWorld computation).NeverRaises :=
  Effect.NeverRaises.zoom returns

/-- Logging does not make a callback raise. -/
theorem recordFrames_returnOn
    {notification : Notification}
    (returns : callbacks.ReturnOn notification) :
    (recordFrames callbacks).ReturnOn notification where
  onNotify := by
    intro set present
    obtain ⟨original, isSet, rfl⟩ := Option.mem_map.mp present
    exact onWorld_neverRaises (returns.onNotify original isSet)
  onDecodeError := by
    intro exc fails set present
    obtain ⟨original, isSet, rfl⟩ := Option.mem_map.mp present
    exact onWorld_neverRaises (returns.onDecodeError exc fails original isSet)
  onFrames := by
    intro frame present
    have frameReturns := returns.onFrames frame present
    constructor
    · intro set isSet
      obtain rfl := Option.some.inj isSet
      apply Effect.NeverRaises.bind (Effect.NeverRaises.modify _)
      intro _
      cases original : callbacks.onFrame with
      | none => exact Effect.NeverRaises.pure ()
      | some onFrame =>
          exact onWorld_neverRaises (frameReturns.onFrame onFrame original)
    · intro command decodes set isSet
      obtain ⟨original, originalSet, rfl⟩ := Option.mem_map.mp isSet
      exact onWorld_neverRaises
        (frameReturns.onCommand command decodes original originalSet)
    · intro decoded decodes set isSet
      obtain ⟨original, originalSet, rfl⟩ := Option.mem_map.mp isSet
      exact onWorld_neverRaises
        (frameReturns.onMessage decoded decodes original originalSet)
    · exact frameReturns.startupResponder
    · intro noCommand noMessage set isSet exc
      obtain ⟨original, originalSet, rfl⟩ := Option.mem_map.mp isSet
      exact onWorld_neverRaises
        (frameReturns.onDecodeError noCommand noMessage original originalSet exc)

/-- The log of a sequence of notifications holds the frames of each. -/
theorem feed_logs
    {notifications : List Notification}
    (returns : ∀ notification ∈ notifications, callbacks.ReturnOn notification)
    (before : Env (World × List Frame)) :
    Logs (notifications.flatMap framesOf) before
      (feed (recordFrames callbacks) before notifications) := by
  induction notifications generalizing before with
  | nil => exact Logs.refl before
  | cons notification rest inductionHypothesis =>
      rw [List.forall_mem_cons] at returns
      obtain ⟨value, middle, handles⟩ :=
        notifyHandler_neverRaises (recordFrames_returnOn returns.1) before
      have first := notifyHandler_logs callbacks handles
      have fed : feed (recordFrames callbacks) before (notification :: rest) =
          feed (recordFrames callbacks) middle rest := by
        rw [feed, List.foldl_cons, handles]
        rfl
      rw [fed, List.flatMap_cons]
      exact Logs.trans before middle _ first (inductionHypothesis returns.2 middle)

/-- What is delivered is what each notification splits into by itself. -/
theorem delivered_eq
    {notifications : List Notification}
    (returns : ∀ notification ∈ notifications, callbacks.ReturnOn notification)
    (session : McspLiveSession)
    (world : World) :
    delivered callbacks session world notifications =
      (notifications.map Notification.data).flatMap frameFormat.recordsOf := by
  have logged := feed_logs returns ⟨session, (world, [])⟩
  rw [delivered, logged, List.nil_append, List.flatMap_map]
  congr 1
  funext notification
  rw [framesOf, RecordFormat.recordsOf, splitFrames_eq_decodeAll]

/-- Frames that arrive in pieces are delivered exactly when every cut falls
between two frames: a frame that a cut goes through is lost. -/
theorem delivered_eq_frames_iff
    (callbacks : Callbacks World)
    (session : McspLiveSession)
    (world : World)
    (frames : List Frame)
    (packets : List Bytes)
    (notifications : List Notification)
    (encodes : frames.mapM encodeFrame = .ok packets)
    (pieces : (notifications.map Notification.data).flatten = packets.flatten)
    (nonempty : ∀ notification ∈ notifications, notification.data ≠ [])
    (returns : ∀ notification ∈ notifications, callbacks.ReturnOn notification) :
    delivered callbacks session world notifications = frames ↔
      ∀ count, ∃ complete,
        ((notifications.take count).map Notification.data).flatten =
          (packets.take complete).flatten := by
  obtain ⟨fits, flatten_eq⟩ := mapM_encodeFrame_eq_ok encodes
  have packets_eq : packets = frames.map frameBytes := by
    rw [mapM_encodeFrame_of_le fits] at encodes
    exact (Except.ok.inj encodes).symm
  have nonemptyPieces :
      ∀ piece ∈ notifications.map Notification.data, piece ≠ [] := by
    intro piece present
    obtain ⟨notification, isPresent, rfl⟩ := List.mem_map.mp present
    exact nonempty notification isPresent
  have stream : (notifications.map Notification.data).flatten =
      frameFormat.encodeAll frames := pieces.trans flatten_eq
  have cuts : frameFormat.CutBetween (notifications.map Notification.data)
        frames ↔
      ∀ count, ∃ complete,
        ((notifications.take count).map Notification.data).flatten =
          (packets.take complete).flatten := by
    unfold RecordFormat.CutBetween RecordFormat.encodeAll
    simp only [List.map_take, packets_eq, List.flatMap_def]
    rfl
  rw [delivered_eq returns,
    frameFormat.flatMap_recordsOf_eq_iff nonemptyPieces fits stream, ← cuts]
  constructor
  · intro whole
    exact frameFormat.cutBetween_of_whole fits stream whole
  · intro between
    exact frameFormat.whole_of_cutBetween fits between

/-- Two frames that arrive in one notification each. -/
theorem delivered_eq_frames_iff_uncut :
    delivered ({} : Callbacks Unit) {} ()
        [⟨"receive", [0x10, 0x02, 0x01, 0x03]⟩, ⟨"receive", [0xE0, 0x00]⟩] =
      [Frame.mk true .command [0x01, 0x03], Frame.mk false .channel7 []] := by
  have encodes :
      [ Frame.mk true .command [0x01, 0x03],
        Frame.mk false .channel7 [] ].mapM encodeFrame =
          .ok [[0x10, 0x02, 0x01, 0x03], [0xE0, 0x00]] := rfl
  refine (delivered_eq_frames_iff {} {} () _ _ _ encodes rfl (by decide)
    fun notification _ => Callbacks.neverRaise_none.returnOn notification).mpr ?_
  intro count
  refine ⟨count, ?_⟩
  match count with
  | 0 | 1 | _ + 2 => simp

/-- A version command in two notifications is not delivered. -/
theorem fragmented_frame_lost :
    ([Frame.mk true .command [0x01, 0x03]].mapM encodeFrame =
        .ok [[0x10, 0x02, 0x01, 0x03]] ∧
      [[0x10, 0x02, 0x01], [0x03]].flatten =
        [[0x10, 0x02, 0x01, (0x03 : UInt8)]].flatten) ∧
      delivered ({} : Callbacks Unit) {} ()
          [⟨"receive", [0x10, 0x02, 0x01]⟩, ⟨"receive", [0x03]⟩] ≠
        [Frame.mk true .command [0x01, 0x03]] := by
  refine ⟨⟨rfl, rfl⟩, ?_⟩
  decide

end Live
end BoschBle
