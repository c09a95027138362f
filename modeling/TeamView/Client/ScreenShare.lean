import TeamView.Client.ChannelSwitch

set_option autoImplicit false

/-! # Sharing the screen

The UI server handles its requests one after another (`step`). While it says that it shares, it
holds a media task and shows the screen in the channel that is selected; while it does not, there
is no task and no screen (`SharingInvariant`). Every flow keeps this as it is, apart from the two
that start and stop a share. These keep it in step unless a stop gives up on the way with the
task already gone, or a start fails and does not get through to the relay to take its screen back
(`Clean`).
-/

namespace TeamView.Client

open TeamView.Protocol TeamView.Relay TeamView.Relay.ControlState BTree Runs Flows

/-! ## Runs of the server -/

/-- One request of the UI, with what happens around it. -/
structure UiEvent where
  request : UiServer.UiRequest
  rounds : List Round
  screen_outcome : TaskOutcome
  voice_outcome : TaskOutcome
  captureSourceSize : CaptureSource → Except String (UInt32 × UInt32)

namespace UiServer

def facing (w : UiWorld) (event : UiEvent) : UiWorld :=
  { w with
    rounds := event.rounds
    screen_outcome := event.screen_outcome
    voice_outcome := event.voice_outcome }

def step (args : UiArgs) (w : UiWorld) (event : UiEvent) : UiWorld :=
  (exec (handleUiRequest event.captureSourceSize args event.request) (facing w event)).2

/-- The server as it starts, for a client that shows nothing yet. -/
structure Starts (args : UiArgs) (i : Nat) (u : UserId) (w : UiWorld) : Prop where
  connected : Connected i u w.link
  state : w.state = .new args
  unpublished : ∀ r s, ¬ w.link.system.control.ShowsScreen u r s

/-- The flag matches the task, and without it there is no screen at the relay. -/
structure SharingMatches (u : UserId) (w : UiWorld) : Prop where
  task : w.state.local_screen_share.sharing = true ↔ w.state.screen_media_task.isSome = true
  unpublished : w.state.local_screen_share.sharing = false →
    ∀ r s, ¬ w.link.system.control.ShowsScreen u r s

/-- Only the server itself publishes screens over the connection. -/
def FairEvent (i : Nat) (event : UiEvent) : Prop :=
  ∀ round ∈ event.rounds, ∀ other ∈ round.others, ControlSystem.Discreet i other

/-! ## Where a share goes wrong -/

/-- The relay when the next request gets there, or would. -/
def arriving (w : UiWorld) : ControlLink :=
  match w.rounds with
  | [] => w.link
  | round :: _ => w.link.waited round.others

/-- The next request takes the screen away, or there is nothing to take away. -/
def Undoes (u : UserId) (r : RoomId) (s : StreamId) (w : UiWorld) : Prop :=
  Reaches w ∨ ¬ (arriving w).system.control.ShowsScreen u r s

/-- The start of a share, up to the screen itself. -/
def enterForScreen (args : UiArgs) : UiFlow RoomId := do
  let room_id ← resolveOrCreateUiChannelId args
  joinRoom room_id
  setVoiceState room_id (← get).state.local_voice
  return room_id

/-- A start that fails with its screen at the relay gets through to take it away. -/
def StartsCleanly (captureSourceSize : CaptureSource → Except String (UInt32 × UInt32))
    (args : UiArgs) (u : UserId) (w : UiWorld) : Prop :=
  ensureUiScreenShareAllowed args = .ok () →
    ∀ room_id w₁, exec (enterForScreen args) w = (.ok room_id, w₁) →
      match exec (publishConfiguredStream captureSourceSize
        (args.forMediaKind .screen args.stream_id) room_id) w₁ with
      | (.error _, w₂) => Undoes u room_id args.stream_id w₂
      | (.ok (), w₂) =>
          match exec (setPublisherTargetMedia room_id
            (args.forMediaKind .screen args.stream_id)) w₂ with
          | (.error _, w₃) =>
              Reaches w₃ ∨ Undoes u room_id args.stream_id
                (exec (unpublishStreamForUi room_id args.stream_id) w₃).2
          | (.ok (), _) => True

/-- A stop that finds its channel stops a task that ends well, and is told that the stream is
unpublished. -/
def StopsCleanly (args : UiArgs) (w : UiWorld) : Prop :=
  ∀ rooms w₁ selected, exec listRooms w = (.ok rooms, w₁) →
    selectUiStateChannelId args rooms w.state.selected_channel_id = .ok selected →
      (w.screen_outcome = .finished ∨ w.screen_outcome = .cancelled) ∧
        (selected.isSome → ∃ round rest, w₁.rounds = round :: rest ∧ round.fate = .answered)

/-- The requests that start or stop a share do so cleanly. -/
def Clean (args : UiArgs) (u : UserId) (w : UiWorld) (event : UiEvent) : Prop :=
  match event.request, w.state.local_screen_share.sharing with
  | .screenShare true, false => StartsCleanly event.captureSourceSize args u (facing w event)
  | .screenShare false, true => StopsCleanly args (facing w event)
  | _, _ => True

/-! ## What a request can show -/

variable {w w' : UiWorld} {i : Nat} {u : UserId} {stream_id : StreamId} {place : Option RoomId}
  {message : ClientControl} {link : ControlLink}

/-- The screens of the client are in this place, if anywhere. -/
def ShownIn (u : UserId) (stream_id : StreamId) (place : Option RoomId) (link : ControlLink) :
    Prop :=
  ∀ r s, link.system.control.ShowsScreen u r s → place = some r ∧ s = stream_id

/-- `ShownIn`, by a client that is past the gate if there is such a place. -/
def Sharing (u : UserId) (stream_id : StreamId) (place : Option RoomId) (link : ControlLink) :
    Prop :=
  ShownIn u stream_id place link ∧ (place.isSome → link.Authorized u)

theorem shown_keptByOthers :
    KeptByOthers (ControlSystem.Discreet i) i u (ShownIn u stream_id place) := by
  intro link h hshown event hdiscreet r s hshows
  exact hshown r s (ControlSystem.step_shows h.reachable h.user hdiscreet hshows)

theorem shown_keptByRequest
    (hquiet : ∀ publish, message = .publishStream publish → publish.media_kind ≠ .screen) :
    KeptByRequest i u (ShownIn u stream_id place) message := by
  intro link h hshown r s hshows
  rcases Connected.send_shows hshows with hold | ⟨publish, hmessage, hkind, -⟩
  · exact hshown r s hold
  · exact absurd hkind (hquiet publish hmessage)

theorem sharing_keptByOthers :
    KeptByOthers (ControlSystem.Discreet i) i u (Sharing u stream_id place) := by
  rintro link h ⟨hshown, hauth⟩ event hdiscreet
  exact ⟨shown_keptByOthers link h hshown event hdiscreet, fun hplace => (hauth hplace).step event⟩

theorem sharing_keptByRequest
    (hquiet : ∀ publish, message = .publishStream publish → publish.media_kind ≠ .screen) :
    KeptByRequest i u (Sharing u stream_id place) message := by
  rintro link h ⟨hshown, hauth⟩
  exact ⟨shown_keptByRequest hquiet link h hshown, fun hplace => (hauth hplace).send message⟩

theorem ShownIn.of_none (h : ShownIn u stream_id none link) (place : Option RoomId) :
    ShownIn u stream_id place link :=
  fun r s hshows => nomatch (h r s hshows).1

theorem ShownIn.sharing (h : ShownIn u stream_id none link) : Sharing u stream_id none link :=
  ⟨h, nofun⟩

/-- The server is in step with a share in this place, or with none. -/
structure ServerShares (stream_id : StreamId) (place : Option RoomId) (state : UiServerState) :
    Prop where
  sharing : state.local_screen_share.sharing = place.isSome
  task : state.screen_media_task.isSome = place.isSome
  stream : state.local_screen_share.stream_id = stream_id
  selected : ∀ r, place = some r → state.selected_channel_id = some r

/-- What holds between the requests of the UI. -/
def SharingInvariant (args : UiArgs) (i : Nat) (u : UserId) (w : UiWorld) : Prop :=
  ∃ place, Connected i u w.link ∧ Sharing u args.stream_id place w.link ∧
    ServerShares args.stream_id place w.state

/-- `SharingInvariant` for one place, within a request. -/
abbrev Shares (i : Nat) (u : UserId) (stream_id : StreamId) (place : Option RoomId) :
    UiWorld → Prop :=
  Standing (ControlSystem.Discreet i) i u (Sharing u stream_id place)
    (ServerShares stream_id place)

/-! ## Flows that leave a share alone -/

section Kept

variable {S : UiServerState → Prop} {r : RoomId}

/-- The world of the flows in this section. -/
abbrev Quiet (i : Nat) (u : UserId) (stream_id : StreamId) (place : Option RoomId)
    (S : UiServerState → Prop) : UiWorld → Prop :=
  Standing (ControlSystem.Discreet i) i u (Sharing u stream_id place) S

theorem quiet_send (hquiet : ∀ publish, message = .publishStream publish →
      publish.media_kind ≠ .screen) :
    Keeps (Quiet i u stream_id place S) (send message) :=
  keeps_send sharing_keptByOthers (sharing_keptByRequest hquiet)

theorem quiet_listRooms : Keeps (Quiet i u stream_id place S) listRooms :=
  keeps_listRooms sharing_keptByOthers (sharing_keptByRequest nofun)

theorem quiet_joinRoom : Keeps (Quiet i u stream_id place S) (joinRoom r) :=
  keeps_joinRoom sharing_keptByOthers (sharing_keptByRequest nofun)

theorem quiet_leaveRoom : Keeps (Quiet i u stream_id place S) (leaveRoom r) :=
  keeps_leaveRoom sharing_keptByOthers (sharing_keptByRequest nofun)

theorem quiet_setVoiceState {voice : VoiceControlState} :
    Keeps (Quiet i u stream_id place S) (setVoiceState r voice) :=
  keeps_setVoiceState sharing_keptByOthers fun _ => sharing_keptByRequest nofun

theorem quiet_unpublishStreamForUi {s : StreamId} :
    Keeps (Quiet i u stream_id place S) (unpublishStreamForUi r s) :=
  keeps_unpublishStreamForUi sharing_keptByOthers (sharing_keptByRequest nofun)

theorem quiet_modifyState {f : UiServerState → UiServerState}
    (hf : ∀ state, S state → S (f state)) :
    Keeps (Quiet i u stream_id place S) (modifyState f) :=
  Keeps.modify fun _ h => ⟨h.connected, h.fair, h.relay, hf _ h.server⟩

theorem quiet_setPublisherTargetMedia {args : UiArgs} :
    Keeps (Quiet i u stream_id place S) (setPublisherTargetMedia r args) := by
  unfold setPublisherTargetMedia
  refine (quiet_send (by nofun)).bind fun bitrate => (keeps_liftExcept _).bind fun _ => ?_
  exact (quiet_send (by nofun)).bind fun framerate => keeps_liftExcept _

/-- The end of `publishConfiguredStream`. -/
theorem quiet_settle {config : StreamConfig} :
    Keeps (Quiet i u stream_id place S) (do
      match ← send (.setStreamConfig config) with
      | .streamConfig answered =>
          if answered = config then return else throw "unexpected stream config response"
      | .error error => throw s!"set stream config failed: {error.message}"
      | _ => throw "unexpected stream config response") := by
  refine (quiet_send (by nofun)).bind fun answer => ?_
  cases answer <;>
    first
      | exact Keeps.throw _
      | (simp only
         split
         · exact Keeps.pure _
         · exact Keeps.throw _)

theorem quiet_publishConfiguredStream
    {captureSourceSize : CaptureSource → Except String (UInt32 × UInt32)} {args : UiArgs}
    (hkind : args.media_kind ≠ .screen) :
    Keeps (Quiet i u stream_id place S) (publishConfiguredStream captureSourceSize args r) := by
  unfold publishConfiguredStream
  refine (keeps_liftExcept _).bind fun codec => ?_
  refine (triple_liftExcept args.protocolMediaKind).keeps_bind fun media_kind w hw => ?_
  have hnot : media_kind ≠ .screen := by
    have hmedia := hw.2
    unfold Args.protocolMediaKind at hmedia
    rintro rfl
    cases hargs : args.media_kind with
    | screen => exact hkind hargs
    | voice => rw [hargs] at hmedia; cases hmedia
    | both => rw [hargs] at hmedia; cases hmedia
  have hpublish : Keeps (Quiet i u stream_id place S)
      (send (.publishStream ⟨r, args.stream_id, codec, media_kind⟩)) := by
    refine quiet_send ?_
    rintro publish hmessage
    exact ClientControl.publishStream.inj hmessage ▸ hnot
  refine (hpublish.bind fun published => (keeps_liftExcept _).bind fun _ => ?_) w hw.1
  exact (keeps_liftExcept _).bind fun config => quiet_settle

theorem quiet_listRoomStreams : Keeps (Quiet i u stream_id place S) (listRoomStreams r) := by
  refine (quiet_send (by nofun)).bind fun answer => ?_
  cases answer <;> first | exact Keeps.pure _ | exact Keeps.throw _

theorem quiet_pollStreamConfig {s : StreamId} :
    Keeps (Quiet i u stream_id place S) (pollStreamConfig r s) := by
  refine (quiet_send (by nofun)).bind fun answer => ?_
  cases answer <;> first | exact Keeps.pure _ | exact Keeps.throw _

theorem quiet_listRoomParticipants :
    Keeps (Quiet i u stream_id place S) (listRoomParticipants r) := by
  refine (quiet_send (by nofun)).bind fun answer => ?_
  cases answer <;> first | exact Keeps.pure _ | exact Keeps.throw _

/-- The document is built by requests only. -/
theorem quiet_buildUiStateForUi {args : UiArgs} :
    Keeps (Quiet i u stream_id place S) (buildUiStateForUi args) := by
  unfold buildUiStateForUi
  refine Keeps.get.bind fun world => quiet_listRooms.bind fun rooms => ?_
  refine (keeps_liftExcept _).bind fun selected => ?_
  cases selected with
  | none => exact Keeps.pure _
  | some room_id =>
      refine quiet_joinRoom.bind fun _ => quiet_setVoiceState.bind fun _ => ?_
      refine quiet_listRoomStreams.bind fun streams => ?_
      refine (Keeps.mapM (fun _ => quiet_pollStreamConfig) _).bind fun stream_configs => ?_
      refine quiet_listRoomParticipants.bind fun participants => ?_
      simp only
      split
      · exact quiet_leaveRoom.bind fun _ => Keeps.pure _
      · exact Keeps.pure _

end Kept

/-! ## Voice and channels -/

/-- A channel that is selected is the one that is used. -/
theorem triple_resolveOrCreateUiChannelId {args : UiArgs} :
    Triple (Shares i u stream_id place) (resolveOrCreateUiChannelId args)
      (fun room_id w => Shares i u stream_id place w ∧ ∀ r, place = some r → r = room_id)
      (fun _ => Shares i u stream_id place) := by
  unfold resolveOrCreateUiChannelId
  refine (keeps_iff.mp quiet_listRooms).bind fun rooms w h => ?_
  rw [exec_bind_ok (exec_get w)]
  cases hselected : w.state.selected_channel_id with
  | some room_id =>
      simp only
      by_cases hlisted : (rooms.any (·.room_id = room_id)) = true
      · rw [if_pos hlisted]
        refine ⟨h, fun r hplace => ?_⟩
        exact Option.some.inj ((h.server.selected r hplace).symm.trans hselected)
      · rw [if_neg hlisted]
        exact h
  | none =>
      -- without a selection there is no share
      have hnone : ∀ r, place ≠ some r := by
        intro r hplace
        have hr := h.server.selected r hplace
        rw [hselected] at hr
        cases hr
      refine Triple.consequence (keeps_iff.mp ?_) (fun _ h => h)
        (fun room_id w' h' => ⟨h', fun r hplace => absurd hplace (hnone r)⟩) (fun _ _ h => h) w h
      refine (keeps_liftExcept _).bind fun channel => ?_
      cases channel with
      | some room_id =>
          simp only
          split
          · exact Keeps.pure _
          · exact Keeps.throw _
      | none =>
          refine (keeps_liftExcept _).bind fun channel_name => ?_
          split
          · exact Keeps.pure _
          · refine (quiet_send (by nofun)).bind fun answer => ?_
            cases answer <;> first | exact Keeps.pure _ | exact Keeps.throw _

theorem shares_leaveUnlessKept {r : RoomId} :
    Keeps (Shares i u stream_id place) (leaveUnlessKept r) := by
  refine Keeps.get.bind fun world => ?_
  split
  · exact quiet_leaveRoom.attempt.discard
  · exact Keeps.pure _

theorem shares_setVoiceMediaTask {task : Option UiMediaTask} :
    Keeps (Shares i u stream_id place) (setVoiceMediaTask task) :=
  quiet_modifyState fun _ h => ⟨h.sharing, h.task, h.stream, h.selected⟩

theorem shares_setSelectedChannelId {room_id : RoomId} (h : ∀ r, place = some r → r = room_id) :
    Keeps (Shares i u stream_id place) (setSelectedChannelId (some room_id)) :=
  quiet_modifyState fun _ hserver =>
    ⟨hserver.sharing, hserver.task, hserver.stream, fun r hplace => congrArg some (h r hplace).symm⟩

variable {captureSourceSize : CaptureSource → Except String (UInt32 × UInt32)} {args : UiArgs}

theorem shares_startUiVoiceMedia {voice : VoiceControlState} :
    Keeps (Shares i u stream_id place) (startUiVoiceMedia captureSourceSize args voice) := by
  refine Keeps.get.bind fun world => ?_
  split
  · exact Keeps.pure _
  · refine triple_resolveOrCreateUiChannelId.keeps_bind fun room_id w hresolved => ?_
    refine Keeps.bind quiet_joinRoom (fun _ => ?_) w hresolved.1
    refine quiet_setVoiceState.bind fun _ => (keeps_liftExcept _).bind fun voice_stream_id => ?_
    have hkind : (args.forMediaKind .voice voice_stream_id).media_kind ≠ .screen := nofun
    refine (quiet_publishConfiguredStream hkind).attempt.bind fun published => ?_
    cases published with
    | error error => exact shares_leaveUnlessKept.bind fun _ => Keeps.throw _
    | ok _ =>
        refine quiet_setPublisherTargetMedia.attempt.bind fun targeted => ?_
        cases targeted with
        | error error =>
            refine quiet_unpublishStreamForUi.attempt.discard.bind fun _ => ?_
            exact shares_leaveUnlessKept.bind fun _ => Keeps.throw _
        | ok _ =>
            exact (shares_setSelectedChannelId hresolved.2).bind fun _ => shares_setVoiceMediaTask

theorem shares_stopUiVoiceMediaTask : Keeps (Shares i u stream_id place) stopUiVoiceMediaTask := by
  refine Keeps.get.bind fun world => ?_
  split
  · exact Keeps.pure _
  · exact shares_setVoiceMediaTask.bind fun _ => keeps_liftExcept _

theorem shares_stopUiVoiceMedia : Keeps (Shares i u stream_id place) (stopUiVoiceMedia args) := by
  refine Keeps.get.bind fun world => ?_
  split
  · exact Keeps.pure _
  · refine quiet_listRooms.bind fun rooms => Keeps.get.bind fun world => ?_
    refine (keeps_liftExcept _).bind fun selected => ?_
    cases selected with
    | none => exact shares_stopUiVoiceMediaTask
    | some room_id =>
        refine (keeps_liftExcept _).bind fun voice_stream_id => ?_
        refine shares_stopUiVoiceMediaTask.bind fun _ => ?_
        refine quiet_unpublishStreamForUi.bind fun _ => Keeps.get.bind fun world => ?_
        split
        · exact quiet_leaveRoom
        · exact Keeps.pure _

theorem shares_applyUiVoiceMediaState {voice : VoiceControlState} :
    Keeps (Shares i u stream_id place) (applyUiVoiceMediaState captureSourceSize args voice) := by
  unfold applyUiVoiceMediaState
  split
  · exact Keeps.pure _
  · split
    · exact shares_startUiVoiceMedia
    · exact shares_stopUiVoiceMedia

/-- The channel is not switched during a share. -/
theorem shares_applyUiChannelSelection {channel_id : RoomId} :
    Keeps (Shares i u stream_id place) (applyUiChannelSelection channel_id) := by
  refine Keeps.get_bind fun w h => ?_
  simp only
  split
  · exact h
  · next hidle =>
      have hplace : place = none := by
        have htask := h.server.task
        rw [← Option.not_isSome_iff_eq_none, ← htask]
        intro hactive
        exact hidle (Bool.or_eq_true_iff.mpr (.inl hactive))
      subst hplace
      refine Keeps.bind quiet_listRooms (fun rooms => ?_) w h
      split
      · exact Keeps.throw_bind _ _
      · have henter : Keeps (Shares i u stream_id none) (enterChannel channel_id) := by
          refine quiet_joinRoom.bind fun _ => Keeps.get.bind fun world => ?_
          exact quiet_setVoiceState.bind fun _ => shares_setSelectedChannelId nofun
        refine Keeps.get.bind fun world => ?_
        split
        · exact henter
        · split
          · exact quiet_leaveRoom.attempt.discard.bind fun _ => henter
          · exact henter

/-! ## Taking a screen back -/

variable {S : UiServerState → Prop} {r : RoomId} {state : UiServerState}

/-- A world in which the screens are in this place, if anywhere. -/
abbrev Shown (i : Nat) (u : UserId) (stream_id : StreamId) (place : Option RoomId)
    (S : UiServerState → Prop) : UiWorld → Prop :=
  Standing (ControlSystem.Discreet i) i u (ShownIn u stream_id place) S

theorem Standing.shown (h : Quiet i u stream_id place S w) : Shown i u stream_id place S w :=
  ⟨h.connected, h.fair, h.relay.1, h.server⟩

theorem Standing.quiet (h : Shown i u stream_id none S w) : Quiet i u stream_id none S w :=
  ⟨h.connected, h.fair, h.relay.sharing, h.server⟩

theorem leave_clears (h : Connected i u link) (hshown : ShownIn u stream_id (some r) link) :
    ShownIn u stream_id none (link.send (.leaveRoom ⟨r⟩)).1 := by
  intro a s hshows
  obtain ⟨hbefore, hne⟩ := h.leave_shows hshows
  exact absurd (Option.some.inj (hshown a s hbefore).1).symm hne

theorem unpublish_clears (h : Connected i u link) (hshown : ShownIn u stream_id (some r) link) :
    ShownIn u stream_id none (link.send (.unpublishStream ⟨r, stream_id⟩)).1 := by
  intro a s hshows
  obtain ⟨hbefore, hkept⟩ := h.unpublish_shows hshows
  obtain ⟨hplace, hs⟩ := hshown a s hbefore
  exact absurd ⟨(Option.some.inj hplace).symm, hs⟩ hkept

/-- A request that takes the screen away does so when it gets there. -/
theorem send_clears (h : Shown i u stream_id (some r) S w)
    (hclears : ∀ link, Connected i u link → ShownIn u stream_id (some r) link →
      ShownIn u stream_id none (link.send message).1)
    (hundoes : Undoes u r stream_id w) :
    Shown i u stream_id none S (exec (send message) w).2 := by
  -- without the screen there is nothing to clear
  have hnothing : ∀ link, ShownIn u stream_id (some r) link →
      ¬ link.system.control.ShowsScreen u r stream_id → ShownIn u stream_id none link := by
    intro link hshown hgone a s hshows
    obtain ⟨hplace, rfl⟩ := hshown a s hshows
    exact absurd (Option.some.inj hplace ▸ hshows) hgone
  cases hrounds : w.rounds with
  | nil =>
      have hgone : ¬ w.link.system.control.ShowsScreen u r stream_id := by
        rcases hundoes with ⟨round, rest, hnext, -⟩ | hgone
        · rw [hrounds] at hnext
          cases hnext
        · rw [arriving, hrounds] at hgone
          exact hgone
      rw [exec_send_gone hrounds]
      exact ⟨h.connected, h.fair, hnothing _ h.relay hgone, h.server⟩
  | cons round rest =>
      have hwaited := h.waited shown_keptByOthers hrounds
      have hserved : Shown i u stream_id none S
          { w with link := ((w.link.waited round.others).send message).1, rounds := rest } :=
        ⟨hwaited.connected.send message, hwaited.fair,
          hclears _ hwaited.connected hwaited.relay, hwaited.server⟩
      cases hfate : round.fate with
      | answered =>
          rw [exec_send_answered hrounds hfate]
          exact hserved
      | answerLost =>
          rw [exec_send_answerLost hrounds hfate]
          exact hserved
      | requestLost =>
          have hgone : ¬ (w.link.waited round.others).system.control.ShowsScreen u r stream_id := by
            rcases hundoes with ⟨round', rest', hnext, hreaches⟩ | hgone
            · rw [hrounds] at hnext
              exact absurd ((List.cons.inj hnext).1 ▸ hfate) hreaches
            · rw [arriving, hrounds] at hgone
              exact hgone
          rw [exec_send_requestLost hrounds hfate]
          exact ⟨hwaited.connected, hwaited.fair, hnothing _ hwaited.relay hgone, hwaited.server⟩

theorem leaveRoom_clears (h : Shown i u stream_id (some r) S w)
    (hundoes : Undoes u r stream_id w) :
    Shown i u stream_id none S (exec (leaveRoom r) w).2 := by
  have hstate : (exec (leaveRoom r) w).2 = (exec (send (.leaveRoom ⟨r⟩)) w).2 := by
    refine exec_bind_state (fun answer s => ?_) w
    cases answer <;> rfl
  rw [hstate]
  exact send_clears h (fun _ => leave_clears) hundoes

theorem unpublishStreamForUi_state (r : RoomId) (s : StreamId) (w : UiWorld) :
    (exec (unpublishStreamForUi r s) w).2 = (exec (send (.unpublishStream ⟨r, s⟩)) w).2 := by
  refine exec_bind_state (fun answer s => ?_) w
  cases answer <;> simp only <;> first | rfl | (split <;> rfl)

/-! ## Starting -/

/-- The screen is up at most where it was asked for, and an answer other than an error lets the
client past the gate. -/
theorem triple_send_publishStream {codec : CodecId} {media_kind : MediaKind} :
    Triple (Quiet i u stream_id none S)
      (send (.publishStream ⟨r, stream_id, codec, media_kind⟩))
      (fun answer w => Shown i u stream_id (some r) S w ∧
        ((∀ error, answer ≠ .error error) → w.link.Authorized u))
      (fun _ => Shown i u stream_id (some r) S) := by
  intro w h
  have hshown : Shown i u stream_id (some r) S w :=
    ⟨h.connected, h.fair, h.relay.1.of_none _, h.server⟩
  have hkept : KeptByRequest i u (ShownIn u stream_id (some r))
      (.publishStream ⟨r, stream_id, codec, media_kind⟩) := by
    intro link _ hbefore a s hshows
    rcases Connected.send_shows hshows with hold | ⟨publish, hmessage, -, ha, hs⟩
    · exact hbefore a s hold
    · obtain rfl := ClientControl.publishStream.inj hmessage
      exact ⟨congrArg some ha.symm, hs⟩
  have hsent := keeps_send shown_keptByOthers hkept w hshown
  rcases hexec : exec (send (.publishStream ⟨r, stream_id, codec, media_kind⟩)) w
    with ⟨error | answer, w'⟩
  · rw [hexec] at hsent
    exact hsent
  · rw [hexec] at hsent
    refine ⟨hsent, fun haccepted => ?_⟩
    obtain ⟨round, rest, -, -, hanswer, rfl⟩ := exec_send_ok hexec
    have hauth := (h.connected.waited round.others).authorized_of_answer
      (show ungated (.publishStream ⟨r, stream_id, codec, media_kind⟩) = false from rfl)
      (hanswer ▸ haccepted)
    exact hauth.send _

theorem triple_publishConfiguredStream :
    Triple (Quiet i u args.stream_id none S)
      (publishConfiguredStream captureSourceSize (args.forMediaKind .screen args.stream_id) r)
      (fun _ => Quiet i u args.stream_id (some r) S)
      (fun _ => Shown i u args.stream_id (some r) S) := by
  unfold publishConfiguredStream
  refine Triple.bind (show Triple (Quiet i u args.stream_id none S) _
    (fun _ => Quiet i u args.stream_id none S) _ from fun w h => h) ?_
  intro codec
  refine Triple.bind (show Triple (Quiet i u args.stream_id none S) _
    (fun _ => Quiet i u args.stream_id none S) _ from fun w h => h) ?_
  intro media_kind
  refine triple_send_publishStream.bind fun published w h => ?_
  cases hpublished : ControlLink.ensureNotError "publish stream" published with
  | error error =>
      unfold ensureNotError
      rw [hpublished]
      exact h.1
  | ok _ =>
      have hauth : w.link.Authorized u := by
        refine h.2 ?_
        rintro error rfl
        cases hpublished
      have hquiet : Quiet i u args.stream_id (some r) S w :=
        ⟨h.1.connected, h.1.fair, ⟨h.1.relay, fun _ => hauth⟩, h.1.server⟩
      have hrest : Keeps (Quiet i u args.stream_id (some r) S) _ :=
        (keeps_liftExcept (Args.streamConfig captureSourceSize
          (args.forMediaKind .screen args.stream_id).toArgs r)).bind fun config =>
            @quiet_settle i u args.stream_id (some r) S config
      have htriple := (keeps_iff.mp hrest).consequence (fun _ h => h) (fun _ _ h => h)
        (fun _ _ h => h.shown) w hquiet
      unfold ensureNotError
      rw [hpublished]
      exact htriple

theorem exec_startUiScreenShare (hidle : w.state.local_screen_share.sharing = false) :
    exec (startUiScreenShare captureSourceSize args) w =
      match exec (enterForScreen args) w with
      | (.error error, w₁) => (.error error, w₁)
      | (.ok room_id, w₁) =>
          match exec (publishConfiguredStream captureSourceSize
            (args.forMediaKind .screen args.stream_id) room_id) w₁ with
          | (.error error, w₂) => (.error error, (exec (leaveRoom room_id) w₂).2)
          | (.ok (), w₂) =>
              match exec (setPublisherTargetMedia room_id
                (args.forMediaKind .screen args.stream_id)) w₂ with
              | (.error error, w₃) =>
                  (.error error, (exec (leaveRoom room_id)
                    (exec (unpublishStreamForUi room_id args.stream_id) w₃).2).2)
              | (.ok (), w₃) =>
                  exec (do
                    setSelectedChannelId (some room_id)
                    setScreenSharing true
                    setScreenMediaTask (some ⟨room_id, args.stream_id⟩)) w₃ := by
  unfold startUiScreenShare enterForScreen
  rw [exec_bind_ok (exec_get w), hidle]
  simp only [Bool.false_eq_true, if_false]
  rw [exec_bind, exec_bind]
  -- the steps of the flow, each of which may end it
  rcases exec (resolveOrCreateUiChannelId args) w with ⟨_ | room_id, w₁⟩
  · rfl
  · simp only
    rw [exec_bind, exec_bind]
    rcases exec (joinRoom room_id) w₁ with ⟨_ | _, w₂⟩
    · rfl
    · simp only
      rw [exec_bind_ok (exec_get w₂), exec_bind_ok (exec_get w₂), exec_bind, exec_bind]
      rcases exec (setVoiceState room_id w₂.state.local_voice) w₂ with ⟨_ | _, w₃⟩
      · rfl
      · simp only [exec_pure]
        rw [exec_bind_ok (exec_attempt _ _)]
        rcases exec (publishConfiguredStream captureSourceSize
          (args.forMediaKind .screen args.stream_id) room_id) w₃ with ⟨_ | _, w₄⟩
        · rfl
        · simp only
          rw [exec_bind_ok (exec_attempt _ _)]
          rcases exec (setPublisherTargetMedia room_id
            (args.forMediaKind .screen args.stream_id)) w₄ with ⟨_ | _, w₅⟩ <;> rfl

theorem shares_enterForScreen :
    Keeps (Shares i u stream_id place) (enterForScreen args) := by
  refine triple_resolveOrCreateUiChannelId.keeps_bind fun room_id w hresolved => ?_
  refine Keeps.bind quiet_joinRoom (fun _ => Keeps.get.bind fun world => ?_) w hresolved.1
  exact quiet_setVoiceState.bind fun _ => Keeps.pure _

/-- A clean start ends in step, with a share or without. -/
theorem start_shares (h : Shares i u args.stream_id none w)
    (hallowed : ensureUiScreenShareAllowed args = .ok ())
    (hclean : StartsCleanly captureSourceSize args u w) :
    ∃ place, Shares i u args.stream_id place
      (exec (startUiScreenShare captureSourceSize args) w).2 := by
  have hentered : Shares i u args.stream_id none (exec (enterForScreen args) w).2 :=
    shares_enterForScreen w h
  rw [exec_startUiScreenShare h.server.sharing]
  rcases henter : exec (enterForScreen args) w with ⟨error | room_id, w₁⟩
  · rw [henter] at hentered
    exact ⟨none, hentered⟩
  · rw [henter] at hentered
    have hend := hclean hallowed room_id w₁ henter
    have hpublished := @triple_publishConfiguredStream _ _ captureSourceSize args _ room_id w₁
      hentered
    simp only
    rcases hpublish : exec (publishConfiguredStream captureSourceSize
        (args.forMediaKind .screen args.stream_id) room_id) w₁ with ⟨error | _, w₂⟩
    · rw [hpublish] at hend hpublished
      exact ⟨none, (leaveRoom_clears hpublished hend).quiet⟩
    · rw [hpublish] at hend hpublished
      have htargeted : Quiet i u args.stream_id (some room_id) _ (exec (setPublisherTargetMedia
          room_id (args.forMediaKind .screen args.stream_id)) w₂).2 :=
        quiet_setPublisherTargetMedia w₂ hpublished
      simp only at hend ⊢
      rcases htarget : exec (setPublisherTargetMedia room_id
          (args.forMediaKind .screen args.stream_id)) w₂ with ⟨error | _, w₃⟩
      · rw [htarget] at hend htargeted
        simp only
        rcases hend with hreaches | hundoes
        · -- unpublishing gets through, and leaving changes nothing more
          have hcleared : Shown i u args.stream_id none (ServerShares args.stream_id none)
              (exec (unpublishStreamForUi room_id args.stream_id) w₃).2 := by
            rw [unpublishStreamForUi_state]
            exact send_clears htargeted.shown (fun _ => unpublish_clears) (.inl hreaches)
          exact ⟨none, quiet_leaveRoom _ hcleared.quiet⟩
        · have hkept := quiet_unpublishStreamForUi (r := room_id) (s := args.stream_id) w₃ htargeted
          exact ⟨none, (leaveRoom_clears hkept.shown hundoes).quiet⟩
      · rw [htarget] at htargeted
        refine ⟨some room_id, htargeted.connected, htargeted.fair, htargeted.relay, ?_⟩
        exact ⟨rfl, rfl, htargeted.server.stream, fun r hr => hr⟩

/-! ## Stopping -/

theorem exec_stopUiScreenShare (hsharing : w.state.local_screen_share.sharing = true) :
    exec (stopUiScreenShare args) w =
      match exec listRooms w with
      | (.error error, w₁) => (.error error, w₁)
      | (.ok rooms, w₁) =>
          match selectUiStateChannelId args rooms w₁.state.selected_channel_id with
          | .error error => (.error error, w₁)
          | .ok none => exec (do stopUiScreenMediaTask; setScreenSharing false) w₁
          | .ok (some room_id) =>
              exec (do
                stopUiScreenMediaTask
                unpublishStreamForUi room_id w.state.local_screen_share.stream_id
                setScreenSharing false
                if !(← get).state.keepRoomJoined then leaveRoom room_id) w₁ := by
  unfold stopUiScreenShare
  rw [exec_bind_ok (exec_get w)]
  simp only [hsharing, Bool.not_true, Bool.false_eq_true, if_false]
  rw [exec_bind]
  rcases exec listRooms w with ⟨_ | rooms, w₁⟩
  · rfl
  · simp only
    rw [exec_bind_ok (exec_get w₁), exec_bind, exec_liftExcept]
    rcases selectUiStateChannelId args rooms w₁.state.selected_channel_id with _ | _ | room_id <;>
      rfl

/-- A task that ends well goes without an error. -/
theorem exec_stopUiScreenMediaTask (htask : w.state.screen_media_task.isSome = true)
    (hends : w.screen_outcome = .finished ∨ w.screen_outcome = .cancelled) :
    exec stopUiScreenMediaTask w
      = (.ok (), { w with state := { w.state with screen_media_task := none } }) := by
  have hresult : w.screen_outcome.result "UI screen media task failed" = .ok () := by
    rcases hends with hends | hends <;> rw [hends] <;> rfl
  unfold stopUiScreenMediaTask
  rw [exec_bind_ok (exec_get w)]
  cases hheld : w.state.screen_media_task with
  | none =>
      rw [hheld] at htask
      cases htask
  | some task =>
      simp only
      rw [hresult]
      rfl

/-- The selected channel is the one that is used, as long as it is listed. -/
theorem selectUiStateChannelId_listed {rooms : List RoomSummary} {selected : Option RoomId}
    (hlisted : (rooms.any (·.room_id = r)) = true)
    (hselect : selectUiStateChannelId args rooms (some r) = .ok selected) :
    selected = some r := by
  unfold selectUiStateChannelId at hselect
  cases hempty : rooms.isEmpty with
  | true =>
      rw [List.isEmpty_iff.mp hempty] at hlisted
      cases hlisted
  | false =>
      rw [hempty, Option.filter_some, if_pos hlisted] at hselect
      exact (Except.ok.inj hselect).symm

/-- Where nothing is listed there is nothing. -/
theorem shown_of_unlisted (h : Connected i u link) (hshown : ShownIn u stream_id (some r) link)
    (hunlisted : (link.system.control.listRooms.rooms.any (·.room_id = r)) = false) :
    ShownIn u stream_id none link := by
  intro a s hshows
  obtain ⟨hplace, -⟩ := hshown a s hshows
  obtain rfl := Option.some.inj hplace
  have hrooms := ControlSystem.reachable_roomInvariant h.reachable
  obtain ⟨room, hroom, -⟩ := hshows.participates hrooms
  have hlisted := (any_listRooms_iff hrooms r).mpr ((mem_iff_get _ _).mpr ⟨room, hroom⟩)
  rw [hunlisted] at hlisted
  cases hlisted

/-- A request to unpublish that is answered succeeds. -/
theorem exec_unpublishStreamForUi_answered (h : Connected i u w.link)
    (hauth : w.link.Authorized u) {round : Round} {rest : List Round}
    (hrounds : w.rounds = round :: rest) (hfate : round.fate = .answered) (s : StreamId) :
    (exec (unpublishStreamForUi r s) w).1 = .ok () := by
  have hwaiting : (w.link.waited round.others).Authorized u :=
    (keptByOthers_authorized (E := fun _ => True)).waited h hauth fun _ _ => True.intro
  unfold unpublishStreamForUi
  rw [exec_bind_ok (exec_send_answered hrounds hfate _)]
  rcases (h.waited round.others).unpublish_answer hwaiting r s with
    hanswer | ⟨error, hanswer, hcode⟩
  · rw [hanswer]
    simp only [and_self, if_true]
    rfl
  · rw [hanswer]
    simp only
    rw [if_pos hcode]
    rfl

/-- The end of a stop that has found a channel. -/
def finishStop (room_id : RoomId) (stream_id : StreamId) : UiFlow Unit := do
  unpublishStreamForUi room_id stream_id
  setScreenSharing false
  if !(← get).state.keepRoomJoined then leaveRoom room_id

/-- The task is gone and the stream is unpublished, so that the share is over. -/
theorem shares_finishStop
    (h : Standing (ControlSystem.Discreet i) i u (ShownIn u stream_id (some r)) (· = state) w)
    (hauth : w.link.Authorized u) (htask : state.screen_media_task = none)
    (hstream : state.local_screen_share.stream_id = stream_id) {round : Round} {rest : List Round}
    (hrounds : w.rounds = round :: rest) (hfate : round.fate = .answered) :
    Shares i u stream_id none (exec (finishStop r stream_id) w).2 := by
  have hok := exec_unpublishStreamForUi_answered (r := r) h.connected hauth hrounds hfate stream_id
  have hreaches : Reaches w := ⟨round, rest, hrounds, by rw [hfate]; nofun⟩
  have hcleared : Shown i u stream_id none (· = state)
      (exec (unpublishStreamForUi r stream_id) w).2 := by
    rw [unpublishStreamForUi_state]
    exact send_clears h (fun _ => unpublish_clears) (.inl hreaches)
  unfold finishStop
  rcases hexec : exec (unpublishStreamForUi r stream_id) w with ⟨_ | _, w₁⟩
  · rw [hexec] at hok
    cases hok
  · rw [hexec] at hcleared
    rw [exec_bind_ok hexec]
    have hkeeps : Keeps (Shares i u stream_id none) (do
        if !(← get).state.keepRoomJoined then leaveRoom r) := by
      refine Keeps.get.bind fun world => ?_
      split
      · exact quiet_leaveRoom
      · exact Keeps.pure _
    refine hkeeps { w₁ with state := { w₁.state with
      local_screen_share := { w₁.state.local_screen_share with sharing := false } } } ?_
    have hserver : w₁.state = state := hcleared.server
    refine ⟨hcleared.connected, hcleared.fair, hcleared.relay.sharing, rfl, ?_, ?_, nofun⟩
    · rw [hserver, htask]
      rfl
    · rw [hserver]
      exact hstream

/-- A clean stop ends in step, with the share or without. -/
theorem stop_shares (h : Shares i u args.stream_id (some r) w) (hclean : StopsCleanly args w) :
    ∃ place, Shares i u args.stream_id place (exec (stopUiScreenShare args) w).2 := by
  have hlisting := quiet_listRooms w h
  rw [exec_stopUiScreenShare h.server.sharing]
  rcases hlist : exec listRooms w with ⟨error | rooms, w₁⟩
  · rw [hlist] at hlisting
    exact ⟨some r, hlisting⟩
  · rw [hlist] at hlisting
    have hselected : w₁.state.selected_channel_id = some r := hlisting.server.selected r rfl
    simp only
    rw [hselected]
    cases hselect : selectUiStateChannelId args rooms (some r) with
    | error error => exact ⟨some r, hlisting⟩
    | ok selected =>
        obtain ⟨list, rest, -, -, hrooms, hauth, hw₁⟩ := exec_listRooms_listed h.connected hlist
        obtain ⟨hends, hanswered⟩ := hclean rooms w₁ selected hlist
          (by rw [h.server.selected r rfl]; exact hselect)
        have hstop := exec_stopUiScreenMediaTask (w := w₁) hlisting.server.task
          (by rw [hw₁]; exact hends)
        -- the screens are in the channel that is found, or nowhere
        have hshown : selected ≠ some r → ShownIn u args.stream_id none w₁.link := by
          intro hother
          refine shown_of_unlisted hlisting.connected hlisting.relay.1 ?_
          have hcontrol : w₁.link.system.control.listRooms.rooms = rooms := by
            rw [hrooms, hw₁]
            show (afterList w.link list).system.control.listRooms.rooms = _
            rw [afterList, hauth.listRooms.1]
          rw [hcontrol, ← Bool.not_eq_true]
          exact fun hlisted => hother (selectUiStateChannelId_listed hlisted hselect)
        refine ⟨none, ?_⟩
        cases selected with
        | none =>
            simp only
            rw [exec_bind_ok hstop]
            exact ⟨hlisting.connected, hlisting.fair, (hshown nofun).sharing, rfl, rfl,
              hlisting.server.stream, nofun⟩
        | some room_id =>
            obtain ⟨round, rest', hrounds, hfate⟩ := hanswered rfl
            simp only
            rw [h.server.stream, exec_bind_ok hstop]
            refine shares_finishStop ⟨hlisting.connected, hlisting.fair, ?_, rfl⟩
              (hlisting.relay.2 rfl) rfl
              hlisting.server.stream hrounds hfate
            by_cases hroom : room_id = r
            · rw [hroom]
              exact hlisting.relay.1
            · exact (hshown fun heq => hroom (Option.some.inj heq)).of_none _

/-! ## The whole run -/

theorem shares_facing {event : UiEvent} (hfair : FairEvent i event)
    (h : Connected i u w.link ∧ Sharing u stream_id place w.link ∧
      ServerShares stream_id place w.state) :
    Shares i u stream_id place (facing w event) :=
  ⟨h.1, hfair, h.2.1, h.2.2⟩

/-- A clean request ends in step. -/
theorem apply_shares {event : UiEvent} (h : Shares i u args.stream_id place (facing w event))
    (hclean : Clean args u w event) :
    ∃ place, Shares i u args.stream_id place
      (exec (applyUiRequest event.captureSourceSize args event.request) (facing w event)).2 := by
  have hsharing : w.state.local_screen_share.sharing = place.isSome := h.server.sharing
  unfold Clean at hclean
  cases hrequest : event.request with
  | state => exact ⟨place, h⟩
  | selectChannel channel_id => exact ⟨place, shares_applyUiChannelSelection _ h⟩
  | voiceState patch =>
      refine ⟨place, Keeps.bind Keeps.get (fun world => ?_) _ h⟩
      refine Keeps.bind (quiet_modifyState ?_) fun _ => shares_applyUiVoiceMediaState
      exact fun _ hserver => ⟨hserver.sharing, hserver.task, hserver.stream, hserver.selected⟩
  | screenShare sharing =>
      rw [hrequest, hsharing] at hclean
      unfold applyUiRequest applyUiScreenShareState
      cases hallowed : ensureUiScreenShareAllowed args with
      | error error => exact ⟨place, h⟩
      | ok _ =>
          rw [exec_bind_ok (exec_liftExcept _ _)]
          cases sharing with
          | true =>
              cases place with
              | none => exact start_shares h hallowed hclean
              | some r =>
                  -- a share that runs is not started again
                  have hrunning : exec (startUiScreenShare event.captureSourceSize args)
                      (facing w event) = (.ok (), facing w event) := by
                    unfold startUiScreenShare
                    rw [exec_bind_ok (exec_get _), h.server.sharing]
                    rfl
                  rw [if_pos rfl, hrunning]
                  exact ⟨some r, h⟩
          | false =>
              cases place with
              | some r => exact stop_shares h hclean
              | none =>
                  have hstopped : exec (stopUiScreenShare args) (facing w event)
                      = (.ok (), facing w event) := by
                    unfold stopUiScreenShare
                    rw [exec_bind_ok (exec_get _)]
                    simp only [h.server.sharing]
                    rfl
                  rw [if_neg Bool.false_ne_true, hstopped]
                  exact ⟨none, h⟩

theorem step_sharingInvariant {event : UiEvent} (hfair : FairEvent i event)
    (hclean : Clean args u w event) (h : SharingInvariant args i u w) :
    SharingInvariant args i u (step args w event) := by
  obtain ⟨place, hplace⟩ := h
  obtain ⟨place', hshares⟩ := apply_shares (shares_facing hfair hplace) hclean
  have hdone : Shares i u args.stream_id place' (step args w event) := by
    unfold step handleUiRequest
    rw [exec_bind]
    rcases hexec : exec (applyUiRequest event.captureSourceSize args event.request)
        (facing w event) with ⟨error | _, w'⟩
    · rw [hexec] at hshares
      exact hshares
    · rw [hexec] at hshares
      exact quiet_buildUiStateForUi w' hshares
  exact ⟨place', hdone.connected, hdone.relay, hdone.server⟩

theorem Starts.sharingInvariant (h : Starts args i u w) : SharingInvariant args i u w := by
  refine ⟨none, h.connected, ?_, ?_⟩
  · exact ShownIn.sharing fun r s hshows => absurd hshows (h.unpublished r s)
  · rw [h.state]
    exact ⟨rfl, rfl, rfl, nofun⟩

theorem SharingInvariant.sharingMatches (h : SharingInvariant args i u w) :
    SharingMatches u w := by
  obtain ⟨place, -, hsharing, hserver⟩ := h
  refine ⟨by rw [hserver.sharing, hserver.task], ?_⟩
  intro hoff r s hshows
  obtain ⟨hplace, -⟩ := hsharing.1 r s hshows
  rw [hserver.sharing, hplace] at hoff
  cases hoff

/-- Over every run of clean requests the flag, the task and the relay agree. -/
theorem sharing_matches (hstarts : Starts args i u w) {events : List UiEvent}
    (hfair : ∀ event ∈ events, FairEvent i event)
    (hclean : Meets (step args) (Clean args u) w events) :
    SharingMatches u (run (step args) w events) := by
  have hboth := Meets.and (Meets.of_forall hfair) hclean
  have hinvariant : SharingInvariant args i u (run (step args) w events) := by
    refine hboth.induction (P := SharingInvariant args i u) ?_ hstarts.sharingInvariant
    intro w event hok h
    exact step_sharingInvariant hok.1 hok.2 h
  exact hinvariant.sharingMatches

/-- A start that succeeds is clean. -/
theorem startsCleanly_of_ok (hidle : w.state.local_screen_share.sharing = false)
    (hok : (exec (startUiScreenShare captureSourceSize args) w).1.toBool = true) :
    StartsCleanly captureSourceSize args u w := by
  intro hallowed room_id w₁ henter
  rw [exec_startUiScreenShare hidle, henter] at hok
  simp only at hok
  rcases hpublish : exec (publishConfiguredStream captureSourceSize
      (args.forMediaKind .screen args.stream_id) room_id) w₁ with ⟨error | _, w₂⟩
  · rw [hpublish] at hok
    cases hok
  · rw [hpublish] at hok
    simp only at hok ⊢
    rcases htarget : exec (setPublisherTargetMedia room_id
        (args.forMediaKind .screen args.stream_id)) w₂ with ⟨error | _, w₃⟩
    · rw [htarget] at hok
      cases hok
    · exact True.intro

/-- The arguments of a broadcaster that shares a synthetic screen as stream 7. -/
def broadcasterArgs : UiArgs where
  capture_source := .primaryMonitor
  monitor_id := none
  window_title := none
  stream_id := 7
  media_kind := .screen
  screen_input := .synthetic
  media_fps := 30
  voice_fps := 50
  room_id := none
  channel_id := none
  room_name := defaultChannelName
  channel_name := none
  mode := .broadcaster
  voice_stream_id := none
  media_frame_bytes := 1200
  voice_frame_bytes := 160
  muted := false
  deafened := false
  push_to_talk := false
  ptt_active := false

/-- The server of a client that has just said hello. -/
def freshServer : UiWorld where
  link :=
    { system := run ControlSystem.step (.start .new) [.ask 0 (.hello ⟨protocolVersion, "host"⟩)]
      session := 0
      clock := ⟨0, 0⟩
      next_request_id := 1 }
  rounds := []
  screen_outcome := .finished
  voice_outcome := .finished
  state := .new broadcasterArgs

theorem freshServer_starts : Starts broadcasterArgs 0 1 freshServer where
  connected := ⟨rfl, ⟨.start .new, _, ⟨.new, .new, rfl⟩, rfl⟩, by decide +kernel⟩
  state := rfl
  unpublished r s hshows := by
    have hnone : freshServer.link.system.control.rooms = ∅ := rfl
    rw [ShowsScreen, ownerAt, hnone] at hshows
    cases hshows

/-- A request while every answer comes and nobody else does anything. -/
def undisturbed (request : UiRequest) (screen_outcome : TaskOutcome) : UiEvent where
  request := request
  rounds := List.replicate 16 ⟨[], .answered⟩
  screen_outcome := screen_outcome
  voice_outcome := .finished
  captureSourceSize _ := .error "no capture source"

theorem undisturbed_fair (request : UiRequest) (screen_outcome : TaskOutcome) (i : Nat) :
    FairEvent i (undisturbed request screen_outcome) := by
  intro round hround other hother
  rw [List.eq_of_mem_replicate hround] at hother
  cases hother

/-- A share that is started and stopped. -/
theorem sharing_matches_undisturbed :
    SharingMatches 1 (run (step broadcasterArgs) freshServer
      [undisturbed (.screenShare true) .finished, undisturbed (.screenShare false) .finished]) := by
  refine sharing_matches freshServer_starts ?_ ⟨?_, ?_, True.intro⟩
  · intro event hevent
    rcases List.mem_pair.mp hevent with rfl | rfl <;> exact undisturbed_fair _ _ 0
  · exact startsCleanly_of_ok rfl (by decide +kernel)
  · have hsharing : (step broadcasterArgs freshServer
        (undisturbed (.screenShare true) .finished)).state.local_screen_share.sharing = true := by
      decide +kernel
    unfold Clean
    rw [hsharing]
    intro rooms w₁ selected hlist _
    refine ⟨.inl rfl, fun _ => ?_⟩
    obtain ⟨answer, hsend, -⟩ := exec_listRooms_ok hlist
    obtain ⟨round, rest, hrounds, -, -, rfl⟩ := exec_send_ok hsend
    have hrest : rest = List.replicate 15 ⟨[], .answered⟩ := (List.cons.inj hrounds).2.symm
    exact ⟨_, _, hrest, rfl⟩

/-- The task has failed when it is stopped: it is gone, and the flag stays up. -/
theorem failed_task_keeps_flag :
    ¬ ∀ (args : UiArgs) (i : Nat) (u : UserId) (w : UiWorld) (events : List UiEvent),
      Starts args i u w → (∀ event ∈ events, FairEvent i event) →
      SharingMatches u (run (step args) w events) := by
  intro hclaim
  have hmatches := hclaim broadcasterArgs 0 1 freshServer
    [undisturbed (.screenShare true) .finished,
      undisturbed (.screenShare false) (.failed "encoder failed")] freshServer_starts (by
      intro event hevent
      rcases List.mem_pair.mp hevent with rfl | rfl <;> exact undisturbed_fair _ _ 0)
  have hflag := hmatches.task.mp (by decide +kernel)
  have hgone : (run (step broadcasterArgs) freshServer
    [undisturbed (.screenShare true) .finished,
      undisturbed (.screenShare false) (.failed "encoder failed")]).state.screen_media_task.isSome
        = false := by decide +kernel
  rw [hgone] at hflag
  cases hflag

end UiServer

end TeamView.Client
