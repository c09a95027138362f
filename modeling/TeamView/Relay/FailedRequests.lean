import TeamView.Relay.Control

set_option autoImplicit false

/-! # Failed requests

A handler that answers with an error has changed nothing: every check comes before the first
write. `Harmless` says it of the pair of state and answer that a handler returns, and each
handler that can write has one lemma. The remaining requests only read.
-/

namespace TeamView.Relay

open TeamView.Protocol BTree

namespace ControlState

/-- If the answer is an error, the state next to it is the state before. -/
def Harmless (state : ControlState) (result : ControlState × ServerControl) : Prop :=
  ∀ error, result.2 = .error error → result.1 = state

/-- An error next to the unchanged state. -/
theorem harmless_kept (state : ControlState) (message : ServerControl) :
    Harmless state (state, message) := fun _ _ => rfl

/-- Any state next to an answer that is no error. -/
theorem harmless_answered (state state' : ControlState) {message : ServerControl}
    (h : ∀ error, message ≠ .error error) : Harmless state (state', message) :=
  fun error herror => absurd herror (h error)

/-! ## The handlers that write -/

section Handlers

variable (state : ControlState) (session : Session)

theorem createRoom_harmless (create : CreateRoom) :
    Harmless state (state.createRoom session create) := by
  unfold createRoom
  split
  · exact harmless_kept state _
  · split
    · exact harmless_kept state _
    · exact harmless_answered state _ nofun

theorem joinRoom_harmless (join : JoinRoom) : Harmless state (state.joinRoom session join) := by
  unfold joinRoom
  split
  · exact harmless_kept state _
  · split
    · exact harmless_kept state _
    · split
      · exact harmless_kept state _
      · exact harmless_answered state _ nofun

theorem leave_harmless (request : LeaveRoom) : Harmless state (state.leave session request) := by
  unfold leave
  split
  · exact harmless_kept state _
  · exact harmless_answered state _ nofun

theorem setVoiceState_harmless (request : SetVoiceState) :
    Harmless state (state.setVoiceState session request) := by
  unfold setVoiceState
  split
  · exact harmless_kept state _
  · exact harmless_answered state _ nofun

theorem publishStream_harmless (publish : PublishStream) :
    Harmless state (state.publishStream session publish) := by
  unfold publishStream
  split
  · exact harmless_kept state _
  · split
    · exact harmless_kept state _
    · split
      · exact harmless_kept state _
      · split
        · split
          · exact harmless_kept state _
          · exact harmless_answered state _ nofun
        · exact harmless_kept state _

theorem unpublishStream_harmless (request : UnpublishStream) :
    Harmless state (state.unpublishStream session request) := by
  unfold unpublishStream
  split
  · exact harmless_kept state _
  · exact harmless_answered state _ nofun

theorem subscribeStream_harmless (subscribe : SubscribeStream) :
    Harmless state (state.subscribeStream session subscribe) := by
  unfold subscribeStream
  split
  · exact harmless_kept state _
  · split
    · exact harmless_kept state _
    · split
      · simp only
        split
        · exact harmless_kept state _
        · exact harmless_answered state _ nofun
      · exact harmless_kept state _

theorem unsubscribeStream_harmless (unsubscribe : UnsubscribeStream) :
    Harmless state (state.unsubscribeStream session unsubscribe) := by
  unfold unsubscribeStream
  simp only
  split
  · exact harmless_answered state _ nofun
  · exact harmless_kept state _

theorem requestKeyframe_harmless (request : RequestKeyframe) :
    Harmless state (state.requestKeyframe session request) := by
  unfold requestKeyframe
  split
  · exact harmless_kept state _
  · split
    · exact harmless_kept state _
    · simp only
      split
      · exact harmless_kept state _
      · exact harmless_answered state _ nofun

/-- The event is sanitised before the queue is touched. -/
theorem sendRemoteInput_harmless (clock : Clock) (input : SendRemoteInput) :
    Harmless state (state.sendRemoteInput session clock input) := by
  unfold sendRemoteInput
  split
  · exact harmless_kept state _
  · split
    · exact harmless_kept state _
    · split
      · exact harmless_kept state _
      · split
        · exact harmless_kept state _
        · split
          · exact harmless_kept state _
          · exact harmless_answered state _ nofun

theorem pollRemoteInput_harmless (poll : PollRemoteInput) :
    Harmless state (state.pollRemoteInput session poll) := by
  unfold pollRemoteInput
  split
  · exact harmless_kept state _
  · exact harmless_answered state _ nofun

theorem viewerStats_harmless (report : ViewerStatsReport) :
    Harmless state (state.viewerStats session report) :=
  harmless_answered state _ nofun

theorem pollPublisherFeedback_harmless (poll : PollPublisherFeedback) :
    Harmless state (state.pollPublisherFeedback session poll) := by
  unfold pollPublisherFeedback
  split
  · exact harmless_kept state _
  · split
    · exact harmless_answered state _ nofun
    · exact harmless_kept state _

theorem setStreamConfig_harmless (config : StreamConfig) :
    Harmless state (state.setStreamConfig session config) := by
  unfold setStreamConfig
  split
  · exact harmless_kept state _
  · split
    · exact harmless_kept state _
    · exact harmless_answered state _ nofun

theorem setTargetBitrate_harmless (target : SetTargetBitrate) :
    Harmless state (state.setTargetBitrate session target) := by
  unfold setTargetBitrate
  split
  · exact harmless_kept state _
  · exact harmless_answered state _ nofun

theorem setTargetFramerate_harmless (target : SetTargetFramerate) :
    Harmless state (state.setTargetFramerate session target) := by
  unfold setTargetFramerate
  split
  · exact harmless_kept state _
  · exact harmless_answered state _ nofun

end Handlers

/-! ## Hello and Authenticate, which write the session -/

theorem hello_error {state : ControlState} {session : Session} {request : Hello}
    {error : ControlError} (h : (state.hello session request).2.2 = .error error) :
    (state.hello session request).1 = state ∧ (state.hello session request).2.1 = session := by
  revert h
  unfold hello
  split
  · intro _
    exact ⟨rfl, rfl⟩
  · intro h
    cases h

theorem authenticate_error {state : ControlState} {session : Session} {request : Authenticate}
    {error : ControlError} (h : (state.authenticate session request).2 = .error error) :
    (state.authenticate session request).1 = session := by
  revert h
  unfold authenticate
  split
  · intro _
    rfl
  · split
    · split
      · intro _
        rfl
      · intro h
        cases h
    · intro h
      cases h

/-! ## The dispatcher -/

/-- The requests that ask for something and change nothing. -/
def readsOnly : ClientControl → Bool
  | .listRooms | .listParticipants _ | .listStreams _ | .pollStreamConfig _
  | .pollStreamMetrics _ | .ping _ | .timeSync _ => true
  | _ => false

theorem Harmless.handled {state : ControlState} {result : ControlState × ServerControl}
    (h : Harmless state result) (session : Session) (error : ControlError)
    (herror : (Handled.of session result).message = .error error) :
    (Handled.of session result).state = state ∧ (Handled.of session result).session = session :=
  ⟨h error herror, rfl⟩

theorem handleMessage_error (state : ControlState) (session : Session) (clock : Clock)
    (message : ClientControl) (error : ControlError)
    (herror : (state.handleMessage session clock message).message = .error error) :
    (state.handleMessage session clock message).state = state ∧
      (state.handleMessage session clock message).session = session := by
  cases message with
  | hello request => exact hello_error herror
  | authenticate request => exact ⟨rfl, authenticate_error herror⟩
  | createRoom create => exact (createRoom_harmless state session create).handled _ error herror
  | joinRoom join => exact (joinRoom_harmless state session join).handled _ error herror
  | publishStream publish =>
      exact (publishStream_harmless state session publish).handled _ error herror
  | unpublishStream unpublish =>
      exact (unpublishStream_harmless state session unpublish).handled _ error herror
  | subscribeStream subscribe =>
      exact (subscribeStream_harmless state session subscribe).handled _ error herror
  | unsubscribeStream unsubscribe =>
      exact (unsubscribeStream_harmless state session unsubscribe).handled _ error herror
  | leaveRoom request => exact (leave_harmless state session request).handled _ error herror
  | setVoiceState voice_state =>
      exact (setVoiceState_harmless state session voice_state).handled _ error herror
  | setStreamConfig config =>
      exact (setStreamConfig_harmless state session config).handled _ error herror
  | requestKeyframe request =>
      exact (requestKeyframe_harmless state session request).handled _ error herror
  | sendRemoteInput input =>
      exact (sendRemoteInput_harmless state session clock input).handled _ error herror
  | pollRemoteInput poll =>
      exact (pollRemoteInput_harmless state session poll).handled _ error herror
  | viewerStats report => exact (viewerStats_harmless state session report).handled _ error herror
  | pollPublisherFeedback poll =>
      exact (pollPublisherFeedback_harmless state session poll).handled _ error herror
  | setTargetBitrate target =>
      exact (setTargetBitrate_harmless state session target).handled _ error herror
  | setTargetFramerate target =>
      exact (setTargetFramerate_harmless state session target).handled _ error herror
  -- the other requests are answered next to the state and session they came with
  | _ => exact ⟨rfl, rfl⟩

theorem handleMessage_readsOnly (state : ControlState) (session : Session) (clock : Clock)
    {message : ClientControl} (hreads : readsOnly message = true) :
    (state.handleMessage session clock message).state = state ∧
      (state.handleMessage session clock message).session = session := by
  cases message with
  | listRooms => exact ⟨rfl, rfl⟩
  | listParticipants list => exact ⟨rfl, rfl⟩
  | listStreams list => exact ⟨rfl, rfl⟩
  | pollStreamConfig poll => exact ⟨rfl, rfl⟩
  | pollStreamMetrics poll => exact ⟨rfl, rfl⟩
  | ping ping => exact ⟨rfl, rfl⟩
  | timeSync time_sync => exact ⟨rfl, rfl⟩
  | _ => cases hreads

/-- An envelope answered with an error, and an envelope that only asks, leave the relay's state
and the session exactly as they were. -/
theorem failed_request_changes_nothing (state : ControlState) (session : Session)
    (clock : Clock) (envelope : ClientEnvelope)
    (h : (∃ error, (state.handleClientEnvelope session clock envelope).response.message =
        .error error) ∨ readsOnly envelope.message = true) :
    (state.handleClientEnvelope session clock envelope).state = state ∧
      (state.handleClientEnvelope session clock envelope).session = session := by
  unfold handleClientEnvelope at h ⊢
  split
  · exact ⟨rfl, rfl⟩
  · next hgate =>
      rw [hgate] at h
      rcases h with ⟨error, herror⟩ | hreads
      · exact handleMessage_error state session clock envelope.message error herror
      · exact handleMessage_readsOnly state session clock hreads

/-- A viewer that joins a room that does not exist, and one that lists the rooms. -/
theorem failed_request_changes_nothing_watching :
    ((ControlSystem.watchingState.handleClientEnvelope
          ((Session.anonymous 1).establishIdentity 2 true "viewer") ⟨0, 0⟩
          (.new 5 (.joinRoom ⟨9⟩))).state = ControlSystem.watchingState ∧
      (ControlSystem.watchingState.handleClientEnvelope
          ((Session.anonymous 1).establishIdentity 2 true "viewer") ⟨0, 0⟩
          (.new 5 (.joinRoom ⟨9⟩))).session =
        (Session.anonymous 1).establishIdentity 2 true "viewer") ∧
    (ControlSystem.watchingState.handleClientEnvelope (Session.anonymous 3) ⟨0, 0⟩
      (.new 6 .listRooms)).state = ControlSystem.watchingState :=
  ⟨failed_request_changes_nothing _ _ _ _ (.inl ⟨roomNotFound, by decide +kernel⟩),
    (failed_request_changes_nothing _ _ _ _ (.inr rfl)).1⟩

end ControlState

end TeamView.Relay
