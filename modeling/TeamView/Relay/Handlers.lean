import TeamView.Relay.ControlState
import TeamView.Relay.Names
import TeamView.Relay.Session

set_option autoImplicit false

/-! # Request handlers

`ControlState::handle_client_envelope` and the handlers it calls
(`crates/relay-server/src/control.rs`). Two chains of checks open most handlers: the request
comes from a participant of the room (`participantRoom`), or from the publisher of the stream
(`publisherStream`). Each handler passes the text of its own error and returns the state
itself next to an error.
-/

namespace TeamView.Relay

open TeamView.Protocol BTree MachineInt

/-- What the calls of `unix_time_micros` return during one request, in order. -/
structure Clock where
  first : Nat
  second : Nat
  deriving DecidableEq

/-! ## Errors that several handlers return -/

def unauthenticated : ControlError := ⟨"unauthenticated", "send Hello first"⟩
def roomNotFound : ControlError := ⟨"room_not_found", "room does not exist"⟩
def streamNotFound : ControlError := ⟨"stream_not_found", "stream does not exist"⟩

namespace ControlState

/-- `authorization_error`. -/
def authorizationError (state : ControlState) (session : Session) :
    ClientControl → Option ControlError
  -- the messages by which a session comes to be authorized, and those that tell it nothing
  | .hello _ | .ping _ | .timeSync _ | .authenticate _ => none
  | _ =>
      if session.user_id.isNone then some unauthenticated
      else if state.requiresAccessToken && !session.access_granted then
        some ⟨"not_authenticated", "authenticate before using relay controls"⟩
      else none

/-! ## The two chains of checks -/

/-- The user of the session and the room, when the user is a participant of it. -/
def participantRoom (state : ControlState) (session : Session) (room_id : RoomId)
    (not_in_room : String) : Except ControlError (UserId × Room) :=
  match session.user_id with
  | none => .error unauthenticated
  | some user_id =>
      match state.rooms[room_id]? with
      | none => .error roomNotFound
      | some room =>
          if room.participants.contains user_id then .ok (user_id, room)
          else .error ⟨"not_in_room", not_in_room⟩

/-- The room and the published stream, when the user of the session is its publisher. -/
def publisherStream (state : ControlState) (session : Session) (room_id : RoomId)
    (stream_id : StreamId) (not_publisher : String) :
    Except ControlError (Room × PublishedStream) :=
  match session.user_id with
  | none => .error unauthenticated
  | some user_id =>
      match state.rooms[room_id]? with
      | none => .error roomNotFound
      | some room =>
          match room.published_streams[stream_id]? with
          | none => .error streamNotFound
          | some stream =>
              if stream.publisher_id = user_id then .ok (room, stream)
              else .error ⟨"not_publisher", not_publisher⟩

/-! ## Session requests -/

/-- The `Hello` arm. -/
def hello (state : ControlState) (session : Session) (hello : Hello) :
    ControlState × Session × ServerControl :=
  if hello.protocol_version ≠ protocolVersion then
    (state, session, .error ⟨"unsupported_version",
      s!"unsupported client protocol version {hello.protocol_version}"⟩)
  else
    let user_id := session.user_id.getD state.next_user_id
    let next_user_id :=
      if session.user_id.isNone then state.next_user_id + 1 else state.next_user_id
    let display_name := sanitizeDisplayName hello.client_name user_id
    let session :=
      if session.user_id.isNone then
        session.establishIdentity user_id (!state.requiresAccessToken) display_name
      else session.updateDisplayName display_name
    ({ state with
        next_user_id := next_user_id
        display_names := state.display_names.insert user_id display_name },
      session,
      .helloAccepted ⟨protocolVersion, "teamview-relay", user_id, display_name⟩)

def ping (session : Session) (ping : Ping) : ServerControl :=
  match session.user_id with
  | some _ => .pong ⟨ping.nonce⟩
  | none => .error unauthenticated

def timeSync (session : Session) (clock : Clock) (time_sync : TimeSyncRequest) : ServerControl :=
  match session.user_id with
  | some _ => .timeSync ⟨time_sync.client_send_time_micros, clock.first, clock.second⟩
  | none => .error unauthenticated

/-- The `Authenticate` arm. -/
def authenticate (state : ControlState) (session : Session) (authenticate : Authenticate) :
    Session × ServerControl :=
  match session.user_id with
  | none => (session, .error ⟨"not_ready", "send Hello first"⟩)
  | some user_id =>
      match state.access_token with
      | some expected_token =>
          if authenticate.token ≠ expected_token then
            (session, .error ⟨"invalid_token", "access token is invalid"⟩)
          else
            (session.grantAccess, .authenticated ⟨user_id, state.displayNameForUser user_id⟩)
      | none =>
          (session.grantAccess, .authenticated ⟨user_id, state.displayNameForUser user_id⟩)

/-! ## Rooms -/

def createRoom (state : ControlState) (session : Session) (create : CreateRoom) :
    ControlState × ServerControl :=
  match session.user_id with
  | none => (state, .error unauthenticated)
  | some user_id =>
      if state.limits.max_rooms ≤ state.rooms.size then
        (state, .error ⟨"room_limit_reached", "server room limit has been reached"⟩)
      else
        let room_id := state.next_room_id
        let room_name := sanitizeRoomName create.name room_id
        let room := (Room.new room_id room_name).join user_id
        let state := { state with next_room_id := room_id + 1 }
        ((state.setRoom room_id room).ensureVoiceState room_id user_id,
          .roomCreated ⟨room_id, room_name⟩)

def listRooms (state : ControlState) : RoomList where
  rooms := (values state.rooms).map fun room =>
    { room_id := room.id
      name := room.name
      participant_count := room.participants.size
      published_stream_count := room.published_streams.size }

def joinRoom (state : ControlState) (session : Session) (join : JoinRoom) :
    ControlState × ServerControl :=
  match state.rooms[join.room_id]? with
  | none => (state, .error roomNotFound)
  | some room =>
      match session.user_id with
      | none => (state, .error unauthenticated)
      | some user_id =>
          -- a participant may join again even when the room is full
          if !room.participants.contains user_id &&
              decide (state.limits.max_participants_per_room ≤ room.participants.size) then
            (state, .error ⟨"room_full", "room participant limit has been reached"⟩)
          else
            let joined := room.join user_id
            ((state.setRoom join.room_id joined).ensureVoiceState join.room_id user_id,
              .roomJoined ⟨join.room_id, joined.participants.size⟩)

def listParticipants (state : ControlState) (session : Session) (room_id : RoomId) :
    ServerControl :=
  match state.participantRoom session room_id "join room before listing participants" with
  | .error error => .error error
  | .ok (_, room) =>
      .participantList
        { room_id := room_id
          participants := room.participants.toList.map fun participant_id =>
            let voice_state :=
              (state.voiceState room_id participant_id).getD
                (defaultVoiceState room_id participant_id)
            { room_id := room_id
              user_id := participant_id
              display_name := state.displayNameForUser participant_id
              muted := voice_state.muted
              deafened := voice_state.deafened
              push_to_talk := voice_state.push_to_talk
              speaking := voice_state.speaking
              published_stream_count :=
                ((values room.published_streams).filter fun stream =>
                  stream.publisher_id == participant_id).length
              subscribed_stream_count :=
                ((values room.subscriptions).filter fun subscribers : BTreeSet UserId =>
                  subscribers.contains participant_id).length } }

/-- The `LeaveRoom` arm. -/
def leave (state : ControlState) (session : Session) (leave : LeaveRoom) :
    ControlState × ServerControl :=
  match session.user_id with
  -- a session without a user is told that it left, too
  | none => (state, .roomLeft ⟨leave.room_id⟩)
  | some user_id => (state.leaveRoom user_id leave.room_id, .roomLeft ⟨leave.room_id⟩)

def setVoiceState (state : ControlState) (session : Session) (request : SetVoiceState) :
    ControlState × ServerControl :=
  match state.participantRoom session request.room_id "join room before updating voice state" with
  | .error error => (state, .error error)
  | .ok (user_id, _) =>
      let voice_state : VoiceState :=
        { room_id := request.room_id
          user_id := user_id
          muted := request.muted
          deafened := request.deafened
          push_to_talk := request.push_to_talk
          -- muted wins over speaking
          speaking := request.speaking && !request.muted }
      ({ state with
          voice_states := insertNested state.voice_states request.room_id user_id voice_state },
        .voiceStateUpdated voice_state)

/-! ## Streams -/

/-- The stream that an accepted `PublishStream` stores. -/
def freshStream (publish : PublishStream) (user_id : UserId) : PublishedStream where
  stream_id := publish.stream_id
  publisher_id := user_id
  codec := publish.codec
  media_kind := publish.media_kind
  config := none
  target_bitrate_bps := defaultTargetBitrateBps
  target_frames_per_second := defaultTargetFramesPerSecond
  target_width := 0
  target_height := 0

/-- The `PublishStream` arm. -/
def publishStream (state : ControlState) (session : Session) (publish : PublishStream) :
    ControlState × ServerControl :=
  -- an id is unique across all rooms, and this is checked before anything else
  if (state.publisherForStream publish.stream_id).isSome then
    (state, .error ⟨"stream_id_conflict", "stream id is already published"⟩)
  else
    match state.rooms[publish.room_id]? with
    | none => (state, .error roomNotFound)
    | some room =>
        match session.user_id with
        | none => (state, .error unauthenticated)
        | some user_id =>
            if room.participants.contains user_id then
              if state.limits.max_streams_per_room ≤ room.published_streams.size then
                (state, .error ⟨"stream_limit_reached", "room stream limit has been reached"⟩)
              else
                (state.setRoom publish.room_id
                    (room.publishStream (freshStream publish user_id)),
                  .streamPublished ⟨publish.room_id, publish.stream_id⟩)
            else (state, .error ⟨"not_in_room", "join room before publishing"⟩)

/-- `unpublish_stream`. The source checks once more that the removal returned the stream; the
lookup before it has found it, so that branch is not taken. -/
def unpublishStream (state : ControlState) (session : Session) (request : UnpublishStream) :
    ControlState × ServerControl :=
  match state.publisherStream session request.room_id request.stream_id
      "only the stream publisher can unpublish" with
  | .error error => (state, .error error)
  | .ok (room, _) =>
      let state := state.setRoom request.room_id (room.removePublishedStream request.stream_id)
      ((state.removeStreamState request.stream_id).removeRoomIfEmpty request.room_id,
        .streamUnpublished ⟨request.room_id, request.stream_id⟩)

def listStreams (state : ControlState) (session : Session) (room_id : RoomId) : ServerControl :=
  match state.participantRoom session room_id "join room before listing streams" with
  | .error error => .error error
  | .ok (_, room) =>
      .streamList
        { room_id := room_id
          streams := (values room.published_streams).map fun stream =>
            { room_id := room_id
              stream_id := stream.stream_id
              publisher_id := stream.publisher_id
              codec := stream.codec
              media_kind := stream.media_kind
              subscriber_count := (room.subscribers stream.stream_id).size
              has_config := stream.config.isSome
              target_bitrate_bps := stream.target_bitrate_bps
              target_frames_per_second := stream.target_frames_per_second } }

/-- The `SubscribeStream` arm. -/
def subscribeStream (state : ControlState) (session : Session) (subscribe : SubscribeStream) :
    ControlState × ServerControl :=
  match state.rooms[subscribe.room_id]? with
  | none => (state, .error roomNotFound)
  | some room =>
      match session.user_id with
      | none => (state, .error unauthenticated)
      | some user_id =>
          if room.participants.contains user_id then
            let already_subscribed := (room.subscribers subscribe.stream_id).contains user_id
            let requests_keyframe_on_subscribe :=
              room.published_streams[subscribe.stream_id]?.any fun stream =>
                stream.media_kind == .screen
            match room.subscribe subscribe.stream_id user_id with
            | none => (state, .error streamNotFound)
            | some room =>
                let state := state.setRoom subscribe.room_id room
                -- a new viewer of a screen has nothing to decode before the next keyframe
                (if !already_subscribed && requests_keyframe_on_subscribe then
                    state.registerKeyframeRequest subscribe.stream_id .newSubscriber
                  else state,
                  .streamSubscribed ⟨subscribe.room_id, subscribe.stream_id⟩)
          else (state, .error ⟨"not_in_room", "join room before subscribing"⟩)

/-- The `UnsubscribeStream` arm. -/
def unsubscribeStream (state : ControlState) (session : Session)
    (unsubscribe : UnsubscribeStream) : ControlState × ServerControl :=
  let response :=
    ServerControl.streamUnsubscribed ⟨unsubscribe.room_id, unsubscribe.stream_id⟩
  match state.rooms[unsubscribe.room_id]?, session.user_id with
  | some room, some user_id =>
      let state := state.setRoom unsubscribe.room_id
        (room.unsubscribe unsubscribe.stream_id user_id)
      (state.removeViewerStats unsubscribe.stream_id user_id, response)
  -- answered all the same
  | _, _ => (state, response)

def requestKeyframe (state : ControlState) (session : Session) (request : RequestKeyframe) :
    ControlState × ServerControl :=
  match state.participantRoom session request.room_id
      "join room before requesting a keyframe" with
  | .error error => (state, .error error)
  | .ok (user_id, room) =>
      match room.published_streams[request.stream_id]? with
      | none => (state, .error streamNotFound)
      | some stream =>
          let is_subscriber := (room.subscribers request.stream_id).contains user_id
          -- the publisher may ask for its own stream
          if stream.publisher_id ≠ user_id ∧ is_subscriber = false then
            (state, .error ⟨"not_subscribed",
              "subscribe to the stream before requesting a keyframe"⟩)
          else
            (state.registerKeyframeRequest request.stream_id request.reason,
              .requestKeyframe request)

/-! ## Remote input -/

def sendRemoteInput (state : ControlState) (session : Session) (clock : Clock)
    (input : SendRemoteInput) : ControlState × ServerControl :=
  match state.participantRoom session input.room_id "join room before sending remote input" with
  | .error error => (state, .error error)
  | .ok (user_id, room) =>
      match room.published_streams[input.stream_id]? with
      | none => (state, .error streamNotFound)
      | some stream =>
          if stream.media_kind ≠ .screen then
            (state, .error ⟨"media_kind_mismatch",
              "remote input can only target screen streams"⟩)
          else if (room.subscribers input.stream_id).contains user_id = false then
            (state, .error ⟨"not_subscribed",
              "subscribe to the screen stream before sending remote input"⟩)
          else
            match sanitizeRemoteInputKind input.kind with
            | .error error => (state, .error error)
            | .ok kind =>
                let event : RemoteInputEvent :=
                  { sender_user_id := user_id
                    sequence_number := input.sequence_number
                    event_time_micros :=
                      -- without a time of its own the event gets the time of its arrival
                      if input.event_time_micros = 0 then clock.first
                      else input.event_time_micros
                    kind := kind }
                (state.queueRemoteInput input.stream_id event,
                  .remoteInputQueued
                    { room_id := input.room_id
                      stream_id := input.stream_id
                      publisher_id := stream.publisher_id
                      -- the queue once the oldest events have made room
                      queued_events :=
                        min ((state.remoteInputQueue input.stream_id).length
                          - state.excessRemoteInput input.stream_id + 1) u16Max
                      dropped_events := min (state.excessRemoteInput input.stream_id) u16Max })

/-- `validate_remote_input_publisher`. -/
def validateRemoteInputPublisher (state : ControlState) (session : Session) (room_id : RoomId)
    (stream_id : StreamId) : Option ControlError :=
  match state.publisherStream session room_id stream_id
      "only the stream publisher can poll remote input" with
  | .error error => some error
  | .ok (_, stream) =>
      if stream.media_kind ≠ .screen then
        some ⟨"media_kind_mismatch", "remote input can only target screen streams"⟩
      else none

def pollRemoteInput (state : ControlState) (session : Session) (poll : PollRemoteInput) :
    ControlState × ServerControl :=
  match state.validateRemoteInputPublisher session poll.room_id poll.stream_id with
  | some error => (state, .error error)
  | none =>
      let max_events := min (max poll.max_events 1) maxRemoteInputBatchEvents
      (state.drainRemoteInput poll.stream_id max_events,
        .remoteInputBatch ⟨poll.room_id, poll.stream_id,
          (state.remoteInputQueue poll.stream_id).take max_events⟩)

/-! ## Publisher feedback -/

def viewerLatencyMs (report : ViewerStatsReport) : Nat :=
  if 0 < report.calibrated_latency_ms then report.calibrated_latency_ms
  else report.estimated_latency_ms

def viewerIsDegraded (report : ViewerStatsReport) : Bool :=
  0 < report.lost_packets || 0 < report.dropped_frames || 120 < report.jitter_buffer_ms ||
    200 < viewerLatencyMs report || 80 < report.reassembly_ms_p95 ||
    40 < report.decode_ms_p95 || 40 < report.render_ms_p95 ||
    -- a rate of zero has not been measured
    (0 < report.render_fps && report.render_fps < 15)

/-- The reports about a stream, in the order of their viewers. -/
def streamReports (state : ControlState) (stream_id : StreamId) : List ViewerStatsReport :=
  values ((state.viewer_stats[stream_id]?).getD ∅)

def aggregatePublisherFeedback (state : ControlState) (room_id : RoomId) (stream_id : StreamId) :
    PublisherFeedback :=
  let target := state.streamTarget stream_id
  let reports := state.streamReports stream_id
  { room_id := room_id
    stream_id := stream_id
    aggregate_available_bitrate_bps := target.bitrate_bps
    target_frames_per_second := target.frames_per_second
    target_width := target.width
    target_height := target.height
    degraded_viewer_count := reports.foldl
      (fun count report => if viewerIsDegraded report then satAdd u32Max count 1 else count) 0
    total_viewer_count := (state.subscribersForStream stream_id).length
    keyframe_requested := state.pending_keyframe_requests.contains stream_id ||
      reports.any fun report => 0 < report.lost_packets || 0 < report.dropped_frames }

/-- The target one adaptation step below `target`: bitrate first, then frame rate, then
resolution. -/
def reducedTarget (target : StreamTarget) : StreamTarget :=
  let reduced_bitrate := satMul u32Max target.bitrate_bps degradedBitratePercent / 100
  let new_bitrate := max reduced_bitrate minTargetBitrateBps
  let new_fps :=
    if new_bitrate = target.bitrate_bps ∧ minTargetFramesPerSecond < target.frames_per_second then
      max (satMul u16Max target.frames_per_second degradedBitratePercent / 100)
        minTargetFramesPerSecond
    else target.frames_per_second
  let resolution :=
    if new_bitrate = target.bitrate_bps ∧ new_fps = target.frames_per_second then
      reduceResolution target.width target.height
    else (target.width, target.height)
  { bitrate_bps := new_bitrate
    frames_per_second := new_fps
    width := resolution.1
    height := resolution.2 }

def adaptivePublisherFeedback (state : ControlState) (room_id : RoomId) (stream_id : StreamId) :
    ControlState × PublisherFeedback :=
  let feedback := state.aggregatePublisherFeedback room_id stream_id
  -- half of the viewers or more are degraded
  if 0 < feedback.total_viewer_count ∧
      feedback.total_viewer_count ≤ satMul u32Max feedback.degraded_viewer_count 2 then
    let target := state.streamTarget stream_id
    let new := reducedTarget target
    let state := state.updateStreamTarget stream_id new.bitrate_bps new.frames_per_second
      new.width new.height
    let feedback :=
      { feedback with
        aggregate_available_bitrate_bps := new.bitrate_bps
        target_frames_per_second := new.frames_per_second
        target_width := new.width
        target_height := new.height }
    -- a stream of a new size starts with a keyframe
    if (new.width, new.height) ≠ (target.width, target.height) then
      (state.registerKeyframeRequest stream_id .streamConfigChanged,
        { feedback with keyframe_requested := true })
    else (state, feedback)
  else (state, feedback)

/-- The `ViewerStats` arm. -/
def viewerStats (state : ControlState) (session : Session) (report : ViewerStatsReport) :
    ControlState × ServerControl :=
  let state :=
    match session.user_id with
    | none => state
    | some user_id => state.recordViewerStats user_id report
  (state, .publisherFeedback
    (state.aggregatePublisherFeedback report.room_id report.stream_id))

def pollPublisherFeedback (state : ControlState) (session : Session)
    (poll : PollPublisherFeedback) : ControlState × ServerControl :=
  match session.user_id with
  | none => (state, .error unauthenticated)
  | some user_id =>
      if state.publisherForStream poll.stream_id = some user_id then
        let (state, feedback) := state.adaptivePublisherFeedback poll.room_id poll.stream_id
        ({ state with
            -- the poll hands the request over, so it is no longer pending
            pending_keyframe_requests := state.pending_keyframe_requests.erase poll.stream_id },
          .publisherFeedback feedback)
      else
        (state, .error ⟨"not_publisher",
          "only the stream publisher can poll publisher feedback"⟩)

/-! ## Stream settings -/

def setStreamConfig (state : ControlState) (session : Session) (config : StreamConfig) :
    ControlState × ServerControl :=
  match state.publisherStream session config.room_id config.stream_id
      "only the stream publisher can set stream config" with
  | .error error => (state, .error error)
  | .ok (room, stream) =>
      if stream.codec ≠ config.codec then
        (state, .error ⟨"codec_mismatch",
          "stream config codec must match published stream codec"⟩)
      else
        let config := clampedConfig config
        (state.setRoom config.room_id
            (setStream room config.stream_id (withConfig stream config)),
          .streamConfig config)

/-- `validate_publisher_control`. -/
def validatePublisherControl (state : ControlState) (session : Session) (room_id : RoomId)
    (stream_id : StreamId) : Option ControlError :=
  match state.publisherStream session room_id stream_id
      "only the stream publisher can update target media settings" with
  | .error error => some error
  | .ok _ => none

def setTargetBitrate (state : ControlState) (session : Session) (target : SetTargetBitrate) :
    ControlState × ServerControl :=
  match state.validatePublisherControl session target.room_id target.stream_id with
  | some error => (state, .error error)
  | none =>
      let current := state.streamTarget target.stream_id
      let bitrate_bps := clamp minTargetBitrateBps maxTargetBitrateBps target.bitrate_bps
      let state := state.updateStreamTarget target.stream_id bitrate_bps
        current.frames_per_second current.width current.height
      (state, .publisherFeedback
        (state.aggregatePublisherFeedback target.room_id target.stream_id))

def setTargetFramerate (state : ControlState) (session : Session) (target : SetTargetFramerate) :
    ControlState × ServerControl :=
  match state.validatePublisherControl session target.room_id target.stream_id with
  | some error => (state, .error error)
  | none =>
      let current := state.streamTarget target.stream_id
      let frames_per_second := clamp minTargetFramesPerSecond maxTargetFramesPerSecond
        target.frames_per_second
      let state := state.updateStreamTarget target.stream_id current.bitrate_bps
        frames_per_second current.width current.height
      (state, .publisherFeedback
        (state.aggregatePublisherFeedback target.room_id target.stream_id))

def pollStreamConfig (state : ControlState) (session : Session) (room_id : RoomId)
    (stream_id : StreamId) : ServerControl :=
  match state.participantRoom session room_id "join room before polling stream config" with
  | .error error => .error error
  | .ok (_, room) =>
      match room.published_streams[stream_id]? with
      | none => .error streamNotFound
      | some stream =>
          match stream.config with
          | some config => .streamConfig config
          | none => .error ⟨"stream_config_unavailable",
              "publisher has not sent stream config yet"⟩

def pollStreamMetrics (state : ControlState) (session : Session) (room_id : RoomId)
    (stream_id : StreamId) : ServerControl :=
  match state.participantRoom session room_id "join room before polling stream metrics" with
  | .error error => .error error
  | .ok (_, room) =>
      if room.published_streams.contains stream_id then
        .streamMetrics (((state.stream_metrics[stream_id]?).getD .empty).snapshot room_id
          stream_id (room.subscribers stream_id).size)
      else .error streamNotFound

/-! ## Dispatch -/

/-- The relay after a request: state, session and answer. -/
structure Handled where
  state : ControlState
  session : Session
  message : ServerControl

/-- The answer of a handler that leaves the session alone. -/
def Handled.of (session : Session) (result : ControlState × ServerControl) : Handled where
  state := result.1
  session := session
  message := result.2

/-- The `match` of `handle_client_envelope`. -/
def handleMessage (state : ControlState) (session : Session) (clock : Clock) :
    ClientControl → Handled
  | .hello hello =>
      let (state, session, message) := state.hello session hello
      ⟨state, session, message⟩
  | .ping ping => ⟨state, session, ControlState.ping session ping⟩
  | .timeSync time_sync => ⟨state, session, ControlState.timeSync session clock time_sync⟩
  | .authenticate authenticate =>
      let (session, message) := state.authenticate session authenticate
      ⟨state, session, message⟩
  | .createRoom create => .of session (state.createRoom session create)
  | .listRooms => ⟨state, session, .roomList state.listRooms⟩
  | .joinRoom join => .of session (state.joinRoom session join)
  | .listParticipants list => ⟨state, session, state.listParticipants session list.room_id⟩
  | .publishStream publish => .of session (state.publishStream session publish)
  | .unpublishStream unpublish => .of session (state.unpublishStream session unpublish)
  | .listStreams list => ⟨state, session, state.listStreams session list.room_id⟩
  | .subscribeStream subscribe => .of session (state.subscribeStream session subscribe)
  | .unsubscribeStream unsubscribe => .of session (state.unsubscribeStream session unsubscribe)
  | .leaveRoom leave => .of session (state.leave session leave)
  | .setVoiceState voice_state => .of session (state.setVoiceState session voice_state)
  | .setStreamConfig config => .of session (state.setStreamConfig session config)
  | .pollStreamConfig poll =>
      ⟨state, session, state.pollStreamConfig session poll.room_id poll.stream_id⟩
  | .pollStreamMetrics poll =>
      ⟨state, session, state.pollStreamMetrics session poll.room_id poll.stream_id⟩
  | .requestKeyframe request => .of session (state.requestKeyframe session request)
  | .sendRemoteInput input => .of session (state.sendRemoteInput session clock input)
  | .pollRemoteInput poll => .of session (state.pollRemoteInput session poll)
  | .viewerStats report => .of session (state.viewerStats session report)
  | .pollPublisherFeedback poll => .of session (state.pollPublisherFeedback session poll)
  | .setTargetBitrate target => .of session (state.setTargetBitrate session target)
  | .setTargetFramerate target => .of session (state.setTargetFramerate session target)

/-- The relay after an envelope: state, session and the answering envelope. -/
structure Reply where
  state : ControlState
  session : Session
  response : ServerEnvelope

/-- `handle_client_envelope`. The envelope's own protocol version is checked when it is decoded,
not here. -/
def handleClientEnvelope (state : ControlState) (session : Session) (clock : Clock)
    (envelope : ClientEnvelope) : Reply :=
  match state.authorizationError session envelope.message with
  | some error => ⟨state, session, .new envelope.request_id (.error error)⟩
  | none =>
      let handled := state.handleMessage session clock envelope.message
      ⟨handled.state, handled.session, .new envelope.request_id handled.message⟩

end ControlState

end TeamView.Relay
