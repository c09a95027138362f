set_option autoImplicit false

/-! # Control messages

The messages of the reliable control plane (`crates/protocol/src/control.rs`) and the codec
ids (`codec.rs`). Record fields keep the names of the source. Identifiers, counters and media
settings of the control plane are natural numbers here: the relay compares and clamps them,
and the places where it saturates do so explicitly in the handlers.
-/

namespace TeamView.Protocol

/-- `PROTOCOL_VERSION`. -/
def protocolVersion : Nat := 1

abbrev RoomId := Nat
abbrev UserId := Nat
abbrev StreamId := Nat
abbrev RequestId := Nat

inductive CodecId where
  | h264
  | av1
  | hevc
  | opus
  deriving DecidableEq

inductive MediaKind where
  | screen
  | voice
  | probe
  deriving DecidableEq

inductive KeyframeReason where
  | newSubscriber
  | packetLoss
  | decoderRecovery
  | streamConfigChanged
  deriving DecidableEq

inductive PointerButton where
  | left
  | right
  | middle
  | x1
  | x2
  deriving DecidableEq

inductive RemoteInputKind where
  | pointerMove (normalized_x normalized_y : Nat)
  | pointerButton (button : PointerButton) (pressed : Bool) (normalized_x normalized_y : Nat)
  | pointerWheel (delta_x delta_y : Int) (normalized_x normalized_y : Nat)
  | key (key_code : Nat) (pressed : Bool)
  | text (text : String)
  deriving DecidableEq

structure ControlError where
  code : String
  message : String
  deriving DecidableEq

/-! ## Requests -/

structure Hello where
  protocol_version : Nat
  client_name : String
  deriving DecidableEq

structure Ping where
  nonce : Nat
  deriving DecidableEq

structure TimeSyncRequest where
  client_send_time_micros : Nat
  deriving DecidableEq

structure Authenticate where
  token : String
  deriving DecidableEq

structure CreateRoom where
  name : String
  deriving DecidableEq

structure JoinRoom where
  room_id : RoomId
  deriving DecidableEq

structure ListParticipants where
  room_id : RoomId
  deriving DecidableEq

structure PublishStream where
  room_id : RoomId
  stream_id : StreamId
  codec : CodecId
  media_kind : MediaKind
  deriving DecidableEq

structure UnpublishStream where
  room_id : RoomId
  stream_id : StreamId
  deriving DecidableEq

structure ListStreams where
  room_id : RoomId
  deriving DecidableEq

structure SubscribeStream where
  room_id : RoomId
  stream_id : StreamId
  deriving DecidableEq

structure UnsubscribeStream where
  room_id : RoomId
  stream_id : StreamId
  deriving DecidableEq

structure LeaveRoom where
  room_id : RoomId
  deriving DecidableEq

structure SetVoiceState where
  room_id : RoomId
  muted : Bool
  deafened : Bool
  push_to_talk : Bool
  speaking : Bool
  deriving DecidableEq

structure StreamConfig where
  room_id : RoomId
  stream_id : StreamId
  codec : CodecId
  width : Nat
  height : Nat
  frames_per_second : Nat
  timebase_hz : Nat
  deriving DecidableEq

structure PollStreamConfig where
  room_id : RoomId
  stream_id : StreamId
  deriving DecidableEq

structure PollStreamMetrics where
  room_id : RoomId
  stream_id : StreamId
  deriving DecidableEq

structure RequestKeyframe where
  room_id : RoomId
  stream_id : StreamId
  reason : KeyframeReason
  deriving DecidableEq

structure SendRemoteInput where
  room_id : RoomId
  stream_id : StreamId
  sequence_number : Nat
  event_time_micros : Nat
  kind : RemoteInputKind
  deriving DecidableEq

structure PollRemoteInput where
  room_id : RoomId
  stream_id : StreamId
  max_events : Nat
  deriving DecidableEq

structure ViewerStatsReport where
  room_id : RoomId
  stream_id : StreamId
  received_packets : Nat
  lost_packets : Nat
  decoded_frames : Nat
  dropped_frames : Nat
  jitter_buffer_ms : Nat
  estimated_latency_ms : Nat
  calibrated_latency_ms : Nat
  reassembly_ms_p50 : Nat
  reassembly_ms_p95 : Nat
  decode_ms_p50 : Nat
  decode_ms_p95 : Nat
  render_ms_p50 : Nat
  render_ms_p95 : Nat
  render_fps : Nat
  deriving DecidableEq

structure PollPublisherFeedback where
  room_id : RoomId
  stream_id : StreamId
  deriving DecidableEq

structure SetTargetBitrate where
  room_id : RoomId
  stream_id : StreamId
  bitrate_bps : Nat
  deriving DecidableEq

structure SetTargetFramerate where
  room_id : RoomId
  stream_id : StreamId
  frames_per_second : Nat
  deriving DecidableEq

inductive ClientControl where
  | hello (hello : Hello)
  | ping (ping : Ping)
  | timeSync (time_sync : TimeSyncRequest)
  | authenticate (authenticate : Authenticate)
  | createRoom (create : CreateRoom)
  | listRooms
  | joinRoom (join : JoinRoom)
  | listParticipants (list : ListParticipants)
  | publishStream (publish : PublishStream)
  | unpublishStream (unpublish : UnpublishStream)
  | listStreams (list : ListStreams)
  | subscribeStream (subscribe : SubscribeStream)
  | unsubscribeStream (unsubscribe : UnsubscribeStream)
  | leaveRoom (leave : LeaveRoom)
  | setVoiceState (voice_state : SetVoiceState)
  | setStreamConfig (config : StreamConfig)
  | pollStreamConfig (poll : PollStreamConfig)
  | pollStreamMetrics (poll : PollStreamMetrics)
  | requestKeyframe (request : RequestKeyframe)
  | sendRemoteInput (input : SendRemoteInput)
  | pollRemoteInput (poll : PollRemoteInput)
  | viewerStats (report : ViewerStatsReport)
  | pollPublisherFeedback (poll : PollPublisherFeedback)
  | setTargetBitrate (target : SetTargetBitrate)
  | setTargetFramerate (target : SetTargetFramerate)
  deriving DecidableEq

/-! ## Responses -/

structure HelloAccepted where
  protocol_version : Nat
  server_name : String
  user_id : UserId
  display_name : String
  deriving DecidableEq

structure Pong where
  nonce : Nat
  deriving DecidableEq

structure TimeSyncResponse where
  client_send_time_micros : Nat
  server_receive_time_micros : Nat
  server_send_time_micros : Nat
  deriving DecidableEq

structure Authenticated where
  user_id : UserId
  display_name : String
  deriving DecidableEq

structure RoomCreated where
  room_id : RoomId
  name : String
  deriving DecidableEq

structure RoomSummary where
  room_id : RoomId
  name : String
  participant_count : Nat
  published_stream_count : Nat
  deriving DecidableEq

structure RoomList where
  rooms : List RoomSummary
  deriving DecidableEq

structure RoomJoined where
  room_id : RoomId
  participant_count : Nat
  deriving DecidableEq

structure ParticipantSummary where
  room_id : RoomId
  user_id : UserId
  display_name : String
  muted : Bool
  deafened : Bool
  push_to_talk : Bool
  speaking : Bool
  published_stream_count : Nat
  subscribed_stream_count : Nat
  deriving DecidableEq

structure ParticipantList where
  room_id : RoomId
  participants : List ParticipantSummary
  deriving DecidableEq

structure StreamPublished where
  room_id : RoomId
  stream_id : StreamId
  deriving DecidableEq

structure StreamUnpublished where
  room_id : RoomId
  stream_id : StreamId
  deriving DecidableEq

structure StreamSummary where
  room_id : RoomId
  stream_id : StreamId
  publisher_id : UserId
  codec : CodecId
  media_kind : MediaKind
  subscriber_count : Nat
  has_config : Bool
  target_bitrate_bps : Nat
  target_frames_per_second : Nat
  deriving DecidableEq

structure StreamList where
  room_id : RoomId
  streams : List StreamSummary
  deriving DecidableEq

structure StreamSubscribed where
  room_id : RoomId
  stream_id : StreamId
  deriving DecidableEq

structure StreamUnsubscribed where
  room_id : RoomId
  stream_id : StreamId
  deriving DecidableEq

structure RoomLeft where
  room_id : RoomId
  deriving DecidableEq

structure VoiceState where
  room_id : RoomId
  user_id : UserId
  muted : Bool
  deafened : Bool
  push_to_talk : Bool
  speaking : Bool
  deriving DecidableEq

structure RemoteInputQueued where
  room_id : RoomId
  stream_id : StreamId
  publisher_id : UserId
  queued_events : Nat
  dropped_events : Nat
  deriving DecidableEq

structure RemoteInputEvent where
  sender_user_id : UserId
  sequence_number : Nat
  event_time_micros : Nat
  kind : RemoteInputKind
  deriving DecidableEq

structure RemoteInputBatch where
  room_id : RoomId
  stream_id : StreamId
  events : List RemoteInputEvent
  deriving DecidableEq

structure StreamMetricsSnapshot where
  room_id : RoomId
  stream_id : StreamId
  ingress_packets : Nat
  ingress_bytes : Nat
  egress_queued_packets : Nat
  egress_dropped_packets : Nat
  egress_queue_packets : Nat
  egress_queue_media_ms : Nat
  subscriber_count : Nat
  last_ingress_time_micros : Nat
  server_route_ms_p50 : Nat
  server_route_ms_p95 : Nat
  deriving DecidableEq

structure PublisherFeedback where
  room_id : RoomId
  stream_id : StreamId
  aggregate_available_bitrate_bps : Nat
  target_frames_per_second : Nat
  target_width : Nat
  target_height : Nat
  degraded_viewer_count : Nat
  total_viewer_count : Nat
  keyframe_requested : Bool
  deriving DecidableEq

inductive ServerControl where
  | helloAccepted (accepted : HelloAccepted)
  | pong (pong : Pong)
  | timeSync (response : TimeSyncResponse)
  | authenticated (authenticated : Authenticated)
  | roomCreated (created : RoomCreated)
  | roomList (rooms : RoomList)
  | roomJoined (joined : RoomJoined)
  | participantList (participants : ParticipantList)
  | streamPublished (published : StreamPublished)
  | streamUnpublished (unpublished : StreamUnpublished)
  | streamList (streams : StreamList)
  | streamSubscribed (subscribed : StreamSubscribed)
  | streamUnsubscribed (unsubscribed : StreamUnsubscribed)
  | roomLeft (left : RoomLeft)
  | voiceStateUpdated (voice_state : VoiceState)
  | requestKeyframe (request : RequestKeyframe)
  | streamConfig (config : StreamConfig)
  | streamMetrics (metrics : StreamMetricsSnapshot)
  | remoteInputQueued (queued : RemoteInputQueued)
  | remoteInputBatch (batch : RemoteInputBatch)
  | publisherFeedback (feedback : PublisherFeedback)
  | error (error : ControlError)
  deriving DecidableEq

/-! ## Envelopes -/

/-- `ControlEnvelope<T>`. -/
structure ControlEnvelope (T : Type) where
  protocol_version : Nat
  request_id : RequestId
  message : T
  deriving DecidableEq

def ControlEnvelope.new {T : Type} (request_id : RequestId) (message : T) : ControlEnvelope T where
  protocol_version := protocolVersion
  request_id := request_id
  message := message

abbrev ClientEnvelope := ControlEnvelope ClientControl
abbrev ServerEnvelope := ControlEnvelope ServerControl

end TeamView.Protocol
