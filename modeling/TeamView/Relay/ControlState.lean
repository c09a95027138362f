import TeamView.Lib.BTree
import TeamView.Lib.MachineInt
import TeamView.Protocol.Packet
import TeamView.Relay.Metrics
import TeamView.Relay.Room

set_option autoImplicit false

/-! # The control state of the relay

The state record of `crates/relay-server/src/control.rs`, its lookups and the updates its
handlers share. A handler that the source writes with `&mut self` returns the new state here.

`next_room_id` and `next_user_id` are `u64` counters that a run would have to increment `2^64`
times to overflow; they are unbounded here, and so are the sizes the source casts to `u32`.
-/

namespace TeamView.Relay

open TeamView.Protocol BTree MachineInt

/-! ## Constants -/

def defaultTargetBitrateBps : Nat := 4000000
def defaultTargetFramesPerSecond : Nat := 30
def minTargetBitrateBps : Nat := 16000
def maxTargetBitrateBps : Nat := 16000000
def minTargetFramesPerSecond : Nat := 5
def maxTargetFramesPerSecond : Nat := 120
def degradedBitratePercent : Nat := 80
def minTargetWidth : Nat := 320
def minTargetHeight : Nat := 180
def maxTargetWidth : Nat := 7680
def maxTargetHeight : Nat := 4320
def maxRemoteInputQueueEvents : Nat := 256
def maxRemoteInputBatchEvents : Nat := 64
def defaultMaxRooms : Nat := 128
def defaultMaxParticipantsPerRoom : Nat := 64
def defaultMaxStreamsPerRoom : Nat := 8

/-! ## State -/

structure ControlLimits where
  max_rooms : Nat
  max_participants_per_room : Nat
  max_streams_per_room : Nat
  deriving DecidableEq

/-- `ControlLimits::default`. -/
def ControlLimits.standard : ControlLimits where
  max_rooms := defaultMaxRooms
  max_participants_per_room := defaultMaxParticipantsPerRoom
  max_streams_per_room := defaultMaxStreamsPerRoom

def ControlLimits.sanitized (limits : ControlLimits) : ControlLimits where
  max_rooms := max limits.max_rooms 1
  max_participants_per_room := max limits.max_participants_per_room 1
  max_streams_per_room := max limits.max_streams_per_room 1

structure StreamTarget where
  bitrate_bps : Nat
  frames_per_second : Nat
  width : Nat
  height : Nat
  deriving DecidableEq

structure ControlState where
  rooms : BTreeMap RoomId Room
  display_names : BTreeMap UserId String
  viewer_stats : BTreeMap StreamId (BTreeMap UserId ViewerStatsReport)
  voice_states : BTreeMap RoomId (BTreeMap UserId VoiceState)
  pending_keyframe_requests : BTreeMap StreamId KeyframeReason
  pending_remote_input : BTreeMap StreamId (List RemoteInputEvent)
  stream_metrics : BTreeMap StreamId StreamForwardingMetrics
  access_token : Option String
  limits : ControlLimits
  next_room_id : RoomId
  next_user_id : UserId

namespace ControlState

def new : ControlState where
  rooms := ∅
  display_names := ∅
  viewer_stats := ∅
  voice_states := ∅
  pending_keyframe_requests := ∅
  pending_remote_input := ∅
  stream_metrics := ∅
  access_token := none
  limits := .standard
  next_room_id := 1
  next_user_id := 1

def withAccessToken (access_token : String) : ControlState :=
  { new with access_token := some access_token }

def withLimits (limits : ControlLimits) : ControlState :=
  { new with limits := limits.sanitized }

def withAccessTokenAndLimits (access_token : String) (limits : ControlLimits) : ControlState :=
  { withLimits limits with access_token := some access_token }

/-! ## Lookups -/

def requiresAccessToken (state : ControlState) : Bool := state.access_token.isSome

/-- The first room, in the order of the room ids, that publishes the stream, with its id and
the published stream: the search that `published_stream`, `voice_state_for_stream` and
`update_stream_target` each make. -/
def streamEntry (state : ControlState) (stream_id : StreamId) :
    Option (RoomId × Room × PublishedStream) :=
  findSome (fun room_id room =>
    room.published_streams[stream_id]?.map fun stream => (room_id, room, stream)) state.rooms

def publishedStream (state : ControlState) (stream_id : StreamId) : Option PublishedStream :=
  (state.streamEntry stream_id).map fun entry => entry.2.2

def publisherForStream (state : ControlState) (stream_id : StreamId) : Option UserId :=
  (state.publishedStream stream_id).map fun stream => stream.publisher_id

def subscribersForStream (state : ControlState) (stream_id : StreamId) : List UserId :=
  (state.rooms.toList.filter fun e => e.2.published_streams.contains stream_id).flatMap
    fun e => (e.2.subscribers stream_id).toList

def voiceState (state : ControlState) (room_id : RoomId) (user_id : UserId) : Option VoiceState :=
  getNested state.voice_states room_id user_id

def voiceStateForStream (state : ControlState) (stream_id : StreamId) (user_id : UserId) :
    Option VoiceState :=
  match state.streamEntry stream_id with
  | none => none
  | some (room_id, _, _) => state.voiceState room_id user_id

def displayNameForUser (state : ControlState) (user_id : UserId) : String :=
  state.display_names[user_id]?.getD s!"user-{user_id}"

def voicePublisherCanSend (state : ControlState) (stream_id : StreamId) (user_id : UserId) : Bool :=
  match state.voiceStateForStream stream_id user_id with
  | none => true
  | some voice_state => !voice_state.muted && (!voice_state.push_to_talk || voice_state.speaking)

def streamTarget (state : ControlState) (stream_id : StreamId) : StreamTarget :=
  match state.publishedStream stream_id with
  | some stream =>
      { bitrate_bps := stream.target_bitrate_bps
        frames_per_second := stream.target_frames_per_second
        width := stream.target_width
        height := stream.target_height }
  | none =>
      { bitrate_bps := defaultTargetBitrateBps
        frames_per_second := defaultTargetFramesPerSecond
        width := 0
        height := 0 }

/-! ## Shared updates -/

/-- Store `room` under `room_id`: what a handler leaves after mutating a room in place. -/
def setRoom (state : ControlState) (room_id : RoomId) (room : Room) : ControlState :=
  { state with rooms := state.rooms.insert room_id room }

/-- The voice state of a participant who has never set one. -/
def defaultVoiceState (room_id : RoomId) (user_id : UserId) : VoiceState where
  room_id := room_id
  user_id := user_id
  muted := false
  deafened := false
  push_to_talk := false
  speaking := true

def ensureVoiceState (state : ControlState) (room_id : RoomId) (user_id : UserId) :
    ControlState :=
  let room_voice_states := (state.voice_states[room_id]?).getD ∅
  { state with
    voice_states := state.voice_states.insert room_id
      (if room_voice_states.contains user_id then room_voice_states
       else room_voice_states.insert user_id (defaultVoiceState room_id user_id)) }

def removeVoiceState (state : ControlState) (room_id : RoomId) (user_id : UserId) :
    ControlState :=
  { state with voice_states := eraseNested state.voice_states room_id user_id }

def removeViewerStats (state : ControlState) (stream_id : StreamId) (user_id : UserId) :
    ControlState :=
  { state with viewer_stats := eraseNested state.viewer_stats stream_id user_id }

def removeStreamState (state : ControlState) (stream_id : StreamId) : ControlState :=
  { state with
    viewer_stats := state.viewer_stats.erase stream_id
    pending_keyframe_requests := state.pending_keyframe_requests.erase stream_id
    pending_remote_input := state.pending_remote_input.erase stream_id
    stream_metrics := state.stream_metrics.erase stream_id }

def removeRoomIfEmpty (state : ControlState) (room_id : RoomId) : ControlState :=
  match state.rooms[room_id]? with
  | none => state
  | some room =>
      if room.isEmpty then
        { state with
          rooms := state.rooms.erase room_id
          voice_states := state.voice_states.erase room_id }
      else state

def registerKeyframeRequest (state : ControlState) (stream_id : StreamId)
    (reason : KeyframeReason) : ControlState :=
  { state with
    pending_keyframe_requests := state.pending_keyframe_requests.insert stream_id reason }

def recordMediaForwardSummary (state : ControlState) (packet : MediaPacket)
    (summary : MediaForwardSummary) (ingress_bytes received_at_micros server_route_ms : Nat) :
    ControlState :=
  let stream_id := packet.header.streamId
  if (state.publishedStream stream_id).isNone then state
  else
    { state with
      stream_metrics := state.stream_metrics.insert stream_id
        (((state.stream_metrics[stream_id]?).getD .empty).recordForwarding ingress_bytes
          summary.queued summary.dropped received_at_micros server_route_ms) }

def recordViewerStats (state : ControlState) (user_id : UserId) (report : ViewerStatsReport) :
    ControlState :=
  { state with
    viewer_stats := insertNested state.viewer_stats report.stream_id user_id report }

/-! ## Remote input -/

/-- The events waiting for the publisher of a stream; no entry means none. -/
def remoteInputQueue (state : ControlState) (stream_id : StreamId) : List RemoteInputEvent :=
  (state.pending_remote_input[stream_id]?).getD []

/-- How many of the oldest events the loop of `send_remote_input` pops before it appends one. -/
def excessRemoteInput (state : ControlState) (stream_id : StreamId) : Nat :=
  (state.remoteInputQueue stream_id).length - (maxRemoteInputQueueEvents - 1)

def queueRemoteInput (state : ControlState) (stream_id : StreamId) (event : RemoteInputEvent) :
    ControlState :=
  { state with
    pending_remote_input := state.pending_remote_input.insert stream_id
      ((state.remoteInputQueue stream_id).drop (state.excessRemoteInput stream_id) ++ [event]) }

/-- The oldest `max_events` events leave the queue, and an empty queue leaves the map. -/
def drainRemoteInput (state : ControlState) (stream_id : StreamId) (max_events : Nat) :
    ControlState :=
  match state.pending_remote_input[stream_id]? with
  | none => state
  | some queue =>
      if (queue.drop max_events).isEmpty then
        { state with pending_remote_input := state.pending_remote_input.erase stream_id }
      else
        { state with
          pending_remote_input :=
            state.pending_remote_input.insert stream_id (queue.drop max_events) }

/-! ## Leaving -/

/-- The streams of a room that a user subscribes to. -/
def subscribedStreams (room : Room) (user_id : UserId) : List StreamId :=
  (room.subscriptions.toList.filter fun e => e.2.contains user_id).map Prod.fst

def leaveRoom (state : ControlState) (user_id : UserId) (room_id : RoomId) : ControlState :=
  match state.rooms[room_id]? with
  | none => state
  | some room =>
      let subscribed_streams := subscribedStreams room user_id
      let removed_streams := room.streamsPublishedBy user_id
      let state := state.setRoom room_id (room.depart user_id)
      let state := subscribed_streams.foldl
        (fun state stream_id => state.removeViewerStats stream_id user_id) state
      let state := state.removeVoiceState room_id user_id
      let state := removed_streams.foldl removeStreamState state
      state.removeRoomIfEmpty room_id

/-- The rooms `disconnect_user` makes the user leave. -/
def affectedRooms (state : ControlState) (user_id : UserId) : List RoomId :=
  (state.rooms.toList.filter fun e =>
    e.2.participants.contains user_id ||
      (values e.2.published_streams).any fun stream => stream.publisher_id == user_id).map Prod.fst

/-- What `disconnect_user` removes outside the rooms. -/
def forgetUser (state : ControlState) (user_id : UserId) : ControlState :=
  { state with
    viewer_stats := eraseEverywhere state.viewer_stats user_id
    display_names := state.display_names.erase user_id }

def disconnectUser (state : ControlState) (user_id : UserId) : ControlState :=
  ((state.affectedRooms user_id).foldl
    (fun state room_id => state.leaveRoom user_id room_id) state).forgetUser user_id

/-! ## Targets -/

def clampTargetResolution (width height : Nat) : Nat × Nat :=
  if width = 0 ∨ height = 0 then (0, 0)
  else (clamp minTargetWidth maxTargetWidth width, clamp minTargetHeight maxTargetHeight height)

def reduceResolution (width height : Nat) : Nat × Nat :=
  if width = 0 ∨ height = 0 then (width, height)
  else
    let reduced_width := satMul u32Max width degradedBitratePercent / 100
    let new_width := min (max reduced_width minTargetWidth) width
    let new_height := min (max (new_width * height / max width 1) minTargetHeight) height
    if new_height = height ∧ new_width = width then (width, height)
    else if new_height = height then
      let new_width := new_height * width / max height 1
      clampTargetResolution (min (max new_width minTargetWidth) width) new_height
    else clampTargetResolution new_width new_height

/-- The stream after its targets are set: the record that `update_stream_target` leaves. -/
def withTarget (stream : PublishedStream) (bitrate_bps frames_per_second width height : Nat) :
    PublishedStream :=
  let fps := clamp minTargetFramesPerSecond maxTargetFramesPerSecond frames_per_second
  let resolution := clampTargetResolution width height
  { stream with
    target_bitrate_bps := clamp minTargetBitrateBps maxTargetBitrateBps bitrate_bps
    target_frames_per_second := fps
    target_width := resolution.1
    target_height := resolution.2
    config := stream.config.map fun config =>
      { config with frames_per_second := fps, width := resolution.1, height := resolution.2 } }

/-- The configuration a publisher sends, brought into range. -/
def clampedConfig (config : StreamConfig) : StreamConfig :=
  let resolution := clampTargetResolution config.width config.height
  { config with
    frames_per_second :=
      clamp minTargetFramesPerSecond maxTargetFramesPerSecond config.frames_per_second
    width := resolution.1
    height := resolution.2 }

/-- The stream after `config` is stored: its targets follow the configuration. -/
def withConfig (stream : PublishedStream) (config : StreamConfig) : PublishedStream :=
  { stream with
    target_frames_per_second := config.frames_per_second
    target_width := config.width
    target_height := config.height
    config := some config }

/-- `room` with `stream` stored under `stream_id`, for a stream mutated in place. -/
def setStream (room : Room) (stream_id : StreamId) (stream : PublishedStream) : Room :=
  { room with published_streams := room.published_streams.insert stream_id stream }

def updateStreamTarget (state : ControlState) (stream_id : StreamId)
    (bitrate_bps frames_per_second width height : Nat) : ControlState :=
  match state.streamEntry stream_id with
  | none => state
  | some (room_id, room, stream) =>
      state.setRoom room_id
        (setStream room stream_id (withTarget stream bitrate_bps frames_per_second width height))

end ControlState

end TeamView.Relay
