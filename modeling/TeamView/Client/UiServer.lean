import TeamView.Client.Channels
import TeamView.Client.Publishing
import TeamView.Lib.Flows

set_option autoImplicit false

/-! # The UI server

The requests of the desktop UI, one after another (`handle_ui_http_connection` and what it calls
in `crates/desktop-client/src/main.rs`). Each is a flow of requests to the relay: before each of
them other clients may act, and it or its answer may be lost (`Round`). The two media tasks run
beside the server and end somehow when they are stopped (`TaskOutcome`). The locks of
`UiServerState` are never poisoned, since nobody panics while holding one; the text of the HTTP
messages and the JSON document are left out.
-/

namespace TeamView.Client

open TeamView.Protocol TeamView.Relay BTree MachineInt Runs Flows

/-! ## Arguments -/

inductive Mode where
  | broadcaster
  | viewer
  deriving DecidableEq

/-- The arguments of a client with a UI. -/
structure UiArgs extends Args, ChannelArgs where
  mode : Mode
  voice_stream_id : Option StreamId
  media_frame_bytes : Nat
  voice_frame_bytes : Nat
  muted : Bool
  deafened : Bool
  push_to_talk : Bool
  ptt_active : Bool
  deriving DecidableEq

namespace UiArgs

/-- `voice_stream_id`, which is only asked for with `--media-kind both`. -/
def voiceStreamId (args : UiArgs) : Except String StreamId :=
  let voice_stream_id := args.voice_stream_id.getD (satAdd u32Max args.stream_id 1)
  if voice_stream_id = args.stream_id then
    .error "--voice-stream-id must be different from --stream-id for --media-kind both"
  else .ok voice_stream_id

def forMediaKind (args : UiArgs) (media_kind : MediaKindArg) (stream_id : StreamId) : UiArgs :=
  { args with media_kind, stream_id }

def activeMediaFps (args : UiArgs) : UInt16 :=
  match args.media_kind with
  | .voice => args.voice_fps
  | .screen | .both => args.media_fps

def activeMediaFrameBytes (args : UiArgs) : Nat :=
  match args.media_kind with
  | .voice => args.voice_frame_bytes
  | .screen | .both => args.media_frame_bytes

def syntheticBitrateBps (args : UiArgs) : Nat :=
  min (args.activeMediaFrameBytes * (max args.activeMediaFps 1).toNat * 8) u32Max

end UiArgs

/-! ## State -/

/-- The switches of `VoiceControlState`. -/
structure VoiceControlState where
  muted : Bool
  deafened : Bool
  push_to_talk : Bool
  ptt_active : Bool
  deriving DecidableEq

structure VoiceStatePatch where
  muted : Option Bool
  deafened : Option Bool
  push_to_talk : Option Bool
  ptt_active : Option Bool
  deriving DecidableEq

/-- `ScreenShareControlState`, without what it only shows. -/
structure ScreenShareControlState where
  sharing : Bool
  stream_id : StreamId
  deriving DecidableEq

/-- A media task, by the room and the stream that it sends to. -/
structure UiMediaTask where
  room_id : RoomId
  stream_id : StreamId
  deriving DecidableEq

structure UiServerState where
  selected_channel_id : Option RoomId
  local_voice : VoiceControlState
  local_screen_share : ScreenShareControlState
  screen_media_task : Option UiMediaTask
  voice_media_task : Option UiMediaTask
  deriving DecidableEq

def UiArgs.uiVoiceControlState (args : UiArgs) : VoiceControlState where
  muted := args.muted
  deafened := args.deafened
  push_to_talk := args.push_to_talk || args.ptt_active
  ptt_active := args.ptt_active

/-- `voice_speaking_from_state`. -/
def VoiceControlState.speaking (voice : VoiceControlState) : Bool :=
  !voice.muted && !voice.deafened && (!voice.push_to_talk || voice.ptt_active)

namespace UiServerState

def new (args : UiArgs) : UiServerState where
  selected_channel_id := args.channel_id.or args.room_id
  local_voice := args.uiVoiceControlState
  local_screen_share := ⟨false, args.stream_id⟩
  screen_media_task := none
  voice_media_task := none

/-- `update_voice`. -/
def updatedVoice (voice : VoiceControlState) (patch : VoiceStatePatch) : VoiceControlState :=
  let voice :=
    { muted := patch.muted.getD voice.muted
      deafened := patch.deafened.getD voice.deafened
      push_to_talk := patch.push_to_talk.getD voice.push_to_talk
      ptt_active := patch.ptt_active.getD voice.ptt_active : VoiceControlState }
  -- deafening mutes, muting ends the talk, and so does leaving push-to-talk
  let voice := if voice.deafened then { voice with muted := true, ptt_active := false } else voice
  let voice := if voice.muted then { voice with ptt_active := false } else voice
  if !voice.push_to_talk then { voice with ptt_active := false } else voice

def screenMediaActive (state : UiServerState) : Bool := state.screen_media_task.isSome

def voiceMediaActive (state : UiServerState) : Bool := state.voice_media_task.isSome

def keepRoomJoined (state : UiServerState) : Bool :=
  state.local_screen_share.sharing || state.selected_channel_id.isSome ||
    state.screenMediaActive || state.voiceMediaActive

end UiServerState

/-! ## Requests to the relay -/

/-- What becomes of a request on the connection. -/
inductive Fate where
  | answered
  | answerLost
  | requestLost
  deriving DecidableEq

/-- The fate of one request: what happens at the relay before it, and whether it gets there. -/
structure Round where
  others : List ControlEvent
  fate : Fate

/-- How a media task ends once it is told to stop. -/
inductive TaskOutcome where
  | finished
  | failed (error : String)
  | cancelled
  | panicked (error : String)
  deriving DecidableEq

/-- What `stop_ui_screen_media_task` and `stop_ui_voice_media_task` make of the end of a task. -/
def TaskOutcome.result (failed : String) : TaskOutcome → Except String Unit
  | .finished | .cancelled => .ok ()
  | .failed _ => .error failed
  | .panicked error => .error s!"{failed}: {error}"

/-- The UI server with everything around it: the relay at the other end, the fate of the requests
to come, and the end of the tasks. -/
structure UiWorld where
  link : ControlLink
  rounds : List Round
  screen_outcome : TaskOutcome
  voice_outcome : TaskOutcome
  state : UiServerState

abbrev UiFlow (α : Type) : Type := Flow UiWorld String α

/-- The state after the others have acted. -/
def ControlLink.waited (link : ControlLink) (others : List ControlEvent) : ControlLink :=
  { link with system := run ControlSystem.step link.system others }

namespace UiServer

/-- `ControlClient::send`. Once there are no rounds left the connection is gone. -/
def send (message : ClientControl) : UiFlow ServerControl := do
  let world ← get
  match world.rounds with
  | [] => throw "failed to open control stream"
  | round :: rounds =>
      let link := world.link.waited round.others
      match round.fate with
      | .requestLost =>
          set { world with link, rounds }
          throw "failed to open control stream"
      | .answerLost =>
          -- the relay has acted on the request, and the caller cannot know
          set { world with link := (link.send message).1, rounds }
          throw "timed out waiting for control response"
      | .answered =>
          set { world with link := (link.send message).1, rounds }
          return (link.send message).2

def ensureNotError (action : String) (answer : ServerControl) : UiFlow Unit :=
  liftExcept (ControlLink.ensureNotError action answer)

def listRooms : UiFlow (List RoomSummary) := do
  match ← send .listRooms with
  | .roomList list => return list.rooms
  | .error error => throw s!"list rooms failed: {error.message}"
  | _ => throw "unexpected list rooms response"

def joinRoom (room_id : RoomId) : UiFlow Unit := do
  let joined ← send (.joinRoom ⟨room_id⟩)
  ensureNotError "join room" joined

def leaveRoom (room_id : RoomId) : UiFlow Unit := do
  match ← send (.leaveRoom ⟨room_id⟩) with
  | .roomLeft _ => return
  | .error error => throw s!"leave room failed: {error.message}"
  | _ => throw "unexpected leave room response"

def setVoiceState (room_id : RoomId) (voice : VoiceControlState) : UiFlow Unit := do
  match ← send (.setVoiceState
    ⟨room_id, voice.muted, voice.deafened, voice.push_to_talk, voice.speaking⟩) with
  | .voiceStateUpdated _ => return
  | .error error => throw s!"set voice state failed: {error.message}"
  | _ => throw "unexpected set voice state response"

/-- `unpublish_stream_for_ui`. A stream that is not there or is somebody else's is as good as
unpublished. -/
def unpublishStreamForUi (room_id : RoomId) (stream_id : StreamId) : UiFlow Unit := do
  match ← send (.unpublishStream ⟨room_id, stream_id⟩) with
  | .streamUnpublished unpublished =>
      if unpublished.room_id = room_id ∧ unpublished.stream_id = stream_id then return
      else throw "unexpected unpublish response"
  | .error error =>
      if error.code ∈ ["stream_not_found", "room_not_found", "not_publisher"] then return
      else throw s!"unpublish stream failed: {error.message}"
  | _ => throw "unexpected unpublish response"

def formatRoomSummaries (rooms : List RoomSummary) : String :=
  if rooms.isEmpty then "none"
  else
    ", ".intercalate (rooms.map fun room =>
      s!"{room.room_id}:{room.name} participants={room.participant_count}" ++
        s!" streams={room.published_stream_count}")

def channelNotFound (room_id : RoomId) (rooms : List RoomSummary) : String :=
  s!"channel {room_id} was not found; available channels: {formatRoomSummaries rooms}"

def modifyState (f : UiServerState → UiServerState) : UiFlow Unit :=
  modify fun world => { world with state := f world.state }

def setSelectedChannelId (channel_id : Option RoomId) : UiFlow Unit :=
  modifyState fun state => { state with selected_channel_id := channel_id }

def setScreenSharing (sharing : Bool) : UiFlow Unit :=
  modifyState fun state =>
    { state with local_screen_share := { state.local_screen_share with sharing } }

def setScreenMediaTask (task : Option UiMediaTask) : UiFlow Unit :=
  modifyState fun state => { state with screen_media_task := task }

def setVoiceMediaTask (task : Option UiMediaTask) : UiFlow Unit :=
  modifyState fun state => { state with voice_media_task := task }

section Flows

-- what the operating system answers about the size of a capture source
variable (captureSourceSize : CaptureSource → Except String (UInt32 × UInt32)) (args : UiArgs)

def publishConfiguredStream (args : UiArgs) (room_id : RoomId) : UiFlow Unit := do
  let codec ← liftExcept args.codec
  let media_kind ← liftExcept args.protocolMediaKind
  let published ← send (.publishStream ⟨room_id, args.stream_id, codec, media_kind⟩)
  ensureNotError "publish stream" published
  let stream_config ← liftExcept (args.streamConfig captureSourceSize room_id)
  match ← send (.setStreamConfig stream_config) with
  | .streamConfig config =>
      if config = stream_config then return else throw "unexpected stream config response"
  | .error error => throw s!"set stream config failed: {error.message}"
  | _ => throw "unexpected stream config response"

def setPublisherTargetMedia (room_id : RoomId) (args : UiArgs) : UiFlow Unit := do
  let bitrate ← send (.setTargetBitrate ⟨room_id, args.stream_id, args.syntheticBitrateBps⟩)
  ensureNotError "set target bitrate" bitrate
  let framerate ← send
    (.setTargetFramerate ⟨room_id, args.stream_id, (max args.activeMediaFps 1).toNat⟩)
  ensureNotError "set target framerate" framerate

/-- `select_ui_state_channel_id`. -/
def selectUiStateChannelId (rooms : List RoomSummary) (selected_channel_override : Option RoomId) :
    Except String (Option RoomId) := do
  if rooms.isEmpty then return none
  match selected_channel_override.filter fun room_id => rooms.any (·.room_id = room_id) with
  | some room_id => return some room_id
  | none =>
      match ← args.selectedRoomId with
      | some room_id =>
          if rooms.any (·.room_id = room_id) then return some room_id
          else throw (channelNotFound room_id rooms)
      | none =>
          let channel_name ← args.selectedChannelName
          match selectViewerRoom rooms channel_name with
          | some room => return some room.room_id
          | none =>
              let available := formatRoomSummaries rooms
              throw s!"no channel matched name {repr channel_name}; available channels: {available}"

/-- `resolve_or_create_ui_channel_id`. -/
def resolveOrCreateUiChannelId : UiFlow RoomId := do
  let rooms ← listRooms
  match (← get).state.selected_channel_id with
  | some room_id =>
      if rooms.any (·.room_id = room_id) then return room_id
      else throw s!"selected {channelNotFound room_id rooms}"
  | none =>
      match ← liftExcept args.selectedRoomId with
      | some room_id =>
          if rooms.any (·.room_id = room_id) then return room_id
          else throw (channelNotFound room_id rooms)
      | none =>
          let channel_name ← liftExcept args.selectedChannelName
          match selectViewerRoom rooms channel_name with
          | some room => return room.room_id
          | none =>
              match ← send (.createRoom ⟨channel_name⟩) with
              | .roomCreated room => return room.room_id
              | .error error => throw s!"create room failed: {error.message}"
              | _ => throw "unexpected create room response"

/-! ## Screen sharing -/

def ensureUiScreenShareAllowed : Except String Unit :=
  if args.mode ≠ .broadcaster then
    .error "screen sharing is only available in broadcaster mode"
  else if args.media_kind = .voice then
    .error "screen sharing is not available when --media-kind voice"
  else .ok ()

def startUiScreenShare : UiFlow Unit := do
  if (← get).state.local_screen_share.sharing then return
  let room_id ← resolveOrCreateUiChannelId args
  joinRoom room_id
  setVoiceState room_id (← get).state.local_voice
  let screen_args := args.forMediaKind .screen args.stream_id
  match ← attempt (publishConfiguredStream captureSourceSize screen_args room_id) with
  | .error error =>
      discard <| attempt (leaveRoom room_id)
      throw error
  | .ok () =>
      match ← attempt (setPublisherTargetMedia room_id screen_args) with
      | .error error =>
          discard <| attempt (unpublishStreamForUi room_id args.stream_id)
          discard <| attempt (leaveRoom room_id)
          throw error
      | .ok () =>
          setSelectedChannelId (some room_id)
          setScreenSharing true
          setScreenMediaTask (some ⟨room_id, args.stream_id⟩)

def stopUiScreenMediaTask : UiFlow Unit := do
  let world ← get
  match world.state.screen_media_task with
  | none => return
  | some _ =>
      setScreenMediaTask none
      liftExcept (world.screen_outcome.result "UI screen media task failed")

def stopUiScreenShare : UiFlow Unit := do
  let screen := (← get).state.local_screen_share
  if !screen.sharing then return
  let rooms ← listRooms
  match ← liftExcept (selectUiStateChannelId args rooms (← get).state.selected_channel_id) with
  | none =>
      stopUiScreenMediaTask
      setScreenSharing false
  | some room_id =>
      stopUiScreenMediaTask
      unpublishStreamForUi room_id screen.stream_id
      setScreenSharing false
      if !(← get).state.keepRoomJoined then leaveRoom room_id

def applyUiScreenShareState (sharing : Bool) : UiFlow Unit := do
  liftExcept (ensureUiScreenShareAllowed args)
  if sharing then startUiScreenShare captureSourceSize args else stopUiScreenShare args

/-! ## Voice -/

def uiVoiceMediaSupported : Bool := args.mode = .broadcaster && args.media_kind ≠ .screen

def uiVoiceStreamId : Except String StreamId :=
  match args.media_kind with
  | .voice => .ok args.stream_id
  | .both => args.voiceStreamId
  | .screen => .error "voice media is not available when --media-kind screen"

def leaveUnlessKept (room_id : RoomId) : UiFlow Unit := do
  if !(← get).state.keepRoomJoined then discard <| attempt (leaveRoom room_id)

def startUiVoiceMedia (voice : VoiceControlState) : UiFlow Unit := do
  if (← get).state.voiceMediaActive then return
  let room_id ← resolveOrCreateUiChannelId args
  joinRoom room_id
  setVoiceState room_id voice
  let voice_stream_id ← liftExcept (uiVoiceStreamId args)
  let voice_args := args.forMediaKind .voice voice_stream_id
  match ← attempt (publishConfiguredStream captureSourceSize voice_args room_id) with
  | .error error =>
      leaveUnlessKept room_id
      throw error
  | .ok () =>
      match ← attempt (setPublisherTargetMedia room_id voice_args) with
      | .error error =>
          discard <| attempt (unpublishStreamForUi room_id voice_stream_id)
          leaveUnlessKept room_id
          throw error
      | .ok () =>
          setSelectedChannelId (some room_id)
          setVoiceMediaTask (some ⟨room_id, voice_stream_id⟩)

def stopUiVoiceMediaTask : UiFlow Unit := do
  let world ← get
  match world.state.voice_media_task with
  | none => return
  | some _ =>
      setVoiceMediaTask none
      liftExcept (world.voice_outcome.result "UI voice media task failed")

def stopUiVoiceMedia : UiFlow Unit := do
  if !(← get).state.voiceMediaActive then return
  let rooms ← listRooms
  match ← liftExcept (selectUiStateChannelId args rooms (← get).state.selected_channel_id) with
  | none => stopUiVoiceMediaTask
  | some room_id =>
      let voice_stream_id ← liftExcept (uiVoiceStreamId args)
      stopUiVoiceMediaTask
      unpublishStreamForUi room_id voice_stream_id
      if !(← get).state.keepRoomJoined then leaveRoom room_id

def applyUiVoiceMediaState (voice : VoiceControlState) : UiFlow Unit := do
  if !uiVoiceMediaSupported args then return
  if voice.speaking then startUiVoiceMedia captureSourceSize args voice
  else stopUiVoiceMedia args

/-! ## Channel selection -/

def applyUiChannelSelection (channel_id : RoomId) : UiFlow Unit := do
  let state := (← get).state
  if state.screenMediaActive || state.voiceMediaActive then
    throw "stop screen sharing and voice before switching channels"
  let rooms ← listRooms
  if !rooms.any (·.room_id = channel_id) then throw (channelNotFound channel_id rooms)
  match (← get).state.selected_channel_id with
  | none => pure ()
  | some previous_channel_id =>
      if previous_channel_id ≠ channel_id then
        discard <| attempt (leaveRoom previous_channel_id)
  joinRoom channel_id
  setVoiceState channel_id (← get).state.local_voice
  setSelectedChannelId (some channel_id)

/-! ## The document -/

def listRoomStreams (room_id : RoomId) : UiFlow (List StreamSummary) := do
  match ← send (.listStreams ⟨room_id⟩) with
  | .streamList list => return list.streams
  | .error error => throw s!"list streams failed: {error.message}"
  | _ => throw "unexpected list streams response"

def pollStreamConfig (room_id : RoomId) (stream_id : StreamId) : UiFlow StreamConfig := do
  match ← send (.pollStreamConfig ⟨room_id, stream_id⟩) with
  | .streamConfig config => return config
  | .error error => throw s!"poll stream config failed: {error.message}"
  | _ => throw "unexpected stream config response"

def pollConfiguredStreams (room_id : RoomId) (streams : List StreamSummary) :
    UiFlow (List StreamConfig) :=
  (streams.filter (·.has_config)).mapM fun stream => pollStreamConfig room_id stream.stream_id

def listRoomParticipants (room_id : RoomId) : UiFlow (List ParticipantSummary) := do
  match ← send (.listParticipants ⟨room_id⟩) with
  | .participantList list => return list.participants
  | .error error => throw s!"list participants failed: {error.message}"
  | _ => throw "unexpected list participants response"

/-- What `ClientAppDiscovery` collects from the relay. -/
structure ClientAppDiscovery where
  selected_channel_id : Option RoomId
  rooms : List RoomSummary
  streams : List StreamSummary
  stream_configs : List StreamConfig
  participants : List ParticipantSummary

/-- `build_ui_state_json_for_ui`, up to the discovery that the document is made of. -/
def buildUiStateForUi : UiFlow ClientAppDiscovery := do
  let state := (← get).state
  let rooms ← listRooms
  match ← liftExcept (selectUiStateChannelId args rooms state.selected_channel_id) with
  | none => return ⟨none, rooms, [], [], []⟩
  | some room_id =>
      joinRoom room_id
      setVoiceState room_id state.local_voice
      let streams ← listRoomStreams room_id
      let stream_configs ← pollConfiguredStreams room_id streams
      let participants ← listRoomParticipants room_id
      if !state.keepRoomJoined then leaveRoom room_id
      return ⟨some room_id, rooms, streams, stream_configs, participants⟩

/-! ## One request of the UI -/

/-- The routes of `handle_ui_http_connection` that talk to the relay. -/
inductive UiRequest where
  | state
  | selectChannel (channel_id : RoomId)
  | voiceState (patch : VoiceStatePatch)
  | screenShare (sharing : Bool)
  deriving DecidableEq

def applyUiRequest : UiRequest → UiFlow Unit
  | .state => return
  | .selectChannel channel_id => applyUiChannelSelection channel_id
  | .voiceState patch => do
      let voice := UiServerState.updatedVoice (← get).state.local_voice patch
      modifyState fun state => { state with local_voice := voice }
      applyUiVoiceMediaState captureSourceSize args voice
  | .screenShare sharing => applyUiScreenShareState captureSourceSize args sharing

/-- The document is built after a request that did not fail. -/
def handleUiRequest (request : UiRequest) : UiFlow ClientAppDiscovery := do
  applyUiRequest captureSourceSize args request
  buildUiStateForUi args

end Flows

end UiServer

end TeamView.Client
