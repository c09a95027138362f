import TeamView.Client.H264Encoder
import TeamView.Relay.Polling

set_option autoImplicit false

/-! # Publishing a stream

How the desktop client builds the configuration of a stream from its arguments and settles it
with the relay (`Args::stream_config`, `publish_configured_stream` and
`set_screen_stream_config` in `crates/desktop-client/src/main.rs`). The relay answers with the
configuration it has stored, and the client insists that it is the one it has sent.
-/

namespace TeamView.Client

open TeamView.Protocol TeamView.Relay TeamView.Relay.ControlState Runs

/-! ## Arguments -/

inductive CaptureSourceArg where
  | primaryMonitor
  | monitor
  | window
  deriving DecidableEq

inductive MediaKindArg where
  | screen
  | voice
  | both
  deriving DecidableEq

inductive ScreenInputArg where
  | synthetic
  | live
  deriving DecidableEq

inductive CaptureSource where
  | primaryMonitor
  | monitor (id : String)
  | window (id title : String)
  deriving DecidableEq

/-- The arguments that decide what is published. -/
structure Args where
  capture_source : CaptureSourceArg
  monitor_id : Option String
  window_title : Option String
  stream_id : StreamId
  media_kind : MediaKindArg
  screen_input : ScreenInputArg
  media_fps : UInt16
  voice_fps : UInt16
  deriving DecidableEq

namespace Args

/-- An option with `trim` applied, unless nothing is left of it. -/
def trimmed (value : Option String) : Option String :=
  (value.map fun text => String.ofList (trim text.toList)).filter fun text => !text.isEmpty

def captureSource (args : Args) : Except String CaptureSource :=
  match args.capture_source with
  | .primaryMonitor => .ok .primaryMonitor
  | .monitor =>
      match trimmed args.monitor_id with
      | none => .error "--monitor-id is required when --capture-source monitor"
      | some id => .ok (.monitor id)
  | .window =>
      match trimmed args.window_title with
      | none => .error "--window-title is required when --capture-source window"
      | some title => .ok (.window title title)

def voiceFramesPerSecond (args : Args) : UInt16 := args.voice_fps

def codec (args : Args) : Except String CodecId :=
  match args.media_kind with
  | .screen => .ok .h264
  | .voice => .ok .opus
  | .both => .error "--media-kind both does not map to a single codec"

def protocolMediaKind (args : Args) : Except String MediaKind :=
  match args.media_kind with
  | .screen => .ok .screen
  | .voice => .ok .voice
  | .both => .error "--media-kind both does not map to a single protocol media kind"

section CaptureSize

-- what the operating system answers about the size of a capture source
variable (captureSourceSize : CaptureSource → Except String (UInt32 × UInt32))

def screenCaptureDimensions (args : Args) : Except String (UInt32 × UInt32) :=
  match args.screen_input with
  | .synthetic => .ok (H264EncoderConfig.default.width, H264EncoderConfig.default.height)
  | .live =>
      match args.captureSource with
      | .error error => .error error
      | .ok source =>
          match captureSourceSize source with
          | .error _ => .error "failed to query live capture source size"
          | .ok size => .ok size

def streamConfig (args : Args) (room_id : RoomId) : Except String StreamConfig :=
  match args.media_kind with
  | .screen =>
      match args.screenCaptureDimensions captureSourceSize with
      | .error error => .error error
      | .ok (width, height) =>
          .ok
            { room_id := room_id
              stream_id := args.stream_id
              codec := .h264
              width := width.toNat
              height := height.toNat
              frames_per_second := (max args.media_fps 1).toNat
              timebase_hz := 90000 }
  | .voice =>
      .ok
        { room_id := room_id
          stream_id := args.stream_id
          codec := .opus
          width := 0
          height := 0
          frames_per_second := (max args.voiceFramesPerSecond 1).toNat
          timebase_hz := 48000 }
  | .both => .error "--media-kind both does not map to a single stream config"

/-- What the arguments ask for is within the limits of the relay: the frame rate, and for a
screen the size of what is captured. -/
def WithinRelayLimits (args : Args) : Prop :=
  match args.media_kind with
  | .screen =>
      FramesInRange args.media_fps.toNat ∧
        ∀ width height : UInt32,
          args.screenCaptureDimensions captureSourceSize = .ok (width, height) →
            ResolutionInRange width.toNat height.toNat
  | .voice => FramesInRange args.voice_fps.toNat
  | .both => True

end CaptureSize

end Args

/-! ## The connection to the relay -/

/-- A client's control connection, with the relay at its other end. -/
structure ControlLink where
  system : ControlSystem
  session : Nat
  clock : Clock
  next_request_id : RequestId

namespace ControlLink

/-- `ControlClient::send`, with what the relay does of it. -/
def send (link : ControlLink) (message : ClientControl) : ControlLink × ServerControl :=
  let envelope : ClientEnvelope := .new link.next_request_id message
  ({ link with
      system := link.system.step (.envelope link.session link.clock envelope)
      next_request_id := link.next_request_id + 1 },
    (link.system.reply link.session link.clock envelope).response.message)

/-- Send a configuration and insist on getting it back: the end of both
`publish_configured_stream` and `set_screen_stream_config`. -/
def settleConfig (link : ControlLink) (config : StreamConfig) : ControlLink × Except String Unit :=
  let (link, response) := link.send (.setStreamConfig config)
  (link,
    match response with
    | .streamConfig returned =>
        if returned = config then .ok () else .error "unexpected stream config response"
    | .error error => .error s!"set stream config failed: {error.message}"
    | _ => .error "unexpected stream config response")

/-- The configuration of a screen that changes its size while it is published. -/
def screenConfig (room_id : RoomId) (stream_id : StreamId) (width height : UInt32)
    (frames_per_second : UInt16) : StreamConfig where
  room_id := room_id
  stream_id := stream_id
  codec := .h264
  width := width.toNat
  height := height.toNat
  frames_per_second := frames_per_second.toNat
  timebase_hz := 90000

/-- `set_screen_stream_config`. -/
def setScreenStreamConfig (link : ControlLink) (room_id : RoomId) (stream_id : StreamId)
    (width height : UInt32) (frames_per_second : UInt16) : ControlLink × Except String Unit :=
  link.settleConfig (screenConfig room_id stream_id width height frames_per_second)

/-- `ensure_not_error`. -/
def ensureNotError (action : String) : ServerControl → Except String Unit
  | .error error => .error s!"{action} failed: {error.message}"
  | _ => .ok ()

/-- `publish_configured_stream`. -/
def publishConfiguredStream (captureSourceSize : CaptureSource → Except String (UInt32 × UInt32))
    (link : ControlLink) (args : Args) (room_id : RoomId) : ControlLink × Except String Unit :=
  match args.codec, args.protocolMediaKind with
  | .ok codec, .ok media_kind =>
      let (link, published) :=
        link.send (.publishStream ⟨room_id, args.stream_id, codec, media_kind⟩)
      match ensureNotError "publish stream" published with
      | .error error => (link, .error error)
      | .ok () =>
          match args.streamConfig captureSourceSize room_id with
          | .error error => (link, .error error)
          | .ok stream_config => link.settleConfig stream_config
  | .error error, _ => (link, .error error)
  | _, .error error => (link, .error error)

theorem send_reachable {link : ControlLink} (h : link.system.Reachable) (message : ClientControl) :
    (link.send message).1.system.Reachable :=
  Runs.Reachable.after h (.envelope link.session link.clock (.new link.next_request_id message))

/-! ## What the relay makes of a configuration -/

/-- The client publishes `stream` over this connection, and may use the relay's controls. -/
structure Publishes (link : ControlLink) (r : RoomId) (s : StreamId) (stream : PublishedStream) :
    Prop where
  user : (link.system.sessions link.session).user_id = some stream.publisher_id
  access : (link.system.control.requiresAccessToken &&
    !(link.system.sessions link.session).access_granted) = false
  published : link.system.control.PublishedIn r s stream

variable {link : ControlLink} {r : RoomId} {s : StreamId} {stream : PublishedStream}

theorem Publishes.authorized (h : link.Publishes r s stream) (message : ClientControl) :
    link.system.control.authorizationError (link.system.sessions link.session) message = none := by
  cases hgate : ungated message with
  | true => exact authorizationError_ungated hgate _ _
  | false =>
      refine (authorizationError_eq_none_iff hgate _ _).mpr ⟨?_, h.access⟩
      rw [h.user]
      rfl

/-- The relay after a request that passes the authorization check. -/
theorem send_eq {message : ClientControl}
    (h : link.system.control.authorizationError (link.system.sessions link.session) message
      = none) :
    (link.send message).1.system.control
        = (link.system.control.handleMessage (link.system.sessions link.session) link.clock
            message).state ∧
      (link.send message).1.system.sessions
        = Function.update link.system.sessions link.session
            (link.system.control.handleMessage (link.system.sessions link.session) link.clock
              message).session ∧
      (link.send message).2
        = (link.system.control.handleMessage (link.system.sessions link.session) link.clock
            message).message := by
  have hreply := @ControlSystem.reply_of_authorized link.system link.session
    (.new link.next_request_id message) h link.clock
  unfold send ControlSystem.step
  simp only
  rw [hreply]
  exact ⟨rfl, rfl, rfl⟩

/-- The relay stores the configuration in range and answers with it. -/
theorem send_setStreamConfig {config : StreamConfig}
    (h : link.Publishes config.room_id config.stream_id stream)
    (hcodec : stream.codec = config.codec) :
    (link.send (.setStreamConfig config)).2 = .streamConfig (clampedConfig config) ∧
      ∃ room : Room, link.system.control.rooms[config.room_id]? = some room ∧
        (link.send (.setStreamConfig config)).1.system.control
          = link.system.control.setRoom config.room_id
              (setStream room config.stream_id (withConfig stream (clampedConfig config))) := by
  obtain ⟨room, hroom, hstream⟩ := h.published
  have hpublisher : link.system.control.publisherStream (link.system.sessions link.session)
      config.room_id config.stream_id "only the stream publisher can set stream config"
      = .ok (room, stream) :=
    publisherStream_ok_iff.mpr ⟨h.user, hroom, hstream⟩
  have hset : link.system.control.setStreamConfig (link.system.sessions link.session) config
      = (link.system.control.setRoom config.room_id
          (setStream room config.stream_id (withConfig stream (clampedConfig config))),
        .streamConfig (clampedConfig config)) := by
    unfold setStreamConfig
    rw [hpublisher]
    simp only
    rw [if_neg (fun hne => hne hcodec)]
    rfl
  obtain ⟨hcontrol, -, hanswer⟩ := send_eq (h.authorized (.setStreamConfig config))
  refine ⟨?_, room, hroom, ?_⟩
  · rw [hanswer, handleMessage, hset]
    rfl
  · rw [hcontrol, handleMessage, hset]
    rfl

/-- What an accepted `PublishStream` does. -/
theorem publishStream_ok {state : ControlState} {session : Session} {publish : PublishStream}
    {published : StreamPublished}
    (h : (state.publishStream session publish).2 = .streamPublished published) :
    ∃ (u : UserId) (room : Room), session.user_id = some u ∧
      (state.publishStream session publish).1
        = state.setRoom publish.room_id (room.publishStream (freshStream publish u)) := by
  unfold publishStream at h ⊢
  split at h
  · cases h
  · next hfree =>
      rw [if_neg hfree]
      split at h
      · cases h
      · next room hroom =>
          split at h
          · cases h
          · next u huser =>
              split at h
              · next hmember =>
                  split at h
                  · cases h
                  · next hlimit =>
                      rw [if_pos hmember, if_neg hlimit]
                      exact ⟨u, room, huser, rfl⟩
              · cases h

/-- An accepted `PublishStream` makes the client the publisher. -/
theorem publishes_of_accepted {publish : PublishStream} {published : StreamPublished}
    (h : (link.send (.publishStream publish)).2 = .streamPublished published) :
    ∃ stream, (link.send (.publishStream publish)).1.Publishes publish.room_id publish.stream_id
      stream ∧ stream.codec = publish.codec := by
  cases hauth : link.system.control.authorizationError (link.system.sessions link.session)
      (.publishStream publish) with
  | some error =>
      exfalso
      unfold send ControlSystem.reply handleClientEnvelope ControlEnvelope.new at h
      simp only [hauth] at h
      cases h
  | none =>
      obtain ⟨hcontrol, hsessions, hanswer⟩ := send_eq hauth
      rw [hanswer] at h
      obtain ⟨u, room, huser, hstate⟩ := publishStream_ok h
      have hcontrol' : (link.send (.publishStream publish)).1.system.control
          = link.system.control.setRoom publish.room_id
              (room.publishStream (freshStream publish u)) := hcontrol.trans hstate
      -- publishing changes the room, not the session
      have hsession : (link.send (.publishStream publish)).1.system.sessions link.session
          = link.system.sessions link.session := by
        rw [hsessions, Function.update_self]
        rfl
      have hgate : ungated (.publishStream publish) = false := rfl
      have haccess := ((authorizationError_eq_none_iff hgate _ _).mp hauth).2
      refine ⟨freshStream publish u, ⟨?_, ?_, ?_⟩, rfl⟩
      · show ((link.send _).1.system.sessions link.session).user_id = some u
        rw [hsession]
        exact huser
      · show ((link.send _).1.system.control.requiresAccessToken &&
          !((link.send _).1.system.sessions link.session).access_granted) = false
        rw [hsession, hcontrol']
        exact haccess
      · refine ⟨room.publishStream (freshStream publish u), ?_, ?_⟩
        · rw [hcontrol']
          exact (get_setRoom _ _ _ _).trans (if_pos rfl)
        · exact (BTree.get_insert _ _ _ _).trans (if_pos rfl)

/-- The relay and the client settle a configuration exactly when it is in range. -/
theorem settleConfig_ok_iff {config : StreamConfig}
    (h : link.Publishes config.room_id config.stream_id stream)
    (hcodec : stream.codec = config.codec) :
    ((link.send (.setStreamConfig config)).2 = .streamConfig config ↔
        FramesInRange config.frames_per_second ∧
          ResolutionInRange config.width config.height) ∧
      ((link.settleConfig config).2 = .ok () ↔
        FramesInRange config.frames_per_second ∧
          ResolutionInRange config.width config.height) := by
  have hanswer := (send_setStreamConfig h hcodec).1
  rw [← clampedConfig_eq_iff]
  constructor
  · rw [hanswer, ServerControl.streamConfig.injEq]
  · unfold settleConfig
    simp only
    rw [hanswer]
    simp only
    split
    · next hsame => exact iff_of_true rfl hsame
    · next hother => exact iff_of_false nofun hother

end ControlLink

/-! ## When a publisher is configured -/

theorem framesInRange_max_one (frames_per_second : UInt16) :
    FramesInRange (max frames_per_second 1).toNat ↔ FramesInRange frames_per_second.toNat := by
  have hmax : (max frames_per_second 1).toNat = max frames_per_second.toNat 1 := by
    show (if frames_per_second ≤ 1 then 1 else frames_per_second).toNat = _
    have hone : (1 : UInt16).toNat = 1 := rfl
    split
    · next hle =>
        rw [UInt16.le_iff_toNat_le] at hle
        omega
    · next hgt =>
        rw [UInt16.le_iff_toNat_le] at hgt
        omega
  have hmin : 1 < minTargetFramesPerSecond := by decide
  rw [hmax]
  unfold FramesInRange
  omega

section CaptureSize

variable (captureSourceSize : CaptureSource → Except String (UInt32 × UInt32))

/-- What the arguments ask for is within the limits of the relay exactly when the configuration
built from them is in range. -/
theorem Args.withinRelayLimits_iff {args : Args} {room_id : RoomId} {config : StreamConfig}
    (h : args.streamConfig captureSourceSize room_id = .ok config) :
    args.WithinRelayLimits captureSourceSize ↔
      FramesInRange config.frames_per_second ∧ ResolutionInRange config.width config.height := by
  unfold streamConfig at h
  unfold WithinRelayLimits
  cases hkind : args.media_kind with
  | screen =>
      rw [hkind] at h
      simp only at h ⊢
      split at h
      · cases h
      · next width height hsize =>
          obtain rfl := Except.ok.inj h
          rw [framesInRange_max_one]
          refine and_congr Iff.rfl ⟨fun hall => hall width height hsize, ?_⟩
          intro hrange width' height' hsize'
          obtain ⟨rfl, rfl⟩ := Prod.mk.inj (Except.ok.inj (hsize.symm.trans hsize'))
          exact hrange
  | voice =>
      rw [hkind] at h
      obtain rfl := Except.ok.inj h
      rw [framesInRange_max_one]
      exact ⟨fun hframes => ⟨hframes, .inl ⟨rfl, rfl⟩⟩, fun hboth => hboth.1⟩
  | both =>
      rw [hkind] at h
      cases h

/-- The configuration is for the room and the stream it is built for, in the codec of the
stream. -/
theorem Args.streamConfig_fields {args : Args} {room_id : RoomId} {config : StreamConfig}
    (h : args.streamConfig captureSourceSize room_id = .ok config) :
    config.room_id = room_id ∧ config.stream_id = args.stream_id ∧
      args.codec = .ok config.codec ∧ ∃ media_kind, args.protocolMediaKind = .ok media_kind := by
  unfold streamConfig at h
  unfold codec protocolMediaKind
  cases hkind : args.media_kind with
  | screen =>
      rw [hkind] at h
      simp only at h
      split at h
      · cases h
      · obtain rfl := Except.ok.inj h
        exact ⟨rfl, rfl, rfl, _, rfl⟩
  | voice =>
      rw [hkind] at h
      obtain rfl := Except.ok.inj h
      exact ⟨rfl, rfl, rfl, _, rfl⟩
  | both =>
      rw [hkind] at h
      cases h

/-- For every configuration that the client builds, and every relay at which it publishes the
stream with the codec of the configuration, the relay returns what was sent exactly when the
arguments are within the relay's limits; and the same decides whether
`publish_configured_stream` succeeds once its `PublishStream` is accepted. -/
theorem publisher_configured_iff {args : Args} {room_id : RoomId} {config : StreamConfig}
    (hconfig : args.streamConfig captureSourceSize room_id = .ok config) :
    (∀ (link : ControlLink) (stream : PublishedStream),
      link.Publishes room_id args.stream_id stream → stream.codec = config.codec →
        ((link.send (.setStreamConfig config)).2 = .streamConfig config ↔
          args.WithinRelayLimits captureSourceSize)) ∧
      ∀ (link : ControlLink) (media_kind : MediaKind) (published : StreamPublished),
        args.protocolMediaKind = .ok media_kind →
          (link.send (.publishStream ⟨room_id, args.stream_id, config.codec, media_kind⟩)).2
            = .streamPublished published →
            ((link.publishConfiguredStream captureSourceSize args room_id).2 = .ok () ↔
              args.WithinRelayLimits captureSourceSize) := by
  obtain ⟨hroom, hstream, hcodec, -⟩ := args.streamConfig_fields captureSourceSize hconfig
  have hlimits := args.withinRelayLimits_iff captureSourceSize hconfig
  constructor
  · intro link stream hpub hsame
    have hpub' : link.Publishes config.room_id config.stream_id stream := by
      rw [hroom, hstream]
      exact hpub
    exact (ControlLink.settleConfig_ok_iff hpub' hsame).1.trans hlimits.symm
  · intro link media_kind published hkind haccepted
    -- the stream just published is the one that the configuration is for
    obtain ⟨stream, hpub, hsame⟩ := ControlLink.publishes_of_accepted haccepted
    have hpub' : (link.send (.publishStream ⟨room_id, args.stream_id, config.codec,
        media_kind⟩)).1.Publishes config.room_id config.stream_id stream := by
      rw [hroom, hstream]
      exact hpub
    have hsettle := (ControlLink.settleConfig_ok_iff hpub' hsame).2.trans hlimits.symm
    unfold ControlLink.publishConfiguredStream
    rw [hcodec, hkind]
    simp only
    rw [haccepted]
    simp only [ControlLink.ensureNotError]
    rw [hconfig]
    exact hsettle

end CaptureSize

/-! ## A screen that is configured, and one that is not -/

/-- The arguments of a publisher that shows a synthetic screen. -/
def syntheticArgs (media_fps : UInt16) : Args where
  capture_source := .primaryMonitor
  monitor_id := none
  window_title := none
  stream_id := 7
  media_kind := .screen
  screen_input := .synthetic
  media_fps := media_fps
  voice_fps := 50

/-- A system without capture sources. -/
def noCapture (_ : CaptureSource) : Except String (UInt32 × UInt32) :=
  .error "Windows Graphics Capture is only available on Windows"

/-- The configuration of the synthetic screen. -/
def syntheticConfig (frames_per_second : Nat) : StreamConfig :=
  ⟨1, 7, .h264, 1280, 720, frames_per_second, 90000⟩

/-- The connection of a host that has opened room 1. -/
def hostLink : ControlLink where
  system := run ControlSystem.step (ControlSystem.start .new)
    [.ask 0 (.hello ⟨protocolVersion, "host"⟩), .ask 0 (.createRoom ⟨"room"⟩)]
  session := 0
  clock := ⟨0, 0⟩
  next_request_id := 3

theorem publisher_configured_iff_synthetic :
    (hostLink.publishConfiguredStream noCapture (syntheticArgs 30) 1).2 = .ok () := by
  have hconfig : (syntheticArgs 30).streamConfig noCapture 1 = .ok (syntheticConfig 30) := by
    decide
  have haccepted : (hostLink.send (.publishStream ⟨1, 7, .h264, .screen⟩)).2
      = .streamPublished ⟨1, 7⟩ := by decide +kernel
  refine ((publisher_configured_iff noCapture hconfig).2 hostLink .screen ⟨1, 7⟩ rfl
    haccepted).mpr ⟨by decide, ?_⟩
  intro width height hsize
  obtain ⟨rfl, rfl⟩ := Prod.mk.inj (Except.ok.inj hsize)
  exact .inr (by decide)

/-- A screen at one frame a second is published and then refused by its own publisher: the relay
returns five frames a second. -/
theorem slow_screen_not_configured :
    (syntheticArgs 1).streamConfig noCapture 1 = .ok (syntheticConfig 1) ∧
      (hostLink.send (.publishStream ⟨1, 7, .h264, .screen⟩)).2 = .streamPublished ⟨1, 7⟩ ∧
      ((hostLink.send (.publishStream ⟨1, 7, .h264, .screen⟩)).1.send
        (.setStreamConfig (syntheticConfig 1))).2 = .streamConfig (syntheticConfig 5) ∧
      (hostLink.publishConfiguredStream noCapture (syntheticArgs 1) 1).2
        = .error "unexpected stream config response" := by
  refine ⟨by decide, by decide +kernel, by decide +kernel, by decide +kernel⟩

end TeamView.Client
