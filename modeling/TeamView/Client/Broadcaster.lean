import TeamView.Client.Publishing

set_option autoImplicit false

/-! # The screen broadcaster adapts

What the loop of the screen broadcaster does with the feedback of the relay
(`apply_publisher_feedback` and the body of `run_screen_broadcaster_media_loop` in
`crates/desktop-client/src/main.rs`, the encoder of `crates/desktop-client/src/encode/h264.rs`).
The relay adapts its targets while it answers a poll, the client follows them, and the client's
new configuration must not move the targets again.
-/

namespace TeamView.Client

open TeamView.Protocol TeamView.Relay TeamView.Relay.ControlState BTree Runs

/-! ## The encoder -/

structure MediaFoundationH264Encoder where
  config : H264EncoderConfig
  target_payload_bytes : Nat
  keyframe_requested : Bool
  deriving DecidableEq

inductive H264VideoEncoder where
  | synthetic (encoder : H264Encoder)
  | mediaFoundation (encoder : MediaFoundationH264Encoder)
  deriving DecidableEq

namespace H264VideoEncoder

def requestKeyframe : H264VideoEncoder → H264VideoEncoder
  | .synthetic encoder => .synthetic encoder.requestKeyframe
  | .mediaFoundation encoder => .mediaFoundation { encoder with keyframe_requested := true }

def updateBitrate (bitrate_bps : UInt32) : H264VideoEncoder → H264VideoEncoder
  | .synthetic encoder =>
      .synthetic { encoder with config := { encoder.config with bitrate_bps } }
  | .mediaFoundation encoder =>
      .mediaFoundation { encoder with config := { encoder.config with bitrate_bps } }

def updateFrameRate (frames_per_second : UInt16) : H264VideoEncoder → H264VideoEncoder
  | .synthetic encoder =>
      .synthetic
        { encoder with
          config := { encoder.config with frames_per_second := max frames_per_second 1 } }
  | .mediaFoundation encoder =>
      .mediaFoundation
        { encoder with
          config := { encoder.config with frames_per_second := max frames_per_second 1 } }

/-- The hardware encoder starts over with a keyframe at once. -/
def updateResolution (width height : UInt32) : H264VideoEncoder → H264VideoEncoder
  | .synthetic encoder =>
      .synthetic { encoder with config := { encoder.config with width, height } }
  | .mediaFoundation encoder =>
      .mediaFoundation
        { encoder with
          config := { encoder.config with width, height }
          keyframe_requested := true }

def bitrateBps : H264VideoEncoder → UInt32
  | .synthetic encoder => encoder.config.bitrate_bps
  | .mediaFoundation encoder => encoder.config.bitrate_bps

def setTargetPayloadBytes (bytes : Nat) : H264VideoEncoder → H264VideoEncoder
  | .synthetic encoder =>
      .synthetic { encoder with config := { encoder.config with synthetic_payload_bytes := bytes } }
  | .mediaFoundation encoder => .mediaFoundation { encoder with target_payload_bytes := bytes }

/-- The settings that the encoder encodes with. -/
def config : H264VideoEncoder → H264EncoderConfig
  | .synthetic encoder => encoder.config
  | .mediaFoundation encoder => encoder.config

variable (encoder : H264VideoEncoder)

@[simp] theorem config_updateBitrate (bitrate_bps : UInt32) :
    (encoder.updateBitrate bitrate_bps).config = { encoder.config with bitrate_bps } := by
  cases encoder <;> rfl

@[simp] theorem config_updateFrameRate (frames_per_second : UInt16) :
    (encoder.updateFrameRate frames_per_second).config
      = { encoder.config with frames_per_second := max frames_per_second 1 } := by
  cases encoder <;> rfl

@[simp] theorem config_updateResolution (width height : UInt32) :
    (encoder.updateResolution width height).config = { encoder.config with width, height } := by
  cases encoder <;> rfl

@[simp] theorem config_requestKeyframe : encoder.requestKeyframe.config = encoder.config := by
  cases encoder <;> rfl

@[simp] theorem config_setTargetPayloadBytes (bytes : Nat) :
    (encoder.setTargetPayloadBytes bytes).config.frames_per_second
        = encoder.config.frames_per_second ∧
      (encoder.setTargetPayloadBytes bytes).config.width = encoder.config.width ∧
      (encoder.setTargetPayloadBytes bytes).config.height = encoder.config.height := by
  cases encoder <;> exact ⟨rfl, rfl, rfl⟩

@[simp] theorem bitrateBps_updateBitrate (bitrate_bps : UInt32) :
    (encoder.updateBitrate bitrate_bps).bitrateBps = bitrate_bps := by
  cases encoder <;> rfl

@[simp] theorem bitrateBps_updateFrameRate (frames_per_second : UInt16) :
    (encoder.updateFrameRate frames_per_second).bitrateBps = encoder.bitrateBps := by
  cases encoder <;> rfl

@[simp] theorem bitrateBps_updateResolution (width height : UInt32) :
    (encoder.updateResolution width height).bitrateBps = encoder.bitrateBps := by
  cases encoder <;> rfl

@[simp] theorem bitrateBps_setTargetPayloadBytes (bytes : Nat) :
    (encoder.setTargetPayloadBytes bytes).bitrateBps = encoder.bitrateBps := by
  cases encoder <;> rfl

@[simp] theorem bitrateBps_requestKeyframe :
    encoder.requestKeyframe.bitrateBps = encoder.bitrateBps := by
  cases encoder <;> rfl

end H264VideoEncoder

/-! ## The broadcaster -/

/-- What the loop of the broadcaster keeps and a feedback can change. -/
structure ScreenBroadcaster where
  encoder : H264VideoEncoder
  active_fps : UInt16
  target_width : UInt32
  target_height : UInt32
  ticker_micros : Nat
  deriving DecidableEq

def minSyntheticPayloadBytes : Nat := 64

def syntheticPayloadBytesForBitrate (bitrate_bps : UInt32) (frames_per_second : UInt16) : Nat :=
  max (bitrate_bps.toNat / 8 / (max frames_per_second 1).toNat) minSyntheticPayloadBytes

def mediaIntervalMicros (frames_per_second : UInt16) : Nat :=
  1000000 / (max frames_per_second 1).toNat

namespace ScreenBroadcaster

/-- The first part of `apply_publisher_feedback`. -/
def applyBitrate (broadcaster : ScreenBroadcaster) (target_bitrate : UInt32) : ScreenBroadcaster :=
  if 0 < target_bitrate ∧ target_bitrate ≠ broadcaster.encoder.bitrateBps then
    { broadcaster with
      encoder := (broadcaster.encoder.updateBitrate target_bitrate).setTargetPayloadBytes
        (syntheticPayloadBytesForBitrate target_bitrate (max broadcaster.active_fps 1)) }
  else broadcaster

/-- The second part of `apply_publisher_feedback`. -/
def applyFrameRate (broadcaster : ScreenBroadcaster) (target_frames_per_second : UInt16) :
    ScreenBroadcaster :=
  if 0 < target_frames_per_second ∧ target_frames_per_second ≠ broadcaster.active_fps then
    let encoder := broadcaster.encoder.updateFrameRate target_frames_per_second
    { broadcaster with
      active_fps := target_frames_per_second
      encoder := encoder.setTargetPayloadBytes
        (syntheticPayloadBytesForBitrate encoder.bitrateBps (max target_frames_per_second 1))
      ticker_micros := mediaIntervalMicros target_frames_per_second }
  else broadcaster

/-- The last part of `apply_publisher_feedback`, and its result. -/
def applyResolution (broadcaster : ScreenBroadcaster) (target_width target_height : UInt32) :
    ScreenBroadcaster × Bool :=
  if 0 < target_width ∧ 0 < target_height ∧
      (target_width ≠ broadcaster.target_width ∨ target_height ≠ broadcaster.target_height) then
    ({ broadcaster with
        target_width := target_width
        target_height := target_height
        encoder :=
          (broadcaster.encoder.updateResolution target_width target_height).requestKeyframe },
      true)
  else (broadcaster, false)

/-- `apply_publisher_feedback`: the broadcaster after it, and whether the resolution changed. -/
def applyPublisherFeedback (broadcaster : ScreenBroadcaster) (feedback : PublisherFeedback) :
    ScreenBroadcaster × Bool :=
  let broadcaster :=
    broadcaster.applyBitrate (UInt32.ofNat feedback.aggregate_available_bitrate_bps)
  let broadcaster :=
    broadcaster.applyFrameRate (UInt16.ofNat feedback.target_frames_per_second)
  broadcaster.applyResolution (UInt32.ofNat feedback.target_width)
    (UInt32.ofNat feedback.target_height)

end ScreenBroadcaster

/-- The part of the broadcaster's loop that polls and follows the feedback. -/
def ControlLink.followFeedback (link : ControlLink) (room_id : RoomId) (stream_id : StreamId)
    (broadcaster : ScreenBroadcaster) : ControlLink × ScreenBroadcaster × Except String Unit :=
  let (link, response) := link.send (.pollPublisherFeedback ⟨room_id, stream_id⟩)
  match response with
  | .publisherFeedback feedback =>
      let broadcaster :=
        if feedback.keyframe_requested then
          { broadcaster with encoder := broadcaster.encoder.requestKeyframe }
        else broadcaster
      let (broadcaster, resolution_changed) := broadcaster.applyPublisherFeedback feedback
      if resolution_changed then
        let (link, result) := link.setScreenStreamConfig room_id stream_id
          broadcaster.target_width broadcaster.target_height broadcaster.active_fps
        (link, broadcaster, result)
      else (link, broadcaster, .ok ())
  | .error error => (link, broadcaster, .error s!"poll publisher feedback failed: {error.message}")
  | _ => (link, broadcaster, .error "unexpected publisher feedback response")

/-! ## Broadcaster and relay in step -/

namespace ScreenBroadcaster

/-- The bitrate of the encoder, and the frame rate and the size that the broadcaster goes by, are
those of the target. A relay that does not know a resolution leaves the broadcaster's own. -/
structure InStep (broadcaster : ScreenBroadcaster) (target : StreamTarget) : Prop where
  bitrate : broadcaster.encoder.bitrateBps.toNat = target.bitrate_bps
  frames : broadcaster.active_fps.toNat = target.frames_per_second
  resolution : target.width ≠ 0 → target.height ≠ 0 →
    broadcaster.target_width.toNat = target.width ∧
      broadcaster.target_height.toNat = target.height

/-- The encoder and the ticker have the frame rate and the size that the broadcaster goes by. -/
structure Agrees (broadcaster : ScreenBroadcaster) : Prop where
  frames : broadcaster.encoder.config.frames_per_second = max broadcaster.active_fps 1
  width : broadcaster.encoder.config.width = broadcaster.target_width
  height : broadcaster.encoder.config.height = broadcaster.target_height
  ticker : broadcaster.ticker_micros = mediaIntervalMicros broadcaster.active_fps

variable (broadcaster : ScreenBroadcaster)

variable {broadcaster} in
theorem Agrees.requestKeyframe (h : broadcaster.Agrees) :
    Agrees { broadcaster with encoder := broadcaster.encoder.requestKeyframe } := by
  refine ⟨?_, ?_, ?_, h.ticker⟩
  · simp only [H264VideoEncoder.config_requestKeyframe, h.frames]
  · simp only [H264VideoEncoder.config_requestKeyframe, h.width]
  · simp only [H264VideoEncoder.config_requestKeyframe, h.height]

variable {broadcaster} in
theorem Agrees.applyBitrate (h : broadcaster.Agrees) (target_bitrate : UInt32) :
    (broadcaster.applyBitrate target_bitrate).Agrees := by
  unfold ScreenBroadcaster.applyBitrate
  split
  · obtain ⟨hframes, hwidth, hheight⟩ := (broadcaster.encoder.updateBitrate
      target_bitrate).config_setTargetPayloadBytes
        (syntheticPayloadBytesForBitrate target_bitrate (max broadcaster.active_fps 1))
    rw [H264VideoEncoder.config_updateBitrate] at hframes hwidth hheight
    exact ⟨hframes.trans h.frames, hwidth.trans h.width, hheight.trans h.height, h.ticker⟩
  · exact h

variable {broadcaster} in
theorem Agrees.applyFrameRate (h : broadcaster.Agrees) (target_fps : UInt16) :
    (broadcaster.applyFrameRate target_fps).Agrees := by
  unfold ScreenBroadcaster.applyFrameRate
  split
  · obtain ⟨hframes, hwidth, hheight⟩ := (broadcaster.encoder.updateFrameRate
      target_fps).config_setTargetPayloadBytes
        (syntheticPayloadBytesForBitrate (broadcaster.encoder.updateFrameRate target_fps).bitrateBps
          (max target_fps 1))
    rw [H264VideoEncoder.config_updateFrameRate] at hframes hwidth hheight
    exact ⟨hframes, hwidth.trans h.width, hheight.trans h.height, rfl⟩
  · exact h

variable {broadcaster} in
theorem Agrees.applyResolution (h : broadcaster.Agrees) (width height : UInt32) :
    (broadcaster.applyResolution width height).1.Agrees := by
  unfold ScreenBroadcaster.applyResolution
  split
  · refine ⟨?_, ?_, ?_, h.ticker⟩
    · simp only [H264VideoEncoder.config_requestKeyframe, H264VideoEncoder.config_updateResolution,
        h.frames]
    · simp only [H264VideoEncoder.config_requestKeyframe, H264VideoEncoder.config_updateResolution]
    · simp only [H264VideoEncoder.config_requestKeyframe, H264VideoEncoder.config_updateResolution]
  · exact h

variable {broadcaster} in
theorem Agrees.applyPublisherFeedback (h : broadcaster.Agrees) (feedback : PublisherFeedback) :
    (broadcaster.applyPublisherFeedback feedback).1.Agrees :=
  ((h.applyBitrate _).applyFrameRate _).applyResolution _ _

theorem applyBitrate_spec {target_bitrate : UInt32} (h : 0 < target_bitrate) :
    (broadcaster.applyBitrate target_bitrate).encoder.bitrateBps = target_bitrate := by
  unfold applyBitrate
  split
  · simp
  · next hsame =>
      by_contra hne
      exact hsame ⟨h, Ne.symm hne⟩

theorem applyFrameRate_spec {target_fps : UInt16} (h : 0 < target_fps) :
    (broadcaster.applyFrameRate target_fps).active_fps = target_fps ∧
      (broadcaster.applyFrameRate target_fps).encoder.bitrateBps
        = broadcaster.encoder.bitrateBps := by
  unfold applyFrameRate
  split
  · simp
  · next hsame =>
      refine ⟨?_, rfl⟩
      by_contra hne
      exact hsame ⟨h, Ne.symm hne⟩

theorem applyResolution_spec (width height : UInt32) :
    (broadcaster.applyResolution width height).1.encoder.bitrateBps
        = broadcaster.encoder.bitrateBps ∧
      (broadcaster.applyResolution width height).1.active_fps = broadcaster.active_fps ∧
      (0 < width → 0 < height →
        (broadcaster.applyResolution width height).1.target_width = width ∧
          (broadcaster.applyResolution width height).1.target_height = height) ∧
      ((broadcaster.applyResolution width height).2 = true → 0 < width ∧ 0 < height) := by
  unfold applyResolution
  split
  · next hnew =>
      exact ⟨by simp, rfl, fun _ _ => ⟨rfl, rfl⟩, fun _ => ⟨hnew.1, hnew.2.1⟩⟩
  · next hsame =>
      refine ⟨rfl, rfl, fun hwidth hheight => ?_, nofun⟩
      constructor
      · by_contra hne
        exact hsame ⟨hwidth, hheight, .inl (Ne.symm hne)⟩
      · by_contra hne
        exact hsame ⟨hwidth, hheight, .inr (Ne.symm hne)⟩

/-- Following a feedback whose target is in range. A change of the resolution is one to a
resolution that the relay knows. -/
theorem applyPublisherFeedback_inStep {feedback : PublisherFeedback}
    (h : (ControlSystem.feedbackTarget feedback).InRange) :
    InStep (broadcaster.applyPublisherFeedback feedback).1
        (ControlSystem.feedbackTarget feedback) ∧
      ((broadcaster.applyPublisherFeedback feedback).2 = true →
        feedback.target_width ≠ 0 ∧ feedback.target_height ≠ 0) := by
  -- the fields are in range, so the client reads them without loss
  have hbitrate : feedback.aggregate_available_bitrate_bps < 2 ^ 32 :=
    lt_of_le_of_lt h.bitrate.2 (by decide)
  have hframes : feedback.target_frames_per_second < 2 ^ 16 :=
    lt_of_le_of_lt h.frames.2 (by decide)
  have hmax : maxTargetWidth < 2 ^ 32 ∧ maxTargetHeight < 2 ^ 32 := by decide
  have hsize : feedback.target_width < 2 ^ 32 ∧ feedback.target_height < 2 ^ 32 := by
    rcases h.resolution with ⟨hw, hh⟩ | ⟨⟨-, hw⟩, ⟨-, hh⟩⟩
    · simp only [ControlSystem.feedbackTarget] at hw hh
      omega
    · simp only [ControlSystem.feedbackTarget] at hw hh
      omega
  have hbpos : 0 < feedback.aggregate_available_bitrate_bps :=
    lt_of_lt_of_le (by decide) h.bitrate.1
  have hfpos : 0 < feedback.target_frames_per_second := lt_of_lt_of_le (by decide) h.frames.1
  have hwidth : 0 < UInt32.ofNat feedback.target_width ↔ feedback.target_width ≠ 0 := by
    rw [UInt32.lt_ofNat_iff hsize.1]
    exact Nat.pos_iff_ne_zero
  have hheight : 0 < UInt32.ofNat feedback.target_height ↔ feedback.target_height ≠ 0 := by
    rw [UInt32.lt_ofNat_iff hsize.2]
    exact Nat.pos_iff_ne_zero
  -- the three settings one after another, each of which leaves the others alone
  have hb := broadcaster.applyBitrate_spec ((UInt32.lt_ofNat_iff hbitrate).mpr hbpos)
  obtain ⟨hf, hfb⟩ := (broadcaster.applyBitrate _).applyFrameRate_spec
    ((UInt16.lt_ofNat_iff hframes).mpr hfpos)
  obtain ⟨hrb, hrf, hr, hchanged⟩ :=
    ((broadcaster.applyBitrate _).applyFrameRate _).applyResolution_spec
      (UInt32.ofNat feedback.target_width) (UInt32.ofNat feedback.target_height)
  refine ⟨⟨?_, ?_, ?_⟩, fun htrue => ?_⟩
  · unfold applyPublisherFeedback
    rw [hrb, hfb, hb, UInt32.toNat_ofNat_of_lt' hbitrate]
    rfl
  · unfold applyPublisherFeedback
    rw [hrf, hf, UInt16.toNat_ofNat_of_lt' hframes]
    rfl
  · intro hw hh
    obtain ⟨hrw, hrh⟩ := hr (hwidth.mpr hw) (hheight.mpr hh)
    unfold applyPublisherFeedback
    rw [hrw, hrh, UInt32.toNat_ofNat_of_lt' hsize.1, UInt32.toNat_ofNat_of_lt' hsize.2]
    exact ⟨rfl, rfl⟩
  · obtain ⟨hw, hh⟩ := hchanged htrue
    exact ⟨hwidth.mp hw, hheight.mp hh⟩

end ScreenBroadcaster

/-! ## One round of the loop -/

namespace ControlLink

variable {link : ControlLink} {r : RoomId} {s : StreamId} {stream : PublishedStream}

/-- The publisher's poll is answered, and leaves it the publisher of the polled stream. -/
theorem send_poll (hreach : link.system.Reachable) (h : link.Publishes r s stream) :
    (link.send (.pollPublisherFeedback ⟨r, s⟩)).2
        = .publisherFeedback (link.system.control.polledFeedback r s) ∧
      (link.send (.pollPublisherFeedback ⟨r, s⟩)).1.system.control
        = link.system.control.polled s ∧
      (link.send (.pollPublisherFeedback ⟨r, s⟩)).1.Publishes r s
        (link.system.control.polledStream s stream) := by
  have hrooms := (ControlSystem.reachable_roomInvariant hreach).toRoomsOk
  obtain ⟨room, hroom, hstream⟩ := h.published
  have hpublisher : link.system.control.publisherForStream s = some stream.publisher_id :=
    (hrooms.publisherForStream_eq_some_iff s _).mpr ⟨r, stream, h.published, rfl⟩
  have hpolls : link.system.Polls link.session (.pollPublisherFeedback ⟨r, s⟩) r s
      stream.publisher_id := ⟨rfl, h.authorized _, h.user, hpublisher⟩
  have hstep : (link.send (.pollPublisherFeedback ⟨r, s⟩)).1.system
      = { link.system with control := link.system.control.polled s } :=
    @ControlSystem.step_of_polls _ _ (.new link.next_request_id _) _ _ _ hpolls link.clock
  have hanswer : (link.send (.pollPublisherFeedback ⟨r, s⟩)).2
      = .publisherFeedback (link.system.control.polledFeedback r s) := by
    show (link.system.reply link.session link.clock _).response.message = _
    rw [ControlSystem.reply_of_polls hpolls link.clock]
    rfl
  refine ⟨hanswer, by rw [hstep], ?_⟩
  have hid : (link.system.control.polledStream s stream).publisher_id = stream.publisher_id := by
    unfold polledStream
    simp only
    split <;> rfl
  refine ⟨?_, ?_, ?_⟩
  · rw [hstep, hid]
    exact h.user
  · rw [hstep]
    have htoken : (link.system.control.polled s).access_token = link.system.control.access_token :=
      adapted_fixed ControlState.access_token (fun _ _ => rfl) link.system.control s
    show ((link.system.control.polled s).access_token.isSome && _) = false
    rw [htoken]
    exact h.access
  · rw [hstep]
    refine ⟨_, polled_room hrooms hroom hstream, ?_⟩
    exact (get_insert _ _ _ _).trans (if_pos rfl)

/-- A poll keeps everything of a stream but its target, which its configuration follows. -/
theorem polledStream_config {state : ControlState} {config : StreamConfig}
    (hconfig : stream.config = some config) :
    (state.polledStream s stream).codec = stream.codec ∧
      ∃ config' : StreamConfig, (state.polledStream s stream).config = some config' ∧
        config'.timebase_hz = config.timebase_hz := by
  unfold polledStream
  simp only
  split
  · refine ⟨rfl, ?_⟩
    unfold withTarget
    rw [hconfig]
    exact ⟨_, rfl, rfl⟩
  · exact ⟨rfl, config, hconfig, rfl⟩

/-- The broadcaster has followed a poll: it is in step with the targets that the relay stores,
the relay has accepted its configuration, and that configuration has moved no target. An encoder
that had the broadcaster's frame rate and size has them still. -/
structure InStepAfter (link : ControlLink) (r : RoomId) (s : StreamId)
    (broadcaster : ScreenBroadcaster) (before after : PublishedStream) : Prop where
  polled : (link.send (.pollPublisherFeedback ⟨r, s⟩)).1.system.control.publishedStream s
    = some before
  followed : (link.followFeedback r s broadcaster).1.system.control.publishedStream s = some after
  accepted : (link.followFeedback r s broadcaster).2.2 = .ok ()
  unmoved : storedTarget after = storedTarget before
  config : ∃ config config' : StreamConfig, before.config = some config ∧
    after.config = some config' ∧ config'.frames_per_second = config.frames_per_second ∧
      config'.width = config.width ∧ config'.height = config.height ∧
        config'.timebase_hz = config.timebase_hz
  in_step : (link.followFeedback r s broadcaster).2.1.InStep (storedTarget after)
  agrees : broadcaster.Agrees → (link.followFeedback r s broadcaster).2.1.Agrees

/-- The rest of the round, once the poll is answered. -/
theorem followFeedback_eq {feedback : PublisherFeedback} (broadcaster : ScreenBroadcaster)
    (hanswer : (link.send (.pollPublisherFeedback ⟨r, s⟩)).2 = .publisherFeedback feedback) :
    ∃ (old new : ScreenBroadcaster) (changed : Bool),
      old.applyPublisherFeedback feedback = (new, changed) ∧
        (broadcaster.Agrees → old.Agrees) ∧
        link.followFeedback r s broadcaster
          = if changed then
              let settled := (link.send (.pollPublisherFeedback ⟨r, s⟩)).1.setScreenStreamConfig r s
                new.target_width new.target_height new.active_fps
              (settled.1, new, settled.2)
            else ((link.send (.pollPublisherFeedback ⟨r, s⟩)).1, new, .ok ()) := by
  unfold followFeedback
  simp only
  rw [hanswer]
  refine ⟨_, _, _, rfl, fun hagrees => ?_, rfl⟩
  split
  · exact hagrees.requestKeyframe
  · exact hagrees

/-- A configuration for the target that the stream has. -/
theorem settle_target {before : PublishedStream} (hreach : link.system.Reachable)
    (h : link.Publishes r s before) (hcodec : before.codec = .h264)
    (hrange : (storedTarget before).InRange) {width height : UInt32} {frames : UInt16}
    (hwidth : width.toNat = before.target_width) (hheight : height.toNat = before.target_height)
    (hframes : frames.toNat = before.target_frames_per_second) :
    (link.setScreenStreamConfig r s width height frames).2 = .ok () ∧
      (link.setScreenStreamConfig r s width height frames).1.system.control.publishedStream s
        = some (withConfig before (screenConfig r s width height frames)) := by
  have hin : FramesInRange (screenConfig r s width height frames).frames_per_second ∧
      ResolutionInRange (screenConfig r s width height frames).width
        (screenConfig r s width height frames).height := by
    unfold screenConfig
    simp only
    rw [hwidth, hheight, hframes]
    exact ⟨hrange.frames, hrange.resolution⟩
  obtain ⟨-, room, hroom, hcontrol⟩ :=
    @send_setStreamConfig link before (screenConfig r s width height frames) h hcodec
  rw [(clampedConfig_eq_iff _).mpr hin] at hcontrol
  refine ⟨(settleConfig_ok_iff h hcodec).2.mpr hin, ?_⟩
  have hreach' := send_reachable hreach (.setStreamConfig (screenConfig r s width height frames))
  have hrooms := (ControlSystem.reachable_roomInvariant hreach').toRoomsOk
  have hnew : (link.send (.setStreamConfig (screenConfig r s width height
      frames))).1.system.control.rooms[r]?
      = some (setStream room s (withConfig before (screenConfig r s width height frames))) := by
    rw [hcontrol]
    exact (get_setRoom _ _ _ _).trans (if_pos rfl)
  exact publishedStream_of_room hrooms hnew ((get_insert _ _ _ _).trans (if_pos rfl))

/-- The connection of a host whose screen is published and configured. -/
def sharingLink : ControlLink :=
  (hostLink.publishConfiguredStream noCapture (syntheticArgs 30) 1).1

/-- A viewer joins and reports a loss, when the bitrate and the frame rate of the screen can not
become lower. -/
def degradingRun : List ControlEvent :=
  [.ask 1 (.hello ⟨protocolVersion, "viewer"⟩), .ask 1 (.joinRoom ⟨1⟩),
    .ask 1 (.subscribeStream ⟨1, 7⟩), .ask 0 (.setTargetBitrate ⟨1, 7, minTargetBitrateBps⟩),
    .ask 0 (.setTargetFramerate ⟨1, 7, minTargetFramesPerSecond⟩),
    .ask 1 (.viewerStats ⟨1, 7, 90, 10, 0, 0, 0, 0, 0, 0, 0, 0, 0, 0, 0, 0⟩)]

def degradedLink : ControlLink :=
  { sharingLink with system := run ControlSystem.step sharingLink.system degradingRun }

/-- The stream that the host shares. -/
def degradedStream : PublishedStream where
  stream_id := 7
  publisher_id := 1
  codec := .h264
  media_kind := .screen
  config := some (syntheticConfig 5)
  target_bitrate_bps := minTargetBitrateBps
  target_frames_per_second := 5
  target_width := 1280
  target_height := 720

theorem degradedLink_publishes : degradedLink.Publishes 1 7 degradedStream := by
  refine ⟨by decide +kernel, by decide +kernel, ?_⟩
  have hget : (degradedLink.system.control.rooms[1]?).bind
      (fun room => room.published_streams[7]?) = some degradedStream := by decide +kernel
  exact Option.bind_eq_some_iff.mp hget

theorem degradedLink_reachable : degradedLink.system.Reachable := by
  have hsharing : sharingLink.system.Reachable :=
    send_reachable (send_reachable ⟨_, _, ⟨.new, .new, rfl⟩, rfl⟩ _) _
  obtain ⟨start, events, hstart, hrun⟩ := hsharing
  refine ⟨start, events ++ degradingRun, hstart, ?_⟩
  rw [run_append, ← hrun]
  rfl

/-- The broadcaster as it starts, at a bitrate of its own. -/
def startingBroadcaster : ScreenBroadcaster where
  encoder := .synthetic ⟨{ H264EncoderConfig.default with bitrate_bps := 122880 }, true⟩
  active_fps := 30
  target_width := 1280
  target_height := 720
  ticker_micros := 33333

end ControlLink

end TeamView.Client
