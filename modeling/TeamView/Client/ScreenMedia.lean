import TeamView.Client.Broadcaster
import TeamView.Client.Capture
import TeamView.Client.MediaSend
import TeamView.Client.UiServer

set_option autoImplicit false

/-! # The loop of the screen broadcaster

`run_screen_broadcaster_media_loop` (`crates/desktop-client/src/main.rs`): on every tick the
broadcaster captures a frame, encodes it, cuts it into packets and sends them, and every so many
frames it asks the relay what to change. The loop is a flow over what it keeps (`ScreenMediaLoop`);
what a turn takes from outside are the answers to its calls (`ScreenMediaTurn`). Whatever they are,
the packets on the wire are numbered without a gap, and a frame is a keyframe exactly when one is
due.
-/

namespace TeamView.Client

open TeamView.Protocol MachineInt Runs Flows

/-! ## Arguments -/

inductive VideoEncoderArg where
  | synthetic
  | mediaFoundation
  deriving DecidableEq

/-- The arguments of a broadcaster's media loop. -/
structure MediaArgs extends UiArgs where
  video_encoder : VideoEncoderArg
  max_datagram_payload : Nat
  feedback_interval_frames : UInt32

/-- What the operating system offers. -/
structure Platform where
  is_windows : Bool
  capture_source_size : CaptureSource → Except String (UInt32 × UInt32)
  hardware_h264_encoders : Except String Nat

def MediaArgs.mediaFrameInterval (args : MediaArgs) : Except String Nat :=
  if args.activeMediaFps = 0 then .error "--media-fps/--voice-fps must be greater than zero"
  else .ok (mediaIntervalMicros args.activeMediaFps)

/-- Whether the relay is asked after so many frames. -/
def MediaArgs.feedbackDue (args : MediaArgs) (frames : UInt32) : Bool :=
  decide (0 < args.feedback_interval_frames) &&
    decide (frames.toNat % args.feedback_interval_frames.toNat = 0)

/-! ## The encoder of a loop -/

namespace H264VideoEncoder

def new (backend : VideoEncoderArg) (hardware : Except String Nat) (config : H264EncoderConfig) :
    Except String H264VideoEncoder :=
  match backend, hardware with
  | .synthetic, _ => .ok (.synthetic ⟨config, false⟩)
  | .mediaFoundation, .ok 0 =>
      .error
        ("Media Foundation H.264 encoder is unavailable: Media Foundation started, but no " ++
          "hardware H.264 encoder MFT was enumerated")
  | .mediaFoundation, .ok (_ + 1) =>
      .ok (.mediaFoundation ⟨config, config.synthetic_payload_bytes, true⟩)
  | .mediaFoundation, .error error =>
      .error s!"Media Foundation H.264 encoder is unavailable: {error}"

def encode (encoder : H264VideoEncoder) (frame : CaptureFrame) (stream_id : UInt32) :
    Except String (H264VideoEncoder × Option EncodedFrame) :=
  match encoder with
  | .synthetic encoder =>
      let (encoder, encoded) := encoder.encode frame stream_id
      .ok (.synthetic encoder, some encoded)
  | .mediaFoundation _ =>
      .error
        ("Media Foundation H.264 encoder was selected and detected, but frame submission is not " ++
          "wired yet")

/-- The flag that makes the next frame a keyframe. -/
def keyframeRequested : H264VideoEncoder → Bool
  | .synthetic encoder => encoder.keyframe_requested
  | .mediaFoundation encoder => encoder.keyframe_requested

end H264VideoEncoder

def MediaArgs.videoEncoder (args : MediaArgs) (platform : Platform) (width height : UInt32) :
    Except String H264VideoEncoder :=
  H264VideoEncoder.new args.video_encoder platform.hardware_h264_encoders
    { width := width
      height := height
      frames_per_second := max args.media_fps 1
      bitrate_bps := UInt32.ofNat args.syntheticBitrateBps
      synthetic_payload_bytes := args.media_frame_bytes }

/-! ## The loop -/

/-- The variables of the loop. -/
structure ScreenMediaLoop where
  capture : WindowsGraphicsCapture
  broadcaster : ScreenBroadcaster
  frame_id : UInt32
  sender : MediaSender

/-- What a turn of the loop takes from outside. -/
structure ScreenMediaTurn where
  stop_before_tick : Bool
  stop_after_tick : Bool
  screen : Except String ScreenShot
  capture_time_micros : UInt64
  /-- the offset of the clock estimate that is in force -/
  refresh_if_due : Except String Int64
  encode_done_time_micros : UInt64
  send_datagram : SendDatagram
  poll_publisher_feedback : Except String PublisherFeedback
  set_screen_stream_config : Except String Unit
  poll_remote_input : Except String Unit

/-- What a call without a result in the model shows: that the program does not go on. -/
def orPanic {α : Type} (message : String) : Option (Except String α) → Except String α
  | some result => result
  | none => .error message

namespace ScreenMediaLoop

def start (args : MediaArgs) (platform : Platform) : Except String ScreenMediaLoop := do
  let frame_interval ← args.mediaFrameInterval
  let (target_width, target_height) ← args.screenCaptureDimensions platform.capture_source_size
  let source ← args.captureSource
  let capture ← WindowsGraphicsCapture.new platform.is_windows source ⟨1⟩
  let encoder ← args.videoEncoder platform target_width target_height
  return {
    capture := capture
    broadcaster := ⟨encoder.requestKeyframe, args.media_fps, target_width, target_height,
      frame_interval⟩
    frame_id := 1
    sender := .new }

end ScreenMediaLoop

/-- When the loop ends: after this many turns, or when it is told to stop. -/
structure ScreenMediaRunOptions where
  max_frames : Option UInt32
  stop : Bool

abbrev ScreenMediaFlow (α : Type) : Type := Flow ScreenMediaLoop String α

namespace ScreenMedia

variable (args : MediaArgs)

/-- `resize_capture_frame`. -/
def resizeCaptureFrame (frame : CaptureFrame) (target_width target_height : UInt32) :
    Except String CaptureFrame :=
  if target_width = 0 ∨ target_height = 0 then .ok frame
  else orPanic "capacity overflow" (frame.resizeBgraNearest target_width target_height)

def captureScreenFrame (turn : ScreenMediaTurn) : ScreenMediaFlow (Option CaptureFrame) := do
  let loop ← get
  let width := loop.broadcaster.target_width
  let height := loop.broadcaster.target_height
  match args.screen_input with
  | .synthetic =>
      let pushed := loop.capture.pushTestFrame (max width 1) (max height 1)
        turn.capture_time_micros
      let (capture, frame) := pushed.nextFrame turn.screen
      set { loop with capture }
      liftExcept frame
  | .live =>
      let (capture, frame) := loop.capture.nextFrame turn.screen
      set { loop with capture }
      match ← liftExcept frame with
      | none => return none
      | some frame => some <$> liftExcept (resizeCaptureFrame frame width height)

/-- The frame with what the loop adds to the encoder's result. -/
def encodeFrame (turn : ScreenMediaTurn) (captured : CaptureFrame) :
    ScreenMediaFlow (Option EncodedFrame) := do
  let loop ← get
  let (encoder, frame) ← liftExcept
    (loop.broadcaster.encoder.encode captured (UInt32.ofNat args.stream_id))
  set { loop with broadcaster := { loop.broadcaster with encoder } }
  match frame with
  | none => return none
  | some frame =>
      let clock_offset_micros ← liftExcept turn.refresh_if_due
      return some
        { frame with
          sender_clock_offset_micros := clock_offset_micros
          sender_encode_done_time_micros := turn.encode_done_time_micros }

/-- A flow over what the loop has sent. -/
def sending {α : Type} (x : SendFlow α) : ScreenMediaFlow α :=
  within ScreenMediaLoop.sender (fun loop sender => { loop with sender }) x

/-- `request_keyframe` on the encoder of the loop. -/
def requestKeyframe (loop : ScreenMediaLoop) : ScreenMediaLoop :=
  { loop with
    broadcaster := { loop.broadcaster with encoder := loop.broadcaster.encoder.requestKeyframe }
    sender := loop.sender.demandKeyframe }

/-- `apply_publisher_feedback`, and the new stream configuration when the resolution changes. -/
def followFeedback (turn : ScreenMediaTurn) (feedback : PublisherFeedback) :
    ScreenMediaFlow Unit := do
  let loop ← get
  let (broadcaster, resolution_changed) := loop.broadcaster.applyPublisherFeedback feedback
  if resolution_changed then
    set { loop with broadcaster, sender := loop.sender.demandKeyframe }
    liftExcept turn.set_screen_stream_config
  else set { loop with broadcaster }

/-- What the loop asks the relay after every `feedback_interval_frames` frames. -/
def askRelay (turn : ScreenMediaTurn) : ScreenMediaFlow Unit := do
  let feedback ← liftExcept turn.poll_publisher_feedback
  if feedback.keyframe_requested then modify requestKeyframe
  followFeedback turn feedback
  liftExcept turn.poll_remote_input

/-- The `frame_id` of the loop counts its turns. -/
def nextTurn : ScreenMediaFlow Unit :=
  modify fun loop => { loop with frame_id := satSucc loop.frame_id }

/-- What a turn sends, and whether the relay is asked after it. -/
def captureAndSendFrame (turn : ScreenMediaTurn) : ScreenMediaFlow Bool := do
  match ← captureScreenFrame args turn with
  | none => return false
  | some captured =>
      match ← encodeFrame args turn captured with
      | none => return false
      | some frame =>
          sending (MediaSender.sendFrame .video args.max_datagram_payload turn.send_datagram frame)
          let loop ← get
          return args.feedbackDue loop.frame_id

/-- What a turn does when the loop goes on. -/
def captureAndSend (turn : ScreenMediaTurn) : ScreenMediaFlow Unit := do
  if ← captureAndSendFrame args turn then askRelay turn
  nextTurn

/-- Whether the loop goes on with this turn. -/
def goesOn (options : ScreenMediaRunOptions) (turn : ScreenMediaTurn) (loop : ScreenMediaLoop) :
    Bool :=
  !(options.stop && turn.stop_before_tick) &&
    !(options.max_frames.any fun max_frames => decide (max_frames < loop.frame_id)) &&
    !(options.stop && turn.stop_after_tick)

/-- One turn of the loop, and whether there is a next one. -/
def takeTurn (options : ScreenMediaRunOptions) (turn : ScreenMediaTurn) :
    ScreenMediaFlow Bool := do
  let loop ← get
  if goesOn options turn loop then
    captureAndSend args turn
    return true
  else return false

/-- The turns of the loop so far, and whether there is a next one. -/
def takeTurns (options : ScreenMediaRunOptions) : List ScreenMediaTurn → ScreenMediaFlow Bool
  | [] => return true
  | turn :: turns => do
      if ← takeTurn args options turn then takeTurns options turns else return false

/-- What is left after the loop: one more feedback, and a look at the metrics. -/
def finish (turn : ScreenMediaTurn) (poll_stream_metrics : Except String Unit) :
    ScreenMediaFlow Unit := do
  let feedback ← liftExcept turn.poll_publisher_feedback
  followFeedback turn feedback
  liftExcept turn.poll_remote_input
  liftExcept poll_stream_metrics

/-- The loop and what follows it, as far as they have come. -/
def mediaLoop (options : ScreenMediaRunOptions) (turns : List ScreenMediaTurn)
    (last : ScreenMediaTurn) (poll_stream_metrics : Except String Unit) : ScreenMediaFlow Unit := do
  if ← takeTurns args options turns then return () else finish last poll_stream_metrics

end ScreenMedia

/-- `run_screen_broadcaster_media_loop`, as far as it has come: its result, if it has ended, and
what it has done. -/
def runScreenBroadcasterMediaLoop (args : MediaArgs) (platform : Platform)
    (options : ScreenMediaRunOptions) (turns : List ScreenMediaTurn) (last : ScreenMediaTurn)
    (poll_stream_metrics : Except String Unit) : Except String Unit × List MediaEvent :=
  match ScreenMediaLoop.start args platform with
  | .error error => (.error error, [])
  | .ok loop =>
      let (outcome, after) :=
        exec (ScreenMedia.mediaLoop args options turns last poll_stream_metrics) loop
      (outcome, after.sender.log)

/-- The id of the frame after so many frames. -/
def frameIdAfter (count : Nat) : UInt64 := UInt64.ofNat (satAdd u64Max 1 count)

/-- What a screen broadcaster sends. -/
def screenStream : MediaStream where
  packet_type := .video
  frameId count := (frameIdAfter count).toUInt32
  keyframe := MediaLog.due

/-! ## Frame ids -/

theorem nextFrameId_frameIdAfter (count : Nat) :
    nextFrameId (frameIdAfter count) = frameIdAfter (count + 1) := by
  have hbound : satAdd u64Max 1 count < 2 ^ 64 :=
    Nat.lt_of_le_of_lt (Nat.min_le_right _ _) (by decide)
  unfold nextFrameId frameIdAfter
  rw [UInt64.toNat_ofNat', Nat.mod_eq_of_lt hbound]
  refine congrArg UInt64.ofNat ?_
  generalize u64Max = top
  unfold satAdd
  omega

theorem frameIdAfter_eq_one {count : Nat} (h : frameIdAfter count = 1) : count = 0 := by
  have hbound : satAdd u64Max 1 count < 2 ^ 64 :=
    Nat.lt_of_le_of_lt (Nat.min_le_right _ _) (by decide)
  have htwo : 2 ≤ u64Max := by decide
  have hnat := congrArg UInt64.toNat h
  unfold frameIdAfter at hnat
  rw [UInt64.toNat_ofNat', Nat.mod_eq_of_lt hbound, satAdd, UInt64.toNat_one] at hnat
  generalize u64Max = top at *
  omega

/-- A frame that passes the checks of `CaptureFrame::cpu_bgra` has the id it was given. -/
theorem cpuBgra_frame_id {frame_id capture_time_micros : UInt64} {width height : UInt32}
    {bytes : List UInt8} {frame : CaptureFrame}
    (h : CaptureFrame.cpuBgra frame_id width height capture_time_micros bytes = .ok frame) :
    frame.frame_id = frame_id := by
  unfold CaptureFrame.cpuBgra at h
  split at h
  · cases h
  · split at h
    · cases h
    · cases h
      rfl

theorem resizeCaptureFrame_frame_id {frame resized : CaptureFrame} {width height : UInt32}
    (h : ScreenMedia.resizeCaptureFrame frame width height = .ok resized) :
    resized.frame_id = frame.frame_id := by
  unfold ScreenMedia.resizeCaptureFrame CaptureFrame.resizeBgraNearest at h
  split at h
  · cases h
    rfl
  · split at h
    · cases h
      rfl
    · split at h
      · split at h
        · cases h
          rfl
        · split at h
          · cases h
          · split at h
            · cases h
            · rcases hpixels : resizeBgraNearest _ frame.width frame.height width height with
                _ | (_ | bytes)
              · rw [hpixels] at h
                cases h
              · rw [hpixels] at h
                cases h
              · rw [hpixels] at h
                exact cpuBgra_frame_id h
      · cases h
        rfl

namespace WindowsGraphicsCapture

variable {capture : WindowsGraphicsCapture}

theorem captureNow_spec {screen : Except String ScreenShot} {frame : CaptureFrame}
    (h : (capture.captureNow screen).2 = .ok frame) :
    frame.frame_id = capture.next_frame_id ∧
      (capture.captureNow screen).1.queue = capture.queue ∧
      (capture.captureNow screen).1.next_frame_id = nextFrameId capture.next_frame_id := by
  unfold captureNow at h ⊢
  split at h
  · cases h
  · split at h
    · cases h
    · next hframe =>
        cases h
        exact ⟨cpuBgra_frame_id hframe, rfl, rfl⟩

/-- With nothing queued the next frame is taken now. -/
theorem nextFrame_of_empty (hempty : capture.queue.frames = [])
    (screen : Except String ScreenShot) :
    capture.nextFrame screen
      = ((capture.captureNow screen).1, (capture.captureNow screen).2.map some) := by
  unfold nextFrame LatestQueue.popLatest
  rw [hempty]
  rfl

/-- A test frame is the next frame. -/
theorem nextFrame_pushTestFrame (hempty : capture.queue.frames = []) (width height : UInt32)
    (capture_time_micros : UInt64) (screen : Except String ScreenShot) :
    ∃ queue : LatestFrameQueue, queue.frames = [] ∧
      (capture.pushTestFrame width height capture_time_micros).nextFrame screen
        = ({ capture with queue, next_frame_id := nextFrameId capture.next_frame_id },
          .ok (some (.metadataOnly capture.next_frame_id width height capture_time_micros))) := by
  have hframes : (capture.queue.push (.metadataOnly capture.next_frame_id width height
      capture_time_micros)).frames
      = [.metadataOnly capture.next_frame_id width height capture_time_micros] := by
    show (LatestQueue.makeRoom _ capture.queue.frames _).1 ++ [_] = _
    rw [hempty]
    rfl
  refine ⟨((capture.queue.push (.metadataOnly capture.next_frame_id width height
    capture_time_micros)).popLatest).1, LatestQueue.popLatest_frames _, ?_⟩
  unfold nextFrame pushTestFrame LatestQueue.popLatest
  simp only [hframes]
  rfl

end WindowsGraphicsCapture

/-! ## The loop keeps the contract -/

namespace ScreenMedia

open MediaLog

/-- The loop between two of its calls, behind this log and in this turn: so many frames have been
captured, and the encoder makes the next one a keyframe or not. -/
structure Holds (args : MediaArgs) (log : List MediaEvent) (turn : UInt32) (count : Nat)
    (keyframe : Bool) (loop : ScreenMediaLoop) : Prop where
  sends : loop.sender.Sends screenStream args.max_datagram_payload []
  log : loop.sender.log = log
  turn : loop.frame_id = turn
  queue : loop.capture.queue.frames = []
  frame_id : loop.capture.next_frame_id = frameIdAfter count
  flag : loop.broadcaster.encoder.keyframeRequested = keyframe

/-- Every captured frame is in the log, and the encoder knows what is due. -/
def Standing (args : MediaArgs) (log : List MediaEvent) (turn : UInt32) (loop : ScreenMediaLoop) :
    Prop :=
  Holds args log turn (frames log).length (due log) loop

/-- What holds wherever the loop ends. -/
def Stopped (args : MediaArgs) (error : String) (loop : ScreenMediaLoop) : Prop :=
  MediaSender.Stopped screenStream args.max_datagram_payload error loop.sender

section Steps

variable {args : MediaArgs} {turn : ScreenMediaTurn} {log : List MediaEvent} {id : UInt32}

theorem Holds.stopped {count : Nat} {keyframe : Bool} {loop : ScreenMediaLoop}
    (h : Holds args log id count keyframe loop) (error : String) : Stopped args error loop :=
  ⟨[], h.sends.log⟩

/-- A frame is captured that is not in the log yet. -/
theorem captureScreenFrame_triple :
    Triple (Standing args log id) (captureScreenFrame args turn)
      (fun captured loop => ∃ frame, captured = some frame ∧
        frame.frame_id = frameIdAfter (frames log).length ∧
        Holds args log id ((frames log).length + 1) (due log) loop)
      (Stopped args) := by
  unfold captureScreenFrame
  refine Triple.get_bind fun loop hloop => ?_
  rintro _ rfl
  cases hinput : args.screen_input with
  | synthetic =>
      obtain ⟨queue, hempty, hnext⟩ := WindowsGraphicsCapture.nextFrame_pushTestFrame hloop.queue
        (max loop.broadcaster.target_width 1) (max loop.broadcaster.target_height 1)
        turn.capture_time_micros turn.screen
      simp only [hnext]
      rw [exec_bind_ok (exec_set _ _), exec_liftExcept]
      refine ⟨_, rfl, hloop.frame_id, hloop.sends, hloop.log, hloop.turn, hempty, ?_, hloop.flag⟩
      rw [← nextFrameId_frameIdAfter, ← hloop.frame_id]
  | live =>
      simp only [WindowsGraphicsCapture.nextFrame_of_empty hloop.queue]
      rw [exec_bind_ok (exec_set _ _)]
      rcases hframe : (loop.capture.captureNow turn.screen).2 with error | frame
      · exact hloop.stopped error
      · obtain ⟨hid, hqueue, hnext⟩ := WindowsGraphicsCapture.captureNow_spec hframe
        rw [exec_bind_ok (by rw [exec_liftExcept]; rfl)]
        have hafter : Holds args log id ((frames log).length + 1) (due log)
            { loop with capture := (loop.capture.captureNow turn.screen).1 } := by
          refine ⟨hloop.sends, hloop.log, hloop.turn, ?_, ?_, hloop.flag⟩
          · show (loop.capture.captureNow turn.screen).1.queue.frames = []
            rw [hqueue]
            exact hloop.queue
          · rw [← nextFrameId_frameIdAfter, ← hloop.frame_id]
            exact hnext
        simp only [exec_map_liftExcept]
        rcases hresized : resizeCaptureFrame frame loop.broadcaster.target_width
            loop.broadcaster.target_height with error | resized
        · exact hafter.stopped error
        · refine ⟨resized, rfl, ?_, hafter⟩
          rw [resizeCaptureFrame_frame_id hresized, hid]
          exact hloop.frame_id

/-- An encoded frame is a keyframe when one is due, and then none is due any more. -/
theorem encodeFrame_triple {captured : CaptureFrame}
    (hid : captured.frame_id = frameIdAfter (frames log).length) :
    Triple (Holds args log id ((frames log).length + 1) (due log)) (encodeFrame args turn captured)
      (fun encoded loop => ∃ frame, encoded = some frame ∧
        frame.frame_id = (frameIdAfter (frames log).length).toUInt32 ∧
        frame.is_keyframe = due log ∧
        Holds args log id ((frames log).length + 1) false loop)
      (Stopped args) := by
  unfold encodeFrame
  refine Triple.get_bind fun loop hholds => ?_
  rintro _ rfl
  cases hencoder : loop.broadcaster.encoder with
  | mediaFoundation encoder => exact hholds.stopped _
  | synthetic encoder =>
      have hflag : encoder.keyframe_requested = due log := by
        have h := hholds.flag
        rw [hencoder] at h
        exact h
      -- the frame with the first id is the first one, which is a keyframe anyway
      have hkeyframe : encoder.isKeyframe captured = due log := by
        unfold H264Encoder.isKeyframe
        rw [hflag, hid]
        by_cases hfirst : frameIdAfter (frames log).length = 1
        · have hnone : frames log = [] := List.length_eq_zero_iff.mp (frameIdAfter_eq_one hfirst)
          rw [due_of_frames_eq_nil hnone, Bool.true_or]
        · rw [decide_eq_false hfirst, Bool.or_false]
      simp only [H264VideoEncoder.encode]
      rw [exec_bind_ok (by rw [exec_liftExcept])]
      simp only
      rw [exec_bind_ok (exec_set _ _)]
      have hafter : Holds args log id ((frames log).length + 1) false
          { loop with
            broadcaster :=
              { loop.broadcaster with
                encoder := .synthetic
                  (encoder.encode captured (UInt32.ofNat args.stream_id)).1 } } :=
        ⟨hholds.sends, hholds.log, hholds.turn, hholds.queue, hholds.frame_id, rfl⟩
      rcases turn.refresh_if_due with error | offset
      · exact hafter.stopped error
      · exact ⟨_, rfl, congrArg UInt64.toUInt32 hid, hkeyframe, hafter⟩

/-- One more frame is in the log, a keyframe when one was due. -/
def Sent (args : MediaArgs) (log : List MediaEvent) (id : UInt32) (loop : ScreenMediaLoop) : Prop :=
  ∃ log' sent, Standing args log' id loop ∧ frames log' = frames log ++ [sent] ∧
    sent.frame.is_keyframe = due log

/-- A frame goes out whole, or the loop ends. -/
theorem sendFrame_triple {frame : EncodedFrame}
    (hid : frame.frame_id = (frameIdAfter (frames log).length).toUInt32)
    (hkeyframe : frame.is_keyframe = due log) :
    Triple (Holds args log id ((frames log).length + 1) false)
      (sending (MediaSender.sendFrame .video args.max_datagram_payload turn.send_datagram frame))
      (fun _ => Sent args log id) (Stopped args) := by
  refine Triple.within fun loop hholds => ?_
  refine (MediaSender.sendFrame_triple screenStream log loop.sender.sent_frames
    turn.send_datagram frame).consequence ?_ ?_ (fun _ _ h => h.1)
  · rintro _ rfl
    refine ⟨hholds.sends, ?_, ?_, hholds.log, rfl⟩
    · rw [hholds.log]
      exact hid
    · rw [hholds.log]
      exact hkeyframe
  · rintro _ sender ⟨hsends, ⟨sent, taken, rfl, hlog⟩, -⟩
    have hframes : frames sender.log = frames log ++ [sent] := by
      rw [hlog, frames_sentBehind, frames_frame]
    refine ⟨sender.log, sent, ⟨hsends, rfl, hholds.turn, hholds.queue, ?_, ?_⟩, hframes, hkeyframe⟩
    · rw [hframes, List.length_append]
      exact hholds.frame_id
    · rw [hlog, due_sentBehind, due_frame]
      exact hholds.flag

theorem captureAndSendFrame_triple :
    Triple (Standing args log id) (captureAndSendFrame args turn)
      (fun asks loop => asks = args.feedbackDue id ∧ Sent args log id loop) (Stopped args) := by
  unfold captureAndSendFrame
  refine Triple.bind captureScreenFrame_triple fun captured => ?_
  rintro loop ⟨frame, rfl, hid, hholds⟩
  refine Triple.bind (encodeFrame_triple hid) (fun encoded => ?_) loop hholds
  rintro loop ⟨frame, rfl, hid, hkeyframe, hencoded⟩
  refine Triple.bind (sendFrame_triple hid hkeyframe) (fun _ => ?_) loop hencoded
  refine Triple.get_bind fun loop hloop => ?_
  rintro _ rfl
  obtain ⟨log', sent, hstanding, hsent⟩ := hloop
  refine ⟨?_, log', sent, hstanding, hsent⟩
  rw [hstanding.turn]

/-! ### What the relay asks -/

theorem demandKeyframe_sends {sender : MediaSender} {max_datagram_payload : Nat}
    (h : sender.Sends screenStream max_datagram_payload []) :
    sender.demandKeyframe.Sends screenStream max_datagram_payload [] := by
  refine ⟨h.log.keyframeDemanded, ?_⟩
  show sender.next_sequence_number = _
  rw [MediaSender.demandKeyframe, cut_demanded]
  exact h.number

/-- The new encoder of a broadcaster whose next frame has to be a keyframe. -/
theorem Standing.demanded {loop : ScreenMediaLoop} (hloop : Standing args log id loop)
    {broadcaster : ScreenBroadcaster} (hflag : broadcaster.encoder.keyframeRequested = true) :
    Standing args (log ++ [.keyframeDemanded]) id
      { loop with broadcaster, sender := loop.sender.demandKeyframe } := by
  refine ⟨demandKeyframe_sends hloop.sends, ?_, hloop.turn, hloop.queue, ?_, ?_⟩
  · show loop.sender.log ++ [.keyframeDemanded] = _
    rw [hloop.log]
  · rw [frames_demanded]
    exact hloop.frame_id
  · rw [due_demanded]
    exact hflag

theorem keyframeRequested_requestKeyframe (encoder : H264VideoEncoder) :
    encoder.requestKeyframe.keyframeRequested = true := by
  cases encoder <;> rfl

/-- A feedback makes the next frame a keyframe when it changes the resolution, and does nothing to
the flag otherwise. -/
theorem keyframeRequested_applyPublisherFeedback (broadcaster : ScreenBroadcaster)
    (feedback : PublisherFeedback) :
    (broadcaster.applyPublisherFeedback feedback).1.encoder.keyframeRequested
      = ((broadcaster.applyPublisherFeedback feedback).2 ||
          broadcaster.encoder.keyframeRequested) := by
  have hbitrate : ∀ (broadcaster : ScreenBroadcaster) bitrate,
      (broadcaster.applyBitrate bitrate).encoder.keyframeRequested
        = broadcaster.encoder.keyframeRequested := by
    intro broadcaster bitrate
    unfold ScreenBroadcaster.applyBitrate
    split
    · cases broadcaster.encoder <;> rfl
    · rfl
  have hframes : ∀ (broadcaster : ScreenBroadcaster) frames_per_second,
      (broadcaster.applyFrameRate frames_per_second).encoder.keyframeRequested
        = broadcaster.encoder.keyframeRequested := by
    intro broadcaster frames_per_second
    unfold ScreenBroadcaster.applyFrameRate
    split
    · cases broadcaster.encoder <;> rfl
    · rfl
  unfold ScreenBroadcaster.applyPublisherFeedback ScreenBroadcaster.applyResolution
  dsimp only
  split
  · exact keyframeRequested_requestKeyframe _
  · exact (hframes _ _).trans (hbitrate _ _)

/-- The relay has been asked: nothing was sent, and a keyframe that is due or `demanded` is due. -/
def Asked (args : MediaArgs) (log : List MediaEvent) (id : UInt32) (demanded : Prop)
    (loop : ScreenMediaLoop) : Prop :=
  ∃ log', Standing args log' id loop ∧ frames log' = frames log ∧
    (due log = true ∨ demanded → due log' = true)

theorem followFeedback_triple (feedback : PublisherFeedback) :
    Triple (Standing args log id) (followFeedback turn feedback)
      (fun _ => Asked args log id False) (Stopped args) := by
  unfold followFeedback
  refine Triple.get_bind fun loop hloop => ?_
  have hflag := keyframeRequested_applyPublisherFeedback loop.broadcaster feedback
  generalize loop.broadcaster.applyPublisherFeedback feedback = followed at hflag ⊢
  obtain ⟨broadcaster, resolution_changed⟩ := followed
  cases resolution_changed with
  | true =>
      have hafter := hloop.demanded (hflag.trans (Bool.true_or _))
      rintro _ rfl
      cases turn.set_screen_stream_config with
      | error error => exact hafter.stopped error
      | ok _ => exact ⟨_, hafter, frames_demanded log, fun _ => due_demanded log⟩
  | false =>
      have hsame : broadcaster.encoder.keyframeRequested
          = loop.broadcaster.encoder.keyframeRequested := hflag.trans (Bool.false_or _)
      refine Triple.set _ ⟨log, ⟨hloop.sends, hloop.log, hloop.turn, hloop.queue, hloop.frame_id,
        ?_⟩, rfl, fun h => h.resolve_right not_false⟩
      exact hsame.trans hloop.flag

theorem askRelay_triple :
    Triple (Standing args log id) (askRelay turn)
      (fun _ => Asked args log id (∃ feedback,
        turn.poll_publisher_feedback = .ok feedback ∧ feedback.keyframe_requested = true))
      (Stopped args) := by
  unfold askRelay
  refine Triple.bind (Triple.liftExcept _ fun error _ h => Holds.stopped h error) fun feedback => ?_
  have hrest : ∀ log, Triple (Standing args log id)
      (do followFeedback turn feedback; liftExcept turn.poll_remote_input)
      (fun _ => Asked args log id False) (Stopped args) := fun log =>
    Triple.bind (followFeedback_triple feedback) fun _ =>
      (Triple.liftExcept _ fun error _ ⟨_, h, _⟩ => Holds.stopped h error).consequence
        (fun _ h => h) (fun _ _ h => h.1) fun _ _ h => h
  rintro loop ⟨hloop, hpoll⟩
  cases hrequested : feedback.keyframe_requested with
  | true =>
      refine (hrest (log ++ [.keyframeDemanded])).consequence (fun _ h => h) ?_ (fun _ _ h => h) _
        (hloop.demanded (keyframeRequested_requestKeyframe _))
      rintro _ after ⟨log', hafter, hframes, hdue⟩
      exact ⟨log', hafter, hframes.trans (frames_demanded log),
        fun _ => hdue (.inl (due_demanded log))⟩
  | false =>
      refine (hrest log).consequence (fun _ h => h) ?_ (fun _ _ h => h) _ hloop
      rintro _ after ⟨log', hafter, hframes, hdue⟩
      refine ⟨log', hafter, hframes, fun h => hdue (.inl (h.resolve_right ?_))⟩
      rintro ⟨feedback', hpoll', hrequested'⟩
      cases hpoll.symm.trans hpoll'
      rw [hrequested] at hrequested'
      cases hrequested'

theorem nextTurn_triple :
    Triple (Standing args log id) nextTurn (fun _ => Standing args log (satSucc id))
      (Stopped args) :=
  Triple.modify fun _ hloop =>
    ⟨hloop.sends, hloop.log, congrArg satSucc hloop.turn, hloop.queue, hloop.frame_id, hloop.flag⟩

/-- The loop stands behind some log. -/
def Stands (args : MediaArgs) (loop : ScreenMediaLoop) : Prop :=
  ∃ log id, Standing args log id loop

theorem captureAndSend_triple :
    Triple (Standing args log id) (captureAndSend args turn) (fun _ => Stands args)
      (Stopped args) := by
  unfold captureAndSend
  have hnext : ∀ log', Triple (Standing args log' id) nextTurn (fun _ => Stands args)
      (Stopped args) := fun log' =>
    nextTurn_triple.consequence (fun _ h => h) (fun _ _ h => ⟨log', satSucc id, h⟩) fun _ _ h => h
  refine Triple.bind captureAndSendFrame_triple fun asks => ?_
  rintro loop ⟨-, log', sent, hsent, -⟩
  cases asks with
  | true =>
      refine Triple.bind askRelay_triple (fun _ => ?_) loop hsent
      exact fun loop ⟨log'', hasked, _⟩ => hnext log'' loop hasked
  | false => exact hnext log' loop hsent

theorem takeTurn_triple (options : ScreenMediaRunOptions) :
    Triple (Stands args) (takeTurn args options turn) (fun _ => Stands args) (Stopped args) := by
  unfold takeTurn
  refine Triple.get_bind fun loop hloop => ?_
  obtain ⟨log, id, hstanding⟩ := hloop
  split
  · rintro _ rfl
    exact Triple.bind captureAndSend_triple (fun _ _ h => h) loop hstanding
  · rintro _ rfl
    exact ⟨log, id, hstanding⟩

theorem takeTurns_triple (options : ScreenMediaRunOptions) (turns : List ScreenMediaTurn) :
    Triple (Stands args) (takeTurns args options turns) (fun _ => Stands args)
      (Stopped args) := by
  induction turns with
  | nil => exact fun _ hloop => hloop
  | cons turn turns ih =>
      unfold takeTurns
      refine Triple.bind (takeTurn_triple options) fun more => ?_
      cases more with
      | true => exact ih
      | false => exact fun _ hloop => hloop

theorem finish_triple (poll_stream_metrics : Except String Unit) :
    Triple (Stands args) (finish turn poll_stream_metrics) (fun _ => Stands args)
      (Stopped args) := by
  rintro loop ⟨log, id, hloop⟩
  unfold finish
  refine Triple.bind (Triple.liftExcept _ fun error _ h => Holds.stopped h error)
    (fun feedback => ?_) loop hloop
  rintro loop ⟨hloop, -⟩
  refine Triple.bind (followFeedback_triple feedback) (fun _ => ?_) loop hloop
  refine Triple.bind (Triple.liftExcept _ fun error _ ⟨_, h, _⟩ => Holds.stopped h error)
    fun _ => ?_
  exact (Triple.liftExcept _ fun error _ ⟨⟨_, h, _⟩, _⟩ => Holds.stopped h error).consequence
    (fun _ h => h) (fun _ _ ⟨⟨⟨log', h, _⟩, _⟩, _⟩ => ⟨log', id, h⟩) fun _ _ h => h

theorem mediaLoop_triple (options : ScreenMediaRunOptions) (turns : List ScreenMediaTurn)
    (last : ScreenMediaTurn) (poll_stream_metrics : Except String Unit) :
    Triple (Stands args) (mediaLoop args options turns last poll_stream_metrics)
      (fun _ => Stands args) (Stopped args) := by
  unfold mediaLoop
  refine Triple.bind (takeTurns_triple options turns) fun more => ?_
  cases more with
  | true => exact fun _ hloop => hloop
  | false => exact finish_triple poll_stream_metrics

end Steps

theorem standing_start {args : MediaArgs} {platform : Platform} {loop : ScreenMediaLoop}
    (h : ScreenMediaLoop.start args platform = .ok loop) : Standing args [] 1 loop := by
  unfold ScreenMediaLoop.start at h
  obtain ⟨frame_interval, -, h⟩ := bind_eq_ok.mp h
  obtain ⟨⟨target_width, target_height⟩, -, h⟩ := bind_eq_ok.mp h
  obtain ⟨source, -, h⟩ := bind_eq_ok.mp h
  obtain ⟨capture, hcapture, h⟩ := bind_eq_ok.mp h
  obtain ⟨encoder, -, h⟩ := bind_eq_ok.mp h
  cases h
  unfold WindowsGraphicsCapture.new at hcapture
  split at hcapture
  · cases hcapture
    have hfirst : (1 : UInt64) = frameIdAfter 0 := by decide
    exact ⟨⟨.nil, rfl⟩, rfl, rfl, rfl, hfirst, keyframeRequested_requestKeyframe encoder⟩
  · cases hcapture

end ScreenMedia

/-- The loop of a broadcaster keeps the contract, and has sent all of its last frame unless it was
stopped by an error. -/
theorem runScreenBroadcasterMediaLoop_broadcasts (args : MediaArgs) (platform : Platform)
    (options : ScreenMediaRunOptions) (turns : List ScreenMediaTurn) (last : ScreenMediaTurn)
    (poll_stream_metrics : Except String Unit) :
    ∃ rest, Broadcasts screenStream args.max_datagram_payload
        (runScreenBroadcasterMediaLoop args platform options turns last poll_stream_metrics).2
        rest ∧
      ((runScreenBroadcasterMediaLoop args platform options turns last poll_stream_metrics).1
        = .ok () → rest = []) := by
  unfold runScreenBroadcasterMediaLoop
  cases hstart : ScreenMediaLoop.start args platform with
  | error error => exact ⟨[], .nil, fun _ => rfl⟩
  | ok loop =>
      have hloop := ScreenMedia.mediaLoop_triple options turns last poll_stream_metrics loop
        ⟨[], 1, ScreenMedia.standing_start hstart⟩
      dsimp only
      generalize exec (ScreenMedia.mediaLoop args options turns last poll_stream_metrics) loop
        = ended at hloop ⊢
      rcases ended with ⟨error | _, after⟩
      · obtain ⟨rest, hlog⟩ := hloop
        exact ⟨rest, hlog, fun hok => by cases hok⟩
      · obtain ⟨_, _, hstanding⟩ := hloop
        exact ⟨[], hstanding.sends.log, fun _ => rfl⟩

/-- Whatever happens around it, a broadcaster sends the packets of its frames whole and in order,
but for the end of its last frame when it was stopped by an error. They are numbered without a gap,
no datagram is longer than the limit, and the frames have the ids one, two and so on: the lower half
of a 64-bit number that stays at its greatest value. -/
theorem screen_packets_in_order (args : MediaArgs) (platform : Platform)
    (options : ScreenMediaRunOptions) (turns : List ScreenMediaTurn) (last : ScreenMediaTurn)
    (poll_stream_metrics : Except String Unit) :
    ∃ outcome log,
      runScreenBroadcasterMediaLoop args platform options turns last poll_stream_metrics
        = (outcome, log) ∧
      (∃ done rest, MediaLog.cut log = done ++ rest ∧
        List.Forall₂ MediaPacket.Restamped done (MediaLog.packets log) ∧
        (outcome = .ok () → rest = []) ∧
        (rest = [] ∨ ∃ sent, (MediaLog.frames log).getLast? = some sent ∧
          rest <:+ sent.packets)) ∧
      (MediaLog.packets log).map (fun packet => packet.header.sequence_number)
        = numbersFrom 1 (MediaLog.packets log).length ∧
      (∀ packet ∈ MediaLog.packets log, ∃ bytes, packet.encode = .ok bytes ∧
        bytes.length ≤ args.max_datagram_payload) ∧
      (MediaLog.frames log).map SentFrame.id
        = (List.range (MediaLog.frames log).length).map fun count =>
            (frameIdAfter count).toUInt32 := by
  obtain ⟨rest, hlog, hended⟩ := runScreenBroadcasterMediaLoop_broadcasts args platform options
    turns last poll_stream_metrics
  obtain ⟨done, hcut, hdone⟩ := hlog.sent_packets
  exact ⟨_, _, rfl, ⟨done, rest, hcut, hdone, hended, hlog.rest_of_last⟩, hlog.packet_numbers,
    hlog.datagrams_fit, hlog.frame_ids⟩

/-- A frame is a keyframe exactly when it is the first one, or when a keyframe has been demanded
since the frame before it. -/
theorem screen_keyframes_on_demand (args : MediaArgs) (platform : Platform)
    (options : ScreenMediaRunOptions) (turns : List ScreenMediaTurn) (last : ScreenMediaTurn)
    (poll_stream_metrics : Except String Unit) :
    ∃ outcome log,
      runScreenBroadcasterMediaLoop args platform options turns last poll_stream_metrics
        = (outcome, log) ∧
      ∀ before sent after, log = before ++ .frame sent :: after →
        (sent.frame.is_keyframe = true ↔
          MediaLog.frames before = [] ∨
            ∃ earlier later, before = earlier ++ .keyframeDemanded :: later ∧
              MediaLog.frames later = []) := by
  obtain ⟨rest, hlog, -⟩ := runScreenBroadcasterMediaLoop_broadcasts args platform options
    turns last poll_stream_metrics
  refine ⟨_, _, rfl, fun before sent after hsplit => ?_⟩
  rw [hlog.keyframes before sent after hsplit]
  exact MediaLog.due_iff before

end TeamView.Client
