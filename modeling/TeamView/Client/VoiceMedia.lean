import TeamView.Client.AudioRoundTrip
import TeamView.Client.Integrity
import TeamView.Client.ScreenMedia

set_option autoImplicit false

/-! # The loop of the voice broadcaster

`run_voice_broadcaster_media_loop` (`crates/desktop-client/src/main.rs`): on every tick the
broadcaster takes what the microphone has, or makes a synthetic frame, and sends it like a frame of
a screen. It gives up when the microphone stays silent for too many ticks, and follows the targets
of the relay. What the microphone gives goes out in order, and a viewer that gets a frame through
the network hears the samples of the microphone.
-/

namespace TeamView.Client

open TeamView.Protocol MachineInt Runs Flows

/-! ## The encoder follows its targets -/

namespace SyntheticOpusEncoder

/-- `frame_duration_ms` of `audio.rs` and `audio_frame_duration_ms` of `main.rs`. -/
def frameDurationMs (frames_per_second : UInt16) : UInt16 :=
  max (1000 / max frames_per_second 1) 1

def framesPerSecond (config : SyntheticOpusEncoderConfig) : UInt16 :=
  max (1000 / max config.frame_duration_ms 1) 1

def syntheticAudioPayloadBytes (bitrate_bps : UInt32) (frames_per_second : UInt16) : Nat :=
  max (bitrate_bps.toNat / 8 / (max frames_per_second 1).toNat) 16

def updateBitrate (config : SyntheticOpusEncoderConfig) (bitrate_bps : UInt32) :
    SyntheticOpusEncoderConfig :=
  { config with
    bitrate_bps := bitrate_bps
    synthetic_payload_bytes := syntheticAudioPayloadBytes bitrate_bps (framesPerSecond config) }

def setFramesPerSecond (config : SyntheticOpusEncoderConfig) (frames_per_second : UInt16) :
    SyntheticOpusEncoderConfig :=
  let config := { config with frame_duration_ms := frameDurationMs frames_per_second }
  { config with
    synthetic_payload_bytes :=
      syntheticAudioPayloadBytes config.bitrate_bps (framesPerSecond config) }

end SyntheticOpusEncoder

/-! ## The loop -/

inductive VoiceInputArg where
  | synthetic
  | microphone
  deriving DecidableEq

structure VoiceArgs extends MediaArgs where
  voice_input : VoiceInputArg

def VoiceArgs.audioCaptureConfig (args : VoiceArgs) : AudioCaptureConfig where
  sample_rate_hz := 48000
  channel_count := 1
  frame_duration_ms := SyntheticOpusEncoder.frameDurationMs args.voiceFramesPerSecond
  queue_capacity := 1

/-- The variables of the loop. -/
structure VoiceMediaLoop where
  encoder : SyntheticOpusEncoderConfig
  microphone_capture : Option WindowsMicrophoneCapture
  active_fps : UInt16
  ticker_micros : Nat
  empty_capture_ticks : UInt32
  sender : MediaSender

/-- What a turn of the loop takes from outside. -/
structure VoiceMediaTurn where
  stop_before_tick : Bool
  stop_after_tick : Bool
  microphone : MicrophoneAnswer
  capture_time_micros : UInt64
  refresh_if_due : Except String Int64
  encode_done_time_micros : UInt64
  send_datagram : SendDatagram
  poll_publisher_feedback : Except String PublisherFeedback

structure VoiceMediaRunOptions where
  max_frames : Option UInt32
  stop : Bool

namespace VoiceMediaLoop

/-- `microphone` is what becomes of opening the device. -/
def start (args : VoiceArgs) (is_windows : Bool) (microphone : Except String Unit) :
    Except String VoiceMediaLoop := do
  let frame_interval ← args.mediaFrameInterval
  let encoder := SyntheticOpusEncoder.setFramesPerSecond
    { SyntheticOpusEncoderConfig.default with
      synthetic_payload_bytes := args.activeMediaFrameBytes
      bitrate_bps := UInt32.ofNat args.syntheticBitrateBps }
    (max args.activeMediaFps 1)
  match args.voice_input with
  | .synthetic => return ⟨encoder, none, args.activeMediaFps, frame_interval, 0, .new⟩
  | .microphone =>
      let capture ← (WindowsMicrophoneCapture.openDevice is_windows microphone
        args.audioCaptureConfig).mapError fun _ => "failed to open microphone capture"
      let encoder :=
        { encoder with
          sample_rate_hz := capture.config.sample_rate_hz
          channel_count := capture.config.channel_count
          frame_duration_ms := capture.config.frame_duration_ms }
      return ⟨encoder, some capture, args.activeMediaFps, frame_interval, 0, .new⟩

/-- `apply_audio_publisher_feedback`. -/
def applyAudioPublisherFeedback (feedback : PublisherFeedback) (loop : VoiceMediaLoop) :
    VoiceMediaLoop :=
  let target_bitrate := UInt32.ofNat feedback.aggregate_available_bitrate_bps
  let target_frames_per_second := UInt16.ofNat feedback.target_frames_per_second
  let loop :=
    if 0 < target_bitrate ∧ target_bitrate ≠ loop.encoder.bitrate_bps then
      { loop with encoder := SyntheticOpusEncoder.updateBitrate loop.encoder target_bitrate }
    else loop
  if 0 < target_frames_per_second ∧ target_frames_per_second ≠ loop.active_fps then
    { loop with
      active_fps := target_frames_per_second
      encoder := SyntheticOpusEncoder.setFramesPerSecond loop.encoder target_frames_per_second
      ticker_micros := mediaIntervalMicros target_frames_per_second }
  else loop

end VoiceMediaLoop

abbrev VoiceMediaFlow (α : Type) : Type := Flow VoiceMediaLoop String α

/-- What there is to send in a turn. -/
inductive VoiceCapture where
  | nothing
  | synthetic
  | microphone (audio : CapturedAudioFrame)

namespace VoiceMedia

variable (args : VoiceArgs)

/-- A microphone without a frame is waited for, but not for longer than a second. -/
def waitForMicrophone : VoiceMediaFlow VoiceCapture := do
  let loop ← get
  let empty_capture_ticks := satSucc loop.empty_capture_ticks
  set { loop with empty_capture_ticks }
  if (max loop.active_fps 1).toUInt32 < empty_capture_ticks then
    throw s!"microphone capture produced no audio frames for {empty_capture_ticks} ticks"
  else return .nothing

def captureVoice (turn : VoiceMediaTurn) : VoiceMediaFlow VoiceCapture := do
  let loop ← get
  match loop.microphone_capture with
  | none =>
      set { loop with empty_capture_ticks := 0 }
      return .synthetic
  | some capture =>
      let (capture, frame) := capture.nextFrame turn.microphone
      set { loop with microphone_capture := some capture }
      match ← liftExcept frame with
      | none => waitForMicrophone
      | some audio =>
          modify fun loop => { loop with empty_capture_ticks := 0 }
          return .microphone audio

/-- The frame that is sent. Synthetic frames are counted by the frames sent so far. -/
def encodeVoice (turn : VoiceMediaTurn) (captured : Option CapturedAudioFrame) :
    VoiceMediaFlow EncodedFrame := do
  let loop ← get
  let stream_id := UInt32.ofNat args.stream_id
  let frame ← liftExcept
    (match captured with
      | some audio =>
          SyntheticOpusEncoder.encodePcmI16 loop.encoder
            (UInt32.ofNat (min audio.frame_id.toNat u32Max)) audio.capture_time_micros
            audio.sample_rate_hz audio.channel_count audio.samples stream_id
      | none =>
          .ok (SyntheticOpusEncoder.encode loop.encoder (satSucc loop.sender.sent_frames)
            turn.capture_time_micros stream_id))
  let clock_offset_micros ← liftExcept turn.refresh_if_due
  return { frame with
    sender_clock_offset_micros := clock_offset_micros
    sender_encode_done_time_micros := turn.encode_done_time_micros }

/-- A flow over what the loop has sent. -/
def sending {α : Type} (x : SendFlow α) : VoiceMediaFlow α :=
  within VoiceMediaLoop.sender (fun loop sender => { loop with sender }) x

/-- What the loop asks the relay after every `feedback_interval_frames` frames. -/
def askRelay (turn : VoiceMediaTurn) : VoiceMediaFlow Unit := do
  let feedback ← liftExcept turn.poll_publisher_feedback
  modify (VoiceMediaLoop.applyAudioPublisherFeedback feedback)

def sendVoice (turn : VoiceMediaTurn) (captured : Option CapturedAudioFrame) :
    VoiceMediaFlow Unit := do
  let frame ← encodeVoice args turn captured
  sending (MediaSender.sendFrame .audio args.max_datagram_payload turn.send_datagram frame)
  let loop ← get
  if args.feedbackDue loop.sender.sent_frames then askRelay turn else return ()

/-- What a turn does when the loop goes on. -/
def captureAndSend (turn : VoiceMediaTurn) : VoiceMediaFlow Unit := do
  match ← captureVoice turn with
  | .nothing => return ()
  | .synthetic => sendVoice args turn none
  | .microphone audio => sendVoice args turn (some audio)

/-- One turn of the loop, and whether there is a next one. -/
def takeTurn (options : VoiceMediaRunOptions) (turn : VoiceMediaTurn) : VoiceMediaFlow Bool := do
  let loop ← get
  if options.stop && turn.stop_before_tick then return false
  else if options.max_frames.any fun max_frames => decide (max_frames ≤ loop.sender.sent_frames)
  then return false
  else if options.stop && turn.stop_after_tick then return false
  else
    captureAndSend args turn
    return true

/-- The turns of the loop so far, and whether there is a next one. -/
def takeTurns (options : VoiceMediaRunOptions) : List VoiceMediaTurn → VoiceMediaFlow Bool
  | [] => return true
  | turn :: turns => do
      if ← takeTurn args options turn then takeTurns options turns else return false

/-- What is left after the loop: one more feedback, and a look at the metrics. -/
def finish (turn : VoiceMediaTurn) (poll_stream_metrics : Except String Unit) :
    VoiceMediaFlow Unit := do
  askRelay turn
  liftExcept poll_stream_metrics

/-- The loop and what follows it, as far as they have come. -/
def mediaLoop (options : VoiceMediaRunOptions) (turns : List VoiceMediaTurn)
    (last : VoiceMediaTurn) (poll_stream_metrics : Except String Unit) : VoiceMediaFlow Unit := do
  if ← takeTurns args options turns then return () else finish last poll_stream_metrics

end VoiceMedia

/-- `run_voice_broadcaster_media_loop`, as far as it has come: its result, if it has ended, and
what it has done. -/
def runVoiceBroadcasterMediaLoop (args : VoiceArgs) (is_windows : Bool)
    (microphone : Except String Unit) (options : VoiceMediaRunOptions)
    (turns : List VoiceMediaTurn) (last : VoiceMediaTurn)
    (poll_stream_metrics : Except String Unit) : Except String Unit × List MediaEvent :=
  match VoiceMediaLoop.start args is_windows microphone with
  | .error error => (.error error, [])
  | .ok loop =>
      let (outcome, after) :=
        exec (VoiceMedia.mediaLoop args options turns last poll_stream_metrics) loop
      (outcome, after.sender.log)

/-! ## What the microphone gives -/

/-- What the microphone gives in a turn: samples, and when they were taken. -/
def VoiceMediaTurn.heard (turn : VoiceMediaTurn) : List (UInt64 × List Int16) :=
  match turn.microphone with
  | .ok (some spoken) => [spoken]
  | _ => []

/-- With nothing queued a microphone gives what the device has, under the next frame id. -/
theorem WindowsMicrophoneCapture.nextFrame_of_empty {capture : WindowsMicrophoneCapture}
    (hempty : capture.queue.frames = []) {device : MicrophoneAnswer}
    {frame : Option CapturedAudioFrame} (h : (capture.nextFrame device).2 = .ok frame) :
    (frame = none ∧ device = .ok none ∧ (capture.nextFrame device).1 = capture) ∨
      ∃ audio, frame = some audio ∧
        device = .ok (some (audio.capture_time_micros, audio.samples)) ∧
        audio.frame_id = capture.next_frame_id ∧
        audio.sample_rate_hz = capture.config.sample_rate_hz ∧
        audio.channel_count = capture.config.channel_count ∧
        (capture.nextFrame device).1
          = { capture with next_frame_id := nextFrameId capture.next_frame_id } := by
  have hnone : capture.queue.popLatest.2 = none := by
    rw [LatestQueue.popLatest_snd, hempty]
    rfl
  unfold nextFrame at h ⊢
  rcases hpop : capture.queue.popLatest with ⟨queue, latest⟩
  rw [hpop] at hnone
  cases hnone
  rw [hpop] at h
  rcases device with error | _ | ⟨capture_time_micros, samples⟩
  · cases h
  · cases h
    exact .inl ⟨rfl, rfl, rfl⟩
  · dsimp only at h ⊢
    cases hpcm : CapturedAudioFrame.pcmI16 capture.next_frame_id capture_time_micros
        capture.config.sample_rate_hz capture.config.channel_count samples with
    | error error =>
        rw [hpcm] at h
        cases h
    | ok audio =>
        rw [hpcm] at h
        cases h
        have haudio : audio = ⟨capture.next_frame_id, capture_time_micros,
            capture.config.sample_rate_hz, capture.config.channel_count, samples⟩ := by
          unfold CapturedAudioFrame.pcmI16 at hpcm
          split at hpcm
          · cases hpcm
          · split at hpcm
            · cases hpcm
            · split at hpcm
              · cases hpcm
              · exact (Except.ok.inj hpcm).symm
        subst haudio
        exact .inr ⟨_, rfl, rfl, rfl, rfl, rfl, rfl⟩

/-- What a voice broadcaster sends. -/
def voiceStream : MediaStream where
  packet_type := .audio
  frameId count := UInt32.ofNat (min (count + 1) u32Max)
  keyframe _ := false

/-- A viewer that decodes the frame hears these samples, and when they were taken. -/
def Carries (spoken : UInt64 × List Int16) (sent : SentFrame) : Prop :=
  ∀ build, SyntheticOpusDecoder.decode build sent.frame.bytes =
    some (.ok (some
      ⟨sent.id, 48000, 1, UInt16.ofNat spoken.2.length, spoken.1, spoken.2⟩))

/-! ## The loop keeps the contract -/

namespace VoiceMedia

open MediaLog

/-- The loop between two of its calls: the microphone has given so many frames. -/
structure Holds (args : VoiceArgs) (count : Nat) (loop : VoiceMediaLoop) : Prop where
  sends : loop.sender.Sends voiceStream args.max_datagram_payload []
  counted : loop.sender.sent_frames
    = UInt32.ofNat (min (frames loop.sender.log).length u32Max)
  input : loop.microphone_capture = none → args.voice_input ≠ .microphone
  capture : ∀ capture, loop.microphone_capture = some capture →
    capture.queue.frames = [] ∧ capture.config = args.audioCaptureConfig ∧
      capture.next_frame_id = frameIdAfter count

def Standing (args : VoiceArgs) (earlier : List SentFrame) (loop : VoiceMediaLoop) : Prop :=
  Holds args earlier.length loop ∧ frames loop.sender.log = earlier

/-- What the loop has sent behind the earlier frames. -/
def Says (args : VoiceArgs) (earlier : List SentFrame) (said : List (UInt64 × List Int16))
    (loop : VoiceMediaLoop) : Prop :=
  ∃ new, frames loop.sender.log = earlier ++ new ∧
    (args.voice_input = .microphone → List.Forall₂ Carries said new)

/-- What holds wherever the loop ends: it has said a part of what it has heard. -/
def Stopped (args : VoiceArgs) (earlier : List SentFrame) (heard : List (UInt64 × List Int16))
    (error : String) (loop : VoiceMediaLoop) : Prop :=
  MediaSender.Stopped voiceStream args.max_datagram_payload error loop.sender ∧
    ∃ said, said <+: heard ∧ Says args earlier said loop

section Steps

variable {args : VoiceArgs} {turn : VoiceMediaTurn} {earlier : List SentFrame}
  {heard : List (UInt64 × List Int16)}

theorem Holds.stopped {count : Nat} {loop : VoiceMediaLoop} (h : Holds args count loop)
    (hframes : frames loop.sender.log = earlier) (error : String) :
    Stopped args earlier heard error loop := by
  refine ⟨⟨[], h.sends.log⟩, [], List.nil_prefix, [], ?_, fun _ => .nil⟩
  rw [List.append_nil]
  exact hframes

/-- What the loop knows about the frame that it is going to send. -/
def Sendable (args : VoiceArgs) (turn : VoiceMediaTurn) (earlier : List SentFrame) :
    Option CapturedAudioFrame → Prop
  | none => args.voice_input ≠ .microphone
  | some audio =>
      audio.frame_id = frameIdAfter earlier.length ∧ audio.sample_rate_hz = 48000 ∧
        audio.channel_count = 1 ∧ turn.heard = [(audio.capture_time_micros, audio.samples)]

/-- One more frame has been captured than sent. -/
def Ready (args : VoiceArgs) (earlier : List SentFrame) (loop : VoiceMediaLoop) : Prop :=
  Holds args (earlier.length + 1) loop ∧ frames loop.sender.log = earlier

def Captured (args : VoiceArgs) (turn : VoiceMediaTurn) (earlier : List SentFrame)
    (loop : VoiceMediaLoop) : VoiceCapture → Prop
  | .nothing => Standing args earlier loop ∧ turn.heard = []
  | .synthetic => Ready args earlier loop ∧ Sendable args turn earlier none
  | .microphone audio => Ready args earlier loop ∧ Sendable args turn earlier (some audio)

theorem waitForMicrophone_triple (hheard : turn.heard = []) :
    Triple (Standing args earlier) waitForMicrophone
      (fun captured loop => Captured args turn earlier loop captured)
      (Stopped args earlier heard) := by
  unfold waitForMicrophone
  refine Triple.get_bind fun loop hloop => ?_
  obtain ⟨hholds, hframes⟩ := hloop
  rintro _ rfl
  have hafter : Holds args earlier.length
      { loop with empty_capture_ticks := satSucc loop.empty_capture_ticks } :=
    ⟨hholds.sends, hholds.counted, hholds.input, hholds.capture⟩
  rw [exec_bind_ok (exec_set _ _)]
  by_cases hlong : (max loop.active_fps 1).toUInt32 < satSucc loop.empty_capture_ticks
  · rw [if_pos hlong]
    exact hafter.stopped hframes _
  · rw [if_neg hlong]
    exact ⟨⟨hafter, hframes⟩, hheard⟩

theorem captureVoice_triple :
    Triple (Standing args earlier) (captureVoice turn)
      (fun captured loop => Captured args turn earlier loop captured)
      (Stopped args earlier heard) := by
  unfold captureVoice
  refine Triple.get_bind fun loop hloop => ?_
  obtain ⟨hholds, hframes⟩ := hloop
  rintro _ rfl
  cases hmicrophone : loop.microphone_capture with
  | none =>
      have hinput := hholds.input hmicrophone
      exact ⟨⟨⟨hholds.sends, hholds.counted, fun _ => hinput, (fun _ h => by cases h)⟩, hframes⟩,
        hinput⟩
  | some capture =>
      obtain ⟨hempty, hconfig, hid⟩ := hholds.capture capture hmicrophone
      dsimp only
      rw [exec_bind_ok (exec_set _ _)]
      rcases hframe : (capture.nextFrame turn.microphone).2 with error | frame
      · exact ⟨⟨[], hholds.sends.log⟩, [], List.nil_prefix, [],
          hframes.trans (List.append_nil _).symm, fun _ => .nil⟩
      · rw [exec_bind_ok (by rw [exec_liftExcept])]
        rcases WindowsMicrophoneCapture.nextFrame_of_empty hempty hframe with
          ⟨rfl, hdevice, hsame⟩ | ⟨audio, rfl, hdevice, haudio, hrate, hchannels, hnext⟩
        · have hheard : turn.heard = [] := by rw [VoiceMediaTurn.heard, hdevice]
          rw [hsame]
          refine waitForMicrophone_triple hheard _ ⟨⟨hholds.sends, hholds.counted, ?_, ?_⟩, hframes⟩
          · exact fun h => by cases h
          · rintro _ ⟨⟩
            exact ⟨hempty, hconfig, hid⟩
        · have hheard : turn.heard = [(audio.capture_time_micros, audio.samples)] := by
            rw [VoiceMediaTurn.heard, hdevice]
          refine ⟨⟨⟨hholds.sends, hholds.counted, (fun h => by cases h), ?_⟩, hframes⟩,
            haudio.trans hid, ?_, ?_, hheard⟩
          · intro capture' hcapture'
            cases hcapture'
            rw [hnext]
            exact ⟨hempty, hconfig, by rw [hid, nextFrameId_frameIdAfter]⟩
          · rw [hrate, hconfig]
            rfl
          · rw [hchannels, hconfig]
            rfl

/-- A frame that is ready to be sent. -/
structure Encoded (args : VoiceArgs) (turn : VoiceMediaTurn) (earlier : List SentFrame)
    (frame : EncodedFrame) : Prop where
  frame_id : frame.frame_id = voiceStream.frameId earlier.length
  keyframe : frame.is_keyframe = false
  carries : args.voice_input = .microphone → ∃ spoken, turn.heard = [spoken] ∧
    ∀ build, SyntheticOpusDecoder.decode build frame.bytes =
      some (.ok (some
        ⟨frame.frame_id, 48000, 1, UInt16.ofNat spoken.2.length, spoken.1, spoken.2⟩))

theorem frameId_captured (count : Nat) :
    UInt32.ofNat (min (frameIdAfter count).toNat u32Max)
      = UInt32.ofNat (min (count + 1) u32Max) := by
  have hbound : satAdd u64Max 1 count < 2 ^ 64 :=
    Nat.lt_of_le_of_lt (Nat.min_le_right _ _) (by decide)
  have htops : u32Max ≤ u64Max := by decide
  unfold frameIdAfter
  rw [UInt64.toNat_ofNat', Nat.mod_eq_of_lt hbound, satAdd]
  refine congrArg UInt32.ofNat ?_
  generalize u32Max = top at *
  generalize u64Max = wide at *
  omega

/-- The encoder's frame around the samples of the microphone. -/
theorem encoded_microphone {config : SyntheticOpusEncoderConfig} {audio : CapturedAudioFrame}
    (h : Sendable args turn earlier (some audio)) {stream_id : UInt32} {frame : EncodedFrame}
    (hframe : SyntheticOpusEncoder.encodePcmI16 config
      (UInt32.ofNat (min audio.frame_id.toNat u32Max)) audio.capture_time_micros
      audio.sample_rate_hz audio.channel_count audio.samples stream_id = .ok frame) :
    Encoded args turn earlier frame := by
  obtain ⟨hid, hrate, hchannels, hheard⟩ := h
  obtain ⟨haccepted, hlimit, -⟩ := SyntheticOpusEncoder.encodePcmI16_eq_ok hframe
  cases hframe.symm.trans (SyntheticOpusEncoder.encodePcmI16_ok haccepted hlimit)
  refine ⟨?_, rfl, fun _ => ⟨_, hheard, fun build => ?_⟩⟩
  · show UInt32.ofNat (min audio.frame_id.toNat u32Max) = _
    rw [hid]
    exact frameId_captured earlier.length
  · refine (SyntheticOpusDecoder.decode_pcmFrameBytes build haccepted hlimit).trans ?_
    have hone : audio.samples.length / audio.channel_count.toNat = audio.samples.length := by
      rw [hchannels]
      exact Nat.div_one _
    rw [hone, hrate, hchannels]
    rfl

/-- What the encoder makes of a frame is stamped before it is sent. -/
theorem Encoded.stamped {frame : EncodedFrame} (h : Encoded args turn earlier frame)
    (sender_clock_offset_micros : Int64) (sender_encode_done_time_micros : UInt64) :
    Encoded args turn earlier
      { frame with sender_clock_offset_micros, sender_encode_done_time_micros } :=
  ⟨h.frame_id, h.keyframe, h.carries⟩

theorem encodeVoice_triple {captured : Option CapturedAudioFrame}
    (h : Sendable args turn earlier captured) :
    Triple (Ready args earlier) (encodeVoice args turn captured)
      (fun frame loop => Ready args earlier loop ∧ Encoded args turn earlier frame)
      (Stopped args earlier heard) := by
  unfold encodeVoice
  refine Triple.get_bind fun loop hloop => ?_
  refine Triple.bind (Triple.liftExcept _ ?_) fun frame => ?_
  · rintro error _ rfl
    exact hloop.1.stopped hloop.2 error
  refine Triple.bind (Triple.liftExcept _ ?_) fun clock_offset_micros => ?_
  · rintro error _ ⟨rfl, -⟩
    exact hloop.1.stopped hloop.2 error
  rintro _ ⟨⟨rfl, hframe⟩, -⟩
  refine ⟨hloop, Encoded.stamped ?_ _ _⟩
  cases captured with
  | some audio => exact encoded_microphone h hframe
  | none =>
      cases hframe
      refine ⟨?_, rfl, fun hmicrophone => absurd hmicrophone h⟩
      show satSucc loop.sender.sent_frames = _
      rw [hloop.1.counted, satSucc_counted, hloop.2]
      rfl

/-- What a turn sends is what the microphone gives in it. -/
theorem sendFrame_triple {frame : EncodedFrame} (h : Encoded args turn earlier frame) :
    Triple (Ready args earlier)
      (sending (MediaSender.sendFrame .audio args.max_datagram_payload turn.send_datagram frame))
      (fun _ loop => ∃ sent, Standing args (earlier ++ [sent]) loop ∧
        (args.voice_input = .microphone → List.Forall₂ Carries turn.heard [sent]))
      (Stopped args earlier turn.heard) := by
  have hcarries : ∀ sent : SentFrame, sent.frame = frame → args.voice_input = .microphone →
      List.Forall₂ Carries turn.heard [sent] := by
    rintro sent rfl hmicrophone
    obtain ⟨spoken, hheard, hdecode⟩ := h.carries hmicrophone
    rw [hheard]
    exact .cons hdecode .nil
  refine Triple.within fun loop hloop => ?_
  obtain ⟨hholds, hframes⟩ := hloop
  have hsent : ∀ sent taken (sender : MediaSender),
      sender.log = sentBehind (loop.sender.log ++ [.frame sent]) taken →
      frames sender.log = earlier ++ [sent] := by
    intro sent taken sender hlog
    rw [hlog, frames_sentBehind, frames_frame, hframes]
  refine (MediaSender.sendFrame_triple voiceStream loop.sender.log loop.sender.sent_frames
    turn.send_datagram frame).consequence ?_ ?_ ?_
  · rintro _ rfl
    refine ⟨hholds.sends, ?_, h.keyframe, rfl, rfl⟩
    rw [hframes]
    exact h.frame_id
  · rintro _ sender ⟨hsends, ⟨sent, taken, hframe, hlog⟩, hcount⟩
    have hnow := hsent sent taken sender hlog
    refine ⟨sent, ⟨⟨hsends, ?_, hholds.input, ?_⟩, hnow⟩, hcarries sent hframe⟩
    · show sender.sent_frames = UInt32.ofNat (min (frames sender.log).length u32Max)
      rw [hcount, hholds.counted, satSucc_counted, hnow, hframes, List.length_append]
      rfl
    · rw [List.length_append]
      exact hholds.capture
  · rintro error sender ⟨hstopped, hlog | ⟨sent, taken, hframe, hlog⟩⟩
    · refine ⟨hstopped, [], List.nil_prefix, [], ?_, fun _ => .nil⟩
      show frames sender.log = earlier ++ []
      rw [hlog, hframes, List.append_nil]
    · exact ⟨hstopped, turn.heard, List.prefix_rfl, [sent], hsent sent taken sender hlog,
        hcarries sent hframe⟩

/-- The loop has said all that it has heard. -/
def Said (args : VoiceArgs) (earlier : List SentFrame) (heard : List (UInt64 × List Int16))
    (loop : VoiceMediaLoop) : Prop :=
  ∃ new, Standing args (earlier ++ new) loop ∧
    (args.voice_input = .microphone → List.Forall₂ Carries heard new)

theorem Said.stopped {loop : VoiceMediaLoop} (h : Said args earlier heard loop)
    {more : List (UInt64 × List Int16)} (hspan : heard <+: more) (error : String) :
    Stopped args earlier more error loop := by
  obtain ⟨new, ⟨hholds, hframes⟩, hcarries⟩ := h
  exact ⟨⟨[], hholds.sends.log⟩, heard, hspan, new, hframes, hcarries⟩

theorem said_nil {loop : VoiceMediaLoop} (h : Standing args earlier loop) :
    Said args earlier [] loop := by
  refine ⟨[], ?_, fun _ => .nil⟩
  rw [List.append_nil]
  exact h

theorem applyAudioPublisherFeedback_said (feedback : PublisherFeedback)
    {loop : VoiceMediaLoop} (h : Said args earlier heard loop) :
    Said args earlier heard (loop.applyAudioPublisherFeedback feedback) := by
  have hsame : (loop.applyAudioPublisherFeedback feedback).sender = loop.sender ∧
      (loop.applyAudioPublisherFeedback feedback).microphone_capture
        = loop.microphone_capture := by
    unfold VoiceMediaLoop.applyAudioPublisherFeedback
    dsimp only
    split <;> split <;> exact ⟨rfl, rfl⟩
  obtain ⟨hsender, hmicrophone⟩ := hsame
  obtain ⟨new, ⟨hholds, hframes⟩, hcarries⟩ := h
  refine ⟨new, ⟨⟨?_, ?_, ?_, ?_⟩, ?_⟩, hcarries⟩
  · rw [hsender]
    exact hholds.sends
  · rw [hsender]
    exact hholds.counted
  · rw [hmicrophone]
    exact hholds.input
  · rw [hmicrophone]
    exact hholds.capture
  · rw [hsender]
    exact hframes

theorem askRelay_triple :
    Triple (Said args earlier heard) (askRelay turn) (fun _ => Said args earlier heard)
      (Stopped args earlier heard) := by
  unfold askRelay
  refine Triple.bind (Triple.liftExcept _ fun error _ h => h.stopped List.prefix_rfl error)
    fun feedback => ?_
  exact Triple.modify fun loop hloop => applyAudioPublisherFeedback_said feedback hloop.1

theorem sendVoice_triple {captured : Option CapturedAudioFrame}
    (h : Sendable args turn earlier captured) :
    Triple (Ready args earlier) (sendVoice args turn captured)
      (fun _ => Said args earlier turn.heard) (Stopped args earlier turn.heard) := by
  unfold sendVoice
  refine Triple.bind (encodeVoice_triple h) fun frame => ?_
  rintro loop ⟨hloop, hframe⟩
  refine Triple.bind (sendFrame_triple hframe) (fun _ => ?_) loop hloop
  refine Triple.get_bind fun loop hloop => ?_
  obtain ⟨sent, hstanding, hcarries⟩ := hloop
  have hsaid : Said args earlier turn.heard loop := ⟨[sent], hstanding, hcarries⟩
  rintro _ rfl
  cases args.feedbackDue loop.sender.sent_frames with
  | true => exact askRelay_triple loop hsaid
  | false => exact hsaid

theorem captureAndSend_triple :
    Triple (Standing args earlier) (captureAndSend args turn)
      (fun _ => Said args earlier turn.heard) (Stopped args earlier turn.heard) := by
  unfold captureAndSend
  refine Triple.bind captureVoice_triple fun captured => ?_
  cases captured with
  | nothing =>
      rintro loop ⟨hloop, hheard⟩
      rw [hheard]
      exact said_nil hloop
  | synthetic =>
      rintro loop ⟨hloop, hsendable⟩
      exact sendVoice_triple hsendable loop hloop
  | microphone audio =>
      rintro loop ⟨hloop, hsendable⟩
      exact sendVoice_triple hsendable loop hloop

theorem takeTurn_triple (options : VoiceMediaRunOptions) :
    Triple (Standing args earlier) (takeTurn args options turn)
      (fun more => Said args earlier (if more then turn.heard else []))
      (Stopped args earlier turn.heard) := by
  unfold takeTurn
  refine Triple.get_bind fun loop hloop => ?_
  have hends : Triple (fun loop' => loop = loop') (pure false : VoiceMediaFlow Bool)
      (fun more => Said args earlier (if more then turn.heard else []))
      (Stopped args earlier turn.heard) := by
    rintro _ rfl
    exact said_nil hloop
  split
  · exact hends
  · split
    · exact hends
    · split
      · exact hends
      · rintro _ rfl
        exact Triple.bind captureAndSend_triple (fun _ _ h => h) loop hloop

/-- What is said behind some new frames is said behind the earlier ones. -/
theorem Said.trans {new : List SentFrame} {first second : List (UInt64 × List Int16)}
    (hnew : args.voice_input = .microphone → List.Forall₂ Carries first new)
    {loop : VoiceMediaLoop} (h : Said args (earlier ++ new) second loop) :
    Said args earlier (first ++ second) loop := by
  obtain ⟨later, hstanding, hcarries⟩ := h
  rw [List.append_assoc] at hstanding
  exact ⟨new ++ later, hstanding, fun hmicrophone =>
    List.rel_append (hnew hmicrophone) (hcarries hmicrophone)⟩

theorem Stopped.trans {new : List SentFrame} {first second : List (UInt64 × List Int16)}
    (hnew : args.voice_input = .microphone → List.Forall₂ Carries first new)
    {loop : VoiceMediaLoop} {error : String}
    (h : Stopped args (earlier ++ new) second error loop) :
    Stopped args earlier (first ++ second) error loop := by
  obtain ⟨hstopped, said, hspan, later, hframes, hcarries⟩ := h
  refine ⟨hstopped, first ++ said, (List.prefix_append_right_inj first).mpr hspan, new ++ later,
    ?_, fun hmicrophone => List.rel_append (hnew hmicrophone) (hcarries hmicrophone)⟩
  rw [hframes, List.append_assoc]

theorem takeTurns_triple (options : VoiceMediaRunOptions) (turns : List VoiceMediaTurn) :
    Triple (Standing args earlier) (takeTurns args options turns)
      (fun _ loop => ∃ heard, heard <+: turns.flatMap VoiceMediaTurn.heard ∧
        Said args earlier heard loop)
      (Stopped args earlier (turns.flatMap VoiceMediaTurn.heard)) := by
  induction turns generalizing earlier with
  | nil => exact fun _ hloop => ⟨[], List.nil_prefix, said_nil hloop⟩
  | cons turn turns ih =>
      unfold takeTurns
      refine Triple.bind ((takeTurn_triple options).consequence (fun _ h => h) (fun _ _ h => h) ?_)
        fun more => ?_
      · rintro error loop ⟨hstopped, said, hspan, hsays⟩
        refine ⟨hstopped, said, hspan.trans ?_, hsays⟩
        rw [List.flatMap_cons]
        exact List.prefix_append _ _
      · cases more with
        | false => exact fun loop hloop => ⟨[], List.nil_prefix, hloop⟩
        | true =>
            rintro loop ⟨new, hloop, hcarries⟩
            refine ih.consequence (fun _ h => h) ?_ ?_ loop hloop
            · rintro _ after ⟨heard, hspan, hsaid⟩
              refine ⟨turn.heard ++ heard, ?_, hsaid.trans hcarries⟩
              rw [List.flatMap_cons]
              exact (List.prefix_append_right_inj turn.heard).mpr hspan
            · rintro error after hstopped
              rw [List.flatMap_cons]
              exact hstopped.trans hcarries

theorem finish_triple (poll_stream_metrics : Except String Unit) :
    Triple (Said args earlier heard) (finish turn poll_stream_metrics)
      (fun _ => Said args earlier heard) (Stopped args earlier heard) := by
  unfold finish
  refine Triple.bind askRelay_triple fun _ => ?_
  exact (Triple.liftExcept _ fun error _ h => h.stopped List.prefix_rfl error).consequence
    (fun _ h => h) (fun _ _ h => h.1) fun _ _ h => h

theorem mediaLoop_triple (options : VoiceMediaRunOptions) (turns : List VoiceMediaTurn)
    (last : VoiceMediaTurn) (poll_stream_metrics : Except String Unit) :
    Triple (Standing args earlier) (mediaLoop args options turns last poll_stream_metrics)
      (fun _ loop => ∃ heard, heard <+: turns.flatMap VoiceMediaTurn.heard ∧
        Said args earlier heard loop)
      (Stopped args earlier (turns.flatMap VoiceMediaTurn.heard)) := by
  unfold mediaLoop
  refine Triple.bind (takeTurns_triple options turns) fun more => ?_
  cases more with
  | true => exact fun _ hloop => hloop
  | false =>
      rintro loop ⟨heard, hspan, hloop⟩
      refine (finish_triple poll_stream_metrics).consequence (fun _ h => h)
        (fun _ _ h => ⟨heard, hspan, h⟩) ?_ loop hloop
      rintro error after ⟨hstopped, said, hsaid, hsays⟩
      exact ⟨hstopped, said, hsaid.trans hspan, hsays⟩

end Steps

theorem openDevice_spec {is_windows : Bool} {microphone : Except String Unit}
    {config : AudioCaptureConfig} {capture : WindowsMicrophoneCapture}
    (h : WindowsMicrophoneCapture.openDevice is_windows microphone config = .ok capture) :
    capture.queue.frames = [] ∧ capture.config = config ∧
      capture.next_frame_id = frameIdAfter 0 := by
  unfold WindowsMicrophoneCapture.openDevice at h
  cases is_windows with
  | false => cases h
  | true =>
      obtain ⟨_, -, h⟩ := bind_eq_ok.mp h
      obtain ⟨_, -, h⟩ := bind_eq_ok.mp h
      obtain ⟨_, -, h⟩ := bind_eq_ok.mp h
      cases h
      have hfirst : (1 : UInt64) = frameIdAfter 0 := by decide
      exact ⟨rfl, rfl, hfirst⟩

theorem standing_start {args : VoiceArgs} {is_windows : Bool} {microphone : Except String Unit}
    {loop : VoiceMediaLoop} (h : VoiceMediaLoop.start args is_windows microphone = .ok loop) :
    Standing args [] loop := by
  have hsends : MediaSender.new.Sends voiceStream args.max_datagram_payload [] := ⟨.nil, rfl⟩
  unfold VoiceMediaLoop.start at h
  obtain ⟨frame_interval, -, h⟩ := bind_eq_ok.mp h
  dsimp only at h
  split at h
  · next hinput =>
      cases h
      exact ⟨⟨hsends, rfl, fun _ => by rw [hinput]; decide, (fun _ h => by cases h)⟩, rfl⟩
  · obtain ⟨capture, hcapture, h⟩ := bind_eq_ok.mp h
    cases h
    refine ⟨⟨hsends, rfl, (fun h => by cases h), ?_⟩, rfl⟩
    rintro _ ⟨⟩
    cases hopen : WindowsMicrophoneCapture.openDevice is_windows microphone
        args.audioCaptureConfig with
    | error error =>
        rw [hopen] at hcapture
        cases hcapture
    | ok opened =>
        rw [hopen] at hcapture
        cases hcapture
        exact openDevice_spec hopen

end VoiceMedia

/-- The loop of a voice broadcaster keeps the contract, and says what it hears in order. -/
theorem runVoiceBroadcasterMediaLoop_broadcasts (args : VoiceArgs) (is_windows : Bool)
    (microphone : Except String Unit) (options : VoiceMediaRunOptions)
    (turns : List VoiceMediaTurn) (last : VoiceMediaTurn)
    (poll_stream_metrics : Except String Unit) {outcome : Except String Unit}
    {log : List MediaEvent}
    (hrun : runVoiceBroadcasterMediaLoop args is_windows microphone options turns last
      poll_stream_metrics = (outcome, log)) :
    (∃ rest, Broadcasts voiceStream args.max_datagram_payload log rest ∧
      (outcome = .ok () → rest = [])) ∧
    ∃ said, said <+: turns.flatMap VoiceMediaTurn.heard ∧
      (args.voice_input = .microphone → List.Forall₂ Carries said (MediaLog.frames log)) := by
  unfold runVoiceBroadcasterMediaLoop at hrun
  cases hstart : VoiceMediaLoop.start args is_windows microphone with
  | error error =>
      rw [hstart] at hrun
      cases hrun
      exact ⟨⟨[], .nil, fun _ => rfl⟩, [], List.nil_prefix, fun _ => .nil⟩
  | ok loop =>
      rw [hstart] at hrun
      have hloop := VoiceMedia.mediaLoop_triple options turns last poll_stream_metrics loop
        (VoiceMedia.standing_start hstart)
      dsimp only at hrun
      generalize exec (VoiceMedia.mediaLoop args options turns last poll_stream_metrics) loop
        = ended at hloop hrun
      rcases ended with ⟨error | _, after⟩
      · cases hrun
        obtain ⟨⟨rest, hlog⟩, said, hspan, new, hframes, hcarries⟩ := hloop
        rw [List.nil_append] at hframes
        rw [hframes]
        exact ⟨⟨rest, hlog, fun hok => by cases hok⟩, said, hspan, hcarries⟩
      · cases hrun
        obtain ⟨said, hspan, new, ⟨hholds, hframes⟩, hcarries⟩ := hloop
        rw [List.nil_append] at hframes
        rw [hframes]
        exact ⟨⟨[], hholds.sends.log, fun _ => rfl⟩, said, hspan, hcarries⟩

/-- Whatever happens around it, a voice broadcaster sends the packets of its frames whole and in
order, but for the end of its last frame when it was stopped by an error, numbered without a gap
and within the limit of a datagram. The frames have the ids one, two and so on, up to the greatest
one, and behind a microphone they carry what it gave, in order. -/
theorem voice_packets_in_order (args : VoiceArgs) (is_windows : Bool)
    (microphone : Except String Unit) (options : VoiceMediaRunOptions)
    (turns : List VoiceMediaTurn) (last : VoiceMediaTurn)
    (poll_stream_metrics : Except String Unit) :
    ∃ outcome log,
      runVoiceBroadcasterMediaLoop args is_windows microphone options turns last
        poll_stream_metrics = (outcome, log) ∧
      (∃ done rest, MediaLog.cut log = done ++ rest ∧
        List.Forall₂ MediaPacket.Restamped done (MediaLog.packets log) ∧
        (outcome = .ok () → rest = []) ∧
        (rest = [] ∨ ∃ sent, (MediaLog.frames log).getLast? = some sent ∧
          rest <:+ sent.packets)) ∧
      (MediaLog.packets log).map (fun packet => packet.header.sequence_number)
        = numbersFrom 1 (MediaLog.packets log).length ∧
      (∀ packet ∈ MediaLog.packets log, ∃ bytes, packet.encode = .ok bytes ∧
        bytes.length ≤ args.max_datagram_payload) ∧
      (MediaLog.frames log).map SentFrame.id
        = (List.range (MediaLog.frames log).length).map
            (fun count => UInt32.ofNat (min (count + 1) u32Max)) ∧
      ∃ said, said <+: turns.flatMap VoiceMediaTurn.heard ∧
        (args.voice_input = .microphone →
          List.Forall₂ Carries said (MediaLog.frames log)) := by
  obtain ⟨⟨rest, hlog, hended⟩, hsaid⟩ := runVoiceBroadcasterMediaLoop_broadcasts args is_windows
    microphone options turns last poll_stream_metrics rfl
  obtain ⟨done, hcut, hdone⟩ := hlog.sent_packets
  exact ⟨_, _, rfl, ⟨done, rest, hcut, hdone, hended, hlog.rest_of_last⟩, hlog.packet_numbers,
    hlog.datagrams_fit, hlog.frame_ids, hsaid⟩

end TeamView.Client
