import Mathlib.Data.List.DropRight
import TeamView.Client.H264Decoder
import TeamView.Client.Reassembly

set_option autoImplicit false

/-! # A screen viewer recovers

The loop of `run_synthetic_screen_viewer_media` (`crates/desktop-client/src/main.rs`): a viewer
counts what it misses (`ClientMediaStats` in `stats.rs`), decodes and renders the frames that its
buffer hands out, and asks for a keyframe when it has missed something. One flag holds further
requests back until a keyframe is decoded.
-/

namespace TeamView.Client

open TeamView.Protocol BTree MachineInt Runs

/-! ## Decoders and playback -/

class VideoDecoder (δ : Type) where
  decode : δ → List UInt8 → δ × Except String (Option DecodedFrame)

inductive H264VideoDecoder where
  | synthetic (decoder : H264Decoder)
  | mediaFoundation
  deriving DecidableEq

def DecodeError.message : DecodeError → String
  | exceedsMaximumPreviewSize => "synthetic decoded frame exceeds maximum preview size"

def H264VideoDecoder.decode (decoder : H264VideoDecoder) (encoded : List UInt8) :
    H264VideoDecoder × Except String (Option DecodedFrame) :=
  match decoder with
  | .synthetic decoder =>
      let (decoder, decoded) := decoder.decode encoded
      (.synthetic decoder, decoded.mapError DecodeError.message)
  | .mediaFoundation =>
      (.mediaFoundation,
        .error
          ("Media Foundation H.264 decoder was selected and detected, but frame output is not " ++
            "wired yet"))

instance : VideoDecoder H264VideoDecoder := ⟨H264VideoDecoder.decode⟩

/-- What every playback checks before it shows a frame: the number of its bytes. -/
def validateBgraFrame (frame : DecodedFrame) : Except String Nat :=
  match (checkedMul u32Max frame.width.toNat frame.height.toNat).bind
      (fun pixels => checkedMul u32Max pixels 4) with
  | none => .error "decoded frame dimensions overflow"
  | some expected_bytes =>
      if frame.pixel_format ≠ .bgra8 then .error "unsupported decoded pixel format"
      else if frame.pixels.length ≠ expected_bytes then
        .error
          (s!"decoded frame pixel buffer length mismatch: expected {expected_bytes}, " ++
            s!"got {frame.pixels.length}")
      else .ok expected_bytes

/-! ## Statistics -/

/-- The counters of `ClientMediaStats`. -/
structure ClientMediaStats where
  received_packets : Nat
  lost_packets : Nat
  decoded_frames : Nat
  rendered_frames : Nat
  dropped_frames : Nat
  jitter_buffer_ms : Nat
  last_sequence_number : Option UInt32
  deriving DecidableEq

namespace ClientMediaStats

def default : ClientMediaStats := ⟨0, 0, 0, 0, 0, 0, none⟩

def recordPacket (stats : ClientMediaStats) (packet : MediaPacket) : ClientMediaStats :=
  let stats := { stats with received_packets := satAdd u64Max stats.received_packets 1 }
  let sequence_number := packet.header.sequence_number
  match stats.last_sequence_number with
  | some previous =>
      let distance := sequence_number - previous
      -- a packet that comes late is neither a loss nor the new last one
      if 0 < distance ∧ distance < UInt32.ofNat (u32Max / 2) then
        { stats with
          lost_packets := satAdd u64Max stats.lost_packets (distance - 1).toNat
          last_sequence_number := some sequence_number }
      else stats
  | none => { stats with last_sequence_number := some sequence_number }

def recordDecodedFrame (stats : ClientMediaStats) : ClientMediaStats :=
  { stats with decoded_frames := satAdd u64Max stats.decoded_frames 1 }

def recordRenderedFrame (stats : ClientMediaStats) : ClientMediaStats :=
  { stats with rendered_frames := satAdd u64Max stats.rendered_frames 1 }

def recordDroppedFrames (stats : ClientMediaStats) (dropped_frames : Nat) : ClientMediaStats :=
  { stats with dropped_frames := satAdd u64Max stats.dropped_frames dropped_frames }

def recordDroppedFrame (stats : ClientMediaStats) : ClientMediaStats := stats.recordDroppedFrames 1

end ClientMediaStats

def FrameReassemblyBuffer.estimatedJitterMs (buffer : FrameReassemblyBuffer)
    (frame_interval_ms : UInt16) : Nat :=
  satMul u16Max (UInt16.ofNat buffer.pending.size).toNat frame_interval_ms.toNat

/-! ## The viewer -/

/-- What happens to the recovery of a viewer: something is found missing, a `RequestKeyframe` is
sent, a keyframe is decoded. -/
inductive RecoveryEvent where
  | detected
  | requested (reason : KeyframeReason)
  | keyframeDecoded
  deriving DecidableEq

/-- The arguments of the loop. -/
structure ViewerArgs where
  target_frames : Nat
  frame_interval_ms : UInt16
  reassembly_window_frames : UInt32
  jitter_buffer_max_ms : UInt16
  stats_interval_frames : Nat

/-- The variables of the loop. The log is not in the source: it keeps the recovery events in the
order of the code. -/
structure ScreenViewer (δ : Type) where
  buffer : FrameReassemblyBuffer
  decoder : δ
  stats : ClientMediaStats
  reassembled_frames : Nat
  decoded_frames : Nat
  received_packets : Nat
  awaiting_recovery_keyframe : Bool
  log : List RecoveryEvent

/-- What a turn of the loop takes from outside: a packet, and the answers to the calls that the
turn makes, where it makes them. -/
structure Turn where
  packet : MediaPacket
  packet_receive_time_micros : UInt64
  refresh_if_due : Except String Unit
  request_keyframe : Except String Unit
  render : Except String Unit
  send_viewer_stats : Except String Unit

/-- What ends the loop with an error. -/
inductive ViewerError where
  | control (message : String)
  | push (error : PushError)
  | decode (message : String)
  | render (message : String)
  deriving DecidableEq

namespace ScreenViewer

variable {δ : Type}

def start (args : ViewerArgs) (decoder : δ) : ScreenViewer δ where
  buffer := .withJitterBudget 64 args.reassembly_window_frames args.jitter_buffer_max_ms
    (max args.frame_interval_ms 1)
  decoder := decoder
  stats := .default
  reassembled_frames := 0
  decoded_frames := 0
  received_packets := 0
  awaiting_recovery_keyframe := false
  log := []

/-- Something is missing: a keyframe is requested, unless the viewer awaits one. -/
def detect (viewer : ScreenViewer δ) (reason : KeyframeReason) (turn : Turn) :
    Except ViewerError (ScreenViewer δ) :=
  if viewer.awaiting_recovery_keyframe then
    .ok { viewer with log := viewer.log ++ [.detected] }
  else do
    turn.request_keyframe.mapError .control
    .ok
      { viewer with
        awaiting_recovery_keyframe := true
        log := viewer.log ++ [.detected, .requested reason] }

/-- The branch of a frame that the decoder has understood. -/
def showFrame (viewer : ScreenViewer δ) (is_keyframe : Bool) (decoded : DecodedFrame)
    (turn : Turn) : Except ViewerError (ScreenViewer δ) := do
  let _ ← (validateBgraFrame decoded).mapError .render
  turn.render.mapError .render
  let viewer :=
    { viewer with
      stats := viewer.stats.recordRenderedFrame.recordDecodedFrame
      decoded_frames := viewer.decoded_frames + 1 }
  if is_keyframe then
    .ok
      { viewer with
        awaiting_recovery_keyframe := false
        log := viewer.log ++ [.keyframeDecoded] }
  else .ok viewer

/-- The part of a turn that stores the packet: whether anything was found missing, and the frame
that the packet has completed. -/
def takePacket (args : ViewerArgs) (viewer : ScreenViewer δ) (turn : Turn) :
    Except ViewerError (ScreenViewer δ × Bool × Option EncodedFrame) := do
  let lost_packets_before := viewer.stats.lost_packets
  let stats := viewer.stats.recordPacket turn.packet
  let (buffer, result) :=
    viewer.buffer.pushWithStatsAt turn.packet turn.packet_receive_time_micros
  let outcome ← result.mapError .push
  let packet_loss_detected := decide (lost_packets_before < stats.lost_packets)
  let stats :=
    if 0 < outcome.dropped_frames then stats.recordDroppedFrames outcome.dropped_frames else stats
  .ok
    ({ viewer with
        buffer := buffer
        stats :=
          { stats with jitter_buffer_ms := buffer.estimatedJitterMs (max args.frame_interval_ms 1) }
        received_packets := viewer.received_packets + 1 },
      packet_loss_detected || decide (0 < outcome.dropped_frames), outcome.frame)

/-- The request for what `takePacket` has found missing. -/
def requestMissing (viewer : ScreenViewer δ) (missing : Bool) (turn : Turn) :
    Except ViewerError (ScreenViewer δ) :=
  if missing then viewer.detect .packetLoss turn else .ok viewer

/-- The statistics go to the relay every `stats_interval_frames` frames. -/
def reportStats (args : ViewerArgs) (viewer : ScreenViewer δ) (turn : Turn) :
    Except ViewerError Unit :=
  if 0 < args.stats_interval_frames ∧
      viewer.reassembled_frames % args.stats_interval_frames = 0 then
    turn.send_viewer_stats.mapError .control
  else .ok ()

variable [VideoDecoder δ]

def decodeFrame (viewer : ScreenViewer δ) (frame : EncodedFrame) (turn : Turn) :
    Except ViewerError (ScreenViewer δ) := do
  let (decoder, result) := VideoDecoder.decode viewer.decoder frame.bytes
  let viewer := { viewer with decoder := decoder }
  match ← result.mapError .decode with
  | some decoded => viewer.showFrame frame.is_keyframe decoded turn
  | none =>
      let viewer := { viewer with stats := viewer.stats.recordDroppedFrame }
      viewer.detect .decoderRecovery turn

/-- The part of a turn behind a reassembled frame. -/
def takeFrame (args : ViewerArgs) (viewer : ScreenViewer δ) (frame : EncodedFrame) (turn : Turn) :
    Except ViewerError (ScreenViewer δ) := do
  let viewer ← viewer.decodeFrame frame turn
  let viewer := { viewer with reassembled_frames := viewer.reassembled_frames + 1 }
  viewer.reportStats args turn
  .ok viewer

def receive (args : ViewerArgs) (viewer : ScreenViewer δ) (turn : Turn) :
    Except ViewerError (ScreenViewer δ) := do
  turn.refresh_if_due.mapError .control
  let (viewer, missing, frame) ← viewer.takePacket args turn
  let viewer ← viewer.requestMissing missing turn
  match frame with
  | some frame => viewer.takeFrame args frame turn
  | none => .ok viewer

/-- One turn of the loop. A viewer that has its frames takes no more packets. -/
def step (args : ViewerArgs) (viewer : ScreenViewer δ) (turn : Turn) :
    Except ViewerError (ScreenViewer δ) :=
  if viewer.reassembled_frames < args.target_frames then viewer.receive args turn
  else .ok viewer

/-- The viewers that some packets, with some answers, lead to. -/
def Reachable (args : ViewerArgs) (viewer : ScreenViewer δ) : Prop :=
  ∃ decoder turns, tryRun (step args) (start args decoder) turns = .ok viewer

end ScreenViewer

/-! ## The events since the last decoded keyframe -/

def sinceKeyframe (log : List RecoveryEvent) : List RecoveryEvent :=
  log.rtakeWhile fun event => decide (event ≠ .keyframeDecoded)

theorem sinceKeyframe_keyframeDecoded (log : List RecoveryEvent) :
    sinceKeyframe (log ++ [.keyframeDecoded]) = [] :=
  List.rtakeWhile_concat_neg _ _ _ (by simp)

theorem sinceKeyframe_append (log : List RecoveryEvent) {events : List RecoveryEvent}
    (hnone : .keyframeDecoded ∉ events) :
    sinceKeyframe (log ++ events) = sinceKeyframe log ++ events := by
  have hall : ∀ event ∈ events.reverse, decide (event ≠ .keyframeDecoded) = true := by
    intro event hevent
    rw [decide_eq_true_eq]
    intro heq
    exact hnone (heq ▸ List.mem_reverse.mp hevent)
  unfold sinceKeyframe List.rtakeWhile
  rw [List.reverse_append, List.takeWhile_append_of_pos hall, List.reverse_append,
    List.reverse_reverse]

/-- What the flag stands for. Nothing has been found missing since the last decoded keyframe, or
the first thing found missing has been answered with a request, and what was found missing later
has not. -/
inductive Recovering : Bool → List RecoveryEvent → Prop where
  | quiet : Recovering false []
  | awaiting (reason : KeyframeReason) (later : Nat) :
      Recovering true (.detected :: .requested reason :: List.replicate later .detected)

namespace ScreenViewer

variable {δ : Type} {viewer viewer' : ScreenViewer δ} {turn : Turn} {args : ViewerArgs}

/-- The invariant of the loop. -/
def Recovers (viewer : ScreenViewer δ) : Prop :=
  Recovering viewer.awaiting_recovery_keyframe (sinceKeyframe viewer.log)

theorem recovers_start (args : ViewerArgs) (decoder : δ) : (start args decoder).Recovers :=
  .quiet

theorem detect_recovers {reason : KeyframeReason} (hstep : viewer.detect reason turn = .ok viewer')
    (h : viewer.Recovers) : viewer'.Recovers := by
  unfold Recovers at h
  unfold detect at hstep
  cases hawaiting : viewer.awaiting_recovery_keyframe with
  | true =>
      rw [hawaiting] at h hstep
      obtain rfl := Except.ok.inj hstep
      unfold Recovers
      rw [sinceKeyframe_append _ (by simp)]
      generalize hlog : sinceKeyframe viewer.log = log at h ⊢
      cases h with
      | awaiting first later =>
          -- one more detection that no request answers
          have hlater : List.replicate later RecoveryEvent.detected ++ [.detected]
              = List.replicate (later + 1) .detected := List.replicate_succ'.symm
          rw [List.cons_append, List.cons_append, hlater]
          exact .awaiting first (later + 1)
  | false =>
      rw [hawaiting] at h hstep
      obtain ⟨-, -, hok⟩ := bind_eq_ok.mp hstep
      obtain rfl := Except.ok.inj hok
      unfold Recovers
      rw [sinceKeyframe_append _ (by simp)]
      generalize hlog : sinceKeyframe viewer.log = log at h ⊢
      cases h with
      | quiet => exact .awaiting reason 0

theorem showFrame_recovers {is_keyframe : Bool} {decoded : DecodedFrame}
    (hstep : viewer.showFrame is_keyframe decoded turn = .ok viewer') (h : viewer.Recovers) :
    viewer'.Recovers := by
  obtain ⟨-, -, hstep⟩ := bind_eq_ok.mp hstep
  obtain ⟨-, -, hstep⟩ := bind_eq_ok.mp hstep
  cases is_keyframe with
  | true =>
      obtain rfl := Except.ok.inj hstep
      unfold Recovers
      rw [sinceKeyframe_keyframeDecoded]
      exact .quiet
  | false =>
      obtain rfl := Except.ok.inj hstep
      exact h

theorem takePacket_recovers {missing : Bool} {frame : Option EncodedFrame}
    (hstep : viewer.takePacket args turn = .ok (viewer', missing, frame)) (h : viewer.Recovers) :
    viewer'.Recovers := by
  obtain ⟨outcome, -, hok⟩ := bind_eq_ok.mp hstep
  obtain rfl := congrArg Prod.fst (Except.ok.inj hok)
  exact h

theorem requestMissing_recovers {missing : Bool}
    (hstep : viewer.requestMissing missing turn = .ok viewer') (h : viewer.Recovers) :
    viewer'.Recovers := by
  cases missing with
  | true => exact detect_recovers hstep h
  | false => exact Except.ok.inj hstep ▸ h

section Loop

variable [VideoDecoder δ]

theorem decodeFrame_recovers {frame : EncodedFrame}
    (hstep : viewer.decodeFrame frame turn = .ok viewer') (h : viewer.Recovers) :
    viewer'.Recovers := by
  obtain ⟨decoded, -, hstep⟩ := bind_eq_ok.mp hstep
  cases decoded with
  | some decoded => exact showFrame_recovers hstep h
  | none => exact detect_recovers hstep h

theorem takeFrame_recovers {frame : EncodedFrame}
    (hstep : viewer.takeFrame args frame turn = .ok viewer') (h : viewer.Recovers) :
    viewer'.Recovers := by
  obtain ⟨decoded, hdecoded, hstep⟩ := bind_eq_ok.mp hstep
  have hrecovers : decoded.Recovers := decodeFrame_recovers hdecoded h
  obtain ⟨-, -, hok⟩ := bind_eq_ok.mp hstep
  obtain rfl := Except.ok.inj hok
  exact hrecovers

theorem receive_recovers (hstep : viewer.receive args turn = .ok viewer') (h : viewer.Recovers) :
    viewer'.Recovers := by
  obtain ⟨-, -, hstep⟩ := bind_eq_ok.mp hstep
  obtain ⟨⟨stored, missing, frame⟩, hstored, hstep⟩ := bind_eq_ok.mp hstep
  have hrecovers : stored.Recovers := takePacket_recovers hstored h
  obtain ⟨next, hnext, hstep⟩ := bind_eq_ok.mp hstep
  have hrecovers' : next.Recovers := requestMissing_recovers hnext hrecovers
  cases frame with
  | some frame => exact takeFrame_recovers hstep hrecovers'
  | none => exact Except.ok.inj hstep ▸ hrecovers'

theorem step_recovers (hstep : step args viewer turn = .ok viewer') (h : viewer.Recovers) :
    viewer'.Recovers := by
  unfold step at hstep
  split at hstep
  · exact receive_recovers hstep h
  · exact Except.ok.inj hstep ▸ h

theorem reachable_recovers (hviewer : viewer.Reachable args) : viewer.Recovers := by
  obtain ⟨decoder, turns, hrun⟩ := hviewer
  exact tryRun_induction (fun _ _ _ => step_recovers) hrun (recovers_start args decoder)

/-- While something found missing is not made good by a decoded keyframe, exactly one request has
been sent since the last one, and that for the first thing found missing after it. -/
theorem requested_since_keyframe (hviewer : viewer.Reachable args)
    {before after : List RecoveryEvent} (hlog : viewer.log = before ++ .detected :: after)
    (hnone : .keyframeDecoded ∉ after) :
    ∃ reason later, sinceKeyframe viewer.log
      = .detected :: .requested reason :: List.replicate later .detected := by
  have hrecovers := reachable_recovers hviewer
  have hdetected : RecoveryEvent.detected ∈ sinceKeyframe viewer.log := by
    rw [hlog, sinceKeyframe_append before (by simpa using hnone)]
    exact List.mem_append_right _ List.mem_cons_self
  unfold Recovers at hrecovers
  generalize viewer.awaiting_recovery_keyframe = awaits at hrecovers
  generalize sinceKeyframe viewer.log = log at hrecovers hdetected ⊢
  cases hrecovers with
  | quiet => exact absurd hdetected List.not_mem_nil
  | awaiting reason later => exact ⟨reason, later, rfl⟩

end Loop

/-! ## The recovery keyframe is lost too -/

/-- The first of the two packets of a frame. -/
def firstHalf (frame_id : UInt32) (is_keyframe : Bool) : MediaPacket :=
  let frame : EncodedFrame := ⟨1, frame_id, 0, 0, 0, 0, 0, 0, 0, .h264, is_keyframe, [0, 0, 0, 1]⟩
  frame.fragment .video (2 * frame_id) 2 2 0

/-- A packet that arrives while everything answers. -/
def received (packet : MediaPacket) : Turn := ⟨packet, 0, .ok (), .ok (), .ok (), .ok ()⟩

def sharedArgs : ViewerArgs := ⟨10, 16, 64, 500, 0⟩

/-- Every second packet is lost, also that of the keyframe that answers the request. -/
def lossyTurns : List Turn :=
  [received (firstHalf 1 false), received (firstHalf 2 false), received (firstHalf 3 true),
    received (firstHalf 4 false)]

def lossyRun : Except ViewerError (ScreenViewer H264VideoDecoder) :=
  tryRun (step sharedArgs) (start sharedArgs (.synthetic ⟨none⟩)) lossyTurns

theorem lossyTurns_log : ∃ viewer : ScreenViewer H264VideoDecoder, viewer.Reachable sharedArgs ∧
    viewer.log = [.detected, .requested .packetLoss, .detected, .detected] := by
  have hlog : lossyRun.map (fun viewer => viewer.log)
      = .ok [.detected, .requested .packetLoss, .detected, .detected] := by
    decide +kernel
  cases hrun : lossyRun with
  | error failure =>
      rw [hrun] at hlog
      cases hlog
  | ok viewer =>
      rw [hrun] at hlog
      exact ⟨viewer, ⟨_, _, hrun⟩, Except.ok.inj hlog⟩

theorem requested_since_keyframe_lossy :
    ∃ viewer : ScreenViewer H264VideoDecoder, viewer.Reachable sharedArgs ∧
      ∃ reason later, sinceKeyframe viewer.log
        = .detected :: .requested reason :: List.replicate later .detected := by
  obtain ⟨viewer, hviewer, hlog⟩ := lossyTurns_log
  have hlast : viewer.log = [.detected, .requested .packetLoss, .detected] ++ [.detected] := hlog
  exact ⟨viewer, hviewer, requested_since_keyframe hviewer hlast List.not_mem_nil⟩

/-- No request follows the loss of the recovery keyframe. -/
theorem lost_keyframe_not_requested :
    ¬ ∀ viewer : ScreenViewer H264VideoDecoder, viewer.Reachable sharedArgs →
      ∀ before after, viewer.log = before ++ .detected :: after → .detected ∉ after →
        .keyframeDecoded ∉ after → ∃ reason, .requested reason ∈ after := by
  intro h
  obtain ⟨viewer, hviewer, hlog⟩ := lossyTurns_log
  have hlast : viewer.log = [.detected, .requested .packetLoss, .detected] ++ [.detected] := hlog
  obtain ⟨reason, hreason⟩ := h viewer hviewer _ _ hlast List.not_mem_nil List.not_mem_nil
  exact List.not_mem_nil hreason

end ScreenViewer

end TeamView.Client
