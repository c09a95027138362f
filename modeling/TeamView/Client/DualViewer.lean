import TeamView.Client.Audio
import TeamView.Client.ScreenMedia
import TeamView.Client.UiServer
import TeamView.Client.ViewerRecovery

set_option autoImplicit false

/-! # Viewers of voice, and of voice and screen together

The loops of `run_synthetic_voice_viewer_media` and `run_synthetic_dual_viewer_media`
(`crates/desktop-client/src/main.rs`). The dual viewer takes the packets of two streams from one
connection and gives each packet to the part that its stream belongs to. It does to the parts what
the loops of the single viewers do, so what holds of these holds of its parts.
-/

namespace TeamView.Client

open TeamView.Protocol MachineInt Runs

/-! ## The voice viewer -/

inductive AudioOutputArg where
  | sink
  | speaker
  deriving DecidableEq

/-- Both kinds of playback keep the latest frame; a speaker plays it first. -/
structure AudioOutputPlayback where
  output : AudioOutputArg
  latest : LatestAudioPlayback
  deriving DecidableEq

/-- `device` is what becomes of giving the frame to the device. -/
def AudioOutputPlayback.play (playback : AudioOutputPlayback) (frame : DecodedAudioFrame)
    (device : Except String Unit) : Except String AudioOutputPlayback :=
  match playback.output with
  | .sink => (playback.latest.play frame).map fun latest => { playback with latest }
  | .speaker => do
      let played ← validateDecodedAudioFrame frame
      device
      let played_frames := satAdd u64Max playback.latest.played_frames 1
      return { playback with latest := ⟨played_frames, some played⟩ }

/-- The variables of the loop. The frames that were played are not in the source. -/
structure VoiceViewer where
  buffer : FrameReassemblyBuffer
  playback : AudioOutputPlayback
  stats : ClientMediaStats
  reassembled_frames : Nat
  decoded_frames : Nat
  received_packets : Nat
  played : List DecodedAudioFrame

namespace VoiceViewer

def start (args : ViewerArgs) (output : AudioOutputArg) : VoiceViewer where
  buffer := .withJitterBudget 64 args.reassembly_window_frames args.jitter_buffer_max_ms
    (max args.frame_interval_ms 1)
  playback := ⟨output, .default⟩
  stats := .default
  reassembled_frames := 0
  decoded_frames := 0
  received_packets := 0
  played := []

/-- The part of a turn that stores the packet. -/
def takePacket (args : ViewerArgs) (viewer : VoiceViewer) (turn : Turn) :
    Except ViewerError (VoiceViewer × Option EncodedFrame) := do
  let stats := viewer.stats.recordPacket turn.packet
  let (buffer, result) :=
    viewer.buffer.pushWithStatsAt turn.packet turn.packet_receive_time_micros
  let outcome ← result.mapError .push
  let stats :=
    if 0 < outcome.dropped_frames then stats.recordDroppedFrames outcome.dropped_frames else stats
  .ok
    ({ viewer with
        buffer := buffer
        stats :=
          { stats with jitter_buffer_ms := buffer.estimatedJitterMs (max args.frame_interval_ms 1) }
        received_packets := viewer.received_packets + 1 },
      outcome.frame)

def playFrame (viewer : VoiceViewer) (decoded : DecodedAudioFrame) (turn : Turn) :
    Except ViewerError VoiceViewer := do
  let playback ← (viewer.playback.play decoded turn.render).mapError .render
  .ok
    { viewer with
      playback := playback
      stats := viewer.stats.recordRenderedFrame.recordDecodedFrame
      decoded_frames := viewer.decoded_frames + 1
      played := viewer.played ++ [decoded] }

def decodeFrame (build : Build) (viewer : VoiceViewer) (frame : EncodedFrame) (turn : Turn) :
    Except ViewerError VoiceViewer := do
  let decoded ← (orPanic "attempt to multiply with overflow"
    (SyntheticOpusDecoder.decode build frame.bytes)).mapError .decode
  match decoded with
  | some decoded => viewer.playFrame decoded turn
  | none => .ok { viewer with stats := viewer.stats.recordDroppedFrame }

/-- The statistics go to the relay every `stats_interval_frames` frames. -/
def reportStats (args : ViewerArgs) (viewer : VoiceViewer) (turn : Turn) :
    Except ViewerError Unit :=
  if 0 < args.stats_interval_frames ∧
      viewer.reassembled_frames % args.stats_interval_frames = 0 then
    turn.send_viewer_stats.mapError .control
  else .ok ()

/-- The part of a turn behind a reassembled frame. -/
def takeFrame (args : ViewerArgs) (build : Build) (viewer : VoiceViewer) (frame : EncodedFrame)
    (turn : Turn) : Except ViewerError VoiceViewer := do
  let viewer ← viewer.decodeFrame build frame turn
  let viewer := { viewer with reassembled_frames := viewer.reassembled_frames + 1 }
  viewer.reportStats args turn
  .ok viewer

/-- The part of a turn behind the refresh of the clock. -/
def receivePacket (args : ViewerArgs) (build : Build) (viewer : VoiceViewer) (turn : Turn) :
    Except ViewerError VoiceViewer := do
  let (viewer, frame) ← viewer.takePacket args turn
  match frame with
  | some frame => viewer.takeFrame args build frame turn
  | none => .ok viewer

def receive (args : ViewerArgs) (build : Build) (viewer : VoiceViewer) (turn : Turn) :
    Except ViewerError VoiceViewer := do
  turn.refresh_if_due.mapError .control
  viewer.receivePacket args build turn

/-- One turn of the loop. A viewer that has its frames takes no more packets. -/
def step (args : ViewerArgs) (build : Build) (viewer : VoiceViewer) (turn : Turn) :
    Except ViewerError VoiceViewer :=
  if viewer.reassembled_frames < args.target_frames then viewer.receive args build turn
  else .ok viewer

end VoiceViewer

/-! ## The streams of a dual viewer -/

def MediaKind.debug : MediaKind → String
  | .screen => "Screen"
  | .voice => "Voice"
  | .probe => "Probe"

def formatStreamSummary (stream : StreamSummary) : String :=
  s!"{stream.stream_id}:{MediaKind.debug stream.media_kind}/{CodecId.debug stream.codec} " ++
    s!"subscribers={stream.subscriber_count} configured={stream.has_config}"

def formatStreamSummaries (streams : List StreamSummary) : String :=
  if streams.isEmpty then "none" else ", ".intercalate (streams.map formatStreamSummary)

def resolveStreamIdForKind (requested_stream_id : StreamId) (expected_kind : MediaKind)
    (streams : List StreamSummary) : Except String (Option StreamId) :=
  match streams.find? fun stream => decide (stream.stream_id = requested_stream_id) with
  | none => .ok none
  | some stream =>
      if stream.media_kind ≠ expected_kind then
        .error
          (s!"stream {requested_stream_id} is {MediaKind.debug stream.media_kind}, " ++
            s!"but viewer requested {MediaKind.debug expected_kind}")
      else .ok (some stream.stream_id)

/-- `ok_or_else`. -/
def orError {α : Type} (text : String) : Option α → Except String α
  | some value => .ok value
  | none => .error text

def resolveDualViewerStreamIds (args : UiArgs) (streams : List StreamSummary) :
    Except String (StreamId × StreamId) := do
  let screen ← resolveStreamIdForKind args.stream_id .screen streams
  let screen_stream_id ← orError
    (s!"screen stream {args.stream_id} was not found; " ++
      s!"streams: {formatStreamSummaries streams}") screen
  let requested_voice_stream_id ← args.voiceStreamId
  let voice ← resolveStreamIdForKind requested_voice_stream_id .voice streams
  let voice_stream_id ← orError
    (s!"voice stream {requested_voice_stream_id} was not found; " ++
      s!"streams: {formatStreamSummaries streams}") voice
  return (screen_stream_id, voice_stream_id)

theorem resolveStreamIdForKind_some {requested found : StreamId} {kind : MediaKind}
    {streams : List StreamSummary}
    (h : resolveStreamIdForKind requested kind streams = .ok (some found)) :
    found = requested ∧
      ∃ stream ∈ streams, stream.stream_id = found ∧ stream.media_kind = kind := by
  unfold resolveStreamIdForKind at h
  split at h
  · cases h
  · next stream hfind =>
      split at h
      · cases h
      · next hkind =>
          have hid : stream.stream_id = found := Option.some.inj (Except.ok.inj h)
          have hrequested : stream.stream_id = requested := by simpa using List.find?_some hfind
          exact ⟨hid.symm.trans hrequested,
            stream, List.mem_of_find?_eq_some hfind, hid, not_not.mp hkind⟩

theorem orError_eq_ok {α : Type} {text : String} {value : α} {found : Option α}
    (h : orError text found = .ok value) : found = some value := by
  cases found with
  | none => cases h
  | some found => exact congrArg some (Except.ok.inj h)

/-- The streams of a dual viewer are two, and the ones that were asked for. -/
theorem resolveDualViewerStreamIds_eq_ok {args : UiArgs} {streams : List StreamSummary}
    {screen voice : StreamId}
    (h : resolveDualViewerStreamIds args streams = .ok (screen, voice)) :
    screen = args.stream_id ∧ args.voiceStreamId = .ok voice ∧ screen ≠ voice := by
  obtain ⟨found, hfound, h⟩ := bind_eq_ok.mp h
  obtain ⟨screen', hscreen, h⟩ := bind_eq_ok.mp h
  obtain ⟨requested, hrequested, h⟩ := bind_eq_ok.mp h
  obtain ⟨found', hfound', h⟩ := bind_eq_ok.mp h
  obtain ⟨voice', hvoice, h⟩ := bind_eq_ok.mp h
  obtain ⟨rfl, rfl⟩ := Prod.mk.inj (Except.ok.inj h)
  rw [orError_eq_ok hscreen] at hfound
  rw [orError_eq_ok hvoice] at hfound'
  obtain ⟨rfl, -⟩ := resolveStreamIdForKind_some hfound
  obtain ⟨rfl, -⟩ := resolveStreamIdForKind_some hfound'
  refine ⟨rfl, hrequested, ?_⟩
  unfold UiArgs.voiceStreamId at hrequested
  dsimp only at hrequested
  split at hrequested
  · cases hrequested
  · next hdiffers =>
      rw [← Except.ok.inj hrequested]
      exact Ne.symm hdiffers

/-! ## The dual viewer -/

/-- The arguments of the loop. -/
structure DualViewerArgs where
  target_screen_frames : Nat
  target_voice_frames : Nat
  deafened : Bool
  screen_frame_interval_ms : UInt16
  voice_frame_interval_ms : UInt16
  reassembly_window_frames : UInt32
  jitter_buffer_max_ms : UInt16
  stats_interval_frames : Nat

namespace DualViewerArgs

def screen (args : DualViewerArgs) : ViewerArgs where
  target_frames := args.target_screen_frames
  frame_interval_ms := args.screen_frame_interval_ms
  reassembly_window_frames := args.reassembly_window_frames
  jitter_buffer_max_ms := args.jitter_buffer_max_ms
  stats_interval_frames := args.stats_interval_frames

/-- A deafened viewer waits for no voice. -/
def voice (args : DualViewerArgs) : ViewerArgs where
  target_frames := if args.deafened then 0 else args.target_voice_frames
  frame_interval_ms := args.voice_frame_interval_ms
  reassembly_window_frames := args.reassembly_window_frames
  jitter_buffer_max_ms := args.jitter_buffer_max_ms
  stats_interval_frames := args.stats_interval_frames

end DualViewerArgs

/-- The part of a screen viewer's turn behind the refresh of the clock. -/
def ScreenViewer.receivePacket {δ : Type} [VideoDecoder δ] (args : ViewerArgs)
    (viewer : ScreenViewer δ) (turn : Turn) : Except ViewerError (ScreenViewer δ) := do
  let (viewer, missing, frame) ← viewer.takePacket args turn
  let viewer ← viewer.requestMissing missing turn
  match frame with
  | some frame => viewer.takeFrame args frame turn
  | none => .ok viewer

/-- The variables of the loop. -/
structure DualViewer (δ : Type) where
  screen : ScreenViewer δ
  voice : VoiceViewer

namespace DualViewer

variable {δ : Type}

def start (args : DualViewerArgs) (decoder : δ) (output : AudioOutputArg) : DualViewer δ where
  screen := .start args.screen decoder
  voice := .start args.voice output

variable [VideoDecoder δ]

/-- The clock is refreshed for every packet, also for one that no part wants. -/
def receive (args : DualViewerArgs) (build : Build) (screen_stream_id voice_stream_id : StreamId)
    (viewer : DualViewer δ) (turn : Turn) : Except ViewerError (DualViewer δ) := do
  turn.refresh_if_due.mapError .control
  let packet_stream_id := turn.packet.header.room_stream_id.toNat
  if packet_stream_id = screen_stream_id ∧
      viewer.screen.reassembled_frames < args.screen.target_frames then
    let screen ← viewer.screen.receivePacket args.screen turn
    .ok { viewer with screen }
  else if packet_stream_id = voice_stream_id ∧
      viewer.voice.reassembled_frames < args.voice.target_frames then
    let voice ← viewer.voice.receivePacket args.voice build turn
    .ok { viewer with voice }
  else .ok viewer

def step (args : DualViewerArgs) (build : Build) (screen_stream_id voice_stream_id : StreamId)
    (viewer : DualViewer δ) (turn : Turn) : Except ViewerError (DualViewer δ) :=
  if viewer.screen.reassembled_frames < args.screen.target_frames ∨
      viewer.voice.reassembled_frames < args.voice.target_frames then
    viewer.receive args build screen_stream_id voice_stream_id turn
  else .ok viewer

end DualViewer

/-! ## Each part is a viewer of its own -/

def Turn.on (stream_id : StreamId) (turn : Turn) : Bool :=
  decide (turn.packet.header.room_stream_id.toNat = stream_id)

namespace ScreenViewer

variable {δ : Type} [VideoDecoder δ] {args : ViewerArgs} {viewer viewer' : ScreenViewer δ}
  {turn : Turn}

theorem step_of_done (hdone : ¬ viewer.reassembled_frames < args.target_frames) :
    viewer.step args turn = .ok viewer :=
  if_neg hdone

theorem step_of_refreshed (hbelow : viewer.reassembled_frames < args.target_frames)
    (hrefresh : turn.refresh_if_due = .ok ()) :
    viewer.step args turn = viewer.receivePacket args turn := by
  have hreceive : viewer.receive args turn
      = turn.refresh_if_due.mapError .control >>= fun _ => viewer.receivePacket args turn := rfl
  have hstep : viewer.step args turn = viewer.receive args turn := if_pos hbelow
  rw [hstep, hreceive, hrefresh]
  rfl

end ScreenViewer

namespace VoiceViewer

variable {args : ViewerArgs} {build : Build} {viewer viewer' : VoiceViewer} {turn : Turn}

theorem step_of_done (hdone : ¬ viewer.reassembled_frames < args.target_frames) :
    viewer.step args build turn = .ok viewer :=
  if_neg hdone

theorem step_of_refreshed (hbelow : viewer.reassembled_frames < args.target_frames)
    (hrefresh : turn.refresh_if_due = .ok ()) :
    viewer.step args build turn = viewer.receivePacket args build turn := by
  have hstep : viewer.step args build turn = viewer.receive args build turn := if_pos hbelow
  have hreceive : viewer.receive args build turn
      = turn.refresh_if_due.mapError .control >>= fun _ => viewer.receivePacket args build turn :=
    rfl
  rw [hstep, hreceive, hrefresh]
  rfl

end VoiceViewer

namespace DualViewer

variable {δ : Type} [VideoDecoder δ] {args : DualViewerArgs} {build : Build}
  {screen_stream_id voice_stream_id : StreamId} {viewer viewer' : DualViewer δ} {turn : Turn}

/-- What a turn can do: it leaves the parts as they are, or one of them takes the packet. -/
theorem step_cases
    (hstep : viewer.step args build screen_stream_id voice_stream_id turn = .ok viewer') :
    (turn.on screen_stream_id = true ∧
      viewer.screen.reassembled_frames < args.screen.target_frames ∧
      turn.refresh_if_due = .ok () ∧
      viewer.screen.receivePacket args.screen turn = .ok viewer'.screen ∧
      viewer'.voice = viewer.voice) ∨
    (turn.on voice_stream_id = true ∧
      ¬ (turn.on screen_stream_id = true ∧
        viewer.screen.reassembled_frames < args.screen.target_frames) ∧
      viewer.voice.reassembled_frames < args.voice.target_frames ∧
      turn.refresh_if_due = .ok () ∧
      viewer.voice.receivePacket args.voice build turn = .ok viewer'.voice ∧
      viewer'.screen = viewer.screen) ∨
    (viewer' = viewer ∧
      ¬ (turn.on screen_stream_id = true ∧
        viewer.screen.reassembled_frames < args.screen.target_frames) ∧
      ¬ (turn.on voice_stream_id = true ∧
        viewer.voice.reassembled_frames < args.voice.target_frames)) := by
  unfold step at hstep
  split at hstep
  · obtain ⟨_, hrefreshed, hstep⟩ := bind_eq_ok.mp hstep
    have hrefresh : turn.refresh_if_due = .ok () := by
      cases hanswer : turn.refresh_if_due with
      | ok answer => rfl
      | error message =>
          rw [hanswer] at hrefreshed
          cases hrefreshed
    dsimp only at hstep
    split at hstep
    · next hscreen =>
        obtain ⟨part, hpart, hok⟩ := bind_eq_ok.mp hstep
        obtain rfl := Except.ok.inj hok
        exact .inl ⟨decide_eq_true hscreen.1, hscreen.2, hrefresh, hpart, rfl⟩
    · next hscreen =>
        have hscreen' : ¬ (turn.on screen_stream_id = true ∧
            viewer.screen.reassembled_frames < args.screen.target_frames) := by
          rintro ⟨hon, hbelow⟩
          exact hscreen ⟨of_decide_eq_true hon, hbelow⟩
        split at hstep
        · next hvoice =>
            obtain ⟨part, hpart, hok⟩ := bind_eq_ok.mp hstep
            obtain rfl := Except.ok.inj hok
            exact .inr (.inl
              ⟨decide_eq_true hvoice.1, hscreen', hvoice.2, hrefresh, hpart, rfl⟩)
        · next hvoice =>
            refine .inr (.inr ⟨(Except.ok.inj hstep).symm, hscreen', ?_⟩)
            rintro ⟨hon, hbelow⟩
            exact hvoice ⟨of_decide_eq_true hon, hbelow⟩
  · next hdone =>
      exact .inr (.inr ⟨(Except.ok.inj hstep).symm, fun h => hdone (.inl h.2),
        fun h => hdone (.inr h.2)⟩)

theorem step_screen
    (hstep : viewer.step args build screen_stream_id voice_stream_id turn = .ok viewer')
    (hon : turn.on screen_stream_id = true) :
    viewer.screen.step args.screen turn = .ok viewer'.screen := by
  rcases step_cases hstep with ⟨-, hbelow, hrefresh, hpart, -⟩ | ⟨-, hnot, -, -, -, hsame⟩
    | ⟨rfl, hnot, -⟩
  · rw [ScreenViewer.step_of_refreshed hbelow hrefresh, hpart]
  · rw [hsame, ScreenViewer.step_of_done fun hbelow => hnot ⟨hon, hbelow⟩]
  · rw [ScreenViewer.step_of_done fun hbelow => hnot ⟨hon, hbelow⟩]

theorem step_screen_other
    (hstep : viewer.step args build screen_stream_id voice_stream_id turn = .ok viewer')
    (hother : turn.on screen_stream_id = false) : viewer'.screen = viewer.screen := by
  rcases step_cases hstep with ⟨hon, -⟩ | ⟨-, -, -, -, -, hsame⟩ | ⟨rfl, -⟩
  · rw [hother] at hon
    cases hon
  · exact hsame
  · rfl

theorem step_voice (hdistinct : screen_stream_id ≠ voice_stream_id)
    (hstep : viewer.step args build screen_stream_id voice_stream_id turn = .ok viewer')
    (hon : turn.on voice_stream_id = true) :
    viewer.voice.step args.voice build turn = .ok viewer'.voice := by
  rcases step_cases hstep with ⟨hscreen, -⟩ | ⟨-, -, hbelow, hrefresh, hpart, -⟩ | ⟨rfl, -, hnot⟩
  · exact absurd ((of_decide_eq_true hscreen).symm.trans (of_decide_eq_true hon)) hdistinct
  · rw [VoiceViewer.step_of_refreshed hbelow hrefresh, hpart]
  · rw [VoiceViewer.step_of_done fun hbelow => hnot ⟨hon, hbelow⟩]

theorem step_voice_other
    (hstep : viewer.step args build screen_stream_id voice_stream_id turn = .ok viewer')
    (hother : turn.on voice_stream_id = false) : viewer'.voice = viewer.voice := by
  rcases step_cases hstep with ⟨-, -, -, -, hsame⟩ | ⟨hon, -⟩ | ⟨rfl, -⟩
  · exact hsame
  · rw [hother] at hon
    cases hon
  · rfl

/-- A turn succeeds when the clock answers and the part that the packet is for succeeds. -/
theorem step_ok (hrefresh : turn.refresh_if_due = .ok ())
    (hscreen : turn.on screen_stream_id = true →
      ∃ part, viewer.screen.step args.screen turn = .ok part)
    (hvoice : turn.on voice_stream_id = true →
      ∃ part, viewer.voice.step args.voice build turn = .ok part) :
    ∃ viewer', viewer.step args build screen_stream_id voice_stream_id turn = .ok viewer' := by
  unfold step
  split
  · unfold receive
    rw [hrefresh]
    simp only [Except.mapError, bind, Except.bind]
    split
    · next h =>
        obtain ⟨part, hpart⟩ := hscreen (decide_eq_true h.1)
        rw [ScreenViewer.step_of_refreshed h.2 hrefresh] at hpart
        exact ⟨{ viewer with screen := part }, by rw [hpart]⟩
    · split
      · next h =>
          obtain ⟨part, hpart⟩ := hvoice (decide_eq_true h.1)
          rw [VoiceViewer.step_of_refreshed h.2 hrefresh] at hpart
          exact ⟨{ viewer with voice := part }, by rw [hpart]⟩
      · exact ⟨viewer, rfl⟩
  · exact ⟨viewer, rfl⟩

/-- Whatever the order in which the packets of the two streams come, and whatever other packets
come between them, each part ends as a single viewer of its stream does that takes only the packets
of its stream. A run of the dual viewer fails where one of these two fails, or the clock does. -/
theorem dual_viewer_apart {ui : UiArgs} {streams : List StreamSummary}
    (hresolved : resolveDualViewerStreamIds ui streams = .ok (screen_stream_id, voice_stream_id))
    (decoder : δ) (output : AudioOutputArg) (turns : List Turn) :
    (∀ viewer : DualViewer δ,
      tryRun (step args build screen_stream_id voice_stream_id) (start args decoder output) turns
          = .ok viewer →
        tryRun (ScreenViewer.step args.screen) (.start args.screen decoder)
            (turns.filter (Turn.on screen_stream_id)) = .ok viewer.screen ∧
        tryRun (VoiceViewer.step args.voice build) (.start args.voice output)
            (turns.filter (Turn.on voice_stream_id)) = .ok viewer.voice) ∧
    ((∀ turn ∈ turns, turn.refresh_if_due = .ok ()) → ∀ (screen : ScreenViewer δ) voice,
      tryRun (ScreenViewer.step args.screen) (.start args.screen decoder)
          (turns.filter (Turn.on screen_stream_id)) = .ok screen →
      tryRun (VoiceViewer.step args.voice build) (.start args.voice output)
          (turns.filter (Turn.on voice_stream_id)) = .ok voice →
        tryRun (step args build screen_stream_id voice_stream_id) (start args decoder output) turns
          = .ok ⟨screen, voice⟩) := by
  obtain ⟨-, -, hdistinct⟩ := resolveDualViewerStreamIds_eq_ok hresolved
  refine ⟨?_, ?_⟩
  · intro viewer hrun
    exact ⟨tryRun_part screen (Turn.on screen_stream_id) (fun _ _ _ => step_screen)
        (fun _ _ _ => step_screen_other) hrun,
      tryRun_part voice (Turn.on voice_stream_id) (fun _ _ _ => step_voice hdistinct)
        (fun _ _ _ => step_voice_other) hrun⟩
  · intro hrefresh screen' voice' hscreen hvoice
    obtain ⟨viewer, hrun, rfl, rfl⟩ :=
      tryRun_of_parts screen (Turn.on screen_stream_id) voice (Turn.on voice_stream_id)
        (fun _ _ _ => step_screen) (fun _ _ _ => step_screen_other)
        (fun _ _ _ => step_voice hdistinct) (fun _ _ _ => step_voice_other)
        (fun _ _ => step_ok) (s := start args decoder output) hrefresh hscreen hvoice
    exact hrun

/-- A viewer of the screen 1 and of the voice 2. -/
def sharedUi : UiArgs where
  capture_source := .primaryMonitor
  monitor_id := none
  window_title := none
  stream_id := 1
  media_kind := .both
  screen_input := .synthetic
  media_fps := 30
  voice_fps := 50
  room_id := none
  channel_id := none
  room_name := defaultChannelName
  channel_name := none
  mode := .viewer
  voice_stream_id := none
  media_frame_bytes := 64
  voice_frame_bytes := 64
  muted := false
  deafened := false
  push_to_talk := false
  ptt_active := false

def sharedStreams : List StreamSummary :=
  [⟨1, 1, 7, .h264, .screen, 0, true, 0, 0⟩, ⟨1, 2, 7, .opus, .voice, 0, true, 0, 0⟩]

def sharedDualArgs : DualViewerArgs := ⟨10, 10, false, 16, 20, 64, 500, 0⟩

/-- A voice packet whose bytes are no audio frame. -/
def strayVoice : MediaPacket :=
  let frame : EncodedFrame := ⟨2, 1, 0, 0, 0, 0, 0, 0, 0, .opus, false, [0, 0]⟩
  frame.fragment .audio 1 2 1 0

/-- The first frames of a screen lose a packet, and a packet of a voice comes between them. -/
def mixedTurns : List Turn :=
  [ScreenViewer.received (ScreenViewer.firstHalf 1 false), ScreenViewer.received strayVoice,
    ScreenViewer.received (ScreenViewer.firstHalf 2 false)]

theorem dual_viewer_apart_mixed :
    ∃ viewer : DualViewer H264VideoDecoder,
      tryRun (ScreenViewer.step sharedDualArgs.screen)
          (.start sharedDualArgs.screen (.synthetic ⟨none⟩)) (mixedTurns.filter (Turn.on 1))
        = .ok viewer.screen ∧
      tryRun (VoiceViewer.step sharedDualArgs.voice .release) (.start sharedDualArgs.voice .sink)
          (mixedTurns.filter (Turn.on 2)) = .ok viewer.voice ∧
      viewer.screen.log = [.detected, .requested .packetLoss] ∧
      viewer.voice.reassembled_frames = 1 := by
  have hresolved : resolveDualViewerStreamIds sharedUi sharedStreams = .ok (1, 2) := by
    decide +kernel
  have hends : (tryRun (step sharedDualArgs .release 1 2)
      (start sharedDualArgs (H264VideoDecoder.synthetic ⟨none⟩) .sink) mixedTurns).map
        (fun viewer => (viewer.screen.log, viewer.voice.reassembled_frames))
      = .ok ([.detected, .requested .packetLoss], 1) := by
    decide +kernel
  cases hrun : tryRun (step sharedDualArgs .release 1 2)
      (start sharedDualArgs (H264VideoDecoder.synthetic ⟨none⟩) .sink) mixedTurns with
  | error failure =>
      rw [hrun] at hends
      cases hends
  | ok viewer =>
      rw [hrun] at hends
      obtain ⟨hlog, hframes⟩ := Prod.mk.inj (Except.ok.inj hends)
      have happart := (dual_viewer_apart hresolved (H264VideoDecoder.synthetic ⟨none⟩) .sink
        mixedTurns).1 viewer hrun
      exact ⟨viewer, happart.1, happart.2, hlog, hframes⟩

end DualViewer

end TeamView.Client
