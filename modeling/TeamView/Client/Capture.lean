import TeamView.Client.Publishing
import TeamView.Client.Scaling
import TeamView.Lib.DropQueue

set_option autoImplicit false

/-! # Capturing screens and sound

The sources of a broadcaster (`crates/desktop-client/src/capture/mod.rs`, `capture/windows.rs` and
`audio_capture.rs`). Between a source and its reader stands a queue that drops its oldest frames
when it is full and of which the reader takes the latest one alone. Every captured frame gets the
next frame id.
-/

namespace TeamView.Client

open MachineInt DropQueue Runs

/-! ## The queue of the latest frame -/

/-- `LatestFrameQueue` and `LatestAudioCaptureQueue`, which differ in their frames only. -/
structure LatestQueue (α : Type) where
  frames : List α
  capacity : Nat
  dropped_frames : Nat
  positive : 0 < capacity
  fits : frames.length ≤ capacity

namespace LatestQueue

variable {α : Type}

def new (capacity : Nat) : LatestQueue α where
  frames := []
  capacity := max capacity 1
  dropped_frames := 0
  positive := Nat.lt_of_lt_of_le Nat.one_pos (Nat.le_max_right _ _)
  fits := Nat.zero_le _

/-- The loop of `push`: frames leave at the front while one more does not fit. -/
def makeRoom (capacity : Nat) : List α → Nat → List α × Nat
  | [], dropped_frames => ([], dropped_frames)
  | oldest :: frames, dropped_frames =>
      if capacity ≤ (oldest :: frames).length then
        makeRoom capacity frames (satAdd u64Max dropped_frames 1)
      else (oldest :: frames, dropped_frames)

/-- What the loop leaves: as few frames are gone as make room for one more. -/
theorem makeRoom_eq {capacity : Nat} (hpositive : 0 < capacity) (frames : List α)
    {dropped_frames : Nat} (hcounted : dropped_frames ≤ u64Max) :
    makeRoom capacity frames dropped_frames
      = (frames.drop (excess capacity frames),
        satAdd u64Max dropped_frames (excess capacity frames)) := by
  induction frames generalizing dropped_frames with
  | nil =>
      have hnone : excess capacity ([] : List α) = 0 := by
        unfold excess
        exact Nat.zero_sub _
      rw [makeRoom, hnone, satAdd, Nat.add_zero, Nat.min_eq_left hcounted]
      rfl
  | cons oldest frames ih =>
      have hlength : (oldest :: frames).length = frames.length + 1 := rfl
      unfold makeRoom
      split
      · next hfull =>
          have hsucc : excess capacity (oldest :: frames) = excess capacity frames + 1 := by
            unfold excess
            omega
          have hle : satAdd u64Max dropped_frames 1 ≤ u64Max := Nat.min_le_right _ _
          have hcount : satAdd u64Max (satAdd u64Max dropped_frames 1) (excess capacity frames)
              = satAdd u64Max dropped_frames (excess capacity frames + 1) := by
            generalize u64Max = top
            unfold satAdd
            omega
          rw [ih hle, hsucc, List.drop_succ_cons, hcount]
      · next hroom =>
          have hnone : excess capacity (oldest :: frames) = 0 := by
            unfold excess
            omega
          rw [hnone, List.drop_zero, satAdd, Nat.add_zero, Nat.min_eq_left hcounted]

/-- Behind the loop there is room for one more. -/
theorem makeRoom_room {capacity : Nat} (hpositive : 0 < capacity) (frames : List α)
    (dropped_frames : Nat) : (makeRoom capacity frames dropped_frames).1.length < capacity := by
  induction frames generalizing dropped_frames with
  | nil => exact hpositive
  | cons oldest frames ih =>
      unfold makeRoom
      split
      · exact ih _
      · next hroom => exact Nat.lt_of_not_le hroom

def push (queue : LatestQueue α) (frame : α) : LatestQueue α where
  frames := (makeRoom queue.capacity queue.frames queue.dropped_frames).1 ++ [frame]
  capacity := queue.capacity
  dropped_frames := (makeRoom queue.capacity queue.frames queue.dropped_frames).2
  positive := queue.positive
  fits := by
    rw [List.length_append]
    exact makeRoom_room queue.positive _ _

/-- The frames before the latest one are dropped with it, and are not counted. -/
def popLatest (queue : LatestQueue α) : LatestQueue α × Option α :=
  match queue.frames.getLast? with
  | none => (queue, none)
  | some latest => ({ queue with frames := [], fits := Nat.zero_le _ }, some latest)

theorem popLatest_snd (queue : LatestQueue α) : queue.popLatest.2 = queue.frames.getLast? := by
  unfold popLatest
  split <;> simp_all

theorem popLatest_frames (queue : LatestQueue α) : queue.popLatest.1.frames = [] := by
  unfold popLatest
  split
  · next hnone => exact List.getLast?_eq_none_iff.mp hnone
  · rfl

/-! ## What a queue hands out -/

/-- A call of the source or of the reader. -/
inductive Call (α : Type) where
  | push (frame : α)
  | popLatest

def step (queue : LatestQueue α) : Call α → LatestQueue α
  | .push frame => queue.push frame
  | .popLatest => queue.popLatest.1

/-- What a call does to the frames in the queue. -/
def shows (queue : LatestQueue α) : Call α → Shown α
  | .push frame => .pushed frame (excess queue.capacity queue.frames)
  | .popLatest => .taken queue.frames

/-- What the calls of a run do, one after another. -/
def showsAll (queue : LatestQueue α) : List (Call α) → List (Shown α)
  | [] => []
  | call :: calls => queue.shows call :: (queue.step call).showsAll calls

/-- What the reader gets, call by call. -/
def handsOut (queue : LatestQueue α) : List (Call α) → List (Option α)
  | [] => []
  | .push frame :: calls => (queue.push frame).handsOut calls
  | .popLatest :: calls => queue.popLatest.2 :: queue.popLatest.1.handsOut calls

/-- The frame that was pushed last, if any was since the last call of the reader. -/
def freshest : Option α → List (Call α) → List (Option α)
  | _, [] => []
  | _, .push frame :: calls => freshest (some frame) calls
  | latest, .popLatest :: calls => latest :: freshest none calls

theorem step_shows (queue : LatestQueue α) (call : Call α)
    (hcounted : queue.dropped_frames ≤ u64Max) :
    Step queue.capacity queue.frames (queue.shows call) (queue.step call).frames ∧
      (queue.step call).capacity = queue.capacity ∧
      (queue.step call).dropped_frames
        = satAdd u64Max queue.dropped_frames (queue.shows call).droppedCount := by
  cases call with
  | push frame =>
      have hstep := step_of_push queue.positive queue.fits frame
      have hroom := makeRoom_eq queue.positive queue.frames hcounted
      refine ⟨?_, rfl, ?_⟩
      · show Step _ _ _ ((makeRoom queue.capacity queue.frames queue.dropped_frames).1 ++ [frame])
        rw [hroom]
        exact hstep
      · show (makeRoom queue.capacity queue.frames queue.dropped_frames).2 = _
        rw [hroom]
        rfl
  | popLatest =>
      have htaken : Step queue.capacity (queue.frames ++ []) (.taken queue.frames) [] :=
        .taken queue.frames [] fun _ => rfl
      rw [List.append_nil] at htaken
      refine ⟨?_, ?_, ?_⟩
      · show Step _ _ (.taken queue.frames) queue.popLatest.1.frames
        rw [popLatest_frames]
        exact htaken
      · show queue.popLatest.1.capacity = _
        unfold popLatest
        split <;> rfl
      · show queue.popLatest.1.dropped_frames = satAdd u64Max queue.dropped_frames 0
        rw [satAdd, Nat.add_zero, Nat.min_eq_left hcounted]
        unfold popLatest
        split <;> rfl

theorem counted_step {queue : LatestQueue α} (hcounted : queue.dropped_frames ≤ u64Max)
    (call : Call α) : (queue.step call).dropped_frames ≤ u64Max := by
  rw [(queue.step_shows call hcounted).2.2]
  exact Nat.min_le_right _ _

/-- The calls of a run are a trace of the contract, and the counter shows its drops. -/
theorem showsAll_trace {queue : LatestQueue α} (hcounted : queue.dropped_frames ≤ u64Max)
    (calls : List (Call α)) :
    Trace queue.capacity queue.frames (queue.showsAll calls) (run step queue calls).frames ∧
      (run step queue calls).dropped_frames
        = satAdd u64Max queue.dropped_frames (droppedAll (queue.showsAll calls)) := by
  induction calls generalizing queue with
  | nil =>
      refine ⟨.nil queue.frames, ?_⟩
      exact (Nat.min_eq_left hcounted).symm
  | cons call calls ih =>
      obtain ⟨hstep, hcapacity, hdropped⟩ := queue.step_shows call hcounted
      obtain ⟨htrace, hcount⟩ := ih (counted_step hcounted call)
      rw [hcapacity] at htrace
      refine ⟨.cons hstep htrace, ?_⟩
      have htotal : droppedAll (queue.showsAll (call :: calls))
          = (queue.shows call).droppedCount + droppedAll ((queue.step call).showsAll calls) := rfl
      rw [run_cons, hcount, hdropped, htotal]
      generalize u64Max = top
      unfold satAdd
      omega

/-- The reader gets the frame that was pushed last. -/
theorem handsOut_eq (queue : LatestQueue α) (calls : List (Call α)) :
    queue.handsOut calls = freshest queue.frames.getLast? calls := by
  induction calls generalizing queue with
  | nil => rfl
  | cons call calls ih =>
      cases call with
      | push frame =>
          have hlast : (queue.push frame).frames.getLast? = some frame := List.getLast?_concat
          rw [handsOut, ih, hlast]
          rfl
      | popLatest =>
          rw [handsOut, ih, popLatest_frames, popLatest_snd]
          rfl

def pushedFrames (calls : List (Call α)) : List α :=
  calls.filterMap fun call =>
    match call with
    | .push frame => some frame
    | .popLatest => none

/-- What the reader takes out of the queue with each of its calls. -/
def batches (queue : LatestQueue α) : List (Call α) → List (List α)
  | [] => []
  | .push frame :: calls => (queue.push frame).batches calls
  | .popLatest :: calls => queue.frames :: queue.popLatest.1.batches calls

theorem pushedAll_showsAll (queue : LatestQueue α) (calls : List (Call α)) :
    pushedAll (queue.showsAll calls) = pushedFrames calls := by
  induction calls generalizing queue with
  | nil => rfl
  | cons call calls ih =>
      have hrest := ih (queue.step call)
      cases call with
      | push frame => exact congrArg (frame :: ·) hrest
      | popLatest => exact hrest

theorem takenAll_showsAll (queue : LatestQueue α) (calls : List (Call α)) :
    takenAll (queue.showsAll calls) = (queue.batches calls).flatten := by
  induction calls generalizing queue with
  | nil => rfl
  | cons call calls ih =>
      have hrest := ih (queue.step call)
      cases call with
      | push frame => exact hrest
      | popLatest => exact congrArg (queue.frames ++ ·) hrest

/-- The reader gets the last frame of what it takes out. -/
theorem getLast?_batches (queue : LatestQueue α) (calls : List (Call α)) :
    (queue.batches calls).map List.getLast? = queue.handsOut calls := by
  induction calls generalizing queue with
  | nil => rfl
  | cons call calls ih =>
      cases call with
      | push frame => exact ih (queue.push frame)
      | popLatest =>
          rw [batches, handsOut, List.map_cons, ih, popLatest_snd]

theorem batches_fit (queue : LatestQueue α) (calls : List (Call α)) :
    ∀ batch ∈ queue.batches calls, batch.length ≤ queue.capacity := by
  induction calls generalizing queue with
  | nil => exact fun batch hbatch => absurd hbatch List.not_mem_nil
  | cons call calls ih =>
      cases call with
      | push frame => exact ih (queue.push frame)
      | popLatest =>
          have hcapacity : queue.popLatest.1.capacity = queue.capacity := by
            unfold popLatest
            split <;> rfl
          have hrest := ih queue.popLatest.1
          rw [hcapacity] at hrest
          rw [batches, List.forall_mem_cons]
          exact ⟨queue.fits, hrest⟩

/-- Whatever the capacity, the reader always gets the frame pushed last. Every pushed frame is
taken out, still queued or dropped, in order, and the counter shows the dropped ones. Of a batch
that is taken out only the last frame is used, so nothing but a capacity of one makes the counter
exact. -/
theorem latest_frames (capacity : Nat) (calls : List (Call α)) :
    (new capacity).handsOut calls = freshest none calls ∧
      ∃ (fates : List (α × Bool)) (batches : List (List α)),
        fates.map Prod.fst = pushedFrames calls ∧
        kept fates = batches.flatten ++ (run step (new capacity) calls).frames ∧
        (run step (new capacity) calls).dropped_frames = min (dropped fates).length u64Max ∧
        batches.map List.getLast? = (new capacity).handsOut calls ∧
        ∀ batch ∈ batches, batch.length ≤ max capacity 1 := by
  have hcounted : (new capacity : LatestQueue α).dropped_frames ≤ u64Max := Nat.zero_le _
  obtain ⟨htrace, hcount⟩ := showsAll_trace hcounted calls
  obtain ⟨fates, hfates, hkept, hdropped⟩ := htrace.account
  refine ⟨handsOut_eq (new capacity) calls, fates, (new capacity).batches calls, ?_, ?_, ?_,
    getLast?_batches (new capacity) calls, batches_fit (new capacity) calls⟩
  · rw [hfates, pushedAll_showsAll]
    rfl
  · rw [hkept, takenAll_showsAll]
  · rw [hcount, hdropped, satAdd]
    exact congrArg (min · u64Max) (Nat.zero_add _)

end LatestQueue

/-! ## The screen -/

abbrev LatestFrameQueue : Type := LatestQueue CaptureFrame

structure CaptureConfig where
  queue_capacity : Nat
  deriving DecidableEq

/-- What the operating system shows when it is asked for a picture of a source. -/
structure ScreenShot where
  width : UInt32
  height : UInt32
  capture_time_micros : UInt64
  bytes : List UInt8
  deriving DecidableEq

structure WindowsGraphicsCapture where
  source : CaptureSource
  config : CaptureConfig
  queue : LatestFrameQueue
  next_frame_id : UInt64

/-- `saturating_add` of one to a frame id. -/
def nextFrameId (frame_id : UInt64) : UInt64 :=
  UInt64.ofNat (satAdd u64Max frame_id.toNat 1)

namespace WindowsGraphicsCapture

/-- `supported` is whether the program runs on Windows. -/
def new (supported : Bool) (source : CaptureSource) (config : CaptureConfig) :
    Except String WindowsGraphicsCapture :=
  if supported then .ok ⟨source, config, .new config.queue_capacity, 1⟩
  else .error "Windows Graphics Capture is only available on Windows"

def pushTestFrame (capture : WindowsGraphicsCapture) (width height : UInt32)
    (capture_time_micros : UInt64) : WindowsGraphicsCapture :=
  { capture with
    next_frame_id := nextFrameId capture.next_frame_id
    queue := capture.queue.push
      (.metadataOnly capture.next_frame_id width height capture_time_micros) }

/-- `capture_now`, whose three sources differ in how they ask the operating system. -/
def captureNow (capture : WindowsGraphicsCapture) (screen : Except String ScreenShot) :
    WindowsGraphicsCapture × Except String CaptureFrame :=
  match screen with
  | .error error => (capture, .error error)
  | .ok shot =>
      match CaptureFrame.cpuBgra capture.next_frame_id shot.width shot.height
          shot.capture_time_micros shot.bytes with
      | .error error => (capture, .error error)
      | .ok frame =>
          ({ capture with next_frame_id := nextFrameId capture.next_frame_id }, .ok frame)

def nextFrame (capture : WindowsGraphicsCapture) (screen : Except String ScreenShot) :
    WindowsGraphicsCapture × Except String (Option CaptureFrame) :=
  match capture.queue.popLatest with
  | (queue, some frame) => ({ capture with queue }, .ok (some frame))
  | (_, none) =>
      let (capture, frame) := capture.captureNow screen
      (capture, frame.map some)

end WindowsGraphicsCapture

/-! ## The microphone -/

structure AudioCaptureConfig where
  sample_rate_hz : UInt32
  channel_count : UInt16
  frame_duration_ms : UInt16
  queue_capacity : Nat
  deriving DecidableEq

structure CapturedAudioFrame where
  frame_id : UInt64
  capture_time_micros : UInt64
  sample_rate_hz : UInt32
  channel_count : UInt16
  samples : List Int16
  deriving DecidableEq

def CapturedAudioFrame.pcmI16 (frame_id capture_time_micros : UInt64) (sample_rate_hz : UInt32)
    (channel_count : UInt16) (samples : List Int16) : Except String CapturedAudioFrame :=
  if sample_rate_hz = 0 then .error "audio sample rate must be non-zero"
  else if channel_count = 0 then .error "audio channel count must be non-zero"
  else if samples.length % channel_count.toNat ≠ 0 then
    .error
      (s!"audio sample buffer length {samples.length} is not divisible by channel count " ++
        s!"{channel_count}")
  else .ok ⟨frame_id, capture_time_micros, sample_rate_hz, channel_count, samples⟩

abbrev LatestAudioCaptureQueue : Type := LatestQueue CapturedAudioFrame

structure WindowsMicrophoneCapture where
  config : AudioCaptureConfig
  queue : LatestAudioCaptureQueue
  next_frame_id : UInt64

/-- What the microphone has when it is asked: nothing yet, or samples and when they were taken. -/
abbrev MicrophoneAnswer : Type := Except String (Option (UInt64 × List Int16))

namespace WindowsMicrophoneCapture

def validateCaptureConfig (config : AudioCaptureConfig) : Except String Unit :=
  if config.sample_rate_hz = 0 then .error "audio capture sample rate must be non-zero"
  else if config.channel_count = 0 then .error "audio capture channel count must be non-zero"
  else if config.frame_duration_ms = 0 then
    .error "audio capture frame duration must be non-zero"
  else .ok ()

/-- The method `open`; `device` is what becomes of opening the device. -/
def openDevice (supported : Bool) (device : Except String Unit) (config : AudioCaptureConfig) :
    Except String WindowsMicrophoneCapture := do
  if supported then .ok () else .error "microphone capture is only available on Windows"
  validateCaptureConfig config
  device
  .ok ⟨config, .new config.queue_capacity, 1⟩

def nextFrame (capture : WindowsMicrophoneCapture) (device : MicrophoneAnswer) :
    WindowsMicrophoneCapture × Except String (Option CapturedAudioFrame) :=
  match capture.queue.popLatest with
  | (queue, some frame) => ({ capture with queue }, .ok (some frame))
  | (_, none) =>
      match device with
      | .error error => (capture, .error error)
      | .ok none => (capture, .ok none)
      | .ok (some (capture_time_micros, samples)) =>
          match CapturedAudioFrame.pcmI16 capture.next_frame_id capture_time_micros
              capture.config.sample_rate_hz capture.config.channel_count samples with
          | .error error => (capture, .error error)
          | .ok frame =>
              ({ capture with next_frame_id := nextFrameId capture.next_frame_id },
                .ok (some frame))

end WindowsMicrophoneCapture

end TeamView.Client
