import TeamView.Lib.RingBuffer
import TeamView.Lib.Runs
import TeamView.Relay.Metrics

set_option autoImplicit false

/-! # Latency samples

The rings of the last 64 latencies that the client keeps for each stage of a pipeline
(`crates/desktop-client/src/stats.rs`), and the broadcaster's statistics made of four of them. The
relay keeps a ring of its own (`crates/relay-server/src/metrics.rs`). Both report percentiles of
the same window: the last 64 values pushed.
-/

namespace TeamView.Client

open MachineInt Runs

/-- `LATENCY_SAMPLE_CAPACITY`. -/
def latencySampleCapacity : Nat := 64

instance : NeZero latencySampleCapacity := ⟨by decide⟩

structure LatencySamples where
  values : Vector Nat latencySampleCapacity
  len : Nat
  next : Fin latencySampleCapacity
  deriving DecidableEq

namespace LatencySamples

/-- `Default` for the ring: no sample, all cells zero. -/
def empty : LatencySamples where
  values := Vector.replicate latencySampleCapacity 0
  len := 0
  next := 0

def push (samples : LatencySamples) (value : Nat) : LatencySamples where
  values := samples.values.set samples.next value
  len := min (samples.len + 1) latencySampleCapacity
  next := samples.next + 1

def percentile (samples : LatencySamples) (percentile : Nat) : Nat :=
  if samples.len = 0 then 0
  else
    let sorted := (samples.values.toList.take samples.len).mergeSort (· ≤ ·)
    let index := divCeil (satMul u32Max (samples.len - 1) (min percentile 100)) 100
    sorted.getD (min index (sorted.length - 1)) 0

end LatencySamples

/-- `duration_to_millis`, of a duration in nanoseconds. -/
def durationToMillis (nanos : Nat) : Nat := min (nanos / 1000000) u16Max

structure BroadcasterTimingSnapshot where
  capture_ms_p50 : Nat
  capture_ms_p95 : Nat
  encode_ms_p50 : Nat
  encode_ms_p95 : Nat
  packetize_ms_p50 : Nat
  packetize_ms_p95 : Nat
  send_ms_p50 : Nat
  send_ms_p95 : Nat
  deriving DecidableEq

structure ClientBroadcasterStats where
  capture_samples_ms : LatencySamples
  encode_samples_ms : LatencySamples
  packetize_samples_ms : LatencySamples
  send_samples_ms : LatencySamples
  deriving DecidableEq

namespace ClientBroadcasterStats

def empty : ClientBroadcasterStats := ⟨.empty, .empty, .empty, .empty⟩

def recordCaptureDuration (stats : ClientBroadcasterStats) (nanos : Nat) :
    ClientBroadcasterStats :=
  { stats with capture_samples_ms := stats.capture_samples_ms.push (durationToMillis nanos) }

def recordEncodeDuration (stats : ClientBroadcasterStats) (nanos : Nat) :
    ClientBroadcasterStats :=
  { stats with encode_samples_ms := stats.encode_samples_ms.push (durationToMillis nanos) }

def recordPacketizeDuration (stats : ClientBroadcasterStats) (nanos : Nat) :
    ClientBroadcasterStats :=
  { stats with packetize_samples_ms := stats.packetize_samples_ms.push (durationToMillis nanos) }

def recordSendDuration (stats : ClientBroadcasterStats) (nanos : Nat) : ClientBroadcasterStats :=
  { stats with send_samples_ms := stats.send_samples_ms.push (durationToMillis nanos) }

def timingSnapshot (stats : ClientBroadcasterStats) : BroadcasterTimingSnapshot where
  capture_ms_p50 := stats.capture_samples_ms.percentile 50
  capture_ms_p95 := stats.capture_samples_ms.percentile 95
  encode_ms_p50 := stats.encode_samples_ms.percentile 50
  encode_ms_p95 := stats.encode_samples_ms.percentile 95
  packetize_ms_p50 := stats.packetize_samples_ms.percentile 50
  packetize_ms_p95 := stats.packetize_samples_ms.percentile 95
  send_ms_p50 := stats.send_samples_ms.percentile 50
  send_ms_p95 := stats.send_samples_ms.percentile 95

end ClientBroadcasterStats

/-! ## The window that a ring holds -/

/-- What the source computes from the cells of a ring is the percentile of the last values: neither
the product nor the index is cut off in a ring of this size. -/
theorem percentile_cells {capacity : Nat} (hcapacity : capacity ≤ 1000)
    {ring : RingBuffer Nat capacity} {pushed : List Nat} (h : ring.Holds pushed)
    (percent : Nat) :
    (if ring.len = 0 then 0
      else (ring.cells.mergeSort (· ≤ ·)).getD
        (min (divCeil (satMul u32Max (ring.len - 1) (min percent 100)) 100)
          ((ring.cells.mergeSort (· ≤ ·)).length - 1)) 0) =
      Percentile.percentile (pushed.rtake capacity) percent := by
  obtain ⟨hlength, hle⟩ := h.length_cells
  have hrank := Percentile.rank_le (ring.len - 1) percent
  have hproduct : satMul u32Max (ring.len - 1) (min percent 100)
      = (ring.len - 1) * min percent 100 := by
    have hbound : (ring.len - 1) * min percent 100 ≤ 1000 * 100 :=
      Nat.mul_le_mul (by omega) (Nat.min_le_right _ _)
    exact Nat.min_eq_left (hbound.trans (by decide))
  have hceil : divCeil (satMul u32Max (ring.len - 1) (min percent 100)) 100
      = (ring.len - 1) * min percent 100 ⌈/⌉ 100 := by
    rw [hproduct, Nat.ceilDiv_eq_add_pred_div]
    rfl
  rw [← Percentile.percentile_congr h.cells_perm, Percentile.percentile, hceil,
    List.length_mergeSort, hlength, Nat.min_eq_left hrank]
  split
  · next hnone =>
      rw [List.eq_nil_of_length_eq_zero (hlength.trans hnone), List.mergeSort_nil, List.getD_nil]
  · rfl

namespace LatencySamples

/-- The ring without its name. -/
def ring (samples : LatencySamples) : RingBuffer Nat latencySampleCapacity :=
  ⟨samples.values, samples.len, samples.next⟩

theorem holds_run (pushed : List Nat) : (run push empty pushed).ring.Holds pushed := by
  have hring : (run push empty pushed).ring = run RingBuffer.push (RingBuffer.empty 0) pushed :=
    run_map push ring RingBuffer.push (fun _ _ => rfl) empty pushed
  rw [hring]
  exact RingBuffer.holds_foldl 0 pushed

theorem percentile_run (pushed : List Nat) (percent : Nat) :
    (run push empty pushed).percentile percent =
      Percentile.percentile (pushed.rtake 64) percent :=
  percentile_cells (by decide) (holds_run pushed) percent

end LatencySamples

end TeamView.Client

namespace TeamView.Relay.RouteLatencySamples

open Runs

def ring (samples : RouteLatencySamples) : RingBuffer Nat routeSampleCapacity :=
  ⟨samples.values, samples.len, samples.next⟩

theorem holds_run (pushed : List Nat) : (run push empty pushed).ring.Holds pushed := by
  have hring : (run push empty pushed).ring = run RingBuffer.push (RingBuffer.empty 0) pushed :=
    run_map push ring RingBuffer.push (fun _ _ => rfl) empty pushed
  rw [hring]
  exact RingBuffer.holds_foldl 0 pushed

theorem percentile_run (pushed : List Nat) (percent : Nat) :
    (run push empty pushed).percentile percent =
      Percentile.percentile (pushed.rtake 64) percent :=
  Client.percentile_cells (by decide) (holds_run pushed) percent

end TeamView.Relay.RouteLatencySamples

namespace TeamView.Client

open TeamView.Relay Runs

/-- Both rings report the percentiles of the last 64 values, which grow with the percentage and do
not depend on the order of these values. -/
theorem latency_percentiles (pushed : List Nat) (percent : Nat) :
    (run RouteLatencySamples.push .empty pushed).percentile percent
        = Percentile.percentile (pushed.rtake 64) percent ∧
      (run LatencySamples.push .empty pushed).percentile percent
        = Percentile.percentile (pushed.rtake 64) percent ∧
      (∀ percent', percent ≤ percent' →
        (run LatencySamples.push .empty pushed).percentile percent ≤
          (run LatencySamples.push .empty pushed).percentile percent' ∧
        (run RouteLatencySamples.push .empty pushed).percentile percent ≤
          (run RouteLatencySamples.push .empty pushed).percentile percent') ∧
      ∀ pushed' : List Nat, (pushed'.rtake 64).Perm (pushed.rtake 64) →
        (run LatencySamples.push .empty pushed').percentile percent =
            (run LatencySamples.push .empty pushed).percentile percent ∧
          (run RouteLatencySamples.push .empty pushed').percentile percent =
            (run RouteLatencySamples.push .empty pushed).percentile percent := by
  simp only [RouteLatencySamples.percentile_run, LatencySamples.percentile_run, and_self, true_and]
  constructor
  · intro percent' hle
    exact Percentile.percentile_mono _ hle
  · intro pushed' hperm
    exact Percentile.percentile_congr hperm percent

/-! ## The stages of a broadcaster -/

/-- What a broadcaster times. -/
inductive Stage
  | capture
  | encode
  | packetize
  | send
  deriving DecidableEq

namespace ClientBroadcasterStats

/-- Recording the duration of a stage. -/
def record (stats : ClientBroadcasterStats) : Stage × Nat → ClientBroadcasterStats
  | (.capture, nanos) => stats.recordCaptureDuration nanos
  | (.encode, nanos) => stats.recordEncodeDuration nanos
  | (.packetize, nanos) => stats.recordPacketizeDuration nanos
  | (.send, nanos) => stats.recordSendDuration nanos

def samples (stats : ClientBroadcasterStats) : Stage → LatencySamples
  | .capture => stats.capture_samples_ms
  | .encode => stats.encode_samples_ms
  | .packetize => stats.packetize_samples_ms
  | .send => stats.send_samples_ms

/-- The milliseconds recorded for a stage. -/
def recordedMs (stage : Stage) (recordings : List (Stage × Nat)) : List Nat :=
  (recordings.filter (·.1 = stage)).map fun recording => durationToMillis recording.2

/-- A recording reaches the ring of its own stage only. -/
theorem samples_record (stats : ClientBroadcasterStats) (recording : Stage × Nat) (stage : Stage) :
    (stats.record recording).samples stage =
      run LatencySamples.push (stats.samples stage) (recordedMs stage [recording]) := by
  obtain ⟨recorded, nanos⟩ := recording
  cases recorded <;> cases stage <;> rfl

theorem samples_run (stage : Stage) (stats : ClientBroadcasterStats)
    (recordings : List (Stage × Nat)) :
    (run record stats recordings).samples stage =
      run LatencySamples.push (stats.samples stage) (recordedMs stage recordings) := by
  induction recordings generalizing stats with
  | nil => rfl
  | cons recording recordings ih =>
      have hsplit : recordedMs stage (recording :: recordings)
          = recordedMs stage [recording] ++ recordedMs stage recordings := by
        rw [recordedMs, ← List.singleton_append, List.filter_append, List.map_append]
        rfl
      rw [run_cons, ih, samples_record, hsplit, run_append]

/-- The report on a broadcaster's stages is about the last 64 durations of each. -/
theorem timingSnapshot_run (recordings : List (Stage × Nat)) :
    (run record empty recordings).timingSnapshot =
      let reported stage percent :=
        Percentile.percentile ((recordedMs stage recordings).rtake 64) percent
      { capture_ms_p50 := reported .capture 50
        capture_ms_p95 := reported .capture 95
        encode_ms_p50 := reported .encode 50
        encode_ms_p95 := reported .encode 95
        packetize_ms_p50 := reported .packetize 50
        packetize_ms_p95 := reported .packetize 95
        send_ms_p50 := reported .send 50
        send_ms_p95 := reported .send 95 } := by
  have hstage : ∀ stage percent, ((run record empty recordings).samples stage).percentile percent
      = Percentile.percentile ((recordedMs stage recordings).rtake 64) percent := by
    intro stage percent
    have hempty : empty.samples stage = .empty := by cases stage <;> rfl
    rw [samples_run, hempty, LatencySamples.percentile_run]
  simp only [← hstage]
  rfl

end ClientBroadcasterStats

end TeamView.Client
