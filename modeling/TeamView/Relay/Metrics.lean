import Mathlib.Tactic
import TeamView.Protocol.Control
import TeamView.Lib.MachineInt

set_option autoImplicit false

/-! # Forwarding metrics

Per-stream ingress and egress counters and the ring of the last 64 route latencies
(`crates/relay-server/src/metrics.rs`). The write position of the ring is an element of
`Fin routeSampleCapacity`, so the indexed write of `push` cannot be out of bounds.
-/

namespace TeamView.Relay

open TeamView.Protocol MachineInt

/-- `ROUTE_SAMPLE_CAPACITY`. -/
def routeSampleCapacity : Nat := 64

instance : NeZero routeSampleCapacity := ⟨by decide⟩

structure RouteLatencySamples where
  values : Vector Nat routeSampleCapacity
  len : Nat
  next : Fin routeSampleCapacity
  deriving DecidableEq

namespace RouteLatencySamples

/-- `Default` for the ring: no sample, all cells zero. -/
def empty : RouteLatencySamples where
  values := Vector.replicate routeSampleCapacity 0
  len := 0
  next := 0

def push (samples : RouteLatencySamples) (value : Nat) : RouteLatencySamples where
  values := samples.values.set samples.next value
  len := min (samples.len + 1) routeSampleCapacity
  next := samples.next + 1

def percentile (samples : RouteLatencySamples) (percentile : Nat) : Nat :=
  if samples.len = 0 then 0
  else
    let sorted := (samples.values.toList.take samples.len).mergeSort (· ≤ ·)
    let index := divCeil (satMul u32Max (samples.len - 1) (min percentile 100)) 100
    sorted.getD (min index (sorted.length - 1)) 0

end RouteLatencySamples

structure StreamForwardingMetrics where
  ingress_packets : Nat
  ingress_bytes : Nat
  egress_queued_packets : Nat
  egress_dropped_packets : Nat
  last_ingress_time_micros : Nat
  server_route_samples_ms : RouteLatencySamples
  deriving DecidableEq

namespace StreamForwardingMetrics

def empty : StreamForwardingMetrics where
  ingress_packets := 0
  ingress_bytes := 0
  egress_queued_packets := 0
  egress_dropped_packets := 0
  last_ingress_time_micros := 0
  server_route_samples_ms := .empty

def recordForwarding (metrics : StreamForwardingMetrics)
    (ingress_bytes queued_packets dropped_packets received_at_micros server_route_ms : Nat) :
    StreamForwardingMetrics where
  ingress_packets := satAdd u64Max metrics.ingress_packets 1
  ingress_bytes := satAdd u64Max metrics.ingress_bytes ingress_bytes
  egress_queued_packets := satAdd u64Max metrics.egress_queued_packets queued_packets
  egress_dropped_packets := satAdd u64Max metrics.egress_dropped_packets dropped_packets
  last_ingress_time_micros := received_at_micros
  server_route_samples_ms := metrics.server_route_samples_ms.push server_route_ms

def snapshot (metrics : StreamForwardingMetrics) (room_id : RoomId) (stream_id : StreamId)
    (subscriber_count : Nat) : StreamMetricsSnapshot where
  room_id := room_id
  stream_id := stream_id
  ingress_packets := metrics.ingress_packets
  ingress_bytes := metrics.ingress_bytes
  egress_queued_packets := metrics.egress_queued_packets
  egress_dropped_packets := metrics.egress_dropped_packets
  egress_queue_packets := 0
  egress_queue_media_ms := 0
  subscriber_count := subscriber_count
  last_ingress_time_micros := metrics.last_ingress_time_micros
  server_route_ms_p50 := metrics.server_route_samples_ms.percentile 50
  server_route_ms_p95 := metrics.server_route_samples_ms.percentile 95

end StreamForwardingMetrics

/-- The report of one fan-out (`crates/relay-server/src/media.rs`), which the control state
records. -/
structure MediaForwardSummary where
  stream_id : StreamId
  queued : Nat
  dropped : Nat
  deriving DecidableEq

/-- `micros_delta_to_millis` of the relay: whole milliseconds, zero when the clock went back. -/
def microsDeltaToMillis (start_micros end_micros : Nat) : Nat :=
  min ((end_micros - start_micros) / 1000) u16Max

end TeamView.Relay
