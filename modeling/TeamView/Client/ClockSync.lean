import TeamView.Lib.MachineInt
import TeamView.Protocol.Control

set_option autoImplicit false

/-! # Clock synchronisation

A client estimates how far the clock of the relay is ahead of its own from four timestamps
(`estimate_clock_sync` in `crates/desktop-client/src/main.rs`), and a viewer turns capture and
receive times into a latency with the estimates of both ends (`record_calibrated_latency` in
`stats.rs`). The delays of the two ways need not be equal: half of the round trip bounds the error
of an estimate, and the errors of both ends bound that of a latency.
-/

namespace TeamView.Client

open TeamView.Protocol MachineInt

structure ClockSyncEstimate where
  rtt_micros : Nat
  rtt_ms : Nat
  clock_offset_micros : Int64
  deriving DecidableEq

def microsToMillis (micros : Nat) : Nat := min (micros / 1000) u16Max

def i64Min : Int := -9223372036854775808
def i64Max : Int := 9223372036854775807

/-- `clamp` to the range of an `i64` and the cast that follows it. -/
def clampToI64 (a : Int) : Int64 := Int64.ofInt (max i64Min (min a i64Max))

def estimateClockSync (sync : TimeSyncResponse) (client_receive_time_micros : Nat) :
    ClockSyncEstimate :=
  let client_elapsed_micros := client_receive_time_micros - sync.client_send_time_micros
  let server_processing_micros := sync.server_send_time_micros - sync.server_receive_time_micros
  let rtt_micros := client_elapsed_micros - server_processing_micros
  let client_midpoint : Int :=
    (sync.client_send_time_micros : Int) + (client_elapsed_micros / 2 : Nat)
  let server_midpoint : Int :=
    (sync.server_receive_time_micros : Int) + (server_processing_micros / 2 : Nat)
  { rtt_micros := rtt_micros
    rtt_ms := microsToMillis rtt_micros
    clock_offset_micros := clampToI64 (server_midpoint - client_midpoint) }

/-- `min_by_key`: the first one of several that are equally good. -/
def selectBestClockSyncEstimate (samples : List (UInt8 × ClockSyncEstimate)) :
    Option (UInt8 × ClockSyncEstimate) :=
  samples.minOn? fun sample => sample.2.rtt_micros

/-- The latencies among the statistics of a viewer. -/
structure LatencyStats where
  estimated_latency_ms : Nat
  calibrated_latency_ms : Nat
  deriving DecidableEq

namespace LatencyStats

def recordEstimatedLatency (stats : LatencyStats)
    (sender_capture_time_micros receive_time_micros : UInt64) : LatencyStats :=
  if sender_capture_time_micros = 0 ∨ receive_time_micros < sender_capture_time_micros then stats
  else
    { stats with
      estimated_latency_ms :=
        min ((receive_time_micros.toNat - sender_capture_time_micros.toNat) / 1000) u16Max }

def recordCalibratedLatency (stats : LatencyStats) (sender_capture_time_micros : UInt64)
    (sender_clock_offset_micros : Int64) (receive_time_micros : UInt64)
    (receiver_clock_offset_micros : Int64) : LatencyStats :=
  if sender_capture_time_micros = 0 then stats
  else
    let sender_capture_relay_micros : Int :=
      sender_capture_time_micros.toNat + sender_clock_offset_micros.toInt
    let receiver_receive_relay_micros : Int :=
      receive_time_micros.toNat + receiver_clock_offset_micros.toInt
    if receiver_receive_relay_micros < sender_capture_relay_micros then stats
    else
      { stats with
        calibrated_latency_ms :=
          (min ((receiver_receive_relay_micros - sender_capture_relay_micros) / 1000)
            u16Max).toNat }

end LatencyStats

/-! ## One exchange -/

/-- An exchange of times as it happens: the clock of the relay is `clock_offset` ahead of that of
the client, and every timestamp fits. -/
structure SyncExchange where
  clock_offset : Int64
  client_send_time_micros : Nat
  delay_to_server : Nat
  server_processing : Nat
  delay_to_client : Nat
  server_starts : 0 ≤ (client_send_time_micros : Int) + clock_offset.toInt + delay_to_server
  server_fits : (client_send_time_micros : Int) + clock_offset.toInt + delay_to_server
    + server_processing ≤ u64Max
  client_fits : client_send_time_micros + delay_to_server + server_processing + delay_to_client
    ≤ u64Max

namespace SyncExchange

variable (exchange : SyncExchange)

/-- The clock of the relay when the request arrives. -/
def serverReceiveTime : Nat :=
  ((exchange.client_send_time_micros : Int) + exchange.clock_offset.toInt
    + exchange.delay_to_server).toNat

def response : TimeSyncResponse where
  client_send_time_micros := exchange.client_send_time_micros
  server_receive_time_micros := exchange.serverReceiveTime
  server_send_time_micros := exchange.serverReceiveTime + exchange.server_processing

/-- The clock of the client when the response arrives. -/
def clientReceiveTime : Nat :=
  exchange.client_send_time_micros + exchange.delay_to_server + exchange.server_processing
    + exchange.delay_to_client

def estimate : ClockSyncEstimate := estimateClockSync exchange.response exchange.clientReceiveTime

end SyncExchange

/-- How far an estimate can be off. -/
def ClockSyncEstimate.errorBound (estimate : ClockSyncEstimate) : Nat := estimate.rtt_micros / 2 + 1

theorem toInt_clampToI64 (a : Int) : (clampToI64 a).toInt = max i64Min (min a i64Max) := by
  refine Int64.toInt_ofInt_of_le ?_ ?_
  · exact le_max_left _ _
  · unfold i64Min i64Max
    omega

/-- Clamping brings a number no further away from one in the range. -/
theorem abs_clampToI64_sub_le (a : Int) (b : Int64) :
    |(clampToI64 a).toInt - b.toInt| ≤ |a - b.toInt| := by
  have hlow : i64Min ≤ b.toInt := Int64.le_toInt b
  have hhigh : b.toInt ≤ i64Max := Int64.toInt_le b
  have hself := le_abs_self (a - b.toInt)
  have hneg := neg_abs_le (a - b.toInt)
  rw [toInt_clampToI64, abs_le]
  unfold i64Min i64Max at *
  constructor
  · omega
  · omega

namespace SyncExchange

theorem serverReceiveTime_eq (exchange : SyncExchange) : (exchange.serverReceiveTime : Int) =
    exchange.client_send_time_micros + exchange.clock_offset.toInt + exchange.delay_to_server :=
  Int.toNat_of_nonneg exchange.server_starts

theorem client_elapsed (exchange : SyncExchange) :
    exchange.clientReceiveTime - exchange.client_send_time_micros =
      exchange.delay_to_server + exchange.server_processing + exchange.delay_to_client := by
  unfold clientReceiveTime
  omega

theorem server_elapsed (exchange : SyncExchange) :
    exchange.serverReceiveTime + exchange.server_processing - exchange.serverReceiveTime =
      exchange.server_processing :=
  Nat.add_sub_cancel_left _ _

/-- The round trip is what both ways take, without the processing. -/
theorem estimate_rtt (exchange : SyncExchange) :
    exchange.estimate.rtt_micros = exchange.delay_to_server + exchange.delay_to_client := by
  show exchange.clientReceiveTime - exchange.client_send_time_micros
    - (exchange.serverReceiveTime + exchange.server_processing - exchange.serverReceiveTime) = _
  rw [client_elapsed, server_elapsed]
  omega

theorem estimate_error (exchange : SyncExchange) :
    |exchange.estimate.clock_offset_micros.toInt - exchange.clock_offset.toInt|
      ≤ exchange.estimate.errorBound := by
  have hserver := exchange.serverReceiveTime_eq
  -- the midpoints miss each other by half of what the two ways differ, and by the rounding
  have hmidpoints :
      |(exchange.serverReceiveTime + (exchange.server_processing / 2 : Nat) : Int)
          - (exchange.client_send_time_micros + ((exchange.delay_to_server
            + exchange.server_processing + exchange.delay_to_client) / 2 : Nat))
          - exchange.clock_offset.toInt|
        ≤ ((exchange.delay_to_server + exchange.delay_to_client) / 2 + 1 : Nat) := by
    rw [hserver, abs_le]
    constructor
    · omega
    · omega
  unfold ClockSyncEstimate.errorBound
  rw [estimate_rtt]
  refine le_trans (abs_clampToI64_sub_le _ _) ?_
  show |(exchange.serverReceiveTime + ((exchange.serverReceiveTime + exchange.server_processing
      - exchange.serverReceiveTime) / 2 : Nat) : Int)
    - (exchange.client_send_time_micros + ((exchange.clientReceiveTime
      - exchange.client_send_time_micros) / 2 : Nat)) - exchange.clock_offset.toInt| ≤ _
  rw [client_elapsed, server_elapsed]
  exact hmidpoints

end SyncExchange

/-! ## The best sample -/

theorem errorBound_mono {estimate estimate' : ClockSyncEstimate}
    (h : estimate.rtt_micros ≤ estimate'.rtt_micros) :
    estimate.errorBound ≤ estimate'.errorBound := by
  unfold ClockSyncEstimate.errorBound
  omega

/-- Of some samples one with the smallest bound is selected. -/
theorem select_least {samples : List (UInt8 × ClockSyncEstimate)} (hsome : samples ≠ []) :
    ∃ sample ∈ samples, selectBestClockSyncEstimate samples = some sample ∧
      ∀ other ∈ samples, sample.2.errorBound ≤ other.2.errorBound := by
  obtain ⟨sample, hselect⟩ := Option.isSome_iff_exists.mp
    ((List.isSome_minOn?_iff (f := fun sample => sample.2.rtt_micros)).mpr hsome)
  refine ⟨sample, List.minOn?_mem hselect, hselect, ?_⟩
  intro other hother
  have hle := List.apply_get_minOn?_le_of_mem
    (f := fun sample : UInt8 × ClockSyncEstimate => sample.2.rtt_micros) hother
  simp only [hselect, Option.get_some] at hle
  exact errorBound_mono hle

/-- An offset that comes from the best of some exchanges with a relay, whose clock is
`clock_offset` ahead, with its bound. A refreshed offset comes from one exchange. -/
def Calibrated (clock_offset_micros clock_offset : Int64) (bound : Nat) : Prop :=
  ∃ exchanges : List (UInt8 × SyncExchange),
    (∀ exchange ∈ exchanges, exchange.2.clock_offset = clock_offset) ∧
    ∃ sample, selectBestClockSyncEstimate
        (exchanges.map fun exchange => (exchange.1, exchange.2.estimate)) = some sample ∧
      sample.2.clock_offset_micros = clock_offset_micros ∧ sample.2.errorBound = bound

theorem Calibrated.error {clock_offset_micros clock_offset : Int64} {bound : Nat}
    (h : Calibrated clock_offset_micros clock_offset bound) :
    |clock_offset_micros.toInt - clock_offset.toInt| ≤ bound := by
  obtain ⟨exchanges, hrelay, sample, hselect, rfl, rfl⟩ := h
  obtain ⟨exchange, hexchange, rfl⟩ := List.mem_map.mp (List.minOn?_mem hselect)
  rw [← hrelay exchange hexchange]
  exact exchange.2.estimate_error

/-! ## The latency of a frame -/

/-- What makes `record_calibrated_latency` update the value. -/
def Calibrates (sender_capture_time_micros : UInt64) (sender_clock_offset_micros : Int64)
    (receive_time_micros : UInt64) (receiver_clock_offset_micros : Int64) : Prop :=
  sender_capture_time_micros ≠ 0 ∧
    (sender_capture_time_micros.toNat : Int) + sender_clock_offset_micros.toInt ≤
      receive_time_micros.toNat + receiver_clock_offset_micros.toInt

namespace LatencyStats

variable {sender_capture_time_micros receive_time_micros : UInt64}
  {sender_clock_offset_micros receiver_clock_offset_micros : Int64}

theorem recordCalibratedLatency_eq (stats : LatencyStats)
    (h : Calibrates sender_capture_time_micros sender_clock_offset_micros receive_time_micros
      receiver_clock_offset_micros) :
    stats.recordCalibratedLatency sender_capture_time_micros sender_clock_offset_micros
        receive_time_micros receiver_clock_offset_micros =
      { stats with
        calibrated_latency_ms :=
          (min (((receive_time_micros.toNat + receiver_clock_offset_micros.toInt : Int)
            - (sender_capture_time_micros.toNat + sender_clock_offset_micros.toInt)) / 1000)
            u16Max).toNat } := by
  unfold recordCalibratedLatency
  rw [if_neg h.1]
  exact if_neg (Int.not_lt.mpr h.2)

/-- Nothing else is updated. -/
theorem recordCalibratedLatency_of_not (stats : LatencyStats)
    (h : ¬ Calibrates sender_capture_time_micros sender_clock_offset_micros receive_time_micros
      receiver_clock_offset_micros) :
    stats.recordCalibratedLatency sender_capture_time_micros sender_clock_offset_micros
      receive_time_micros receiver_clock_offset_micros = stats := by
  unfold recordCalibratedLatency
  split
  · rfl
  · next hcapture =>
      refine if_pos ?_
      exact Int.not_le.mp fun hle => h ⟨hcapture, hle⟩

/-- Between clocks that need no correction both latencies are the same. -/
theorem recordCalibratedLatency_zero (stats : LatencyStats) :
    (stats.recordCalibratedLatency sender_capture_time_micros 0 receive_time_micros
        0).calibrated_latency_ms = stats.calibrated_latency_ms ∧
        (stats.recordEstimatedLatency sender_capture_time_micros
          receive_time_micros).estimated_latency_ms = stats.estimated_latency_ms ∨
      (stats.recordCalibratedLatency sender_capture_time_micros 0 receive_time_micros
          0).calibrated_latency_ms =
        (stats.recordEstimatedLatency sender_capture_time_micros
          receive_time_micros).estimated_latency_ms := by
  have hzero : (0 : Int64).toInt = 0 := rfl
  by_cases h : Calibrates sender_capture_time_micros 0 receive_time_micros 0
  · right
    have hle := h.2
    rw [hzero, Int.add_zero, Int.add_zero] at hle
    have hnot : ¬ (sender_capture_time_micros = 0 ∨
        receive_time_micros < sender_capture_time_micros) := by
      rintro (hcapture | hlt)
      · exact h.1 hcapture
      · rw [UInt64.lt_iff_toNat_lt] at hlt
        omega
    rw [recordCalibratedLatency_eq stats h, recordEstimatedLatency, if_neg hnot, hzero]
    dsimp only
    omega
  · left
    refine ⟨by rw [recordCalibratedLatency_of_not stats h], ?_⟩
    unfold recordEstimatedLatency
    split
    · rfl
    · next hnot =>
        rw [not_or, UInt64.not_lt, UInt64.le_iff_toNat_le] at hnot
        refine absurd ⟨hnot.1, ?_⟩ h
        rw [hzero]
        omega

/-- The recorded latency is as exact as both offsets and the rounding allow. -/
theorem recordCalibratedLatency_error (stats : LatencyStats)
    (h : Calibrates sender_capture_time_micros sender_clock_offset_micros receive_time_micros
      receiver_clock_offset_micros)
    {sender_offset receiver_offset : Int64} {sender_bound receiver_bound : Nat}
    (hsender : |sender_clock_offset_micros.toInt - sender_offset.toInt| ≤ sender_bound)
    (hreceiver : |receiver_clock_offset_micros.toInt - receiver_offset.toInt| ≤ receiver_bound)
    {latency : Int} (hlatency : latency = (receive_time_micros.toNat + receiver_offset.toInt : Int)
      - (sender_capture_time_micros.toNat + sender_offset.toInt))
    (hshort : latency ≤ 65000 * 1000) (hbounds : sender_bound + receiver_bound < 500 * 1000) :
    |((stats.recordCalibratedLatency sender_capture_time_micros sender_clock_offset_micros
        receive_time_micros receiver_clock_offset_micros).calibrated_latency_ms : Int) * 1000
      - latency| < sender_bound + receiver_bound + 1000 := by
  have hle := h.2
  rw [abs_le] at hsender hreceiver
  rw [recordCalibratedLatency_eq stats h, abs_lt]
  dsimp only
  have htop : (u16Max : Int) = 65535 := rfl
  constructor
  · omega
  · omega

end LatencyStats

/-- The errors of clock synchronisation: half a round trip for an estimate, the least of them for
the selected sample, and those of both ends for a latency. -/
theorem clock_sync_errors :
    (∀ exchange : SyncExchange,
      exchange.estimate.rtt_micros = exchange.delay_to_server + exchange.delay_to_client ∧
        |exchange.estimate.clock_offset_micros.toInt - exchange.clock_offset.toInt|
          ≤ (exchange.estimate.rtt_micros / 2 + 1 : Nat)) ∧
    (∀ samples : List (UInt8 × ClockSyncEstimate), samples ≠ [] →
      ∃ sample ∈ samples, selectBestClockSyncEstimate samples = some sample ∧
        ∀ other ∈ samples, sample.2.errorBound ≤ other.2.errorBound) ∧
    ∀ (stats : LatencyStats) (sender_capture_time_micros receive_time_micros : UInt64)
      (sender_clock_offset_micros receiver_clock_offset_micros : Int64)
      (sender_offset receiver_offset : Int64) (sender_bound receiver_bound : Nat),
      Calibrated sender_clock_offset_micros sender_offset sender_bound →
      Calibrated receiver_clock_offset_micros receiver_offset receiver_bound →
      Calibrates sender_capture_time_micros sender_clock_offset_micros receive_time_micros
        receiver_clock_offset_micros →
      (receive_time_micros.toNat + receiver_offset.toInt : Int)
        - (sender_capture_time_micros.toNat + sender_offset.toInt) ≤ 65000 * 1000 →
      sender_bound + receiver_bound < 500 * 1000 →
      |((stats.recordCalibratedLatency sender_capture_time_micros sender_clock_offset_micros
          receive_time_micros receiver_clock_offset_micros).calibrated_latency_ms : Int) * 1000
        - ((receive_time_micros.toNat + receiver_offset.toInt : Int)
          - (sender_capture_time_micros.toNat + sender_offset.toInt))|
        < sender_bound + receiver_bound + 1000 := by
  refine ⟨fun exchange => ⟨exchange.estimate_rtt, exchange.estimate_error⟩,
    fun samples hsome => select_least hsome, ?_⟩
  intro stats _ _ _ _ _ _ _ _ hsender hreceiver hcalibrates hshort hbounds
  exact stats.recordCalibratedLatency_error hcalibrates hsender.error hreceiver.error rfl hshort
    hbounds

/-- The request takes 700 microseconds and the response 500. -/
def slowerRequest : SyncExchange :=
  ⟨100, 1000, 700, 200, 500, by decide, by decide, by decide⟩

theorem clock_sync_errors_slower_request :
    slowerRequest.estimate.rtt_micros = 1200 ∧
      (∃ sample ∈ [((1 : UInt8), slowerRequest.estimate)],
        selectBestClockSyncEstimate [(1, slowerRequest.estimate)] = some sample ∧
          ∀ other ∈ [((1 : UInt8), slowerRequest.estimate)],
            sample.2.errorBound ≤ other.2.errorBound) ∧
      |(((⟨0, 0⟩ : LatencyStats).recordCalibratedLatency 1000000 200 1123456
        200).calibrated_latency_ms : Int) * 1000 - 123456| < 2202 := by
  have hcalibrated : Calibrated 200 100 601 :=
    ⟨[(1, slowerRequest)], by simp [slowerRequest], (1, slowerRequest.estimate), rfl, by decide,
      by decide⟩
  obtain ⟨hestimate, hselect, hlatency⟩ := clock_sync_errors
  refine ⟨(hestimate slowerRequest).1, hselect _ (List.cons_ne_nil _ _), ?_⟩
  exact hlatency ⟨0, 0⟩ 1000000 1123456 200 200 100 100 601 601 hcalibrated hcalibrated
    ⟨by decide, by decide⟩ (by decide) (by decide)

end TeamView.Client
