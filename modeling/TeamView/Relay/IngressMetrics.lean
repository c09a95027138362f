import TeamView.Relay.MediaIsolation
import TeamView.Relay.Runtime
import TeamView.Relay.StreamMaps

set_option autoImplicit false

/-! # What the ingress counters count

`handle_media_datagram` hands a packet to `forward_media_packet` and records the summary that
comes back (`record_media_forward_summary`). The summary of a packet that the checks before the
fan-out reject looks like that of a packet dropped for one viewer, so the record counts it too:
the counters of a stream count every packet that arrives for it, whoever sent it
(`run_ingress`). They count the publisher's accepted packets exactly when no other packet arrives
(`ingress_counts_accepted_iff`).
-/

namespace TeamView.Relay

open TeamView.Protocol BTree MachineInt Runs

/-! ## The checks before the fan-out -/

/-- The sender publishes the stream of the packet, the codec and the type of the packet are the
stream's, and a voice publisher is neither muted nor inactive. -/
def passesChecks (state : ControlState) (sender : UserId) (packet : MediaPacket) : Bool :=
  (state.publishedStream packet.header.streamId).any fun published =>
    decide (published.publisher_id = sender) &&
    decide (published.codec = packet.header.codec) &&
    decide (mediaKindPacketType published.media_kind = packet.header.packet_type) &&
    (decide (published.media_kind ≠ .voice) ||
      state.voicePublisherCanSend packet.header.streamId sender)

theorem forwardMediaPacket_of_not_passes {state : ControlState} {sender : UserId}
    {packet : MediaPacket} (h : passesChecks state sender packet = false) (relay : MediaRelay)
    (received : UInt64) :
    relay.forwardMediaPacket state sender packet received =
      (relay, MediaRelay.rejectedSummary packet.header.streamId) := by
  unfold MediaRelay.forwardMediaPacket
  unfold passesChecks at h
  simp only
  cases hpublished : state.publishedStream packet.header.streamId with
  | none => rfl
  | some published =>
      rw [hpublished, Option.any_some] at h
      simp only
      split
      · rfl
      · next hsame =>
          split
          · rfl
          · next hvoice =>
              -- with these checks passed, the packet passes them all
              exfalso
              simp only [not_or, not_not] at hsame
              obtain ⟨hpublisher, hcodec, htype⟩ := hsame
              rw [not_and] at hvoice
              by_cases hkind : published.media_kind = .voice
              · have hcan := Bool.eq_true_of_not_eq_false (hvoice hkind)
                simp [hpublisher, hcodec, htype, hcan] at h
              · simp [hpublisher, hcodec, htype, hkind] at h

/-! ## Arriving packets -/

namespace RelayRuntime

variable {runtime : RelayRuntime} {s : StreamId} {event : RuntimeEvent}

/-- The packet that an event hands to `forward_media_packet`, with its sender. -/
def arriving (runtime : RelayRuntime) : RuntimeEvent → Option (UserId × MediaPacket)
  | .datagram i bytes _ _ =>
      if runtime.max_datagram_payload < bytes.length then none
      else
        match (runtime.system.sessions i).user_id with
        | none => none
        | some user_id =>
            if (runtime.system.sessions i).access_granted = false then none
            else
              match MediaPacket.decode bytes with
              | some (.ok packet) => some (user_id, packet)
              | _ => none
  | _ => none

def datagramBytes : RuntimeEvent → Nat
  | .datagram _ bytes _ _ => bytes.length
  | _ => 0

/-- A packet of the published stream `s` arrives and goes to the fan-out. -/
def acceptedFor (s : StreamId) (runtime : RelayRuntime) (event : RuntimeEvent) : Bool :=
  (runtime.arriving event).any fun arrival =>
    arrival.2.header.streamId == s &&
      passesChecks runtime.system.control arrival.1 arrival.2

/-- A packet of the published stream `s` arrives and is rejected before the fan-out. -/
def rejectedFor (s : StreamId) (runtime : RelayRuntime) (event : RuntimeEvent) : Bool :=
  (runtime.arriving event).any fun arrival =>
    arrival.2.header.streamId == s &&
      (runtime.system.control.publishedStream s).isSome &&
      !passesChecks runtime.system.control arrival.1 arrival.2

/-- A packet of the published stream `s` arrives. -/
def arrivesFor (s : StreamId) (runtime : RelayRuntime) (event : RuntimeEvent) : Bool :=
  (runtime.arriving event).any fun arrival =>
    arrival.2.header.streamId == s && (runtime.system.control.publishedStream s).isSome

def metricsOf (s : StreamId) (runtime : RelayRuntime) : StreamForwardingMetrics :=
  (runtime.system.control.stream_metrics[s]?).getD .empty

/-- The packets of `s` that a run accepts for the fan-out. -/
def acceptedPackets (s : StreamId) (runtime : RelayRuntime) (events : List RuntimeEvent) : Nat :=
  sumSteps step (fun runtime event => (acceptedFor s runtime event).toNat) runtime events

/-- The bytes of the datagrams of these packets. -/
def acceptedBytes (s : StreamId) (runtime : RelayRuntime) (events : List RuntimeEvent) : Nat :=
  sumSteps step
    (fun runtime event => if acceptedFor s runtime event then datagramBytes event else 0)
    runtime events

/-! ## What one event does to the counters -/

/-- A datagram whose packet arrives is forwarded and recorded; any other has no effect. -/
theorem step_datagram (runtime : RelayRuntime) (i : Nat) (bytes : List UInt8)
    (received : UInt64) (now : Nat) :
    runtime.step (.datagram i bytes received now) =
      match runtime.arriving (.datagram i bytes received now) with
      | none => runtime
      | some (sender, packet) =>
          { runtime with
            media := (runtime.media.forwardMediaPacket runtime.system.control sender packet
              received).1
            system := runtime.system.step (.recordForward packet
              (runtime.media.forwardMediaPacket runtime.system.control sender packet received).2
              bytes.length received.toNat (microsDeltaToMillis received.toNat now)) } := by
  simp only [step, handleMediaDatagram, arriving]
  by_cases hlarge : runtime.max_datagram_payload < bytes.length
  · rw [if_pos hlarge, if_pos hlarge]
  · rw [if_neg hlarge, if_neg hlarge]
    cases (runtime.system.sessions i).user_id with
    | none => rfl
    | some u =>
        simp only
        by_cases haccess : (runtime.system.sessions i).access_granted = false
        · rw [if_pos haccess, if_pos haccess]
        · rw [if_neg haccess, if_neg haccess]
          cases MediaPacket.decode bytes with
          | none => rfl
          | some decoded =>
              cases decoded with
              | error error => rfl
              | ok packet => rfl

/-- Only a forwarding record writes metrics; requests keep them, or drop them with the stream. -/
theorem handleMessage_metrics {state : ControlState} (hrooms : ControlState.RoomsOk state)
    (session : Session) (clock : Clock) (message : ClientControl) :
    ControlState.Survives ControlState.stream_metrics s state
      (state.handleMessage session clock message).state := by
  cases message with
  | leaveRoom request =>
      show ControlState.Survives ControlState.stream_metrics s state
        (state.leave session request).1
      unfold ControlState.leave
      split
      · exact ControlState.survives_of_eq rfl
      · exact ControlState.streamMap_metrics.survives_leaveRoom hrooms _ _
  | unpublishStream request =>
      exact ControlState.streamMap_metrics.survives_unpublishStream hrooms session request
  | _ =>
      -- the other handlers write maps of their own
      apply ControlState.survives_of_eq
      simp only [ControlState.handleMessage, ControlState.Handled.of, ControlState.hello,
        ControlState.authenticate, ControlState.createRoom, ControlState.joinRoom,
        ControlState.publishStream, ControlState.subscribeStream,
        ControlState.unsubscribeStream, ControlState.setVoiceState,
        ControlState.setStreamConfig, ControlState.viewerStats, ControlState.setTargetBitrate,
        ControlState.setTargetFramerate, ControlState.requestKeyframe,
        ControlState.pollPublisherFeedback, ControlState.adaptivePublisherFeedback,
        ControlState.updateStreamTarget, ControlState.sendRemoteInput,
        ControlState.pollRemoteInput, ControlState.drainRemoteInput]
      repeat' split
      all_goals rfl

/-- A record about `t` leaves the entries of the other streams alone. -/
theorem get_recordMediaForwardSummary (state : ControlState) (packet : MediaPacket)
    (summary : MediaForwardSummary) (bytes received route : Nat) :
    (state.recordMediaForwardSummary packet summary bytes received route).stream_metrics[s]? =
      if packet.header.streamId = s ∧ (state.publishedStream s).isSome = true then
        some (((state.stream_metrics[s]?).getD .empty).recordForwarding bytes summary.queued
          summary.dropped received route)
      else state.stream_metrics[s]? := by
  unfold ControlState.recordMediaForwardSummary
  simp only
  by_cases hs : packet.header.streamId = s
  · subst hs
    by_cases hpublished : (state.publishedStream packet.header.streamId).isSome = true
    · have hsome : ¬ (state.publishedStream packet.header.streamId).isNone = true := by
        rw [Option.isNone_iff_eq_none, ← Option.not_isSome_iff_eq_none]
        exact not_not.mpr hpublished
      rw [if_neg hsome, if_pos ⟨rfl, hpublished⟩]
      exact (get_insert _ _ _ _).trans (if_pos rfl)
    · have hnone : (state.publishedStream packet.header.streamId).isNone = true := by
        rw [Option.isNone_iff_eq_none, ← Option.not_isSome_iff_eq_none]
        exact hpublished
      rw [if_pos hnone, if_neg fun hboth => hpublished hboth.2]
  · have hother : ¬ (packet.header.streamId = s ∧ (state.publishedStream s).isSome = true) :=
      fun hboth => hs hboth.1
    rw [if_neg hother]
    split
    · rfl
    · exact (get_insert _ _ _ _).trans (if_neg (Ne.symm hs))

/-- A packet of `s` that arrives is recorded, whatever became of it. -/
theorem metricsOf_of_arrives (h : arrivesFor s runtime event = true) :
    ∃ queued dropped received route : Nat,
      metricsOf s (runtime.step event) = (metricsOf s runtime).recordForwarding
        (datagramBytes event) queued dropped received route := by
  obtain ⟨⟨sender, packet⟩, harriving, hfor⟩ := (Option.any_eq_true _ _).mp h
  simp only [Bool.and_eq_true, beq_iff_eq] at hfor
  cases event with
  | datagram i bytes received now =>
      let summary :=
        (runtime.media.forwardMediaPacket runtime.system.control sender packet received).2
      let route := microsDeltaToMillis received.toNat now
      have hget := get_recordMediaForwardSummary (s := s) runtime.system.control packet summary
        bytes.length received.toNat route
      rw [if_pos hfor] at hget
      refine ⟨summary.queued, summary.dropped, received.toNat, route, ?_⟩
      rw [step_datagram, harriving]
      show Option.getD _ _ = _
      exact congrArg (fun entry => Option.getD entry StreamForwardingMetrics.empty) hget
  | _ => cases harriving

/-- Where no packet of `s` arrives, the entry of `s` stays, or goes with the stream. -/
theorem metrics_survive (hrooms : ControlState.RoomsOk runtime.system.control)
    (h : arrivesFor s runtime event = false) :
    ControlState.Survives ControlState.stream_metrics s runtime.system.control
      (runtime.step event).system.control := by
  cases event with
  | envelope i clock envelope =>
      show ControlState.Survives ControlState.stream_metrics s _
        (runtime.system.reply i clock envelope).state
      cases hauth : runtime.system.control.authorizationError (runtime.system.sessions i)
          envelope.message with
      | some error =>
          rw [ControlSystem.reply_of_unauthorized hauth]
          exact ControlState.survives_of_eq rfl
      | none =>
          rw [ControlSystem.reply_of_authorized hauth]
          exact handleMessage_metrics hrooms _ clock envelope.message
  | datagram i bytes received now =>
      rw [step_datagram]
      cases harriving : runtime.arriving (.datagram i bytes received now) with
      | none => exact ControlState.survives_of_eq rfl
      | some arrival =>
          rw [arrivesFor, harriving, Option.any_some, Bool.and_eq_false_imp] at h
          -- the packet arrives at another stream
          refine .inl ((get_recordMediaForwardSummary _ _ _ _ _ _).trans (if_neg ?_))
          rintro ⟨hs, hpublished⟩
          rw [h (beq_iff_eq.mpr hs)] at hpublished
          cases hpublished
  | disconnect u => exact ControlState.streamMap_metrics.survives_disconnectUser hrooms u
  | register u => exact ControlState.survives_of_eq rfl
  | unregister u => exact ControlState.survives_of_eq rfl
  | recv u => exact ControlState.survives_of_eq rfl
  | release u => exact ControlState.survives_of_eq rfl

/-! ## What a run does to the counters -/

/-- The event leaves `s` published. -/
def KeepsPublished (s : StreamId) (runtime : RelayRuntime) (event : RuntimeEvent) : Prop :=
  (runtime.step event).system.control.Published s

instance (s : StreamId) (runtime : RelayRuntime) (event : RuntimeEvent) :
    Decidable (KeepsPublished s runtime event) :=
  inferInstanceAs (Decidable ((runtime.step event).system.control.Published s))

/-- Reachability of the control plane is kept; the media relay plays no part in it. -/
theorem step_reachable (h : runtime.system.Reachable) (event : RuntimeEvent) :
    (runtime.step event).system.Reachable := by
  obtain ⟨events, hevents⟩ := runtime.step_system event
  rw [hevents]
  exact run_induction ControlSystem.step (P := fun system => system.Reachable)
    (fun system event hsystem => hsystem.after event) h events

theorem metricsOf_of_not_arrives (hrooms : ControlState.RoomsOk runtime.system.control)
    (hkeeps : KeepsPublished s runtime event) (h : arrivesFor s runtime event = false) :
    metricsOf s (runtime.step event) = metricsOf s runtime := by
  unfold metricsOf
  rw [(metrics_survive hrooms h).of_published hkeeps]

/-- The ingress counters add every packet that arrives, and its bytes. -/
theorem step_ingress (hrooms : ControlState.RoomsOk runtime.system.control)
    (hkeeps : KeepsPublished s runtime event)
    (hpackets : (metricsOf s runtime).ingress_packets ≤ u64Max)
    (hbytes : (metricsOf s runtime).ingress_bytes ≤ u64Max) :
    (metricsOf s (runtime.step event)).ingress_packets =
        min ((metricsOf s runtime).ingress_packets + (arrivesFor s runtime event).toNat) u64Max ∧
      (metricsOf s (runtime.step event)).ingress_bytes =
        min ((metricsOf s runtime).ingress_bytes +
          if arrivesFor s runtime event then datagramBytes event else 0) u64Max := by
  cases harrives : arrivesFor s runtime event with
  | true =>
      obtain ⟨queued, dropped, received, route, hrecorded⟩ := metricsOf_of_arrives harrives
      rw [hrecorded]
      exact ⟨rfl, rfl⟩
  | false =>
      rw [metricsOf_of_not_arrives hrooms hkeeps harrives]
      exact ⟨(min_eq_left hpackets).symm, (min_eq_left hbytes).symm⟩

/-- The counters of a run in which `s` stays published, from counters that fit their width. -/
theorem run_ingress (hsystem : runtime.system.Reachable)
    (hpackets : (metricsOf s runtime).ingress_packets ≤ u64Max)
    (hbytes : (metricsOf s runtime).ingress_bytes ≤ u64Max) {events : List RuntimeEvent}
    (hevents : Meets step (KeepsPublished s) runtime events) :
    (metricsOf s (run step runtime events)).ingress_packets =
        min ((metricsOf s runtime).ingress_packets +
          sumSteps step (fun runtime event => (arrivesFor s runtime event).toNat) runtime
            events) u64Max ∧
      (metricsOf s (run step runtime events)).ingress_bytes =
        min ((metricsOf s runtime).ingress_bytes +
          sumSteps step (fun runtime event =>
            if arrivesFor s runtime event then datagramBytes event else 0) runtime
            events) u64Max := by
  -- both counters fit their width in every state of the run
  let Fits (rt : RelayRuntime) : Prop := rt.system.Reachable ∧
    (metricsOf s rt).ingress_packets ≤ u64Max ∧ (metricsOf s rt).ingress_bytes ≤ u64Max
  have hstep : ∀ rt event, KeepsPublished s rt event → Fits rt → _ := fun rt event hkeeps hfits =>
    step_ingress (ControlSystem.reachable_roomInvariant hfits.1).toRoomsOk hkeeps hfits.2.1
      hfits.2.2
  have hfits : ∀ rt event, KeepsPublished s rt event → Fits rt → Fits (rt.step event) := by
    intro rt event hkeeps hrt
    obtain ⟨hnext, hnext'⟩ := hstep rt event hkeeps hrt
    refine ⟨step_reachable hrt.1 event, ?_, ?_⟩
    · rw [hnext]
      exact min_le_right _ _
    · rw [hnext']
      exact min_le_right _ _
  have hstart : Fits runtime := ⟨hsystem, hpackets, hbytes⟩
  constructor
  · exact @Meets.saturating _ _ step (KeepsPublished s) Fits
      (fun rt => (metricsOf s rt).ingress_packets)
      (fun rt event => (arrivesFor s rt event).toNat) u64Max hfits
      (fun rt event hkeeps hrt => (hstep rt event hkeeps hrt).1) runtime hstart hpackets
      events hevents
  · exact @Meets.saturating _ _ step (KeepsPublished s) Fits
      (fun rt => (metricsOf s rt).ingress_bytes)
      (fun rt event => if arrivesFor s rt event then datagramBytes event else 0) u64Max hfits
      (fun rt event hkeeps hrt => (hstep rt event hkeeps hrt).2) runtime hstart hbytes
      events hevents

/-! ## Foreign packets -/

/-- The event carries no packet of `s` that is rejected before the fan-out. -/
def NoForeign (s : StreamId) (runtime : RelayRuntime) (event : RuntimeEvent) : Prop :=
  rejectedFor s runtime event = false

instance (s : StreamId) (runtime : RelayRuntime) (event : RuntimeEvent) :
    Decidable (NoForeign s runtime event) :=
  inferInstanceAs (Decidable (_ = _))

/-- If the event carries a packet of `s` that is rejected before the fan-out, it leaves the egress
queues and the metrics of `s` alone. -/
def NoTrace (s : StreamId) (runtime : RelayRuntime) (event : RuntimeEvent) : Prop :=
  rejectedFor s runtime event = true →
    (runtime.step event).media = runtime.media ∧
      metricsOf s (runtime.step event) = metricsOf s runtime

theorem arrives_of_rejected (h : rejectedFor s runtime event = true) :
    arrivesFor s runtime event = true := by
  obtain ⟨arrival, harriving, hfor⟩ := (Option.any_eq_true _ _).mp h
  exact (Option.any_eq_true _ _).mpr ⟨arrival, harriving, (Bool.and_eq_true_iff.mp hfor).1⟩

/-- What arrives and is not rejected is accepted. -/
theorem arrives_eq_accepted (h : rejectedFor s runtime event = false) :
    arrivesFor s runtime event = acceptedFor s runtime event := by
  unfold rejectedFor at h
  unfold arrivesFor acceptedFor
  cases harriving : runtime.arriving event with
  | none => rfl
  | some arrival =>
      rw [harriving, Option.any_some] at h
      rw [Option.any_some, Option.any_some]
      by_cases hs : arrival.2.header.streamId = s
      · have hpasses : passesChecks runtime.system.control arrival.1 arrival.2 = true →
            (runtime.system.control.publishedStream s).isSome = true := by
          intro hpasses
          obtain ⟨published, hpublished, -⟩ := (Option.any_eq_true _ _).mp hpasses
          rw [← hs, hpublished]
          rfl
        cases hp : passesChecks runtime.system.control arrival.1 arrival.2 with
        | true => simp [hs, hpasses hp]
        | false =>
            rw [hp] at h
            simpa [hs] using h
      · have hother : (arrival.2.header.streamId == s) = false := beq_eq_false_iff_ne.mpr hs
        rw [hother, Bool.false_and, Bool.false_and]

/-- The egress queues are safe from rejected packets. -/
theorem media_of_rejected (h : rejectedFor s runtime event = true) :
    (runtime.step event).media = runtime.media := by
  obtain ⟨⟨sender, packet⟩, harriving, hfor⟩ := (Option.any_eq_true _ _).mp h
  obtain ⟨-, hrejected⟩ := Bool.and_eq_true_iff.mp hfor
  have hnot : passesChecks runtime.system.control sender packet = false := by
    simpa using hrejected
  cases event with
  | datagram i bytes received now =>
      rw [step_datagram, harriving]
      show (runtime.media.forwardMediaPacket runtime.system.control sender packet received).1 = _
      rw [forwardMediaPacket_of_not_passes hnot]
  | _ => cases harriving

/-- The metrics are not: the record moves at least the write position of the latency ring. -/
theorem metricsOf_of_rejected (h : rejectedFor s runtime event = true) :
    metricsOf s (runtime.step event) ≠ metricsOf s runtime := by
  obtain ⟨queued, dropped, received, route, hrecorded⟩ :=
    metricsOf_of_arrives (arrives_of_rejected h)
  rw [hrecorded]
  intro hsame
  have hnext : (metricsOf s runtime).server_route_samples_ms.next + 1
      = (metricsOf s runtime).server_route_samples_ms.next :=
    congrArg (fun metrics => metrics.server_route_samples_ms.next) hsame
  have hmoves : ∀ next : Fin routeSampleCapacity, next + 1 ≠ next := by decide
  exact hmoves _ hnext

theorem noTrace_iff_noForeign : NoTrace s runtime event ↔ NoForeign s runtime event := by
  constructor
  · intro htrace
    by_contra hforeign
    have hrejected := Bool.eq_true_of_not_eq_false hforeign
    exact metricsOf_of_rejected hrejected (htrace hrejected).2
  · intro hforeign hrejected
    rw [hforeign] at hrejected
    cases hrejected

/-- The metrics of a stream start empty. -/
theorem metricsOf_of_fresh (hsystem : runtime.system.Reachable)
    (hfresh : ¬ runtime.system.control.Published s) (hkeeps : KeepsPublished s runtime event) :
    metricsOf s (runtime.step event) = .empty := by
  have hinv := ControlSystem.reachable_roomInvariant hsystem
  have harrives : arrivesFor s runtime event = false := by
    rw [Bool.eq_false_iff]
    intro harrives
    obtain ⟨arrival, -, hfor⟩ := (Option.any_eq_true _ _).mp harrives
    exact hfresh (ControlState.published_iff_isSome.mpr (Bool.and_eq_true_iff.mp hfor).2)
  rw [metricsOf_of_not_arrives hinv.toRoomsOk hkeeps harrives, metricsOf,
    (not_mem_iff_get _ _).mp fun hin => hfresh (hinv.metrics_published s hin)]
  rfl

/-- Over the publication of a stream, whatever the sessions do meanwhile: a packet rejected
before the fan-out never reaches a queue; it leaves no trace in the metrics, and the ingress
counters count the accepted packets and their bytes, exactly when no packet of the stream is
rejected. -/
theorem ingress_counts_accepted_iff (hsystem : runtime.system.Reachable)
    (hfresh : ¬ runtime.system.control.Published s) {publish : RuntimeEvent}
    (hpublish : KeepsPublished s runtime publish) {events : List RuntimeEvent}
    (hevents : Meets step (KeepsPublished s) (runtime.step publish) events) :
    Meets step (fun rt event => rejectedFor s rt event = true → (rt.step event).media = rt.media)
        (runtime.step publish) events ∧
      ((Meets step (NoTrace s) (runtime.step publish) events ∧
          (metricsOf s (run step (runtime.step publish) events)).ingress_packets =
            min (acceptedPackets s (runtime.step publish) events) u64Max ∧
          (metricsOf s (run step (runtime.step publish) events)).ingress_bytes =
            min (acceptedBytes s (runtime.step publish) events) u64Max) ↔
        Meets step (NoForeign s) (runtime.step publish) events) := by
  have hempty := metricsOf_of_fresh hsystem hfresh hpublish
  refine ⟨hevents.mono fun _ _ _ => media_of_rejected, ?_, ?_⟩
  · rintro ⟨htrace, -, -⟩
    exact htrace.mono fun _ _ => noTrace_iff_noForeign.mp
  · intro hforeign
    obtain ⟨hpackets, hbytes⟩ := run_ingress (step_reachable hsystem publish)
      (by rw [hempty]; exact Nat.zero_le _) (by rw [hempty]; exact Nat.zero_le _) hevents
    refine ⟨hforeign.mono fun _ _ => noTrace_iff_noForeign.mpr, ?_, ?_⟩
    · rw [hpackets, hempty]
      show min (0 + _) u64Max = _
      rw [Nat.zero_add]
      refine congrArg (fun total => min total u64Max) (hforeign.sumSteps_congr ?_)
      intro rt event hquiet
      rw [arrives_eq_accepted hquiet]
    · rw [hbytes, hempty]
      show min (0 + _) u64Max = _
      rw [Nat.zero_add]
      refine congrArg (fun total => min total u64Max) (hforeign.sumSteps_congr ?_)
      intro rt event hquiet
      rw [arrives_eq_accepted hquiet]

/-- Two users in a room of a relay, before the first publishes its screen. -/
def meetingRuntime : RelayRuntime :=
  run step (start .new .new defaultDatagramPayloadTarget)
    [.envelope 0 ⟨0, 0⟩ (.new 0 (.hello ⟨protocolVersion, "host"⟩)),
      .envelope 0 ⟨0, 0⟩ (.new 1 (.createRoom ⟨"room"⟩)),
      .envelope 1 ⟨0, 0⟩ (.new 0 (.hello ⟨protocolVersion, "viewer"⟩)),
      .envelope 1 ⟨0, 0⟩ (.new 1 (.joinRoom ⟨1⟩))]

theorem meetingRuntime_reachable : meetingRuntime.system.Reachable := by
  obtain ⟨events, hevents⟩ := run_system (start .new .new defaultDatagramPayloadTarget)
    [.envelope 0 ⟨0, 0⟩ (.new 0 (.hello ⟨protocolVersion, "host"⟩)),
      .envelope 0 ⟨0, 0⟩ (.new 1 (.createRoom ⟨"room"⟩)),
      .envelope 1 ⟨0, 0⟩ (.new 0 (.hello ⟨protocolVersion, "viewer"⟩)),
      .envelope 1 ⟨0, 0⟩ (.new 1 (.joinRoom ⟨1⟩))]
  exact ⟨.start .new, events, ⟨.new, .new, rfl⟩, hevents⟩

/-- The first user publishes its screen as stream 7. -/
def publishScreen : RuntimeEvent :=
  .envelope 0 ⟨0, 0⟩ (.new 2 (.publishStream ⟨1, 7, .h264, .screen⟩))

/-- A packet of the screen, from session `i`. -/
def screenDatagram (i : Nat) : RuntimeEvent :=
  .datagram i (MediaRelay.screenPacket.header.encode ++ MediaRelay.screenPacket.payload) 5 5

theorem ingress_counts_accepted_publisher :
    (metricsOf 7 (run step (meetingRuntime.step publishScreen)
        [screenDatagram 0])).ingress_packets = 1 ∧
      Meets step (NoForeign 7) (meetingRuntime.step publishScreen) [screenDatagram 0] := by
  have hfresh : ¬ meetingRuntime.system.control.Published 7 := by decide +kernel
  have hpublish : KeepsPublished 7 meetingRuntime publishScreen := by decide +kernel
  have hevents : Meets step (KeepsPublished 7) (meetingRuntime.step publishScreen)
      [screenDatagram 0] := by decide +kernel
  have hforeign : Meets step (NoForeign 7) (meetingRuntime.step publishScreen)
      [screenDatagram 0] := by decide +kernel
  obtain ⟨-, hpackets, -⟩ :=
    (ingress_counts_accepted_iff meetingRuntime_reachable hfresh hpublish hevents).2.mpr hforeign
  refine ⟨hpackets.trans ?_, hforeign⟩
  decide +kernel

/-- A packet of the screen that the other user sends is rejected and counted: the metrics show one
ingress packet and one egress drop although nothing was accepted. -/
theorem foreign_packet_counted :
    (meetingRuntime.step publishScreen).system.Reachable ∧
      ¬ NoTrace 7 (meetingRuntime.step publishScreen) (screenDatagram 1) ∧
      metricsOf 7 (meetingRuntime.step publishScreen) = .empty ∧
      (metricsOf 7 ((meetingRuntime.step publishScreen).step (screenDatagram 1))).ingress_packets
        = 1 ∧
      (metricsOf 7
        ((meetingRuntime.step publishScreen).step (screenDatagram 1))).egress_dropped_packets = 1 ∧
      acceptedPackets 7 (meetingRuntime.step publishScreen) [screenDatagram 1] = 0 := by
  have hforeign : ¬ NoForeign 7 (meetingRuntime.step publishScreen) (screenDatagram 1) := by
    decide +kernel
  refine ⟨step_reachable meetingRuntime_reachable _,
    fun htrace => hforeign (noTrace_iff_noForeign.mp htrace), ?_⟩
  decide +kernel

end RelayRuntime

end TeamView.Relay
