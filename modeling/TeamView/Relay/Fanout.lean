import TeamView.Lib.Runs
import TeamView.Relay.Control
import TeamView.Relay.Lookups
import TeamView.Relay.Media

set_option autoImplicit false

/-! # The fan-out, viewer by viewer

`forward_media_packet` first checks the sender (`SenderMay` says what passes) and then walks over
the subscribers. Each turn of that loop touches the egress of one viewer, so the relay after the
loop is described viewer by viewer: a viewer that may hear the stream has been offered the
datagram once, every other viewer is as before (`forwardMediaPacket_egress`). What the relay
guarantees about isolation follows from this description and the representation invariant.
-/

namespace TeamView.Relay

open TeamView.Protocol BTree Runs

/-! ## Offering a datagram to one viewer -/

namespace ViewerEgress

/-- An offer appends the datagram to the viewer's queue, or leaves the queue alone. -/
theorem offer_queue (egress : ViewerEgress) (datagram : EgressDatagram) (budget : Nat) :
    (egress.offer datagram budget).1.channel.queue =
      egress.channel.queue ++ (if (egress.offer datagram budget).2 then [datagram] else []) := by
  unfold offer
  split
  · simp
  · split
    · next channel hsend =>
        obtain ⟨-, hqueue, -, -⟩ := (Channel.trySend_ok_iff _ _ _).mp hsend
        exact hqueue
    · simp

end ViewerEgress

namespace MediaRelay

/-- The datagrams waiting for a viewer; a viewer without an egress has none. -/
def queueOf (relay : MediaRelay) (v : UserId) : List EgressDatagram :=
  ((relay.egress[v]?).map fun egress => egress.channel.queue).getD []

/-! ## The loop -/

/-- The viewer asked not to hear this voice stream. -/
def Deafened (state : ControlState) (published : PublishedStream) (s : StreamId) (v : UserId) :
    Prop :=
  published.media_kind = .voice ∧
    (state.voiceStateForStream s v).any (fun voice_state => voice_state.deafened) = true

instance (state : ControlState) (published : PublishedStream) (s : StreamId) (v : UserId) :
    Decidable (Deafened state published s v) := inferInstanceAs (Decidable (_ ∧ _))

section Loop

variable (state : ControlState) (published : PublishedStream) (publisher_id : UserId)
  (datagram : EgressDatagram)

theorem forwardTo_settings (acc : MediaRelay × MediaForwardSummary) (v : UserId) :
    (forwardTo state published publisher_id datagram acc v).1.viewer_queue_budget_ms
        = acc.1.viewer_queue_budget_ms ∧
      (forwardTo state published publisher_id datagram acc v).1.egress_queue_capacity
        = acc.1.egress_queue_capacity := by
  obtain ⟨relay, summary⟩ := acc
  unfold forwardTo
  simp only
  split
  · exact ⟨rfl, rfl⟩
  · split
    · exact ⟨rfl, rfl⟩
    · split <;> exact ⟨rfl, rfl⟩

/-- One turn touches the egress of one viewer. -/
theorem forwardTo_egress (acc : MediaRelay × MediaForwardSummary) (v w : UserId) :
    (forwardTo state published publisher_id datagram acc v).1.egress[w]? =
      if w = v ∧ v ≠ publisher_id ∧ ¬ Deafened state published datagram.stream_id v then
        (acc.1.egress[v]?).map fun egress =>
          (egress.offer datagram acc.1.viewer_queue_budget_ms).1
      else acc.1.egress[w]? := by
  obtain ⟨relay, summary⟩ := acc
  unfold forwardTo
  simp only
  by_cases hpub : v = publisher_id
  · rw [if_pos hpub, if_neg (fun h => h.2.1 hpub)]
  · rw [if_neg hpub]
    cases hegress : relay.egress[v]? with
    | none =>
        simp only
        split
        · next h =>
            rw [h.1, hegress]
            rfl
        · rfl
    | some egress =>
        simp only
        by_cases hdeaf : Deafened state published datagram.stream_id v
        · have hskips := hdeaf
          unfold Deafened at hskips
          rw [if_pos hskips, if_neg (fun h => h.2.2 hdeaf)]
        · have hhears := hdeaf
          unfold Deafened at hhears
          rw [if_neg hhears]
          simp only [get_insert]
          by_cases hw : w = v
          · rw [if_pos hw, if_pos ⟨hw, hpub, hdeaf⟩, Option.map_some]
          · rw [if_neg hw, if_neg (fun h => hw h.1)]

theorem forwardTo_count (acc : MediaRelay × MediaForwardSummary) (v : UserId) :
    (forwardTo state published publisher_id datagram acc v).2.queued +
        (forwardTo state published publisher_id datagram acc v).2.dropped =
      acc.2.queued + acc.2.dropped + (if v = publisher_id then 0 else 1) := by
  obtain ⟨relay, summary⟩ := acc
  unfold forwardTo
  simp only
  split
  · rfl
  · split
    · simp only
      omega
    · split
      · simp only
        omega
      · split <;> simp only <;> omega

/-- After the loop, a viewer on the list that may hear the stream has been offered the datagram
once, and every other viewer is as before. -/
theorem foldl_forwardTo_egress {viewers : List UserId} (hnodup : viewers.Nodup)
    (acc : MediaRelay × MediaForwardSummary) (w : UserId) :
    (viewers.foldl (forwardTo state published publisher_id datagram) acc).1.egress[w]? =
      if w ∈ viewers ∧ w ≠ publisher_id ∧ ¬ Deafened state published datagram.stream_id w then
        (acc.1.egress[w]?).map fun egress =>
          (egress.offer datagram acc.1.viewer_queue_budget_ms).1
      else acc.1.egress[w]? := by
  induction viewers generalizing acc with
  | nil => simp
  | cons v viewers ih =>
      obtain ⟨hv, hnodup⟩ := List.nodup_cons.mp hnodup
      rw [List.foldl_cons, ih hnodup, (forwardTo_settings state published publisher_id datagram
        acc v).1, forwardTo_egress]
      by_cases hw : w = v
      · subst hw
        rw [if_neg (fun h => hv h.1)]
        simp only [List.mem_cons, true_or, true_and]
      · rw [if_neg (c := w = v ∧ _) (fun h => hw h.1)]
        simp only [List.mem_cons, hw, false_or]

theorem foldl_forwardTo_settings (viewers : List UserId)
    (acc : MediaRelay × MediaForwardSummary) :
    (viewers.foldl (forwardTo state published publisher_id datagram) acc).1.viewer_queue_budget_ms
        = acc.1.viewer_queue_budget_ms ∧
      (viewers.foldl (forwardTo state published publisher_id datagram) acc).1.egress_queue_capacity
        = acc.1.egress_queue_capacity :=
  ⟨run_fixed (forwardTo state published publisher_id datagram)
      (fun acc => acc.1.viewer_queue_budget_ms)
      (fun acc v => (forwardTo_settings state published publisher_id datagram acc v).1) acc viewers,
    run_fixed (forwardTo state published publisher_id datagram)
      (fun acc => acc.1.egress_queue_capacity)
      (fun acc v => (forwardTo_settings state published publisher_id datagram acc v).2) acc viewers⟩

/-- Every viewer but the publisher is counted once, as queued or as dropped. -/
theorem foldl_forwardTo_count (viewers : List UserId) (acc : MediaRelay × MediaForwardSummary) :
    (viewers.foldl (forwardTo state published publisher_id datagram) acc).2.queued +
        (viewers.foldl (forwardTo state published publisher_id datagram) acc).2.dropped =
      acc.2.queued + acc.2.dropped + (viewers.filter (· ≠ publisher_id)).length := by
  induction viewers generalizing acc with
  | nil => simp
  | cons v viewers ih =>
      rw [List.foldl_cons, ih, forwardTo_count]
      by_cases hv : v = publisher_id
      · simp [hv]
      · simp only [hv, if_false, ne_eq, not_false_eq_true, decide_true, List.filter_cons_of_pos,
          List.length_cons]
        omega

end Loop

/-! ## The checks on the sender -/

/-- The sender may send the packet as its stream, which room `r` publishes as `stream`. -/
structure SenderMay (state : ControlState) (sender : UserId) (packet : MediaPacket) (r : RoomId)
    (stream : PublishedStream) : Prop where
  published : state.PublishedIn r packet.header.streamId stream
  publisher : stream.publisher_id = sender
  codec : stream.codec = packet.header.codec
  packet_type : mediaKindPacketType stream.media_kind = packet.header.packet_type
  voice : stream.media_kind = .voice → ∃ voice_state, state.voiceState r sender = some voice_state ∧
    voice_state.muted = false ∧ (voice_state.push_to_talk = true → voice_state.speaking = true)

/-- The datagram that the fan-out offers. -/
def datagramFor (relay : MediaRelay) (stream : PublishedStream) (packet : MediaPacket)
    (server_receive_time_micros : UInt64) : EgressDatagram where
  stream_id := packet.header.streamId
  packet := packetForEgress packet server_receive_time_micros
  media_duration_ms := packetMediaDurationMs packet stream relay.viewer_queue_budget_ms

section Forward

open ControlState

variable {state : ControlState} {packet : MediaPacket}

/-- The voice check of the relay, for a publisher in the room of its stream. -/
theorem voicePublisherCanSend_iff (h : RoomInvariant state) {r : RoomId}
    {stream : PublishedStream} (hin : state.PublishedIn r packet.header.streamId stream) :
    state.voicePublisherCanSend packet.header.streamId stream.publisher_id = true ↔
      ∃ voice_state, state.voiceState r stream.publisher_id = some voice_state ∧
        voice_state.muted = false ∧
          (voice_state.push_to_talk = true → voice_state.speaking = true) := by
  obtain ⟨room, hroom, hstream⟩ := hin
  have hinside := (h.room_ok r room hroom).publisher_inside _ stream hstream
  obtain ⟨voice_state, hv⟩ := h.voiceState_isSome hroom hinside
  rw [voicePublisherCanSend, h.voiceStateForStream_eq ⟨room, hroom, hstream⟩, hv]
  simp only [Bool.and_eq_true, Bool.not_eq_true', Bool.or_eq_true, Option.some.injEq,
    exists_eq_left']
  refine and_congr Iff.rfl ?_
  cases voice_state.push_to_talk <;> simp

/-- The checks as the source makes them. -/
theorem senderMay_of_checks (h : RoomInvariant state) {stream : PublishedStream}
    (hfound : state.publishedStream packet.header.streamId = some stream)
    (hcodec : stream.codec = packet.header.codec)
    (htype : mediaKindPacketType stream.media_kind = packet.header.packet_type)
    (hvoice : stream.media_kind = .voice →
      state.voicePublisherCanSend packet.header.streamId stream.publisher_id = true) :
    ∃ r, SenderMay state stream.publisher_id packet r stream := by
  obtain ⟨r, hin⟩ := (h.publishedStream_eq_some_iff _ stream).mp hfound
  exact ⟨r, hin, rfl, hcodec, htype, fun hkind =>
    (voicePublisherCanSend_iff h hin).mp (hvoice hkind)⟩

/-- A packet whose sender passes the checks is offered to the subscribers. -/
theorem forwardMediaPacket_of_senderMay (h : RoomInvariant state) {sender : UserId} {r : RoomId}
    {stream : PublishedStream} (hmay : SenderMay state sender packet r stream)
    {bytes : List UInt8} (hencode : packet.encode = .ok bytes) (relay : MediaRelay)
    (received : UInt64) :
    relay.forwardMediaPacket state sender packet received =
      (state.subscribersForStream packet.header.streamId).foldl
        (forwardTo state stream sender (datagramFor relay stream packet received))
        (relay, { stream_id := packet.header.streamId, queued := 0, dropped := 0 }) := by
  obtain ⟨hin, rfl, hcodec, htype, hvoice⟩ := hmay
  have hfound := (h.publishedStream_eq_some_iff _ stream).mpr ⟨r, hin⟩
  unfold forwardMediaPacket
  simp only [hfound]
  rw [if_neg, if_neg, hencode]
  · rfl
  · rintro ⟨hkind, hcannot⟩
    rw [(voicePublisherCanSend_iff h hin).mpr (hvoice hkind)] at hcannot
    cases hcannot
  · simp [hcodec, htype]

/-- A packet whose sender does not pass changes nothing and counts as one drop. -/
theorem forwardMediaPacket_of_not_senderMay (h : RoomInvariant state) {sender : UserId}
    (hnot : ∀ r stream, ¬ SenderMay state sender packet r stream) (relay : MediaRelay)
    (received : UInt64) :
    relay.forwardMediaPacket state sender packet received =
      (relay, rejectedSummary packet.header.streamId) := by
  unfold forwardMediaPacket
  simp only
  cases hfound : state.publishedStream packet.header.streamId with
  | none => rfl
  | some stream =>
      simp only
      split
      · rfl
      · next hchecks =>
          simp only [not_or, not_not] at hchecks
          obtain ⟨rfl, hcodec, htype⟩ := hchecks
          split
          · rfl
          · next hvoice =>
              obtain ⟨r, hmay⟩ := senderMay_of_checks h hfound hcodec htype fun hkind =>
                Bool.eq_true_of_not_eq_false fun hcannot => hvoice ⟨hkind, hcannot⟩
              exact absurd hmay (hnot r stream)

/-- The relay after a packet whose sender passes the checks, viewer by viewer. -/
theorem forwardMediaPacket_egress (h : RoomInvariant state) {sender : UserId} {r : RoomId}
    {stream : PublishedStream} (hmay : SenderMay state sender packet r stream)
    {bytes : List UInt8} (hencode : packet.encode = .ok bytes) (relay : MediaRelay)
    (received : UInt64) (w : UserId) :
    (relay.forwardMediaPacket state sender packet received).1.egress[w]? =
      if w ∈ state.subscribersForStream packet.header.streamId ∧ w ≠ sender ∧
          ¬ Deafened state stream packet.header.streamId w then
        (relay.egress[w]?).map fun egress =>
          (egress.offer (datagramFor relay stream packet received)
            relay.viewer_queue_budget_ms).1
      else relay.egress[w]? := by
  rw [forwardMediaPacket_of_senderMay h hmay hencode,
    foldl_forwardTo_egress _ _ _ _ (h.nodup_subscribersForStream _)]
  rfl

end Forward

end MediaRelay

end TeamView.Relay
