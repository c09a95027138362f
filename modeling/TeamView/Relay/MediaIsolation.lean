import TeamView.Relay.Fanout

set_option autoImplicit false

/-! # Isolation of rooms on the media plane

A packet reaches a viewer only through the fan-out of the stream it belongs to, and that stream
is published in one room. In a reachable state the subscribers of a stream are participants of
its room, so nothing that is sent in a room is heard outside of it.
-/

namespace TeamView.Relay

open TeamView.Protocol BTree ControlState

namespace MediaRelay

/-- Viewer `v` may receive the packets of stream `s`, which room `r` publishes as `stream`. -/
structure MayReceive (state : ControlState) (r : RoomId) (s : StreamId)
    (stream : PublishedStream) (v : UserId) : Prop where
  inside : ∃ room : Room, state.rooms[r]? = some room ∧ v ∈ room.participants ∧
    v ∈ room.subscribers s
  not_publisher : v ≠ stream.publisher_id
  not_deafened : stream.media_kind = .voice →
    ∃ voice_state, state.voiceState r v = some voice_state ∧ voice_state.deafened = false

/-- The viewers that the fan-out offers a datagram to may receive it. -/
theorem mayReceive_of_offered {state : ControlState} (h : RoomInvariant state) {sender : UserId}
    {packet : MediaPacket} {r : RoomId} {stream : PublishedStream}
    (hmay : SenderMay state sender packet r stream) {v : UserId}
    (hsub : v ∈ state.subscribersForStream packet.header.streamId) (hne : v ≠ sender)
    (hhears : ¬ Deafened state stream packet.header.streamId v) :
    MayReceive state r packet.header.streamId stream v := by
  obtain ⟨room, hroom, hstream⟩ := hmay.published
  rw [h.subscribersForStream_eq hroom (mem_of_get hstream), Std.ExtTreeSet.mem_toList] at hsub
  have hinside := (h.room_ok r room hroom).subscriber_mem hsub
  refine ⟨⟨room, hroom, hinside, hsub⟩, ?_, ?_⟩
  · rw [hmay.publisher]
    exact hne
  · intro hkind
    obtain ⟨voice_state, hv⟩ := h.voiceState_isSome hroom hinside
    refine ⟨voice_state, hv, ?_⟩
    rw [Deafened, h.voiceStateForStream_eq hmay.published, hv] at hhears
    rw [Bool.eq_false_iff]
    exact fun hdeaf => hhears ⟨hkind, hdeaf⟩

/-- What a viewer waits for after a packet whose sender passes the checks: what it waited for
before, and at most one copy of the packet, for viewers that may receive it. -/
theorem queueOf_forwardMediaPacket {state : ControlState} (h : RoomInvariant state)
    {sender : UserId} {packet : MediaPacket} {r : RoomId} {stream : PublishedStream}
    (hmay : SenderMay state sender packet r stream) {bytes : List UInt8}
    (hencode : packet.encode = .ok bytes) (relay : MediaRelay) (received : UInt64) (v : UserId) :
    (relay.forwardMediaPacket state sender packet received).1.queueOf v = relay.queueOf v ∨
      MayReceive state r packet.header.streamId stream v ∧
        (relay.forwardMediaPacket state sender packet received).1.queueOf v =
          relay.queueOf v ++ [datagramFor relay stream packet received] := by
  have hegress := forwardMediaPacket_egress h hmay hencode relay received v
  unfold queueOf
  by_cases hoffered : v ∈ state.subscribersForStream packet.header.streamId ∧ v ≠ sender ∧
      ¬ Deafened state stream packet.header.streamId v
  · rw [hegress, if_pos hoffered]
    obtain ⟨hsub, hne, hhears⟩ := hoffered
    cases relay.egress[v]? with
    | none => exact .inl rfl
    | some egress =>
        simp only [Option.map_some, Option.getD_some, ViewerEgress.offer_queue]
        split
        · exact .inr ⟨mayReceive_of_offered h hmay hsub hne hhears, rfl⟩
        · exact .inl (List.append_nil _)
  · rw [hegress, if_neg hoffered]
    exact .inl rfl

/-- In a reachable state, for every decoded packet and every relay: a viewer's queue grows only by
one copy of a packet whose sender may send it, and only if the viewer may receive it; a packet
that its sender may send is counted once for each other subscriber; any other packet leaves the
relay as it is. -/
theorem forwardMediaPacket_isolated {state : ControlState} (hstate : state.Reachable)
    (relay : MediaRelay) (sender : UserId) {packet : MediaPacket}
    (hdecoded : ∃ datagram, MediaPacket.decode datagram = some (.ok packet)) (received : UInt64) :
    (∀ v, (relay.forwardMediaPacket state sender packet received).1.queueOf v = relay.queueOf v ∨
      ∃ r stream, SenderMay state sender packet r stream ∧
        MayReceive state r packet.header.streamId stream v ∧
        (relay.forwardMediaPacket state sender packet received).1.queueOf v =
          relay.queueOf v ++ [datagramFor relay stream packet received]) ∧
    (∀ (r : RoomId) (room : Room) (stream : PublishedStream),
      SenderMay state sender packet r stream → state.rooms[r]? = some room →
        (relay.forwardMediaPacket state sender packet received).2.queued +
            (relay.forwardMediaPacket state sender packet received).2.dropped =
          ((room.subscribers packet.header.streamId).erase sender).size) ∧
    ((∀ r stream, ¬ SenderMay state sender packet r stream) →
      (relay.forwardMediaPacket state sender packet received).1 = relay) := by
  have h := hstate.roomInvariant
  obtain ⟨datagram, hdecoded⟩ := hdecoded
  have hencode := MediaPacket.encode_of_decode hdecoded
  refine ⟨fun v => ?_, ?_, ?_⟩
  · by_cases hmay : ∃ r stream, SenderMay state sender packet r stream
    · obtain ⟨r, stream, hmay⟩ := hmay
      rcases queueOf_forwardMediaPacket h hmay hencode relay received v with hsame | ⟨hv, hnew⟩
      · exact .inl hsame
      · exact .inr ⟨r, stream, hmay, hv, hnew⟩
    · have hnot : ∀ r stream, ¬ SenderMay state sender packet r stream :=
        fun r stream hr => hmay ⟨r, stream, hr⟩
      rw [forwardMediaPacket_of_not_senderMay h hnot]
      exact .inl rfl
  · intro r room stream hmay hroom
    have hpub : packet.header.streamId ∈ room.published_streams :=
      mem_of_get ((publishedIn_iff hroom _ _).mp hmay.published)
    rw [forwardMediaPacket_of_senderMay h hmay hencode, foldl_forwardTo_count,
      h.subscribersForStream_eq hroom hpub, set_length_filter_ne]
    exact Nat.zero_add _
  · intro hnot
    rw [forwardMediaPacket_of_not_senderMay h hnot]

/-- A packet of the screen that `ControlSystem.watchingState` publishes as stream 7. -/
def screenPacket : MediaPacket where
  header := .new .video .h264 7 0 2
  payload := [1, 2]

theorem screenPacket_decode :
    MediaPacket.decode (screenPacket.header.encode ++ screenPacket.payload)
      = some (.ok screenPacket) := by
  decide +kernel

theorem forwardMediaPacket_isolated_watching :
    (∀ v, ((new.register 2).forwardMediaPacket ControlSystem.watchingState 1 screenPacket
          0).1.queueOf v = (new.register 2).queueOf v ∨
      ∃ r stream, SenderMay ControlSystem.watchingState 1 screenPacket r stream ∧
        MayReceive ControlSystem.watchingState r 7 stream v ∧
        ((new.register 2).forwardMediaPacket ControlSystem.watchingState 1 screenPacket
          0).1.queueOf v =
          (new.register 2).queueOf v ++ [datagramFor (new.register 2) stream screenPacket 0]) ∧
    ((new.register 2).forwardMediaPacket ControlSystem.watchingState 1 screenPacket 0).2
      = ⟨7, 1, 0⟩ :=
  ⟨(forwardMediaPacket_isolated ControlSystem.watchingState_reachable (new.register 2) 1
      ⟨_, screenPacket_decode⟩ 0).1, by decide +kernel⟩

end MediaRelay

end TeamView.Relay
