import TeamView.Relay.RoomInvariant

set_option autoImplicit false

/-! # What the lookups return in a state in order

`published_stream`, `voice_state_for_stream` and `subscribers_for_stream` search all rooms for a
stream id and take the first answer, or all of them. No stream id is published twice, so each
search answers for the one room that publishes the stream.
-/

namespace TeamView.Relay

open TeamView.Protocol BTree

namespace ControlState

variable {state : ControlState}

theorem RoomsOk.streamEntry_eq_some_iff (h : RoomsOk state) (s : StreamId) (r : RoomId)
    (room : Room) (stream : PublishedStream) :
    state.streamEntry s = some (r, room, stream) ↔
      state.rooms[r]? = some room ∧ room.published_streams[s]? = some stream := by
  constructor
  · exact get_of_streamEntry
  · rintro ⟨hroom, hstream⟩
    refine (findSome_eq_some_iff _ _ ?_ _).mpr ⟨r, room, hroom, by rw [hstream]; rfl⟩
    intro k k' v v' hk hk' hsome hsome'
    rw [Option.isSome_map, Option.isSome_iff_exists] at hsome hsome'
    obtain ⟨st, hst⟩ := hsome
    obtain ⟨st', hst'⟩ := hsome'
    exact h.stream_unique s k k' st st' ⟨v, hk, hst⟩ ⟨v', hk', hst'⟩

/-- The stream that `published_stream` finds is the one that is published. -/
theorem RoomsOk.publishedStream_eq_some_iff (h : RoomsOk state) (s : StreamId)
    (stream : PublishedStream) :
    state.publishedStream s = some stream ↔ ∃ r, state.PublishedIn r s stream := by
  constructor
  · intro hfound
    obtain ⟨r, room, hroom, hstream⟩ := get_of_publishedStream hfound
    exact ⟨r, room, hroom, hstream⟩
  · rintro ⟨r, room, hroom, hstream⟩
    have hentry := (h.streamEntry_eq_some_iff s r room stream).mpr ⟨hroom, hstream⟩
    rw [publishedStream, hentry]
    rfl

theorem RoomsOk.publisherForStream_eq_some_iff (h : RoomsOk state) (s : StreamId) (u : UserId) :
    state.publisherForStream s = some u ↔ state.Publishes u s := by
  rw [publisherForStream, Option.map_eq_some_iff]
  constructor
  · rintro ⟨stream, hstream, hu⟩
    obtain ⟨r, hin⟩ := (h.publishedStream_eq_some_iff s stream).mp hstream
    exact ⟨r, stream, hin, hu⟩
  · rintro ⟨r, stream, hin, hu⟩
    exact ⟨stream, (h.publishedStream_eq_some_iff s stream).mpr ⟨r, hin⟩, hu⟩

/-- The voice state that counts for a stream is the one in the room of the stream. -/
theorem RoomsOk.voiceStateForStream_eq (h : RoomsOk state) {r : RoomId} {s : StreamId}
    {stream : PublishedStream} (hin : state.PublishedIn r s stream) (u : UserId) :
    state.voiceStateForStream s u = state.voiceState r u := by
  obtain ⟨room, hroom, hstream⟩ := hin
  rw [voiceStateForStream, (h.streamEntry_eq_some_iff s r room stream).mpr ⟨hroom, hstream⟩]

/-- The subscribers of a stream are those of the room that publishes it. -/
theorem RoomsOk.subscribersForStream_eq (h : RoomsOk state) {r : RoomId} {room : Room}
    {s : StreamId} (hroom : state.rooms[r]? = some room) (hpub : s ∈ room.published_streams) :
    state.subscribersForStream s = (room.subscribers s).toList := by
  obtain ⟨stream, hstream⟩ := (mem_iff_get _ _).mp hpub
  have honly : state.rooms.toList.filter (fun e => e.2.published_streams.contains s)
      = [(r, room)] := by
    refine filter_toList_of_unique _ _ hroom (Std.ExtTreeMap.contains_iff_mem.mpr hpub) ?_
    intro r' room' hroom' hpub'
    obtain ⟨stream', hstream'⟩ :=
      (mem_iff_get _ _).mp (Std.ExtTreeMap.contains_iff_mem.mp hpub')
    exact h.stream_unique s r' r stream' stream ⟨room', hroom', hstream'⟩ ⟨room, hroom, hstream⟩
  rw [subscribersForStream, honly, List.flatMap_singleton]

theorem subscribersForStream_of_not_published {s : StreamId} (hnot : ¬ state.Published s) :
    state.subscribersForStream s = [] := by
  have hnone : state.rooms.toList.filter (fun e => e.2.published_streams.contains s) = [] := by
    refine filter_toList_eq_nil _ _ fun r room hroom => ?_
    rw [Bool.eq_false_iff, ne_eq, Std.ExtTreeMap.contains_iff_mem, mem_iff_get]
    rintro ⟨stream, hstream⟩
    exact hnot ⟨r, stream, room, hroom, hstream⟩
  rw [subscribersForStream, hnone, List.flatMap_nil]

theorem RoomsOk.mem_subscribersForStream_iff (h : RoomsOk state) (s : StreamId) (u : UserId) :
    u ∈ state.subscribersForStream s ↔ state.Subscribes u s := by
  constructor
  · intro hmem
    by_cases hpub : state.Published s
    · obtain ⟨r, stream, room, hroom, hstream⟩ := hpub
      rw [h.subscribersForStream_eq hroom (mem_of_get hstream)] at hmem
      exact ⟨r, room, hroom, mem_of_get hstream, Std.ExtTreeSet.mem_toList.mp hmem⟩
    · rw [subscribersForStream_of_not_published hpub] at hmem
      cases hmem
  · rintro ⟨r, room, hroom, hpub, hmem⟩
    rw [h.subscribersForStream_eq hroom hpub]
    exact Std.ExtTreeSet.mem_toList.mpr hmem

theorem RoomsOk.nodup_subscribersForStream (h : RoomsOk state) (s : StreamId) :
    (state.subscribersForStream s).Nodup := by
  by_cases hpub : state.Published s
  · obtain ⟨r, stream, room, hroom, hstream⟩ := hpub
    rw [h.subscribersForStream_eq hroom (mem_of_get hstream)]
    exact set_nodup_toList _
  · rw [subscribersForStream_of_not_published hpub]
    exact List.nodup_nil

/-- A participant of a live room has a voice state in it. -/
theorem RoomInvariant.voiceState_isSome (h : RoomInvariant state) {r : RoomId} {room : Room}
    {u : UserId} (hroom : state.rooms[r]? = some room) (hu : u ∈ room.participants) :
    ∃ voice_state, state.voiceState r u = some voice_state := by
  obtain ⟨vs, hvs, hagrees⟩ := h.toVoiceOk.get hroom
  obtain ⟨voice_state, hv⟩ := (mem_iff_get _ _).mp ((hagrees u).mpr hu)
  exact ⟨voice_state, by rw [voiceState_of_get hvs]; exact hv⟩

end ControlState

end TeamView.Relay
