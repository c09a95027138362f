import TeamView.Relay.RoomInvariant

set_option autoImplicit false

/-! # Maps keyed by stream

Keyframe requests, remote input and metrics are kept in maps of their own, keyed by stream.
`remove_stream_state` is what removes from them, when the stream is unpublished or leaves with its
publisher (`StreamMap`). An entry therefore stays as it is, or goes with its stream (`Survives`).
-/

namespace TeamView.Relay

open TeamView.Protocol BTree Runs

namespace ControlState

variable {state : ControlState} {s : StreamId}

/-- Whether a stream is published can be looked up. -/
theorem published_iff_isSome : state.Published s ↔ (state.publishedStream s).isSome = true := by
  constructor
  · rintro ⟨r, stream, room, hroom, hstream⟩
    by_contra hnone
    rw [Option.not_isSome_iff_eq_none, publishedStream_eq_none_iff] at hnone
    exact hnone r room hroom (mem_of_get hstream)
  · intro hsome
    obtain ⟨stream, hfound⟩ := Option.isSome_iff_exists.mp hsome
    obtain ⟨r, room, hroom, hstream⟩ := get_of_publishedStream hfound
    exact ⟨r, stream, room, hroom, hstream⟩

instance decidablePublished (state : ControlState) (s : StreamId) : Decidable (state.Published s) :=
  decidable_of_iff _ published_iff_isSome.symm

/-- A map from which only the cleanup of a stream removes. -/
structure StreamMap {ν : Type} (f : ControlState → BTreeMap StreamId ν) : Prop where
  removeStreamState : ∀ (st : ControlState) (s : StreamId),
    f (st.removeStreamState s) = (f st).erase s
  fixed : ∀ (st : ControlState) rooms voice_states viewer_stats display_names,
    f { st with
      rooms := rooms
      voice_states := voice_states
      viewer_stats := viewer_stats
      display_names := display_names } = f st

theorem streamMap_keyframes : StreamMap ControlState.pending_keyframe_requests :=
  ⟨fun _ _ => rfl, fun _ _ _ _ _ => rfl⟩

theorem streamMap_remote_input : StreamMap ControlState.pending_remote_input :=
  ⟨fun _ _ => rfl, fun _ _ _ _ _ => rfl⟩

theorem streamMap_metrics : StreamMap ControlState.stream_metrics :=
  ⟨fun _ _ => rfl, fun _ _ _ _ _ => rfl⟩

/-- A stream that is published after a user left was published before, and not by that user in
that room. -/
theorem RoomsOk.published_of_leaveRoom (hrooms : RoomsOk state) {r : RoomId} {room : Room}
    (hroom : state.rooms[r]? = some room) {u : UserId}
    (hafter : (state.leaveRoom u r).Published s) :
    s ∉ room.streamsPublishedBy u ∧ state.Published s := by
  obtain ⟨a, stream, room', hroom', hget⟩ := hafter
  rw [leaveRoom_rooms hroom] at hroom'
  by_cases ha : a = r
  · rw [if_pos ha] at hroom'
    split at hroom'
    · cases hroom'
    · obtain rfl := Option.some.inj hroom'
      have hget' := hget
      rw [Room.depart_published] at hget'
      split at hget'
      · cases hget'
      · next hnot => exact ⟨hnot, r, stream, room, hroom, hget'⟩
  · rw [if_neg ha] at hroom'
    refine ⟨?_, a, stream, room', hroom', hget⟩
    -- no other room publishes the stream
    intro hgone
    obtain ⟨old, hold, -⟩ := (Room.mem_streamsPublishedBy _ _ _).mp hgone
    exact ha (hrooms.stream_unique s a r stream old ⟨room', hroom', hget⟩ ⟨room, hroom, hold⟩)

section Survives

variable {ν : Type} {f : ControlState → BTreeMap StreamId ν}

/-- The entry of `s` is as before, or went with the stream. -/
def Survives (f : ControlState → BTreeMap StreamId ν) (s : StreamId)
    (state state' : ControlState) : Prop :=
  (f state')[s]? = (f state)[s]? ∨ ((f state')[s]? = none ∧ ¬ state'.Published s)

theorem survives_of_eq {state' : ControlState} (h : f state' = f state) :
    Survives f s state state' := .inl (by rw [h])

theorem Survives.of_published {state' : ControlState} (h : Survives f s state state')
    (hafter : state'.Published s) : (f state')[s]? = (f state)[s]? :=
  h.resolve_right fun hgone => hgone.2 hafter

theorem Survives.mem {state' : ControlState} (h : Survives f s state state')
    (hin : s ∈ f state') : s ∈ f state := by
  obtain ⟨entry, hentry⟩ := (mem_iff_get _ _).mp hin
  rcases h with hkept | ⟨hnone, -⟩
  · exact mem_of_get (hkept.symm.trans hentry)
  · rw [hnone] at hentry
    cases hentry

/-- After a first step, a user leaves a room. -/
theorem StreamMap.survives_leaveRoom_after (hf : StreamMap f) {state' : ControlState}
    (hrooms : RoomsOk state') (h : Survives f s state state') (u : UserId) (r : RoomId) :
    Survives f s state (state'.leaveRoom u r) := by
  cases hroom : state'.rooms[r]? with
  | none =>
      rw [leaveRoom_of_none hroom]
      exact h
  | some room =>
      have hget := leaveRoom_erased hroom u f hf.removeStreamState
        (fun st rooms voice_states viewer_stats =>
          hf.fixed st rooms voice_states viewer_stats st.display_names) s
      by_cases hafter : (state'.leaveRoom u r).Published s
      · obtain ⟨hstays, hbefore⟩ := hrooms.published_of_leaveRoom hroom hafter
        rw [if_neg hstays] at hget
        exact .inl (hget.trans (h.of_published hbefore))
      · split at hget
        · exact .inr ⟨hget, hafter⟩
        · rcases h with hkept | ⟨hnone, -⟩
          · exact .inl (hget.trans hkept)
          · exact .inr ⟨hget.trans hnone, hafter⟩

theorem StreamMap.survives_leaveRoom (hf : StreamMap f) (hrooms : RoomsOk state) (u : UserId)
    (r : RoomId) : Survives f s state (state.leaveRoom u r) :=
  hf.survives_leaveRoom_after hrooms (survives_of_eq rfl) u r

theorem StreamMap.survives_disconnectUser (hf : StreamMap f) (hrooms : RoomsOk state)
    (u : UserId) : Survives f s state (state.disconnectUser u) := by
  have hleft : RoomsOk (state.leaveRooms u (state.affectedRooms u)) ∧
      Survives f s state (state.leaveRooms u (state.affectedRooms u)) :=
    run_induction (fun (state : ControlState) r => state.leaveRoom u r)
      (P := fun st => RoomsOk st ∧ Survives f s state st)
      (fun st r hst => ⟨hst.1.leave u r, hf.survives_leaveRoom_after hst.1 hst.2 u r⟩)
      ⟨hrooms, survives_of_eq rfl⟩ (state.affectedRooms u)
  have hforget : f ((state.leaveRooms u (state.affectedRooms u)).forgetUser u)
      = f (state.leaveRooms u (state.affectedRooms u)) := hf.fixed _ _ _ _ _
  rw [disconnectUser_eq]
  rcases hleft.2 with hkept | ⟨hnone, hgone⟩
  · exact .inl (by rw [hforget, hkept])
  · exact .inr ⟨by rw [hforget, hnone], hgone⟩

theorem StreamMap.survives_unpublishStream (hf : StreamMap f) (hrooms : RoomsOk state)
    (session : Session) (request : UnpublishStream) :
    Survives f s state (state.unpublishStream session request).1 := by
  unfold unpublishStream
  split
  · exact survives_of_eq rfl
  · next room old hpublisher =>
      obtain ⟨-, hroom, hold⟩ := publisherStream_ok_iff.mp hpublisher
      show Survives f s state (removeRoomIfEmpty _ _)
      rw [unpublish_eq hrooms hroom]
      have hset : f (state.setRoom request.room_id (room.removePublishedStream request.stream_id))
          = f state := hf.fixed _ _ _ _ _
      unfold Survives
      rw [hf.removeStreamState, hset, get_erase]
      by_cases hs : s = request.stream_id
      · rw [if_pos hs]
        refine .inr ⟨rfl, ?_⟩
        subst hs
        rintro ⟨a, stream, room', hroom', hget⟩
        -- the stream is gone from its room, and was in no other
        have hroom'' : (state.setRoom request.room_id
            (room.removePublishedStream request.stream_id)).rooms[a]? = some room' := hroom'
        rw [get_setRoom] at hroom''
        split at hroom''
        · obtain rfl := Option.some.inj hroom''
          rw [Room.removePublishedStream, get_erase, if_pos rfl] at hget
          cases hget
        · next hne =>
            exact hne (hrooms.stream_unique _ a _ stream old ⟨room', hroom'', hget⟩
              ⟨room, hroom, hold⟩)
      · rw [if_neg hs]
        exact .inl rfl

end Survives

end ControlState

end TeamView.Relay
