import TeamView.Lib.Runs
import TeamView.Relay.ControlState

set_option autoImplicit false

/-! # What leaving does

`leave_room` runs three loops and three cleanups over five maps. The lemmas here state its
effect map by map, as lookups in the state before (`leaveRoom_rooms` and its siblings), so that
no later proof follows the loops again. The user's streams are the keys that
`mem_streamsPublishedBy` describes, and the room the user leaves behind is `Room.depart`.
-/

namespace TeamView.Relay

open TeamView.Protocol BTree Runs

/-! ## The room left behind -/

namespace Room

theorem mem_streamsPublishedBy (room : Room) (u : UserId) (s : StreamId) :
    s ∈ room.streamsPublishedBy u ↔
      ∃ stream : PublishedStream,
        room.published_streams[s]? = some stream ∧ stream.publisher_id = u := by
  unfold streamsPublishedBy
  simp only [List.mem_map, List.mem_filter, Prod.exists, beq_iff_eq,
    Std.ExtTreeMap.mem_toList_iff_getElem?_eq_some]
  constructor
  · rintro ⟨k, stream, ⟨hget, hpub⟩, rfl⟩
    exact ⟨stream, hget, hpub⟩
  · rintro ⟨stream, hget, hpub⟩
    exact ⟨s, stream, ⟨hget, hpub⟩, rfl⟩

@[simp] theorem depart_id (room : Room) (u : UserId) : (room.depart u).id = room.id :=
  run_fixed removePublishedStream Room.id (fun _ _ => rfl) (room.leave u) _

theorem mem_depart (room : Room) (u v : UserId) :
    v ∈ (room.depart u).participants ↔ v ≠ u ∧ v ∈ room.participants := by
  have hfixed : (room.depart u).participants = (room.leave u).participants :=
    run_fixed removePublishedStream Room.participants (fun _ _ => rfl) (room.leave u) _
  rw [hfixed, mem_leave]

theorem depart_published (room : Room) (u : UserId) (s : StreamId) :
    (room.depart u).published_streams[s]? =
      if s ∈ room.streamsPublishedBy u then none else room.published_streams[s]? := by
  have hmap : (room.depart u).published_streams =
      (room.streamsPublishedBy u).foldl (fun m k => m.erase k) room.published_streams :=
    run_map removePublishedStream Room.published_streams (fun m k => m.erase k)
      (fun _ _ => rfl) (room.leave u) _
  rw [hmap, get_foldl_erase]

theorem depart_subscriptions (room : Room) (u : UserId) (s : StreamId) :
    (room.depart u).subscriptions[s]? =
      if s ∈ room.streamsPublishedBy u then none else (room.leave u).subscriptions[s]? := by
  have hmap : (room.depart u).subscriptions =
      (room.streamsPublishedBy u).foldl (fun m k => m.erase k) (room.leave u).subscriptions :=
    run_map removePublishedStream Room.subscriptions (fun m k => m.erase k)
      (fun _ _ => rfl) (room.leave u) _
  rw [hmap, get_foldl_erase]

/-- A stream that stays loses the user who left as a subscriber, and nobody else. -/
theorem depart_subscribers {room : Room} {u : UserId} {s : StreamId}
    (hstays : s ∉ room.streamsPublishedBy u) (v : UserId) :
    v ∈ (room.depart u).subscribers s ↔ v ≠ u ∧ v ∈ room.subscribers s := by
  unfold subscribers
  rw [depart_subscriptions, if_neg hstays]
  have hleave : (room.leave u).subscriptions[s]? =
      (room.subscriptions[s]?.map fun subs => subs.erase u).filter fun subs => !subs.isEmpty := by
    ext subs
    rw [leave, get_retain_eq_some, get_mapValues, Option.filter_eq_some_iff]
  rw [hleave]
  cases room.subscriptions[s]? with
  | none => simp
  | some subs =>
      simp only [Option.map_some, Option.filter_some, Option.getD_some]
      cases hempty : (subs.erase u).isEmpty with
      | true =>
          have hnone := (set_isEmpty_iff _).mp hempty v
          rw [set_mem_erase] at hnone
          exact iff_of_false Std.ExtTreeSet.not_mem_empty hnone
      | false => exact set_mem_erase _ _ _

/-- The streams that stay are those of other publishers. -/
theorem get_depart_published (room : Room) (u : UserId) (s : StreamId)
    (stream : PublishedStream) :
    (room.depart u).published_streams[s]? = some stream ↔
      room.published_streams[s]? = some stream ∧ stream.publisher_id ≠ u := by
  rw [depart_published]
  by_cases hmem : s ∈ room.streamsPublishedBy u
  · rw [if_pos hmem]
    obtain ⟨stream', hget, hpub⟩ := (mem_streamsPublishedBy room u s).mp hmem
    constructor
    · intro h
      cases h
    · rintro ⟨hget', hne⟩
      obtain rfl := Option.some.inj (hget.symm.trans hget')
      exact absurd hpub hne
  · rw [if_neg hmem]
    constructor
    · intro hget
      exact ⟨hget, fun hpub => hmem ((mem_streamsPublishedBy room u s).mpr ⟨stream, hget, hpub⟩)⟩
    · exact And.left

theorem size_depart_participants_le (room : Room) (u : UserId) :
    (room.depart u).participants.size ≤ room.participants.size := by
  have hfixed : (room.depart u).participants = (room.leave u).participants :=
    run_fixed removePublishedStream Room.participants (fun _ _ => rfl) (room.leave u) _
  rw [hfixed]
  exact Std.ExtTreeSet.size_erase_le

theorem size_depart_published_le (room : Room) (u : UserId) :
    (room.depart u).published_streams.size ≤ room.published_streams.size :=
  run_induction removePublishedStream
    (P := fun room' => room'.published_streams.size ≤ room.published_streams.size)
    (fun _ _ h => le_trans Std.ExtTreeMap.size_erase_le h) (s := room.leave u) (le_refl _)
    (room.streamsPublishedBy u)

end Room

/-! ## The control state left behind -/

namespace ControlState

theorem mem_subscribedStreams (room : Room) (u : UserId) (s : StreamId) :
    s ∈ subscribedStreams room u ↔ u ∈ room.subscribers s := by
  unfold subscribedStreams Room.subscribers
  simp only [List.mem_map, List.mem_filter, Prod.exists,
    Std.ExtTreeMap.mem_toList_iff_getElem?_eq_some, Std.ExtTreeSet.contains_iff_mem]
  constructor
  · rintro ⟨k, subs, ⟨hget, hin⟩, rfl⟩
    rw [hget]
    exact hin
  · intro hin
    cases hget : room.subscriptions[s]? with
    | none =>
        rw [hget, Option.getD_none] at hin
        exact absurd hin Std.ExtTreeSet.not_mem_empty
    | some subs =>
        rw [hget, Option.getD_some] at hin
        exact ⟨s, subs, ⟨hget, hin⟩, rfl⟩

/-- The loops of `leave_room`, before the check that removes an empty room. -/
def leaveLoops (state : ControlState) (u : UserId) (r : RoomId) (room : Room) : ControlState :=
  (room.streamsPublishedBy u).foldl removeStreamState
    (((subscribedStreams room u).foldl (fun state s => state.removeViewerStats s u)
      (state.setRoom r (room.depart u))).removeVoiceState r u)

theorem leaveRoom_of_get {state : ControlState} {r : RoomId} {room : Room}
    (hroom : state.rooms[r]? = some room) (u : UserId) :
    state.leaveRoom u r = (state.leaveLoops u r room).removeRoomIfEmpty r := by
  unfold leaveRoom
  rw [hroom]
  rfl

theorem leaveRoom_of_none {state : ControlState} {r : RoomId} (hroom : state.rooms[r]? = none)
    (u : UserId) : state.leaveRoom u r = state := by
  unfold leaveRoom
  rw [hroom]

section Loops

variable (state : ControlState) (u : UserId) (r : RoomId) (room : Room)

/-- A field that the loops do not write. -/
theorem leaveLoops_fixed {α : Type} (f : ControlState → α)
    (hstream : ∀ st s, f (removeStreamState st s) = f st)
    (hstats : ∀ st s, f (removeViewerStats st s u) = f st)
    (hvoice : ∀ st, f (removeVoiceState st r u) = f st) :
    f (state.leaveLoops u r room) = f (state.setRoom r (room.depart u)) := by
  have hloop := run_fixed (fun st s => removeViewerStats st s u) f hstats
    (state.setRoom r (room.depart u)) (subscribedStreams room u)
  exact (run_fixed removeStreamState f hstream _ _).trans ((hvoice _).trans hloop)

/-- A map from which only the cleanup of the user's streams removes. -/
theorem leaveLoops_erased {ν : Type} (f : ControlState → BTreeMap StreamId ν)
    (hstream : ∀ st s, f (removeStreamState st s) = (f st).erase s)
    (hstats : ∀ st s, f (removeViewerStats st s u) = f st)
    (hvoice : ∀ st, f (removeVoiceState st r u) = f st)
    (hroom : f (state.setRoom r (room.depart u)) = f state) (s : StreamId) :
    (f (state.leaveLoops u r room))[s]? =
      if s ∈ room.streamsPublishedBy u then none else (f state)[s]? := by
  have hloop := run_fixed (fun st s => removeViewerStats st s u) f hstats
    (state.setRoom r (room.depart u)) (subscribedStreams room u)
  have hmap := run_map removeStreamState f (fun m k => m.erase k) hstream
    (((subscribedStreams room u).foldl (fun state s => state.removeViewerStats s u)
      (state.setRoom r (room.depart u))).removeVoiceState r u) (room.streamsPublishedBy u)
  unfold run at hloop hmap
  rw [leaveLoops, hmap, hvoice, hloop, hroom, get_foldl_erase]

theorem leaveLoops_voice_states :
    (state.leaveLoops u r room).voice_states = eraseNested state.voice_states r u := by
  have hloop := run_fixed (fun st s => removeViewerStats st s u) ControlState.voice_states
    (fun _ _ => rfl) (state.setRoom r (room.depart u)) (subscribedStreams room u)
  refine (run_fixed removeStreamState ControlState.voice_states (fun _ _ => rfl) _ _).trans ?_
  exact congrArg (fun m => eraseNested m r u) hloop

/-- Erasing the reports of a viewer about a list of streams. -/
theorem getNested_foldl_eraseNested (streams : List StreamId)
    (m : BTreeMap StreamId (BTreeMap UserId ViewerStatsReport)) (s : StreamId) (v : UserId) :
    getNested (streams.foldl (fun m s => eraseNested m s u) m) s v =
      if s ∈ streams ∧ v = u then none else getNested m s v := by
  induction streams generalizing m with
  | nil => simp
  | cons k streams ih =>
      rw [List.foldl_cons, ih, getNested_eraseNested]
      by_cases hv : v = u <;> by_cases hk : s = k <;> by_cases hmem : s ∈ streams <;>
        simp [hv, hk, hmem]

theorem leaveLoops_reports (s : StreamId) (v : UserId) :
    getNested (state.leaveLoops u r room).viewer_stats s v =
      if s ∈ room.streamsPublishedBy u ∨ (u ∈ room.subscribers s ∧ v = u) then none
      else getNested state.viewer_stats s v := by
  have hstats := run_map (fun st s => removeViewerStats st s u) ControlState.viewer_stats
    (fun m s => eraseNested m s u) (fun _ _ => rfl) (state.setRoom r (room.depart u))
    (subscribedStreams room u)
  have hstream := run_map removeStreamState ControlState.viewer_stats (fun m k => m.erase k)
    (fun _ _ => rfl)
    (((subscribedStreams room u).foldl (fun state s => state.removeViewerStats s u)
      (state.setRoom r (room.depart u))).removeVoiceState r u) (room.streamsPublishedBy u)
  have hget : (state.leaveLoops u r room).viewer_stats[s]? =
      if s ∈ room.streamsPublishedBy u then none
      else ((subscribedStreams room u).foldl (fun m s => eraseNested m s u)
        state.viewer_stats)[s]? := by
    unfold run at hstats hstream
    rw [leaveLoops, hstream, get_foldl_erase]
    split
    · rfl
    · exact congrArg (·[s]?) hstats
  rw [getNested_eq_bind, hget]
  by_cases hmem : s ∈ room.streamsPublishedBy u
  · rw [if_pos hmem, if_pos (.inl hmem), Option.bind_none]
  · rw [if_neg hmem, ← getNested_eq_bind, getNested_foldl_eraseNested]
    simp only [mem_subscribedStreams, hmem, false_or]

end Loops

/-! ## Removing an empty room -/

theorem removeRoomIfEmpty_of_get {state : ControlState} {r : RoomId} {room : Room}
    (hroom : state.rooms[r]? = some room) :
    state.removeRoomIfEmpty r =
      if room.isEmpty then
        { state with rooms := state.rooms.erase r, voice_states := state.voice_states.erase r }
      else state := by
  unfold removeRoomIfEmpty
  rw [hroom]

/-! ## The effect of `leave_room`, map by map -/

section Leave

variable {state : ControlState} {r : RoomId} {room : Room}

theorem leaveRoom_eq (hroom : state.rooms[r]? = some room) (u : UserId) :
    state.leaveRoom u r =
      if (room.depart u).isEmpty then
        { state.leaveLoops u r room with
          rooms := (state.leaveLoops u r room).rooms.erase r
          voice_states := (state.leaveLoops u r room).voice_states.erase r }
      else state.leaveLoops u r room := by
  rw [leaveRoom_of_get hroom]
  refine removeRoomIfEmpty_of_get ?_
  have hrooms : (state.leaveLoops u r room).rooms = (state.setRoom r (room.depart u)).rooms :=
    leaveLoops_fixed state u r room ControlState.rooms (fun _ _ => rfl) (fun _ _ => rfl)
      (fun _ => rfl)
  rw [hrooms, setRoom, get_insert, if_pos rfl]

theorem leaveRoom_rooms (hroom : state.rooms[r]? = some room) (u : UserId) (a : RoomId) :
    (state.leaveRoom u r).rooms[a]? =
      if a = r then (if (room.depart u).isEmpty then none else some (room.depart u))
      else state.rooms[a]? := by
  have hrooms : (state.leaveLoops u r room).rooms = state.rooms.insert r (room.depart u) :=
    leaveLoops_fixed state u r room ControlState.rooms (fun _ _ => rfl) (fun _ _ => rfl)
      (fun _ => rfl)
  rw [leaveRoom_eq hroom]
  split
  · rw [hrooms, get_erase, get_insert]
    by_cases ha : a = r <;> simp [ha]
  · rw [hrooms, get_insert]

/-- A room with a stream is not removed. -/
theorem leaveRoom_rooms_of_stream (hroom : state.rooms[r]? = some room) {u : UserId} {s : StreamId}
    {stream : PublishedStream} (hkept : (room.depart u).published_streams[s]? = some stream) :
    (state.leaveRoom u r).rooms[r]? = some (room.depart u) := by
  have hne : (room.depart u).isEmpty = false := by
    rw [Bool.eq_false_iff, ne_eq, Room.isEmpty, Bool.and_eq_true, map_isEmpty_iff]
    rintro ⟨-, hnone⟩
    rw [hnone s] at hkept
    cases hkept
  rw [leaveRoom_rooms hroom, if_pos rfl, hne]
  rfl

theorem leaveRoom_voice_states (hroom : state.rooms[r]? = some room) (u : UserId) (a : RoomId) :
    (state.leaveRoom u r).voice_states[a]? =
      if a = r then
        (if (room.depart u).isEmpty then none
        else (state.voice_states[r]?.map fun vs => vs.erase u).filter fun vs => !vs.isEmpty)
      else state.voice_states[a]? := by
  rw [leaveRoom_eq hroom]
  split
  · rw [leaveLoops_voice_states, get_erase, get_eraseNested]
    by_cases ha : a = r <;> simp [ha]
  · rw [leaveLoops_voice_states, get_eraseNested]

/-- A map from which only the cleanup of the user's streams removes. -/
theorem leaveRoom_erased (hroom : state.rooms[r]? = some room) (u : UserId) {ν : Type}
    (f : ControlState → BTreeMap StreamId ν)
    (hstream : ∀ st s, f (removeStreamState st s) = (f st).erase s)
    (hfixed : ∀ (st : ControlState) rooms voice_states viewer_stats,
      f { st with rooms := rooms, voice_states := voice_states, viewer_stats := viewer_stats }
        = f st) (s : StreamId) :
    (f (state.leaveRoom u r))[s]? =
      if s ∈ room.streamsPublishedBy u then none else (f state)[s]? := by
  have hloops := leaveLoops_erased state u r room f hstream
    (fun st s => hfixed st st.rooms st.voice_states (eraseNested st.viewer_stats s u))
    (fun st => hfixed st st.rooms (eraseNested st.voice_states r u) st.viewer_stats)
    (hfixed state (state.rooms.insert r (room.depart u)) state.voice_states state.viewer_stats) s
  rw [leaveRoom_eq hroom]
  split
  · exact (congrArg (·[s]?) (hfixed (state.leaveLoops u r room) _ _ _)).trans hloops
  · exact hloops

theorem leaveRoom_reports (hroom : state.rooms[r]? = some room) (u : UserId) (s : StreamId)
    (v : UserId) :
    getNested (state.leaveRoom u r).viewer_stats s v =
      if s ∈ room.streamsPublishedBy u ∨ (u ∈ room.subscribers s ∧ v = u) then none
      else getNested state.viewer_stats s v := by
  rw [← leaveLoops_reports state u r room, leaveRoom_eq hroom]
  split <;> rfl

/-- The fields that leaving does not touch. -/
theorem leaveRoom_fixed (state : ControlState) (u : UserId) (r : RoomId) :
    (state.leaveRoom u r).display_names = state.display_names ∧
      (state.leaveRoom u r).access_token = state.access_token ∧
      (state.leaveRoom u r).limits = state.limits ∧
      (state.leaveRoom u r).next_room_id = state.next_room_id ∧
      (state.leaveRoom u r).next_user_id = state.next_user_id := by
  cases hroom : state.rooms[r]? with
  | none => simp [leaveRoom_of_none hroom]
  | some room =>
      have hfixed := leaveLoops_fixed state u r room
        (fun st => (st.display_names, st.access_token, st.limits, st.next_room_id, st.next_user_id))
        (fun _ _ => rfl) (fun _ _ => rfl) (fun _ => rfl)
      simp only [setRoom, Prod.mk.injEq] at hfixed
      rw [leaveRoom_eq hroom]
      split <;> exact hfixed

/-- Leaving a room lets nobody into any room. -/
theorem leaveRoom_participants {u v : UserId} {a : RoomId} {room' : Room}
    (hroom' : (state.leaveRoom u r).rooms[a]? = some room') (hv : v ∈ room'.participants) :
    ∃ room : Room, state.rooms[a]? = some room ∧ v ∈ room.participants := by
  cases hroom : state.rooms[r]? with
  | none =>
      rw [leaveRoom_of_none hroom] at hroom'
      exact ⟨room', hroom', hv⟩
  | some room =>
      rw [leaveRoom_rooms hroom] at hroom'
      split at hroom'
      · next heq =>
          split at hroom'
          · cases hroom'
          · obtain rfl := Option.some.inj hroom'
            subst heq
            exact ⟨room, hroom, ((Room.mem_depart _ _ _).mp hv).2⟩
      · exact ⟨room', hroom', hv⟩

/-- The state after `u` has left the rooms of a list, in order. -/
def leaveRooms (state : ControlState) (u : UserId) (rooms : List RoomId) : ControlState :=
  run (fun state r => state.leaveRoom u r) state rooms

theorem disconnectUser_eq (state : ControlState) (u : UserId) :
    state.disconnectUser u = (state.leaveRooms u (state.affectedRooms u)).forgetUser u := rfl

theorem leaveRooms_participants {u v : UserId} {rooms : List RoomId} {a : RoomId} {room' : Room}
    (hroom' : (state.leaveRooms u rooms).rooms[a]? = some room')
    (hv : v ∈ room'.participants) :
    ∃ room : Room, state.rooms[a]? = some room ∧ v ∈ room.participants := by
  have hall : ∀ (a : RoomId) (room' : Room), (state.leaveRooms u rooms).rooms[a]? = some room' →
      v ∈ room'.participants →
        ∃ room : Room, state.rooms[a]? = some room ∧ v ∈ room.participants := by
    refine run_induction (fun (state : ControlState) r => state.leaveRoom u r)
      (P := fun (st : ControlState) => ∀ (a : RoomId) (room' : Room), st.rooms[a]? = some room' →
        v ∈ room'.participants →
          ∃ room : Room, state.rooms[a]? = some room ∧ v ∈ room.participants) ?_ ?_ rooms
    · intro st r ih a room' hroom' hv
      obtain ⟨room, hroom, hin⟩ := leaveRoom_participants hroom' hv
      exact ih a room hroom hin
    · exact fun a room' hroom' hv => ⟨room', hroom', hv⟩
  exact hall a room' hroom' hv

end Leave

end ControlState

end TeamView.Relay
