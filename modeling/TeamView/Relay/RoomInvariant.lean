import TeamView.Relay.Leaving
import TeamView.Relay.Updates

set_option autoImplicit false

/-! # The representation invariant of the control state

Seven maps of the control state must agree with each other. `RoomInvariant` states how, in three
parts that different updates touch: the rooms themselves (`RoomsOk`), the voice states next to
them (`VoiceOk`), and the maps keyed by stream (`StreamStateOk`). Each update preserves each part
(`update_roomInvariant`). Most updates replace one room, so the work is in what a room keeps
under each of its operations (`RoomOk.join` and its siblings).
-/

namespace TeamView.Relay

open TeamView.Protocol BTree MachineInt Relation

namespace ControlState

/-! ## The invariant -/

/-- A room as it may be stored under `r`. -/
structure RoomOk (limits : ControlLimits) (r : RoomId) (room : Room) : Prop where
  own_id : room.id = r
  inhabited : ∃ u, u ∈ room.participants
  stream_key : ∀ (s : StreamId) (stream : PublishedStream),
    room.published_streams[s]? = some stream → stream.stream_id = s
  publisher_inside : ∀ (s : StreamId) (stream : PublishedStream),
    room.published_streams[s]? = some stream → stream.publisher_id ∈ room.participants
  subscription_published : ∀ s, s ∈ room.subscriptions → s ∈ room.published_streams
  subscription_inhabited : ∀ (s : StreamId) (subs : BTreeSet UserId),
    room.subscriptions[s]? = some subs → ∃ u, u ∈ subs
  subscriber_inside : ∀ (s : StreamId) (subs : BTreeSet UserId) (u : UserId),
    room.subscriptions[s]? = some subs → u ∈ subs → u ∈ room.participants
  participants_le : room.participants.size ≤ limits.max_participants_per_room
  streams_le : room.published_streams.size ≤ limits.max_streams_per_room

structure RoomsOk (state : ControlState) : Prop where
  limit_pos : 1 ≤ state.limits.max_participants_per_room
  room_ok : ∀ (r : RoomId) (room : Room), state.rooms[r]? = some room → RoomOk state.limits r room
  stream_unique : ∀ (s : StreamId) (r r' : RoomId) (stream stream' : PublishedStream),
    state.PublishedIn r s stream → state.PublishedIn r' s stream' → r = r'
  rooms_le : state.rooms.size ≤ state.limits.max_rooms
  room_fresh : ∀ r, r ∈ state.rooms → r < state.next_room_id

/-- A voice state for exactly the participants of a room, and none without a room. -/
def VoiceAgrees : Option (BTreeMap UserId VoiceState) → Option Room → Prop
  | none, none => True
  | some room_voice_states, some room => ∀ u, u ∈ room_voice_states ↔ u ∈ room.participants
  | _, _ => False

structure VoiceOk (state : ControlState) : Prop where
  agrees : ∀ r : RoomId, VoiceAgrees state.voice_states[r]? state.rooms[r]?
  sane : ∀ (r : RoomId) (u : UserId) (voice_state : VoiceState),
    state.voiceState r u = some voice_state → (voice_state.muted && voice_state.speaking) = false

def Published (state : ControlState) (s : StreamId) : Prop :=
  ∃ (r : RoomId) (stream : PublishedStream), state.PublishedIn r s stream

structure StreamStateOk (state : ControlState) : Prop where
  keyframe_published : ∀ s, s ∈ state.pending_keyframe_requests → state.Published s
  metrics_published : ∀ s, s ∈ state.stream_metrics → state.Published s
  input_screen : ∀ s, s ∈ state.pending_remote_input →
    ∃ (r : RoomId) (stream : PublishedStream),
      state.PublishedIn r s stream ∧ stream.media_kind = .screen
  input_bounded : ∀ (s : StreamId) (queue : List RemoteInputEvent),
    state.pending_remote_input[s]? = some queue →
      1 ≤ queue.length ∧ queue.length ≤ maxRemoteInputQueueEvents

structure RoomInvariant (state : ControlState) : Prop extends
  RoomsOk state, VoiceOk state, StreamStateOk state

/-! ## What a room keeps -/

section Room

variable {limits : ControlLimits} {r : RoomId} {room : Room}

theorem RoomOk.new (hparticipants : 1 ≤ limits.max_participants_per_room) (name : String)
    (u : UserId) : RoomOk limits r ((Room.new r name).join u) where
  own_id := rfl
  inhabited := ⟨u, (Room.mem_join _ _ _).mpr (.inl rfl)⟩
  stream_key s stream h := by simp [Room.join, Room.new] at h
  publisher_inside s stream h := by simp [Room.join, Room.new] at h
  subscription_published s h := by simp [Room.join, Room.new] at h
  subscription_inhabited s subs h := by simp [Room.join, Room.new] at h
  subscriber_inside s subs v h := by simp [Room.join, Room.new] at h
  participants_le := by
    have hsize : ((∅ : BTreeSet UserId).insert u).size ≤ (∅ : BTreeSet UserId).size + 1 :=
      Std.ExtTreeSet.size_insert_le
    simp only [Room.join, Room.new]
    rw [Std.ExtTreeSet.size_empty] at hsize
    omega
  streams_le := by simp [Room.join, Room.new]

theorem RoomOk.join (h : RoomOk limits r room) {u : UserId}
    (hlimit : u ∈ room.participants ∨ room.participants.size < limits.max_participants_per_room) :
    RoomOk limits r (room.join u) where
  own_id := h.own_id
  inhabited := ⟨u, (Room.mem_join _ _ _).mpr (.inl rfl)⟩
  stream_key := h.stream_key
  publisher_inside s stream hs := (Room.mem_join _ _ _).mpr (.inr (h.publisher_inside s stream hs))
  subscription_published := h.subscription_published
  subscription_inhabited := h.subscription_inhabited
  subscriber_inside s subs v hs hv :=
    (Room.mem_join _ _ _).mpr (.inr (h.subscriber_inside s subs v hs hv))
  participants_le := by
    have hle := h.participants_le
    rcases hlimit with hin | hroom
    · rw [Room.join, set_size_insert_of_mem _ _ hin]
      exact hle
    · have hsize : (room.participants.insert u).size ≤ room.participants.size + 1 :=
        Std.ExtTreeSet.size_insert_le
      rw [Room.join]
      simp only
      omega
  streams_le := h.streams_le

theorem RoomOk.publishStream (h : RoomOk limits r room) {stream : PublishedStream}
    (hinside : stream.publisher_id ∈ room.participants)
    (hlimit : room.published_streams.size < limits.max_streams_per_room) :
    RoomOk limits r (room.publishStream stream) where
  own_id := h.own_id
  inhabited := h.inhabited
  stream_key s stream' hs := by
    rw [Room.publishStream, get_insert] at hs
    split at hs
    · next heq =>
        cases hs
        exact heq.symm
    · exact h.stream_key s stream' hs
  publisher_inside s stream' hs := by
    rw [Room.publishStream, get_insert] at hs
    split at hs
    · cases hs
      exact hinside
    · exact h.publisher_inside s stream' hs
  subscription_published s hs := by
    rw [Room.publishStream, mem_insert]
    exact .inr (h.subscription_published s hs)
  subscription_inhabited := h.subscription_inhabited
  subscriber_inside := h.subscriber_inside
  participants_le := h.participants_le
  streams_le := by
    have hsize : (room.published_streams.insert stream.stream_id stream).size
        ≤ room.published_streams.size + 1 := Std.ExtTreeMap.size_insert_le
    rw [Room.publishStream]
    simp only
    omega

/-- Rewriting the record of a published stream, under its own key and by its own publisher. -/
theorem RoomOk.setStream (h : RoomOk limits r room) {s : StreamId} {old stream : PublishedStream}
    (hold : room.published_streams[s]? = some old) (hkey : stream.stream_id = old.stream_id)
    (hpublisher : stream.publisher_id = old.publisher_id) :
    RoomOk limits r (setStream room s stream) where
  own_id := h.own_id
  inhabited := h.inhabited
  stream_key s' stream' hs := by
    rw [ControlState.setStream, get_insert] at hs
    split at hs
    · next heq =>
        cases hs
        rw [heq, hkey, h.stream_key s old hold]
    · exact h.stream_key s' stream' hs
  publisher_inside s' stream' hs := by
    rw [ControlState.setStream, get_insert] at hs
    split at hs
    · cases hs
      rw [hpublisher]
      exact h.publisher_inside s old hold
    · exact h.publisher_inside s' stream' hs
  subscription_published s' hs := by
    rw [ControlState.setStream, mem_insert]
    exact .inr (h.subscription_published s' hs)
  subscription_inhabited := h.subscription_inhabited
  subscriber_inside := h.subscriber_inside
  participants_le := h.participants_le
  streams_le := by
    rw [ControlState.setStream, size_insert_of_mem _ _ _ (mem_of_get hold)]
    exact h.streams_le

theorem RoomOk.removePublishedStream (h : RoomOk limits r room) (s : StreamId) :
    RoomOk limits r (room.removePublishedStream s) where
  own_id := h.own_id
  inhabited := h.inhabited
  stream_key s' stream hs := by
    rw [Room.removePublishedStream, get_erase] at hs
    split at hs
    · cases hs
    · exact h.stream_key s' stream hs
  publisher_inside s' stream hs := by
    rw [Room.removePublishedStream, get_erase] at hs
    split at hs
    · cases hs
    · exact h.publisher_inside s' stream hs
  subscription_published s' hs := by
    rw [Room.removePublishedStream, mem_erase] at hs ⊢
    exact ⟨hs.1, h.subscription_published s' hs.2⟩
  subscription_inhabited s' subs hs := by
    rw [Room.removePublishedStream, get_erase] at hs
    split at hs
    · cases hs
    · exact h.subscription_inhabited s' subs hs
  subscriber_inside s' subs u hs hu := by
    rw [Room.removePublishedStream, get_erase] at hs
    split at hs
    · cases hs
    · exact h.subscriber_inside s' subs u hs hu
  participants_le := h.participants_le
  streams_le := le_trans Std.ExtTreeMap.size_erase_le h.streams_le

/-- Replacing the subscribers of one published stream. -/
theorem RoomOk.setSubscribers (h : RoomOk limits r room) {s : StreamId} {subs : BTreeSet UserId}
    (hpublished : s ∈ room.published_streams) (hinhabited : ∃ u, u ∈ subs)
    (hinside : ∀ u, u ∈ subs → u ∈ room.participants) :
    RoomOk limits r { room with subscriptions := room.subscriptions.insert s subs } where
  own_id := h.own_id
  inhabited := h.inhabited
  stream_key := h.stream_key
  publisher_inside := h.publisher_inside
  subscription_published s' hs := by
    rcases (mem_insert _ _ _ _).mp hs with rfl | hs
    · exact hpublished
    · exact h.subscription_published s' hs
  subscription_inhabited s' subs' hs := by
    rw [get_insert] at hs
    split at hs
    · cases hs
      exact hinhabited
    · exact h.subscription_inhabited s' subs' hs
  subscriber_inside s' subs' u hs hu := by
    rw [get_insert] at hs
    split at hs
    · cases hs
      exact hinside u hu
    · exact h.subscriber_inside s' subs' u hs hu
  participants_le := h.participants_le
  streams_le := h.streams_le

theorem RoomOk.subscriber_mem (h : RoomOk limits r room) {s : StreamId} {u : UserId}
    (hu : u ∈ room.subscribers s) : u ∈ room.participants := by
  unfold Room.subscribers at hu
  cases hsubs : room.subscriptions[s]? with
  | none =>
      rw [hsubs] at hu
      exact absurd hu Std.ExtTreeSet.not_mem_empty
  | some subs =>
      rw [hsubs] at hu
      exact h.subscriber_inside s subs u hsubs hu

theorem RoomOk.subscribe (h : RoomOk limits r room) {s : StreamId} {u : UserId} {room' : Room}
    (hmember : u ∈ room.participants) (hsub : room.subscribe s u = some room') :
    RoomOk limits r room' := by
  unfold Room.subscribe at hsub
  split at hsub
  · next hpublished =>
      cases hsub
      refine h.setSubscribers (Std.ExtTreeMap.contains_iff_mem.mp hpublished)
        ⟨u, (set_mem_insert _ _ _).mpr (.inl rfl)⟩ ?_
      intro v hv
      rcases (set_mem_insert _ _ _).mp hv with rfl | hv
      · exact hmember
      · exact h.subscriber_mem hv
  · cases hsub

theorem RoomOk.unsubscribe (h : RoomOk limits r room) (s : StreamId) (u : UserId) :
    RoomOk limits r (room.unsubscribe s u) := by
  unfold Room.unsubscribe
  split
  · exact h
  · next subs hsubs =>
      split
      · exact
          { h with
            subscription_published := fun s' hs =>
              h.subscription_published s' ((mem_erase _ _ _).mp hs).2
            subscription_inhabited := fun s' subs' hs => by
              rw [get_erase] at hs
              split at hs
              · cases hs
              · exact h.subscription_inhabited s' subs' hs
            subscriber_inside := fun s' subs' v hs hv => by
              rw [get_erase] at hs
              split at hs
              · cases hs
              · exact h.subscriber_inside s' subs' v hs hv }
      · next hrest =>
          refine h.setSubscribers (h.subscription_published s (mem_of_get hsubs)) ?_ ?_
          · exact (set_isEmpty_eq_false_iff _).mp (Bool.eq_false_iff.mpr hrest)
          · intro v hv
            exact h.subscriber_inside s subs v hsubs ((set_mem_erase _ _ _).mp hv).2

/-- A room that a user leaves is in order, unless nobody is left. -/
theorem RoomOk.depart (h : RoomOk limits r room) (u : UserId)
    (hsome : ∃ v, v ∈ (room.depart u).participants) : RoomOk limits r (room.depart u) where
  own_id := (Room.depart_id room u).trans h.own_id
  inhabited := hsome
  stream_key s stream hs := h.stream_key s stream ((Room.get_depart_published _ _ _ _).mp hs).1
  publisher_inside s stream hs := by
    obtain ⟨hget, hother⟩ := (Room.get_depart_published _ _ _ _).mp hs
    exact (Room.mem_depart _ _ _).mpr ⟨hother, h.publisher_inside s stream hget⟩
  subscription_published s hs := by
    rw [mem_iff_get] at hs ⊢
    obtain ⟨subs, hs⟩ := hs
    rw [Room.depart_subscriptions] at hs
    split at hs
    · cases hs
    · next hkept =>
        obtain ⟨⟨old, hold, -⟩, -⟩ := (Room.leave_subscription _ _ _ _).mp hs
        rw [Room.depart_published, if_neg hkept, ← mem_iff_get]
        exact h.subscription_published s (mem_of_get hold)
  subscription_inhabited s subs hs := by
    rw [Room.depart_subscriptions] at hs
    split at hs
    · cases hs
    · obtain ⟨-, hne⟩ := (Room.leave_subscription _ _ _ _).mp hs
      exact (set_isEmpty_eq_false_iff _).mp hne
  subscriber_inside s subs v hs hv := by
    rw [Room.depart_subscriptions] at hs
    split at hs
    · cases hs
    · obtain ⟨⟨old, hold, rfl⟩, -⟩ := (Room.leave_subscription _ _ _ _).mp hs
      obtain ⟨hne, hv⟩ := (set_mem_erase _ _ _).mp hv
      exact (Room.mem_depart _ _ _).mpr ⟨hne, h.subscriber_inside s old v hold hv⟩
  participants_le := le_trans (Room.size_depart_participants_le room u) h.participants_le
  streams_le := le_trans (Room.size_depart_published_le room u) h.streams_le

/-- The room a user leaves is removed exactly when nobody is left: without participants it has
no publishers either. -/
theorem RoomOk.depart_isEmpty_iff (h : RoomOk limits r room) (u : UserId) :
    (room.depart u).isEmpty = true ↔ ∀ v, v ∉ (room.depart u).participants := by
  rw [Room.isEmpty, Bool.and_eq_true, set_isEmpty_iff, map_isEmpty_iff]
  refine ⟨And.left, fun hnobody => ⟨hnobody, fun s => ?_⟩⟩
  rw [Option.eq_none_iff_forall_ne_some]
  intro stream hs
  obtain ⟨hget, hother⟩ := (Room.get_depart_published _ _ _ _).mp hs
  exact hnobody stream.publisher_id
    ((Room.mem_depart _ _ _).mpr ⟨hother, h.publisher_inside s stream hget⟩)

end Room

/-! ## The rooms -/

section Rooms

variable {state state' : ControlState}

theorem publishedIn_iff {r : RoomId} {room : Room} (hroom : state.rooms[r]? = some room)
    (s : StreamId) (stream : PublishedStream) :
    state.PublishedIn r s stream ↔ room.published_streams[s]? = some stream := by
  constructor
  · rintro ⟨room', hroom', hget⟩
    obtain rfl := Option.some.inj (hroom.symm.trans hroom')
    exact hget
  · intro hget
    exact ⟨room, hroom, hget⟩

theorem RoomsOk.of_eq (h : RoomsOk state) (hrooms : state'.rooms = state.rooms)
    (hlimits : state'.limits = state.limits)
    (hnext : state'.next_room_id = state.next_room_id) : RoomsOk state' := by
  obtain ⟨hpos, hok, hunique, hle, hfresh⟩ := h
  refine ⟨?_, ?_, ?_, ?_, ?_⟩
  · rw [hlimits]
    exact hpos
  · rw [hrooms, hlimits]
    exact hok
  · unfold PublishedIn
    rw [hrooms]
    exact hunique
  · rw [hrooms, hlimits]
    exact hle
  · rw [hrooms, hnext]
    exact hfresh

/-- Replacing a room by one in order, whose streams it had before or nobody has. -/
theorem RoomsOk.setRoom (h : RoomsOk state) {r : RoomId} {room room' : Room}
    (hroom : state.rooms[r]? = some room) (hok : RoomOk state.limits r room')
    (hstreams : ∀ s, s ∈ room'.published_streams →
      s ∈ room.published_streams ∨ ¬ state.Published s) :
    RoomsOk (state.setRoom r room') where
  limit_pos := h.limit_pos
  room_ok a room'' ha := by
    rw [get_setRoom] at ha
    split at ha
    · next heq =>
        cases ha
        subst heq
        exact hok
    · exact h.room_ok a room'' ha
  stream_unique s a a' stream stream' := by
    -- a stream of the new room at `r` was published at `r` before, or nowhere
    have hback : ∀ (b : RoomId) (st : PublishedStream),
        (state.setRoom r room').PublishedIn b s st →
          (∃ st', state.PublishedIn b s st') ∨ (b = r ∧ ¬ state.Published s) := by
      rintro b st ⟨room'', hb, hget⟩
      rw [get_setRoom] at hb
      split at hb
      · next heq =>
          cases hb
          rcases hstreams s (mem_of_get hget) with hold | hnew
          · obtain ⟨st', hst'⟩ := (mem_iff_get _ _).mp hold
            subst heq
            exact .inl ⟨st', room, hroom, hst'⟩
          · exact .inr ⟨heq, hnew⟩
      · exact .inl ⟨st, room'', hb, hget⟩
    intro ha ha'
    rcases hback a stream ha with ⟨st, hst⟩ | ⟨rfl, hnew⟩
    · rcases hback a' stream' ha' with ⟨st', hst'⟩ | ⟨-, hnew⟩
      · exact h.stream_unique s a a' st st' hst hst'
      · exact absurd ⟨a, st, hst⟩ hnew
    · rcases hback a' stream' ha' with ⟨st', hst'⟩ | ⟨rfl, -⟩
      · exact absurd ⟨a', st', hst'⟩ hnew
      · rfl
  rooms_le := by
    rw [ControlState.setRoom, size_insert_of_mem _ _ _ (mem_of_get hroom)]
    exact h.rooms_le
  room_fresh a ha := by
    rcases (mem_insert _ _ _ _).mp ha with rfl | ha
    · exact h.room_fresh a (mem_of_get hroom)
    · exact h.room_fresh a ha

/-- `RoomsOk.setRoom` for a room that keeps its streams. -/
theorem RoomsOk.setRoom_of_subset (h : RoomsOk state) {r : RoomId} {room room' : Room}
    (hroom : state.rooms[r]? = some room) (hok : RoomOk state.limits r room')
    (hstreams : ∀ s, s ∈ room'.published_streams → s ∈ room.published_streams) :
    RoomsOk (state.setRoom r room') :=
  h.setRoom hroom hok fun s hs => .inl (hstreams s hs)

/-- After an `unpublish` the publisher is still there, so the room is not removed. -/
theorem removeRoomIfEmpty_eq_self {r : RoomId} {room : Room} (hroom : state.rooms[r]? = some room)
    (hsome : ∃ u, u ∈ room.participants) : state.removeRoomIfEmpty r = state := by
  rw [removeRoomIfEmpty_of_get hroom, if_neg]
  rw [Room.isEmpty, Bool.and_eq_true, not_and_or]
  exact .inl (Bool.eq_false_iff.mp ((set_isEmpty_eq_false_iff _).mpr hsome))

theorem unpublish_eq (h : RoomsOk state) {r : RoomId} {room : Room}
    (hroom : state.rooms[r]? = some room) (s : StreamId) :
    ((state.setRoom r (room.removePublishedStream s)).removeStreamState s).removeRoomIfEmpty r
      = (state.setRoom r (room.removePublishedStream s)).removeStreamState s := by
  have hget : ((state.setRoom r (room.removePublishedStream s)).removeStreamState s).rooms[r]?
      = some (room.removePublishedStream s) := (get_setRoom _ _ _ _).trans (if_pos rfl)
  exact removeRoomIfEmpty_eq_self hget (h.room_ok r room hroom).inhabited

theorem mem_setStream {room : Room} {s : StreamId} {old stream : PublishedStream}
    (hold : room.published_streams[s]? = some old) (s' : StreamId) :
    s' ∈ (setStream room s stream).published_streams → s' ∈ room.published_streams := by
  intro hs
  rcases (mem_insert _ _ _ _).mp hs with rfl | hs
  · exact mem_of_get hold
  · exact hs

theorem RoomsOk.create (h : RoomsOk state) (name : String) (u : UserId)
    (hlimit : state.rooms.size < state.limits.max_rooms) :
    RoomsOk { state with
      next_room_id := state.next_room_id + 1
      rooms := state.rooms.insert state.next_room_id
        ((Room.new state.next_room_id name).join u) } where
  limit_pos := h.limit_pos
  room_ok a room ha := by
    rw [get_insert] at ha
    split at ha
    · next heq =>
        cases ha
        subst heq
        exact .new h.limit_pos name u
    · exact h.room_ok a room ha
  stream_unique s a a' stream stream' := by
    -- the new room publishes nothing
    have hback : ∀ (b : RoomId) (st : PublishedStream),
        PublishedIn { state with
          next_room_id := state.next_room_id + 1
          rooms := state.rooms.insert state.next_room_id
            ((Room.new state.next_room_id name).join u) } b s st → state.PublishedIn b s st := by
      rintro b st ⟨room, hb, hget⟩
      simp only [get_insert] at hb
      split at hb
      · cases hb
        simp [Room.join, Room.new] at hget
      · exact ⟨room, hb, hget⟩
    intro ha ha'
    exact h.stream_unique s a a' stream stream' (hback a stream ha) (hback a' stream' ha')
  rooms_le := by
    have hsize : (state.rooms.insert state.next_room_id
        ((Room.new state.next_room_id name).join u)).size ≤ state.rooms.size + 1 :=
      Std.ExtTreeMap.size_insert_le
    simp only
    omega
  room_fresh a ha := by
    rcases (mem_insert _ _ _ _).mp ha with rfl | ha
    · exact Nat.lt_succ_self _
    · exact Nat.lt_succ_of_lt (h.room_fresh a ha)

theorem RoomsOk.leave (h : RoomsOk state) (u : UserId) (r : RoomId) :
    RoomsOk (state.leaveRoom u r) := by
  cases hroom : state.rooms[r]? with
  | none =>
      rw [leaveRoom_of_none hroom]
      exact h
  | some room =>
      obtain ⟨-, -, hlimits, hnext, -⟩ := leaveRoom_fixed state u r
      have hokroom := h.room_ok r room hroom
      -- the rooms afterwards: the departed one, unless nobody is left, and the others as before
      have hlook : ∀ (a : RoomId) (room' : Room),
          (state.leaveRoom u r).rooms[a]? = some room' →
            (a = r ∧ room' = room.depart u ∧ (room.depart u).isEmpty = false) ∨
              state.rooms[a]? = some room' := by
        intro a room' ha
        rw [leaveRoom_rooms hroom] at ha
        split at ha
        · next heq =>
            split at ha
            · cases ha
            · next hne =>
                cases ha
                exact .inl ⟨heq, rfl, Bool.eq_false_iff.mpr hne⟩
        · exact .inr ha
      have hback : ∀ (a : RoomId) (s : StreamId) (stream : PublishedStream),
          (state.leaveRoom u r).PublishedIn a s stream → state.PublishedIn a s stream := by
        rintro a s stream ⟨room', ha, hget⟩
        rcases hlook a room' ha with ⟨rfl, rfl, -⟩ | hsame
        · exact ⟨room, hroom, ((Room.get_depart_published _ _ _ _).mp hget).1⟩
        · exact ⟨room', hsame, hget⟩
      have hmem : ∀ a, a ∈ (state.leaveRoom u r).rooms → a ∈ state.rooms := by
        intro a ha
        obtain ⟨room', ha⟩ := (mem_iff_get _ _).mp ha
        rcases hlook a room' ha with ⟨rfl, -, -⟩ | hsame
        · exact mem_of_get hroom
        · exact mem_of_get hsame
      refine ⟨?_, ?_, ?_, ?_, ?_⟩
      · rw [hlimits]
        exact h.limit_pos
      · intro a room' ha
        rw [hlimits]
        rcases hlook a room' ha with ⟨rfl, rfl, hne⟩ | hsame
        · -- the room is kept only while somebody is in it
          refine hokroom.depart u ?_
          by_contra hnobody
          rw [(hokroom.depart_isEmpty_iff u).mpr (not_exists.mp hnobody)] at hne
          cases hne
        · exact h.room_ok a room' hsame
      · intro s a a' stream stream' ha ha'
        exact h.stream_unique s a a' stream stream' (hback a s stream ha) (hback a' s stream' ha')
      · rw [hlimits]
        refine le_trans ?_ h.rooms_le
        rw [leaveRoom_eq hroom]
        -- the loops replace the room, and the removal can only shrink the map
        have hrooms : (state.leaveLoops u r room).rooms = state.rooms.insert r (room.depart u) :=
          leaveLoops_fixed state u r room ControlState.rooms (fun _ _ => rfl) (fun _ _ => rfl)
            (fun _ => rfl)
        have hsize : (state.leaveLoops u r room).rooms.size = state.rooms.size := by
          rw [hrooms, size_insert_of_mem _ _ _ (mem_of_get hroom)]
        split
        · exact le_trans Std.ExtTreeMap.size_erase_le (le_of_eq hsize)
        · exact le_of_eq hsize
      · intro a ha
        rw [hnext]
        exact h.room_fresh a (hmem a ha)

theorem retarget_roomsOk (h : RoomsOk state) (s : StreamId) (b f w ht : Nat) :
    RoomsOk (state.updateStreamTarget s b f w ht) := by
  rcases state.updateStreamTarget_cases s b f w ht with
    ⟨-, heq⟩ | ⟨r, room, stream, hroom, hstream, heq⟩
  · rw [heq]
    exact h
  · rw [heq]
    exact h.setRoom_of_subset hroom ((h.room_ok r room hroom).setStream hstream rfl rfl)
      (mem_setStream hstream)

/-- Every update keeps the rooms in order. -/
theorem update_roomsOk {request : Option ClientControl} {u : UserId} (h : RoomsOk state)
    (hupdate : Update request u state state') : RoomsOk state' := by
  cases hupdate with
  | named n name hello hnext hrequest => exact h.of_eq rfl rfl rfl
  | created name create hlimit hrequest => exact (h.create name u hlimit).of_eq rfl rfl rfl
  | joined r room hroom hlimit hrequest =>
      have hset := h.setRoom_of_subset hroom ((h.room_ok r room hroom).join hlimit)
        (fun s hs => hs)
      exact hset.of_eq rfl rfl rfl
  | left r => exact h.leave u r
  | voiced r room voice_state hroom hmember hsane => exact h.of_eq rfl rfl rfl
  | published room publish hroom hmember hnew hlimit =>
      refine h.setRoom hroom ((h.room_ok _ room hroom).publishStream hmember hlimit) ?_
      intro s hs
      rcases (mem_insert _ _ _ _).mp hs with rfl | hs
      · refine .inr ?_
        rintro ⟨a, stream, room', ha, hget⟩
        exact publishedStream_eq_none_iff.mp hnew a room' ha (mem_of_get hget)
      · exact .inl hs
  | unpublished r room s stream hroom hstream hpublisher =>
      rw [unpublish_eq h hroom]
      have hset := h.setRoom_of_subset hroom ((h.room_ok r room hroom).removePublishedStream s)
        (fun s' hs => ((mem_erase _ _ _).mp hs).2)
      exact hset.of_eq rfl rfl rfl
  | subscribed r room room' s hroom hmember hsub hrequest =>
      refine h.setRoom_of_subset hroom ((h.room_ok r room hroom).subscribe hmember hsub) ?_
      rw [(Room.subscribe_fixed hsub).1]
      exact fun _ hs => hs
  | unsubscribed r room s hroom =>
      have hset := h.setRoom_of_subset hroom ((h.room_ok r room hroom).unsubscribe s u) (by
        rw [(Room.unsubscribe_fixed room s u).1]
        exact fun _ hs => hs)
      exact hset.of_eq rfl rfl rfl
  | configured room stream config hroom hstream hpublisher hcodec =>
      exact h.setRoom_of_subset hroom ((h.room_ok _ room hroom).setStream hstream rfl rfl)
        (mem_setStream hstream)
  | retargeted s b f w ht hpublisher => exact retarget_roomsOk h s b f w ht
  | demanded s reason huser => exact h.of_eq rfl rfl rfl
  | answered s hpublisher => exact h.of_eq rfl rfl rfl
  | inputQueued r room s stream event hroom hstream hscreen hviewer => exact h.of_eq rfl rfl rfl
  | inputPolled r room s stream n hroom hstream hpublisher =>
      unfold drainRemoteInput
      split
      · exact h
      · split <;> exact h.of_eq rfl rfl rfl
  | reported report hrequest => exact h.of_eq rfl rfl rfl
  | forgotten hrequest => exact h.of_eq rfl rfl rfl

end Rooms

/-! ## The voice states -/

section Voice

variable {state state' : ControlState}

/-- Voice states and participants that an update does not touch still agree. -/
theorem VoiceOk.of_eq (h : VoiceOk state) (hvoice : state'.voice_states = state.voice_states)
    (hrooms : ∀ a : RoomId, (state'.rooms[a]?).map Room.participants
      = (state.rooms[a]?).map Room.participants) : VoiceOk state' where
  agrees a := by
    have hagrees := h.agrees a
    have hsame := hrooms a
    rw [hvoice]
    cases hnew : state'.rooms[a]? with
    | none =>
        cases hold : state.rooms[a]? with
        | none =>
            rw [hold] at hagrees
            exact hagrees
        | some room =>
            rw [hnew, hold] at hsame
            cases hsame
    | some room' =>
        cases hold : state.rooms[a]? with
        | none =>
            rw [hnew, hold] at hsame
            cases hsame
        | some room =>
            rw [hnew, hold] at hsame
            have hparticipants : room'.participants = room.participants := Option.some.inj hsame
            rw [hold] at hagrees
            cases hvs : state.voice_states[a]? with
            | none =>
                rw [hvs] at hagrees
                exact hagrees
            | some vs =>
                rw [hvs] at hagrees
                intro u
                rw [hparticipants]
                exact hagrees u
  sane r u v hv := by
    unfold voiceState at hv
    rw [hvoice] at hv
    exact h.sane r u v hv

theorem VoiceOk.setRoom (h : VoiceOk state) {r : RoomId} {room room' : Room}
    (hroom : state.rooms[r]? = some room) (hsame : room'.participants = room.participants) :
    VoiceOk (state.setRoom r room') := by
  refine h.of_eq rfl fun a => ?_
  rw [get_setRoom]
  split
  · next heq =>
      subst heq
      rw [hroom, Option.map_some, Option.map_some, hsame]
  · rfl

/-- The voice states of a live room. -/
theorem VoiceOk.get (h : VoiceOk state) {r : RoomId} {room : Room}
    (hroom : state.rooms[r]? = some room) :
    ∃ vs : BTreeMap UserId VoiceState,
      state.voice_states[r]? = some vs ∧ ∀ u, u ∈ vs ↔ u ∈ room.participants := by
  have hagrees := h.agrees r
  rw [hroom] at hagrees
  cases hvs : state.voice_states[r]? with
  | none =>
      rw [hvs] at hagrees
      exact hagrees.elim
  | some vs =>
      rw [hvs] at hagrees
      exact ⟨vs, rfl, hagrees⟩

theorem voiceState_of_get {r : RoomId} {vs : BTreeMap UserId VoiceState}
    (hvs : state.voice_states[r]? = some vs) (u : UserId) : state.voiceState r u = vs[u]? := by
  rw [voiceState, getNested_eq_bind, hvs, Option.bind_some]

/-- Storing the voice states of room `r` next to the room itself. -/
theorem VoiceOk.store (h : VoiceOk state) (r : RoomId) (room : Room)
    (vs : BTreeMap UserId VoiceState) (hrooms : ∀ a : RoomId,
      state'.rooms[a]? = if a = r then some room else state.rooms[a]?)
    (hvoice : state'.voice_states = state.voice_states.insert r vs)
    (hagrees : ∀ u, u ∈ vs ↔ u ∈ room.participants)
    (hsane : ∀ (u : UserId) (v : VoiceState), vs[u]? = some v → (v.muted && v.speaking) = false) :
    VoiceOk state' where
  agrees a := by
    rw [hvoice, hrooms, get_insert]
    split
    · exact hagrees
    · exact h.agrees a
  sane a u v hv := by
    rw [voiceState, getNested_eq_bind, hvoice, get_insert] at hv
    split at hv
    · exact hsane u v hv
    · rw [← getNested_eq_bind] at hv
      exact h.sane a u v hv

theorem defaultVoiceState_sane (r : RoomId) (u : UserId) :
    ((defaultVoiceState r u).muted && (defaultVoiceState r u).speaking) = false := rfl

/-- The voice states of a room when `u` has entered it. -/
theorem VoiceOk.enter (h : VoiceOk state) {r : RoomId} {u : UserId} (room : Room)
    (vs : BTreeMap UserId VoiceState) (hvs : (state.voice_states[r]?).getD ∅ = vs)
    (hrooms : ∀ a : RoomId,
      state'.rooms[a]? = if a = r then some room else state.rooms[a]?)
    (hvoice : state'.voice_states = state.voice_states)
    (hroom : ∀ v, v ∈ room.participants ↔ v = u ∨ v ∈ vs) :
    VoiceOk (state'.ensureVoiceState r u) := by
  have hold : ∀ (v : UserId) (voice_state : VoiceState), vs[v]? = some voice_state →
      (voice_state.muted && voice_state.speaking) = false := by
    intro v voice_state hv
    refine h.sane r v voice_state ?_
    rw [voiceState, getNested_eq_bind]
    cases hget : state.voice_states[r]? with
    | none =>
        rw [hget, Option.getD_none] at hvs
        subst hvs
        simp at hv
    | some vs' =>
        rw [hget, Option.getD_some] at hvs
        subst hvs
        exact hv
  -- a voice state is stored only where there is none
  have hstore : (state'.ensureVoiceState r u).voice_states = state.voice_states.insert r
      (if vs.contains u then vs else vs.insert u (defaultVoiceState r u)) := by
    rw [ensureVoiceState, hvoice, hvs]
  refine h.store r room _ hrooms hstore ?_ ?_
  · intro v
    rw [hroom]
    split
    · next hin =>
        rw [Std.ExtTreeMap.contains_iff_mem] at hin
        constructor
        · exact .inr
        · rintro (rfl | hv)
          · exact hin
          · exact hv
    · rw [mem_insert]
  · intro v voice_state hv
    split at hv
    · exact hold v voice_state hv
    · rw [get_insert] at hv
      split at hv
      · cases hv
        exact defaultVoiceState_sane r u
      · exact hold v voice_state hv

theorem VoiceOk.leave (hrooms : RoomsOk state) (h : VoiceOk state) (u : UserId) (r : RoomId) :
    VoiceOk (state.leaveRoom u r) := by
  cases hroom : state.rooms[r]? with
  | none =>
      rw [leaveRoom_of_none hroom]
      exact h
  | some room =>
      obtain ⟨vs, hvs, hagrees⟩ := h.get hroom
      have hokroom := hrooms.room_ok r room hroom
      refine ⟨fun a => ?_, ?_⟩
      · rw [leaveRoom_rooms hroom, leaveRoom_voice_states hroom]
        by_cases ha : a = r
        · rw [if_pos ha, if_pos ha]
          cases hempty : (room.depart u).isEmpty with
          | true => exact True.intro
          | false =>
              -- somebody is left, so the voice states are not dropped either
              have hrest : ∀ v, v ∈ vs.erase u ↔ v ∈ (room.depart u).participants := by
                intro v
                rw [mem_erase, Room.mem_depart, hagrees]
              have hkeep : (vs.erase u).isEmpty = false := by
                rw [Bool.eq_false_iff, ne_eq, map_isEmpty_iff]
                intro hnone
                have hnobody := (hokroom.depart_isEmpty_iff u).not.mp (by rw [hempty]; simp)
                refine hnobody fun v hv => ?_
                rw [← hrest, mem_iff_get, hnone v] at hv
                obtain ⟨_, hv⟩ := hv
                cases hv
              simp only [hvs, Option.map_some, Option.filter_some, hkeep, Bool.not_false, if_true]
              exact hrest
        · rw [if_neg ha, if_neg ha]
          exact h.agrees a
      · intro a v voice_state hv
        have hback : state.voiceState a v = some voice_state := by
          rw [voiceState, getNested_eq_bind, leaveRoom_voice_states hroom] at hv
          rw [voiceState, getNested_eq_bind]
          by_cases ha : a = r
          · subst ha
            rw [if_pos rfl] at hv
            split at hv
            · cases hv
            · rw [getNested_erased] at hv
              split at hv
              · cases hv
              · exact hv
          · rw [if_neg ha] at hv
            exact hv
        exact h.sane a v voice_state hback

theorem retarget_voiceOk (h : VoiceOk state) (s : StreamId) (b f w ht : Nat) :
    VoiceOk (state.updateStreamTarget s b f w ht) := by
  rcases state.updateStreamTarget_cases s b f w ht with
    ⟨-, heq⟩ | ⟨r, room, stream, hroom, hstream, heq⟩
  · rw [heq]
    exact h
  · rw [heq]
    exact h.setRoom hroom rfl

/-- No room has the id that the next one gets. -/
theorem RoomsOk.next_room_free (hrooms : RoomsOk state) :
    state.rooms[state.next_room_id]? = none := by
  rw [← not_mem_iff_get]
  intro hmem
  exact absurd (hrooms.room_fresh _ hmem) (Nat.lt_irrefl _)

/-- Every update keeps the voice states in step with the participants. -/
theorem update_voiceOk {request : Option ClientControl} {u : UserId} (hrooms : RoomsOk state)
    (h : VoiceOk state) (hupdate : Update request u state state') : VoiceOk state' := by
  cases hupdate with
  | named n name hello hnext hrequest => exact h.of_eq rfl fun _ => rfl
  | created name create hlimit hrequest =>
      -- a room that is not there has no voice states either
      have hnone := hrooms.next_room_free
      have hvs : state.voice_states[state.next_room_id]? = none := by
        have hagrees := h.agrees state.next_room_id
        rw [hnone] at hagrees
        cases hget : state.voice_states[state.next_room_id]? with
        | none => rfl
        | some vs =>
            rw [hget] at hagrees
            exact hagrees.elim
      refine h.enter ((Room.new state.next_room_id name).join u) ∅
        (by rw [hvs, Option.getD_none]) (fun a => get_insert _ _ _ _) rfl ?_
      intro v
      rw [Room.mem_join]
      simp [Room.new]
  | joined r room hroom hlimit hrequest =>
      obtain ⟨vs, hvs, hagrees⟩ := h.get hroom
      -- joining writes a voice state for `u` as well
      refine h.enter (room.join u) vs (by rw [hvs, Option.getD_some])
        (get_setRoom state r · _) rfl ?_
      intro v
      rw [Room.mem_join, hagrees]
  | left r => exact VoiceOk.leave hrooms h u r
  | voiced r room voice_state hroom hmember hsane =>
      obtain ⟨vs, hvs, hagrees⟩ := h.get hroom
      refine h.store r room (vs.insert u voice_state) ?_ ?_ ?_ ?_
      · intro a
        split
        · next heq =>
            subst heq
            exact hroom
        · rfl
      · simp only [insertNested, hvs, Option.getD_some]
      · intro v
        -- `u` is a participant already, so its new state adds no key
        rw [mem_insert, hagrees]
        constructor
        · rintro (rfl | hv)
          · exact hmember
          · exact hv
        · exact .inr
      · intro v voice_state' hv
        rw [get_insert] at hv
        split at hv
        · cases hv
          exact hsane
        · exact h.sane r v voice_state' (by rw [voiceState_of_get hvs]; exact hv)
  | published room publish hroom hmember hnew hlimit => exact h.setRoom hroom rfl
  | unpublished r room s stream hroom hstream hpublisher =>
      rw [unpublish_eq hrooms hroom]
      have hset : VoiceOk (state.setRoom r (room.removePublishedStream s)) := h.setRoom hroom rfl
      exact hset.of_eq rfl fun _ => rfl
  | subscribed r room room' s hroom hmember hsub hrequest =>
      exact h.setRoom hroom (Room.subscribe_fixed hsub).2
  | unsubscribed r room s hroom =>
      exact (h.setRoom hroom (Room.unsubscribe_fixed room s u).2).of_eq rfl fun _ => rfl
  | configured room stream config hroom hstream hpublisher hcodec => exact h.setRoom hroom rfl
  | retargeted s b f w ht hpublisher => exact retarget_voiceOk h s b f w ht
  | demanded s reason huser => exact h.of_eq rfl fun _ => rfl
  | answered s hpublisher => exact h.of_eq rfl fun _ => rfl
  | inputQueued r room s stream event hroom hstream hscreen hviewer =>
      exact h.of_eq rfl fun _ => rfl
  | inputPolled r room s stream n hroom hstream hpublisher =>
      unfold drainRemoteInput
      split
      · exact h
      · split <;> exact h.of_eq rfl fun _ => rfl
  | reported report hrequest => exact h.of_eq rfl fun _ => rfl
  | forgotten hrequest => exact h.of_eq rfl fun _ => rfl

end Voice

/-! ## The maps keyed by stream -/

section Streams

variable {state state' : ControlState}

/-- Every stream outside `gone` stays published in its room, with its media kind. -/
def KeepsStreams (gone : StreamId → Prop) (state state' : ControlState) : Prop :=
  ∀ (r : RoomId) (s : StreamId) (stream : PublishedStream),
    ¬ gone s → state.PublishedIn r s stream →
      ∃ stream' : PublishedStream,
        state'.PublishedIn r s stream' ∧ stream'.media_kind = stream.media_kind

/-- The maps keyed by stream stay in order when they lose the streams in `gone` and gain
nothing. -/
theorem StreamStateOk.shrink (h : StreamStateOk state) {gone : StreamId → Prop}
    (hkeeps : KeepsStreams gone state state')
    (hkeyframes : ∀ s, s ∈ state'.pending_keyframe_requests →
      ¬ gone s ∧ s ∈ state.pending_keyframe_requests)
    (hmetrics : ∀ s, s ∈ state'.stream_metrics → ¬ gone s ∧ s ∈ state.stream_metrics)
    (hinput : ∀ (s : StreamId) (queue : List RemoteInputEvent),
      state'.pending_remote_input[s]? = some queue →
        ¬ gone s ∧ state.pending_remote_input[s]? = some queue) : StreamStateOk state' where
  keyframe_published s hs := by
    obtain ⟨hstays, hs⟩ := hkeyframes s hs
    obtain ⟨r, stream, hin⟩ := h.keyframe_published s hs
    obtain ⟨stream', hin', -⟩ := hkeeps r s stream hstays hin
    exact ⟨r, stream', hin'⟩
  metrics_published s hs := by
    obtain ⟨hstays, hs⟩ := hmetrics s hs
    obtain ⟨r, stream, hin⟩ := h.metrics_published s hs
    obtain ⟨stream', hin', -⟩ := hkeeps r s stream hstays hin
    exact ⟨r, stream', hin'⟩
  input_screen s hs := by
    obtain ⟨queue, hqueue⟩ := (mem_iff_get _ _).mp hs
    obtain ⟨hstays, hqueue⟩ := hinput s queue hqueue
    obtain ⟨r, stream, hin, hkind⟩ := h.input_screen s (mem_of_get hqueue)
    obtain ⟨stream', hin', hkind'⟩ := hkeeps r s stream hstays hin
    exact ⟨r, stream', hin', hkind'.trans hkind⟩
  input_bounded s queue hqueue := h.input_bounded s queue (hinput s queue hqueue).2

/-- `StreamStateOk.shrink` when no stream goes and no map changes. -/
theorem StreamStateOk.of_keeps (h : StreamStateOk state)
    (hkeeps : KeepsStreams (fun _ => False) state state')
    (hkeyframes : state'.pending_keyframe_requests = state.pending_keyframe_requests)
    (hmetrics : state'.stream_metrics = state.stream_metrics)
    (hinput : state'.pending_remote_input = state.pending_remote_input) : StreamStateOk state' := by
  refine h.shrink hkeeps ?_ ?_ ?_
  · rw [hkeyframes]
    exact fun s hs => ⟨id, hs⟩
  · rw [hmetrics]
    exact fun s hs => ⟨id, hs⟩
  · rw [hinput]
    exact fun s queue hs => ⟨id, hs⟩

theorem keepsStreams_of_rooms (gone : StreamId → Prop) (hrooms : state'.rooms = state.rooms) :
    KeepsStreams gone state state' := by
  rintro r s stream - ⟨room, hroom, hget⟩
  exact ⟨stream, ⟨room, by rw [hrooms]; exact hroom, hget⟩, rfl⟩

theorem keepsStreams_setRoom {gone : StreamId → Prop} {r : RoomId} {room room' : Room}
    (hroom : state.rooms[r]? = some room)
    (hkeep : ∀ (s : StreamId) (stream : PublishedStream), ¬ gone s →
      room.published_streams[s]? = some stream →
        ∃ stream' : PublishedStream,
          room'.published_streams[s]? = some stream' ∧ stream'.media_kind = stream.media_kind) :
    KeepsStreams gone state (state.setRoom r room') := by
  intro a s stream hstays hin
  by_cases ha : a = r
  · subst ha
    obtain ⟨stream', hget, hkind⟩ := hkeep s stream hstays ((publishedIn_iff hroom _ _).mp hin)
    exact ⟨stream', ⟨room', by rw [get_setRoom, if_pos rfl], hget⟩, hkind⟩
  · obtain ⟨room'', hroom'', hget⟩ := hin
    exact ⟨stream, ⟨room'', by rw [get_setRoom, if_neg ha]; exact hroom'', hget⟩, rfl⟩

theorem keepsStreams_setRoom_of_eq (gone : StreamId → Prop) {r : RoomId} {room room' : Room}
    (hroom : state.rooms[r]? = some room)
    (hsame : room'.published_streams = room.published_streams) :
    KeepsStreams gone state (state.setRoom r room') :=
  keepsStreams_setRoom hroom fun s stream _ hget => ⟨stream, by rw [hsame]; exact hget, rfl⟩

theorem keepsStreams_setStream (gone : StreamId → Prop) {r : RoomId} {room : Room} {s : StreamId}
    {old stream : PublishedStream} (hroom : state.rooms[r]? = some room)
    (hold : room.published_streams[s]? = some old) (hkind : stream.media_kind = old.media_kind) :
    KeepsStreams gone state (state.setRoom r (setStream room s stream)) := by
  refine keepsStreams_setRoom hroom fun s' stream' _ hget => ?_
  rw [setStream, get_insert]
  split
  · next heq =>
      subst heq
      obtain rfl := Option.some.inj (hold.symm.trans hget)
      exact ⟨stream, rfl, hkind⟩
  · exact ⟨stream', hget, rfl⟩

theorem keepsStreams_retarget (gone : StreamId → Prop) (s : StreamId) (b f w ht : Nat) :
    KeepsStreams gone state (state.updateStreamTarget s b f w ht) := by
  rcases state.updateStreamTarget_cases s b f w ht with
    ⟨-, heq⟩ | ⟨r, room, stream, hroom, hstream, heq⟩
  · rw [heq]
    exact keepsStreams_of_rooms gone rfl
  · rw [heq]
    exact keepsStreams_setStream gone hroom hstream rfl

theorem keepsStreams_leave {r : RoomId} {room : Room} (hroom : state.rooms[r]? = some room)
    (u : UserId) :
    KeepsStreams (· ∈ room.streamsPublishedBy u) state (state.leaveRoom u r) := by
  intro a s stream hstays hin
  by_cases ha : a = r
  · subst ha
    have hget := (publishedIn_iff hroom _ _).mp hin
    have hkept : (room.depart u).published_streams[s]? = some stream := by
      rw [Room.depart_published, if_neg hstays]
      exact hget
    exact ⟨stream, ⟨room.depart u, leaveRoom_rooms_of_stream hroom hkept, hkept⟩, rfl⟩
  · obtain ⟨room', hroom', hget⟩ := hin
    exact ⟨stream, ⟨room', by rw [leaveRoom_rooms hroom, if_neg ha]; exact hroom', hget⟩, rfl⟩

theorem StreamStateOk.leave (h : StreamStateOk state) (u : UserId) (r : RoomId) :
    StreamStateOk (state.leaveRoom u r) := by
  cases hroom : state.rooms[r]? with
  | none =>
      rw [leaveRoom_of_none hroom]
      exact h
  | some room =>
      refine h.shrink (keepsStreams_leave hroom u) ?_ ?_ ?_
      · intro s hs
        rw [mem_iff_get, leaveRoom_erased hroom u ControlState.pending_keyframe_requests
          (fun _ _ => rfl) (fun _ _ _ _ => rfl)] at hs
        split at hs
        · obtain ⟨_, hs⟩ := hs
          cases hs
        · next hstays => exact ⟨hstays, (mem_iff_get _ _).mpr hs⟩
      · intro s hs
        rw [mem_iff_get, leaveRoom_erased hroom u ControlState.stream_metrics
          (fun _ _ => rfl) (fun _ _ _ _ => rfl)] at hs
        split at hs
        · obtain ⟨_, hs⟩ := hs
          cases hs
        · next hstays => exact ⟨hstays, (mem_iff_get _ _).mpr hs⟩
      · intro s queue hs
        rw [leaveRoom_erased hroom u ControlState.pending_remote_input
          (fun _ _ => rfl) (fun _ _ _ _ => rfl)] at hs
        split at hs
        · cases hs
        · next hstays => exact ⟨hstays, hs⟩

theorem StreamStateOk.unpublish (h : StreamStateOk state) {r : RoomId} {room : Room}
    (hroom : state.rooms[r]? = some room) (s : StreamId) :
    StreamStateOk ((state.setRoom r (room.removePublishedStream s)).removeStreamState s) := by
  have hkeeps : KeepsStreams (· = s) state (state.setRoom r (room.removePublishedStream s)) := by
    refine keepsStreams_setRoom hroom fun s' stream hstays hget => ⟨stream, ?_, rfl⟩
    rw [Room.removePublishedStream, get_erase, if_neg hstays]
    exact hget
  refine h.shrink hkeeps ?_ ?_ ?_
  · exact fun s' hs => (mem_erase _ _ _).mp hs
  · exact fun s' hs => (mem_erase _ _ _).mp hs
  · intro s' queue hs
    rw [removeStreamState, get_erase] at hs
    split at hs
    · cases hs
    · next hstays => exact ⟨hstays, hs⟩

theorem published_of_user {u : UserId} {s : StreamId}
    (huser : state.Publishes u s ∨ state.Subscribes u s) : state.Published s := by
  rcases huser with ⟨r, stream, hin, -⟩ | ⟨r, room, hroom, hmem, -⟩
  · exact ⟨r, stream, hin⟩
  · obtain ⟨stream, hget⟩ := (mem_iff_get _ _).mp hmem
    exact ⟨r, stream, room, hroom, hget⟩

/-- The queue after an event is appended is not empty and stays within its bound. -/
theorem queueRemoteInput_length {queue : List RemoteInputEvent} (event : RemoteInputEvent)
    (hle : queue.length ≤ maxRemoteInputQueueEvents) :
    1 ≤ (queue.drop (queue.length - (maxRemoteInputQueueEvents - 1)) ++ [event]).length ∧
      (queue.drop (queue.length - (maxRemoteInputQueueEvents - 1)) ++ [event]).length
        ≤ maxRemoteInputQueueEvents := by
  rw [List.length_append, List.length_drop, List.length_singleton]
  unfold maxRemoteInputQueueEvents at *
  omega

theorem StreamStateOk.queueInput (h : StreamStateOk state) {r : RoomId} {s : StreamId}
    {stream : PublishedStream} (hin : state.PublishedIn r s stream)
    (hscreen : stream.media_kind = .screen) (event : RemoteInputEvent) :
    StreamStateOk (state.queueRemoteInput s event) where
  keyframe_published := h.keyframe_published
  metrics_published := h.metrics_published
  input_screen s' hs := by
    rcases (mem_insert _ _ _ _).mp hs with rfl | hs
    · exact ⟨r, stream, hin, hscreen⟩
    · exact h.input_screen s' hs
  input_bounded s' queue hqueue := by
    have hle : (state.remoteInputQueue s).length ≤ maxRemoteInputQueueEvents := by
      unfold remoteInputQueue
      cases hold : state.pending_remote_input[s]? with
      | none => exact Nat.zero_le _
      | some old => exact (h.input_bounded s old hold).2
    rw [queueRemoteInput, excessRemoteInput, get_insert] at hqueue
    split at hqueue
    · obtain rfl := Option.some.inj hqueue
      exact queueRemoteInput_length event hle
    · exact h.input_bounded s' queue hqueue

theorem StreamStateOk.drainInput (h : StreamStateOk state) (s : StreamId) (max_events : Nat) :
    StreamStateOk (state.drainRemoteInput s max_events) := by
  unfold drainRemoteInput
  cases hold : state.pending_remote_input[s]? with
  | none => exact h
  | some queue =>
      simp only
      split
      · refine
          { h with
            input_screen := fun s' hs => h.input_screen s' ((mem_erase _ _ _).mp hs).2
            input_bounded := fun s' queue' hs => ?_ }
        rw [get_erase] at hs
        split at hs
        · cases hs
        · exact h.input_bounded s' queue' hs
      · next hrest =>
          refine
            { h with
              input_screen := fun s' hs => ?_
              input_bounded := fun s' queue' hs => ?_ }
          · rcases (mem_insert _ _ _ _).mp hs with rfl | hs
            · exact h.input_screen s' (mem_of_get hold)
            · exact h.input_screen s' hs
          · rw [get_insert] at hs
            split at hs
            · cases hs
              have hbound := (h.input_bounded s queue hold).2
              have hpos : 0 < (queue.drop max_events).length := by
                rw [List.isEmpty_iff] at hrest
                exact List.length_pos_of_ne_nil hrest
              rw [List.length_drop] at hpos ⊢
              omega
            · exact h.input_bounded s' queue' hs

/-- Every update keeps the maps keyed by stream to published streams. -/
theorem update_streamStateOk {request : Option ClientControl} {u : UserId}
    (hrooms : RoomsOk state) (h : StreamStateOk state)
    (hupdate : Update request u state state') : StreamStateOk state' := by
  cases hupdate with
  | named n name hello hnext hrequest => exact h.of_keeps (keepsStreams_of_rooms _ rfl) rfl rfl rfl
  | created name create hlimit hrequest =>
      refine h.of_keeps ?_ rfl rfl rfl
      rintro r s stream - ⟨room, hroom, hget⟩
      refine ⟨stream, ⟨room, ?_, hget⟩, rfl⟩
      -- a new room overwrites none
      refine (get_insert _ _ _ _).trans ?_
      rw [if_neg (Nat.ne_of_lt (hrooms.room_fresh r (mem_of_get hroom)))]
      exact hroom
  | joined r room hroom hlimit hrequest =>
      have hkeeps : KeepsStreams (fun _ => False) state (state.setRoom r (room.join u)) :=
        keepsStreams_setRoom_of_eq _ hroom rfl
      exact h.of_keeps hkeeps rfl rfl rfl
  | left r => exact h.leave u r
  | voiced r room voice_state hroom hmember hsane =>
      exact h.of_keeps (keepsStreams_of_rooms _ rfl) rfl rfl rfl
  | published room publish hroom hmember hnew hlimit =>
      refine h.of_keeps (keepsStreams_setRoom hroom fun s stream _ hget => ?_) rfl rfl rfl
      rw [Room.publishStream, get_insert]
      split
      · next heq =>
          subst heq
          -- no stream had the id before
          exact absurd (mem_of_get hget) (publishedStream_eq_none_iff.mp hnew _ room hroom)
      · exact ⟨stream, hget, rfl⟩
  | unpublished r room s stream hroom hstream hpublisher =>
      rw [unpublish_eq hrooms hroom]
      exact h.unpublish hroom s
  | subscribed r room room' s hroom hmember hsub hrequest =>
      exact h.of_keeps (keepsStreams_setRoom_of_eq _ hroom (Room.subscribe_fixed hsub).1)
        rfl rfl rfl
  | unsubscribed r room s hroom =>
      have hkeeps : KeepsStreams (fun _ => False) state (state.setRoom r (room.unsubscribe s u)) :=
        keepsStreams_setRoom_of_eq _ hroom (Room.unsubscribe_fixed room s u).1
      exact h.of_keeps hkeeps rfl rfl rfl
  | configured room stream config hroom hstream hpublisher hcodec =>
      exact h.of_keeps (keepsStreams_setStream _ hroom hstream rfl) rfl rfl rfl
  | retargeted s b f w ht hpublisher =>
      exact h.of_keeps (keepsStreams_retarget _ s b f w ht)
        (updateStreamTarget_fixed ControlState.pending_keyframe_requests (fun _ _ => rfl)
          _ _ _ _ _ _)
        (updateStreamTarget_fixed ControlState.stream_metrics (fun _ _ => rfl) _ _ _ _ _ _)
        (updateStreamTarget_fixed ControlState.pending_remote_input (fun _ _ => rfl) _ _ _ _ _ _)
  | demanded s reason huser =>
      refine { h with keyframe_published := fun s' hs => ?_ }
      rcases (mem_insert _ _ _ _).mp hs with rfl | hs
      · -- a request is stored only for a stream that somebody uses
        exact published_of_user huser
      · exact h.keyframe_published s' hs
  | answered s hpublisher =>
      exact
        { h with
          keyframe_published := fun s' hs => h.keyframe_published s' ((mem_erase _ _ _).mp hs).2 }
  | inputQueued r room s stream event hroom hstream hscreen hviewer =>
      exact h.queueInput ⟨room, hroom, hstream⟩ hscreen event
  | inputPolled r room s stream n hroom hstream hpublisher => exact h.drainInput s n
  | reported report hrequest => exact h.of_keeps (keepsStreams_of_rooms _ rfl) rfl rfl rfl
  | forgotten hrequest => exact h.of_keeps (keepsStreams_of_rooms _ rfl) rfl rfl rfl

end Streams

/-! ## Every update keeps the invariant -/

theorem update_roomInvariant {state state' : ControlState} {request : Option ClientControl}
    {u : UserId} (h : RoomInvariant state)
    (hupdate : Update request u state state') : RoomInvariant state' where
  toRoomsOk := update_roomsOk h.toRoomsOk hupdate
  toVoiceOk := update_voiceOk h.toRoomsOk h.toVoiceOk hupdate
  toStreamStateOk := update_streamStateOk h.toRoomsOk h.toStreamStateOk hupdate

theorem updates_roomInvariant {state state' : ControlState} {request : Option ClientControl}
    {u : UserId} (h : RoomInvariant state) (hupdates : Updates request u state state') :
    RoomInvariant state' := by
  induction hupdates with
  | refl => exact h
  | tail _ hupdate ih => exact update_roomInvariant ih hupdate

theorem recordMediaForwardSummary_roomInvariant {state : ControlState} (h : RoomInvariant state)
    (packet : MediaPacket) (summary : MediaForwardSummary)
    (ingress_bytes received_at_micros server_route_ms : Nat) :
    RoomInvariant (state.recordMediaForwardSummary packet summary ingress_bytes
      received_at_micros server_route_ms) := by
  unfold recordMediaForwardSummary
  simp only
  split
  · exact h
  · next hsome =>
      refine { h with metrics_published := fun s hs => ?_ }
      rcases (mem_insert _ _ _ _).mp hs with rfl | hs
      · cases hget : state.publishedStream packet.header.streamId with
        | none =>
            rw [hget] at hsome
            exact absurd rfl hsome
        | some stream =>
            obtain ⟨r, room, hroom, hstream⟩ := get_of_publishedStream hget
            exact ⟨r, stream, room, hroom, hstream⟩
      · exact h.metrics_published s hs

/-- A control state without rooms is in order, whatever its token and its limits. -/
theorem roomInvariant_of_no_rooms {state : ControlState} (hrooms : state.rooms = ∅)
    (hvoice : state.voice_states = ∅) (hkeyframes : state.pending_keyframe_requests = ∅)
    (hinput : state.pending_remote_input = ∅) (hmetrics : state.stream_metrics = ∅)
    (hlimits : 1 ≤ state.limits.max_participants_per_room) : RoomInvariant state where
  limit_pos := hlimits
  room_ok r room h := by simp [hrooms] at h
  stream_unique s r r' stream stream' h := by
    obtain ⟨room, hroom, -⟩ := h
    simp [hrooms] at hroom
  rooms_le := by simp [hrooms]
  room_fresh r h := by simp [hrooms] at h
  agrees r := by simp [hrooms, hvoice, VoiceAgrees]
  sane r u v h := by simp [voiceState, getNested, hvoice] at h
  keyframe_published s h := by simp [hkeyframes] at h
  metrics_published s h := by simp [hmetrics] at h
  input_screen s h := by simp [hinput] at h
  input_bounded s queue h := by simp [hinput] at h

end ControlState

end TeamView.Relay
