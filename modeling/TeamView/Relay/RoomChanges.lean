import TeamView.Relay.Identity

set_option autoImplicit false

/-! # What a user can do to a room

An update of one user keeps the name of every room, and the membership and the streams of every
other user in it (`RoomKept`). A room comes into being by a `CreateRoom` only and goes when its
last participant leaves (`update_room`). So whoever is in a room or publishes in it keeps its
place through everything that the others do.
-/

namespace TeamView.Relay

open TeamView.Protocol BTree Runs Relation

/-- `room'` is `room` after a change by user `u`. -/
structure RoomKept (u : UserId) (room room' : Room) : Prop where
  name : room'.name = room.name
  participants : ∀ v, v ≠ u → (v ∈ room'.participants ↔ v ∈ room.participants)
  streams : ∀ (s : StreamId) (stream : PublishedStream), stream.publisher_id ≠ u →
    (room'.published_streams[s]? = some stream ↔ room.published_streams[s]? = some stream)

/-- What an update of user `u` can make of a room, or of the place of a room. -/
inductive RoomChange (request : Option ClientControl) (u : UserId) :
    Option Room → Option Room → Prop
  | absent : RoomChange request u none none
  | created {create : CreateRoom} (hrequest : request = some (.createRoom create)) (r : RoomId)
      (name : String) : RoomChange request u none (some ((Room.new r name).join u))
  | kept {room room' : Room} (hkept : RoomKept u room room') :
      RoomChange request u (some room) (some room')
  | removed {room : Room} (halone : ∀ v, v ∈ room.participants → v = u) :
      RoomChange request u (some room) none

theorem RoomKept.refl (u : UserId) (room : Room) : RoomKept u room room where
  name := rfl
  participants _ _ := Iff.rfl
  streams _ _ _ := Iff.rfl

theorem RoomKept.trans {u : UserId} {room room' room'' : Room} (h : RoomKept u room room')
    (h' : RoomKept u room' room'') : RoomKept u room room'' where
  name := h'.name.trans h.name
  participants v hv := (h'.participants v hv).trans (h.participants v hv)
  streams s stream hstream := (h'.streams s stream hstream).trans (h.streams s stream hstream)

theorem RoomChange.refl (request : Option ClientControl) (u : UserId) (place : Option Room) :
    RoomChange request u place place := by
  cases place with
  | none => exact .absent
  | some room => exact .kept (.refl u room)

namespace ControlState

variable {state state' : ControlState} {request : Option ClientControl} {u : UserId}

/-- Replacing one stream record of user `u` by another leaves the others alone. -/
theorem roomKept_insert {room : Room} {s : StreamId} {stream : PublishedStream}
    (hold : ∀ old, room.published_streams[s]? = some old → old.publisher_id = u)
    (hnew : stream.publisher_id = u) :
    RoomKept u room { room with published_streams := room.published_streams.insert s stream } where
  name := rfl
  participants _ _ := Iff.rfl
  streams t other hother := by
    show (room.published_streams.insert s stream)[t]? = some other ↔ _
    rw [BTree.get_insert]
    split
    · next heq =>
        subst heq
        refine iff_of_false (fun h => ?_) (fun h => hother (hold other h))
        rw [Option.some.injEq] at h
        exact hother (h ▸ hnew)
    · exact Iff.rfl

theorem roomKept_depart (u : UserId) (room : Room) : RoomKept u room (room.depart u) where
  name :=
    run_fixed Room.removePublishedStream Room.name (fun _ _ => rfl) (room.leave u) _
  participants v hv := by
    rw [Room.mem_depart]
    exact and_iff_right hv
  streams s stream hstream := by
    rw [Room.get_depart_published]
    exact and_iff_left hstream

/-- An update changes each room as `RoomChange` says. -/
theorem update_room (h : RoomsOk state) (hupdate : Update request u state state') (r : RoomId) :
    RoomChange request u state.rooms[r]? state'.rooms[r]? := by
  -- most updates replace one room
  have hset : ∀ (a : RoomId) (old new : Room), state.rooms[a]? = some old → RoomKept u old new →
      RoomChange request u state.rooms[r]? (state.setRoom a new).rooms[r]? := by
    intro a old new hold hkept
    rw [get_setRoom]
    split
    · next heq =>
        rw [heq, hold]
        exact .kept hkept
    · exact .refl request u _
  cases hupdate with
  | created name create hlimit hrequest =>
      show RoomChange request u state.rooms[r]? (state.rooms.insert state.next_room_id
          ((Room.new state.next_room_id name).join u))[r]?
      rw [BTree.get_insert]
      split
      · next heq =>
          rw [heq, h.next_room_free]
          -- the new id had no room
          exact .created hrequest _ name
      · exact .refl request u _
  | joined a room hroom hlimit hrequest =>
      refine hset a room (room.join u) hroom
        ⟨rfl, fun v hv => ?_, fun _ _ _ => Iff.rfl⟩
      rw [Room.mem_join]
      exact or_iff_right hv
  | left a =>
      cases hroom : state.rooms[a]? with
      | none =>
          rw [leaveRoom_of_none hroom]
          exact .refl request u _
      | some room =>
          rw [leaveRoom_rooms hroom]
          split
          · next heq =>
              rw [heq, hroom]
              split
              · next hempty =>
                  rw [(h.room_ok a room hroom).depart_isEmpty_iff] at hempty
                  -- a room goes with its last participant
                  refine .removed fun v hv => ?_
                  by_contra hne
                  exact hempty v ((Room.mem_depart _ _ _).mpr ⟨hne, hv⟩)
              · exact .kept (roomKept_depart u room)
          · exact .refl request u _
  | published room publish hroom hmember hnew hlimit =>
      refine hset _ room (room.publishStream (freshStream publish u)) hroom
        (roomKept_insert (fun old hold => ?_) rfl)
      exact absurd (mem_of_get hold) (publishedStream_eq_none_iff.mp hnew _ room hroom)
  | unpublished a room s stream hroom hstream hpublisher =>
      rw [unpublish_eq h hroom]
      refine hset a room (room.removePublishedStream s) hroom
        ⟨rfl, fun _ _ => Iff.rfl, fun t other hother => ?_⟩
      show (room.published_streams.erase s)[t]? = some other ↔ _
      rw [get_erase]
      split
      · next heq =>
          subst heq
          -- the stream that goes is one of `u`'s own
          refine iff_of_false nofun fun hget => hother ?_
          exact Option.some.inj (hget.symm.trans hstream) ▸ hpublisher
      · exact Iff.rfl
  | subscribed a room new s hroom hmember hsub hrequest =>
      obtain ⟨hstreams, hparticipants⟩ := Room.subscribe_fixed hsub
      refine hset a room new hroom ⟨Room.subscribe_name hsub, fun v _ => ?_,
        fun t other _ => ?_⟩
      · rw [hparticipants]
      · rw [hstreams]
  | unsubscribed a room s hroom =>
      obtain ⟨hstreams, hparticipants⟩ := Room.unsubscribe_fixed room s u
      refine hset a room (room.unsubscribe s u) hroom
        ⟨Room.unsubscribe_name room s u, fun v _ => ?_, fun t other _ => ?_⟩
      · rw [hparticipants]
      · rw [hstreams]
  | configured room stream config hroom hstream hpublisher hcodec =>
      refine hset _ room _ hroom (roomKept_insert (fun old hold => ?_) hpublisher)
      exact Option.some.inj (hstream.symm.trans hold) ▸ hpublisher
  | retargeted s b f w ht hpublisher =>
      rcases state.updateStreamTarget_cases s b f w ht with
        ⟨-, heq⟩ | ⟨a, room, stream, hroom, hstream, heq⟩
      · rw [heq]
        exact .refl request u _
      · -- the stream found is the one that `u` publishes, since an id has one room
        obtain ⟨a', stream', ⟨room', hroom', hstream'⟩, hpub⟩ := hpublisher
        obtain rfl := h.stream_unique s a a' stream stream' ⟨room, hroom, hstream⟩
          ⟨room', hroom', hstream'⟩
        obtain rfl := Option.some.inj (hroom.symm.trans hroom')
        obtain rfl := Option.some.inj (hstream.symm.trans hstream')
        rw [heq]
        refine hset a room _ hroom (roomKept_insert (fun old hold => ?_) hpub)
        exact Option.some.inj (hstream.symm.trans hold) ▸ hpub
  | inputPolled a room s stream n hroom hstream hpublisher =>
      rw [drainRemoteInput_fixed ControlState.rooms (fun _ _ => rfl)]
      exact .refl request u _
  | _ => exact .refl request u _

end ControlState

end TeamView.Relay
