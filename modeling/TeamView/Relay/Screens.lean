import TeamView.Relay.Membership

set_option autoImplicit false

/-! # Who shows what

The publisher and the kind of the stream at each place of the relay (`ownerAt`). A place changes
hands by a `PublishStream` of its new publisher only: every other request, and everything that
happens without a request, leaves a place as it is or clears it (`Sheds`). So a screen of a user
stays away until the user publishes one.
-/

namespace TeamView.Relay

open TeamView.Protocol BTree Runs

/-- The publisher and the kind of a stream of the room. -/
def Room.ownerAt (room : Room) (s : StreamId) : Option (UserId × MediaKind) :=
  room.published_streams[s]?.map fun stream => (stream.publisher_id, stream.media_kind)

namespace ControlState

variable {state state' state'' : ControlState} {u v : UserId} {r : RoomId} {s : StreamId}

def ownerAt (state : ControlState) (r : RoomId) (s : StreamId) : Option (UserId × MediaKind) :=
  state.rooms[r]?.bind (·.ownerAt s)

/-- User `u` shows a screen as stream `s` of room `r`. -/
def ShowsScreen (state : ControlState) (u : UserId) (r : RoomId) (s : StreamId) : Prop :=
  state.ownerAt r s = some (u, .screen)

instance (state : ControlState) (u : UserId) (r : RoomId) (s : StreamId) :
    Decidable (state.ShowsScreen u r s) :=
  inferInstanceAs (Decidable (_ = _))

/-- Whoever has a place in `state'` has it already in `state`. -/
def Sheds (state state' : ControlState) : Prop :=
  ∀ r s owner, state'.ownerAt r s = some owner → state.ownerAt r s = some owner

theorem Sheds.refl (state : ControlState) : Sheds state state := fun _ _ _ h => h

theorem Sheds.trans (h : Sheds state state') (h' : Sheds state' state'') :
    Sheds state state'' :=
  fun r s owner howner => h r s owner (h' r s owner howner)

theorem sheds_of_rooms (h : state'.rooms = state.rooms) : Sheds state state' := by
  intro r s owner howner
  unfold ownerAt at howner
  rw [h] at howner
  exact howner

theorem ownerAt_setRoom (state : ControlState) (a : RoomId) (room : Room) (r : RoomId)
    (s : StreamId) :
    (state.setRoom a room).ownerAt r s = if r = a then room.ownerAt s else state.ownerAt r s := by
  unfold ownerAt
  rw [get_setRoom]
  split <;> rfl

theorem sheds_setRoom {a : RoomId} {room : Room}
    (h : ∀ s owner, room.ownerAt s = some owner → state.ownerAt a s = some owner) :
    Sheds state (state.setRoom a room) := by
  intro r s owner howner
  rw [ownerAt_setRoom] at howner
  split at howner
  · next heq => exact heq ▸ h s owner howner
  · exact howner

theorem ownerAt_of_get {room : Room} (hroom : state.rooms[r]? = some room) (s : StreamId) :
    state.ownerAt r s = room.ownerAt s := by
  unfold ownerAt
  rw [hroom]
  rfl

/-- A room that has the same streams as before. -/
theorem sheds_setRoom_of_streams {a : RoomId} {room room' : Room}
    (hroom : state.rooms[a]? = some room)
    (hstreams : room'.published_streams = room.published_streams) :
    Sheds state (state.setRoom a room') := by
  refine sheds_setRoom fun s owner howner => ?_
  rw [ownerAt_of_get hroom, ← howner, Room.ownerAt, Room.ownerAt, hstreams]

/-- A stream record that keeps its publisher and its kind. -/
theorem sheds_setStream {a : RoomId} {room : Room} {t : StreamId} {stream new : PublishedStream}
    (hroom : state.rooms[a]? = some room) (hstream : room.published_streams[t]? = some stream)
    (hpublisher : new.publisher_id = stream.publisher_id)
    (hkind : new.media_kind = stream.media_kind) :
    Sheds state (state.setRoom a (setStream room t new)) := by
  refine sheds_setRoom fun s owner howner => ?_
  rw [ownerAt_of_get hroom]
  rw [Room.ownerAt, setStream, get_insert] at howner
  split at howner
  · next heq =>
      rw [← howner, Room.ownerAt, heq, hstream]
      exact congrArg some (Prod.ext hpublisher.symm hkind.symm)
  · exact howner

theorem ownerAt_removePublishedStream (room : Room) (t s : StreamId) :
    (room.removePublishedStream t).ownerAt s = if s = t then none else room.ownerAt s := by
  rw [Room.ownerAt, Room.removePublishedStream, get_erase]
  split <;> rfl

theorem removeRoomIfEmpty_sheds (state : ControlState) (a : RoomId) :
    Sheds state (state.removeRoomIfEmpty a) := by
  intro r s owner howner
  unfold removeRoomIfEmpty at howner
  split at howner
  · exact howner
  · split at howner
    · unfold ownerAt at howner
      rw [get_erase] at howner
      split at howner
      · cases howner
      · exact howner
    · exact howner

/-! ## What goes -/

/-- Leaving a room clears the places of one user in it. -/
theorem leaveRoom_owner {a : RoomId} {owner : UserId × MediaKind}
    (h : (state.leaveRoom u a).ownerAt r s = some owner) :
    state.ownerAt r s = some owner ∧ ¬ (r = a ∧ owner.1 = u) := by
  cases hroom : state.rooms[a]? with
  | none =>
      rw [leaveRoom_of_none hroom] at h
      refine ⟨h, ?_⟩
      rintro ⟨rfl, -⟩
      rw [ownerAt, hroom] at h
      cases h
  | some room =>
      rw [ownerAt, leaveRoom_rooms hroom] at h
      by_cases hr : r = a
      · subst hr
        rw [if_pos rfl] at h
        split at h
        · cases h
        · obtain ⟨stream, hstream, rfl⟩ := Option.map_eq_some_iff.mp h
          rw [Room.get_depart_published] at hstream
          refine ⟨?_, fun hgone => hstream.2 hgone.2⟩
          rw [ownerAt_of_get hroom, Room.ownerAt, hstream.1]
          rfl
      · rw [if_neg hr] at h
        exact ⟨h, fun hgone => hr hgone.1⟩

theorem leaveRoom_sheds (state : ControlState) (u : UserId) (a : RoomId) :
    Sheds state (state.leaveRoom u a) :=
  fun _ _ _ h => (leaveRoom_owner h).1

theorem disconnectUser_sheds (state : ControlState) (u : UserId) :
    Sheds state (state.disconnectUser u) := by
  have hleft : Sheds state (run (fun state r => state.leaveRoom u r) state
      (state.affectedRooms u)) := by
    refine run_induction _ (P := Sheds state) ?_ (.refl state) _
    intro state' a h
    exact h.trans (leaveRoom_sheds state' u a)
  exact hleft.trans (sheds_of_rooms rfl)

/-- Unpublishing clears the place of the stream. -/
theorem unpublishStream_owner {session : Session} {request : UnpublishStream}
    {owner : UserId × MediaKind}
    (h : (state.unpublishStream session request).1.ownerAt r s = some owner) :
    state.ownerAt r s = some owner ∧
      ¬ (r = request.room_id ∧ s = request.stream_id ∧ session.user_id = some owner.1) := by
  unfold unpublishStream at h
  split at h
  · next error herror =>
      refine ⟨h, ?_⟩
      rintro ⟨rfl, rfl, huser⟩
      obtain ⟨room, hroom, howner⟩ := Option.bind_eq_some_iff.mp h
      obtain ⟨stream, hstream, rfl⟩ := Option.map_eq_some_iff.mp howner
      rw [publisherStream_ok_iff.mpr ⟨huser, hroom, hstream⟩] at herror
      cases herror
  · next room stream hok =>
      have hcleared := removeRoomIfEmpty_sheds _ _ r s owner h
      have hset : (state.setRoom request.room_id (room.removePublishedStream
          request.stream_id)).ownerAt r s = some owner := hcleared
      rw [ownerAt_setRoom] at hset
      by_cases hr : r = request.room_id
      · have hroom := (publisherStream_ok_iff.mp hok).2.1
        rw [if_pos hr, ownerAt_removePublishedStream] at hset
        split at hset
        · cases hset
        · next hs =>
            rw [hr, ownerAt_of_get hroom]
            exact ⟨hset, fun hgone => hs hgone.2.1⟩
      · rw [if_neg hr] at hset
        exact ⟨hset, fun hgone => hr hgone.1⟩

theorem updateStreamTarget_sheds (state : ControlState) (t : StreamId) (b f w h : Nat) :
    Sheds state (state.updateStreamTarget t b f w h) := by
  rcases state.updateStreamTarget_cases t b f w h with
    ⟨-, heq⟩ | ⟨a, room, stream, hroom, hstream, heq⟩
  · rw [heq]
    exact .refl state
  · rw [heq]
    exact sheds_setStream hroom hstream rfl rfl

/-! ## What comes -/

/-- A new place is the publisher's, and of the kind that was asked for. -/
theorem publishStream_owner {session : Session} {publish : PublishStream}
    {owner : UserId × MediaKind}
    (h : (state.publishStream session publish).1.ownerAt r s = some owner) :
    state.ownerAt r s = some owner ∨
      (r = publish.room_id ∧ s = publish.stream_id ∧ session.user_id = some owner.1 ∧
        publish.media_kind = owner.2) := by
  unfold publishStream at h
  split at h
  · exact .inl h
  · split at h
    · exact .inl h
    · next room hroom =>
        split at h
        · exact .inl h
        · next u huser =>
            split at h
            · split at h
              · exact .inl h
              · have hset : (state.setRoom publish.room_id
                    (room.publishStream (freshStream publish u))).ownerAt r s = some owner := h
                rw [ownerAt_setRoom, Room.ownerAt, Room.publishStream, get_insert] at hset
                split at hset
                · next hr =>
                    split at hset
                    · next hs =>
                        obtain rfl := Option.some.inj hset
                        exact .inr ⟨hr, hs, huser, rfl⟩
                    · left
                      rw [hr, ownerAt_of_get hroom]
                      exact hset
                · exact .inl hset
            · exact .inl h

/-- No other request gives a place to anybody. -/
theorem handleMessage_sheds (state : ControlState) (session : Session) (clock : Clock)
    {message : ClientControl} (hquiet : ∀ publish, message ≠ .publishStream publish) :
    Sheds state (state.handleMessage session clock message).state := by
  cases message with
  | publishStream publish => exact absurd rfl (hquiet publish)
  | createRoom create =>
      show Sheds state (state.createRoom session create).1
      unfold createRoom
      split
      · exact .refl state
      · next u huser =>
          split
          · exact .refl state
          · -- a new room has no streams
            have hnew : Sheds state (({ state with
                next_room_id := state.next_room_id + 1 } : ControlState).setRoom
                  state.next_room_id ((Room.new state.next_room_id (sanitizeRoomName create.name
                    state.next_room_id)).join u)) :=
              (sheds_of_rooms rfl).trans (sheds_setRoom fun _ _ howner => nomatch howner)
            exact hnew.trans (sheds_of_rooms rfl)
  | joinRoom join =>
      show Sheds state (state.joinRoom session join).1
      unfold joinRoom
      split
      · exact .refl state
      · next room hroom =>
          split
          · exact .refl state
          · next u huser =>
              split
              · exact .refl state
              · -- a participant more, the same streams
                have hjoin : Sheds state (state.setRoom join.room_id (room.join u)) :=
                  sheds_setRoom_of_streams hroom rfl
                exact hjoin.trans (sheds_of_rooms rfl)
  | leaveRoom request =>
      show Sheds state (state.leave session request).1
      unfold leave
      split
      · exact .refl state
      · -- the departing user's streams go, and no other stream changes hands
        exact leaveRoom_sheds state _ _
  | unpublishStream request => exact fun _ _ _ howner => (unpublishStream_owner howner).1
  | subscribeStream request =>
      show Sheds state (state.subscribeStream session request).1
      unfold subscribeStream
      split
      · exact .refl state
      · next room hroom =>
          split
          · exact .refl state
          · split
            · simp only
              split
              · exact .refl state
              · next new hsub =>
                  -- a subscription leaves the streams of the room alone
                  have hset := sheds_setRoom_of_streams hroom (Room.subscribe_fixed hsub).1
                  split
                  · exact hset.trans (sheds_of_rooms rfl)
                  · exact hset
            · exact .refl state
  | unsubscribeStream request =>
      show Sheds state (state.unsubscribeStream session request).1
      unfold unsubscribeStream
      simp only
      split
      · next room u hroom huser =>
          exact (sheds_setRoom_of_streams hroom (Room.unsubscribe_fixed room _ u).1).trans
            (sheds_of_rooms rfl)
      · exact .refl state
  | setStreamConfig config =>
      show Sheds state (state.setStreamConfig session config).1
      unfold setStreamConfig
      split
      · exact .refl state
      · next room stream hok =>
          split
          · exact .refl state
          · obtain ⟨-, hroom, hstream⟩ := publisherStream_ok_iff.mp hok
            exact sheds_setStream hroom hstream rfl rfl
  | setTargetBitrate target =>
      show Sheds state (state.setTargetBitrate session target).1
      unfold setTargetBitrate
      split
      · exact .refl state
      · exact updateStreamTarget_sheds _ _ _ _ _ _
  | setTargetFramerate target =>
      show Sheds state (state.setTargetFramerate session target).1
      unfold setTargetFramerate
      split
      · exact .refl state
      · exact updateStreamTarget_sheds _ _ _ _ _ _
  | pollPublisherFeedback poll =>
      show Sheds state (state.pollPublisherFeedback session poll).1
      unfold pollPublisherFeedback adaptivePublisherFeedback
      simp only
      split
      · exact .refl state
      · split
        · split
          · -- the adapted target keeps publisher and kind
            split <;> exact (updateStreamTarget_sheds _ _ _ _ _ _).trans (sheds_of_rooms rfl)
          · exact sheds_of_rooms rfl
        · exact .refl state
  | pollRemoteInput poll =>
      show Sheds state (state.pollRemoteInput session poll).1
      unfold pollRemoteInput
      split
      · exact .refl state
      · exact sheds_of_rooms (drainRemoteInput_fixed ControlState.rooms (fun _ _ => rfl) _ _ _)
  | _ =>
      -- the other handlers leave the rooms alone
      refine sheds_of_rooms ?_
      simp only [handleMessage, Handled.of, hello, authenticate, setVoiceState, sendRemoteInput,
        requestKeyframe, viewerStats]
      repeat' split
      all_goals rfl

/-- A screen comes up by an envelope of its publisher that publishes it. -/
theorem handleClientEnvelope_shows {session : Session} {clock : Clock} {envelope : ClientEnvelope}
    (h : (state.handleClientEnvelope session clock envelope).state.ShowsScreen u r s) :
    state.ShowsScreen u r s ∨
      ∃ publish, envelope.message = .publishStream publish ∧ session.user_id = some u ∧
        publish.media_kind = .screen ∧ r = publish.room_id ∧ s = publish.stream_id := by
  unfold handleClientEnvelope at h
  split at h
  · exact .inl h
  · by_cases hpublish : ∃ publish, envelope.message = .publishStream publish
    · obtain ⟨publish, hmessage⟩ := hpublish
      rw [hmessage] at h
      rcases publishStream_owner h with hold | ⟨hr, hs, huser, hkind⟩
      · exact .inl hold
      · exact .inr ⟨publish, hmessage, huser, hkind, hr, hs⟩
    · refine .inl (handleMessage_sheds state session clock ?_ r s _ h)
      intro publish hmessage
      exact hpublish ⟨publish, hmessage⟩

/-- Who shows a screen is in the room. -/
theorem ShowsScreen.participates (hrooms : RoomInvariant state) (h : state.ShowsScreen u r s) :
    state.Participates r u := by
  obtain ⟨room, hroom, howner⟩ := Option.bind_eq_some_iff.mp h
  obtain ⟨stream, hstream, heq⟩ := Option.map_eq_some_iff.mp howner
  have hpublisher := (hrooms.room_ok r room hroom).publisher_inside s stream hstream
  exact ⟨room, hroom, (Prod.mk.inj heq).1 ▸ hpublisher⟩

/-- What `UnpublishStream` answers to a user. -/
theorem unpublishStream_answer {session : Session} (hu : session.user_id = some u)
    (request : UnpublishStream) :
    (state.unpublishStream session request).2
        = .streamUnpublished ⟨request.room_id, request.stream_id⟩ ∨
      ∃ error, (state.unpublishStream session request).2 = .error error ∧
        error.code ∈ ["stream_not_found", "room_not_found", "not_publisher"] := by
  unfold unpublishStream
  split
  · next error herror =>
      refine .inr ⟨error, rfl, ?_⟩
      unfold publisherStream at herror
      rw [hu] at herror
      simp only at herror
      split at herror
      · rw [← Except.error.inj herror]
        decide
      · split at herror
        · rw [← Except.error.inj herror]
          decide
        · split at herror
          · cases herror
          · rw [← Except.error.inj herror]
            simp
  · exact .inl rfl

end ControlState

namespace ControlSystem

open ControlState

variable {system : ControlSystem} {i : Nat} {u : UserId} {r : RoomId} {s : StreamId}

/-- Not an envelope of session `i` that publishes a screen. -/
def Discreet (i : Nat) : ControlEvent → Prop
  | .envelope j _ envelope =>
      j = i → ∀ publish, envelope.message = .publishStream publish → publish.media_kind ≠ .screen
  | _ => True

/-- Nobody else puts up a screen of a user. -/
theorem step_shows (h : system.Reachable) (hu : (system.sessions i).user_id = some u)
    {event : ControlEvent} (hdiscreet : Discreet i event)
    (hshows : (system.step event).control.ShowsScreen u r s) :
    system.control.ShowsScreen u r s := by
  cases event with
  | envelope j clock envelope =>
      rcases handleClientEnvelope_shows hshows with hold | ⟨publish, hmessage, huser, hkind, -⟩
      · exact hold
      · have hji : j = i := (reachable_identityInvariant h).user_unique j i u huser hu
        exact absurd hkind (hdiscreet hji publish hmessage)
  | disconnect v => exact disconnectUser_sheds system.control v r s _ hshows
  | recordForward packet summary bytes received route =>
      refine sheds_of_rooms ?_ r s _ hshows
      exact recordMediaForwardSummary_fixed ControlState.rooms (fun _ _ => rfl) _ _ _ _ _ _

end ControlSystem

end TeamView.Relay
