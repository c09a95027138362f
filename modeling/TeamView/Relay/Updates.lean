import TeamView.Relay.Handlers

set_option autoImplicit false

/-! # The updates of the control state

Twenty-five handlers change the control state in seventeen ways. `Update request user_id state
state'` lists them, each with the checks that its handler has made by then; a user's request is a
chain of updates by that user (`handleClientEnvelope_updates`), and so is a disconnect
(`disconnectUser_updates`). An invariant of the control state is therefore proved once for each
update, without looking at a handler again.
-/

namespace TeamView.Relay

open TeamView.Protocol BTree MachineInt Relation

namespace ControlState

/-! ## What the checks establish -/

/-- The messages that `authorization_error` lets every session send. -/
def ungated : ClientControl → Bool
  | .hello _ | .ping _ | .timeSync _ | .authenticate _ => true
  | _ => false

theorem authorizationError_ungated {message : ClientControl} (h : ungated message = true)
    (state : ControlState) (session : Session) :
    state.authorizationError session message = none := by
  cases message <;> first | rfl | cases h

theorem authorizationError_gated {message : ClientControl} (h : ungated message = false)
    (state : ControlState) (session : Session) :
    state.authorizationError session message =
      if session.user_id.isNone then some unauthenticated
      else if state.requiresAccessToken && !session.access_granted then
        some ⟨"not_authenticated", "authenticate before using relay controls"⟩
      else none := by
  cases message <;> first | rfl | cases h

/-- Who may use the controls of the relay. -/
theorem authorizationError_eq_none_iff {message : ClientControl} (h : ungated message = false)
    (state : ControlState) (session : Session) :
    state.authorizationError session message = none ↔
      session.user_id.isSome ∧ (state.requiresAccessToken && !session.access_granted) = false := by
  rw [authorizationError_gated h]
  cases session.user_id with
  | none => simp
  | some u => cases (state.requiresAccessToken && !session.access_granted) <;> simp

theorem participantRoom_ok_iff {state : ControlState} {session : Session} {r : RoomId}
    {text : String} {u : UserId} {room : Room} :
    state.participantRoom session r text = .ok (u, room) ↔
      session.user_id = some u ∧ state.rooms[r]? = some room ∧ u ∈ room.participants := by
  rw [← Std.ExtTreeSet.contains_iff_mem]
  unfold participantRoom
  cases huser : session.user_id with
  | none => simp
  | some v =>
      cases hroom : state.rooms[r]? with
      | none => simp
      | some room' =>
          simp only [Option.some.injEq]
          split
          · next hcontains =>
              rw [Except.ok.injEq, Prod.mk.injEq]
              constructor
              · rintro ⟨rfl, rfl⟩
                exact ⟨rfl, rfl, hcontains⟩
              · rintro ⟨rfl, rfl, -⟩
                exact ⟨rfl, rfl⟩
          · next hcontains =>
              simp only [reduceCtorEq, false_iff]
              rintro ⟨rfl, rfl, hin⟩
              exact hcontains hin

theorem publisherStream_ok_iff {state : ControlState} {session : Session} {r : RoomId}
    {s : StreamId} {text : String} {room : Room} {stream : PublishedStream} :
    state.publisherStream session r s text = .ok (room, stream) ↔
      session.user_id = some stream.publisher_id ∧ state.rooms[r]? = some room ∧
        room.published_streams[s]? = some stream := by
  unfold publisherStream
  cases huser : session.user_id with
  | none => simp
  | some v =>
      cases hroom : state.rooms[r]? with
      | none => simp
      | some room' =>
          cases hstream : room'.published_streams[s]? with
          | none =>
              simp only [hstream, reduceCtorEq, Option.some.injEq, false_iff]
              rintro ⟨-, rfl, h⟩
              rw [hstream] at h
              cases h
          | some stream' =>
              simp only [hstream, Option.some.injEq]
              split
              · next hpub =>
                  rw [Except.ok.injEq, Prod.mk.injEq]
                  constructor
                  · rintro ⟨rfl, rfl⟩
                    exact ⟨hpub.symm, rfl, hstream⟩
                  · rintro ⟨-, rfl, h⟩
                    exact ⟨rfl, Option.some.inj (hstream.symm.trans h)⟩
              · next hpub =>
                  simp only [reduceCtorEq, false_iff]
                  rintro ⟨hv, rfl, h⟩
                  obtain rfl := Option.some.inj (hstream.symm.trans h)
                  exact hpub hv.symm

/-- A stream that the search finds is published in the room that it names. -/
theorem get_of_streamEntry {state : ControlState} {s : StreamId} {r : RoomId} {room : Room}
    {stream : PublishedStream} (h : state.streamEntry s = some (r, room, stream)) :
    state.rooms[r]? = some room ∧ room.published_streams[s]? = some stream := by
  obtain ⟨r', room', hroom, hans⟩ := exists_of_findSome _ _ h
  obtain ⟨stream', hstream, heq⟩ := Option.map_eq_some_iff.mp hans
  cases heq
  exact ⟨hroom, hstream⟩

theorem get_of_publishedStream {state : ControlState} {s : StreamId} {stream : PublishedStream}
    (h : state.publishedStream s = some stream) :
    ∃ (r : RoomId) (room : Room),
      state.rooms[r]? = some room ∧ room.published_streams[s]? = some stream := by
  obtain ⟨⟨r, room, stream'⟩, hentry, rfl⟩ := Option.map_eq_some_iff.mp h
  exact ⟨r, room, get_of_streamEntry hentry⟩

theorem publishedStream_eq_none_iff {state : ControlState} {s : StreamId} :
    state.publishedStream s = none ↔
      ∀ (r : RoomId) (room : Room), state.rooms[r]? = some room → s ∉ room.published_streams := by
  unfold publishedStream streamEntry
  rw [Option.map_eq_none_iff, findSome_none_iff]
  simp only [Option.map_eq_none_iff, not_mem_iff_get]

/-! ## Publishing and subscribing -/

/-- The stream `s` is published in room `r`, as `stream`. -/
def PublishedIn (state : ControlState) (r : RoomId) (s : StreamId) (stream : PublishedStream) :
    Prop :=
  ∃ room : Room, state.rooms[r]? = some room ∧ room.published_streams[s]? = some stream

def Publishes (state : ControlState) (u : UserId) (s : StreamId) : Prop :=
  ∃ (r : RoomId) (stream : PublishedStream),
    state.PublishedIn r s stream ∧ stream.publisher_id = u

def Subscribes (state : ControlState) (u : UserId) (s : StreamId) : Prop :=
  ∃ (r : RoomId) (room : Room),
    state.rooms[r]? = some room ∧ s ∈ room.published_streams ∧ u ∈ room.subscribers s

theorem get_setRoom (state : ControlState) (r a : RoomId) (room : Room) :
    (state.setRoom r room).rooms[a]? = if a = r then some room else state.rooms[a]? :=
  get_insert _ _ _ _

theorem publishes_of_publisherForStream {state : ControlState} {u : UserId} {s : StreamId}
    (h : state.publisherForStream s = some u) : state.Publishes u s := by
  obtain ⟨stream, hstream, hu⟩ := Option.map_eq_some_iff.mp h
  obtain ⟨r, room, hroom, hget⟩ := get_of_publishedStream hstream
  exact ⟨r, stream, ⟨room, hroom, hget⟩, hu⟩

/-- Setting targets rewrites the record of one published stream, or nothing. -/
theorem updateStreamTarget_cases (state : ControlState) (s : StreamId) (b f w h : Nat) :
    (state.publishedStream s = none ∧ state.updateStreamTarget s b f w h = state) ∨
      ∃ (r : RoomId) (room : Room) (stream : PublishedStream),
        state.rooms[r]? = some room ∧ room.published_streams[s]? = some stream ∧
          state.updateStreamTarget s b f w h
            = state.setRoom r (setStream room s (withTarget stream b f w h)) := by
  unfold updateStreamTarget publishedStream
  cases hentry : state.streamEntry s with
  | none => exact .inl ⟨rfl, rfl⟩
  | some entry =>
      obtain ⟨r, room, stream⟩ := entry
      obtain ⟨hroom, hstream⟩ := get_of_streamEntry hentry
      exact .inr ⟨r, room, stream, hroom, hstream, rfl⟩

/-- Setting targets writes the rooms only. -/
theorem updateStreamTarget_fixed {α : Type} (f : ControlState → α)
    (hf : ∀ state rooms, f { state with rooms := rooms } = f state)
    (state : ControlState) (s : StreamId) (b fps w h : Nat) :
    f (state.updateStreamTarget s b fps w h) = f state := by
  unfold updateStreamTarget
  split
  · rfl
  · exact hf state _

/-- Removing an empty room writes the rooms and the voice states only. -/
theorem removeRoomIfEmpty_fixed {α : Type} (f : ControlState → α)
    (hf : ∀ state rooms voice_states,
      f { state with rooms := rooms, voice_states := voice_states } = f state)
    (state : ControlState) (r : RoomId) : f (state.removeRoomIfEmpty r) = f state := by
  unfold removeRoomIfEmpty
  split
  · rfl
  · split
    · exact hf state _ _
    · rfl

/-- Draining writes the queues only. -/
theorem drainRemoteInput_fixed {α : Type} (f : ControlState → α)
    (hf : ∀ state pending, f { state with pending_remote_input := pending } = f state)
    (state : ControlState) (s : StreamId) (n : Nat) : f (state.drainRemoteInput s n) = f state := by
  unfold drainRemoteInput
  split
  · rfl
  · split <;> exact hf state _

/-! ## The updates -/

/-- The user `user_id` changes the control state in one of the ways the relay offers, while it
serves `request`, or while it forgets the user (`none`). -/
inductive Update (request : Option ClientControl) (user_id : UserId) (state : ControlState) :
    ControlState → Prop
  /-- `Hello` records a display name and may have handed out the next user id. -/
  | named (next_user_id : UserId) (display_name : String) (hello : Hello)
      (hnext : next_user_id = state.next_user_id ∨
        user_id = state.next_user_id ∧ next_user_id = state.next_user_id + 1)
      (hrequest : request = some (.hello hello)) :
      Update request user_id state
        { state with
          next_user_id := next_user_id
          display_names := state.display_names.insert user_id display_name }
  | created (name : String) (create : CreateRoom)
      (hlimit : state.rooms.size < state.limits.max_rooms)
      (hrequest : request = some (.createRoom create)) :
      Update request user_id state
        ((({ state with next_room_id := state.next_room_id + 1 } : ControlState).setRoom
            state.next_room_id ((Room.new state.next_room_id name).join user_id)).ensureVoiceState
          state.next_room_id user_id)
  | joined (room_id : RoomId) (room : Room) (hroom : state.rooms[room_id]? = some room)
      (hlimit : user_id ∈ room.participants ∨
        room.participants.size < state.limits.max_participants_per_room)
      (hrequest : request = some (.joinRoom ⟨room_id⟩)) :
      Update request user_id state
        ((state.setRoom room_id (room.join user_id)).ensureVoiceState room_id user_id)
  | left (room_id : RoomId) : Update request user_id state (state.leaveRoom user_id room_id)
  | voiced (room_id : RoomId) (room : Room) (voice_state : VoiceState)
      (hroom : state.rooms[room_id]? = some room) (hmember : user_id ∈ room.participants)
      (hsane : (voice_state.muted && voice_state.speaking) = false) :
      Update request user_id state
        { state with
          voice_states := insertNested state.voice_states room_id user_id voice_state }
  | published (room : Room) (publish : PublishStream)
      (hroom : state.rooms[publish.room_id]? = some room) (hmember : user_id ∈ room.participants)
      (hnew : state.publishedStream publish.stream_id = none)
      (hlimit : room.published_streams.size < state.limits.max_streams_per_room) :
      Update request user_id state
        (state.setRoom publish.room_id (room.publishStream (freshStream publish user_id)))
  | unpublished (room_id : RoomId) (room : Room) (stream_id : StreamId) (stream : PublishedStream)
      (hroom : state.rooms[room_id]? = some room)
      (hstream : room.published_streams[stream_id]? = some stream)
      (hpublisher : stream.publisher_id = user_id) :
      Update request user_id state
        (((state.setRoom room_id (room.removePublishedStream stream_id)).removeStreamState
          stream_id).removeRoomIfEmpty room_id)
  | subscribed (room_id : RoomId) (room room' : Room) (stream_id : StreamId)
      (hroom : state.rooms[room_id]? = some room) (hmember : user_id ∈ room.participants)
      (hsub : room.subscribe stream_id user_id = some room')
      (hrequest : request = some (.subscribeStream ⟨room_id, stream_id⟩)) :
      Update request user_id state (state.setRoom room_id room')
  | unsubscribed (room_id : RoomId) (room : Room) (stream_id : StreamId)
      (hroom : state.rooms[room_id]? = some room) :
      Update request user_id state
        ((state.setRoom room_id (room.unsubscribe stream_id user_id)).removeViewerStats
          stream_id user_id)
  | configured (room : Room) (stream : PublishedStream) (config : StreamConfig)
      (hroom : state.rooms[config.room_id]? = some room)
      (hstream : room.published_streams[config.stream_id]? = some stream)
      (hpublisher : stream.publisher_id = user_id) (hcodec : stream.codec = config.codec) :
      Update request user_id state
        (state.setRoom config.room_id
          (setStream room config.stream_id (withConfig stream (clampedConfig config))))
  | retargeted (stream_id : StreamId) (bitrate_bps frames_per_second width height : Nat)
      (hpublisher : state.Publishes user_id stream_id) :
      Update request user_id state
        (state.updateStreamTarget stream_id bitrate_bps frames_per_second width height)
  /-- A keyframe is asked for by a subscriber or by the publisher. -/
  | demanded (stream_id : StreamId) (reason : KeyframeReason)
      (huser : state.Publishes user_id stream_id ∨ state.Subscribes user_id stream_id) :
      Update request user_id state (state.registerKeyframeRequest stream_id reason)
  | answered (stream_id : StreamId) (hpublisher : state.Publishes user_id stream_id) :
      Update request user_id state
        { state with
          pending_keyframe_requests := state.pending_keyframe_requests.erase stream_id }
  | inputQueued (room_id : RoomId) (room : Room) (stream_id : StreamId) (stream : PublishedStream)
      (event : RemoteInputEvent) (hroom : state.rooms[room_id]? = some room)
      (hstream : room.published_streams[stream_id]? = some stream)
      (hscreen : stream.media_kind = .screen) (hviewer : user_id ∈ room.subscribers stream_id) :
      Update request user_id state (state.queueRemoteInput stream_id event)
  | inputPolled (room_id : RoomId) (room : Room) (stream_id : StreamId) (stream : PublishedStream)
      (max_events : Nat) (hroom : state.rooms[room_id]? = some room)
      (hstream : room.published_streams[stream_id]? = some stream)
      (hpublisher : stream.publisher_id = user_id) :
      Update request user_id state (state.drainRemoteInput stream_id max_events)
  | reported (report : ViewerStatsReport) (hrequest : request = some (.viewerStats report)) :
      Update request user_id state (state.recordViewerStats user_id report)
  | forgotten (hrequest : request = none) : Update request user_id state (state.forgetUser user_id)

/-- A chain of updates by one user. -/
abbrev Updates (request : Option ClientControl) (user_id : UserId) :
    ControlState → ControlState → Prop :=
  ReflTransGen (Update request user_id)

/-! ## Handlers are chains of updates -/

section Handlers

variable {state : ControlState} {session : Session} {u : UserId}

theorem hello_updates (request : Hello)
    (hu : (state.hello session request).2.1.user_id = some u) :
    Updates (some (.hello request)) u state (state.hello session request).1 := by
  unfold hello at hu ⊢
  split
  · exact .refl
  · next hversion =>
      rw [if_neg hversion] at hu
      refine .single ?_
      cases huser : session.user_id with
      | none =>
          simp only [huser, Option.isNone_none, Option.getD_none, if_true] at hu ⊢
          obtain rfl : state.next_user_id = u := Option.some.inj hu
          exact .named _ _ request (.inr ⟨rfl, rfl⟩) rfl
      | some v =>
          simp only [huser, Option.isNone_some, Option.getD_some, Bool.false_eq_true, if_false,
            Session.updateDisplayName] at hu ⊢
          obtain rfl : v = u := Option.some.inj hu
          exact .named _ _ request (.inl rfl) rfl

theorem createRoom_updates (hu : session.user_id = some u) (request : CreateRoom) :
    Updates (some (.createRoom request)) u state (state.createRoom session request).1 := by
  unfold createRoom
  rw [hu]
  simp only
  split
  · exact .refl
  · next hlimit => exact .single (.created _ request (by omega) rfl)

theorem joinRoom_updates (hu : session.user_id = some u) (request : JoinRoom) :
    Updates (some (.joinRoom request)) u state (state.joinRoom session request).1 := by
  unfold joinRoom
  split
  · exact .refl
  · next room hroom =>
      rw [hu]
      simp only
      split
      · exact .refl
      · next hfull =>
          refine .single (.joined _ room hroom ?_ rfl)
          rw [← Std.ExtTreeSet.contains_iff_mem]
          simp only [Bool.and_eq_true, Bool.not_eq_true', decide_eq_true_eq, not_and] at hfull
          by_cases hin : room.participants.contains u = true
          · exact .inl hin
          · have := hfull (Bool.eq_false_iff.mpr hin)
            exact .inr (by omega)

theorem leave_updates (hu : session.user_id = some u) (request : LeaveRoom) :
    Updates (some (.leaveRoom request)) u state (state.leave session request).1 := by
  unfold leave
  rw [hu]
  exact .single (.left _)

theorem setVoiceState_updates (hu : session.user_id = some u) (request : SetVoiceState) :
    Updates (some (.setVoiceState request)) u state (state.setVoiceState session request).1 := by
  unfold setVoiceState
  split
  · exact .refl
  · next v room hok =>
      obtain ⟨hv, hroom, hmem⟩ := participantRoom_ok_iff.mp hok
      obtain rfl := Option.some.inj (hv.symm.trans hu)
      refine .single (.voiced _ room _ hroom hmem ?_)
      cases request.muted <;> simp

theorem publishStream_updates (hu : session.user_id = some u) (request : PublishStream) :
    Updates (some (.publishStream request)) u state (state.publishStream session request).1 := by
  unfold publishStream
  split
  · exact .refl
  · next hconflict =>
      split
      · exact .refl
      · next room hroom =>
          rw [hu]
          simp only
          split
          · next hin =>
              split
              · exact .refl
              · next hlimit =>
                  have hnew : state.publishedStream request.stream_id = none := by
                    simpa [publisherForStream] using hconflict
                  exact .single (.published room request hroom
                    (Std.ExtTreeSet.contains_iff_mem.mp hin) hnew (by omega))
          · exact .refl

theorem unpublishStream_updates (hu : session.user_id = some u) (request : UnpublishStream) :
    Updates (some (.unpublishStream request)) u state
      (state.unpublishStream session request).1 := by
  unfold unpublishStream
  split
  · exact .refl
  · next room stream hok =>
      obtain ⟨hv, hroom, hstream⟩ := publisherStream_ok_iff.mp hok
      exact .single (.unpublished _ room _ stream hroom hstream
        (Option.some.inj (hv.symm.trans hu)))

theorem subscribes_of_subscribe (state : ControlState) (r : RoomId) {room room' : Room}
    {s : StreamId} (hsub : room.subscribe s u = some room') :
    (state.setRoom r room').Subscribes u s := by
  unfold Room.subscribe at hsub
  split at hsub
  · next hpub =>
      obtain rfl := Option.some.inj hsub
      refine ⟨r, _, by rw [get_setRoom, if_pos rfl], ?_, ?_⟩
      · exact Std.ExtTreeMap.contains_iff_mem.mp hpub
      · rw [Room.subscribers, get_insert, if_pos rfl, Option.getD_some, set_mem_insert]
        exact .inl rfl
  · cases hsub

theorem subscribeStream_updates (hu : session.user_id = some u) (request : SubscribeStream) :
    Updates (some (.subscribeStream request)) u state
      (state.subscribeStream session request).1 := by
  unfold subscribeStream
  split
  · exact .refl
  · next room hroom =>
      rw [hu]
      simp only
      split
      · next hin =>
          split
          · exact .refl
          · next room' hsub =>
              have hfirst : Update (some (.subscribeStream request)) u state
                  (state.setRoom request.room_id room') :=
                .subscribed _ room room' _ hroom (Std.ExtTreeSet.contains_iff_mem.mp hin) hsub rfl
              simp only
              split
              · exact .tail (.single hfirst)
                  (.demanded _ _ (.inr (subscribes_of_subscribe _ _ hsub)))
              · exact .single hfirst
      · exact .refl

theorem unsubscribeStream_updates (hu : session.user_id = some u)
    (request : UnsubscribeStream) :
    Updates (some (.unsubscribeStream request)) u state
      (state.unsubscribeStream session request).1 := by
  unfold unsubscribeStream
  rw [hu]
  cases hroom : state.rooms[request.room_id]? with
  | none => exact .refl
  | some room => exact .single (.unsubscribed _ room _ hroom)

theorem requestKeyframe_updates (hu : session.user_id = some u) (request : RequestKeyframe) :
    Updates (some (.requestKeyframe request)) u state
      (state.requestKeyframe session request).1 := by
  unfold requestKeyframe
  split
  · exact .refl
  · next v room hok =>
      obtain ⟨hv, hroom, -⟩ := participantRoom_ok_iff.mp hok
      obtain rfl := Option.some.inj (hv.symm.trans hu)
      split
      · exact .refl
      · next stream hstream =>
          simp only
          split
          · exact .refl
          · next hviewer =>
              refine .single (.demanded _ _ ?_)
              by_cases hpub : stream.publisher_id = v
              · exact .inl ⟨_, stream, ⟨room, hroom, hstream⟩, hpub⟩
              · have hsub : (room.subscribers request.stream_id).contains v = true := by
                  simpa [hpub] using hviewer
                exact .inr ⟨_, room, hroom, mem_of_get hstream,
                  Std.ExtTreeSet.contains_iff_mem.mp hsub⟩

theorem sendRemoteInput_updates (hu : session.user_id = some u) (clock : Clock)
    (request : SendRemoteInput) :
    Updates (some (.sendRemoteInput request)) u state
      (state.sendRemoteInput session clock request).1 := by
  unfold sendRemoteInput
  split
  · exact .refl
  · next v room hok =>
      obtain ⟨hv, hroom, -⟩ := participantRoom_ok_iff.mp hok
      obtain rfl := Option.some.inj (hv.symm.trans hu)
      split
      · exact .refl
      · next stream hstream =>
          split
          · exact .refl
          · next hkind =>
              split
              · exact .refl
              · next hsub =>
                  rw [Bool.not_eq_false, Std.ExtTreeSet.contains_iff_mem] at hsub
                  split
                  · exact .refl
                  · exact .single (.inputQueued _ room _ stream _ hroom hstream
                      (not_not.mp hkind) hsub)

theorem pollRemoteInput_updates (hu : session.user_id = some u) (request : PollRemoteInput) :
    Updates (some (.pollRemoteInput request)) u state
      (state.pollRemoteInput session request).1 := by
  unfold pollRemoteInput validateRemoteInputPublisher
  cases hok : state.publisherStream session request.room_id request.stream_id
      "only the stream publisher can poll remote input" with
  | error error => exact .refl
  | ok found =>
      obtain ⟨room, stream⟩ := found
      obtain ⟨hv, hroom, hstream⟩ := publisherStream_ok_iff.mp hok
      simp only
      split
      · exact .refl
      · exact .single (.inputPolled _ room _ stream _ hroom hstream
          (Option.some.inj (hv.symm.trans hu)))

theorem viewerStats_updates (hu : session.user_id = some u) (request : ViewerStatsReport) :
    Updates (some (.viewerStats request)) u state (state.viewerStats session request).1 := by
  unfold viewerStats
  rw [hu]
  exact .single (.reported _ rfl)

theorem setStreamConfig_updates (hu : session.user_id = some u) (request : StreamConfig) :
    Updates (some (.setStreamConfig request)) u state
      (state.setStreamConfig session request).1 := by
  unfold setStreamConfig
  split
  · exact .refl
  · next room stream hok =>
      obtain ⟨hv, hroom, hstream⟩ := publisherStream_ok_iff.mp hok
      split
      · exact .refl
      · next hcodec =>
          exact .single (.configured room stream request hroom hstream
            (Option.some.inj (hv.symm.trans hu)) (not_not.mp hcodec))

theorem publishes_of_validatePublisherControl {r : RoomId} {s : StreamId}
    (hu : session.user_id = some u) (h : state.validatePublisherControl session r s = none) :
    state.Publishes u s := by
  unfold validatePublisherControl at h
  split at h
  · cases h
  · next found hok =>
      obtain ⟨room, stream⟩ := found
      obtain ⟨hv, hroom, hstream⟩ := publisherStream_ok_iff.mp hok
      exact ⟨r, stream, ⟨room, hroom, hstream⟩, Option.some.inj (hv.symm.trans hu)⟩

theorem setTargetBitrate_updates (hu : session.user_id = some u) (request : SetTargetBitrate) :
    Updates (some (.setTargetBitrate request)) u state
      (state.setTargetBitrate session request).1 := by
  unfold setTargetBitrate
  split
  · exact .refl
  · next hok =>
      exact .single (.retargeted _ _ _ _ _ (publishes_of_validatePublisherControl hu hok))

theorem setTargetFramerate_updates (hu : session.user_id = some u)
    (request : SetTargetFramerate) :
    Updates (some (.setTargetFramerate request)) u state
      (state.setTargetFramerate session request).1 := by
  unfold setTargetFramerate
  split
  · exact .refl
  · next hok =>
      exact .single (.retargeted _ _ _ _ _ (publishes_of_validatePublisherControl hu hok))

/-- New targets leave a stream with its publisher. -/
theorem publishes_updateStreamTarget {s : StreamId} (h : state.Publishes u s)
    (bitrate_bps frames_per_second width height : Nat) :
    (state.updateStreamTarget s bitrate_bps frames_per_second width height).Publishes u s := by
  obtain ⟨r, stream, ⟨room, hroom, hstream⟩, hpub⟩ := h
  rcases state.updateStreamTarget_cases s bitrate_bps frames_per_second width height with
    ⟨-, heq⟩ | ⟨r', room', stream', hroom', hstream', heq⟩
  · rw [heq]
    exact ⟨r, stream, ⟨room, hroom, hstream⟩, hpub⟩
  · rw [heq]
    by_cases hr : r = r'
    · subst hr
      obtain rfl := Option.some.inj (hroom.symm.trans hroom')
      obtain rfl := Option.some.inj (hstream.symm.trans hstream')
      refine ⟨r, withTarget stream bitrate_bps frames_per_second width height,
        ⟨_, by rw [get_setRoom, if_pos rfl], ?_⟩, hpub⟩
      rw [setStream, get_insert, if_pos rfl]
    · exact ⟨r, stream, ⟨room, by rw [get_setRoom, if_neg hr]; exact hroom, hstream⟩, hpub⟩

theorem adaptivePublisherFeedback_updates {request : Option ClientControl} {s : StreamId}
    (h : state.Publishes u s) (r : RoomId) :
    Updates request u state (state.adaptivePublisherFeedback r s).1 ∧
      (state.adaptivePublisherFeedback r s).1.Publishes u s := by
  unfold adaptivePublisherFeedback
  simp only
  split
  · have hupdated := publishes_updateStreamTarget h
      (reducedTarget (state.streamTarget s)).bitrate_bps
      (reducedTarget (state.streamTarget s)).frames_per_second
      (reducedTarget (state.streamTarget s)).width (reducedTarget (state.streamTarget s)).height
    split
    · exact ⟨.tail (.single (.retargeted _ _ _ _ _ h)) (.demanded _ _ (.inl hupdated)), hupdated⟩
    · exact ⟨.single (.retargeted _ _ _ _ _ h), hupdated⟩
  · exact ⟨.refl, h⟩

theorem pollPublisherFeedback_updates (hu : session.user_id = some u)
    (request : PollPublisherFeedback) :
    Updates (some (.pollPublisherFeedback request)) u state
      (state.pollPublisherFeedback session request).1 := by
  unfold pollPublisherFeedback
  rw [hu]
  simp only
  split
  · next hpub =>
      obtain ⟨hchain, hpublishes⟩ :=
        adaptivePublisherFeedback_updates (publishes_of_publisherForStream hpub) request.room_id
      exact .tail hchain (.answered _ hpublishes)
  · exact .refl

end Handlers

/-- A request changes the state by updates of the session's user. -/
theorem handleMessage_updates {state : ControlState} {session : Session} {clock : Clock}
    {message : ClientControl} {u : UserId}
    (hu : (state.handleMessage session clock message).session.user_id = some u) :
    Updates (some message) u state (state.handleMessage session clock message).state := by
  cases message with
  | hello request => exact hello_updates request hu
  | ping request => exact .refl
  | timeSync request => exact .refl
  | authenticate request => exact .refl
  | createRoom request => exact createRoom_updates hu request
  | listRooms => exact .refl
  | joinRoom request => exact joinRoom_updates hu request
  | listParticipants request => exact .refl
  | publishStream request => exact publishStream_updates hu request
  | unpublishStream request => exact unpublishStream_updates hu request
  | listStreams request => exact .refl
  | subscribeStream request => exact subscribeStream_updates hu request
  | unsubscribeStream request => exact unsubscribeStream_updates hu request
  | leaveRoom request => exact leave_updates hu request
  | setVoiceState request => exact setVoiceState_updates hu request
  | setStreamConfig request => exact setStreamConfig_updates hu request
  | pollStreamConfig request => exact .refl
  | pollStreamMetrics request => exact .refl
  | requestKeyframe request => exact requestKeyframe_updates hu request
  | sendRemoteInput request => exact sendRemoteInput_updates hu clock request
  | pollRemoteInput request => exact pollRemoteInput_updates hu request
  | viewerStats request => exact viewerStats_updates hu request
  | pollPublisherFeedback request => exact pollPublisherFeedback_updates hu request
  | setTargetBitrate request => exact setTargetBitrate_updates hu request
  | setTargetFramerate request => exact setTargetFramerate_updates hu request

/-- Only `Hello` changes the user of a session. -/
theorem handleMessage_user_of_gated {message : ClientControl} (h : ungated message = false)
    (state : ControlState) (session : Session) (clock : Clock) :
    (state.handleMessage session clock message).session = session := by
  cases message <;> first | rfl | cases h

theorem handleMessage_of_no_user {state : ControlState} {session : Session} {clock : Clock}
    {message : ClientControl} (hauth : state.authorizationError session message = none)
    (hu : (state.handleMessage session clock message).session.user_id = none) :
    (state.handleMessage session clock message).state = state := by
  cases hgate : ungated message with
  | false =>
      rw [handleMessage_user_of_gated hgate] at hu
      rw [authorizationError_gated hgate, hu] at hauth
      cases hauth
  | true =>
      cases message with
      | hello request =>
          simp only [handleMessage, hello] at hu ⊢
          split
          · rfl
          · next hversion =>
              rw [if_neg hversion] at hu
              cases huser : session.user_id with
              | none => simp [huser, Session.establishIdentity] at hu
              | some v => simp [huser, Session.updateDisplayName] at hu
      | ping request => rfl
      | timeSync request => rfl
      | authenticate request => rfl
      | _ => cases hgate

/-- An envelope changes the state by updates of the user its session has afterwards, and not at
all when the session has none. -/
theorem handleClientEnvelope_updates (state : ControlState) (session : Session) (clock : Clock)
    (envelope : ClientEnvelope) :
    (∀ u, (state.handleClientEnvelope session clock envelope).session.user_id = some u →
      Updates (some envelope.message) u state
        (state.handleClientEnvelope session clock envelope).state) ∧
    ((state.handleClientEnvelope session clock envelope).session.user_id = none →
      (state.handleClientEnvelope session clock envelope).state = state) := by
  unfold handleClientEnvelope
  cases hauth : state.authorizationError session envelope.message with
  | some error => exact ⟨fun _ _ => .refl, fun _ => rfl⟩
  | none =>
      exact ⟨fun u hu => handleMessage_updates hu, fun hu => handleMessage_of_no_user hauth hu⟩

theorem disconnectUser_updates (state : ControlState) (u : UserId) :
    Updates none u state (state.disconnectUser u) := by
  have hchain : ∀ (rooms : List RoomId) (st : ControlState),
      Updates none u st (rooms.foldl (fun st r => st.leaveRoom u r) st) := by
    intro rooms
    induction rooms with
    | nil => exact fun _ => .refl
    | cons r rooms ih => exact fun st => .head (.left r) (ih (st.leaveRoom u r))
  exact .tail (hchain _ state) (.forgotten rfl)

end ControlState

end TeamView.Relay
