import TeamView.Relay.Lookups
import TeamView.Relay.Identity

set_option autoImplicit false

/-! # What an outsider of a room can see

Two control states that differ only in the stream state of one room (`DifferOnlyIn`) give a user
outside of that room the same answer to almost every request. The lookups answer alike for the
rooms the user is in and for the streams published outside of `r` (`streamEntry_agrees`,
`aggregate_agrees`), the two chains of checks fail alike in `r` itself (`participantRoom_agrees`,
`publisherStream_agrees`), and every handler but one starts with one of them. The exception is
the report of a viewer: it is answered with the feedback about whatever stream it names.
-/

namespace TeamView.Relay

open TeamView.Protocol BTree Runs MachineInt

namespace ControlState

/-! ## Two states that differ in one room -/

/-- A published stream without its configuration and its targets. -/
def streamOutline (stream : PublishedStream) : PublishedStream :=
  { stream with
    config := none
    target_bitrate_bps := 0
    target_frames_per_second := 0
    target_width := 0
    target_height := 0 }

/-- Two rooms alike but for their subscribers, configurations and targets. -/
structure SameOutline (room room' : Room) : Prop where
  id : room.id = room'.id
  name : room.name = room'.name
  participants : room.participants = room'.participants
  streams : ∀ s : StreamId,
    room.published_streams[s]?.map streamOutline = room'.published_streams[s]?.map streamOutline

/-- The states differ only in the stream state of room `r`. -/
structure DifferOnlyIn (r : RoomId) (state state' : ControlState) : Prop where
  display_names : state.display_names = state'.display_names
  access_token : state.access_token = state'.access_token
  limits : state.limits = state'.limits
  next_room_id : state.next_room_id = state'.next_room_id
  next_user_id : state.next_user_id = state'.next_user_id
  room : Option.Rel SameOutline state.rooms[r]? state'.rooms[r]?
  other_rooms : ∀ a : RoomId, a ≠ r → state.rooms[a]? = state'.rooms[a]?
  other_voices : ∀ a : RoomId, a ≠ r → state.voice_states[a]? = state'.voice_states[a]?
  other_streams : ∀ s : StreamId, (∀ stream, ¬ state.PublishedIn r s stream) →
    state.viewer_stats[s]? = state'.viewer_stats[s]? ∧
      state.pending_keyframe_requests[s]? = state'.pending_keyframe_requests[s]? ∧
      state.stream_metrics[s]? = state'.stream_metrics[s]? ∧
      state.pending_remote_input[s]? = state'.pending_remote_input[s]?

/-- The session's user, if it has one, is not a participant of room `r`. -/
def Outsider (state : ControlState) (r : RoomId) (session : Session) : Prop :=
  ∀ (u : UserId) (room : Room), session.user_id = some u → state.rooms[r]? = some room →
    u ∉ room.participants

/-- The stream is not published in room `r`. -/
def NotIn (state : ControlState) (r : RoomId) (s : StreamId) : Prop :=
  ∀ stream, ¬ state.PublishedIn r s stream

section Agree

variable {r : RoomId} {state state' : ControlState}

theorem notIn_iff_get {s : StreamId} : state.NotIn r s ↔
    ∀ room : Room, state.rooms[r]? = some room → room.published_streams[s]? = none := by
  constructor
  · intro hs room hroom
    rw [Option.eq_none_iff_forall_ne_some]
    exact fun stream hstream => hs stream ⟨room, hroom, hstream⟩
  · rintro hs stream ⟨room, hroom, hstream⟩
    rw [hs room hroom] at hstream
    cases hstream

/-- Room `a` in both states: the same, or missing in both, or alike in outline. -/
theorem get_room_cases (hd : DifferOnlyIn r state state') (a : RoomId) :
    (a ≠ r ∧ state.rooms[a]? = state'.rooms[a]?) ∨
      (a = r ∧ ((state.rooms[a]? = none ∧ state'.rooms[a]? = none) ∨
        ∃ room room', state.rooms[a]? = some room ∧ state'.rooms[a]? = some room' ∧
          SameOutline room room')) := by
  by_cases ha : a = r
  · subst ha
    refine .inr ⟨rfl, ?_⟩
    have hrel := hd.room
    cases hroom : state.rooms[a]? with
    | none =>
        rw [hroom] at hrel
        generalize state'.rooms[a]? = found at hrel
        cases hrel
        exact .inl ⟨rfl, rfl⟩
    | some room =>
        rw [hroom] at hrel
        cases hroom' : state'.rooms[a]? with
        | none =>
            rw [hroom'] at hrel
            cases hrel
        | some room' =>
            rw [hroom'] at hrel
            cases hrel with
            | some hsame => exact .inr ⟨room, room', rfl, rfl, hsame⟩
  · exact .inl ⟨ha, hd.other_rooms a ha⟩

/-- The streams of room `r` are the same in both states. -/
theorem DifferOnlyIn.notIn_iff (hd : DifferOnlyIn r state state') (s : StreamId) :
    state.NotIn r s ↔ state'.NotIn r s := by
  rw [notIn_iff_get, notIn_iff_get]
  rcases get_room_cases hd r with
    ⟨hne, -⟩ | ⟨-, ⟨hnone, hnone'⟩ | ⟨room, room', hroom, hroom', hsame⟩⟩
  · exact absurd rfl hne
  · simp only [hnone, hnone', reduceCtorEq, false_implies]
  · have hmap := hsame.streams s
    simp only [hroom, hroom', Option.some.injEq, forall_eq']
    rw [← Option.map_eq_none_iff (f := streamOutline), hmap, Option.map_eq_none_iff]

/-- An outsider in one state is one in the other. -/
theorem DifferOnlyIn.outsider (hd : DifferOnlyIn r state state') {session : Session}
    (hout : state.Outsider r session) : state'.Outsider r session := by
  intro u room' huser hroom'
  rcases get_room_cases hd r with
    ⟨hne, -⟩ | ⟨-, ⟨hnone, hnone'⟩ | ⟨room, room'', hroom, hroom'', hsame⟩⟩
  · exact absurd rfl hne
  · rw [hnone'] at hroom'
    cases hroom'
  · obtain rfl := Option.some.inj (hroom''.symm.trans hroom')
    rw [← hsame.participants]
    exact hout u room huser hroom

/-! ## Lookups -/

theorem contains_of_outsider {session : Session} (hout : state.Outsider r session) {u : UserId}
    (huser : session.user_id = some u) {room : Room} (hroom : state.rooms[r]? = some room) :
    room.participants.contains u = false := by
  rw [Bool.eq_false_iff, ne_eq, Std.ExtTreeSet.contains_iff_mem]
  exact hout u room huser hroom

theorem participantRoom_agrees (hd : DifferOnlyIn r state state') {session : Session}
    (hout : state.Outsider r session) (a : RoomId) (text : String) :
    state.participantRoom session a text = state'.participantRoom session a text := by
  unfold participantRoom
  cases huser : session.user_id with
  | none => rfl
  | some u =>
      rcases get_room_cases hd a with
        ⟨-, hsame⟩ | ⟨rfl, ⟨hnone, hnone'⟩ | ⟨room, room', hroom, hroom', hsame⟩⟩
      · rw [hsame]
      · rw [hnone, hnone']
      · have hnot := contains_of_outsider hout huser hroom
        simp only [hroom, hroom', ← hsame.participants, hnot, Bool.false_eq_true, if_false]

/-- A room that the session's user is a participant of is not `r`. -/
theorem room_ne_of_participant {session : Session} (hout : state.Outsider r session)
    {a : RoomId} {text : String} {u : UserId} {room : Room}
    (hok : state.participantRoom session a text = .ok (u, room)) :
    a ≠ r ∧ state.rooms[a]? = some room := by
  obtain ⟨huser, hroom, hmem⟩ := participantRoom_ok_iff.mp hok
  refine ⟨?_, hroom⟩
  rintro rfl
  exact hout u room huser hroom hmem

/-- The session's user publishes nothing in `r`. -/
theorem room_ne_of_publisher (h : RoomsOk state) {session : Session}
    (hout : state.Outsider r session) {a : RoomId} {s : StreamId} {text : String} {room : Room}
    {stream : PublishedStream}
    (hok : state.publisherStream session a s text = .ok (room, stream)) :
    a ≠ r ∧ state.PublishedIn a s stream := by
  obtain ⟨huser, hroom, hstream⟩ := publisherStream_ok_iff.mp hok
  refine ⟨?_, room, hroom, hstream⟩
  rintro rfl
  exact hout stream.publisher_id room huser hroom
    ((h.room_ok a room hroom).publisher_inside s stream hstream)

theorem publisherStream_agrees (h : RoomsOk state) (hd : DifferOnlyIn r state state')
    {session : Session} (hout : state.Outsider r session) (a : RoomId) (s : StreamId)
    (text : String) :
    state.publisherStream session a s text = state'.publisherStream session a s text := by
  unfold publisherStream
  cases huser : session.user_id with
  | none => rfl
  | some u =>
      rcases get_room_cases hd a with
        ⟨-, hsame⟩ | ⟨rfl, ⟨hnone, hnone'⟩ | ⟨room, room', hroom, hroom', hsame⟩⟩
      · rw [hsame]
      · rw [hnone, hnone']
      · have hmap := hsame.streams s
        simp only [hroom, hroom']
        cases hstream : room.published_streams[s]? with
        | none =>
            rw [hstream, Option.map_none, eq_comm, Option.map_eq_none_iff] at hmap
            simp only [hmap]
        | some stream =>
            rw [hstream] at hmap
            obtain ⟨stream', hstream', houtline⟩ := Option.map_eq_some_iff.mp hmap.symm
            have hpub : stream'.publisher_id = stream.publisher_id := by
              show (streamOutline stream').publisher_id = (streamOutline stream).publisher_id
              rw [houtline]
            have hne : stream.publisher_id ≠ u := by
              rintro rfl
              exact hout _ room huser hroom
                ((h.room_ok a room hroom).publisher_inside s stream hstream)
            simp only [hstream', hpub, hne, if_false]

theorem streamEntry_agrees (h : RoomsOk state) (h' : RoomsOk state')
    (hd : DifferOnlyIn r state state') {s : StreamId} (hs : state.NotIn r s) :
    state.streamEntry s = state'.streamEntry s := by
  ext ⟨a, room, stream⟩
  rw [h.streamEntry_eq_some_iff, h'.streamEntry_eq_some_iff]
  by_cases ha : a = r
  · subst ha
    constructor
    · rintro ⟨hroom, hstream⟩
      exact absurd ⟨room, hroom, hstream⟩ (hs stream)
    · rintro ⟨hroom, hstream⟩
      exact absurd ⟨room, hroom, hstream⟩ ((hd.notIn_iff s).mp hs stream)
  · rw [hd.other_rooms a ha]

theorem publishedStream_agrees (h : RoomsOk state) (h' : RoomsOk state')
    (hd : DifferOnlyIn r state state') {s : StreamId} (hs : state.NotIn r s) :
    state.publishedStream s = state'.publishedStream s := by
  rw [publishedStream, publishedStream, streamEntry_agrees h h' hd hs]

theorem subscribersForStream_agrees (h : RoomsOk state) (h' : RoomsOk state')
    (hd : DifferOnlyIn r state state') {s : StreamId} (hs : state.NotIn r s) :
    state.subscribersForStream s = state'.subscribersForStream s := by
  by_cases hpub : state.Published s
  · obtain ⟨a, stream, room, hroom, hstream⟩ := hpub
    have ha : a ≠ r := by
      rintro rfl
      exact hs stream ⟨room, hroom, hstream⟩
    rw [h.subscribersForStream_eq hroom (mem_of_get hstream),
      h'.subscribersForStream_eq (by rw [← hd.other_rooms a ha]; exact hroom)
        (mem_of_get hstream)]
  · have hpub' : ¬ state'.Published s := by
      rintro ⟨a, stream, room, hroom, hstream⟩
      by_cases ha : a = r
      · subst ha
        exact (hd.notIn_iff s).mp hs stream ⟨room, hroom, hstream⟩
      · exact hpub ⟨a, stream, room, by rw [hd.other_rooms a ha]; exact hroom, hstream⟩
    rw [subscribersForStream_of_not_published hpub, subscribersForStream_of_not_published hpub']

/-- The feedback about a stream outside of `r`. -/
theorem aggregate_agrees (h : RoomsOk state) (h' : RoomsOk state')
    (hd : DifferOnlyIn r state state') {s : StreamId} (hs : state.NotIn r s) (a : RoomId) :
    state.aggregatePublisherFeedback a s = state'.aggregatePublisherFeedback a s := by
  obtain ⟨hstats, hkeyframes, -, -⟩ := hd.other_streams s hs
  have hcontains : state.pending_keyframe_requests.contains s
      = state'.pending_keyframe_requests.contains s := by
    rw [Std.ExtTreeMap.contains_eq_isSome_getElem?, Std.ExtTreeMap.contains_eq_isSome_getElem?,
      hkeyframes]
  unfold aggregatePublisherFeedback streamTarget streamReports
  rw [publishedStream_agrees h h' hd hs, subscribersForStream_agrees h h' hd hs, hstats, hcontains]

theorem voiceState_agrees (hd : DifferOnlyIn r state state') {a : RoomId} (ha : a ≠ r)
    (u : UserId) : state.voiceState a u = state'.voiceState a u := by
  rw [voiceState, voiceState, getNested_eq_bind, getNested_eq_bind, hd.other_voices a ha]

/-! ## The same change outside of the room -/

theorem notIn_setRoom {a : RoomId} (ha : a ≠ r) {s : StreamId} {room : Room}
    (hs : (state.setRoom a room).NotIn r s) : state.NotIn r s := by
  rintro stream ⟨room', hroom', hstream⟩
  exact hs stream ⟨room', by rw [get_setRoom, if_neg (Ne.symm ha)]; exact hroom', hstream⟩

theorem DifferOnlyIn.setRoom (hd : DifferOnlyIn r state state') {a : RoomId} (ha : a ≠ r)
    (room : Room) : DifferOnlyIn r (state.setRoom a room) (state'.setRoom a room) :=
  { hd with
    room := by
      rw [get_setRoom, get_setRoom, if_neg (Ne.symm ha), if_neg (Ne.symm ha)]
      exact hd.room
    other_rooms := fun b hb => by
      rw [get_setRoom, get_setRoom, hd.other_rooms b hb]
    other_streams := fun s hs => hd.other_streams s (notIn_setRoom ha hs) }

theorem DifferOnlyIn.updateStreamTarget (h : RoomsOk state) (h' : RoomsOk state')
    (hd : DifferOnlyIn r state state') {s : StreamId} (hs : state.NotIn r s) (b f w ht : Nat) :
    DifferOnlyIn r (state.updateStreamTarget s b f w ht)
      (state'.updateStreamTarget s b f w ht) := by
  unfold ControlState.updateStreamTarget
  rw [← streamEntry_agrees h h' hd hs]
  cases hentry : state.streamEntry s with
  | none => exact hd
  | some entry =>
      obtain ⟨a, room, stream⟩ := entry
      have ha : a ≠ r := by
        rintro rfl
        exact hs stream ⟨room, get_of_streamEntry hentry⟩
      exact hd.setRoom ha _

theorem DifferOnlyIn.recordViewerStats (hd : DifferOnlyIn r state state') (u : UserId)
    (report : ViewerStatsReport) :
    DifferOnlyIn r (state.recordViewerStats u report) (state'.recordViewerStats u report) :=
  { hd with
    other_streams := fun s hs => by
      obtain ⟨hstats, hrest⟩ := hd.other_streams s hs
      refine ⟨?_, hrest⟩
      unfold ControlState.recordViewerStats insertNested
      simp only [get_insert]
      split
      · next heq =>
          subst heq
          rw [hstats]
      · exact hstats }

theorem notIn_updateStreamTarget {s : StreamId} (hs : state.NotIn r s) (b f w ht : Nat) :
    (state.updateStreamTarget s b f w ht).NotIn r s := by
  rcases state.updateStreamTarget_cases s b f w ht with
    ⟨-, heq⟩ | ⟨a, room, stream, hroom, hstream, heq⟩
  · rw [heq]
    exact hs
  · rw [heq]
    rintro stream' ⟨room', hroom', hstream'⟩
    by_cases ha : r = a
    · subst ha
      exact hs stream ⟨room, hroom, hstream⟩
    · rw [get_setRoom, if_neg ha] at hroom'
      exact hs stream' ⟨room', hroom', hstream'⟩

/-! ## Answers -/

theorem notIn_of_publishedIn (h : RoomsOk state) {a : RoomId} (ha : a ≠ r) {s : StreamId}
    {stream : PublishedStream} (hin : state.PublishedIn a s stream) : state.NotIn r s :=
  fun stream' hin' => ha (h.stream_unique s a r stream stream' hin hin')

theorem published_agrees (hd : DifferOnlyIn r state state') (s : StreamId) :
    state.Published s ↔ state'.Published s := by
  by_cases hs : state.NotIn r s
  · have hs' := (hd.notIn_iff s).mp hs
    constructor
    · rintro ⟨a, stream, room, hroom, hstream⟩
      have ha : a ≠ r := by
        rintro rfl
        exact hs stream ⟨room, hroom, hstream⟩
      exact ⟨a, stream, room, by rw [← hd.other_rooms a ha]; exact hroom, hstream⟩
    · rintro ⟨a, stream, room, hroom, hstream⟩
      have ha : a ≠ r := by
        rintro rfl
        exact hs' stream ⟨room, hroom, hstream⟩
      exact ⟨a, stream, room, by rw [hd.other_rooms a ha]; exact hroom, hstream⟩
  · have hs' := (hd.notIn_iff s).not.mp hs
    simp only [NotIn, not_forall, not_not] at hs hs'
    exact ⟨fun _ => ⟨r, hs'⟩, fun _ => ⟨r, hs⟩⟩

/-- The fields of a room that are the same in both states. -/
def roomOutline (room : Room) : RoomSummary where
  room_id := room.id
  name := room.name
  participant_count := room.participants.size
  published_stream_count := room.published_streams.size

theorem SameOutline.roomOutline_eq {room room' : Room} (h : SameOutline room room') :
    roomOutline room = roomOutline room' := by
  have hsize : room.published_streams.size = room'.published_streams.size := by
    rw [← size_mapValues streamOutline, mapValues_congr h.streams, size_mapValues]
  unfold roomOutline
  rw [h.id, h.name, h.participants, hsize]

theorem mapValues_roomOutline (hd : DifferOnlyIn r state state') :
    mapValues roomOutline state.rooms = mapValues roomOutline state'.rooms := by
  refine mapValues_congr fun a => ?_
  by_cases ha : a = r
  · subst ha
    have hrel := hd.room
    generalize state.rooms[a]? = found at hrel
    generalize state'.rooms[a]? = found' at hrel
    cases hrel with
    | none => rfl
    | some hsame => rw [Option.map_some, Option.map_some, hsame.roomOutline_eq]
  · rw [hd.other_rooms a ha]

theorem listRooms_agrees (hd : DifferOnlyIn r state state') :
    state.listRooms = state'.listRooms := by
  have hvalues : ∀ st : ControlState,
      st.listRooms = ⟨values (mapValues roomOutline st.rooms)⟩ := by
    intro st
    rw [← map_values]
    rfl
  rw [hvalues, hvalues, mapValues_roomOutline hd]

theorem rooms_size_agrees (hd : DifferOnlyIn r state state') :
    state.rooms.size = state'.rooms.size := by
  rw [← size_mapValues roomOutline, mapValues_roomOutline hd, size_mapValues]

section Handlers

variable {session : Session}

theorem createRoom_agrees (hd : DifferOnlyIn r state state') (request : CreateRoom) :
    (state.createRoom session request).2 = (state'.createRoom session request).2 := by
  unfold createRoom
  rw [← hd.limits, ← hd.next_room_id, ← rooms_size_agrees hd]
  split
  · rfl
  · split <;> rfl

theorem joinRoom_agrees (hd : DifferOnlyIn r state state') (request : JoinRoom) :
    (state.joinRoom session request).2 = (state'.joinRoom session request).2 := by
  unfold joinRoom
  rcases get_room_cases hd request.room_id with
    ⟨-, hsame⟩ | ⟨-, ⟨hnone, hnone'⟩ | ⟨room, room', hroom, hroom', hsame⟩⟩
  · rw [← hsame, ← hd.limits]
    split
    · rfl
    · split
      · rfl
      · split <;> rfl
  · rw [hnone, hnone']
  · rw [hroom, hroom', ← hd.limits]
    cases session.user_id with
    | none => rfl
    | some u =>
        simp only [Room.join, hsame.participants]
        split <;> rfl

theorem listParticipants_agrees (hd : DifferOnlyIn r state state')
    (hout : state.Outsider r session) (a : RoomId) :
    state.listParticipants session a = state'.listParticipants session a := by
  unfold listParticipants
  rw [← participantRoom_agrees hd hout]
  cases hok : state.participantRoom session a "join room before listing participants" with
  | error error => rfl
  | ok found =>
      obtain ⟨u, room⟩ := found
      obtain ⟨ha, -⟩ := room_ne_of_participant hout hok
      simp only [voiceState_agrees hd ha, displayNameForUser, hd.display_names]

theorem setVoiceState_agrees (hd : DifferOnlyIn r state state')
    (hout : state.Outsider r session) (request : SetVoiceState) :
    (state.setVoiceState session request).2 = (state'.setVoiceState session request).2 := by
  unfold setVoiceState
  rw [← participantRoom_agrees hd hout]
  split <;> rfl

theorem publishStream_agrees (hd : DifferOnlyIn r state state')
    (hout : state.Outsider r session) (request : PublishStream) :
    (state.publishStream session request).2 = (state'.publishStream session request).2 := by
  have hconflict : (state.publisherForStream request.stream_id).isSome
      = (state'.publisherForStream request.stream_id).isSome := by
    -- the check for a conflict asks only whether the stream is published somewhere
    have hiff : ∀ st : ControlState,
        (st.publisherForStream request.stream_id).isSome = true ↔
          st.Published request.stream_id := by
      intro st
      rw [publisherForStream, Option.isSome_map, Option.isSome_iff_exists]
      constructor
      · rintro ⟨stream, hstream⟩
        obtain ⟨a, room, hroom, hget⟩ := get_of_publishedStream hstream
        exact ⟨a, stream, room, hroom, hget⟩
      · rintro ⟨a, stream, room, hroom, hget⟩
        rw [← Option.isSome_iff_exists, Option.isSome_iff_ne_none]
        intro hnone
        exact publishedStream_eq_none_iff.mp hnone a room hroom (mem_of_get hget)
    rw [Bool.eq_iff_iff, hiff, hiff, published_agrees hd]
  unfold publishStream
  rw [← hconflict]
  split
  · rfl
  · rcases get_room_cases hd request.room_id with
      ⟨-, hsame⟩ | ⟨rfl, ⟨hnone, hnone'⟩ | ⟨room, room', hroom, hroom', hsame⟩⟩
    · rw [← hsame, ← hd.limits]
      split
      · rfl
      · split
        · rfl
        · split
          · split <;> rfl
          · rfl
    · rw [hnone, hnone']
    · rw [hroom, hroom']
      cases huser : session.user_id with
      | none => rfl
      | some u =>
          -- the room is `r` itself, and an outsider is refused on both sides
          have hnot := contains_of_outsider hout huser hroom
          simp only [← hsame.participants, hnot, Bool.false_eq_true, if_false]

theorem unpublishStream_agrees (h : RoomsOk state) (hd : DifferOnlyIn r state state')
    (hout : state.Outsider r session) (request : UnpublishStream) :
    (state.unpublishStream session request).2 = (state'.unpublishStream session request).2 := by
  unfold unpublishStream
  rw [← publisherStream_agrees h hd hout]
  split <;> rfl

theorem listStreams_agrees (hd : DifferOnlyIn r state state') (hout : state.Outsider r session)
    (a : RoomId) : state.listStreams session a = state'.listStreams session a := by
  unfold listStreams
  rw [← participantRoom_agrees hd hout]

theorem subscribeStream_agrees (hd : DifferOnlyIn r state state')
    (hout : state.Outsider r session) (request : SubscribeStream) :
    (state.subscribeStream session request).2 = (state'.subscribeStream session request).2 := by
  unfold subscribeStream
  rcases get_room_cases hd request.room_id with
    ⟨-, hsame⟩ | ⟨rfl, ⟨hnone, hnone'⟩ | ⟨room, room', hroom, hroom', hsame⟩⟩
  · rw [← hsame]
    split
    · rfl
    · split
      · rfl
      · split
        · split <;> rfl
        · rfl
  · rw [hnone, hnone']
  · rw [hroom, hroom']
    cases huser : session.user_id with
    | none => rfl
    | some u =>
        have hnot := contains_of_outsider hout huser hroom
        simp only [← hsame.participants, hnot, Bool.false_eq_true, if_false]

theorem unsubscribeStream_agrees (request : UnsubscribeStream) :
    (state.unsubscribeStream session request).2
      = (state'.unsubscribeStream session request).2 := by
  have hconst : ∀ st : ControlState, (st.unsubscribeStream session request).2
      = .streamUnsubscribed ⟨request.room_id, request.stream_id⟩ := by
    intro st
    unfold unsubscribeStream
    simp only
    split <;> rfl
  rw [hconst, hconst]

theorem leave_agrees (request : LeaveRoom) :
    (state.leave session request).2 = (state'.leave session request).2 := by
  unfold leave
  split <;> rfl

theorem setStreamConfig_agrees (h : RoomsOk state) (hd : DifferOnlyIn r state state')
    (hout : state.Outsider r session) (request : StreamConfig) :
    (state.setStreamConfig session request).2 = (state'.setStreamConfig session request).2 := by
  unfold setStreamConfig
  rw [← publisherStream_agrees h hd hout]
  split
  · rfl
  · split <;> rfl

theorem pollStreamConfig_agrees (hd : DifferOnlyIn r state state')
    (hout : state.Outsider r session) (a : RoomId) (s : StreamId) :
    state.pollStreamConfig session a s = state'.pollStreamConfig session a s := by
  unfold pollStreamConfig
  rw [← participantRoom_agrees hd hout]

theorem pollStreamMetrics_agrees (h : RoomsOk state) (hd : DifferOnlyIn r state state')
    (hout : state.Outsider r session) (a : RoomId) (s : StreamId) :
    state.pollStreamMetrics session a s = state'.pollStreamMetrics session a s := by
  unfold pollStreamMetrics
  rw [← participantRoom_agrees hd hout]
  cases hok : state.participantRoom session a "join room before polling stream metrics" with
  | error error => rfl
  | ok found =>
      obtain ⟨u, room⟩ := found
      obtain ⟨ha, hroom⟩ := room_ne_of_participant hout hok
      simp only
      split
      · next hpub =>
          obtain ⟨stream, hstream⟩ :=
            (mem_iff_get _ _).mp (Std.ExtTreeMap.contains_iff_mem.mp hpub)
          obtain ⟨-, -, hmetrics, -⟩ :=
            hd.other_streams s (notIn_of_publishedIn h ha ⟨room, hroom, hstream⟩)
          rw [hmetrics]
      · rfl

theorem requestKeyframe_agrees (hd : DifferOnlyIn r state state')
    (hout : state.Outsider r session) (request : RequestKeyframe) :
    (state.requestKeyframe session request).2 = (state'.requestKeyframe session request).2 := by
  unfold requestKeyframe
  rw [← participantRoom_agrees hd hout]
  split
  · rfl
  · split
    · rfl
    · simp only
      split <;> rfl

theorem sendRemoteInput_agrees (h : RoomsOk state) (hd : DifferOnlyIn r state state')
    (hout : state.Outsider r session) (clock : Clock) (request : SendRemoteInput) :
    (state.sendRemoteInput session clock request).2
      = (state'.sendRemoteInput session clock request).2 := by
  unfold sendRemoteInput
  rw [← participantRoom_agrees hd hout]
  cases hok : state.participantRoom session request.room_id
      "join room before sending remote input" with
  | error error => rfl
  | ok found =>
      obtain ⟨u, room⟩ := found
      obtain ⟨ha, hroom⟩ := room_ne_of_participant hout hok
      simp only
      cases hstream : room.published_streams[request.stream_id]? with
      | none => rfl
      | some stream =>
          obtain ⟨-, -, -, hinput⟩ :=
            hd.other_streams _ (notIn_of_publishedIn h ha ⟨room, hroom, hstream⟩)
          simp only [excessRemoteInput, remoteInputQueue, hinput]
          split
          · rfl
          · split
            · rfl
            · split <;> rfl

theorem pollRemoteInput_agrees (h : RoomsOk state) (hd : DifferOnlyIn r state state')
    (hout : state.Outsider r session) (request : PollRemoteInput) :
    (state.pollRemoteInput session request).2 = (state'.pollRemoteInput session request).2 := by
  unfold pollRemoteInput validateRemoteInputPublisher
  rw [← publisherStream_agrees h hd hout]
  cases hok : state.publisherStream session request.room_id request.stream_id
      "only the stream publisher can poll remote input" with
  | error error => rfl
  | ok found =>
      obtain ⟨room, stream⟩ := found
      obtain ⟨ha, hin⟩ := room_ne_of_publisher h hout hok
      obtain ⟨-, -, -, hinput⟩ := hd.other_streams _ (notIn_of_publishedIn h ha hin)
      simp only [remoteInputQueue, hinput]
      split <;> rfl

theorem viewerStats_agrees (h : RoomInvariant state) (h' : RoomInvariant state')
    (hd : DifferOnlyIn r state state') {request : ViewerStatsReport}
    (hs : state.NotIn r request.stream_id) :
    (state.viewerStats session request).2 = (state'.viewerStats session request).2 := by
  unfold viewerStats
  cases session.user_id with
  | none =>
      simp only
      rw [aggregate_agrees h.toRoomsOk h'.toRoomsOk hd hs]
  | some u =>
      have hok : RoomsOk (state.recordViewerStats u request) :=
        update_roomsOk h.toRoomsOk (.reported request rfl)
      have hok' : RoomsOk (state'.recordViewerStats u request) :=
        update_roomsOk h'.toRoomsOk (.reported request rfl)
      simp only
      rw [aggregate_agrees hok hok' (hd.recordViewerStats u request) hs]

theorem notIn_of_publishes (h : RoomsOk state) (hout : state.Outsider r session) {u : UserId}
    (huser : session.user_id = some u) {s : StreamId} (hpub : state.Publishes u s) :
    state.NotIn r s := by
  obtain ⟨a, stream, ⟨room, hroom, hstream⟩, hu⟩ := hpub
  refine notIn_of_publishedIn h ?_ ⟨room, hroom, hstream⟩
  rintro rfl
  refine hout u room huser hroom ?_
  rw [← hu]
  exact (h.room_ok a room hroom).publisher_inside s stream hstream

theorem pollPublisherFeedback_agrees (h : RoomsOk state) (h' : RoomsOk state')
    (hd : DifferOnlyIn r state state') (hout : state.Outsider r session)
    (request : PollPublisherFeedback) :
    (state.pollPublisherFeedback session request).2
      = (state'.pollPublisherFeedback session request).2 := by
  unfold pollPublisherFeedback
  cases huser : session.user_id with
  | none => rfl
  | some u =>
      simp only
      by_cases hpub : state.publisherForStream request.stream_id = some u
      · -- an outsider polls for a stream of its own, which is not in `r`
        have hs := notIn_of_publishes h hout huser (publishes_of_publisherForStream hpub)
        have hstream := publishedStream_agrees h h' hd hs
        have hpub' : state'.publisherForStream request.stream_id = some u := by
          rw [publisherForStream, ← hstream]
          exact hpub
        have htarget : state.streamTarget request.stream_id
            = state'.streamTarget request.stream_id := by
          rw [streamTarget, streamTarget, hstream]
        rw [if_pos hpub, if_pos hpub']
        unfold adaptivePublisherFeedback
        rw [← aggregate_agrees h h' hd hs, ← htarget]
        simp only
        split
        · split <;> rfl
        · rfl
      · have hpub' : state'.publisherForStream request.stream_id ≠ some u := by
          intro hpub'
          have hs := (hd.notIn_iff request.stream_id).mpr
            (notIn_of_publishes h' (hd.outsider hout) huser (publishes_of_publisherForStream hpub'))
          refine hpub ?_
          rw [publisherForStream, publishedStream_agrees h h' hd hs]
          exact hpub'
        rw [if_neg hpub, if_neg hpub']

theorem validatePublisherControl_agrees (h : RoomsOk state) (hd : DifferOnlyIn r state state')
    (hout : state.Outsider r session) (a : RoomId) (s : StreamId) :
    state.validatePublisherControl session a s = state'.validatePublisherControl session a s := by
  unfold validatePublisherControl
  rw [publisherStream_agrees h hd hout]

/-- The answer to a new target, for a stream outside of `r`. -/
theorem retarget_agrees (h : RoomsOk state) (h' : RoomsOk state')
    (hd : DifferOnlyIn r state state') {s : StreamId} (hs : state.NotIn r s)
    (b f w ht : Nat) (a : RoomId) :
    (state.updateStreamTarget s b f w ht).aggregatePublisherFeedback a s
      = (state'.updateStreamTarget s b f w ht).aggregatePublisherFeedback a s :=
  aggregate_agrees (retarget_roomsOk h s b f w ht) (retarget_roomsOk h' s b f w ht)
    (hd.updateStreamTarget h h' hs b f w ht) (notIn_updateStreamTarget hs b f w ht) a

theorem notIn_of_validated (h : RoomsOk state) (hout : state.Outsider r session) {a : RoomId}
    {s : StreamId} (hok : state.validatePublisherControl session a s = none) :
    state.NotIn r s := by
  cases huser : session.user_id with
  | none =>
      rw [validatePublisherControl, publisherStream, huser] at hok
      cases hok
  | some u =>
      exact notIn_of_publishes h hout huser (publishes_of_validatePublisherControl huser hok)

theorem setTargetBitrate_agrees (h : RoomsOk state) (h' : RoomsOk state')
    (hd : DifferOnlyIn r state state') (hout : state.Outsider r session)
    (request : SetTargetBitrate) :
    (state.setTargetBitrate session request).2 = (state'.setTargetBitrate session request).2 := by
  unfold setTargetBitrate
  rw [← validatePublisherControl_agrees h hd hout]
  cases hok : state.validatePublisherControl session request.room_id request.stream_id with
  | some error => rfl
  | none =>
      have hs := notIn_of_validated h hout hok
      have htarget : state.streamTarget request.stream_id
          = state'.streamTarget request.stream_id := by
        rw [streamTarget, streamTarget, publishedStream_agrees h h' hd hs]
      simp only [← htarget]
      rw [retarget_agrees h h' hd hs]

theorem setTargetFramerate_agrees (h : RoomsOk state) (h' : RoomsOk state')
    (hd : DifferOnlyIn r state state') (hout : state.Outsider r session)
    (request : SetTargetFramerate) :
    (state.setTargetFramerate session request).2
      = (state'.setTargetFramerate session request).2 := by
  unfold setTargetFramerate
  rw [← validatePublisherControl_agrees h hd hout]
  cases hok : state.validatePublisherControl session request.room_id request.stream_id with
  | some error => rfl
  | none =>
      have hs := notIn_of_validated h hout hok
      have htarget : state.streamTarget request.stream_id
          = state'.streamTarget request.stream_id := by
        rw [streamTarget, streamTarget, publishedStream_agrees h h' hd hs]
      simp only [← htarget]
      rw [retarget_agrees h h' hd hs]

theorem hello_agrees (hd : DifferOnlyIn r state state') (request : Hello) :
    (state.hello session request).2.2 = (state'.hello session request).2.2 := by
  unfold hello
  rw [← hd.next_user_id]
  split <;> rfl

theorem authenticate_agrees (hd : DifferOnlyIn r state state') (request : Authenticate) :
    (state.authenticate session request).2 = (state'.authenticate session request).2 := by
  unfold authenticate displayNameForUser
  rw [← hd.access_token, ← hd.display_names]

/-- Every request but a report about a stream of `r` is answered alike in both states. -/
theorem handleMessage_agrees (h : RoomInvariant state) (h' : RoomInvariant state')
    (hd : DifferOnlyIn r state state') (hout : state.Outsider r session) (clock : Clock)
    (message : ClientControl)
    (hreport : ∀ report, message = .viewerStats report → state.NotIn r report.stream_id) :
    (state.handleMessage session clock message).message
      = (state'.handleMessage session clock message).message := by
  have hrooms := h.toRoomsOk
  have hrooms' := h'.toRoomsOk
  cases message with
  | hello request => exact hello_agrees hd request
  | ping request => rfl
  | timeSync request => rfl
  | authenticate request => exact authenticate_agrees hd request
  | createRoom request => exact createRoom_agrees hd request
  | listRooms => exact congrArg ServerControl.roomList (listRooms_agrees hd)
  | joinRoom request => exact joinRoom_agrees hd request
  | listParticipants request => exact listParticipants_agrees hd hout request.room_id
  | publishStream request => exact publishStream_agrees hd hout request
  | unpublishStream request => exact unpublishStream_agrees hrooms hd hout request
  | listStreams request => exact listStreams_agrees hd hout request.room_id
  | subscribeStream request => exact subscribeStream_agrees hd hout request
  | unsubscribeStream request => exact unsubscribeStream_agrees request
  | leaveRoom request => exact leave_agrees request
  | setVoiceState request => exact setVoiceState_agrees hd hout request
  | setStreamConfig request => exact setStreamConfig_agrees hrooms hd hout request
  | pollStreamConfig request =>
      exact pollStreamConfig_agrees hd hout request.room_id request.stream_id
  | pollStreamMetrics request =>
      exact pollStreamMetrics_agrees hrooms hd hout request.room_id request.stream_id
  | requestKeyframe request => exact requestKeyframe_agrees hd hout request
  | sendRemoteInput request => exact sendRemoteInput_agrees hrooms hd hout clock request
  | pollRemoteInput request => exact pollRemoteInput_agrees hrooms hd hout request
  | viewerStats request => exact viewerStats_agrees h h' hd (hreport request rfl)
  | pollPublisherFeedback request =>
      exact pollPublisherFeedback_agrees hrooms hrooms' hd hout request
  | setTargetBitrate request => exact setTargetBitrate_agrees hrooms hrooms' hd hout request
  | setTargetFramerate request => exact setTargetFramerate_agrees hrooms hrooms' hd hout request

theorem authorizationError_agrees (hd : DifferOnlyIn r state state') (message : ClientControl) :
    state.authorizationError session message = state'.authorizationError session message := by
  cases hgate : ungated message with
  | true => rw [authorizationError_ungated hgate, authorizationError_ungated hgate]
  | false =>
      rw [authorizationError_gated hgate, authorizationError_gated hgate, requiresAccessToken,
        requiresAccessToken, hd.access_token]

end Handlers

/-! ## The report that leaks -/

/-- The relay accepts a report of the session about a stream that is published in `r`. -/
def ReportsOn (state : ControlState) (r : RoomId) (session : Session) (message : ClientControl) :
    Prop :=
  state.authorizationError session message = none ∧
    ∃ report, message = .viewerStats report ∧ ¬ state.NotIn r report.stream_id

/-- New targets of a stream in `r` are stream state of `r`. -/
theorem differOnlyIn_updateStreamTarget (h : RoomsOk state) {s : StreamId} {room : Room}
    {stream : PublishedStream} (hroom : state.rooms[r]? = some room)
    (hstream : room.published_streams[s]? = some stream) (b f w ht : Nat) :
    DifferOnlyIn r state (state.updateStreamTarget s b f w ht) := by
  have hupdated : state.updateStreamTarget s b f w ht
      = state.setRoom r (setStream room s (withTarget stream b f w ht)) := by
    unfold updateStreamTarget
    rw [(h.streamEntry_eq_some_iff s r room stream).mpr ⟨hroom, hstream⟩]
  rw [hupdated]
  refine
    { display_names := rfl
      access_token := rfl
      limits := rfl
      next_room_id := rfl
      next_user_id := rfl
      room := ?_
      other_rooms := fun a ha => by rw [get_setRoom, if_neg ha]
      other_voices := fun a ha => rfl
      other_streams := fun s hs => ⟨rfl, rfl, rfl, rfl⟩ }
  rw [get_setRoom, if_pos rfl, hroom]
  refine .some ⟨rfl, rfl, rfl, fun s' => ?_⟩
  rw [setStream, get_insert]
  split
  · next heq =>
      rw [heq, hstream]
      rfl
  · rfl

/-- The answer to a report names the target bitrate of the stream it is about. -/
theorem viewerStats_bitrate {report : ViewerStatsReport} {stream : PublishedStream}
    (hfound : state.publishedStream report.stream_id = some stream) (session : Session) :
    ∃ feedback, (state.viewerStats session report).2 = .publisherFeedback feedback ∧
      feedback.aggregate_available_bitrate_bps = stream.target_bitrate_bps := by
  refine ⟨_, rfl, ?_⟩
  simp only [aggregatePublisherFeedback, streamTarget]
  cases session.user_id with
  | none =>
      simp only
      rw [hfound]
  | some u =>
      have hrecorded : (state.recordViewerStats u report).publishedStream report.stream_id
          = some stream := hfound
      simp only
      rw [hrecorded]

/-- A bitrate within the limits that differs from `current`. -/
def otherBitrate (current : Nat) : Nat :=
  if current = minTargetBitrateBps then maxTargetBitrateBps else minTargetBitrateBps

theorem otherBitrate_spec (current : Nat) :
    clamp minTargetBitrateBps maxTargetBitrateBps (otherBitrate current) = otherBitrate current ∧
      otherBitrate current ≠ current := by
  unfold otherBitrate
  split
  · next heq =>
      rw [heq]
      decide
  · next hne => exact ⟨by decide, Ne.symm hne⟩

end Agree

/-- The publisher of a stream in `r` can change what a report about the stream is answered with,
and this change is stream state of `r`. -/
theorem exists_retargeted {system : ControlSystem} (hsystem : system.Reachable) {r : RoomId}
    {s : StreamId} {stream : PublishedStream} (hin : system.control.PublishedIn r s stream) :
    ∃ state' : ControlState, state'.Reachable ∧ DifferOnlyIn r system.control state' ∧
      ∃ stream', state'.publishedStream s = some stream' ∧
        stream'.target_bitrate_bps ≠ stream.target_bitrate_bps := by
  have h := ControlSystem.reachable_roomInvariant hsystem
  obtain ⟨room, hroom, hstream⟩ := hin
  have hinside := (h.room_ok r room hroom).publisher_inside s stream hstream
  obtain ⟨i, hi⟩ := (ControlSystem.reachable_identityInvariant hsystem).participant_backed r room
    stream.publisher_id hroom hinside
  obtain ⟨hclamp, hother⟩ := otherBitrate_spec stream.target_bitrate_bps
  -- the publisher's own session asks for another bitrate
  have hok : system.control.validatePublisherControl (system.sessions i) r s = none := by
    rw [validatePublisherControl, publisherStream_ok_iff.mpr ⟨hi.1, hroom, hstream⟩]
  have hentry := (h.streamEntry_eq_some_iff s r room stream).mpr ⟨hroom, hstream⟩
  have hstate : (system.step (.ask i (.setTargetBitrate
      ⟨r, s, otherBitrate stream.target_bitrate_bps⟩))).control =
        system.control.updateStreamTarget s (otherBitrate stream.target_bitrate_bps)
          stream.target_frames_per_second stream.target_width stream.target_height := by
    simp only [ControlSystem.step, ControlEvent.ask, ControlSystem.reply, handleClientEnvelope,
      authorizationError_of_authorized hi, ControlEnvelope.new, handleMessage, Handled.of,
      setTargetBitrate, hok, hclamp, streamTarget, publishedStream, hentry, Option.map_some]
  refine ⟨_, ⟨_, hsystem.after (.ask i (.setTargetBitrate
    ⟨r, s, otherBitrate stream.target_bitrate_bps⟩)), rfl⟩, ?_, ?_⟩
  · rw [hstate]
    exact differOnlyIn_updateStreamTarget h.toRoomsOk hroom hstream _ _ _ _
  · rw [hstate]
    have hrooms := retarget_roomsOk h.toRoomsOk s (otherBitrate stream.target_bitrate_bps)
      stream.target_frames_per_second stream.target_width stream.target_height
    refine ⟨withTarget stream (otherBitrate stream.target_bitrate_bps)
      stream.target_frames_per_second stream.target_width stream.target_height, ?_, ?_⟩
    · refine (hrooms.publishedStream_eq_some_iff s _).mpr ⟨r, ?_⟩
      unfold updateStreamTarget
      rw [hentry]
      refine ⟨_, by rw [get_setRoom, if_pos rfl], ?_⟩
      rw [setStream, get_insert, if_pos rfl]
    · rw [withTarget, hclamp]
      exact hother

/-- An outsider's request is answered alike in all reachable states that differ only in the
stream state of `r` exactly when it is not an accepted report about a stream of `r`. -/
theorem answers_agree_iff {state : ControlState} (hstate : state.Reachable) {r : RoomId}
    {session : Session} (hout : state.Outsider r session) (clock : Clock)
    (envelope : ClientEnvelope) :
    (∀ state' : ControlState, state'.Reachable → DifferOnlyIn r state state' →
      (state.handleClientEnvelope session clock envelope).response
        = (state'.handleClientEnvelope session clock envelope).response) ↔
      ¬ state.ReportsOn r session envelope.message := by
  constructor
  · rintro hagree ⟨hauth, report, hmessage, hnotIn⟩
    simp only [NotIn, not_forall, not_not] at hnotIn
    obtain ⟨stream, hin⟩ := hnotIn
    obtain ⟨system, hsystem, rfl⟩ := hstate
    -- another bitrate of the same stream is a difference that the answer tells
    obtain ⟨state', hstate', hd, stream', hfound', hne⟩ := exists_retargeted hsystem hin
    have h := ControlSystem.reachable_roomInvariant hsystem
    have hfound := (h.publishedStream_eq_some_iff _ stream).mpr ⟨r, hin⟩
    have hsame := hagree state' hstate' hd
    have hauth' : state'.authorizationError session envelope.message = none := by
      rw [← authorizationError_agrees hd]
      exact hauth
    unfold handleClientEnvelope at hsame
    rw [hauth, hauth'] at hsame
    have hanswers := congrArg ControlEnvelope.message hsame
    rw [hmessage] at hanswers
    obtain ⟨feedback, hfeedback, hbitrate⟩ := viewerStats_bitrate hfound session
    obtain ⟨feedback', hfeedback', hbitrate'⟩ := viewerStats_bitrate hfound' session
    have hequal : ServerControl.publisherFeedback feedback = .publisherFeedback feedback' :=
      hfeedback.symm.trans (Eq.trans hanswers hfeedback')
    rw [ServerControl.publisherFeedback.injEq] at hequal
    rw [← hbitrate, ← hbitrate', hequal] at hne
    exact hne rfl
  · intro hreport state' hstate' hd
    unfold handleClientEnvelope
    rw [← authorizationError_agrees hd]
    cases hauth : state.authorizationError session envelope.message with
    | some error => rfl
    | none =>
        refine congrArg (ControlEnvelope.new envelope.request_id) ?_
        refine handleMessage_agrees hstate.roomInvariant hstate'.roomInvariant hd hout clock
          envelope.message fun report hmessage => ?_
        -- no report on a stream of `r`, so the handlers see the same on both sides
        by_contra hnotIn
        exact hreport ⟨hauth, report, hmessage, hnotIn⟩

/-! ## An outsider that reads a target

User 1 shows its screen to user 2 in room 1, and user 3 has only said hello. -/

def hallwayRun : List ControlEvent :=
  ControlSystem.watchingRun ++ [.ask 2 (.hello ⟨protocolVersion, "outsider"⟩)]

def hallwaySystem : ControlSystem :=
  run ControlSystem.step (ControlSystem.start .new) hallwayRun

theorem hallwaySystem_reachable : hallwaySystem.Reachable :=
  ⟨ControlSystem.start .new, hallwayRun, ⟨.new, .new, rfl⟩, rfl⟩

/-- A report without any loss, about the screen in room 1. -/
def quietReport : ViewerStatsReport where
  room_id := 1
  stream_id := 7
  received_packets := 0
  lost_packets := 0
  decoded_frames := 0
  dropped_frames := 0
  jitter_buffer_ms := 0
  estimated_latency_ms := 0
  calibrated_latency_ms := 0
  reassembly_ms_p50 := 0
  reassembly_ms_p95 := 0
  decode_ms_p50 := 0
  decode_ms_p95 := 0
  render_ms_p50 := 0
  render_ms_p95 := 0
  render_fps := 0

theorem hallway_outsider : hallwaySystem.control.Outsider 1 (hallwaySystem.sessions 2) := by
  intro u room huser hroom hin
  have hcheck : (hallwaySystem.control.rooms[1]?).all fun room =>
      !room.participants.contains 3 := by decide +kernel
  have hthree : (hallwaySystem.sessions 2).user_id = some 3 := by decide +kernel
  obtain rfl := Option.some.inj (hthree.symm.trans huser)
  rw [hroom] at hcheck
  simp only [Option.all_some, Bool.not_eq_true', Bool.eq_false_iff, ne_eq,
    Std.ExtTreeSet.contains_iff_mem] at hcheck
  exact hcheck hin

theorem answers_agree_iff_hallway :
    (∀ state' : ControlState, state'.Reachable → DifferOnlyIn 1 hallwaySystem.control state' →
      (hallwaySystem.control.handleClientEnvelope (hallwaySystem.sessions 2) ⟨0, 0⟩
          (.new 0 (.viewerStats quietReport))).response
        = (state'.handleClientEnvelope (hallwaySystem.sessions 2) ⟨0, 0⟩
          (.new 0 (.viewerStats quietReport))).response) ↔
      ¬ hallwaySystem.control.ReportsOn 1 (hallwaySystem.sessions 2) (.viewerStats quietReport) :=
  answers_agree_iff ⟨hallwaySystem, hallwaySystem_reachable, rfl⟩ hallway_outsider ⟨0, 0⟩
    (.new 0 (.viewerStats quietReport))

/-- The same relay after the publisher has lowered its target. -/
def loweredState : ControlState :=
  (hallwaySystem.step (.ask 0 (.setTargetBitrate ⟨1, 7, minTargetBitrateBps⟩))).control

/-- The outsider's report is answered with the target of a room it is not in. -/
theorem outsider_reads_target :
    hallwaySystem.control.Reachable ∧ loweredState.Reachable ∧
      hallwaySystem.control.Outsider 1 (hallwaySystem.sessions 2) ∧
      DifferOnlyIn 1 hallwaySystem.control loweredState ∧
      (hallwaySystem.control.handleClientEnvelope (hallwaySystem.sessions 2) ⟨0, 0⟩
          (.new 0 (.viewerStats quietReport))).response
        ≠ (loweredState.handleClientEnvelope (hallwaySystem.sessions 2) ⟨0, 0⟩
          (.new 0 (.viewerStats quietReport))).response := by
  refine ⟨⟨hallwaySystem, hallwaySystem_reachable, rfl⟩,
    ⟨_, hallwaySystem_reachable.after _, rfl⟩, hallway_outsider, ?_, ?_⟩
  · have h := ControlSystem.reachable_roomInvariant hallwaySystem_reachable
    have hpublished : (hallwaySystem.control.rooms[1]?).any
        fun room => (room.published_streams[7]?).isSome := by decide +kernel
    obtain ⟨room, hroom, hstream⟩ := Option.any_eq_true _ _ |>.mp hpublished
    obtain ⟨stream, hstream⟩ := Option.isSome_iff_exists.mp hstream
    exact differOnlyIn_updateStreamTarget h.toRoomsOk hroom hstream _ _ _ _
  · decide +kernel

end ControlState

end TeamView.Relay
