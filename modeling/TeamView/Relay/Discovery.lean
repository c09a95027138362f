import TeamView.Lib.Counting
import TeamView.Relay.Lookups
import TeamView.Relay.Polling

set_option autoImplicit false

/-! # The discovery views agree

A participant sees a room in three views: the list of the rooms, the list of its participants and
the list of its streams. Each is computed from the maps of the room on its own
(`crates/relay-server/src/control.rs`). The room invariant makes their counts agree: publishers
and subscribers are participants, subscriptions are to published streams, and no stream is
published in two rooms. The counts are natural numbers here; the source casts them to `u32`, which
changes nothing as long as the limits of the relay fit it (`views_within_limits`).
-/

namespace TeamView.Relay

open TeamView.Protocol BTree Counting MachineInt

namespace ControlState

variable {state : ControlState} {r : RoomId} {room : Room}

/-! ## The views of a room -/

/-- What the list of the rooms says about a room. -/
def roomSummary (room : Room) : RoomSummary where
  room_id := room.id
  name := room.name
  participant_count := room.participants.size
  published_stream_count := room.published_streams.size

/-- What the list of a room's streams says about one. -/
def streamSummary (r : RoomId) (room : Room) (stream : PublishedStream) : StreamSummary where
  room_id := r
  stream_id := stream.stream_id
  publisher_id := stream.publisher_id
  codec := stream.codec
  media_kind := stream.media_kind
  subscriber_count := (room.subscribers stream.stream_id).size
  has_config := stream.config.isSome
  target_bitrate_bps := stream.target_bitrate_bps
  target_frames_per_second := stream.target_frames_per_second

/-- How many of the room's streams a user publishes. -/
def publishedCount (room : Room) (u : UserId) : Nat :=
  ((values room.published_streams).filter fun stream => stream.publisher_id == u).length

/-- How many of the room's streams a user watches. -/
def subscribedCount (room : Room) (u : UserId) : Nat :=
  ((values room.subscriptions).filter fun subscribers : BTreeSet UserId =>
    subscribers.contains u).length

/-! ## Counting in a room -/

/-- Every stream is published by one participant. -/
theorem RoomOk.sum_publishedCount {limits : ControlLimits} (h : RoomOk limits r room) :
    (room.participants.toList.map (publishedCount room)).sum = room.published_streams.size := by
  rw [← length_values]
  refine sum_filter_eq_length PublishedStream.publisher_id (set_nodup_toList _) ?_
  intro stream hstream
  obtain ⟨s, hs⟩ := (mem_values _ _).mp hstream
  exact Std.ExtTreeSet.mem_toList.mpr (h.publisher_inside s stream hs)

/-- All subscribers of a subscription are among the participants. -/
theorem RoomOk.length_filter_contains {limits : ControlLimits} (h : RoomOk limits r room)
    {subscribers : BTreeSet UserId} (hmem : subscribers ∈ values room.subscriptions) :
    (room.participants.toList.filter fun u => subscribers.contains u).length
      = subscribers.size := by
  obtain ⟨s, hs⟩ := (mem_values _ _).mp hmem
  rw [← Std.ExtTreeSet.length_toList]
  refine List.Perm.length_eq ?_
  rw [List.perm_ext_iff_of_nodup ((set_nodup_toList _).filter _) (set_nodup_toList _)]
  intro u
  rw [List.mem_filter, Std.ExtTreeSet.mem_toList, Std.ExtTreeSet.mem_toList,
    Std.ExtTreeSet.contains_iff_mem]
  exact and_iff_right_of_imp (h.subscriber_inside s subscribers u hs)

/-- The streams that the participants watch are the subscribers of the streams. -/
theorem RoomOk.sum_subscribedCount {limits : ControlLimits} (h : RoomOk limits r room) :
    (room.participants.toList.map (subscribedCount room)).sum
      = ((values room.published_streams).map fun stream =>
          (room.subscribers stream.stream_id).size).sum := by
  have hpairs : (room.participants.toList.map (subscribedCount room)).sum
      = ((values room.subscriptions).map fun subscribers : BTreeSet UserId =>
          subscribers.size).sum := by
    unfold subscribedCount
    rw [sum_filter_comm fun (u : UserId) (subscribers : BTreeSet UserId) =>
      subscribers.contains u]
    congr 1
    exact List.map_congr_left fun subscribers hmem => h.length_filter_contains hmem
  have hkeys : ((values room.published_streams).map fun stream =>
        (room.subscribers stream.stream_id).size)
      = room.published_streams.keys.map fun s =>
          ((room.subscriptions[s]?).map fun subscribers => subscribers.size).getD 0 := by
    rw [← Std.ExtTreeMap.map_fst_toList_eq_keys, values, List.map_map, List.map_map]
    refine List.map_congr_left fun entry hentry => ?_
    have hkey := h.stream_key entry.1 entry.2
      (Std.ExtTreeMap.mem_toList_iff_getElem?_eq_some.mp hentry)
    show (room.subscribers entry.2.stream_id).size = _
    rw [hkey, Room.subscribers]
    show _ = ((room.subscriptions[entry.1]?).map _).getD 0
    cases room.subscriptions[entry.1]? with
    | none => exact Std.ExtTreeSet.size_empty
    | some subscribers => rfl
  rw [hpairs, hkeys]
  refine (sum_keys_getD (fun subscribers : BTreeSet UserId => subscribers.size)
    room.subscriptions Std.ExtTreeMap.nodup_keys ?_).symm
  intro s hs
  exact Std.ExtTreeMap.mem_keys.mpr (h.subscription_published s hs)

/-! ## What a participant is told -/

/-- The views of a room agree with each other. -/
structure ViewsAgree (summary : RoomSummary) (listed : ParticipantList) (published : StreamList) :
    Prop where
  participant_count : summary.participant_count = listed.participants.length
  stream_count : summary.published_stream_count = published.streams.length
  published_sum : (listed.participants.map ParticipantSummary.published_stream_count).sum
    = summary.published_stream_count
  subscribed_sum : (listed.participants.map ParticipantSummary.subscribed_stream_count).sum
    = (published.streams.map StreamSummary.subscriber_count).sum
  publisher_listed : ∀ stream ∈ published.streams,
    ∃ participant ∈ listed.participants, participant.user_id = stream.publisher_id

theorem listParticipants_eq {session : Session} {u : UserId} (huser : session.user_id = some u)
    (hroom : state.rooms[r]? = some room) (hin : u ∈ room.participants) :
    ∃ participants : List ParticipantSummary,
      state.listParticipants session r = .participantList ⟨r, participants⟩ ∧
        participants.map ParticipantSummary.user_id = room.participants.toList ∧
        participants.map ParticipantSummary.published_stream_count
          = room.participants.toList.map (publishedCount room) ∧
        participants.map ParticipantSummary.subscribed_stream_count
          = room.participants.toList.map (subscribedCount room) := by
  rw [listParticipants, participantRoom_ok_iff.mpr ⟨huser, hroom, hin⟩]
  refine ⟨_, rfl, ?_, ?_, ?_⟩
  · rw [List.map_map]
    exact List.map_id _
  · rw [List.map_map]
    rfl
  · rw [List.map_map]
    rfl

theorem listStreams_eq {session : Session} {u : UserId} (huser : session.user_id = some u)
    (hroom : state.rooms[r]? = some room) (hin : u ∈ room.participants) :
    state.listStreams session r
      = .streamList ⟨r, (values room.published_streams).map (streamSummary r room)⟩ := by
  rw [listStreams, participantRoom_ok_iff.mpr ⟨huser, hroom, hin⟩]
  rfl

/-- The list of the rooms says one thing about each room. -/
theorem RoomsOk.mem_listRooms_iff (h : RoomsOk state) (hroom : state.rooms[r]? = some room)
    (summary : RoomSummary) :
    summary ∈ state.listRooms.rooms ∧ summary.room_id = r ↔ summary = roomSummary room := by
  have hmem : summary ∈ state.listRooms.rooms ↔
      ∃ room' ∈ values state.rooms, roomSummary room' = summary := List.mem_map
  rw [hmem]
  constructor
  · rintro ⟨⟨room', hroom', rfl⟩, hr⟩
    obtain ⟨r', hget⟩ := (mem_values _ _).mp hroom'
    have hid := (h.room_ok r' room' hget).own_id
    have hsame : r' = r := hid.symm.trans hr
    subst hsame
    rw [hroom] at hget
    rw [Option.some.inj hget]
  · rintro rfl
    exact ⟨⟨room, (mem_values _ _).mpr ⟨r, hroom⟩, rfl⟩, (h.room_ok r room hroom).own_id⟩

/-- Every count in the views is at most a limit of the relay, and the listed subscribers are at
most the participants. -/
theorem views_within_limits (h : RoomsOk state) (hroom : state.rooms[r]? = some room) :
    room.participants.size ≤ state.limits.max_participants_per_room ∧
      room.published_streams.size ≤ state.limits.max_streams_per_room ∧
      (∀ u, publishedCount room u ≤ state.limits.max_streams_per_room ∧
        subscribedCount room u ≤ state.limits.max_streams_per_room) ∧
      ∀ s, (room.subscribers s).size ≤ state.limits.max_participants_per_room := by
  have hok := h.room_ok r room hroom
  have hsubscriptions : room.subscriptions.size ≤ room.published_streams.size :=
    size_le_of_subset hok.subscription_published
  refine ⟨hok.participants_le, hok.streams_le, ?_, ?_⟩
  · intro u
    have hpublished : publishedCount room u ≤ room.published_streams.size := by
      rw [← length_values]
      exact List.length_filter_le _ _
    have hsubscribed : subscribedCount room u ≤ room.subscriptions.size := by
      rw [← length_values]
      exact List.length_filter_le _ _
    have hstreams := hok.streams_le
    omega
  · intro s
    rw [Room.subscribers]
    cases hs : room.subscriptions[s]? with
    | none =>
        rw [Option.getD_none, Std.ExtTreeSet.size_empty]
        exact Nat.zero_le _
    | some subscribers =>
        have hcount := hok.length_filter_contains ((mem_values _ _).mpr ⟨s, hs⟩)
        have hle : (room.participants.toList.filter fun u => subscribers.contains u).length
            ≤ room.participants.toList.length := List.length_filter_le _ _
        rw [hcount, Std.ExtTreeSet.length_toList] at hle
        exact hle.trans hok.participants_le

/-- In every reachable state, what any participant of a room is told about it agrees: the three
lists, the metrics of each stream and the feedback that its publisher polls. -/
theorem discovery_views_agree (hreach : state.Reachable) (hroom : state.rooms[r]? = some room)
    {session : Session} {u : UserId} (huser : session.user_id = some u)
    (hin : u ∈ room.participants) :
    ∃ (summary : RoomSummary) (listed : ParticipantList) (published : StreamList),
      (∀ other, other ∈ state.listRooms.rooms ∧ other.room_id = r ↔ other = summary) ∧
      state.listParticipants session r = .participantList listed ∧
      state.listStreams session r = .streamList published ∧
      ViewsAgree summary listed published ∧
      ∀ stream ∈ published.streams,
        (∃ metrics, state.pollStreamMetrics session r stream.stream_id = .streamMetrics metrics ∧
          metrics.subscriber_count = stream.subscriber_count) ∧
        ∀ (publisher : Session) (poll : PollPublisherFeedback),
          publisher.user_id = some stream.publisher_id → poll.stream_id = stream.stream_id →
          ∃ feedback, (state.pollPublisherFeedback publisher poll).2 = .publisherFeedback feedback ∧
            feedback.total_viewer_count = stream.subscriber_count := by
  have hrooms := hreach.roomInvariant.toRoomsOk
  have hok := hrooms.room_ok r room hroom
  obtain ⟨participants, hlisted, hids, hpublished, hsubscribed⟩ :=
    listParticipants_eq huser hroom hin
  refine ⟨roomSummary room, ⟨r, participants⟩,
    ⟨r, (values room.published_streams).map (streamSummary r room)⟩,
    hrooms.mem_listRooms_iff hroom, hlisted, listStreams_eq huser hroom hin, ?_, ?_⟩
  · -- the counts, one field of `ViewsAgree` after the other
    constructor
    · show room.participants.size = participants.length
      rw [← Std.ExtTreeSet.length_toList, ← hids, List.length_map]
    · show room.published_streams.size = ((values room.published_streams).map _).length
      rw [List.length_map, length_values]
    · -- each stream is counted once, under its publisher
      show (participants.map _).sum = room.published_streams.size
      rw [hpublished, hok.sum_publishedCount]
    · show (participants.map _).sum = (((values room.published_streams).map _).map _).sum
      -- each subscription is counted under its viewer and under its stream
      rw [hsubscribed, hok.sum_subscribedCount, List.map_map]
      rfl
    · intro summary hsummary
      obtain ⟨stream, hstream, rfl⟩ := List.mem_map.mp hsummary
      obtain ⟨s, hs⟩ := (mem_values _ _).mp hstream
      -- publishers are participants
      have hinside : stream.publisher_id ∈ participants.map ParticipantSummary.user_id := by
        rw [hids]
        exact Std.ExtTreeSet.mem_toList.mpr (hok.publisher_inside s stream hs)
      exact List.mem_map.mp hinside
  · intro summary hsummary
    obtain ⟨stream, hstream, rfl⟩ := List.mem_map.mp hsummary
    obtain ⟨s, hs⟩ := (mem_values _ _).mp hstream
    have hkey : stream.stream_id = s := hok.stream_key s stream hs
    constructor
    · -- the metrics count the subscribers of the same room
      have hpub : room.published_streams.contains stream.stream_id = true := by
        rw [hkey]
        exact Std.ExtTreeMap.contains_iff_mem.mpr (mem_of_get hs)
      refine ⟨((state.stream_metrics[stream.stream_id]?).getD .empty).snapshot r stream.stream_id
        (room.subscribers stream.stream_id).size, ?_, rfl⟩
      rw [pollStreamMetrics, participantRoom_ok_iff.mpr ⟨huser, hroom, hin⟩]
      exact if_pos hpub
    · intro publisher poll hpublisher hpoll
      -- the feedback looks the stream up in all rooms, and finds this one
      have hasks : state.publisherForStream poll.stream_id = some stream.publisher_id := by
        rw [hpoll]
        show state.publisherForStream stream.stream_id = _
        rw [hkey]
        exact (hrooms.publisherForStream_eq_some_iff s _).mpr ⟨r, stream, ⟨room, hroom, hs⟩, rfl⟩
      refine ⟨_, by rw [pollPublisherFeedback_publisher hpublisher poll hasks], ?_⟩
      show (state.subscribersForStream poll.stream_id).length
        = (room.subscribers stream.stream_id).size
      rw [hpoll]
      show (state.subscribersForStream stream.stream_id).length = _
      rw [hkey, hrooms.subscribersForStream_eq hroom (mem_of_get hs),
        Std.ExtTreeSet.length_toList]

/-- Two users in a room, of whom one watches the screen of the other. -/
theorem discovery_views_agree_watching :
    let viewer : Session := ⟨2, some 2, "viewer", true⟩
    ∃ (summary : RoomSummary) (listed : ParticipantList) (published : StreamList),
      summary ∈ ControlSystem.watchingState.listRooms.rooms ∧
        ControlSystem.watchingState.listParticipants viewer 1 = .participantList listed ∧
        ControlSystem.watchingState.listStreams viewer 1 = .streamList published ∧
        ViewsAgree summary listed published := by
  intro viewer
  have hthere : (ControlSystem.watchingState.rooms[1]?).any
      (fun room => room.participants.contains 2) = true := by
    decide +kernel
  obtain ⟨room, hroom, hin⟩ := (Option.any_eq_true _ _).mp hthere
  have huser : viewer.user_id = some 2 := rfl
  obtain ⟨summary, listed, published, hsummary, hlisted, hpublished, hagree, -⟩ :=
    discovery_views_agree ControlSystem.watchingState_reachable hroom huser
      (Std.ExtTreeSet.contains_iff_mem.mp hin)
  exact ⟨summary, listed, published, ((hsummary summary).mpr rfl).1, hlisted, hpublished, hagree⟩

end ControlState

end TeamView.Relay
