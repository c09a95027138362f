import TeamView.Relay.Identity
import TeamView.Relay.Lookups

set_option autoImplicit false

/-! # Viewer reports and what the publisher sees of them

A viewer report steers the targets of a stream through `adaptive_publisher_feedback`, so the
relay should hold reports of current subscribers only (`ReportsOk`). `ViewerStats` itself makes no
such check. Every other request keeps the reports tied to the subscriptions, although each of
them prunes the two through different keys: `update_reports` says so once for all updates. Under
`ReportsOk` the publisher's view of a stream changes only through its subscribers and itself
(`updates_sameView`).
-/

namespace TeamView.Relay

open TeamView.Protocol BTree MachineInt Runs Relation

namespace ControlState

variable {state state' : ControlState} {request : Option ClientControl} {u : UserId}

/-! ## Reports and subscriptions -/

/-- Every report was left by a viewer that subscribes to the stream. -/
def ReportsOk (state : ControlState) : Prop :=
  ∀ (s : StreamId) (v : UserId) (report : ViewerStatsReport),
    getNested state.viewer_stats s v = some report → state.Subscribes v s

theorem subscribes_of_rooms (state : ControlState) (hrooms : state'.rooms = state.rooms)
    {v : UserId} {s : StreamId} (h : state.Subscribes v s) : state'.Subscribes v s := by
  unfold Subscribes
  rw [hrooms]
  exact h

/-- A subscription survives a new room. -/
theorem subscribes_newRoom {r : RoomId} (hnone : state.rooms[r]? = none) (room' : Room)
    {v : UserId} {s : StreamId} (h : state.Subscribes v s) :
    (state.setRoom r room').Subscribes v s := by
  obtain ⟨a, room, hroom, hpub, hin⟩ := h
  have ha : a ≠ r := by
    rintro rfl
    rw [hnone] at hroom
    cases hroom
  refine ⟨a, room, ?_, hpub, hin⟩
  rw [get_setRoom, if_neg ha]
  exact hroom

/-- A subscription survives in a room that keeps it. -/
theorem subscribes_setRoom {r : RoomId} {room room' : Room} (hroom : state.rooms[r]? = some room)
    {v : UserId} {s : StreamId}
    (hkeep : s ∈ room.published_streams → v ∈ room.subscribers s →
      s ∈ room'.published_streams ∧ v ∈ room'.subscribers s)
    (h : state.Subscribes v s) : (state.setRoom r room').Subscribes v s := by
  obtain ⟨a, old, hold, hpub, hin⟩ := h
  by_cases ha : a = r
  · subst ha
    obtain rfl := Option.some.inj (hroom.symm.trans hold)
    obtain ⟨hpub', hin'⟩ := hkeep hpub hin
    exact ⟨a, room', by rw [get_setRoom, if_pos rfl], hpub', hin'⟩
  · exact ⟨a, old, by rw [get_setRoom, if_neg ha]; exact hold, hpub, hin⟩

theorem subscribes_setStream {r : RoomId} {room : Room} {t : StreamId} {stream : PublishedStream}
    (hroom : state.rooms[r]? = some room) {v : UserId} {s : StreamId} (h : state.Subscribes v s) :
    (state.setRoom r (setStream room t stream)).Subscribes v s :=
  subscribes_setRoom hroom (fun hpub hin => ⟨(mem_insert _ _ _ _).mpr (.inr hpub), hin⟩) h

theorem subscribes_updateStreamTarget (t : StreamId) (b f w ht : Nat) {v : UserId} {s : StreamId}
    (h : state.Subscribes v s) : (state.updateStreamTarget t b f w ht).Subscribes v s := by
  rcases state.updateStreamTarget_cases t b f w ht with ⟨-, heq⟩ | ⟨r, room, stream, hroom, -, heq⟩
  · rw [heq]
    exact h
  · rw [heq]
    exact subscribes_setStream hroom h

/-- Whoever stays in the room keeps its subscriptions to the streams that stay. -/
theorem subscribes_leaveRoom {r : RoomId} {room : Room} (hroom : state.rooms[r]? = some room)
    {v : UserId} {s : StreamId} (hstays : s ∉ room.streamsPublishedBy u)
    (hviewer : ¬ (u ∈ room.subscribers s ∧ v = u)) (h : state.Subscribes v s) :
    (state.leaveRoom u r).Subscribes v s := by
  obtain ⟨a, room', hroom', hpub, hin⟩ := h
  by_cases ha : a = r
  · subst ha
    obtain rfl := Option.some.inj (hroom.symm.trans hroom')
    have hne : v ≠ u := by
      rintro rfl
      exact hviewer ⟨hin, rfl⟩
    obtain ⟨stream, hget⟩ := (mem_iff_get _ _).mp hpub
    have hkept : (room.depart u).published_streams[s]? = some stream := by
      rw [Room.depart_published, if_neg hstays]
      exact hget
    exact ⟨a, room.depart u, leaveRoom_rooms_of_stream hroom hkept, mem_of_get hkept,
      (Room.depart_subscribers hstays v).mpr ⟨hne, hin⟩⟩
  · exact ⟨a, room', by rw [leaveRoom_rooms hroom, if_neg ha]; exact hroom', hpub, hin⟩

/-- After an update a report is the one that the request sent, or an old one of a viewer that
has not lost its subscription. -/
theorem update_reports (hrooms : RoomsOk state) (hupdate : Update request u state state')
    {s : StreamId} {v : UserId} {report : ViewerStatsReport}
    (hreport : getNested state'.viewer_stats s v = some report) :
    (request = some (.viewerStats report) ∧ v = u ∧ s = report.stream_id) ∨
      (getNested state.viewer_stats s v = some report ∧
        (state.Subscribes v s → state'.Subscribes v s)) := by
  cases hupdate with
  | named n name hello hnext hrequest => exact .inr ⟨hreport, id⟩
  | created name create hlimit hrequest =>
      refine .inr ⟨hreport, fun h => ?_⟩
      exact subscribes_of_rooms (state.setRoom state.next_room_id
        ((Room.new state.next_room_id name).join u)) rfl
        (subscribes_newRoom hrooms.next_room_free _ h)
  | joined r room hroom hlimit hrequest =>
      refine .inr ⟨hreport, fun h => ?_⟩
      exact subscribes_of_rooms (state.setRoom r (room.join u)) rfl
        (subscribes_setRoom hroom (fun hpub hin => ⟨hpub, hin⟩) h)
  | left r =>
      cases hroom : state.rooms[r]? with
      | none =>
          rw [leaveRoom_of_none hroom] at hreport ⊢
          exact .inr ⟨hreport, id⟩
      | some room =>
          -- a report that is left is of a stream that stays, from another viewer
          rw [leaveRoom_reports hroom] at hreport
          split at hreport
          · cases hreport
          · next hstays =>
              obtain ⟨hstays, hviewer⟩ := not_or.mp hstays
              exact .inr ⟨hreport, subscribes_leaveRoom hroom hstays hviewer⟩
  | voiced r room vs hroom hmember hsane => exact .inr ⟨hreport, id⟩
  | published room publish hroom hmember hnew hlimit =>
      refine .inr ⟨hreport, subscribes_setRoom hroom ?_⟩
      intro hpub hin
      exact ⟨(mem_insert _ _ _ _).mpr (.inr hpub), hin⟩
  | unpublished r room t stream hroom hstream hpublisher =>
      rw [unpublish_eq hrooms hroom] at hreport ⊢
      -- the reports of the stream go with it
      have hne : s ≠ t := by
        rintro rfl
        rw [removeStreamState, getNested_eq_bind, get_erase, if_pos rfl] at hreport
        cases hreport
      refine .inr ⟨?_, fun h => ?_⟩
      · rw [getNested_eq_bind, removeStreamState, get_erase, if_neg hne] at hreport
        rw [getNested_eq_bind]
        exact hreport
      · refine subscribes_of_rooms (state.setRoom r (room.removePublishedStream t)) rfl
          (subscribes_setRoom hroom ?_ h)
        intro hpub hin
        rw [Room.removePublishedStream_subscribers hne]
        exact ⟨(mem_erase _ _ _).mpr ⟨hne, hpub⟩, hin⟩
  | subscribed r room room' t hroom hmember hsub hrequest =>
      refine .inr ⟨hreport, subscribes_setRoom hroom ?_⟩
      intro hpub hin
      rw [(Room.subscribe_fixed hsub).1]
      exact ⟨hpub, (Room.subscribe_subscribers hsub s v).mpr (.inr hin)⟩
  | unsubscribed r room t hroom =>
      -- the report of `u` on `t` goes with its subscription, the others stay
      rw [removeViewerStats, getNested_eraseNested] at hreport
      split at hreport
      · cases hreport
      · next hstays =>
          refine .inr ⟨hreport, fun h => ?_⟩
          refine subscribes_of_rooms (state.setRoom r (room.unsubscribe t u)) rfl
            (subscribes_setRoom hroom ?_ h)
          intro hpub hin
          rw [(Room.unsubscribe_fixed room t u).1]
          exact ⟨hpub, (Room.unsubscribe_subscribers room t u s v).mpr ⟨hstays, hin⟩⟩
  | configured room stream config hroom hstream hpublisher hcodec =>
      exact .inr ⟨hreport, subscribes_setStream hroom⟩
  | retargeted t b f w ht hpublisher =>
      rw [updateStreamTarget_fixed ControlState.viewer_stats (fun _ _ => rfl)] at hreport
      exact .inr ⟨hreport, subscribes_updateStreamTarget t b f w ht⟩
  | demanded t reason huser => exact .inr ⟨hreport, id⟩
  | answered t hpublisher => exact .inr ⟨hreport, id⟩
  | inputQueued r room t stream event hroom hstream hscreen hviewer => exact .inr ⟨hreport, id⟩
  | inputPolled r room t stream n hroom hstream hpublisher =>
      rw [drainRemoteInput_fixed ControlState.viewer_stats (fun _ _ => rfl)] at hreport
      exact .inr ⟨hreport, subscribes_of_rooms _
        (drainRemoteInput_fixed ControlState.rooms (fun _ _ => rfl) _ _ _)⟩
  | reported sent hrequest =>
      rw [recordViewerStats, getNested_insertNested] at hreport
      split at hreport
      · -- the report just sent
        next heq =>
          obtain rfl := Option.some.inj hreport
          exact .inl ⟨hrequest, heq.2, heq.1⟩
      · exact .inr ⟨hreport, id⟩
  | forgotten hrequest =>
      rw [forgetUser, getNested_eraseEverywhere] at hreport
      split at hreport
      · cases hreport
      · exact .inr ⟨hreport, id⟩

/-- A chain of updates for any request but a report adds no report, and keeps those it keeps
tied to their subscriptions. -/
theorem updates_reportsOk (hrooms : RoomsOk state) (h : ReportsOk state)
    (hrequest : ∀ report, request ≠ some (.viewerStats report))
    (hchain : Updates request u state state') :
    RoomsOk state' ∧ ReportsOk state' ∧
      ∀ (s : StreamId) (v : UserId) (report : ViewerStatsReport),
        getNested state'.viewer_stats s v = some report →
          getNested state.viewer_stats s v = some report := by
  induction hchain with
  | refl => exact ⟨hrooms, h, fun _ _ _ => id⟩
  | tail _ hlast ih =>
      obtain ⟨hrooms', h', hold⟩ := ih
      refine ⟨update_roomsOk hrooms' hlast, ?_, ?_⟩
      · intro s v report hreport
        rcases update_reports hrooms' hlast hreport with ⟨hsent, -⟩ | ⟨hget, hkeep⟩
        · exact absurd hsent (hrequest report)
        · exact hkeep (h' s v report hget)
      · intro s v report hreport
        rcases update_reports hrooms' hlast hreport with ⟨hsent, -⟩ | ⟨hget, -⟩
        · exact absurd hsent (hrequest report)
        · exact hold s v report hget

theorem recordViewerStats_reportsOk (h : ReportsOk state) {report : ViewerStatsReport}
    (hsub : state.Subscribes u report.stream_id) :
    ReportsOk (state.recordViewerStats u report) := by
  intro s v report' hreport
  rw [recordViewerStats, getNested_insertNested] at hreport
  split at hreport
  · next heq =>
      rw [heq.1, heq.2]
      exact hsub
  · exact h s v report' hreport

/-! ## Degraded viewers -/

/-- The loop that counts the degraded viewers counts each report at most once. -/
theorem countDegraded_le (reports : List ViewerStatsReport) (count : Nat) :
    reports.foldl (fun count report =>
        if viewerIsDegraded report then satAdd u32Max count 1 else count) count
      ≤ count + reports.length := by
  induction reports generalizing count with
  | nil => exact le_refl _
  | cons report reports ih =>
      rw [List.foldl_cons, List.length_cons]
      split
      · have hrest := ih (satAdd u32Max count 1)
        have hone : satAdd u32Max count 1 ≤ count + 1 := satAdd_le_add _ _ _
        omega
      · have hrest := ih count
        omega

/-- There are at most as many reports about a stream as it has subscribers. -/
theorem length_streamReports_le (hrooms : RoomsOk state) (h : ReportsOk state) (s : StreamId) :
    (state.streamReports s).length ≤ (state.subscribersForStream s).length := by
  cases hget : state.viewer_stats[s]? with
  | none =>
      have hnil : (state.streamReports s).length = 0 := by
        rw [streamReports, hget, length_values]
        rfl
      omega
  | some reports =>
      have hlength : (state.streamReports s).length = reports.keys.length := by
        rw [streamReports, hget, length_values, Std.ExtTreeMap.length_keys]
        rfl
      have hsubset : reports.keys ⊆ state.subscribersForStream s := by
        intro v hv
        obtain ⟨report, hreport⟩ := (mem_iff_get _ _).mp (Std.ExtTreeMap.mem_keys.mp hv)
        refine (hrooms.mem_subscribersForStream_iff s v).mpr (h s v report ?_)
        rw [getNested_eq_bind, hget, Option.bind_some]
        exact hreport
      rw [hlength]
      exact (Std.ExtTreeMap.nodup_keys.subperm hsubset).length_le

theorem aggregatePublisherFeedback_degraded_le (hrooms : RoomsOk state) (h : ReportsOk state)
    (r : RoomId) (s : StreamId) :
    (state.aggregatePublisherFeedback r s).degraded_viewer_count
      ≤ (state.aggregatePublisherFeedback r s).total_viewer_count := by
  have hcount := countDegraded_le (state.streamReports s) 0
  have hreports := length_streamReports_le hrooms h s
  show List.foldl _ 0 (state.streamReports s) ≤ (state.subscribersForStream s).length
  omega

/-- The adaptation changes targets and the keyframe demand of a feedback, not its counts. -/
theorem adaptivePublisherFeedback_counts (state : ControlState) (r : RoomId) (s : StreamId) :
    (state.adaptivePublisherFeedback r s).2.degraded_viewer_count
        = (state.aggregatePublisherFeedback r s).degraded_viewer_count ∧
      (state.adaptivePublisherFeedback r s).2.total_viewer_count
        = (state.aggregatePublisherFeedback r s).total_viewer_count := by
  unfold adaptivePublisherFeedback
  simp only
  split
  · split <;> exact ⟨rfl, rfl⟩
  · exact ⟨rfl, rfl⟩

/-- A feedback that answers a request counts the viewers of the state before it or after it. -/
theorem handleMessage_feedback {session : Session} {clock : Clock} {message : ClientControl}
    {feedback : PublisherFeedback}
    (hfeedback : (state.handleMessage session clock message).message
      = .publisherFeedback feedback) :
    ∃ (st : ControlState) (r : RoomId) (s : StreamId),
      (st = state ∨ st = (state.handleMessage session clock message).state) ∧
      feedback.degraded_viewer_count = (st.aggregatePublisherFeedback r s).degraded_viewer_count ∧
      feedback.total_viewer_count = (st.aggregatePublisherFeedback r s).total_viewer_count := by
  cases message with
  | viewerStats report =>
      cases hfeedback
      exact ⟨_, report.room_id, report.stream_id, .inr rfl, rfl, rfl⟩
  | setTargetBitrate target =>
      simp only [handleMessage, Handled.of, setTargetBitrate] at hfeedback ⊢
      split at hfeedback
      · cases hfeedback
      · cases hfeedback
        exact ⟨_, target.room_id, target.stream_id, .inr rfl, rfl, rfl⟩
  | setTargetFramerate target =>
      simp only [handleMessage, Handled.of, setTargetFramerate] at hfeedback ⊢
      split at hfeedback
      · cases hfeedback
      · cases hfeedback
        exact ⟨_, target.room_id, target.stream_id, .inr rfl, rfl, rfl⟩
  | pollPublisherFeedback poll =>
      simp only [handleMessage, Handled.of, pollPublisherFeedback] at hfeedback ⊢
      split at hfeedback
      · cases hfeedback
      · split at hfeedback
        · cases hfeedback
          obtain ⟨hdegraded, htotal⟩ :=
            adaptivePublisherFeedback_counts state poll.room_id poll.stream_id
          exact ⟨state, _, _, .inl rfl, hdegraded, htotal⟩
        · cases hfeedback
  | _ =>
      -- no other request is answered with a feedback
      simp only [handleMessage, Handled.of, hello, ping, timeSync, authenticate, createRoom,
        joinRoom, listParticipants, publishStream, unpublishStream, listStreams, subscribeStream,
        unsubscribeStream, leave, setVoiceState, setStreamConfig, pollStreamConfig,
        pollStreamMetrics, requestKeyframe, sendRemoteInput, pollRemoteInput] at hfeedback
      repeat' split at hfeedback
      all_goals cases hfeedback

/-! ## What the publisher sees -/

/-- The stream keeps its room, its record and its subscribers. -/
def Carried (s : StreamId) (state state' : ControlState) : Prop :=
  ∀ (r : RoomId) (room : Room) (stream : PublishedStream),
    state.rooms[r]? = some room → room.published_streams[s]? = some stream →
      ∃ room' : Room, state'.rooms[r]? = some room' ∧
        room'.published_streams[s]? = some stream ∧
          ∀ v, v ∈ room'.subscribers s ↔ v ∈ room.subscribers s

/-- Everything that a poll for the feedback of `s` reads is the same in both states. -/
structure SameView (s : StreamId) (state state' : ControlState) : Prop where
  carried : Carried s state state'
  reports : ∀ v, getNested state'.viewer_stats s v = getNested state.viewer_stats s v
  keyframe : state'.pending_keyframe_requests[s]? = state.pending_keyframe_requests[s]?

theorem carried_of_rooms {s : StreamId} (hrooms : state'.rooms = state.rooms) :
    Carried s state state' := by
  intro r room stream hroom hstream
  exact ⟨room, by rw [hrooms]; exact hroom, hstream, fun _ => Iff.rfl⟩

theorem carried_newRoom {s : StreamId} {r : RoomId} (hnone : state.rooms[r]? = none)
    (room' : Room) : Carried s state (state.setRoom r room') := by
  intro a room stream hroom hstream
  have ha : a ≠ r := by
    rintro rfl
    rw [hnone] at hroom
    cases hroom
  refine ⟨room, ?_, hstream, fun _ => Iff.rfl⟩
  rw [get_setRoom, if_neg ha]
  exact hroom

theorem carried_setRoom {s : StreamId} {r : RoomId} {room room' : Room}
    (hroom : state.rooms[r]? = some room)
    (hkeep : ∀ stream : PublishedStream, room.published_streams[s]? = some stream →
      room'.published_streams[s]? = some stream ∧
        ∀ v, v ∈ room'.subscribers s ↔ v ∈ room.subscribers s) :
    Carried s state (state.setRoom r room') := by
  intro a old stream hold hstream
  by_cases ha : a = r
  · subst ha
    obtain rfl := Option.some.inj (hroom.symm.trans hold)
    obtain ⟨hstream', hsame⟩ := hkeep stream hstream
    exact ⟨room', by rw [get_setRoom, if_pos rfl], hstream', hsame⟩
  · exact ⟨old, by rw [get_setRoom, if_neg ha]; exact hold, hstream, fun _ => Iff.rfl⟩

/-- A room whose other streams change carries `s`. -/
theorem carried_setStream {s t : StreamId} (hne : s ≠ t) {r : RoomId} {room : Room}
    {stream : PublishedStream} (hroom : state.rooms[r]? = some room) :
    Carried s state (state.setRoom r (setStream room t stream)) := by
  apply carried_setRoom hroom
  intro stream' hstream'
  refine ⟨?_, fun _ => Iff.rfl⟩
  rw [setStream, get_insert, if_neg hne]
  exact hstream'

theorem SameView.refl (s : StreamId) (state : ControlState) : SameView s state state :=
  ⟨carried_of_rooms rfl, fun _ => rfl, rfl⟩

theorem SameView.trans {s : StreamId} {state'' : ControlState} (h : SameView s state state')
    (h' : SameView s state' state'') : SameView s state state'' where
  carried r room stream hroom hstream := by
    obtain ⟨room', hroom', hstream', hsame⟩ := h.carried r room stream hroom hstream
    obtain ⟨room'', hroom'', hstream'', hsame'⟩ := h'.carried r room' stream hroom' hstream'
    exact ⟨room'', hroom'', hstream'', fun v => (hsame' v).trans (hsame v)⟩
  reports v := (h'.reports v).trans (h.reports v)
  keyframe := h'.keyframe.trans h.keyframe

/-- A subscription set belongs to a published stream. -/
theorem RoomsOk.subscribes_of_mem (hrooms : RoomsOk state) {r : RoomId} {room : Room}
    (hroom : state.rooms[r]? = some room) {v : UserId} {s : StreamId}
    (hin : v ∈ room.subscribers s) : state.Subscribes v s := by
  refine ⟨r, room, hroom, (hrooms.room_ok r room hroom).subscription_published s ?_, hin⟩
  rw [mem_iff_get]
  cases hsubs : room.subscriptions[s]? with
  | none =>
      rw [Room.subscribers, hsubs] at hin
      exact absurd hin Std.ExtTreeSet.not_mem_empty
  | some subs => exact ⟨subs, rfl⟩

theorem carried_leaveRoom (hrooms : RoomsOk state) {s : StreamId} {r : RoomId} {room : Room}
    (hroom : state.rooms[r]? = some room) (hpublisher : ¬ state.Publishes u s)
    (hviewer : ¬ state.Subscribes u s) : Carried s state (state.leaveRoom u r) := by
  intro a room' stream hroom' hstream
  by_cases ha : a = r
  · subst ha
    obtain rfl := Option.some.inj (hroom.symm.trans hroom')
    have hother : stream.publisher_id ≠ u := fun heq =>
      hpublisher ⟨a, stream, ⟨room, hroom, hstream⟩, heq⟩
    have hkept := (Room.get_depart_published room u s stream).mpr ⟨hstream, hother⟩
    have hstays : s ∉ room.streamsPublishedBy u := by
      intro hin
      obtain ⟨stream', hstream', heq⟩ := (Room.mem_streamsPublishedBy _ _ _).mp hin
      exact hpublisher ⟨a, stream', ⟨room, hroom, hstream'⟩, heq⟩
    refine ⟨room.depart u, leaveRoom_rooms_of_stream hroom hkept, hkept, fun v => ?_⟩
    rw [Room.depart_subscribers hstays]
    refine ⟨And.right, fun hin => ⟨?_, hin⟩⟩
    rintro rfl
    exact hviewer (hrooms.subscribes_of_mem hroom hin)
  · exact ⟨room', by rw [leaveRoom_rooms hroom, if_neg ha]; exact hroom', hstream,
      fun _ => Iff.rfl⟩

/-- Leaving a room shows in the streams that the user publishes or watches there. -/
theorem leaveRoom_sameView (hrooms : RoomsOk state) {s : StreamId}
    (hpublisher : ¬ state.Publishes u s) (hviewer : ¬ state.Subscribes u s) (r : RoomId) :
    SameView s state (state.leaveRoom u r) := by
  cases hroom : state.rooms[r]? with
  | none =>
      rw [leaveRoom_of_none hroom]
      exact .refl s state
  | some room =>
      have hstays : s ∉ room.streamsPublishedBy u := by
        intro hin
        obtain ⟨stream, hstream, heq⟩ := (Room.mem_streamsPublishedBy _ _ _).mp hin
        exact hpublisher ⟨r, stream, ⟨room, hroom, hstream⟩, heq⟩
      refine ⟨carried_leaveRoom hrooms hroom hpublisher hviewer, fun v => ?_, ?_⟩
      · rw [leaveRoom_reports hroom, if_neg]
        rintro (hin | ⟨hin, -⟩)
        · exact hstays hin
        · exact hviewer (hrooms.subscribes_of_mem hroom hin)
      · rw [leaveRoom_erased hroom u ControlState.pending_keyframe_requests
          (fun _ _ => rfl) (fun _ _ _ _ => rfl), if_neg hstays]

/-- Removing a stream shows in that stream only. -/
theorem removeStream_sameView {s t : StreamId} {r : RoomId} {room : Room}
    (hroom : state.rooms[r]? = some room) (hne : s ≠ t) :
    SameView s state ((state.setRoom r (room.removePublishedStream t)).removeStreamState t) := by
  refine ⟨?_, fun v => ?_, ?_⟩
  · show Carried s state (state.setRoom r (room.removePublishedStream t))
    apply carried_setRoom hroom
    intro stream hstream
    refine ⟨?_, fun v => by rw [Room.removePublishedStream_subscribers hne]⟩
    rw [Room.removePublishedStream, get_erase, if_neg hne]
    exact hstream
  · rw [getNested_eq_bind, getNested_eq_bind, removeStreamState, get_erase, if_neg hne]
    rfl
  · rw [removeStreamState, get_erase, if_neg hne]
    rfl

/-- A user who does not watch a stream stops watching another one. -/
theorem carried_unsubscribe (hrooms : RoomsOk state) {s : StreamId} {r : RoomId} {room : Room}
    (hroom : state.rooms[r]? = some room) (hviewer : ¬ state.Subscribes u s) (t : StreamId) :
    Carried s state (state.setRoom r (room.unsubscribe t u)) := by
  apply carried_setRoom hroom
  intro stream hstream
  rw [(Room.unsubscribe_fixed room t u).1]
  refine ⟨hstream, fun v => ?_⟩
  rw [Room.unsubscribe_subscribers]
  refine ⟨And.right, fun hin => ⟨?_, hin⟩⟩
  rintro ⟨rfl, rfl⟩
  exact hviewer (hrooms.subscribes_of_mem hroom hin)

/-- A user who neither publishes `s` nor subscribes to it changes nothing that the publisher of
`s` sees, unless it subscribes or reports. -/
theorem update_sameView (hrooms : RoomsOk state) (hreports : ReportsOk state) {s : StreamId}
    (hpublisher : ¬ state.Publishes u s) (hviewer : ¬ state.Subscribes u s)
    (hsubscribe : ∀ r, request ≠ some (.subscribeStream ⟨r, s⟩))
    (hreport : ∀ report, request = some (.viewerStats report) → report.stream_id ≠ s)
    (hupdate : Update request u state state') : SameView s state state' := by
  -- the user does not view `s`, so that no report of it on `s` can be lost
  have hnone : getNested state.viewer_stats s u = none := by
    rw [Option.eq_none_iff_forall_ne_some]
    exact fun report hget => hviewer (hreports s u report hget)
  cases hupdate with
  | named n name hello hnext hrequest => exact ⟨carried_of_rooms rfl, fun _ => rfl, rfl⟩
  | created name create hlimit hrequest =>
      refine ⟨?_, fun _ => rfl, rfl⟩
      show Carried s state (state.setRoom state.next_room_id
        ((Room.new state.next_room_id name).join u))
      exact carried_newRoom hrooms.next_room_free _
  | joined r room hroom hlimit hrequest =>
      refine ⟨?_, fun _ => rfl, rfl⟩
      show Carried s state (state.setRoom r (room.join u))
      apply carried_setRoom hroom
      intro stream hstream
      exact ⟨hstream, fun _ => Iff.rfl⟩
  | left r =>
      exact leaveRoom_sameView hrooms hpublisher hviewer r
  | voiced r room vs hroom hmember hsane => exact ⟨carried_of_rooms rfl, fun _ => rfl, rfl⟩
  | published room publish hroom hmember hnew hlimit =>
      refine ⟨?_, fun _ => rfl, rfl⟩
      apply carried_setRoom hroom
      intro stream hstream
      -- a published id was free, and that of `s` is not
      have hne : s ≠ publish.stream_id := by
        rintro rfl
        exact publishedStream_eq_none_iff.mp hnew _ room hroom (mem_of_get hstream)
      refine ⟨?_, fun _ => Iff.rfl⟩
      rw [Room.publishStream, freshStream, get_insert, if_neg hne]
      exact hstream
  | unpublished r room t stream hroom hstream hpublished =>
      rw [unpublish_eq hrooms hroom]
      -- only its publisher takes a stream down
      refine removeStream_sameView hroom ?_
      rintro rfl
      exact hpublisher ⟨r, stream, ⟨room, hroom, hstream⟩, hpublished⟩
  | subscribed r room room' t hroom hmember hsub hrequest =>
      have hne : s ≠ t := by
        rintro rfl
        -- excluded by the hypothesis on the request
        exact hsubscribe r hrequest
      refine ⟨?_, fun _ => rfl, rfl⟩
      apply carried_setRoom hroom
      intro stream hstream
      rw [(Room.subscribe_fixed hsub).1]
      refine ⟨hstream, fun v => ?_⟩
      rw [Room.subscribe_subscribers hsub]
      simp only [hne, false_and, false_or]
  | unsubscribed r room t hroom =>
      refine ⟨carried_unsubscribe hrooms hroom hviewer t, fun v => ?_, rfl⟩
      rw [removeViewerStats, getNested_eraseNested]
      split
      · next heq =>
          rw [heq.2]
          exact hnone.symm
      · rfl
  | configured room stream config hroom hstream hpublished hcodec =>
      -- configurations and targets come from the publisher
      have hne : s ≠ config.stream_id := by
        rintro rfl
        exact hpublisher ⟨_, stream, ⟨room, hroom, hstream⟩, hpublished⟩
      exact ⟨carried_setStream hne hroom, fun _ => rfl, rfl⟩
  | retargeted t b f w ht hpublished =>
      have hne : s ≠ t := by
        rintro rfl
        exact hpublisher hpublished
      rcases state.updateStreamTarget_cases t b f w ht with
        ⟨-, heq⟩ | ⟨r, room, stream, hroom, -, heq⟩
      · rw [heq]
        exact .refl s state
      · rw [heq]
        exact ⟨carried_setStream hne hroom, fun _ => rfl, rfl⟩
  | demanded t reason huser =>
      have hne : s ≠ t := by
        rintro rfl
        -- a keyframe is demanded by a viewer or by the publisher
        exact huser.elim hpublisher hviewer
      refine ⟨carried_of_rooms rfl, fun _ => rfl, ?_⟩
      rw [registerKeyframeRequest, get_insert, if_neg hne]
  | answered t hpublished =>
      have hne : s ≠ t := by
        rintro rfl
        exact hpublisher hpublished
      refine ⟨carried_of_rooms rfl, fun _ => rfl, ?_⟩
      rw [get_erase, if_neg hne]
  | inputQueued r room t stream event hroom hstream hscreen hin =>
      exact ⟨carried_of_rooms rfl, fun _ => rfl, rfl⟩
  | inputPolled r room t stream n hroom hstream hpublished =>
      unfold drainRemoteInput
      split
      · exact .refl s state
      · split <;> exact ⟨carried_of_rooms rfl, fun _ => rfl, rfl⟩
  | reported report hrequest =>
      have hne : s ≠ report.stream_id := fun heq => hreport report hrequest heq.symm
      refine ⟨carried_of_rooms rfl, fun v => ?_, rfl⟩
      rw [recordViewerStats, getNested_insertNested]
      simp only [hne, false_and, if_false]
  | forgotten hrequest =>
      refine ⟨carried_of_rooms rfl, fun v => ?_, rfl⟩
      rw [forgetUser, getNested_eraseEverywhere]
      split
      · next heq =>
          rw [heq]
          exact hnone.symm
      · rfl

/-- A published stream that is carried over has the same users as before. -/
theorem SameView.users_iff {s : StreamId} (h : SameView s state state') (hpub : state.Published s)
    (hrooms : RoomsOk state) (hrooms' : RoomsOk state') (v : UserId) :
    (state'.Publishes v s ↔ state.Publishes v s) ∧
      (state'.Subscribes v s ↔ state.Subscribes v s) := by
  obtain ⟨r, stream, room, hroom, hstream⟩ := hpub
  obtain ⟨room', hroom', hstream', hsame⟩ := h.carried r room stream hroom hstream
  refine ⟨⟨?_, ?_⟩, ⟨?_, ?_⟩⟩
  · rintro ⟨a, stream'', hin, hv⟩
    obtain rfl := hrooms'.stream_unique s a r _ _ hin ⟨room', hroom', hstream'⟩
    have hget := (publishedIn_iff hroom' _ _).mp hin
    obtain rfl := Option.some.inj (hstream'.symm.trans hget)
    exact ⟨a, stream, ⟨room, hroom, hstream⟩, hv⟩
  · rintro ⟨a, stream'', hin, hv⟩
    obtain rfl := hrooms.stream_unique s a r _ _ hin ⟨room, hroom, hstream⟩
    have hget := (publishedIn_iff hroom _ _).mp hin
    obtain rfl := Option.some.inj (hstream.symm.trans hget)
    exact ⟨a, stream, ⟨room', hroom', hstream'⟩, hv⟩
  · rintro ⟨a, room'', hroom'', hmem, hin⟩
    obtain ⟨stream'', hstream''⟩ := (mem_iff_get _ _).mp hmem
    obtain rfl := hrooms'.stream_unique s a r _ _ ⟨room'', hroom'', hstream''⟩
      ⟨room', hroom', hstream'⟩
    obtain rfl := Option.some.inj (hroom'.symm.trans hroom'')
    exact ⟨a, room, hroom, mem_of_get hstream, (hsame v).mp hin⟩
  · rintro ⟨a, room'', hroom'', hmem, hin⟩
    obtain ⟨stream'', hstream''⟩ := (mem_iff_get _ _).mp hmem
    obtain rfl := hrooms.stream_unique s a r _ _ ⟨room'', hroom'', hstream''⟩
      ⟨room, hroom, hstream⟩
    obtain rfl := Option.some.inj (hroom.symm.trans hroom'')
    exact ⟨a, room', hroom', mem_of_get hstream', (hsame v).mpr hin⟩

theorem SameView.published {s : StreamId} (h : SameView s state state') (hpub : state.Published s) :
    state'.Published s := by
  obtain ⟨r, stream, room, hroom, hstream⟩ := hpub
  obtain ⟨room', hroom', hstream', -⟩ := h.carried r room stream hroom hstream
  exact ⟨r, stream, room', hroom', hstream'⟩

/-- A chain of updates for any request but a report, by a user who has nothing to do with `s`. -/
theorem updates_sameView (hrooms : RoomsOk state) (hreports : ReportsOk state) {s : StreamId}
    (hpub : state.Published s) (hpublisher : ¬ state.Publishes u s)
    (hviewer : ¬ state.Subscribes u s)
    (hsubscribe : ∀ r, request ≠ some (.subscribeStream ⟨r, s⟩))
    (hreport : ∀ report, request ≠ some (.viewerStats report))
    (hchain : Updates request u state state') : SameView s state state' := by
  induction hchain with
  | refl => exact .refl s state
  | tail hinit hlast ih =>
      obtain ⟨hrooms', hreports', -⟩ := updates_reportsOk hrooms hreports hreport hinit
      obtain ⟨hpublisher', hviewer'⟩ := ih.users_iff hpub hrooms hrooms' u
      refine ih.trans (update_sameView hrooms' hreports' ?_ ?_ hsubscribe ?_ hlast)
      · exact fun h => hpublisher (hpublisher'.mp h)
      · exact fun h => hviewer (hviewer'.mp h)
      · exact fun report hsent => absurd hsent (hreport report)

/-- What a session may send before it has a user does not concern any stream. -/
theorem handleMessage_sameView_of_ungated {message : ClientControl}
    (hgate : ungated message = true) (state : ControlState) (session : Session) (clock : Clock)
    (s : StreamId) : SameView s state (state.handleMessage session clock message).state := by
  cases message with
  | hello request =>
      simp only [handleMessage, hello]
      split
      · exact .refl s state
      · exact ⟨carried_of_rooms rfl, fun _ => rfl, rfl⟩
  | ping request => exact .refl s state
  | timeSync request => exact .refl s state
  | authenticate request => exact .refl s state
  | _ => cases hgate

/-- A subscription request makes its user a subscriber or changes nothing. -/
theorem subscribeStream_cases (state : ControlState) {session : Session}
    (huser : session.user_id = some u) (subscribe : SubscribeStream) :
    (state.subscribeStream session subscribe).1 = state ∨
      (state.subscribeStream session subscribe).1.Subscribes u subscribe.stream_id := by
  unfold subscribeStream
  rw [huser]
  split
  · exact .inl rfl
  · simp only
    split
    · split
      · exact .inl rfl
      · next hsub =>
          have hin := subscribes_of_subscribe state subscribe.room_id hsub
          right
          split
          · exact subscribes_of_rooms _ rfl hin
          · exact hin
    · exact .inl rfl

section Feedback

variable {s : StreamId}

theorem SameView.publishedStream_eq (h : SameView s state state') (hpub : state.Published s)
    (hrooms : RoomsOk state) (hrooms' : RoomsOk state') :
    state'.publishedStream s = state.publishedStream s := by
  obtain ⟨r, stream, room, hroom, hstream⟩ := hpub
  obtain ⟨room', hroom', hstream', -⟩ := h.carried r room stream hroom hstream
  rw [(hrooms.publishedStream_eq_some_iff s stream).mpr ⟨r, room, hroom, hstream⟩,
    (hrooms'.publishedStream_eq_some_iff s stream).mpr ⟨r, room', hroom', hstream'⟩]

theorem SameView.subscribersForStream_eq (h : SameView s state state') (hpub : state.Published s)
    (hrooms : RoomsOk state) (hrooms' : RoomsOk state') :
    state'.subscribersForStream s = state.subscribersForStream s := by
  obtain ⟨r, stream, room, hroom, hstream⟩ := hpub
  obtain ⟨room', hroom', hstream', hsame⟩ := h.carried r room stream hroom hstream
  rw [hrooms.subscribersForStream_eq hroom (mem_of_get hstream),
    hrooms'.subscribersForStream_eq hroom' (mem_of_get hstream')]
  rw [Std.ExtTreeSet.ext_mem hsame]

theorem SameView.streamReports_eq (h : SameView s state state') :
    state'.streamReports s = state.streamReports s := by
  have hget : ∀ (st : ControlState) (v : UserId),
      ((st.viewer_stats[s]?).getD ∅)[v]? = getNested st.viewer_stats s v := by
    intro st v
    rw [getNested_eq_bind]
    cases st.viewer_stats[s]? with
    | none => simp
    | some reports => rfl
  have hmaps : (state'.viewer_stats[s]?).getD ∅ = (state.viewer_stats[s]?).getD ∅ := by
    apply Std.ExtTreeMap.ext_getElem?
    intro v
    rw [hget, hget]
    exact h.reports v
  rw [streamReports, hmaps, streamReports]

/-- States with the same view of `s` answer a poll about `s` alike. -/
theorem SameView.pollPublisherFeedback_eq (h : SameView s state state')
    (hpub : state.Published s) (hrooms : RoomsOk state) (hrooms' : RoomsOk state')
    (session : Session) (r : RoomId) :
    (state'.pollPublisherFeedback session ⟨r, s⟩).2
      = (state.pollPublisherFeedback session ⟨r, s⟩).2 := by
  have htarget : state'.streamTarget s = state.streamTarget s := by
    rw [streamTarget, h.publishedStream_eq hpub hrooms hrooms', streamTarget]
  have hpublisher : state'.publisherForStream s = state.publisherForStream s := by
    rw [publisherForStream, h.publishedStream_eq hpub hrooms hrooms', publisherForStream]
  have hcontains : state'.pending_keyframe_requests.contains s
      = state.pending_keyframe_requests.contains s := by
    rw [Std.ExtTreeMap.contains_eq_isSome_getElem?, Std.ExtTreeMap.contains_eq_isSome_getElem?,
      h.keyframe]
  have haggregate : state'.aggregatePublisherFeedback r s
      = state.aggregatePublisherFeedback r s := by
    unfold aggregatePublisherFeedback
    rw [htarget, h.streamReports_eq, h.subscribersForStream_eq hpub hrooms hrooms', hcontains]
  have hadaptive : (state'.adaptivePublisherFeedback r s).2
      = (state.adaptivePublisherFeedback r s).2 := by
    unfold adaptivePublisherFeedback
    rw [haggregate, htarget]
    simp only
    split
    · split <;> rfl
    · rfl
  unfold pollPublisherFeedback
  rw [hpublisher]
  cases session.user_id with
  | none => rfl
  | some v =>
      simp only
      split
      · exact congrArg ServerControl.publisherFeedback hadaptive
      · rfl

end Feedback

end ControlState

/-! ## Runs in which only subscribers report -/

namespace ControlSystem

open ControlState

/-- A report that the relay accepts in this step comes from a subscriber of the stream. -/
def SubscribersReport (system : ControlSystem) : ControlEvent → Prop
  | .envelope i _ envelope =>
      ∀ (report : ViewerStatsReport) (u : UserId), envelope.message = .viewerStats report →
        (system.sessions i).user_id = some u →
          system.control.authorizationError (system.sessions i) envelope.message = none →
            system.control.Subscribes u report.stream_id
  | _ => True

/-- The session has nothing to do with the stream, and the event does not make it a viewer. -/
def Unconcerned (system : ControlSystem) (i : Nat) (event : ControlEvent) (s : StreamId) : Prop :=
  ∀ u, (system.sessions i).user_id = some u →
    ¬ system.control.Publishes u s ∧ ¬ system.control.Subscribes u s ∧
      ¬ (system.step event).control.Subscribes u s

/-- What the publishers may rely on about viewer reports. -/
structure ReportsTied (system : ControlSystem) : Prop where
  /-- Reports belong to subscribers of published streams. -/
  reports_ok : ReportsOk system.control
  /-- No feedback counts more degraded viewers than viewers. -/
  degraded_le : ∀ (i : Nat) (clock : Clock) (envelope : ClientEnvelope)
    (feedback : PublisherFeedback), system.SubscribersReport (.envelope i clock envelope) →
      (system.reply i clock envelope).response.message = .publisherFeedback feedback →
        feedback.degraded_viewer_count ≤ feedback.total_viewer_count
  /-- A new publication starts without reports. -/
  published_clean : ∀ (event : ControlEvent) (s : StreamId), system.SubscribersReport event →
    ¬ system.control.Published s → (system.step event).control.Published s →
      ∀ v, getNested (system.step event).control.viewer_stats s v = none
  /-- An unconcerned session does not change what the publisher polls next. -/
  poll_unchanged : ∀ (i j : Nat) (clock clock' : Clock) (envelope poll : ClientEnvelope)
    (s : StreamId) (p : UserId) (r : RoomId),
      system.SubscribersReport (.envelope i clock envelope) →
        system.Unconcerned i (.envelope i clock envelope) s →
          (system.sessions j).user_id = some p → system.control.Publishes p s →
            poll.message = .pollPublisherFeedback ⟨r, s⟩ →
              ((system.step (.envelope i clock envelope)).reply j clock' poll).response
                = (system.reply j clock' poll).response

section Step

variable {system : ControlSystem}

/-- The reports after a step, when every report in it comes from a subscriber. -/
theorem step_reports (hrooms : RoomsOk system.control) (h : ReportsOk system.control)
    (event : ControlEvent) (hevent : system.SubscribersReport event) :
    ReportsOk (system.step event).control ∧
      ((∃ u report, (system.step event).control = system.control.recordViewerStats u report) ∨
        ∀ (s : StreamId) (v : UserId) (report : ViewerStatsReport),
          getNested (system.step event).control.viewer_stats s v = some report →
            getNested system.control.viewer_stats s v = some report) := by
  cases event with
  | envelope i clock envelope =>
      by_cases hmessage : ∃ report, envelope.message = .viewerStats report
      · obtain ⟨report, hmessage⟩ := hmessage
        -- a report: it is stored for the user that sent it
        simp only [step, reply, handleClientEnvelope]
        cases hauth : system.control.authorizationError (system.sessions i) envelope.message with
        | some error => exact ⟨h, .inr fun _ _ _ => id⟩
        | none =>
            rw [hmessage] at hauth
            obtain ⟨u, hu, -⟩ := authorized_of_gated rfl hauth
            rw [← hmessage] at hauth
            have hstate : (system.control.handleMessage (system.sessions i) clock
                envelope.message).state = system.control.recordViewerStats u report := by
              rw [hmessage]
              simp only [handleMessage, Handled.of, viewerStats, hu]
            simp only [hstate]
            exact ⟨recordViewerStats_reportsOk h (hevent report u hmessage hu hauth),
              .inl ⟨u, report, rfl⟩⟩
      · -- any other message: no report is added
        have hnot : ∀ report, some envelope.message ≠ some (ClientControl.viewerStats report) :=
          fun report heq => hmessage ⟨report, Option.some.inj heq⟩
        obtain ⟨hsome, hnone⟩ := handleClientEnvelope_updates system.control (system.sessions i)
          clock envelope
        show ReportsOk (system.reply i clock envelope).state ∧ _
        cases huser : (system.reply i clock envelope).session.user_id with
        | none =>
            have hsame : (system.reply i clock envelope).state = system.control := hnone huser
            have hcontrol : (system.step (.envelope i clock envelope)).control
                = system.control := hsame
            rw [hsame, hcontrol]
            exact ⟨h, .inr fun _ _ _ => id⟩
        | some u =>
            obtain ⟨-, hok, hold⟩ := updates_reportsOk hrooms h hnot (hsome u huser)
            exact ⟨hok, .inr hold⟩
  | disconnect u =>
      obtain ⟨-, hok, hold⟩ := updates_reportsOk hrooms h (fun report => by simp)
        (disconnectUser_updates system.control u)
      exact ⟨hok, .inr hold⟩
  | recordForward packet summary bytes received route =>
      -- the metrics of a forwarded packet touch neither reports nor rooms
      have hstats : (system.step (.recordForward packet summary bytes received
          route)).control.viewer_stats = system.control.viewer_stats :=
        recordMediaForwardSummary_fixed ControlState.viewer_stats (fun _ _ => rfl) _ _ _ _ _ _
      have hkept : (system.step (.recordForward packet summary bytes received
          route)).control.rooms = system.control.rooms :=
        recordMediaForwardSummary_fixed ControlState.rooms (fun _ _ => rfl) _ _ _ _ _ _
      refine ⟨?_, .inr ?_⟩
      · intro s v report hreport
        rw [hstats] at hreport
        exact subscribes_of_rooms _ hkept (h s v report hreport)
      · intro s v report hreport
        rw [hstats] at hreport
        exact hreport

/-- The publisher's view after an envelope of an unconcerned session. -/
theorem step_sameView (hrooms : RoomsOk system.control) (h : ReportsOk system.control) {i : Nat}
    {clock : Clock} {envelope : ClientEnvelope} {s : StreamId}
    (hevent : system.SubscribersReport (.envelope i clock envelope))
    (hunconcerned : system.Unconcerned i (.envelope i clock envelope) s)
    (hpub : system.control.Published s) :
    SameView s system.control (system.step (.envelope i clock envelope)).control := by
  unfold Unconcerned at hunconcerned
  simp only [step, reply, handleClientEnvelope] at hunconcerned ⊢
  cases hauth : system.control.authorizationError (system.sessions i) envelope.message with
  | some error => exact .refl s system.control
  | none =>
      rw [hauth] at hunconcerned
      simp only at hunconcerned ⊢
      cases hgate : ungated envelope.message with
      | true => exact handleMessage_sameView_of_ungated hgate _ _ _ _
      | false =>
          have hsession :=
            handleMessage_user_of_gated hgate system.control (system.sessions i) clock
          obtain ⟨u, hu, -⟩ := authorized_of_gated hgate hauth
          obtain ⟨hpublisher, hviewer, hafter⟩ := hunconcerned u hu
          have huser : (system.control.handleMessage (system.sessions i) clock
              envelope.message).session.user_id = some u := hsession.symm ▸ hu
          have hchain := handleMessage_updates huser
          cases hmessage : envelope.message with
          | viewerStats report =>
              -- a report is on a stream that the sender views
              have hsub := hevent report u hmessage hu hauth
              have hne : report.stream_id ≠ s := by
                rintro rfl
                exact hviewer hsub
              simp only [handleMessage, Handled.of, viewerStats, hu]
              refine update_sameView hrooms h hpublisher hviewer (by simp) ?_
                (show Update (some (.viewerStats report)) u _ _ from .reported report rfl)
              rintro report' heq
              cases heq
              exact hne
          | subscribeStream request =>
              rw [hmessage] at hchain hafter
              rcases subscribeStream_cases system.control hu request with hsame | hin
              · simp only [handleMessage, Handled.of, hsame]
                exact .refl s system.control
              · refine updates_sameView hrooms h hpub hpublisher hviewer ?_ (by simp) hchain
                rintro r heq
                cases heq
                exact hafter hin
          | _ =>
              rw [hmessage] at hchain
              exact updates_sameView hrooms h hpub hpublisher hviewer (by simp) (by simp) hchain

end Step

theorem reportsTied_of {system : ControlSystem} (hinv : RoomInvariant system.control)
    (h : ReportsOk system.control) : ReportsTied system where
  reports_ok := h
  degraded_le i clock envelope feedback hevent hfeedback := by
    have hafter := step_roomInvariant system (.envelope i clock envelope) hinv
    have hok := (step_reports hinv.toRoomsOk h _ hevent).1
    simp only [step, reply, handleClientEnvelope] at hfeedback hafter hok
    cases hauth : system.control.authorizationError (system.sessions i) envelope.message with
    | some error =>
        rw [hauth] at hfeedback
        cases hfeedback
    | none =>
        rw [hauth] at hfeedback hafter hok
        -- feedback is aggregated in the state before the message or in the one after it
        obtain ⟨st, r, s, hst, hdegraded, htotal⟩ := handleMessage_feedback hfeedback
        rw [hdegraded, htotal]
        rcases hst with rfl | rfl
        · exact aggregatePublisherFeedback_degraded_le hinv.toRoomsOk h r s
        · exact aggregatePublisherFeedback_degraded_le hafter.toRoomsOk hok r s
  published_clean event s hevent hbefore hafter v := by
    rw [Option.eq_none_iff_forall_ne_some]
    intro report hreport
    rcases (step_reports hinv.toRoomsOk h event hevent).2 with ⟨u, sent, hstate⟩ | hold
    · rw [hstate] at hafter
      exact hbefore hafter
    · -- a report kept would have had its stream published before
      exact hbefore (published_of_user (.inr (h s v report (hold s v report hreport))))
  poll_unchanged i j clock clock' envelope poll s p r hevent hunconcerned hp hpublishes hpoll := by
    have hpub : system.control.Published s := published_of_user (.inl hpublishes)
    have hview := step_sameView hinv.toRoomsOk h hevent hunconcerned hpub
    have hafter := step_roomInvariant system (.envelope i clock envelope) hinv
    have hsettings := system.step_settings (.envelope i clock envelope)
    -- the polling session is another one, so it is as before
    have hne : j ≠ i := by
      rintro rfl
      exact (hunconcerned p hp).1 hpublishes
    have hsession : (system.step (.envelope i clock envelope)).sessions j = system.sessions j :=
      Function.update_of_ne hne _ _
    have hgate : ungated poll.message = false := by
      rw [hpoll]
      rfl
    have hauth : (system.step (.envelope i clock envelope)).control.authorizationError
        (system.sessions j) poll.message
        = system.control.authorizationError (system.sessions j) poll.message := by
      rw [authorizationError_gated hgate, authorizationError_gated hgate, requiresAccessToken,
        hsettings.2, requiresAccessToken]
    rw [reply, hsession, reply, handleClientEnvelope, hauth, handleClientEnvelope]
    cases system.control.authorizationError (system.sessions j) poll.message with
    | some error => rfl
    | none =>
        rw [hpoll]
        exact congrArg (ControlEnvelope.new poll.request_id)
          (hview.pollPublisherFeedback_eq hpub hinv.toRoomsOk hafter.toRoomsOk _ r)

theorem initial_reportsOk {control : ControlState} (h : control.Initial) : ReportsOk control := by
  have hempty : control.viewer_stats = ∅ := by
    cases h <;> rfl
  intro s v report hreport
  rw [hempty, getNested_eq_bind] at hreport
  simp at hreport

/-- While only subscribers report, reports stay with the subscribers and steer nothing else. -/
theorem run_reportsTied (control : ControlState) (hinitial : control.Initial)
    (events : List ControlEvent) (hevents : Meets step SubscribersReport (start control) events) :
    ReportsTied (run step (start control) events) := by
  have hrun := Meets.induction
    (P := fun system => RoomInvariant system.control ∧ ReportsOk system.control)
    (fun system event hevent h =>
      ⟨step_roomInvariant system event h.1, (step_reports h.1.toRoomsOk h.2 event hevent).1⟩)
    ⟨initial_roomInvariant hinitial, initial_reportsOk hinitial⟩ hevents
  exact reportsTied_of hrun.1 hrun.2

/-! ## A report of a subscriber, and one of an outsider -/

def lossyReport : ViewerStatsReport where
  room_id := 1
  stream_id := 7
  received_packets := 90
  lost_packets := 10
  decoded_frames := 30
  dropped_frames := 0
  jitter_buffer_ms := 0
  estimated_latency_ms := 0
  calibrated_latency_ms := 0
  reassembly_ms_p50 := 0
  reassembly_ms_p95 := 0
  decode_ms_p50 := 0
  decode_ms_p95 := 0
  render_ms_p50 := 0
  render_ms_p95 := 0
  render_fps := 30

/-- The watching run, and a report of the viewer. -/
def reportingRun : List ControlEvent := watchingRun ++ [.ask 1 (.viewerStats lossyReport)]

theorem reportingRun_meets : Meets step SubscribersReport (start .new) reportingRun := by
  rw [reportingRun, Meets.append_iff]
  refine ⟨by simp [watchingRun, openingRun, Meets, SubscribersReport, ControlEvent.ask,
    ControlEnvelope.new], ?_, True.intro⟩
  rintro report u hmessage hu -
  cases hmessage
  have htwo : ((run step (start .new) watchingRun).sessions 1).user_id = some 2 := by
    decide +kernel
  have hlisted : 2 ∈ watchingState.subscribersForStream 7 := by decide +kernel
  obtain rfl := Option.some.inj (htwo.symm.trans hu)
  exact (watchingState_reachable.roomInvariant.mem_subscribersForStream_iff 7 2).mp hlisted

theorem run_reportsTied_reporting :
    ReportsTied (run step (start .new) reportingRun) ∧
      ((run step (start .new) reportingRun).control.aggregatePublisherFeedback 1
        7).degraded_viewer_count = 1 :=
  ⟨run_reportsTied .new .new reportingRun reportingRun_meets, by decide +kernel⟩

/-- The opening run, and a second session that says hello and joins the room. -/
def bystanderRun : List ControlEvent :=
  openingRun ++ [.ask 1 (.hello ⟨protocolVersion, "bystander"⟩), .ask 1 (.joinRoom ⟨1⟩)]

/-- What the publisher of the screen is told at its next poll. -/
def polled (system : ControlSystem) : ServerControl :=
  (system.reply 0 ⟨0, 0⟩ (.new 0 (.pollPublisherFeedback ⟨1, 7⟩))).response.message

/-- A report of a participant who watches nothing is kept, counts as a degraded viewer of a
stream without viewers and demands a keyframe; so does, by its design, a first subscription. -/
theorem bystander_reports :
    ¬ ReportsOk ((run step (start .new) bystanderRun).step
        (.ask 1 (.viewerStats lossyReport))).control ∧
      polled (run step (start .new) bystanderRun)
        = .publisherFeedback ⟨1, 7, defaultTargetBitrateBps, defaultTargetFramesPerSecond, 0, 0,
            0, 0, false⟩ ∧
      polled ((run step (start .new) bystanderRun).step (.ask 1 (.viewerStats lossyReport)))
        = .publisherFeedback ⟨1, 7, defaultTargetBitrateBps, defaultTargetFramesPerSecond, 0, 0,
            1, 0, true⟩ ∧
      polled ((run step (start .new) bystanderRun).step (.ask 1 (.subscribeStream ⟨1, 7⟩)))
        = .publisherFeedback ⟨1, 7, defaultTargetBitrateBps, defaultTargetFramesPerSecond, 0, 0,
            0, 1, true⟩ := by
  refine ⟨?_, by decide +kernel, by decide +kernel, by decide +kernel⟩
  intro hok
  have hreachable : ControlSystem.Reachable
      ((run step (start .new) bystanderRun).step (.ask 1 (.viewerStats lossyReport))) :=
    Runs.Reachable.after ⟨start .new, bystanderRun, ⟨.new, .new, rfl⟩, rfl⟩ _
  have hkept : getNested ((run step (start .new) bystanderRun).step
      (.ask 1 (.viewerStats lossyReport))).control.viewer_stats 7 2 = some lossyReport := by
    decide +kernel
  have hlisted := ((reachable_roomInvariant hreachable).mem_subscribersForStream_iff 7 2).mpr
    (hok 7 2 lossyReport hkept)
  have hnobody : ((run step (start .new) bystanderRun).step
      (.ask 1 (.viewerStats lossyReport))).control.subscribersForStream 7 = [] := by
    decide +kernel
  rw [hnobody] at hlisted
  cases hlisted

end ControlSystem

end TeamView.Relay
