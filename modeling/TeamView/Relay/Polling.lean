import TeamView.Relay.Adaptation
import TeamView.Relay.ViewerReports

set_option autoImplicit false

/-! # Polls for publisher feedback

`poll_publisher_feedback` and `adaptive_publisher_feedback`
(`crates/relay-server/src/control.rs`), told from the outside: which events of a run are answered
with a feedback for a stream (`feedbackFor`), what the feedback says, and what the relay stores
afterwards. A stream that stays degraded descends to the floor of its targets, one poll at a time.
-/

namespace TeamView.Relay

open TeamView.Protocol BTree MachineInt Runs

namespace ControlState

variable {state : ControlState}

/-! ## Degraded streams -/

/-- The loop of `aggregate_publisher_feedback` that counts the degraded viewers. -/
def degradedViewerCount (state : ControlState) (s : StreamId) : Nat :=
  (state.streamReports s).foldl
    (fun count report => if viewerIsDegraded report then satAdd u32Max count 1 else count) 0

/-- There are viewers, and at least half as many of them are reported degraded. -/
def Degraded (state : ControlState) (s : StreamId) : Prop :=
  0 < (state.subscribersForStream s).length ∧
    (state.subscribersForStream s).length ≤ satMul u32Max (state.degradedViewerCount s) 2

instance (s : StreamId) : Decidable (state.Degraded s) :=
  inferInstanceAs (Decidable (_ ∧ _))

/-- The saturating loop counts the degraded reports. -/
theorem foldl_degraded (reports : List ViewerStatsReport) (count : Nat) (hcount : count ≤ u32Max) :
    reports.foldl (fun count report =>
        if viewerIsDegraded report then satAdd u32Max count 1 else count) count
      = min (count + reports.countP viewerIsDegraded) u32Max := by
  induction reports generalizing count with
  | nil =>
      rw [List.foldl_nil, List.countP_nil]
      omega
  | cons report reports ih =>
      rw [List.foldl_cons, List.countP_cons]
      split
      · have hnext : satAdd u32Max count 1 = min (count + 1) u32Max := rfl
        rw [ih _ (by omega), hnext]
        omega
      · rw [ih _ hcount]
        rfl

/-- The viewer's last report about the stream is a degraded one. -/
def isDegradedViewer (state : ControlState) (s : StreamId) (u : UserId) : Bool :=
  (getNested state.viewer_stats s u).any viewerIsDegraded

/-- A stream is degraded when at least half of its one or more subscribers are. The relay counts
them in 32 bits. -/
theorem degraded_of_subscribers (hrooms : RoomsOk state) {s : StreamId}
    (hsome : 0 < (state.subscribersForStream s).length)
    (hwidth : (state.subscribersForStream s).length ≤ u32Max)
    (hhalf : (state.subscribersForStream s).length
      ≤ 2 * ((state.subscribersForStream s).filter (state.isDegradedViewer s)).length) :
    state.Degraded s := by
  have hcount : ((state.subscribersForStream s).filter (state.isDegradedViewer s)).length
      ≤ (state.streamReports s).countP viewerIsDegraded := by
    have hreports : (state.streamReports s).countP viewerIsDegraded
        = ((((state.viewer_stats[s]?).getD ∅).toList.filter
          fun e => viewerIsDegraded e.2).map Prod.fst).length := by
      rw [streamReports, values, List.countP_map, List.length_map, ← List.countP_eq_length_filter]
      rfl
    rw [hreports]
    refine List.Subperm.length_le (List.Nodup.subperm ?_ ?_)
    · exact (hrooms.nodup_subscribersForStream s).filter _
    · intro u hu
      obtain ⟨report, hreport, hbad⟩ :=
        (Option.any_eq_true _ _).mp (List.mem_filter.mp hu).2
      rw [getNested_eq_bind] at hreport
      obtain ⟨reports, hreports, hget⟩ := Option.bind_eq_some_iff.mp hreport
      refine List.mem_map.mpr ⟨(u, report), List.mem_filter.mpr ⟨?_, hbad⟩, rfl⟩
      rw [hreports]
      exact Std.ExtTreeMap.mem_toList_iff_getElem?_eq_some.mpr hget
  have htotal := foldl_degraded (state.streamReports s) 0 (Nat.zero_le _)
  refine ⟨hsome, ?_⟩
  unfold degradedViewerCount satMul
  rw [htotal]
  omega

/-! ## What a poll does -/

/-- The target of a stream after a poll. -/
def polledTarget (state : ControlState) (s : StreamId) : StreamTarget :=
  if state.Degraded s then reducedTarget (state.streamTarget s) else state.streamTarget s

/-- The state with the target of a stream lowered, when the stream is degraded. -/
def adapted (state : ControlState) (s : StreamId) : ControlState :=
  let target := reducedTarget (state.streamTarget s)
  if state.Degraded s then
    state.updateStreamTarget s target.bitrate_bps target.frames_per_second target.width
      target.height
  else state

/-- The state that a poll leaves. -/
def polled (state : ControlState) (s : StreamId) : ControlState :=
  { state.adapted s with
    pending_keyframe_requests := state.pending_keyframe_requests.erase s }

/-- Whether a poll demands a keyframe. -/
def demandsKeyframe (state : ControlState) (s : StreamId) : Bool :=
  state.pending_keyframe_requests.contains s ||
    (state.streamReports s).any fun report => 0 < report.lost_packets || 0 < report.dropped_frames

/-- Whether a poll changes the resolution. -/
def changesResolution (state : ControlState) (s : StreamId) : Bool :=
  ((state.polledTarget s).width, (state.polledTarget s).height)
    ≠ ((state.streamTarget s).width, (state.streamTarget s).height)

/-- The feedback that a poll is answered with. -/
def polledFeedback (state : ControlState) (r : RoomId) (s : StreamId) : PublisherFeedback where
  room_id := r
  stream_id := s
  aggregate_available_bitrate_bps := (state.polledTarget s).bitrate_bps
  target_frames_per_second := (state.polledTarget s).frames_per_second
  target_width := (state.polledTarget s).width
  target_height := (state.polledTarget s).height
  degraded_viewer_count := state.degradedViewerCount s
  total_viewer_count := (state.subscribersForStream s).length
  keyframe_requested := state.demandsKeyframe s || state.changesResolution s

/-- Adapting a stream writes the rooms only. -/
theorem adapted_fixed {α : Type} (f : ControlState → α)
    (hf : ∀ state rooms, f { state with rooms := rooms } = f state) (state : ControlState)
    (s : StreamId) : f (state.adapted s) = f state := by
  unfold adapted
  split
  · exact updateStreamTarget_fixed f hf _ _ _ _ _ _
  · rfl

theorem adaptivePublisherFeedback_eq (state : ControlState) (r : RoomId) (s : StreamId) :
    ((state.adaptivePublisherFeedback r s).1 = state.adapted s ∨
        (state.adaptivePublisherFeedback r s).1
          = (state.adapted s).registerKeyframeRequest s .streamConfigChanged) ∧
      (state.adaptivePublisherFeedback r s).2 = state.polledFeedback r s := by
  by_cases hdegraded : state.Degraded s
  · have htest : 0 < (state.aggregatePublisherFeedback r s).total_viewer_count ∧
        (state.aggregatePublisherFeedback r s).total_viewer_count
          ≤ satMul u32Max (state.aggregatePublisherFeedback r s).degraded_viewer_count 2 :=
      hdegraded
    have htarget : state.polledTarget s = reducedTarget (state.streamTarget s) := if_pos hdegraded
    unfold adaptivePublisherFeedback
    simp only
    rw [if_pos htest]
    unfold adapted polledFeedback changesResolution
    rw [htarget, if_pos hdegraded]
    split
    · next hchanged =>
        refine ⟨.inr rfl, ?_⟩
        simp [hchanged, aggregatePublisherFeedback, degradedViewerCount]
    · next hsame =>
        refine ⟨.inl rfl, ?_⟩
        simp [hsame, aggregatePublisherFeedback, degradedViewerCount, demandsKeyframe]
  · have htest : ¬ (0 < (state.aggregatePublisherFeedback r s).total_viewer_count ∧
        (state.aggregatePublisherFeedback r s).total_viewer_count
          ≤ satMul u32Max (state.aggregatePublisherFeedback r s).degraded_viewer_count 2) :=
      hdegraded
    have htarget : state.polledTarget s = state.streamTarget s := if_neg hdegraded
    unfold adaptivePublisherFeedback
    simp only
    rw [if_neg htest]
    unfold adapted polledFeedback changesResolution
    rw [htarget, if_neg hdegraded]
    refine ⟨.inl rfl, ?_⟩
    simp [aggregatePublisherFeedback, degradedViewerCount, demandsKeyframe]

/-- The publisher's poll. -/
theorem pollPublisherFeedback_publisher {session : Session} {u : UserId}
    (huser : session.user_id = some u) (poll : PollPublisherFeedback)
    (hpublisher : state.publisherForStream poll.stream_id = some u) :
    state.pollPublisherFeedback session poll
      = (state.polled poll.stream_id,
          .publisherFeedback (state.polledFeedback poll.room_id poll.stream_id)) := by
  obtain ⟨hstate, hfeedback⟩ :=
    adaptivePublisherFeedback_eq state poll.room_id poll.stream_id
  have herased : { (state.adaptivePublisherFeedback poll.room_id poll.stream_id).1 with
      pending_keyframe_requests :=
        (state.adaptivePublisherFeedback poll.room_id
          poll.stream_id).1.pending_keyframe_requests.erase poll.stream_id }
      = state.polled poll.stream_id := by
    rcases hstate with hstate | hstate
    · rw [hstate, polled, adapted_fixed ControlState.pending_keyframe_requests (fun _ _ => rfl)]
    · -- the request that a change of the resolution registers is taken by the same poll
      rw [hstate, polled]
      simp only [registerKeyframeRequest, erase_insert,
        adapted_fixed ControlState.pending_keyframe_requests (fun _ _ => rfl)]
  unfold pollPublisherFeedback
  rw [huser]
  simp only
  rw [if_pos hpublisher, herased, hfeedback]

/-- Nobody but the publisher is answered with a feedback. -/
theorem publisher_of_pollPublisherFeedback {session : Session} {poll : PollPublisherFeedback}
    {feedback : PublisherFeedback}
    (h : (state.pollPublisherFeedback session poll).2 = .publisherFeedback feedback) :
    ∃ u, session.user_id = some u ∧ state.publisherForStream poll.stream_id = some u := by
  unfold pollPublisherFeedback at h
  split at h
  · cases h
  · next u huser =>
      split at h
      · next hpublisher => exact ⟨u, huser, hpublisher⟩
      · cases h

/-! ## The stream after a poll -/

/-- The target that a published stream stores. -/
def storedTarget (stream : PublishedStream) : StreamTarget where
  bitrate_bps := stream.target_bitrate_bps
  frames_per_second := stream.target_frames_per_second
  width := stream.target_width
  height := stream.target_height

theorem streamTarget_eq {s : StreamId} {stream : PublishedStream}
    (h : state.publishedStream s = some stream) : state.streamTarget s = storedTarget stream := by
  rw [streamTarget, h]
  rfl

theorem InRange.target {stream : PublishedStream} (h : InRange stream) :
    (storedTarget stream).InRange :=
  ⟨h.bitrate, h.frames, h.resolution⟩

/-- A target in range is stored as it is. -/
theorem storedTarget_withTarget {target : StreamTarget} (h : target.InRange)
    (stream : PublishedStream) :
    storedTarget (withTarget stream target.bitrate_bps target.frames_per_second target.width
      target.height) = target := by
  have hbitrate := clampBitrate_eq h.bitrate
  have hframes := (clampFrames_eq_iff target.frames_per_second).mpr h.frames
  have hresolution := (clampTargetResolution_eq_iff target.width target.height).mpr h.resolution
  unfold storedTarget withTarget
  simp only
  rw [hbitrate, hframes, hresolution]

/-- The record of a stream after a poll. -/
def polledStream (state : ControlState) (s : StreamId) (stream : PublishedStream) :
    PublishedStream :=
  let target := reducedTarget (storedTarget stream)
  if state.Degraded s then
    withTarget stream target.bitrate_bps target.frames_per_second target.width target.height
  else stream

theorem polled_roomsOk (hrooms : RoomsOk state) (s : StreamId) : RoomsOk (state.polled s) := by
  have hadapted : RoomsOk (state.adapted s) := by
    unfold adapted
    simp only
    split
    · exact retarget_roomsOk hrooms _ _ _ _ _
    · exact hrooms
  exact hadapted.of_eq rfl rfl rfl

section Polled

variable {r : RoomId} {s : StreamId} {room : Room} {stream : PublishedStream}
  (hrooms : RoomsOk state) (hroom : state.rooms[r]? = some room)
  (hstream : room.published_streams[s]? = some stream)

include hrooms hroom hstream

theorem publishedStream_of_room : state.publishedStream s = some stream :=
  (hrooms.publishedStream_eq_some_iff s stream).mpr ⟨r, room, hroom, hstream⟩

/-- A poll rewrites the record of its stream. -/
theorem polled_rooms :
    (state.polled s).rooms = state.rooms.insert r
      (setStream room s (state.polledStream s stream)) := by
  have htarget := streamTarget_eq (publishedStream_of_room hrooms hroom hstream)
  have hentry := (hrooms.streamEntry_eq_some_iff s r room stream).mpr ⟨hroom, hstream⟩
  show (state.adapted s).rooms = _
  unfold adapted polledStream
  simp only
  split
  · rw [htarget, updateStreamTarget, hentry]
    rfl
  · rw [setStream, insert_of_get hstream, insert_of_get hroom]

theorem polled_room :
    (state.polled s).rooms[r]? = some (setStream room s (state.polledStream s stream)) := by
  rw [polled_rooms hrooms hroom hstream, get_insert, if_pos rfl]

theorem polled_publishedStream :
    (state.polled s).publishedStream s = some (state.polledStream s stream) := by
  refine publishedStream_of_room (polled_roomsOk hrooms s)
    (polled_room hrooms hroom hstream) ?_
  rw [setStream, get_insert, if_pos rfl]

/-- A poll leaves the viewers alone, and with them whether the stream is degraded. -/
theorem polled_degraded_iff : (state.polled s).Degraded s ↔ state.Degraded s := by
  have hstats : (state.polled s).viewer_stats = state.viewer_stats :=
    adapted_fixed ControlState.viewer_stats (fun _ _ => rfl) state s
  have hcount : (state.polled s).degradedViewerCount s = state.degradedViewerCount s := by
    rw [degradedViewerCount, streamReports, hstats]
    rfl
  have hviewers : (state.polled s).subscribersForStream s = state.subscribersForStream s := by
    have hpub : s ∈ (setStream room s (state.polledStream s stream)).published_streams :=
      (mem_insert _ _ _ _).mpr (.inl rfl)
    rw [hrooms.subscribersForStream_eq hroom (mem_of_get hstream),
      (polled_roomsOk hrooms s).subscribersForStream_eq
        (polled_room hrooms hroom hstream) hpub]
    rfl
  unfold Degraded
  rw [hcount, hviewers]

theorem polled_publisher :
    (state.polled s).publisherForStream s = state.publisherForStream s := by
  rw [publisherForStream, polled_publishedStream hrooms hroom hstream, publisherForStream,
    publishedStream_of_room hrooms hroom hstream]
  show some (state.polledStream s stream).publisher_id = some stream.publisher_id
  unfold polledStream
  simp only
  split <;> rfl

/-- The poll stores the target that it answers with. -/
theorem polled_streamTarget (htargets : TargetsOk state) :
    (state.polled s).streamTarget s = state.polledTarget s := by
  have hrange := (htargets r s stream ⟨room, hroom, hstream⟩).target
  have htarget := streamTarget_eq (publishedStream_of_room hrooms hroom hstream)
  rw [streamTarget_eq (polled_publishedStream hrooms hroom hstream)]
  unfold polledTarget polledStream
  rw [htarget]
  simp only
  split
  · exact storedTarget_withTarget
      ((StreamTarget.reducedTarget_lowered hrange).inRange hrange) stream
  · rfl

/-- A poll of a degraded stream is one step of the descent. -/
theorem polledTarget_descends (htargets : TargetsOk state) (hdegraded : state.Degraded s) :
    (state.streamTarget s).Descends (state.polledTarget s) := by
  have hrange := (htargets r s stream ⟨room, hroom, hstream⟩).target
  have htarget := streamTarget_eq (publishedStream_of_room hrooms hroom hstream)
  have hpolled : state.polledTarget s = reducedTarget (state.streamTarget s) := if_pos hdegraded
  rw [hpolled, htarget]
  exact (StreamTarget.reducedTarget_lowered hrange).descends

end Polled

end ControlState

/-! ## Polls in a run -/

namespace ControlSystem

open ControlState

/-- The feedback about `s` that an event is answered with, when it is a successful poll. -/
def feedbackFor (system : ControlSystem) (event : ControlEvent) (s : StreamId) :
    Option PublisherFeedback :=
  match event with
  | .envelope i clock envelope =>
      match envelope.message, (system.reply i clock envelope).response.message with
      | .pollPublisherFeedback poll, .publisherFeedback feedback =>
          if poll.stream_id = s then some feedback else none
      | _, _ => none
  | _ => none

def isPollFor (s : StreamId) (system : ControlSystem) (event : ControlEvent) : Bool :=
  (system.feedbackFor event s).isSome

/-- An accepted poll for the feedback about `s`, by its publisher. -/
structure Polls (system : ControlSystem) (i : Nat) (message : ClientControl) (r : RoomId)
    (s : StreamId) (u : UserId) : Prop where
  request : message = .pollPublisherFeedback ⟨r, s⟩
  authorized : system.control.authorizationError (system.sessions i) message = none
  user : (system.sessions i).user_id = some u
  publisher : system.control.publisherForStream s = some u

theorem reply_of_polls {system : ControlSystem} {i : Nat} {envelope : ClientEnvelope} {r : RoomId}
    {s : StreamId} {u : UserId} (h : system.Polls i envelope.message r s u) (clock : Clock) :
    system.reply i clock envelope
      = ⟨system.control.polled s, system.sessions i,
          .new envelope.request_id (.publisherFeedback (system.control.polledFeedback r s))⟩ := by
  have hpoll := pollPublisherFeedback_publisher h.user ⟨r, s⟩ h.publisher
  rw [reply_of_authorized h.authorized clock, h.request, handleMessage, Handled.of, hpoll]

theorem step_of_polls {system : ControlSystem} {i : Nat} {envelope : ClientEnvelope} {r : RoomId}
    {s : StreamId} {u : UserId} (h : system.Polls i envelope.message r s u) (clock : Clock) :
    system.step (.envelope i clock envelope)
      = { system with control := system.control.polled s } := by
  show ControlSystem.mk _ _ = _
  rw [reply_of_polls h clock]
  simp only [Function.update_eq_self]

theorem feedbackFor_eq_some_iff (system : ControlSystem) (event : ControlEvent) (s : StreamId)
    (feedback : PublisherFeedback) :
    system.feedbackFor event s = some feedback ↔
      ∃ (i : Nat) (clock : Clock) (envelope : ClientEnvelope) (r : RoomId) (u : UserId),
        event = .envelope i clock envelope ∧ system.Polls i envelope.message r s u ∧
          feedback = system.control.polledFeedback r s := by
  constructor
  · intro h
    unfold feedbackFor at h
    split at h
    · next i clock envelope =>
        split at h
        · next poll answer hmessage hanswer =>
            split at h
            · next hs =>
                obtain rfl := Option.some.inj h
                unfold ControlSystem.reply handleClientEnvelope at hanswer
                split at hanswer
                · cases hanswer
                · next hauth =>
                    have hpolled : (system.control.pollPublisherFeedback (system.sessions i)
                        poll).2 = .publisherFeedback answer := by
                      rw [hmessage] at hanswer
                      exact hanswer
                    -- only the publisher gets feedback for an answer
                    obtain ⟨u, huser, hpublisher⟩ := publisher_of_pollPublisherFeedback hpolled
                    have hpoll : system.Polls i envelope.message poll.room_id s u := by
                      refine ⟨?_, hauth, huser, ?_⟩
                      · rw [hmessage, ← hs]
                      · rw [← hs]
                        exact hpublisher
                    refine ⟨i, clock, envelope, poll.room_id, u, rfl, hpoll, ?_⟩
                    rw [pollPublisherFeedback_publisher huser poll hpublisher] at hpolled
                    rw [← hs]
                    exact (ServerControl.publisherFeedback.inj hpolled).symm
            · cases h
        · cases h
    · cases h
  · rintro ⟨i, clock, envelope, r, u, rfl, hpoll, rfl⟩
    unfold feedbackFor
    simp only
    rw [reply_of_polls hpoll clock, hpoll.request]
    exact if_pos rfl

/-- What a successful poll says and does. -/
theorem step_of_feedbackFor {system : ControlSystem} {event : ControlEvent} {s : StreamId}
    {feedback : PublisherFeedback} (h : system.feedbackFor event s = some feedback) :
    (∃ r, feedback = system.control.polledFeedback r s) ∧
      system.step event = { system with control := system.control.polled s } := by
  obtain ⟨i, clock, envelope, r, u, rfl, hpoll, rfl⟩ :=
    (feedbackFor_eq_some_iff system event s feedback).mp h
  exact ⟨⟨r, rfl⟩, step_of_polls hpoll clock⟩

/-! ## The descent of a stream that stays degraded -/

/-- The target that a feedback tells the publisher. -/
def feedbackTarget (feedback : PublisherFeedback) : StreamTarget where
  bitrate_bps := feedback.aggregate_available_bitrate_bps
  frames_per_second := feedback.target_frames_per_second
  width := feedback.target_width
  height := feedback.target_height

/-- The stream `s` is degraded whenever it is polled, and its targets change in no other way. -/
def StaysDegraded (s : StreamId) (system : ControlSystem) (event : ControlEvent) : Prop :=
  (isPollFor s system event → system.control.Degraded s) ∧
    (isPollFor s system event = false →
      (system.step event).control.streamTarget s = system.control.streamTarget s)

theorem poll_stores_feedback {system : ControlSystem} (hrooms : RoomsOk system.control)
    (htargets : TargetsOk system.control) {event : ControlEvent} {s : StreamId}
    {feedback : PublisherFeedback} (h : system.feedbackFor event s = some feedback) :
    feedbackTarget feedback = (system.step event).control.streamTarget s := by
  obtain ⟨i, clock, envelope, r, u, rfl, hpoll, rfl⟩ :=
    (feedbackFor_eq_some_iff system event s feedback).mp h
  obtain ⟨stream, hstream, -⟩ := Option.map_eq_some_iff.mp hpoll.publisher
  obtain ⟨a, room, hroom, hget⟩ := get_of_publishedStream hstream
  rw [step_of_polls hpoll clock, polled_streamTarget hrooms hroom hget htargets]
  rfl

theorem poll_descends {system : ControlSystem} (hrooms : RoomsOk system.control)
    (htargets : TargetsOk system.control) {event : ControlEvent} {s : StreamId}
    (h : isPollFor s system event) (hdegraded : system.control.Degraded s) :
    (system.control.streamTarget s).Descends ((system.step event).control.streamTarget s) := by
  obtain ⟨feedback, h⟩ := Option.isSome_iff_exists.mp h
  obtain ⟨i, clock, envelope, r, u, rfl, hpoll, rfl⟩ :=
    (feedbackFor_eq_some_iff system event s feedback).mp h
  obtain ⟨stream, hstream, -⟩ := Option.map_eq_some_iff.mp hpoll.publisher
  obtain ⟨a, room, hroom, hget⟩ := get_of_publishedStream hstream
  rw [step_of_polls hpoll clock, polled_streamTarget hrooms hroom hget htargets]
  exact polledTarget_descends hrooms hroom hget htargets hdegraded

/-- An accepted poll is accepted once more, of a stream that is still degraded. -/
theorem Polls.again {system : ControlSystem} (hrooms : RoomsOk system.control) {i : Nat}
    {message : ClientControl} {r : RoomId} {s : StreamId} {u : UserId}
    (h : system.Polls i message r s u) (hdegraded : system.control.Degraded s) :
    Polls { system with control := system.control.polled s } i message r s u ∧
      (system.control.polled s).Degraded s := by
  obtain ⟨stream, hstream, -⟩ := Option.map_eq_some_iff.mp h.publisher
  obtain ⟨a, room, hroom, hget⟩ := get_of_publishedStream hstream
  have htoken : (system.control.polled s).access_token = system.control.access_token :=
    adapted_fixed ControlState.access_token (fun _ _ => rfl) system.control s
  refine ⟨⟨h.request, ?_, h.user, ?_⟩, (polled_degraded_iff hrooms hroom hget).mpr hdegraded⟩
  · have hauth := h.authorized
    rw [h.request] at hauth ⊢
    unfold authorizationError requiresAccessToken at hauth ⊢
    rw [htoken]
    exact hauth
  · exact (polled_publisher hrooms hroom hget).trans h.publisher

/-- The run in which the publisher of a degraded stream does nothing but poll. -/
theorem polls_only {i : Nat} (clock : Clock) {envelope : ClientEnvelope} {r : RoomId}
    {s : StreamId} {u : UserId} (n : Nat) {system : ControlSystem} (hsystem : system.Reachable)
    (h : system.Polls i envelope.message r s u) (hdegraded : system.control.Degraded s) :
    Meets step (StaysDegraded s) system (List.replicate n (.envelope i clock envelope)) ∧
      countSteps step (isPollFor s) system (List.replicate n (.envelope i clock envelope)) = n := by
  induction n generalizing system with
  | zero => exact ⟨True.intro, rfl⟩
  | succ n ih =>
      have hrooms := (reachable_roomInvariant hsystem).toRoomsOk
      have hanswer : isPollFor s system (.envelope i clock envelope) = true := by
        rw [isPollFor, (feedbackFor_eq_some_iff system _ s _).mpr
          ⟨i, clock, envelope, r, u, rfl, h, rfl⟩]
        rfl
      obtain ⟨hagain, hdegraded'⟩ := h.again hrooms hdegraded
      have hnext := hsystem.after (.envelope i clock envelope)
      rw [step_of_polls h clock] at hnext
      obtain ⟨hmeets, hcount⟩ := ih hnext hagain hdegraded'
      rw [← step_of_polls h clock] at hmeets hcount
      refine ⟨⟨⟨fun _ => hdegraded, fun hnone => ?_⟩, hmeets⟩, ?_⟩
      · rw [hanswer] at hnone
        cases hnone
      · show Bool.toNat _ + countSteps _ _ _ (List.replicate n _) = n + 1
        rw [hcount, hanswer, Bool.toNat_true, Nat.add_comm]

/-- However a stream is polled while it stays degraded, more polls than its target has units to
lower bring the target to its floor. -/
theorem reaches_floor {system : ControlSystem} (hsystem : system.Reachable) {s : StreamId}
    {events : List ControlEvent} (hmeets : Meets step (StaysDegraded s) system events)
    (hcount : (system.control.streamTarget s).total
      < countSteps step (isPollFor s) system events) :
    ((run step system events).control.streamTarget s).AtFloor := by
  refine @Meets.reaches _ _ _ _ Reachable (fun system => (system.control.streamTarget s).AtFloor)
    (fun system => (system.control.streamTarget s).total) _ ?_ ?_ ?_ ?_ _ _ hsystem hmeets
    (.inr hcount)
  · exact fun system event _ hreach => hreach.after event
  · rintro system event ⟨hpoll, hother⟩ hreach hfloor
    have hrooms := (reachable_roomInvariant hreach).toRoomsOk
    cases hsome : isPollFor s system event with
    | true =>
        have hdescends := poll_descends hrooms (reachable_targetsOk hreach) hsome (hpoll hsome)
        rw [hdescends.floor hfloor]
        exact hfloor
    | false =>
        rw [hother hsome]
        exact hfloor
  · rintro system event ⟨hpoll, -⟩ hreach hsome hfloor
    have hrooms := (reachable_roomInvariant hreach).toRoomsOk
    exact (poll_descends hrooms (reachable_targetsOk hreach) hsome (hpoll hsome)).total_lt hfloor
  · rintro system event ⟨-, hother⟩ - hsome
    exact (congrArg StreamTarget.total (hother hsome)).le

/-- Every successful poll answers with the targets that it stores. A poll of a degraded stream
lowers the bitrate, then the frame rate, then the resolution, and raises nothing; and as long as
the stream stays degraded, finitely many polls bring it to the floor of all three. -/
theorem adaptation_descends {system : ControlSystem} (hsystem : system.Reachable) (s : StreamId) :
    (∀ (event : ControlEvent) (feedback : PublisherFeedback),
      system.feedbackFor event s = some feedback →
        feedbackTarget feedback = (system.step event).control.streamTarget s ∧
          (system.control.Degraded s →
            (system.control.streamTarget s).Descends
              ((system.step event).control.streamTarget s))) ∧
      (∀ events : List ControlEvent, Meets step (StaysDegraded s) system events →
        (system.control.streamTarget s).total < countSteps step (isPollFor s) system events →
          ((run step system events).control.streamTarget s).AtFloor) ∧
      ∀ event : ControlEvent, isPollFor s system event → system.control.Degraded s →
        ∃ n : Nat, ((run step system (List.replicate n event)).control.streamTarget s).AtFloor := by
  have hrooms := (reachable_roomInvariant hsystem).toRoomsOk
  have htargets := reachable_targetsOk hsystem
  refine ⟨?_, fun events => reaches_floor hsystem, ?_⟩
  · intro event feedback h
    refine ⟨poll_stores_feedback hrooms htargets h, ?_⟩
    exact poll_descends hrooms htargets (Option.isSome_iff_exists.mpr ⟨feedback, h⟩)
  · intro event h hdegraded
    obtain ⟨feedback, h⟩ := Option.isSome_iff_exists.mp h
    obtain ⟨i, clock, envelope, r, u, rfl, hpoll, -⟩ :=
      (feedbackFor_eq_some_iff system event s feedback).mp h
    obtain ⟨hmeets, hcount⟩ := polls_only clock ((system.control.streamTarget s).total + 1)
      hsystem hpoll hdegraded
    exact ⟨_, reaches_floor hsystem hmeets (by omega)⟩

/-- The relay after its one viewer has reported a loss. -/
def reportingSystem : ControlSystem := run step (start .new) reportingRun

theorem reportingSystem_reachable : reportingSystem.Reachable :=
  ⟨start .new, reportingRun, ⟨.new, .new, rfl⟩, rfl⟩

/-- The publisher of the watched screen polls its feedback. -/
def publisherPoll : ControlEvent := .ask 0 (.pollPublisherFeedback ⟨1, 7⟩)

theorem adaptation_descends_reporting :
    (reportingSystem.control.streamTarget 7).Descends
        ((reportingSystem.step publisherPoll).control.streamTarget 7) ∧
      ∃ n : Nat, ((run step reportingSystem
        (List.replicate n publisherPoll)).control.streamTarget 7).AtFloor := by
  have hdegraded : reportingSystem.control.Degraded 7 := by decide +kernel
  have hpoll : isPollFor 7 reportingSystem publisherPoll := by decide +kernel
  obtain ⟨feedback, hfeedback⟩ := Option.isSome_iff_exists.mp hpoll
  obtain ⟨hstep, -, hfloor⟩ := adaptation_descends reportingSystem_reachable 7
  exact ⟨(hstep publisherPoll feedback hfeedback).2 hdegraded,
    hfloor publisherPoll hpoll hdegraded⟩

end ControlSystem

end TeamView.Relay
