import TeamView.Relay.Polling
import TeamView.Relay.StreamMaps

set_option autoImplicit false

/-! # Keyframe requests

The slot `pending_keyframe_requests[stream_id]` of the relay has several producers and one
consumer (`register_keyframe_request`, `request_keyframe`, `poll_publisher_feedback` in
`crates/relay-server/src/control.rs`). A request stays in its slot until the publisher polls or
the stream goes. What a poll reports is the slot or a loss in a stored viewer report, and a report
stays stored.
-/

namespace TeamView.Relay

open TeamView.Protocol BTree Runs

namespace ControlState

variable {state : ControlState} {s : StreamId}

/-- The slot of `s` gains no request, and loses one only with the stream. -/
structure SlotFrame (s : StreamId) (state state' : ControlState) : Prop where
  taken : s ∈ state'.pending_keyframe_requests → s ∈ state.pending_keyframe_requests
  kept : s ∈ state.pending_keyframe_requests → state'.Published s →
    s ∈ state'.pending_keyframe_requests

theorem slotFrame_of_eq {state' : ControlState}
    (h : state'.pending_keyframe_requests = state.pending_keyframe_requests) :
    SlotFrame s state state' := by
  constructor
  · rw [h]
    exact id
  · rw [h]
    exact fun hin _ => hin

/-- A request for another stream. -/
theorem slotFrame_of_insert {state' : ControlState} {t : StreamId} {reason : KeyframeReason}
    (hne : s ≠ t)
    (h : state'.pending_keyframe_requests = state.pending_keyframe_requests.insert t reason) :
    SlotFrame s state state' := by
  constructor
  · rw [h]
    exact fun hin => ((mem_insert _ _ _ _).mp hin).resolve_left hne
  · rw [h]
    exact fun hin _ => (mem_insert _ _ _ _).mpr (.inr hin)

/-- The slot of another stream is emptied. -/
theorem slotFrame_of_erase {state' : ControlState} {t : StreamId} (hne : s ≠ t)
    (h : state'.pending_keyframe_requests = state.pending_keyframe_requests.erase t) :
    SlotFrame s state state' := by
  constructor
  · rw [h]
    exact fun hin => ((mem_erase _ _ _).mp hin).2
  · rw [h]
    exact fun hin _ => (mem_erase _ _ _).mpr ⟨hne, hin⟩

/-! ## Leaving -/

theorem slotFrame_of_survives {state' : ControlState}
    (h : Survives ControlState.pending_keyframe_requests s state state') :
    SlotFrame s state state' where
  taken := h.mem
  kept hin hafter := by
    rw [mem_iff_get, h.of_published hafter]
    exact (mem_iff_get _ _).mp hin

theorem leaveRoom_slotFrame (hrooms : RoomsOk state) (s : StreamId) (u : UserId) (r : RoomId) :
    SlotFrame s state (state.leaveRoom u r) :=
  slotFrame_of_survives (streamMap_keyframes.survives_leaveRoom hrooms u r)

theorem disconnectUser_slotFrame (hrooms : RoomsOk state) (s : StreamId) (u : UserId) :
    SlotFrame s state (state.disconnectUser u) :=
  slotFrame_of_survives (streamMap_keyframes.survives_disconnectUser hrooms u)

/-! ## Requests that touch the slots -/

/-- The requests whose handlers touch a keyframe slot. -/
def touchesSlots : ClientControl → Bool
  | .leaveRoom _ | .unpublishStream _ | .subscribeStream _ | .requestKeyframe _
  | .pollPublisherFeedback _ => true
  | _ => false

theorem handleMessage_pending {session : Session} {clock : Clock} {message : ClientControl}
    (h : touchesSlots message = false) :
    (state.handleMessage session clock message).state.pending_keyframe_requests
      = state.pending_keyframe_requests := by
  cases message with
  | leaveRoom request => cases h
  | unpublishStream request => cases h
  | subscribeStream request => cases h
  | requestKeyframe request => cases h
  | pollPublisherFeedback request => cases h
  | setTargetBitrate target =>
      simp only [handleMessage, Handled.of, setTargetBitrate]
      split
      · rfl
      · exact updateStreamTarget_fixed ControlState.pending_keyframe_requests (fun _ _ => rfl)
          _ _ _ _ _ _
  | setTargetFramerate target =>
      simp only [handleMessage, Handled.of, setTargetFramerate]
      split
      · rfl
      · exact updateStreamTarget_fixed ControlState.pending_keyframe_requests (fun _ _ => rfl)
          _ _ _ _ _ _
  | pollRemoteInput poll =>
      simp only [handleMessage, Handled.of, pollRemoteInput]
      split
      · rfl
      · exact drainRemoteInput_fixed ControlState.pending_keyframe_requests (fun _ _ => rfl) _ _ _
  | _ =>
      -- the other handlers write maps of their own
      simp only [handleMessage, Handled.of, hello, authenticate, createRoom, joinRoom,
        publishStream, unsubscribeStream, setVoiceState, setStreamConfig, sendRemoteInput,
        viewerStats]
      repeat' split
      all_goals rfl

theorem unpublishStream_slotFrame (hrooms : RoomsOk state) (s : StreamId) (session : Session)
    (request : UnpublishStream) :
    SlotFrame s state (state.unpublishStream session request).1 :=
  slotFrame_of_survives (streamMap_keyframes.survives_unpublishStream hrooms session request)

/-- An accepted request for a keyframe fills the slot of its stream; any other changes nothing. -/
theorem requestKeyframe_cases (state : ControlState) (session : Session)
    (request : RequestKeyframe) :
    ((state.requestKeyframe session request).1 = state ∧
        (state.requestKeyframe session request).2 ≠ .requestKeyframe request) ∨
      ((state.requestKeyframe session request).1
          = state.registerKeyframeRequest request.stream_id request.reason ∧
        (state.requestKeyframe session request).2 = .requestKeyframe request) := by
  unfold requestKeyframe
  split
  · exact .inl ⟨rfl, nofun⟩
  · split
    · exact .inl ⟨rfl, nofun⟩
    · simp only
      split
      · exact .inl ⟨rfl, nofun⟩
      · exact .inr ⟨rfl, rfl⟩

/-- `u` is about to watch the screen `s` for the first time. -/
def NewScreenViewer (state : ControlState) (u : UserId) (s : StreamId) : Prop :=
  ¬ state.Subscribes u s ∧
    ∃ (r : RoomId) (stream : PublishedStream),
      state.PublishedIn r s stream ∧ stream.media_kind = .screen

theorem newScreenViewer_iff (hrooms : RoomsOk state) {r : RoomId} {room : Room}
    {stream : PublishedStream} {u : UserId} (hroom : state.rooms[r]? = some room)
    (hstream : room.published_streams[s]? = some stream) :
    state.NewScreenViewer u s ↔ u ∉ room.subscribers s ∧ stream.media_kind = .screen := by
  have hin : state.PublishedIn r s stream := ⟨room, hroom, hstream⟩
  constructor
  · rintro ⟨hnew, a, stream', ⟨room', hroom', hstream'⟩, hkind⟩
    obtain rfl := hrooms.stream_unique s a r stream' stream ⟨room', hroom', hstream'⟩ hin
    obtain rfl := Option.some.inj (hroom'.symm.trans hroom)
    obtain rfl := Option.some.inj (hstream'.symm.trans hstream)
    exact ⟨fun hviewer => hnew ⟨a, room', hroom, mem_of_get hstream, hviewer⟩, hkind⟩
  · rintro ⟨hnew, hkind⟩
    refine ⟨?_, r, stream, hin, hkind⟩
    rintro ⟨a, room', hroom', hpub, hviewer⟩
    obtain ⟨stream', hstream'⟩ := (mem_iff_get _ _).mp hpub
    obtain rfl := hrooms.stream_unique s a r stream' stream ⟨room', hroom', hstream'⟩ hin
    obtain rfl := Option.some.inj (hroom'.symm.trans hroom)
    exact hnew hviewer

/-- A subscription by a new viewer of a screen fills the slot of the screen; any other leaves the
slots alone. -/
theorem subscribeStream_slot (hrooms : RoomsOk state) {session : Session} {u : UserId}
    (huser : session.user_id = some u) (subscribe : SubscribeStream) :
    ((state.subscribeStream session subscribe).1.pending_keyframe_requests
          = state.pending_keyframe_requests ∧
        ¬ (state.NewScreenViewer u subscribe.stream_id ∧
          (state.subscribeStream session subscribe).1.Subscribes u subscribe.stream_id)) ∨
      ((state.subscribeStream session subscribe).1.pending_keyframe_requests
          = state.pending_keyframe_requests.insert subscribe.stream_id .newSubscriber ∧
        state.NewScreenViewer u subscribe.stream_id ∧
          (state.subscribeStream session subscribe).1.Subscribes u subscribe.stream_id) := by
  have hsame : ¬ (state.NewScreenViewer u subscribe.stream_id ∧
      state.Subscribes u subscribe.stream_id) := fun h => h.1.1 h.2
  unfold subscribeStream
  rw [huser]
  split
  · exact .inl ⟨rfl, hsame⟩
  · next room hroom =>
      simp only
      split
      · split
        · exact .inl ⟨rfl, hsame⟩
        · next room' hsub =>
            have hin := subscribes_of_subscribe state subscribe.room_id hsub
            have hpub : subscribe.stream_id ∈ room.published_streams := by
              unfold Room.subscribe at hsub
              split at hsub
              · next hpub => exact Std.ExtTreeMap.contains_iff_mem.mp hpub
              · cases hsub
            obtain ⟨stream, hstream⟩ := (mem_iff_get _ _).mp hpub
            have hnew := newScreenViewer_iff (u := u) hrooms hroom hstream
            split
            · next htest =>
                refine .inr ⟨rfl, hnew.mpr ?_, subscribes_of_rooms _ rfl hin⟩
                rw [hstream] at htest
                simpa [← Std.ExtTreeSet.contains_iff_mem] using htest
            · next htest =>
                refine .inl ⟨rfl, fun hboth => htest ?_⟩
                rw [hstream]
                simpa [← Std.ExtTreeSet.contains_iff_mem] using hnew.mp hboth.1
      · exact .inl ⟨rfl, hsame⟩

/-- A poll that is not answered for `s` leaves the slot of `s` alone. -/
theorem pollPublisherFeedback_slotFrame {session : Session} {u : UserId}
    (huser : session.user_id = some u) (poll : PollPublisherFeedback)
    (hother : poll.stream_id = s → state.publisherForStream s ≠ some u) :
    SlotFrame s state (state.pollPublisherFeedback session poll).1 := by
  by_cases hpublisher : state.publisherForStream poll.stream_id = some u
  · rw [pollPublisherFeedback_publisher huser poll hpublisher]
    have hne : s ≠ poll.stream_id := by
      rintro rfl
      exact hother rfl hpublisher
    exact slotFrame_of_erase hne rfl
  · unfold pollPublisherFeedback
    rw [huser]
    simp only
    rw [if_neg hpublisher]
    exact slotFrame_of_eq rfl

end ControlState

/-! ## Demands in a run -/

namespace ControlSystem

open ControlState

/-- The event demands a keyframe of `s`: it is an accepted request, or makes its user a new
viewer of the screen `s`. -/
inductive Demand (system : ControlSystem) (s : StreamId) : ControlEvent → Prop
  | requested (i : Nat) (clock : Clock) (envelope : ClientEnvelope) (request : RequestKeyframe)
      (hmessage : envelope.message = .requestKeyframe request) (hstream : request.stream_id = s)
      (haccepted : (system.reply i clock envelope).response.message = .requestKeyframe request) :
      Demand system s (.envelope i clock envelope)
  | subscribed (i : Nat) (clock : Clock) (envelope : ClientEnvelope) (subscribe : SubscribeStream)
      (u : UserId) (hmessage : envelope.message = .subscribeStream subscribe)
      (hstream : subscribe.stream_id = s) (huser : (system.sessions i).user_id = some u)
      (hnew : system.control.NewScreenViewer u s)
      (hviewer : (system.reply i clock envelope).state.Subscribes u s) :
      Demand system s (.envelope i clock envelope)

theorem demand_fills {system : ControlSystem} (hrooms : RoomsOk system.control) {s : StreamId}
    {event : ControlEvent} (h : Demand system s event) :
    s ∈ (system.step event).control.pending_keyframe_requests := by
  cases h with
  | requested i clock envelope request hmessage hstream haccepted =>
      show s ∈ (system.reply i clock envelope).state.pending_keyframe_requests
      cases hauth : system.control.authorizationError (system.sessions i) envelope.message with
      | some error =>
          rw [reply_of_unauthorized hauth] at haccepted
          cases haccepted
      | none =>
          rw [reply_of_authorized hauth, hmessage] at haccepted ⊢
          rcases requestKeyframe_cases system.control (system.sessions i) request with
            ⟨-, hrefused⟩ | ⟨hstate, -⟩
          · exact absurd haccepted hrefused
          · show s ∈ (system.control.requestKeyframe _ request).1.pending_keyframe_requests
            rw [hstate]
            exact (mem_insert _ _ _ _).mpr (.inl hstream.symm)
  | subscribed i clock envelope subscribe u hmessage hstream huser hnew hviewer =>
      subst hstream
      show _ ∈ (system.reply i clock envelope).state.pending_keyframe_requests
      cases hauth : system.control.authorizationError (system.sessions i) envelope.message with
      | some error =>
          rw [reply_of_unauthorized hauth] at hviewer
          exact absurd hviewer hnew.1
      | none =>
          rw [reply_of_authorized hauth, hmessage] at hviewer ⊢
          rcases subscribeStream_slot hrooms huser subscribe with ⟨-, hnone⟩ | ⟨hslot, -⟩
          · exact absurd ⟨hnew, hviewer⟩ hnone
          · show _ ∈ (system.control.subscribeStream _ subscribe).1.pending_keyframe_requests
            rw [hslot]
            exact (mem_insert _ _ _ _).mpr (.inl rfl)

section Envelope

variable {system : ControlSystem} {s : StreamId} {i : Nat} {clock : Clock}
  {envelope : ClientEnvelope}

theorem requestKeyframe_slotFrame {request : RequestKeyframe}
    (hauth : system.control.authorizationError (system.sessions i) envelope.message = none)
    (hmessage : envelope.message = .requestKeyframe request)
    (hdemand : ¬ Demand system s (.envelope i clock envelope)) :
    SlotFrame s system.control (system.control.requestKeyframe (system.sessions i) request).1 := by
  rcases requestKeyframe_cases system.control (system.sessions i) request with
    ⟨hstate, -⟩ | ⟨hstate, hanswer⟩
  · rw [hstate]
    exact slotFrame_of_eq rfl
  · -- the request is accepted, so it demands a keyframe of its own stream
    have haccepted : (system.reply i clock envelope).response.message
        = .requestKeyframe request := by
      rw [reply_of_authorized hauth, hmessage]
      exact hanswer
    have hne : s ≠ request.stream_id := by
      intro heq
      exact hdemand (.requested i clock envelope request hmessage heq.symm haccepted)
    rw [hstate]
    exact slotFrame_of_insert hne rfl

theorem subscribeStream_slotFrame (hrooms : RoomsOk system.control) {subscribe : SubscribeStream}
    {u : UserId}
    (hauth : system.control.authorizationError (system.sessions i) envelope.message = none)
    (huser : (system.sessions i).user_id = some u)
    (hmessage : envelope.message = .subscribeStream subscribe)
    (hdemand : ¬ Demand system s (.envelope i clock envelope)) :
    SlotFrame s system.control
      (system.control.subscribeStream (system.sessions i) subscribe).1 := by
  rcases subscribeStream_slot hrooms huser subscribe with ⟨hslot, -⟩ | ⟨hslot, hnew, hviewer⟩
  · exact slotFrame_of_eq hslot
  · -- a new viewer of a screen demands a keyframe of it
    have hne : s ≠ subscribe.stream_id := by
      rintro rfl
      refine hdemand (.subscribed i clock envelope subscribe u hmessage rfl huser hnew ?_)
      rw [reply_of_authorized hauth, hmessage]
      exact hviewer
    exact slotFrame_of_insert hne hslot

/-- An envelope that neither demands a keyframe of `s` nor polls for it. -/
theorem envelope_slotFrame (hrooms : RoomsOk system.control)
    (hdemand : ¬ Demand system s (.envelope i clock envelope))
    (hpoll : isPollFor s system (.envelope i clock envelope) = false) :
    SlotFrame s system.control (system.reply i clock envelope).state := by
  cases hauth : system.control.authorizationError (system.sessions i) envelope.message with
  | some error =>
      rw [reply_of_unauthorized hauth]
      exact slotFrame_of_eq rfl
  | none =>
      rw [reply_of_authorized hauth]
      by_cases htouch : touchesSlots envelope.message = false
      · exact slotFrame_of_eq (handleMessage_pending htouch)
      -- the requests that touch the slots are those of users
      have hgate : ungated envelope.message = false := by
        cases hmessage : envelope.message <;> rw [hmessage] at htouch <;>
          first | rfl | exact absurd rfl htouch
      have hsome := ((authorizationError_eq_none_iff hgate _ _).mp hauth).1
      obtain ⟨u, huser⟩ := Option.isSome_iff_exists.mp hsome
      cases hmessage : envelope.message with
      | leaveRoom leave =>
          show SlotFrame s system.control (system.control.leave _ leave).1
          unfold ControlState.leave
          rw [huser]
          exact leaveRoom_slotFrame hrooms s u leave.room_id
      | unpublishStream request =>
          exact unpublishStream_slotFrame hrooms s (system.sessions i) request
      | requestKeyframe request => exact requestKeyframe_slotFrame hauth hmessage hdemand
      | subscribeStream subscribe =>
          exact subscribeStream_slotFrame hrooms hauth huser hmessage hdemand
      | pollPublisherFeedback poll =>
          refine pollPublisherFeedback_slotFrame huser poll ?_
          rintro rfl hpublisher
          have hpolls : system.Polls i envelope.message poll.room_id poll.stream_id u :=
            ⟨hmessage, hauth, huser, hpublisher⟩
          rw [isPollFor, (feedbackFor_eq_some_iff system _ poll.stream_id _).mpr
            ⟨i, clock, envelope, poll.room_id, u, rfl, hpolls, rfl⟩] at hpoll
          cases hpoll
      | _ =>
          rw [hmessage] at htouch
          exact absurd rfl htouch

end Envelope

/-- Every other event but the publisher's poll leaves the slot alone, as long as the stream
stays. -/
theorem step_slotFrame {system : ControlSystem} (hrooms : RoomsOk system.control) {s : StreamId}
    {event : ControlEvent} (hdemand : ¬ Demand system s event)
    (hpoll : isPollFor s system event = false) :
    SlotFrame s system.control (system.step event).control := by
  cases event with
  | disconnect u => exact disconnectUser_slotFrame hrooms s u
  | envelope i clock envelope => exact envelope_slotFrame hrooms hdemand hpoll
  | recordForward packet summary bytes received route =>
      apply slotFrame_of_eq
      exact recordMediaForwardSummary_fixed ControlState.pending_keyframe_requests
        (fun _ _ => rfl) _ _ _ _ _ _

/-! ## No request is lost -/

/-- The event is not the publisher's poll for `s`, and leaves `s` published. -/
def Undisturbed (s : StreamId) (system : ControlSystem) (event : ControlEvent) : Prop :=
  isPollFor s system event = false ∧ (system.step event).control.Published s

theorem step_keeps_request {system : ControlSystem} (hrooms : RoomsOk system.control)
    {s : StreamId} {event : ControlEvent} (hevent : Undisturbed s system event)
    (h : s ∈ system.control.pending_keyframe_requests) :
    s ∈ (system.step event).control.pending_keyframe_requests := by
  by_cases hdemand : Demand system s event
  · exact demand_fills hrooms hdemand
  · exact (step_slotFrame hrooms hdemand hevent.1).kept h hevent.2

/-- Whatever the sessions do after a keyframe of `s` is demanded: the next poll of its publisher
reports the demand, unless the stream went in between. -/
theorem demand_reported {system : ControlSystem} (hsystem : system.Reachable) {s : StreamId}
    {demand : ControlEvent} (hdemand : Demand system s demand) {events : List ControlEvent}
    (hevents : Meets step (Undisturbed s) (system.step demand) events) {poll : ControlEvent}
    {feedback : PublisherFeedback}
    (hpoll : (run step (system.step demand) events).feedbackFor poll s = some feedback) :
    feedback.keyframe_requested = true := by
  have hfilled := demand_fills (reachable_roomInvariant hsystem).toRoomsOk hdemand
  have hpending : (run step (system.step demand) events).Reachable ∧
      s ∈ (run step (system.step demand) events).control.pending_keyframe_requests :=
    Meets.induction
      (P := fun system => system.Reachable ∧ s ∈ system.control.pending_keyframe_requests)
      (fun system event hevent h => ⟨h.1.after event,
        step_keeps_request (reachable_roomInvariant h.1).toRoomsOk hevent h.2⟩)
      ⟨hsystem.after demand, hfilled⟩ hevents
  obtain ⟨⟨r, rfl⟩, -⟩ := step_of_feedbackFor hpoll
  have hcontains := Std.ExtTreeMap.contains_iff_mem.mpr hpending.2
  show (demandsKeyframe _ s || changesResolution _ s) = true
  unfold demandsKeyframe
  rw [hcontains]
  rfl

/-- The viewer of the watched screen asks for a keyframe. -/
def viewerDemand : ControlEvent := .ask 1 (.requestKeyframe ⟨1, 7, .packetLoss⟩)

/-- The relay after the watching run. -/
def watchingSystem : ControlSystem := run step (start .new) watchingRun

theorem watchingSystem_reachable : watchingSystem.Reachable :=
  ⟨start .new, watchingRun, ⟨.new, .new, rfl⟩, rfl⟩

theorem demand_reported_leaving :
    ∃ feedback : PublisherFeedback,
      (run step (watchingSystem.step viewerDemand) [.ask 1 (.leaveRoom ⟨1⟩)]).feedbackFor
        publisherPoll 7 = some feedback ∧ feedback.keyframe_requested = true := by
  have hdemand : Demand watchingSystem 7 viewerDemand :=
    .requested 1 ⟨0, 0⟩ _ ⟨1, 7, .packetLoss⟩ rfl rfl (by decide +kernel)
  have hstays : ((run step (watchingSystem.step viewerDemand)
      [.ask 1 (.leaveRoom ⟨1⟩)]).control.publishedStream 7).isSome := by decide +kernel
  obtain ⟨stream, hstream⟩ := Option.isSome_iff_exists.mp hstays
  obtain ⟨r, room, hroom, hget⟩ := get_of_publishedStream hstream
  have hevents : Meets step (Undisturbed 7) (watchingSystem.step viewerDemand)
      [.ask 1 (.leaveRoom ⟨1⟩)] :=
    ⟨⟨by decide +kernel, r, stream, room, hroom, hget⟩, True.intro⟩
  have hpoll : ((run step (watchingSystem.step viewerDemand)
      [.ask 1 (.leaveRoom ⟨1⟩)]).feedbackFor publisherPoll 7).isSome := by decide +kernel
  obtain ⟨feedback, hfeedback⟩ := Option.isSome_iff_exists.mp hpoll
  exact ⟨feedback, hfeedback,
    demand_reported watchingSystem_reachable hdemand hevents hfeedback⟩

/-! ## Is a demand consumed? -/

/-- No report that is stored about `s` counts a loss or a dropped frame. -/
def LossFree (state : ControlState) (s : StreamId) : Prop :=
  ∀ report ∈ state.streamReports s, report.lost_packets = 0 ∧ report.dropped_frames = 0

/-- The event neither demands a keyframe of `s` nor is a poll for it. -/
def Quiet (s : StreamId) (system : ControlSystem) (event : ControlEvent) : Prop :=
  ¬ Demand system s event ∧ isPollFor s system event = false

theorem demandsKeyframe_eq_false_iff {state : ControlState} {s : StreamId}
    (hempty : s ∉ state.pending_keyframe_requests) :
    state.demandsKeyframe s = false ↔ LossFree state s := by
  have hcontains : state.pending_keyframe_requests.contains s = false := by
    rw [← Bool.not_eq_true]
    exact fun h => hempty (Std.ExtTreeMap.contains_iff_mem.mp h)
  unfold demandsKeyframe LossFree
  rw [hcontains, Bool.false_or, List.any_eq_false]
  refine forall₂_congr fun report _ => ?_
  rw [Bool.or_eq_true, decide_eq_true_eq, decide_eq_true_eq]
  omega

/-- A poll empties the slot, and without a demand it stays empty. So of two successive polls, the
second of which does not change the resolution, the second reports a demand exactly when some
viewer's stored report counts a loss: such a report is never consumed. -/
theorem second_poll_quiet_iff {system : ControlSystem} (hsystem : system.Reachable) {s : StreamId}
    {first : ControlEvent} {feedback : PublisherFeedback}
    (hfirst : system.feedbackFor first s = some feedback) {events : List ControlEvent}
    (hevents : Meets step (Quiet s) (system.step first) events) {second : ControlEvent}
    {feedback' : PublisherFeedback}
    (hsecond : (run step (system.step first) events).feedbackFor second s = some feedback')
    (hwidth : feedback'.target_width
      = ((run step (system.step first) events).control.streamTarget s).width)
    (hheight : feedback'.target_height
      = ((run step (system.step first) events).control.streamTarget s).height) :
    feedback'.keyframe_requested = false ↔
      LossFree (run step (system.step first) events).control s := by
  obtain ⟨-, hpolled⟩ := step_of_feedbackFor hfirst
  have hconsumed : s ∉ (system.step first).control.pending_keyframe_requests := by
    rw [hpolled]
    exact fun h => ((mem_erase _ _ _).mp h).1 rfl
  have hempty : (run step (system.step first) events).Reachable ∧
      s ∉ (run step (system.step first) events).control.pending_keyframe_requests :=
    Meets.induction
      (P := fun system => system.Reachable ∧ s ∉ system.control.pending_keyframe_requests)
      (fun system event hevent h => ⟨h.1.after event, fun hin => h.2
        ((step_slotFrame (reachable_roomInvariant h.1).toRoomsOk hevent.1 hevent.2).taken hin)⟩)
      ⟨hsystem.after first, hconsumed⟩ hevents
  rw [← demandsKeyframe_eq_false_iff hempty.2]
  obtain ⟨⟨r, rfl⟩, -⟩ := step_of_feedbackFor hsecond
  have hsame : changesResolution (run step (system.step first) events).control s = false :=
    decide_eq_false (fun hne => hne (Prod.ext hwidth hheight))
  show (demandsKeyframe _ s || changesResolution _ s) = false ↔ _
  rw [hsame, Bool.or_false]

theorem second_poll_quiet_iff_watching :
    ∃ feedback' : PublisherFeedback,
      (watchingSystem.step publisherPoll).feedbackFor publisherPoll 7 = some feedback' ∧
        feedback'.keyframe_requested = false := by
  have hfirst : (watchingSystem.feedbackFor publisherPoll 7).isSome := by decide +kernel
  have hsecond : ((watchingSystem.step publisherPoll).feedbackFor publisherPoll 7).isSome := by
    decide +kernel
  obtain ⟨feedback, hfirst⟩ := Option.isSome_iff_exists.mp hfirst
  obtain ⟨feedback', hsecond⟩ := Option.isSome_iff_exists.mp hsecond
  have hsize : ((watchingSystem.step publisherPoll).feedbackFor publisherPoll 7).map
      (fun feedback => (feedback.target_width, feedback.target_height))
      = some (((watchingSystem.step publisherPoll).control.streamTarget 7).width,
          ((watchingSystem.step publisherPoll).control.streamTarget 7).height) := by
    decide +kernel
  rw [hsecond] at hsize
  obtain ⟨hwidth, hheight⟩ := Prod.mk.inj (Option.some.inj hsize)
  have hnone : (watchingSystem.step publisherPoll).control.streamReports 7 = [] := by
    decide +kernel
  refine ⟨feedback', hsecond, (@second_poll_quiet_iff _ watchingSystem_reachable 7 _ _ hfirst []
    True.intro _ _ hsecond hwidth hheight).mpr ?_⟩
  intro report hreport
  rw [run_nil, hnone] at hreport
  cases hreport

/-- One past loss: the viewer has reported it once, the publisher polls twice, and the second
poll demands a keyframe again. -/
theorem past_loss_demands_again :
    reportingSystem.Reachable ∧ isPollFor 7 reportingSystem publisherPoll ∧
      ∃ feedback : PublisherFeedback,
        (reportingSystem.step publisherPoll).feedbackFor publisherPoll 7 = some feedback ∧
          (feedback.target_width, feedback.target_height)
            = (((reportingSystem.step publisherPoll).control.streamTarget 7).width,
              ((reportingSystem.step publisherPoll).control.streamTarget 7).height) ∧
          feedback.keyframe_requested = true := by
  refine ⟨reportingSystem_reachable, by decide +kernel,
    (reportingSystem.step publisherPoll).control.polledFeedback 1 7, by decide +kernel,
    by decide +kernel, by decide +kernel⟩

end ControlSystem

end TeamView.Relay
