import TeamView.Lib.DropQueue
import TeamView.Relay.Control
import TeamView.Relay.StreamMaps

set_option autoImplicit false

/-! # Remote input

Viewers of a screen send input events to its publisher through a queue of the relay
(`send_remote_input`, `poll_remote_input`). The queue is a bounded queue that drops its oldest
entries (`DropQueue`): `step_input` shows it for one event of the relay, whoever takes part, and
the account of the library then holds for the whole publication (`remote_input_in_order`).
-/

namespace TeamView.Relay

open TeamView.Protocol BTree MachineInt Runs DropQueue

/-! ## Sanitised input -/

/-- Text of an input event is not empty, not long, and has no control characters but line
breaks and tabs. -/
def CleanKind : RemoteInputKind → Prop
  | .text text =>
      text ≠ "" ∧ text.length ≤ 256 ∧
        ∀ ch ∈ text.toList, isControl ch = true → ch = '\n' ∨ ch = '\r' ∨ ch = '\t'
  | _ => True

theorem sanitizeRemoteInputKind_clean {kind kind' : RemoteInputKind}
    (h : sanitizeRemoteInputKind kind = .ok kind') : CleanKind kind' := by
  cases kind with
  | text text =>
      unfold sanitizeRemoteInputKind at h
      simp only at h
      split at h
      · cases h
      · next hempty =>
          obtain rfl := Except.ok.inj h
          refine ⟨?_, ?_, ?_⟩
          · intro hnil
            apply hempty
            rw [List.isEmpty_iff, ← String.toList_ofList (l := List.filter _ _), hnil]
            rfl
          · rw [String.length_ofList]
            calc _ ≤ (text.toList.take maxRemoteInputTextChars).length := List.length_filter_le _ _
              _ ≤ maxRemoteInputTextChars := List.length_take_le _ _
          · intro ch hch hcontrol
            rw [String.toList_ofList] at hch
            have hkept := (List.mem_filter.mp hch).2
            simpa [hcontrol, or_assoc] using hkept
  | _ =>
      obtain rfl := Except.ok.inj h
      exact True.intro

/-! ## The queue of a stream -/

namespace ControlState

variable {state : ControlState} {s : StreamId}

theorem remoteInputQueue_queueRemoteInput (state : ControlState) (t s : StreamId)
    (input : RemoteInputEvent) :
    (state.queueRemoteInput t input).remoteInputQueue s =
      if s = t then (state.remoteInputQueue t).drop (state.excessRemoteInput t) ++ [input]
      else state.remoteInputQueue s := by
  unfold queueRemoteInput remoteInputQueue
  rw [get_insert]
  split <;> rfl

theorem remoteInputQueue_drainRemoteInput (state : ControlState) (t s : StreamId) (n : Nat) :
    (state.drainRemoteInput t n).remoteInputQueue s =
      if s = t then (state.remoteInputQueue t).drop n else state.remoteInputQueue s := by
  unfold drainRemoteInput remoteInputQueue
  cases hqueue : state.pending_remote_input[t]? with
  | none =>
      by_cases hs : s = t
      · subst hs
        simp [hqueue]
      · simp [hs]
  | some queue =>
      simp only
      split
      · next hempty =>
          -- the emptied queue is removed, which reads as the empty queue
          rw [get_erase]
          split
          · rw [Option.getD_none, Option.getD_some, List.isEmpty_iff.mp hempty]
          · rfl
      · rw [get_insert]
        split <;> rfl

theorem remoteInputQueue_of_survives {state' : ControlState}
    (h : Survives ControlState.pending_remote_input s state state') (hafter : state'.Published s) :
    state'.remoteInputQueue s = state.remoteInputQueue s := by
  unfold remoteInputQueue
  rw [h.of_published hafter]

theorem StreamStateOk.remoteInputQueue_le (h : StreamStateOk state) (s : StreamId) :
    (state.remoteInputQueue s).length ≤ maxRemoteInputQueueEvents := by
  unfold remoteInputQueue
  cases hqueue : state.pending_remote_input[s]? with
  | none => exact Nat.zero_le _
  | some queue => exact (h.input_bounded s queue hqueue).2

theorem StreamStateOk.remoteInputQueue_of_not_published (h : StreamStateOk state)
    (hnot : ¬ state.Published s) : state.remoteInputQueue s = [] := by
  unfold remoteInputQueue
  have hnone : state.pending_remote_input[s]? = none := by
    rw [← not_mem_iff_get]
    intro hin
    obtain ⟨r, stream, hpublished, -⟩ := h.input_screen s hin
    exact hnot ⟨r, stream, hpublished⟩
  rw [hnone]
  rfl

/-! ## The two handlers -/

/-- The event that an accepted `SendRemoteInput` of a user queues. -/
def inputEvent (user_id : UserId) (clock : Clock) (input : SendRemoteInput)
    (kind : RemoteInputKind) : RemoteInputEvent where
  sender_user_id := user_id
  sequence_number := input.sequence_number
  event_time_micros :=
    if input.event_time_micros = 0 then clock.first else input.event_time_micros
  kind := kind

/-- The user may send input to the stream of the request: it is a participant of the room, the
stream is a screen of the room, and the user subscribes to it. -/
structure MaySend (state : ControlState) (user_id : UserId) (room_id : RoomId)
    (stream_id : StreamId) (room : Room) (stream : PublishedStream) : Prop where
  in_room : state.rooms[room_id]? = some room
  participant : user_id ∈ room.participants
  published : room.published_streams[stream_id]? = some stream
  screen : stream.media_kind = .screen
  subscriber : user_id ∈ room.subscribers stream_id

/-- An input request is refused, or queues one event. -/
theorem sendRemoteInput_cases (state : ControlState) (session : Session) (clock : Clock)
    (input : SendRemoteInput) :
    (∃ error, state.sendRemoteInput session clock input = (state, .error error)) ∨
      ∃ (u : UserId) (room : Room) (stream : PublishedStream) (kind : RemoteInputKind),
        session.user_id = some u ∧ MaySend state u input.room_id input.stream_id room stream ∧
          sanitizeRemoteInputKind input.kind = .ok kind ∧
          state.sendRemoteInput session clock input =
            (state.queueRemoteInput input.stream_id (inputEvent u clock input kind),
              .remoteInputQueued
                { room_id := input.room_id
                  stream_id := input.stream_id
                  publisher_id := stream.publisher_id
                  queued_events :=
                    min ((state.remoteInputQueue input.stream_id).length
                      - state.excessRemoteInput input.stream_id + 1) u16Max
                  dropped_events := min (state.excessRemoteInput input.stream_id) u16Max }) := by
  unfold sendRemoteInput
  split
  · next error _ => exact .inl ⟨error, rfl⟩
  · next u room hroom =>
      obtain ⟨huser, hget, hin⟩ := participantRoom_ok_iff.mp hroom
      split
      · exact .inl ⟨streamNotFound, rfl⟩
      · next stream hstream =>
          split
          · exact .inl ⟨_, rfl⟩
          · next hscreen =>
              split
              · exact .inl ⟨_, rfl⟩
              · next hsub =>
                  have hviewer : u ∈ room.subscribers input.stream_id :=
                    Std.ExtTreeSet.contains_iff_mem.mp (Bool.eq_true_of_not_eq_false hsub)
                  cases hkind : sanitizeRemoteInputKind input.kind with
                  | error error => exact .inl ⟨error, rfl⟩
                  | ok kind =>
                      exact .inr ⟨u, room, stream, kind, huser,
                        ⟨hget, hin, hstream, not_not.mp hscreen, hviewer⟩, rfl, rfl⟩

/-- A poll for input is refused, or takes a batch from the front of the queue. -/
theorem pollRemoteInput_cases (state : ControlState) (session : Session)
    (poll : PollRemoteInput) :
    (∃ error, state.pollRemoteInput session poll = (state, .error error)) ∨
      (state.Published poll.stream_id ∧
        state.pollRemoteInput session poll =
          (state.drainRemoteInput poll.stream_id (min (max poll.max_events 1) 64),
            .remoteInputBatch ⟨poll.room_id, poll.stream_id,
              (state.remoteInputQueue poll.stream_id).take
                (min (max poll.max_events 1) 64)⟩)) := by
  unfold pollRemoteInput
  cases hcheck : state.validateRemoteInputPublisher session poll.room_id poll.stream_id with
  | some error => exact .inl ⟨error, rfl⟩
  | none =>
      refine .inr ⟨?_, rfl⟩
      unfold validateRemoteInputPublisher at hcheck
      split at hcheck
      · cases hcheck
      · next room stream hpublisher =>
          obtain ⟨-, hroom, hstream⟩ := publisherStream_ok_iff.mp hpublisher
          exact ⟨poll.room_id, stream, room, hroom, hstream⟩

/-- The requests that put events into a queue or take them out. -/
def movesInput : ClientControl → Bool
  | .sendRemoteInput _ | .pollRemoteInput _ => true
  | _ => false

theorem handleMessage_survives (hrooms : RoomsOk state) (session : Session) (clock : Clock)
    {message : ClientControl} (h : movesInput message = false) :
    Survives ControlState.pending_remote_input s state
      (state.handleMessage session clock message).state := by
  cases message with
  | sendRemoteInput request => cases h
  | pollRemoteInput request => cases h
  | leaveRoom request =>
      show Survives ControlState.pending_remote_input s state (state.leave session request).1
      unfold leave
      split
      · exact survives_of_eq rfl
      · exact streamMap_remote_input.survives_leaveRoom hrooms _ _
  | unpublishStream request =>
      exact streamMap_remote_input.survives_unpublishStream hrooms session request
  | _ =>
      -- the other handlers write maps of their own
      apply survives_of_eq
      simp only [handleMessage, Handled.of, hello, authenticate, createRoom, joinRoom,
        publishStream, subscribeStream, unsubscribeStream, setVoiceState, setStreamConfig,
        viewerStats, setTargetBitrate, setTargetFramerate, requestKeyframe,
        pollPublisherFeedback, adaptivePublisherFeedback, updateStreamTarget]
      repeat' split
      all_goals rfl

end ControlState

namespace ControlSystem

open ControlState

variable {system : ControlSystem} {s : StreamId}

/-! ## What an event of the relay shows of the queue of `s` -/

/-- What the answer to a request shows. -/
def shownBy (s : StreamId) (session : Session) (clock : Clock) :
    ClientControl → ServerControl → Shown RemoteInputEvent
  | .sendRemoteInput input, .remoteInputQueued queued =>
      if queued.stream_id = s then
        match session.user_id, sanitizeRemoteInputKind input.kind with
        | some user_id, .ok kind =>
            .pushed (inputEvent user_id clock input kind) queued.dropped_events
        | _, _ => .idle
      else .idle
  | .pollRemoteInput _, .remoteInputBatch batch =>
      if batch.stream_id = s then .taken batch.events else .idle
  | _, _ => .idle

def inputShown (s : StreamId) (system : ControlSystem) :
    ControlEvent → Shown RemoteInputEvent
  | .envelope i clock envelope =>
      shownBy s (system.sessions i) clock envelope.message
        (system.reply i clock envelope).response.message
  | _ => .idle

/-- What the events of a run show, one after another. -/
def inputTrace (s : StreamId) : ControlSystem → List ControlEvent → List (Shown RemoteInputEvent)
  | _, [] => []
  | system, event :: events =>
      inputShown s system event :: inputTrace s (system.step event) events

theorem shownBy_error (session : Session) (clock : Clock) (message : ClientControl)
    (error : ControlError) : shownBy s session clock message (.error error) = .idle := by
  cases message <;> rfl

theorem shownBy_of_not_moves {session : Session} {clock : Clock} {message : ClientControl}
    {answer : ServerControl} (h : movesInput message = false) :
    shownBy s session clock message answer = .idle := by
  cases message with
  | sendRemoteInput input => cases h
  | pollRemoteInput poll => cases h
  | _ => rfl

/-! ## One event is one step of the queue -/

/-- A request to send input, as it ends for the queue of `s`. -/
theorem sendRemoteInput_step (hinv : RoomInvariant system.control) (i : Nat) (clock : Clock)
    (input : SendRemoteInput) :
    Step maxRemoteInputQueueEvents (system.control.remoteInputQueue s)
      (shownBy s (system.sessions i) clock (.sendRemoteInput input)
        (system.control.sendRemoteInput (system.sessions i) clock input).2)
      ((system.control.sendRemoteInput (system.sessions i) clock input).1.remoteInputQueue s) := by
  rcases sendRemoteInput_cases system.control (system.sessions i) clock input with
    ⟨error, heq⟩ | ⟨u, room, stream, kind, huser, hmay, hkind, heq⟩
  · rw [heq, shownBy_error]
    exact .idle _
  · rw [heq, remoteInputQueue_queueRemoteInput]
    simp only [shownBy, huser, hkind]
    by_cases hs : input.stream_id = s
    · subst hs
      rw [if_pos rfl, if_pos rfl]
      have hfits := hinv.remoteInputQueue_le input.stream_id
      have hdropped : min (system.control.excessRemoteInput input.stream_id) u16Max
          = excess maxRemoteInputQueueEvents
              (system.control.remoteInputQueue input.stream_id) := by
        -- at most one event is dropped, so the counter of the answer does not saturate
        have hexcess : system.control.excessRemoteInput input.stream_id ≤ 1 := by
          unfold excessRemoteInput
          have hmax : maxRemoteInputQueueEvents = 256 := rfl
          omega
        exact min_eq_left (le_trans hexcess (by decide))
      rw [hdropped]
      exact step_of_push (by decide) hfits _
    · rw [if_neg hs, if_neg (Ne.symm hs)]
      exact .idle _

/-- A poll for input, as it ends for the queue of `s`. -/
theorem pollRemoteInput_step (i : Nat) (clock : Clock) (poll : PollRemoteInput) :
    Step maxRemoteInputQueueEvents (system.control.remoteInputQueue s)
      (shownBy s (system.sessions i) clock (.pollRemoteInput poll)
        (system.control.pollRemoteInput (system.sessions i) poll).2)
      ((system.control.pollRemoteInput (system.sessions i) poll).1.remoteInputQueue s) := by
  rcases pollRemoteInput_cases system.control (system.sessions i) poll with
    ⟨error, heq⟩ | ⟨hpublished, heq⟩
  · rw [heq, shownBy_error]
    exact .idle _
  · rw [heq, remoteInputQueue_drainRemoteInput]
    simp only [shownBy]
    by_cases hs : poll.stream_id = s
    · subst hs
      rw [if_pos rfl, if_pos rfl]
      exact step_of_take _ (by omega)
    · rw [if_neg hs, if_neg (Ne.symm hs)]
      exact .idle _

/-- An event that shows nothing leaves the queue of a stream that stays alone. -/
theorem idle_step {event : ControlEvent} (hshown : inputShown s system event = .idle)
    (hsurvives : Survives ControlState.pending_remote_input s system.control
      (system.step event).control)
    (hafter : (system.step event).control.Published s) :
    Step maxRemoteInputQueueEvents (system.control.remoteInputQueue s)
      (inputShown s system event) ((system.step event).control.remoteInputQueue s) := by
  rw [hshown, remoteInputQueue_of_survives hsurvives hafter]
  exact .idle _

/-- An event that leaves `s` published is a step of its queue. -/
theorem step_input (hinv : RoomInvariant system.control) {event : ControlEvent}
    (hafter : (system.step event).control.Published s) :
    Step maxRemoteInputQueueEvents (system.control.remoteInputQueue s)
      (inputShown s system event) ((system.step event).control.remoteInputQueue s) := by
  have hrooms := hinv.toRoomsOk
  cases event with
  | disconnect u =>
      exact idle_step rfl (streamMap_remote_input.survives_disconnectUser hrooms u) hafter
  | recordForward packet summary bytes received route =>
      refine idle_step rfl (survives_of_eq ?_) hafter
      exact recordMediaForwardSummary_fixed ControlState.pending_remote_input
        (fun _ _ => rfl) _ _ _ _ _ _
  | envelope i clock envelope =>
      cases hauth : system.control.authorizationError (system.sessions i) envelope.message with
      | some error =>
          have hreply := reply_of_unauthorized hauth clock
          refine idle_step ?_ (survives_of_eq ?_) hafter
          · rw [inputShown, hreply]
            exact shownBy_error _ _ _ _
          · rw [step, hreply]
      | none =>
          have hreply := reply_of_authorized hauth clock
          by_cases hmoves : movesInput envelope.message = false
          · refine idle_step (shownBy_of_not_moves hmoves) ?_ hafter
            rw [step, hreply]
            exact handleMessage_survives hrooms _ clock hmoves
          · rw [step, inputShown, hreply]
            cases hmessage : envelope.message with
            | sendRemoteInput input => exact sendRemoteInput_step hinv i clock input
            | pollRemoteInput poll => exact pollRemoteInput_step i clock poll
            | _ =>
                rw [hmessage] at hmoves
                exact absurd rfl hmoves

/-! ## What is accepted and what is returned -/

/-- The event is an envelope that sends the input to `s`, from a session of the input's sender,
who may send it. -/
def SentBy (s : StreamId) (system : ControlSystem) (event : ControlEvent)
    (input : RemoteInputEvent) : Prop :=
  ∃ (i : Nat) (clock : Clock) (envelope : ClientEnvelope) (request : SendRemoteInput)
    (room : Room) (stream : PublishedStream),
    event = .envelope i clock envelope ∧ envelope.message = .sendRemoteInput request ∧
      request.stream_id = s ∧ (system.sessions i).user_id = some input.sender_user_id ∧
        MaySend system.control input.sender_user_id request.room_id s room stream

theorem shownBy_eq_pushed {session : Session} {clock : Clock} {message : ClientControl}
    {answer : ServerControl} {input : RemoteInputEvent} {dropped : Nat}
    (h : shownBy s session clock message answer = .pushed input dropped) :
    ∃ (request : SendRemoteInput) (queued : RemoteInputQueued) (u : UserId)
      (kind : RemoteInputKind),
      message = .sendRemoteInput request ∧ answer = .remoteInputQueued queued ∧
        queued.stream_id = s ∧ session.user_id = some u ∧
          sanitizeRemoteInputKind request.kind = .ok kind ∧
            input = inputEvent u clock request kind := by
  unfold shownBy at h
  split at h
  · next request queued =>
      split at h
      · next hs =>
          split at h
          · next u kind huser hkind =>
              cases h
              exact ⟨request, queued, u, kind, rfl, rfl, hs, huser, hkind, rfl⟩
          · cases h
      · cases h
  · split at h <;> cases h
  · cases h

theorem shownBy_eq_taken {session : Session} {clock : Clock} {message : ClientControl}
    {answer : ServerControl} {events : List RemoteInputEvent}
    (h : shownBy s session clock message answer = .taken events) :
    ∃ (poll : PollRemoteInput) (batch : RemoteInputBatch),
      message = .pollRemoteInput poll ∧ answer = .remoteInputBatch batch ∧
        batch.stream_id = s ∧ batch.events = events := by
  unfold shownBy at h
  split at h
  · split at h
    · split at h <;> cases h
    · cases h
  · next poll batch =>
      split at h
      · next hs =>
          cases h
          exact ⟨poll, batch, rfl, rfl, hs, rfl⟩
      · cases h
  · cases h

/-- An answer that is no error comes from the handler. -/
theorem answer_of_reply {i : Nat} {clock : Clock} {envelope : ClientEnvelope}
    {answer : ServerControl} (h : (system.reply i clock envelope).response.message = answer)
    (hanswer : ∀ error, answer ≠ .error error) :
    (system.control.handleMessage (system.sessions i) clock envelope.message).message
      = answer := by
  cases hauth : system.control.authorizationError (system.sessions i) envelope.message with
  | some error =>
      rw [reply_of_unauthorized hauth clock] at h
      exact absurd h.symm (hanswer error)
  | none =>
      rw [reply_of_authorized hauth clock] at h
      exact h

theorem sent_of_pushed {event : ControlEvent} {input : RemoteInputEvent} {dropped : Nat}
    (h : inputShown s system event = .pushed input dropped) :
    SentBy s system event input ∧ CleanKind input.kind := by
  cases event with
  | disconnect u => cases h
  | recordForward packet summary bytes received route => cases h
  | envelope i clock envelope =>
      obtain ⟨request, queued, u, kind, hmessage, hanswer, hs, huser, hkind, rfl⟩ :=
        shownBy_eq_pushed h
      have hqueued := answer_of_reply hanswer nofun
      rw [hmessage] at hqueued
      have hhandler : (system.control.sendRemoteInput (system.sessions i) clock request).2
          = .remoteInputQueued queued := hqueued
      rcases sendRemoteInput_cases system.control (system.sessions i) clock request with
        ⟨error, heq⟩ | ⟨v, room, stream, kind', hv, hmay, hkind', heq⟩
      · rw [heq] at hhandler
        cases hhandler
      · rw [heq] at hhandler
        obtain rfl := Option.some.inj (huser.symm.trans hv)
        obtain rfl : request.stream_id = s := by
          cases hhandler
          exact hs
        exact ⟨⟨i, clock, envelope, request, room, stream, rfl, hmessage, rfl, huser, hmay⟩,
          sanitizeRemoteInputKind_clean hkind⟩

/-- A returned batch is no larger than asked for, never larger than 64, and empty only when the
queue is. -/
theorem bounded_of_taken {event : ControlEvent} {events : List RemoteInputEvent}
    (h : inputShown s system event = .taken events) :
    ∃ (i : Nat) (clock : Clock) (envelope : ClientEnvelope) (poll : PollRemoteInput),
      event = .envelope i clock envelope ∧ envelope.message = .pollRemoteInput poll ∧
        events.length ≤ min (max poll.max_events 1) 64 ∧
          (events = [] → system.control.remoteInputQueue s = []) := by
  cases event with
  | disconnect u => cases h
  | recordForward packet summary bytes received route => cases h
  | envelope i clock envelope =>
      obtain ⟨poll, batch, hmessage, hanswer, hs, rfl⟩ := shownBy_eq_taken h
      have hbatch := answer_of_reply hanswer nofun
      rw [hmessage] at hbatch
      have hhandler : (system.control.pollRemoteInput (system.sessions i) poll).2
          = .remoteInputBatch batch := hbatch
      refine ⟨i, clock, envelope, poll, rfl, hmessage, ?_⟩
      rcases pollRemoteInput_cases system.control (system.sessions i) poll with
        ⟨error, heq⟩ | ⟨hpublished, heq⟩
      · rw [heq] at hhandler
        cases hhandler
      · rw [heq] at hhandler
        cases hhandler
        obtain rfl : poll.stream_id = s := hs
        refine ⟨List.length_take_le _ _, fun hempty => ?_⟩
        rcases List.take_eq_nil_iff.mp hempty with hzero | hnil
        · omega
        · exact hnil

/-- What one event of the relay does to the queue of `s` and shows of it. -/
structure InputContract (s : StreamId) (system : ControlSystem) (event : ControlEvent) : Prop where
  /-- The queue takes one step: an event is dropped only when 256 are queued, it is the oldest,
  and the answer reports it. -/
  queue : Step 256 (system.control.remoteInputQueue s) (inputShown s system event)
    ((system.step event).control.remoteInputQueue s)
  sent : ∀ (input : RemoteInputEvent) (dropped : Nat),
    inputShown s system event = .pushed input dropped →
      SentBy s system event input ∧ CleanKind input.kind
  batch : ∀ events : List RemoteInputEvent, inputShown s system event = .taken events →
    ∃ (i : Nat) (clock : Clock) (envelope : ClientEnvelope) (poll : PollRemoteInput),
      event = .envelope i clock envelope ∧ envelope.message = .pollRemoteInput poll ∧
        events.length ≤ min (max poll.max_events 1) 64 ∧
          (events = [] → system.control.remoteInputQueue s = [])

/-! ## A whole publication -/

/-- The event leaves `s` published. -/
def StaysPublished (s : StreamId) (system : ControlSystem) (event : ControlEvent) : Prop :=
  (system.step event).control.Published s

instance (s : StreamId) (system : ControlSystem) (event : ControlEvent) :
    Decidable (StaysPublished s system event) :=
  inferInstanceAs (Decidable ((system.step event).control.Published s))

/-- The events of a run, as operations on the queue. -/
theorem inputTrace_trace (hsystem : system.Reachable) {events : List ControlEvent}
    (hevents : Meets step (StaysPublished s) system events) :
    Trace maxRemoteInputQueueEvents (system.control.remoteInputQueue s)
      (inputTrace s system events) ((run step system events).control.remoteInputQueue s) := by
  induction events generalizing system with
  | nil => exact .nil _
  | cons event events ih =>
      have hfirst := step_input (reachable_roomInvariant hsystem) hevents.1
      exact .cons hfirst (ih (hsystem.after event) hevents.2)

/-- Every entry of the trace is the show of one event of the run. -/
theorem mem_pushedAll_inputTrace {events : List ControlEvent} {input : RemoteInputEvent}
    (h : input ∈ pushedAll (inputTrace s system events)) :
    ∃ (before : List ControlEvent) (event : ControlEvent) (after : List ControlEvent)
      (dropped : Nat), events = before ++ event :: after ∧
        inputShown s (run step system before) event = .pushed input dropped := by
  induction events generalizing system with
  | nil => cases h
  | cons event events ih =>
      have hsplit : input ∈ (inputShown s system event).pushedEntries ++
          pushedAll (inputTrace s (system.step event) events) := h
      rcases List.mem_append.mp hsplit with hfirst | hrest
      · cases hshown : inputShown s system event with
        | pushed a dropped =>
            rw [hshown] at hfirst
            obtain rfl := List.mem_singleton.mp hfirst
            exact ⟨[], event, events, dropped, rfl, hshown⟩
        | taken batch =>
            rw [hshown] at hfirst
            cases hfirst
        | idle =>
            rw [hshown] at hfirst
            cases hfirst
      · obtain ⟨before, event', after, dropped, rfl, hshown⟩ := ih hrest
        exact ⟨event :: before, event', after, dropped, rfl, hshown⟩

/-- Nothing is shown of the queue of a stream that is not published. -/
theorem remoteInputQueue_of_fresh (hsystem : system.Reachable)
    (hfresh : ¬ system.control.Published s) {publish : ControlEvent}
    (hpublish : (system.step publish).control.Published s) :
    (system.step publish).control.remoteInputQueue s = [] := by
  have hinv := reachable_roomInvariant hsystem
  have hempty := hinv.remoteInputQueue_of_not_published hfresh
  refine (step_input hinv hpublish).eq_nil hempty ?_
  cases hshown : inputShown s system publish with
  | pushed input dropped =>
      -- whoever sends to the stream finds it published
      obtain ⟨⟨i, clock, envelope, request, room, stream, -, -, -, -, hmay⟩, -⟩ :=
        sent_of_pushed hshown
      exact absurd ⟨request.room_id, stream, room, hmay.in_room, hmay.published⟩ hfresh
  | taken batch => rfl
  | idle => rfl

/-- From the publication of a stream on, whatever the sessions do while it stays published: the
polled batches and the events still queued are the accepted events in the order they were
accepted, less the dropped ones, of which the answers to the senders report as many. Each event
of the relay meets its contract, and each event that is delivered or still queued comes from a
sender that was allowed to send it. -/
theorem remote_input_in_order (hsystem : system.Reachable) (hfresh : ¬ system.control.Published s)
    {publish : ControlEvent} (hpublish : (system.step publish).control.Published s)
    {events : List ControlEvent}
    (hevents : Meets step (StaysPublished s) (system.step publish) events) :
    (∃ fates : List (RemoteInputEvent × Bool),
      fates.map Prod.fst = pushedAll (inputTrace s (system.step publish) events) ∧
        kept fates = takenAll (inputTrace s (system.step publish) events) ++
          (run step (system.step publish) events).control.remoteInputQueue s ∧
        (dropped fates).length = droppedAll (inputTrace s (system.step publish) events)) ∧
    (∀ (before : List ControlEvent) (event : ControlEvent) (after : List ControlEvent),
      events = before ++ event :: after →
        InputContract s (run step (system.step publish) before) event) ∧
    ∀ input ∈ takenAll (inputTrace s (system.step publish) events) ++
        (run step (system.step publish) events).control.remoteInputQueue s,
      ∃ (before : List ControlEvent) (event : ControlEvent) (after : List ControlEvent),
        events = before ++ event :: after ∧
          SentBy s (run step (system.step publish) before) event input ∧
            CleanKind input.kind := by
  have hstart : (system.step publish).Reachable := hsystem.after publish
  have htrace := inputTrace_trace hstart hevents
  rw [remoteInputQueue_of_fresh hsystem hfresh hpublish] at htrace
  obtain ⟨fates, hfates, hkept, hdropped⟩ := htrace.account
  rw [List.nil_append] at hfates
  refine ⟨⟨fates, hfates, hkept, hdropped⟩, ?_, ?_⟩
  · rintro before event after rfl
    obtain ⟨hbefore, hrest⟩ := Meets.append_iff.mp hevents
    have hreached : (run step (system.step publish) before).Reachable :=
      Meets.induction (P := fun system => system.Reachable)
        (fun _ event _ hreached => hreached.after event) hstart hbefore
    exact ⟨step_input (reachable_roomInvariant hreached) hrest.1,
      fun _ _ => sent_of_pushed, fun _ => bounded_of_taken⟩
  · intro input hinput
    have haccepted : input ∈ pushedAll (inputTrace s (system.step publish) events) := by
      rw [← hkept, kept, List.mem_map] at hinput
      obtain ⟨fate, hfate, rfl⟩ := hinput
      rw [← hfates]
      exact List.mem_map_of_mem (List.mem_filter.mp hfate).1
    obtain ⟨before, event, after, count, hsplit, hshown⟩ := mem_pushedAll_inputTrace haccepted
    exact ⟨before, event, after, hsplit, sent_of_pushed hshown⟩

/-- Two users in a room, before the first publishes its screen. -/
def meetingRun : List ControlEvent :=
  [.ask 0 (.hello ⟨protocolVersion, "host"⟩), .ask 0 (.createRoom ⟨"room"⟩),
    .ask 1 (.hello ⟨protocolVersion, "viewer"⟩), .ask 1 (.joinRoom ⟨1⟩)]

/-- The viewer types a letter after the subscription, and the publisher polls. -/
def typingRun : List ControlEvent :=
  [.ask 1 (.subscribeStream ⟨1, 7⟩), .ask 1 (.sendRemoteInput ⟨1, 7, 1, 5, .text "a"⟩),
    .ask 0 (.pollRemoteInput ⟨1, 7, 0⟩)]

theorem remote_input_in_order_typing :
    takenAll (inputTrace 7 ((run step (start .new) meetingRun).step
        (.ask 0 (.publishStream ⟨1, 7, .h264, .screen⟩))) typingRun) =
      [⟨2, 1, 5, .text "a"⟩] ∧
    ∃ fates : List (RemoteInputEvent × Bool), fates.map Prod.fst = [⟨2, 1, 5, .text "a"⟩] ∧
      (dropped fates).length = 0 := by
  have hsystem : (run step (start .new) meetingRun).Reachable :=
    ⟨start .new, meetingRun, ⟨.new, .new, rfl⟩, rfl⟩
  have hfresh : ¬ (run step (start .new) meetingRun).control.Published 7 := by decide +kernel
  have hpublish : ((run step (start .new) meetingRun).step
      (.ask 0 (.publishStream ⟨1, 7, .h264, .screen⟩))).control.Published 7 := by decide +kernel
  have hevents : Meets step (StaysPublished 7) ((run step (start .new) meetingRun).step
      (.ask 0 (.publishStream ⟨1, 7, .h264, .screen⟩))) typingRun := by decide +kernel
  obtain ⟨⟨fates, hfates, -, hdropped⟩, -⟩ :=
    remote_input_in_order hsystem hfresh hpublish hevents
  refine ⟨by decide +kernel, fates, ?_, ?_⟩
  · rw [hfates]
    decide +kernel
  · rw [hdropped]
    decide +kernel

end ControlSystem

end TeamView.Relay
