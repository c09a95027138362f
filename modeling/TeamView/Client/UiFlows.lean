import TeamView.Client.UiServer
import TeamView.Relay.Screens

set_option autoImplicit false

/-! # What the flows of the UI server keep

A request either reaches the relay or not, and others act before it. A property of the relay that
both the others and the request keep is kept by sending the request, whatever becomes of it
(`keeps_send`), and the server's own state is not touched (`Standing`). The flows that only send
requests inherit this from the requests that they send.
-/

namespace TeamView.Client

open TeamView.Protocol TeamView.Relay TeamView.Relay.ControlState BTree Runs Flows

/-! ## The connection -/

/-- The client is user `u`, over session `i` of a relay that is in order. -/
structure Connected (i : Nat) (u : UserId) (link : ControlLink) : Prop where
  session : link.session = i
  reachable : link.system.Reachable
  user : (link.system.sessions i).user_id = some u

variable {link : ControlLink} {i : Nat} {u : UserId} {message : ClientControl}

theorem Connected.step (h : Connected i u link) (event : ControlEvent) :
    Connected i u { link with system := link.system.step event } where
  session := h.session
  reachable := h.reachable.after event
  user := ControlSystem.step_user event h.user

theorem Connected.waited (h : Connected i u link) (others : List ControlEvent) :
    Connected i u (link.waited others) := by
  refine run_induction ControlSystem.step (P := fun system => Connected i u { link with system })
    ?_ h others
  intro system event hsystem
  exact hsystem.step event

theorem Connected.send (h : Connected i u link) (message : ClientControl) :
    Connected i u (link.send message).1 := by
  have hstep := h.step (.envelope link.session link.clock (.new link.next_request_id message))
  exact ⟨h.session, hstep.reachable, hstep.user⟩

/-- The client is past the gate of the relay. -/
def ControlLink.Authorized (link : ControlLink) (u : UserId) : Prop :=
  link.system.control.Authorized (link.system.sessions link.session) u

theorem ControlLink.Authorized.step (hauth : link.Authorized u) (event : ControlEvent) :
    ControlLink.Authorized { link with system := link.system.step event } u :=
  ControlSystem.step_authorized event hauth

theorem ControlLink.Authorized.send (hauth : link.Authorized u) (message : ClientControl) :
    (link.send message).1.Authorized u :=
  hauth.step (.envelope link.session link.clock (.new link.next_request_id message))

/-- The relay handles the requests of a client that is past the gate. -/
theorem ControlLink.Authorized.served (hauth : link.Authorized u) (message : ClientControl) :
    (link.send message).1.system.control
        = (link.system.control.handleMessage (link.system.sessions link.session) link.clock
            message).state ∧
      (link.send message).2
        = (link.system.control.handleMessage (link.system.sessions link.session) link.clock
            message).message := by
  have hserved := ControlLink.send_eq (authorizationError_of_authorized hauth message)
  exact ⟨hserved.1, hserved.2.2⟩

/-- A request is refused for want of access, or handled. -/
theorem Connected.send_cases (h : Connected i u link) (hgate : ungated message = false) :
    ((link.send message).1.system.control = link.system.control ∧
        ∃ error, (link.send message).2 = .error error) ∨ link.Authorized u := by
  cases hauth : link.system.control.authorizationError (link.system.sessions link.session)
      message with
  | some error =>
      left
      have hreply := @ControlSystem.reply_of_unauthorized link.system link.session
        (.new link.next_request_id message) error hauth link.clock
      unfold ControlLink.send ControlSystem.step
      simp only
      rw [hreply]
      exact ⟨rfl, error, rfl⟩
  | none =>
      right
      obtain ⟨v, hv⟩ := authorized_of_gated hgate hauth
      have huser := h.user
      rw [← h.session, hv.1] at huser
      exact Option.some.inj huser ▸ hv

/-- An answer other than an error shows that the client is past the gate. -/
theorem Connected.authorized_of_answer (h : Connected i u link) (hgate : ungated message = false)
    (hanswer : ∀ error, (link.send message).2 ≠ .error error) : link.Authorized u := by
  rcases h.send_cases hgate with ⟨-, error, herror⟩ | hauth
  · exact absurd herror (hanswer error)
  · exact hauth

/-! ## Moving between rooms -/

theorem ControlLink.Authorized.listRooms (hauth : link.Authorized u) :
    (link.send .listRooms).1.system.control = link.system.control ∧
      (link.send .listRooms).2 = .roomList link.system.control.listRooms :=
  hauth.served .listRooms

/-- A client with a place in the room joins it, and stays in every other one. -/
theorem Connected.join_of_place (h : Connected i u link) (hauth : link.Authorized u) {r : RoomId}
    (hplace : link.system.control.HasPlace r u) :
    (link.send (.joinRoom ⟨r⟩)).1.system.control.Participates r u ∧
      (∃ joined, (link.send (.joinRoom ⟨r⟩)).2 = .roomJoined joined) ∧
      ∀ a, a ≠ r → ((link.send (.joinRoom ⟨r⟩)).1.system.control.Participates a u ↔
        link.system.control.Participates a u) := by
  obtain ⟨hcontrol, hanswer⟩ := hauth.served (.joinRoom ⟨r⟩)
  rw [hcontrol, hanswer]
  exact joinRoom_of_place hplace (h.session.symm ▸ h.user)

theorem Connected.join_of_no_place (h : Connected i u link) {r : RoomId}
    (hplace : ¬ link.system.control.HasPlace r u) :
    (link.send (.joinRoom ⟨r⟩)).1.system.control = link.system.control ∧
      ∃ error, (link.send (.joinRoom ⟨r⟩)).2 = .error error := by
  rcases h.send_cases (show ungated (.joinRoom ⟨r⟩) = false from rfl) with hrefused | hauth
  · exact hrefused
  · obtain ⟨hcontrol, hanswer⟩ := hauth.served (.joinRoom ⟨r⟩)
    obtain ⟨error, hjoin⟩ := joinRoom_of_no_place hplace (h.session.symm ▸ h.user)
    refine ⟨hcontrol.trans ?_, error, hanswer.trans ?_⟩
    · rw [handleMessage, hjoin]
      rfl
    · rw [handleMessage, hjoin]
      rfl

theorem Connected.leave_participates (h : Connected i u link) (hauth : link.Authorized u)
    (r a : RoomId) :
    (link.send (.leaveRoom ⟨r⟩)).1.system.control.Participates a u ↔
      link.system.control.Participates a u ∧ a ≠ r := by
  have huser : (link.system.sessions link.session).user_id = some u := h.session.symm ▸ h.user
  have hleave : (link.send (.leaveRoom ⟨r⟩)).1.system.control
      = link.system.control.leaveRoom u r := by
    rw [(hauth.served (.leaveRoom ⟨r⟩)).1, handleMessage, leave, huser]
    rfl
  rw [hleave, leaveRoom_participates]
  simp only [and_true]

theorem Connected.setVoiceState_rooms (h : Connected i u link) (voice : SetVoiceState) :
    (link.send (.setVoiceState voice)).1.system.control.rooms = link.system.control.rooms := by
  rcases h.send_cases (show ungated (.setVoiceState voice) = false from rfl) with
    ⟨hsame, -⟩ | hauth
  · rw [hsame]
  · rw [(hauth.served _).1]
    exact ControlState.setVoiceState_rooms _ _ voice

theorem Connected.setVoiceState_answer (h : Connected i u link) (hauth : link.Authorized u)
    {voice : SetVoiceState} (hin : link.system.control.Participates voice.room_id u) :
    ∃ voice_state, (link.send (.setVoiceState voice)).2 = .voiceStateUpdated voice_state := by
  rw [(hauth.served _).2]
  exact ControlState.setVoiceState_answer hin (h.session.symm ▸ h.user) rfl

/-! ## Showing a screen -/

/-- A request shows nothing new but the screen that it publishes. -/
theorem Connected.send_shows {r : RoomId} {s : StreamId}
    (hshows : (link.send message).1.system.control.ShowsScreen u r s) :
    link.system.control.ShowsScreen u r s ∨
      ∃ publish, message = .publishStream publish ∧ publish.media_kind = .screen ∧
        r = publish.room_id ∧ s = publish.stream_id := by
  rcases handleClientEnvelope_shows hshows with hold | ⟨publish, hmessage, -, hkind, hplace⟩
  · exact .inl hold
  · exact .inr ⟨publish, hmessage, hkind, hplace⟩

theorem Connected.authorized_of_participates (h : Connected i u link) {r : RoomId}
    (hin : link.system.control.Participates r u) : link.Authorized u := by
  have hauth := ControlSystem.authorized_of_participates h.reachable h.user hin
  rw [← h.session] at hauth
  exact hauth

/-- Whoever shows a screen is past the gate. -/
theorem Connected.authorized_of_shows (h : Connected i u link) {r : RoomId} {s : StreamId}
    (hshows : link.system.control.ShowsScreen u r s) : link.Authorized u :=
  h.authorized_of_participates
    (hshows.participates (ControlSystem.reachable_roomInvariant h.reachable))

/-- Leaving a room takes the screens in it away. -/
theorem Connected.leave_shows (h : Connected i u link) {a r : RoomId} {s : StreamId}
    (hshows : (link.send (.leaveRoom ⟨a⟩)).1.system.control.ShowsScreen u r s) :
    link.system.control.ShowsScreen u r s ∧ r ≠ a := by
  have hbefore : link.system.control.ShowsScreen u r s := by
    rcases send_shows hshows with hold | ⟨publish, hmessage, -⟩
    · exact hold
    · cases hmessage
  have huser : (link.system.sessions link.session).user_id = some u := h.session.symm ▸ h.user
  have hleave : (link.send (.leaveRoom ⟨a⟩)).1.system.control
      = link.system.control.leaveRoom u a := by
    rw [((h.authorized_of_shows hbefore).served (.leaveRoom ⟨a⟩)).1, handleMessage, leave, huser]
    rfl
  rw [hleave] at hshows
  exact ⟨hbefore, fun heq => (leaveRoom_owner hshows).2 ⟨heq, rfl⟩⟩

/-- Unpublishing a stream takes it away. -/
theorem Connected.unpublish_shows (h : Connected i u link) {a r : RoomId} {t s : StreamId}
    (hshows : (link.send (.unpublishStream ⟨a, t⟩)).1.system.control.ShowsScreen u r s) :
    link.system.control.ShowsScreen u r s ∧ ¬ (r = a ∧ s = t) := by
  have hbefore : link.system.control.ShowsScreen u r s := by
    rcases send_shows hshows with hold | ⟨publish, hmessage, -⟩
    · exact hold
    · cases hmessage
  have huser : (link.system.sessions link.session).user_id = some u := h.session.symm ▸ h.user
  have hunpublish := ((h.authorized_of_shows hbefore).served (.unpublishStream ⟨a, t⟩)).1
  rw [hunpublish] at hshows
  exact ⟨hbefore, fun hgone => (unpublishStream_owner hshows).2 ⟨hgone.1, hgone.2, huser⟩⟩

theorem Connected.unpublish_answer (h : Connected i u link) (hauth : link.Authorized u)
    (a : RoomId) (t : StreamId) :
    (link.send (.unpublishStream ⟨a, t⟩)).2 = .streamUnpublished ⟨a, t⟩ ∨
      ∃ error, (link.send (.unpublishStream ⟨a, t⟩)).2 = .error error ∧
        error.code ∈ ["stream_not_found", "room_not_found", "not_publisher"] := by
  rw [(hauth.served _).2]
  exact unpublishStream_answer (h.session.symm ▸ h.user) ⟨a, t⟩

/-! ## Sending -/

namespace UiServer

variable {w : UiWorld} {round : Round} {rounds : List Round} {message : ClientControl}

/-- The next request reaches the relay. -/
def Reaches (w : UiWorld) : Prop :=
  ∃ round rounds, w.rounds = round :: rounds ∧ round.fate ≠ .requestLost

theorem exec_send_gone (h : w.rounds = []) (message : ClientControl) :
    exec (send message) w = (.error "failed to open control stream", w) := by
  unfold send
  rw [exec_bind_ok (exec_get w), h]
  rfl

theorem exec_send_requestLost (h : w.rounds = round :: rounds) (hfate : round.fate = .requestLost)
    (message : ClientControl) :
    exec (send message) w = (.error "failed to open control stream",
      { w with link := w.link.waited round.others, rounds }) := by
  unfold send
  rw [exec_bind_ok (exec_get w), h]
  simp only [hfate]
  rfl

theorem exec_send_answerLost (h : w.rounds = round :: rounds) (hfate : round.fate = .answerLost)
    (message : ClientControl) :
    exec (send message) w = (.error "timed out waiting for control response",
      { w with link := ((w.link.waited round.others).send message).1, rounds }) := by
  unfold send
  rw [exec_bind_ok (exec_get w), h]
  simp only [hfate]
  rfl

theorem exec_send_answered (h : w.rounds = round :: rounds) (hfate : round.fate = .answered)
    (message : ClientControl) :
    exec (send message) w = (.ok ((w.link.waited round.others).send message).2,
      { w with link := ((w.link.waited round.others).send message).1, rounds }) := by
  unfold send
  rw [exec_bind_ok (exec_get w), h]
  simp only [hfate]
  rfl

/-- An answered request is the next round of the connection. -/
theorem exec_send_ok {answer : ServerControl} {w' : UiWorld}
    (h : exec (send message) w = (.ok answer, w')) :
    ∃ round rounds, w.rounds = round :: rounds ∧ round.fate = .answered ∧
      answer = ((w.link.waited round.others).send message).2 ∧
      w' = { w with link := ((w.link.waited round.others).send message).1, rounds } := by
  cases hrounds : w.rounds with
  | nil =>
      rw [exec_send_gone hrounds] at h
      cases h
  | cons round rounds =>
      cases hfate : round.fate with
      | requestLost =>
          rw [exec_send_requestLost hrounds hfate] at h
          cases h
      | answerLost =>
          rw [exec_send_answerLost hrounds hfate] at h
          cases h
      | answered =>
          rw [exec_send_answered hrounds hfate] at h
          obtain ⟨hanswer, hworld⟩ := Prod.mk.inj h
          exact ⟨round, rounds, rfl, hfate, (Except.ok.inj hanswer).symm, hworld.symm⟩

/-! ## What a request keeps -/

/-- The client is connected, the others keep to `E` in every round to come, and the relay and the
server are as `R` and `S` say. -/
structure Standing (E : ControlEvent → Prop) (i : Nat) (u : UserId) (R : ControlLink → Prop)
    (S : UiServerState → Prop) (w : UiWorld) : Prop where
  connected : Connected i u w.link
  fair : ∀ round ∈ w.rounds, ∀ event ∈ round.others, E event
  relay : R w.link
  server : S w.state

/-- The others keep the property `R` of the relay. -/
def KeptByOthers (E : ControlEvent → Prop) (i : Nat) (u : UserId) (R : ControlLink → Prop) :
    Prop :=
  ∀ link, Connected i u link → R link → ∀ event, E event →
    R { link with system := link.system.step event }

/-- The request keeps the property `R` of the relay. -/
def KeptByRequest (i : Nat) (u : UserId) (R : ControlLink → Prop) (message : ClientControl) :
    Prop :=
  ∀ link, Connected i u link → R link → R (link.send message).1

variable {E : ControlEvent → Prop} {i : Nat} {u : UserId} {R : ControlLink → Prop}
  {S : UiServerState → Prop}

theorem KeptByOthers.waited (hothers : KeptByOthers E i u R) {link : ControlLink}
    (h : Connected i u link) (hrelay : R link) {others : List ControlEvent}
    (hfair : ∀ event ∈ others, E event) : R (link.waited others) := by
  have hmeets : Meets ControlSystem.step (fun _ event => E event) link.system others :=
    Meets.of_forall hfair
  refine (hmeets.induction (P := fun system => Connected i u { link with system } ∧
    R { link with system }) ?_ ⟨h, hrelay⟩).2
  intro system event hevent hsystem
  exact ⟨hsystem.1.step event, hothers _ hsystem.1 hsystem.2 event hevent⟩

theorem Standing.waited (hothers : KeptByOthers E i u R) (h : Standing E i u R S w)
    (hrounds : w.rounds = round :: rounds) :
    Standing E i u R S { w with link := w.link.waited round.others, rounds } where
  connected := h.connected.waited round.others
  fair next hnext := h.fair next (hrounds ▸ List.mem_cons_of_mem round hnext)
  relay := hothers.waited h.connected h.relay (h.fair round (hrounds ▸ List.mem_cons_self))
  server := h.server

/-- What the others and the request keep is kept by sending it, whatever becomes of it. -/
theorem keeps_send (hothers : KeptByOthers E i u R) (hrequest : KeptByRequest i u R message) :
    Keeps (Standing E i u R S) (send message) := by
  intro w h
  cases hrounds : w.rounds with
  | nil =>
      rw [exec_send_gone hrounds]
      exact h
  | cons round rounds =>
      have hwaited := h.waited hothers hrounds
      have hserved : Standing E i u R S
          { w with link := ((w.link.waited round.others).send message).1, rounds } :=
        ⟨hwaited.connected.send message, hwaited.fair,
          hrequest _ hwaited.connected hwaited.relay, hwaited.server⟩
      cases hfate : round.fate with
      | requestLost =>
          rw [exec_send_requestLost hrounds hfate]
          exact hwaited
      | answerLost =>
          rw [exec_send_answerLost hrounds hfate]
          exact hserved
      | answered =>
          rw [exec_send_answered hrounds hfate]
          exact hserved

/-! ## Flows of one request -/

theorem keeps_listRooms (hothers : KeptByOthers E i u R)
    (hrequest : KeptByRequest i u R .listRooms) : Keeps (Standing E i u R S) listRooms := by
  refine (keeps_send hothers hrequest).bind ?_
  intro answer
  cases answer <;> first | exact Keeps.pure _ | exact Keeps.throw _

theorem keeps_joinRoom {r : RoomId} (hothers : KeptByOthers E i u R)
    (hrequest : KeptByRequest i u R (.joinRoom ⟨r⟩)) :
    Keeps (Standing E i u R S) (joinRoom r) := by
  refine (keeps_send hothers hrequest).bind ?_
  intro answer
  exact keeps_liftExcept _

theorem keeps_leaveRoom {r : RoomId} (hothers : KeptByOthers E i u R)
    (hrequest : KeptByRequest i u R (.leaveRoom ⟨r⟩)) :
    Keeps (Standing E i u R S) (leaveRoom r) := by
  refine (keeps_send hothers hrequest).bind ?_
  intro answer
  cases answer <;> first | exact Keeps.pure _ | exact Keeps.throw _

theorem keeps_setVoiceState {r : RoomId} {voice : VoiceControlState}
    (hothers : KeptByOthers E i u R)
    (hrequest : ∀ request, KeptByRequest i u R (.setVoiceState request)) :
    Keeps (Standing E i u R S) (setVoiceState r voice) := by
  refine (keeps_send hothers (hrequest _)).bind ?_
  intro answer
  cases answer <;> first | exact Keeps.pure _ | exact Keeps.throw _

theorem keeps_unpublishStreamForUi {r : RoomId} {s : StreamId} (hothers : KeptByOthers E i u R)
    (hrequest : KeptByRequest i u R (.unpublishStream ⟨r, s⟩)) :
    Keeps (Standing E i u R S) (unpublishStreamForUi r s) := by
  refine (keeps_send hothers hrequest).bind ?_
  intro answer
  cases answer <;>
    first
      | exact Keeps.throw _
      | (simp only
         split
         · exact Keeps.pure _
         · exact Keeps.throw _)

theorem exec_listRooms_ok {list : List RoomSummary} {w' : UiWorld}
    (h : exec listRooms w = (.ok list, w')) :
    ∃ answer, exec (send .listRooms) w = (.ok (.roomList answer), w') ∧ answer.rooms = list := by
  unfold listRooms at h
  obtain ⟨answer, w₁, hsend, hmatch⟩ := exec_bind_eq_ok_iff.mp h
  cases answer <;> cases hmatch
  exact ⟨_, hsend, rfl⟩

end UiServer

end TeamView.Client
