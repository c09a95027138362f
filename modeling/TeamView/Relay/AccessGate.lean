import TeamView.Relay.Identity
import TeamView.Relay.Runtime

set_option autoImplicit false

/-! # The access-token gate

With an access token, a session is granted access by one request only: an `Authenticate` with
that token, once the session has said hello. The invariant ties the two facts a session carries,
its user and its grant, to the requests it has sent (`Gate`). Both places that ask for the grant,
the control dispatcher and the datagram handler, then refuse a session that never sent the token.
-/

namespace TeamView.Relay

open TeamView.Protocol Runs

/-! ## What a session has sent -/

/-- Session `i` sends a `Hello` of the version that the relay speaks. -/
def RuntimeEvent.SaysHello (i : Nat) : RuntimeEvent → Prop
  | .envelope j _ request =>
      j = i ∧ ∃ hello, request.message = .hello hello ∧ hello.protocol_version = protocolVersion
  | _ => False

def RuntimeEvent.SendsToken (token : String) (i : Nat) : RuntimeEvent → Prop
  | .envelope j _ request => j = i ∧ request.message = .authenticate ⟨token⟩
  | _ => False

/-- Session `i` has sent `Authenticate` with the token after a `Hello`. -/
def SentTokenAfterHello (token : String) (i : Nat) (events : List RuntimeEvent) : Prop :=
  ∃ before event after, events = before ++ event :: after ∧ event.SendsToken token i ∧
    ∃ earlier ∈ before, earlier.SaysHello i

theorem SentTokenAfterHello.snoc {token : String} {i : Nat} {events : List RuntimeEvent}
    (h : SentTokenAfterHello token i events) (event : RuntimeEvent) :
    SentTokenAfterHello token i (events ++ [event]) := by
  obtain ⟨before, sent, after, rfl, hsent, hhello⟩ := h
  exact ⟨before, sent, after ++ [event], by simp, hsent, hhello⟩

namespace RelayRuntime

open ControlState

/-- What the events so far say about the sessions. -/
structure Gate (token : String) (events : List RuntimeEvent) (runtime : RelayRuntime) : Prop where
  token_set : runtime.system.control.access_token = some token
  said_hello : ∀ i, (runtime.system.sessions i).user_id ≠ none → ∃ e ∈ events, e.SaysHello i
  sent_token : ∀ i, (runtime.system.sessions i).access_granted = true →
    SentTokenAfterHello token i events

/-- An event that leaves the sessions and the token as they are keeps the gate. -/
theorem Gate.of_eq {token : String} {events : List RuntimeEvent} {runtime runtime' : RelayRuntime}
    (h : Gate token events runtime) (event : RuntimeEvent)
    (hsessions : runtime'.system.sessions = runtime.system.sessions)
    (htoken : runtime'.system.control.access_token = runtime.system.control.access_token) :
    Gate token (events ++ [event]) runtime' where
  token_set := htoken.trans h.token_set
  said_hello i hi := by
    rw [hsessions] at hi
    obtain ⟨e, he, hhello⟩ := h.said_hello i hi
    exact ⟨e, List.mem_append_left _ he, hhello⟩
  sent_token i hi := by
    rw [hsessions] at hi
    exact (h.sent_token i hi).snoc event

theorem Gate.envelope {token : String} {events : List RuntimeEvent} {runtime : RelayRuntime}
    (h : Gate token events runtime) (i : Nat) (clock : Clock) (envelope : ClientEnvelope) :
    Gate token (events ++ [.envelope i clock envelope])
      (runtime.step (.envelope i clock envelope)) := by
  -- the session of another index is as before, and keeps what it had sent
  have hother : ∀ j, j ≠ i →
      ((runtime.step (.envelope i clock envelope)).system.sessions j)
        = runtime.system.sessions j :=
    fun j hj => Function.update_of_ne hj _ _
  have hself : (runtime.step (.envelope i clock envelope)).system.sessions i
      = (runtime.system.reply i clock envelope).session := Function.update_self _ _ _
  have hupdate := handleClientEnvelope_session runtime.system.control
    (runtime.system.sessions i) clock envelope
  have hlast : RuntimeEvent.envelope i clock envelope
      ∈ events ++ [RuntimeEvent.envelope i clock envelope] :=
    List.mem_append_right _ (List.mem_singleton_self _)
  have hearlier : (runtime.system.sessions i).user_id ≠ none →
      ∃ e ∈ events ++ [RuntimeEvent.envelope i clock envelope], e.SaysHello i := by
    intro hi
    obtain ⟨e, he, hhello⟩ := h.said_hello i hi
    exact ⟨e, List.mem_append_left _ he, hhello⟩
  refine ⟨?_, ?_, ?_⟩
  · exact (ControlSystem.step_settings runtime.system (.envelope i clock envelope)).2.trans
      h.token_set
  · intro j hj
    by_cases hji : j = i
    · subst hji
      rw [hself, ControlSystem.reply] at hj
      generalize hmessage : envelope.message = message at hupdate
      generalize (runtime.system.control.handleClientEnvelope (runtime.system.sessions j) clock
        envelope).session = session' at hupdate hj
      -- a session gets its user by a `Hello` with the right version
      cases hupdate with
      | kept => exact hearlier hj
      | identified hello name hversion huser =>
          exact ⟨_, hlast, rfl, hello, hmessage, hversion⟩
      | renamed hello name hversion huser => exact ⟨_, hlast, rfl, hello, hmessage, hversion⟩
      | granted authenticate huser htoken => exact hearlier huser
    · rw [hother j hji] at hj
      obtain ⟨e, he, hhello⟩ := h.said_hello j hj
      exact ⟨e, List.mem_append_left _ he, hhello⟩
  · intro j hj
    by_cases hji : j = i
    · subst hji
      rw [hself, ControlSystem.reply] at hj
      generalize hmessage : envelope.message = message at hupdate
      generalize (runtime.system.control.handleClientEnvelope (runtime.system.sessions j) clock
        envelope).session = session' at hupdate hj
      -- and it is authorized by the token, since one is required
      cases hupdate with
      | kept => exact (h.sent_token j hj).snoc _
      | identified hello name hversion huser =>
          rw [Session.establishIdentity, requiresAccessToken, h.token_set] at hj
          cases hj
      | renamed hello name hversion huser => exact (h.sent_token j hj).snoc _
      | granted authenticate huser htoken =>
          have htoken : authenticate.token = token := htoken token h.token_set
          have hsent : envelope.message = .authenticate ⟨token⟩ := by
            rw [hmessage, ← htoken]
          exact ⟨events, _, [], rfl, ⟨rfl, hsent⟩, h.said_hello j huser⟩
    · rw [hother j hji] at hj
      exact (h.sent_token j hj).snoc _

theorem Gate.step {token : String} {events : List RuntimeEvent} {runtime : RelayRuntime}
    (h : Gate token events runtime) (event : RuntimeEvent) :
    Gate token (events ++ [event]) (runtime.step event) := by
  cases event with
  | envelope i clock envelope => exact h.envelope i clock envelope
  | datagram i bytes received now =>
      rcases runtime.handleMediaDatagram_system (runtime.system.sessions i) bytes received now with
        hsame | ⟨packet, summary, size, time, route, hstep⟩
      · refine h.of_eq _ ?_ ?_
        · exact congrArg ControlSystem.sessions hsame
        · exact congrArg (fun system => system.control.access_token) hsame
      · refine h.of_eq _ ?_ ?_
        · exact (congrArg ControlSystem.sessions hstep).trans rfl
        · refine (congrArg (fun system => system.control.access_token) hstep).trans ?_
          exact (runtime.system.step_settings _).2
  | disconnect u => exact h.of_eq _ rfl (runtime.system.step_settings (.disconnect u)).2
  | register u => exact h.of_eq _ rfl rfl
  | unregister u => exact h.of_eq _ rfl rfl
  | recv u => exact h.of_eq _ rfl rfl
  | release u => exact h.of_eq _ rfl rfl

/-- A control state built with the access token. -/
def BuiltWithToken (token : String) (control : ControlState) : Prop :=
  control = .withAccessToken token ∨ ∃ limits, control = .withAccessTokenAndLimits token limits

theorem gate_start {token : String} {control : ControlState} (hbuilt : BuiltWithToken token control)
    (media : MediaRelay) (max_datagram_payload : Nat) :
    Gate token [] (start control media max_datagram_payload) where
  token_set := by
    rcases hbuilt with rfl | ⟨limits, rfl⟩ <;> rfl
  said_hello i hi := absurd rfl hi
  sent_token i hi := by cases hi

theorem gate_run {token : String} {runtime : RelayRuntime} (h : Gate token [] runtime)
    (events : List RuntimeEvent) : Gate token events (run step runtime events) := by
  induction events using List.reverseRecOn with
  | nil => exact h
  | append_singleton events event ih =>
      rw [run_snoc]
      exact ih.step event

/-! ## What the gate refuses -/

/-- A session without access gets an error for every gated request, and changes nothing. -/
theorem gated_refused {state : ControlState} {session : Session} {token : String}
    (htoken : state.access_token = some token) (hgranted : session.access_granted = false)
    {envelope : ClientEnvelope} (hgate : ungated envelope.message = false) (clock : Clock) :
    (∃ error, (state.handleClientEnvelope session clock envelope).response.message
        = .error error) ∧
      (state.handleClientEnvelope session clock envelope).state = state ∧
      (state.handleClientEnvelope session clock envelope).session = session := by
  have herror : ∃ error, state.authorizationError session envelope.message = some error := by
    rw [authorizationError_gated hgate, requiresAccessToken, htoken, hgranted]
    cases session.user_id with
    | none => exact ⟨_, rfl⟩
    | some u => exact ⟨_, rfl⟩
  obtain ⟨error, herror⟩ := herror
  unfold handleClientEnvelope
  rw [herror]
  exact ⟨⟨error, rfl⟩, rfl, rfl⟩

theorem datagram_refused {session : Session} (hgranted : session.access_granted = false)
    (runtime : RelayRuntime) (bytes : List UInt8) (received : UInt64) (now : Nat) :
    runtime.handleMediaDatagram session bytes received now = runtime := by
  unfold handleMediaDatagram
  split
  · rfl
  · split <;> rfl

/-- Whatever the sessions of a relay with an access token have done, a session that never sent
that token after a hello has no access: its requests are refused without effect, apart from the
four that need no access, and so are its datagrams. -/
theorem no_access_without_token {token : String} {control : ControlState}
    (hbuilt : BuiltWithToken token control) (media : MediaRelay) (max_datagram_payload : Nat)
    (events : List RuntimeEvent) {i : Nat} (hnever : ¬ SentTokenAfterHello token i events) :
    ((run step (start control media max_datagram_payload) events).system.sessions
        i).access_granted = false ∧
    (∀ (clock : Clock) (envelope : ClientEnvelope), ungated envelope.message = false →
      (∃ error, ((run step (start control media max_datagram_payload) events).system.reply
          i clock envelope).response.message = .error error) ∧
      (run step (start control media max_datagram_payload)
          (events ++ [.envelope i clock envelope])).system.control =
        (run step (start control media max_datagram_payload) events).system.control) ∧
    (∀ (bytes : List UInt8) (received_at_micros : UInt64) (now : Nat),
      run step (start control media max_datagram_payload)
          (events ++ [.datagram i bytes received_at_micros now]) =
        run step (start control media max_datagram_payload) events) := by
  have hgate := gate_run (gate_start hbuilt media max_datagram_payload) events
  have hgranted : ((run step (start control media max_datagram_payload) events).system.sessions
      i).access_granted = false :=
    Bool.eq_false_iff.mpr fun hi => hnever (hgate.sent_token i hi)
  refine ⟨hgranted, fun clock envelope hclosed => ?_, fun bytes received now => ?_⟩
  · obtain ⟨herror, hstate, -⟩ := gated_refused hgate.token_set hgranted hclosed clock
    refine ⟨herror, ?_⟩
    rw [run_snoc]
    exact hstate
  · rw [run_snoc]
    exact datagram_refused hgranted _ bytes received now

/-- A session that says hello and then guesses a token. -/
def guessingRun : List RuntimeEvent :=
  [.envelope 0 ⟨0, 0⟩ (.new 0 (.hello ⟨protocolVersion, "guest"⟩)),
    .envelope 0 ⟨0, 0⟩ (.new 1 (.authenticate ⟨"guess"⟩))]

theorem no_access_without_token_guessing :
    ((run step (start (.withAccessToken "secret") .new defaultDatagramPayloadTarget)
        guessingRun).system.sessions 0).access_granted = false ∧
      ∀ (bytes : List UInt8) (received_at_micros : UInt64) (now : Nat),
        run step (start (.withAccessToken "secret") .new defaultDatagramPayloadTarget)
            (guessingRun ++ [.datagram 0 bytes received_at_micros now]) =
          run step (start (.withAccessToken "secret") .new defaultDatagramPayloadTarget)
            guessingRun := by
  have hnever : ¬ SentTokenAfterHello "secret" 0 guessingRun := by
    rintro ⟨before, event, after, hsplit, hsent, -⟩
    have hmem : event ∈ guessingRun := by
      rw [hsplit]
      exact List.mem_append_right _ (List.mem_cons_self ..)
    rcases List.mem_cons.mp hmem with rfl | hmem
    · cases hsent.2
    · rcases List.mem_singleton.mp hmem with rfl
      have htoken : ("guess" : String) = "secret" := by injection hsent.2 with h; injection h
      exact absurd htoken (by decide)
  have h := no_access_without_token (.inl rfl) .new defaultDatagramPayloadTarget guessingRun hnever
  exact ⟨h.1, h.2.2⟩

end RelayRuntime

end TeamView.Relay
