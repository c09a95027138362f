import TeamView.Lib.Runs
import TeamView.Relay.RoomInvariant

set_option autoImplicit false

/-! # Runs of the control plane

The relay holds one control state and one session for each connection. Whatever happens to the
control state is one of three events: an envelope of some session, the disconnect of a user, or
the record of a forwarded packet. Sessions are numbered, and a session that no event has named
is anonymous, so a run has as many sessions as its events name.
-/

namespace TeamView.Relay

open TeamView.Protocol BTree Runs Relation

inductive ControlEvent where
  | envelope (session : Nat) (clock : Clock) (envelope : ClientEnvelope)
  | disconnect (user_id : UserId)
  | recordForward (packet : MediaPacket) (summary : MediaForwardSummary)
      (ingress_bytes received_at_micros server_route_ms : Nat)

/-- A request of a session, at time zero. -/
def ControlEvent.ask (session : Nat) (message : ClientControl) : ControlEvent :=
  .envelope session ⟨0, 0⟩ (.new 0 message)

structure ControlSystem where
  control : ControlState
  sessions : Nat → Session

namespace ControlSystem

/-- The answer to an envelope of session `i`. -/
def reply (system : ControlSystem) (i : Nat) (clock : Clock) (envelope : ClientEnvelope) :
    ControlState.Reply :=
  system.control.handleClientEnvelope (system.sessions i) clock envelope

def step (system : ControlSystem) : ControlEvent → ControlSystem
  | .envelope i clock envelope =>
      { control := (system.reply i clock envelope).state
        sessions := Function.update system.sessions i (system.reply i clock envelope).session }
  | .disconnect user_id => { system with control := system.control.disconnectUser user_id }
  | .recordForward packet summary ingress_bytes received_at_micros server_route_ms =>
      { system with
        control := system.control.recordMediaForwardSummary packet summary ingress_bytes
          received_at_micros server_route_ms }

end ControlSystem

/-- A control state as one of the constructors builds it. -/
inductive ControlState.Initial : ControlState → Prop
  | new : Initial .new
  | withLimits (limits : ControlLimits) : Initial (.withLimits limits)
  | withAccessToken (access_token : String) : Initial (.withAccessToken access_token)
  | withAccessTokenAndLimits (access_token : String) (limits : ControlLimits) :
      Initial (.withAccessTokenAndLimits access_token limits)

namespace ControlSystem

def start (control : ControlState) : ControlSystem where
  control := control
  sessions := Session.anonymous

/-- A relay that has just started. -/
def Initial (system : ControlSystem) : Prop :=
  ∃ control : ControlState, control.Initial ∧ system = start control

def Reachable : ControlSystem → Prop := Runs.Reachable step Initial

end ControlSystem

/-- A control state that some run of the relay reaches. -/
def ControlState.Reachable (state : ControlState) : Prop :=
  ∃ system : ControlSystem, system.Reachable ∧ system.control = state

/-! ## What every event preserves -/

namespace ControlState

/-- An update leaves the limits and the access token as they are. -/
theorem update_settings {state state' : ControlState} {request : Option ClientControl} {u : UserId}
    (hupdate : Update request u state state') :
    state'.limits = state.limits ∧ state'.access_token = state.access_token := by
  cases hupdate with
  | left r =>
      obtain ⟨-, htoken, hlimits, -, -⟩ := leaveRoom_fixed state u r
      exact ⟨hlimits, htoken⟩
  | unpublished r room s stream hroom hstream hpublisher =>
      exact ⟨removeRoomIfEmpty_fixed ControlState.limits (fun _ _ _ => rfl) _ _,
        removeRoomIfEmpty_fixed ControlState.access_token (fun _ _ _ => rfl) _ _⟩
  | retargeted s b f w ht hpublisher =>
      exact ⟨updateStreamTarget_fixed ControlState.limits (fun _ _ => rfl) _ _ _ _ _ _,
        updateStreamTarget_fixed ControlState.access_token (fun _ _ => rfl) _ _ _ _ _ _⟩
  | inputPolled r room s stream n hroom hstream hpublisher =>
      exact ⟨drainRemoteInput_fixed ControlState.limits (fun _ _ => rfl) _ _ _,
        drainRemoteInput_fixed ControlState.access_token (fun _ _ => rfl) _ _ _⟩
  | _ => exact ⟨rfl, rfl⟩

section Induction

variable {P : ControlState → Prop} {state : ControlState} (h : P state)

include h

theorem updates_induction {request : Option ClientControl} {u : UserId}
    (hupdate : ∀ st st' : ControlState, Update request u st st' → P st → P st')
    {state' : ControlState} (hchain : Updates request u state state') : P state' := by
  induction hchain with
  | refl => exact h
  | tail _ hlast ih => exact hupdate _ _ hlast ih

/-- What every update for the envelope's request preserves holds after the envelope if it held
before. -/
theorem handleClientEnvelope_induction (session : Session) (clock : Clock)
    (envelope : ClientEnvelope)
    (hupdate : ∀ (u : UserId) (st st' : ControlState),
      Update (some envelope.message) u st st' → P st → P st') :
    P (state.handleClientEnvelope session clock envelope).state := by
  obtain ⟨hsome, hnone⟩ := handleClientEnvelope_updates state session clock envelope
  cases huser : (state.handleClientEnvelope session clock envelope).session.user_id with
  | none =>
      rw [hnone huser]
      exact h
  | some u => exact updates_induction h (hupdate u) (hsome u huser)

theorem disconnectUser_induction (u : UserId)
    (hupdate : ∀ st st' : ControlState, Update none u st st' → P st → P st') :
    P (state.disconnectUser u) :=
  updates_induction h hupdate (disconnectUser_updates state u)

end Induction

/-- Recording a forwarded packet touches the stream metrics only. -/
theorem recordMediaForwardSummary_fixed {α : Type} (f : ControlState → α)
    (hf : ∀ (st : ControlState) metrics, f { st with stream_metrics := metrics } = f st)
    (state : ControlState) (packet : MediaPacket) (summary : MediaForwardSummary)
    (ingress_bytes received_at_micros server_route_ms : Nat) :
    f (state.recordMediaForwardSummary packet summary ingress_bytes received_at_micros
      server_route_ms) = f state := by
  unfold recordMediaForwardSummary
  simp only
  split
  · rfl
  · exact hf state _

theorem recordMediaForwardSummary_settings (state : ControlState) (packet : MediaPacket)
    (summary : MediaForwardSummary) (ingress_bytes received_at_micros server_route_ms : Nat) :
    (state.recordMediaForwardSummary packet summary ingress_bytes received_at_micros
        server_route_ms).limits = state.limits ∧
      (state.recordMediaForwardSummary packet summary ingress_bytes received_at_micros
        server_route_ms).access_token = state.access_token :=
  ⟨recordMediaForwardSummary_fixed ControlState.limits (fun _ _ => rfl) _ _ _ _ _ _,
    recordMediaForwardSummary_fixed ControlState.access_token (fun _ _ => rfl) _ _ _ _ _ _⟩

end ControlState

namespace ControlSystem

open ControlState

/-- The rule for invariants of the control state: updates and forwarding records preserve them. -/
theorem step_induction {P : ControlState → Prop}
    (hupdate : ∀ (request : Option ClientControl) (u : UserId) (st st' : ControlState),
      Update request u st st' → P st → P st')
    (hrecord : ∀ (st : ControlState) (packet : MediaPacket) (summary : MediaForwardSummary)
      (ingress_bytes received_at_micros server_route_ms : Nat), P st →
        P (st.recordMediaForwardSummary packet summary ingress_bytes received_at_micros
          server_route_ms))
    (system : ControlSystem) (event : ControlEvent) (h : P system.control) :
    P (system.step event).control := by
  cases event with
  | envelope i clock envelope =>
      exact handleClientEnvelope_induction h (system.sessions i) clock envelope (hupdate _)
  | disconnect u => exact disconnectUser_induction h u (hupdate none u)
  | recordForward packet summary bytes received route =>
      exact hrecord _ packet summary bytes received route h

theorem step_settings (system : ControlSystem) (event : ControlEvent) :
    (system.step event).control.limits = system.control.limits ∧
      (system.step event).control.access_token = system.control.access_token := by
  refine step_induction
    (P := fun st => st.limits = system.control.limits ∧
      st.access_token = system.control.access_token) ?_ ?_ system event ⟨rfl, rfl⟩
  · rintro request u st st' hupdate ⟨hlimits, htoken⟩
    obtain ⟨hlimits', htoken'⟩ := update_settings hupdate
    exact ⟨hlimits'.trans hlimits, htoken'.trans htoken⟩
  · rintro st packet summary bytes received route ⟨hlimits, htoken⟩
    obtain ⟨hlimits', htoken'⟩ :=
      recordMediaForwardSummary_settings st packet summary bytes received route
    exact ⟨hlimits'.trans hlimits, htoken'.trans htoken⟩

theorem run_settings (system : ControlSystem) (events : List ControlEvent) :
    (run step system events).control.limits = system.control.limits ∧
      (run step system events).control.access_token = system.control.access_token := by
  refine run_induction step
    (P := fun sys => sys.control.limits = system.control.limits ∧
      sys.control.access_token = system.control.access_token) ?_ ⟨rfl, rfl⟩ events
  rintro sys event ⟨hlimits, htoken⟩
  obtain ⟨hlimits', htoken'⟩ := step_settings sys event
  exact ⟨hlimits'.trans hlimits, htoken'.trans htoken⟩

/-! ## Answers -/

/-- The answer to an envelope that passes the authorization check. -/
theorem reply_of_authorized {system : ControlSystem} {i : Nat} {envelope : ClientEnvelope}
    (h : system.control.authorizationError (system.sessions i) envelope.message = none)
    (clock : Clock) :
    system.reply i clock envelope
      = ⟨(system.control.handleMessage (system.sessions i) clock envelope.message).state,
          (system.control.handleMessage (system.sessions i) clock envelope.message).session,
          .new envelope.request_id
            (system.control.handleMessage (system.sessions i) clock envelope.message).message⟩ := by
  unfold reply handleClientEnvelope
  rw [h]

theorem reply_of_unauthorized {system : ControlSystem} {i : Nat} {envelope : ClientEnvelope}
    {error : ControlError}
    (h : system.control.authorizationError (system.sessions i) envelope.message = some error)
    (clock : Clock) :
    system.reply i clock envelope
      = ⟨system.control, system.sessions i, .new envelope.request_id (.error error)⟩ := by
  unfold reply handleClientEnvelope
  rw [h]

/-! ## The representation invariant over runs -/

theorem step_roomInvariant (system : ControlSystem) (event : ControlEvent)
    (h : RoomInvariant system.control) : RoomInvariant (system.step event).control :=
  step_induction (fun _ _ _ _ hupdate hst => update_roomInvariant hst hupdate)
    (fun _ packet summary bytes received route hst =>
      recordMediaForwardSummary_roomInvariant hst packet summary bytes received route)
    system event h

theorem initial_roomInvariant {control : ControlState} (h : control.Initial) :
    RoomInvariant control := by
  have hstandard : 1 ≤ ControlLimits.standard.max_participants_per_room := by decide
  have hsanitized : ∀ limits : ControlLimits,
      1 ≤ limits.sanitized.max_participants_per_room := fun limits => Nat.le_max_right _ _
  cases h with
  | new => exact roomInvariant_of_no_rooms rfl rfl rfl rfl rfl hstandard
  | withLimits limits =>
      exact roomInvariant_of_no_rooms rfl rfl rfl rfl rfl (hsanitized limits)
  | withAccessToken token => exact roomInvariant_of_no_rooms rfl rfl rfl rfl rfl hstandard
  | withAccessTokenAndLimits token limits =>
      exact roomInvariant_of_no_rooms rfl rfl rfl rfl rfl (hsanitized limits)

theorem reachable_roomInvariant {system : ControlSystem} (h : system.Reachable) :
    RoomInvariant system.control := by
  refine Runs.Reachable.induction (P := fun sys => RoomInvariant sys.control) ?_
    step_roomInvariant h
  rintro _ ⟨control, hinitial, rfl⟩
  exact initial_roomInvariant hinitial

/-- After any envelopes of any sessions, disconnects and forwarding records, the rooms are in
order and within the limits the relay started with. -/
theorem run_keeps_roomInvariant (control : ControlState) (hinitial : control.Initial)
    (events : List ControlEvent) :
    RoomInvariant (run step (start control) events).control ∧
      (run step (start control) events).control.limits = control.limits :=
  ⟨reachable_roomInvariant ⟨start control, events, ⟨control, hinitial, rfl⟩, rfl⟩,
    (run_settings (start control) events).1⟩

/-- The run of one session that says hello, opens a room and publishes a screen in it. -/
def openingRun : List ControlEvent :=
  [.ask 0 (.hello ⟨protocolVersion, "host"⟩), .ask 0 (.createRoom ⟨"room"⟩),
    .ask 0 (.publishStream ⟨1, 7, .h264, .screen⟩)]

theorem run_keeps_roomInvariant_opening :
    (RoomInvariant (run step (start .new) openingRun).control ∧
      (run step (start .new) openingRun).control.limits = ControlLimits.standard) ∧
    ((run step (start .new) openingRun).control.publisherForStream 7 = some 1) :=
  ⟨run_keeps_roomInvariant .new .new openingRun, by decide +kernel⟩

/-- The opening run, and a second session that joins the room and subscribes to the screen. -/
def watchingRun : List ControlEvent :=
  openingRun ++
    [.ask 1 (.hello ⟨protocolVersion, "viewer"⟩), .ask 1 (.joinRoom ⟨1⟩),
      .ask 1 (.subscribeStream ⟨1, 7⟩)]

/-- The control state after the watching run: user 1 shows its screen to user 2. -/
def watchingState : ControlState := (run step (start .new) watchingRun).control

theorem watchingState_reachable : watchingState.Reachable :=
  ⟨_, ⟨start .new, watchingRun, ⟨.new, .new, rfl⟩, rfl⟩, rfl⟩

end ControlSystem

theorem ControlState.Reachable.roomInvariant {state : ControlState} (h : state.Reachable) :
    ControlState.RoomInvariant state := by
  obtain ⟨system, hsystem, rfl⟩ := h
  exact ControlSystem.reachable_roomInvariant hsystem

end TeamView.Relay
