import TeamView.Relay.Departure
import TeamView.Relay.EgressBudget

set_option autoImplicit false

/-! # Serving a connection

`ControlRuntime::serve_connection` is an accept loop that spawns one task for each control stream
(`handle_control_stream`), and a cleanup when the loop breaks. The cleanup does not wait for the
tasks: it reads the user of the session once, and unregisters and disconnects that user in two
steps under two locks. Every event below is one of these atomic steps, of some connection; a
connection that no event names has not sent anything yet.
-/

namespace TeamView.Relay

open TeamView.Protocol BTree Runs

/-- Where the task of a control stream stands. -/
inductive ControlStream where
  /-- The request is in flight; `none` when its bytes do not decode. -/
  | requested (request : Option ClientEnvelope)
  /-- The answer is `HelloAccepted`: the task reads the user of the session next. -/
  | greeted
  | registering (user_id : UserId)
  | finished
  deriving DecidableEq

/-- Where `serve_connection` stands: in its loop, or at a step of its cleanup. -/
inductive Serving where
  | accepting
  | closing
  | unregistering (user_id : UserId)
  | disconnecting (user_id : UserId)
  /-- The cleanup is done, for the user it read. -/
  | closed (user_id : Option UserId)
  deriving DecidableEq

structure ServedConnection where
  serving : Serving
  streams : List ControlStream

structure RelayServer where
  runtime : RelayRuntime
  connections : Nat → ServedConnection

inductive ServerEvent where
  | openStream (i : Nat) (request : Option ClientEnvelope)
  /-- The task of stream `k` handles its request. -/
  | handle (i k : Nat) (clock : Clock)
  | readUser (i k : Nat)
  | register (i k : Nat)
  /-- The request of stream `k` does not arrive in time. -/
  | timeout (i k : Nat)
  | datagram (i : Nat) (bytes : List UInt8) (received_at_micros : UInt64) (now : Nat)
  /-- The accept loop breaks. -/
  | close (i : Nat)
  /-- The cleanup reads the user of the session. -/
  | readSession (i : Nat)
  | unregister (i : Nat)
  | disconnect (i : Nat)
  /-- The sender task of a viewer takes a datagram, or releases the one it has sent. -/
  | recv (user_id : UserId)
  | release (user_id : UserId)

namespace RelayServer

def session (server : RelayServer) (i : Nat) : Session := server.runtime.system.sessions i

def serving (server : RelayServer) (i : Nat) : Serving := (server.connections i).serving

def stream (server : RelayServer) (i k : Nat) : Option ControlStream :=
  (server.connections i).streams[k]?

def setServing (server : RelayServer) (i : Nat) (serving : Serving) : RelayServer :=
  { server with
    connections := Function.update server.connections i
      { server.connections i with serving := serving } }

def setStream (server : RelayServer) (i k : Nat) (stream : ControlStream) : RelayServer :=
  { server with
    connections := Function.update server.connections i
      { server.connections i with streams := (server.connections i).streams.set k stream } }

/-- An event of the runtime beneath. -/
def act (server : RelayServer) (event : RuntimeEvent) : RelayServer :=
  { server with runtime := server.runtime.step event }

/-- What the task does after its request was answered. -/
def afterAnswer : ServerControl → ControlStream
  | .helloAccepted _ => .greeted
  | _ => .finished

def step (server : RelayServer) : ServerEvent → RelayServer
  | .openStream i request =>
      if server.serving i = .accepting then
        { server with
          connections := Function.update server.connections i
            { server.connections i with
              streams := (server.connections i).streams ++ [.requested request] } }
      else server
  | .handle i k clock =>
      match server.stream i k with
      | some (.requested (some envelope)) =>
          (server.act (.envelope i clock envelope)).setStream i k
            (afterAnswer (server.runtime.system.reply i clock envelope).response.message)
      | some (.requested none) => server.setStream i k .finished
      | _ => server
  | .readUser i k =>
      match server.stream i k, (server.session i).user_id with
      | some .greeted, some user_id => server.setStream i k (.registering user_id)
      | some .greeted, none => server.setStream i k .finished
      | _, _ => server
  | .register i k =>
      match server.stream i k with
      | some (.registering user_id) => (server.act (.register user_id)).setStream i k .finished
      | _ => server
  | .timeout i k =>
      match server.stream i k with
      | some (.requested _) => server.setStream i k .finished
      | _ => server
  | .datagram i bytes received_at_micros now =>
      if server.serving i = .accepting then
        server.act (.datagram i bytes received_at_micros now)
      else server
  | .close i => if server.serving i = .accepting then server.setServing i .closing else server
  | .readSession i =>
      if server.serving i = .closing then
        match (server.session i).user_id with
        | none => server.setServing i (.closed none)
        | some user_id => server.setServing i (.unregistering user_id)
      else server
  | .unregister i =>
      match server.serving i with
      | .unregistering user_id =>
          (server.act (.unregister user_id)).setServing i (.disconnecting user_id)
      | _ => server
  | .disconnect i =>
      match server.serving i with
      | .disconnecting user_id =>
          (server.act (.disconnect user_id)).setServing i (.closed (some user_id))
      | _ => server
  | .recv user_id => server.act (.recv user_id)
  | .release user_id => server.act (.release user_id)

def start (control : ControlState) (media : MediaRelay) (max_datagram_payload : Nat) :
    RelayServer where
  runtime := .start control media max_datagram_payload
  connections := fun _ => ⟨.accepting, []⟩

/-! ## Fields after a change -/

@[simp] theorem setServing_runtime (server : RelayServer) (i : Nat) (serving : Serving) :
    (server.setServing i serving).runtime = server.runtime := rfl
@[simp] theorem setStream_runtime (server : RelayServer) (i k : Nat) (stream : ControlStream) :
    (server.setStream i k stream).runtime = server.runtime := rfl
@[simp] theorem act_connections (server : RelayServer) (event : RuntimeEvent) :
    (server.act event).connections = server.connections := rfl
@[simp] theorem act_runtime (server : RelayServer) (event : RuntimeEvent) :
    (server.act event).runtime = server.runtime.step event := rfl

theorem serving_setServing (server : RelayServer) (i j : Nat) (serving : Serving) :
    (server.setServing i serving).serving j = if j = i then serving else server.serving j := by
  unfold RelayServer.serving setServing
  by_cases hj : j = i
  · subst hj
    simp
  · simp [hj]

theorem stream_setServing (server : RelayServer) (i j k : Nat) (serving : Serving) :
    (server.setServing i serving).stream j k = server.stream j k := by
  unfold stream setServing
  by_cases hj : j = i
  · subst hj
    simp
  · simp [hj]

theorem serving_setStream (server : RelayServer) (i j k : Nat) (stream : ControlStream) :
    (server.setStream i k stream).serving j = server.serving j := by
  unfold RelayServer.serving setStream
  by_cases hj : j = i
  · subst hj
    simp
  · simp [hj]

/-- A stream after one was changed is the changed one or an old one. -/
theorem stream_setStream {server : RelayServer} {i j k l : Nat} {stream stream' : ControlStream}
    (h : (server.setStream i k stream).stream j l = some stream') :
    (j = i ∧ stream' = stream) ∨ server.stream j l = some stream' := by
  unfold RelayServer.stream setStream at h
  by_cases hj : j = i
  · subst hj
    simp only [Function.update_self, List.getElem?_set] at h
    split at h
    · split at h
      · exact .inl ⟨rfl, (Option.some.inj h).symm⟩
      · cases h
    · exact .inr h
  · simp only [Function.update_of_ne hj] at h
    exact .inr h

open ControlState MediaRelay

variable {server : RelayServer}

/-! ## What a connection may leave behind -/

/-- Nothing of the user is left in the relay. -/
structure Gone (server : RelayServer) (u : UserId) : Prop where
  participant : ∀ (r : RoomId) (room : Room), server.runtime.system.control.rooms[r]? = some room →
    u ∉ room.participants
  publishes : ∀ s, ¬ server.runtime.system.control.Publishes u s
  subscribes : ∀ s, ¬ server.runtime.system.control.Subscribes u s
  display_name : server.runtime.system.control.display_names[u]? = none
  egress : server.runtime.media.egress[u]? = none

/-- What holds of a connection at every point of its cleanup. -/
structure ConnectionOk (server : RelayServer) (i : Nat) : Prop where
  registering : ∀ k u, server.stream i k = some (.registering u) →
    (server.session i).user_id = some u
  unregistering : ∀ u, server.serving i = .unregistering u → (server.session i).user_id = some u
  disconnecting : ∀ u, server.serving i = .disconnecting u →
    (server.session i).user_id = some u ∧ server.runtime.media.egress[u]? = none
  anonymous : server.serving i = .closed none → (server.session i).user_id = none
  closed : ∀ u, server.serving i = .closed (some u) →
    (server.session i).user_id = some u ∧ server.runtime.media.egress[u]? = none ∧
      Away server.runtime.system.control u

/-- The step is not one that a task of the connection takes too late: no request lets the user
in once the cleanup is done, and no task registers the user once the cleanup has unregistered
it. -/
def InTime (server : RelayServer) : ServerEvent → Prop
  | .handle i k _ =>
      ∀ envelope, server.stream i k = some (.requested (some envelope)) →
        (∃ user_id, server.serving i = .closed user_id) →
          ¬ server.runtime.system.control.Enters (server.session i) envelope.message
  | .register i k =>
      ∀ u, server.stream i k = some (.registering u) →
        (∀ v, server.serving i ≠ .disconnecting v) ∧ ∀ v, server.serving i ≠ .closed v
  | _ => True

/-! ## One step -/

/-- A change of the runtime that leaves the sessions with their users, the egress of a viewer
that has none alone, and absent users absent. -/
theorem ConnectionOk.act {i : Nat} (h : ConnectionOk server i) {event : RuntimeEvent}
    (hsession : ∀ u, (server.session i).user_id = some u →
      ((server.act event).session i).user_id = some u)
    (hanonymous : server.serving i = .closed none → (server.session i).user_id = none →
      ((server.act event).session i).user_id = none)
    (hegress : ∀ u, (server.serving i = .disconnecting u ∨ server.serving i = .closed (some u)) →
      server.runtime.media.egress[u]? = none →
        (server.runtime.step event).media.egress[u]? = none)
    (haway : ∀ u, server.serving i = .closed (some u) → (server.session i).user_id = some u →
      Away server.runtime.system.control u → Away (server.runtime.step event).system.control u) :
    ConnectionOk (server.act event) i where
  registering k u hk := hsession u (h.registering k u hk)
  unregistering u hu := hsession u (h.unregistering u hu)
  disconnecting u hu := by
    obtain ⟨huser, hnone⟩ := h.disconnecting u hu
    exact ⟨hsession u huser, hegress u (.inl hu) hnone⟩
  anonymous hu := hanonymous hu (h.anonymous hu)
  closed u hu := by
    obtain ⟨huser, hnone, hgone⟩ := h.closed u hu
    exact ⟨hsession u huser, hegress u (.inr hu) hnone, haway u hu huser hgone⟩

theorem ConnectionOk.setStream {i : Nat} (h : ConnectionOk server i) (j k : Nat)
    {stream : ControlStream}
    (hstream : ∀ u, stream = .registering u → (server.session j).user_id = some u) :
    ConnectionOk (server.setStream j k stream) i where
  registering l u hl := by
    rcases stream_setStream hl with ⟨rfl, heq⟩ | hold
    · exact hstream u heq.symm
    · exact h.registering l u hold
  unregistering u hu := h.unregistering u (by rw [serving_setStream] at hu; exact hu)
  disconnecting u hu := h.disconnecting u (by rw [serving_setStream] at hu; exact hu)
  anonymous hu := h.anonymous (by rw [serving_setStream] at hu; exact hu)
  closed u hu := h.closed u (by rw [serving_setStream] at hu; exact hu)

/-- The cleanup of connection `j` moves on; the other connections do not notice. -/
theorem ConnectionOk.setServing {i : Nat} (h : ConnectionOk server i) (j : Nat) {serving : Serving}
    (hunregistering : ∀ u, serving = .unregistering u → (server.session j).user_id = some u)
    (hdisconnecting : ∀ u, serving = .disconnecting u →
      (server.session j).user_id = some u ∧ server.runtime.media.egress[u]? = none)
    (hanonymous : serving = .closed none → (server.session j).user_id = none)
    (hclosed : ∀ u, serving = .closed (some u) → (server.session j).user_id = some u ∧
      server.runtime.media.egress[u]? = none ∧ Away server.runtime.system.control u) :
    ConnectionOk (server.setServing j serving) i := by
  have hregistering : ∀ k u, (server.setServing j serving).stream i k = some (.registering u) →
      (server.session i).user_id = some u := by
    intro k u hk
    rw [stream_setServing] at hk
    exact h.registering k u hk
  by_cases hi : i = j
  · subst hi
    have hserving : (server.setServing i serving).serving i = serving := by
      rw [serving_setServing, if_pos rfl]
    refine ⟨hregistering, ?_, ?_, ?_, ?_⟩
    · intro u hu
      exact hunregistering u (hserving ▸ hu)
    · intro u hu
      exact hdisconnecting u (hserving ▸ hu)
    · intro hu
      exact hanonymous (hserving ▸ hu)
    · intro u hu
      exact hclosed u (hserving ▸ hu)
  · have hserving : (server.setServing j serving).serving i = server.serving i := by
      rw [serving_setServing, if_neg hi]
    refine ⟨hregistering, ?_, ?_, ?_, ?_⟩
    · intro u hu
      exact h.unregistering u (hserving ▸ hu)
    · intro u hu
      exact h.disconnecting u (hserving ▸ hu)
    · intro hu
      exact h.anonymous (hserving ▸ hu)
    · intro u hu
      exact h.closed u (hserving ▸ hu)

/-- A packet gives nobody an egress. -/
theorem forward_unregistered {state : ControlState} (hinv : RoomInvariant state)
    {relay : MediaRelay} {u : UserId} (hnone : relay.egress[u]? = none) (sender : UserId)
    (packet : MediaPacket) (received : UInt64) :
    (relay.forwardMediaPacket state sender packet received).1.egress[u]? = none := by
  rcases forwardMediaPacket_cases hinv relay sender packet received with
    hsame | ⟨r, stream, bytes, hmay, hencode⟩
  · rw [hsame]
    exact hnone
  · rw [forwardMediaPacket_egress hinv hmay hencode, hnone]
    split <;> rfl

theorem updateEgress_unregistered {relay : MediaRelay} {u : UserId}
    (hnone : relay.egress[u]? = none) (v : UserId) (f : ViewerEgress → ViewerEgress) :
    (relay.updateEgress v f).egress[u]? = none := by
  unfold MediaRelay.updateEgress
  split
  · exact hnone
  · next egress hegress =>
      have hne : u ≠ v := by
        rintro rfl
        rw [hnone] at hegress
        cases hegress
      rw [get_insert, if_neg hne]
      exact hnone

theorem recordMediaForwardSummary_away {state : ControlState} {u : UserId} (h : Away state u)
    (packet : MediaPacket) (summary : MediaForwardSummary)
    (ingress_bytes received_at_micros server_route_ms : Nat) :
    Away (state.recordMediaForwardSummary packet summary ingress_bytes received_at_micros
      server_route_ms) u := by
  unfold recordMediaForwardSummary
  simp only
  split
  · exact h
  · exact ⟨h.participant, h.display_name⟩

section Act

variable {j : Nat}

/-- An envelope of connection `i`, as connection `j` sees it. -/
theorem ConnectionOk.envelope (hsystem : server.runtime.system.Reachable)
    (h : ConnectionOk server j) {i : Nat} {clock : Clock} {envelope : ClientEnvelope}
    (hintime : (∃ user_id, server.serving i = .closed user_id) →
      ¬ server.runtime.system.control.Enters (server.session i) envelope.message) :
    ConnectionOk (server.act (.envelope i clock envelope)) j := by
  have hupdate := handleClientEnvelope_session server.runtime.system.control (server.session i)
    clock envelope
  have hself : (server.act (.envelope i clock envelope)).session i
      = (server.runtime.system.reply i clock envelope).session := Function.update_self _ _ _
  have hother : j ≠ i → (server.act (.envelope i clock envelope)).session j = server.session j :=
    fun hne => Function.update_of_ne hne _ _
  -- a session never loses its user
  have hsession : ∀ u, (server.session j).user_id = some u →
      ((server.act (.envelope i clock envelope)).session j).user_id = some u := by
    intro u hu
    by_cases hj : j = i
    · subst hj
      rw [hself]
      rcases ControlSystem.sessionUpdate_user hupdate with hsame | ⟨hnone, -⟩
      · exact hsame.trans hu
      · rw [hnone] at hu
        cases hu
    · rw [hother hj]
      exact hu
  refine h.act hsession ?_ (fun u _ hnone => hnone) ?_
  · intro hclosed hnone
    by_cases hj : j = i
    · subst hj
      rw [hself]
      -- only an accepted `Hello` gives the session a user, and it would come too late
      have hnot := hintime ⟨none, hclosed⟩
      show (server.runtime.system.control.handleClientEnvelope (server.session j) clock
        envelope).session.user_id = none
      generalize hmessage : envelope.message = message at hupdate hnot
      generalize (server.runtime.system.control.handleClientEnvelope (server.session j) clock
        envelope).session = session' at hupdate
      cases hupdate with
      | kept => exact hnone
      | identified hello name hversion huser =>
          exact absurd ⟨authorizationError_ungated rfl _ _, hversion⟩ hnot
      | renamed hello name hversion huser => exact absurd hnone huser
      | granted authenticate huser htoken => exact absurd hnone huser
    · rw [hother hj]
      exact hnone
  · intro u hclosed hu haway
    refine handleClientEnvelope_away (ControlSystem.reachable_roomInvariant hsystem) haway ?_
    intro hactor
    -- two sessions never share a user
    have hunique := (ControlSystem.reachable_identityInvariant
      (hsystem.after (.envelope i clock envelope))).user_unique
    have hij : i = j := hunique i j u (by
      show ((server.act (.envelope i clock envelope)).session i).user_id = some u
      rw [hself]
      exact hactor) (hsession u hu)
    subst hij
    exact hintime ⟨some u, hclosed⟩

theorem ConnectionOk.register (h : ConnectionOk server j) {v : UserId}
    (hne : ∀ u, (server.serving j = .disconnecting u ∨ server.serving j = .closed (some u)) →
      u ≠ v) : ConnectionOk (server.act (.register v)) j := by
  refine h.act (fun _ => id) (fun _ => id) (fun u hserving hnone => ?_) (fun _ _ _ => id)
  show (server.runtime.media.egress.insert v _)[u]? = none
  rw [get_insert, if_neg (hne u hserving)]
  exact hnone

theorem ConnectionOk.unregister (h : ConnectionOk server j) (v : UserId) :
    ConnectionOk (server.act (.unregister v)) j := by
  refine h.act (fun _ => id) (fun _ => id) (fun u _ hnone => ?_) (fun _ _ _ => id)
  show (server.runtime.media.egress.erase v)[u]? = none
  rw [get_erase, hnone]
  split <;> rfl

theorem ConnectionOk.disconnect (h : ConnectionOk server j) (v : UserId) :
    ConnectionOk (server.act (.disconnect v)) j :=
  h.act (fun _ => id) (fun _ => id) (fun _ _ => id) fun _ _ _ haway => haway.disconnectUser v

theorem ConnectionOk.datagram (hsystem : server.runtime.system.Reachable)
    (h : ConnectionOk server j) (i : Nat) (bytes : List UInt8) (received : UInt64) (now : Nat) :
    ConnectionOk (server.act (.datagram i bytes received now)) j := by
  have hinv := ControlSystem.reachable_roomInvariant hsystem
  -- the control plane records the packet, or does nothing
  have hsystem' : (server.act (.datagram i bytes received now)).session j = server.session j ∧
      ∀ u, Away server.runtime.system.control u →
        Away (server.act (.datagram i bytes received now)).runtime.system.control u := by
    have hcases := server.runtime.handleMediaDatagram_system (server.session i) bytes received now
    show ((server.runtime.handleMediaDatagram (server.session i) bytes received
        now).system).sessions j = _ ∧ ∀ u, _ → Away (server.runtime.handleMediaDatagram
          (server.session i) bytes received now).system.control u
    rcases hcases with hsame | ⟨packet, summary, size, time, route, hrecord⟩
    · rw [hsame]
      exact ⟨rfl, fun _ => id⟩
    · rw [hrecord]
      exact ⟨rfl, fun u haway =>
        recordMediaForwardSummary_away haway packet summary size time route⟩
  refine h.act ?_ ?_ ?_ (fun u _ _ haway => hsystem'.2 u haway)
  · intro u hu
    rw [hsystem'.1]
    exact hu
  · intro _ hnone
    rw [hsystem'.1]
    exact hnone
  · intro u _ hnone
    simp only [RelayRuntime.step, RelayRuntime.handleMediaDatagram]
    repeat' split
    all_goals first | exact hnone | exact forward_unregistered hinv hnone _ _ _

theorem ConnectionOk.updateEgress (h : ConnectionOk server j) {event : RuntimeEvent} (v : UserId)
    (f : ViewerEgress → ViewerEgress)
    (hstep : server.runtime.step event
      = { server.runtime with media := server.runtime.media.updateEgress v f }) :
    ConnectionOk (server.act event) j := by
  have hsession : (server.act event).session j = server.session j := by
    unfold session
    rw [act_runtime, hstep]
  refine h.act (fun u hu => hsession ▸ hu) (fun _ hu => hsession ▸ hu) ?_ ?_
  · intro u _ hnone
    rw [hstep]
    exact updateEgress_unregistered hnone v f
  · intro u _ _ haway
    rw [hstep]
    exact haway

end Act

/-- The control plane after an event of the server is one that a run reaches. -/
theorem step_reachable (hsystem : server.runtime.system.Reachable) (event : RuntimeEvent) :
    (server.act event).runtime.system.Reachable := by
  obtain ⟨s₀, es, hinit, hsys⟩ := hsystem
  obtain ⟨events, hevents⟩ := server.runtime.step_system event
  refine ⟨s₀, es ++ events, hinit, ?_⟩
  rw [run_append, ← hsys, act_runtime, hevents]

/-- What holds of the server in every state of a run: all its connections are in order, and
what they did to the control plane is a run of it. -/
structure ServerOk (server : RelayServer) : Prop where
  reachable : server.runtime.system.Reachable
  connection : ∀ i, ConnectionOk server i

/-- An event of the runtime that keeps every connection in order. -/
theorem ServerOk.act (h : ServerOk server) {event : RuntimeEvent}
    (hconnection : ∀ i, ConnectionOk (server.act event) i) : ServerOk (server.act event) :=
  ⟨step_reachable h.reachable event, hconnection⟩

theorem ServerOk.setStream (h : ServerOk server) (i k : Nat) {stream : ControlStream}
    (hstream : ∀ u, stream = .registering u → (server.session i).user_id = some u) :
    ServerOk (server.setStream i k stream) :=
  ⟨h.reachable, fun j => (h.connection j).setStream i k hstream⟩

theorem afterAnswer_ne_registering (answer : ServerControl) (u : UserId) :
    afterAnswer answer ≠ .registering u := by
  cases answer <;> exact ControlStream.noConfusion

theorem step_openStream (h : ServerOk server) (i : Nat) (request : Option ClientEnvelope) :
    ServerOk (server.step (.openStream i request)) := by
  simp only [step]
  split
  · refine ⟨h.reachable, fun j => ?_⟩
    by_cases hj : j = i
    · subst hj
      have hj := h.connection j
      refine ⟨?_, ?_, ?_, ?_, ?_⟩
      · intro k u hk
        simp only [stream, Function.update_self, List.getElem?_append] at hk
        split at hk
        · exact hj.registering k u hk
        · -- the new stream has its request still in flight
          rw [List.getElem?_singleton] at hk
          split at hk <;> cases hk
      · intro u hu
        exact hj.unregistering u (by simpa [RelayServer.serving] using hu)
      · intro u hu
        exact hj.disconnecting u (by simpa [RelayServer.serving] using hu)
      · intro hu
        exact hj.anonymous (by simpa [RelayServer.serving] using hu)
      · intro u hu
        exact hj.closed u (by simpa [RelayServer.serving] using hu)
    · -- the other connections are untouched
      have hother : Function.update server.connections i
          { server.connections i with
            streams := (server.connections i).streams ++ [.requested request] } j
          = server.connections j := Function.update_of_ne hj _ _
      have hj := h.connection j
      refine ⟨?_, ?_, ?_, ?_, ?_⟩
      · intro k u hk
        simp only [stream, hother] at hk
        exact hj.registering k u hk
      · intro u hu
        simp only [RelayServer.serving, hother] at hu
        exact hj.unregistering u hu
      · intro u hu
        simp only [RelayServer.serving, hother] at hu
        exact hj.disconnecting u hu
      · intro hu
        simp only [RelayServer.serving, hother] at hu
        exact hj.anonymous hu
      · intro u hu
        simp only [RelayServer.serving, hother] at hu
        exact hj.closed u hu
  · exact h

theorem step_handle (h : ServerOk server) {i k : Nat} {clock : Clock}
    (hintime : InTime server (.handle i k clock)) : ServerOk (server.step (.handle i k clock)) := by
  simp only [step]
  split
  · next envelope hstream =>
      have hact : ServerOk (server.act (.envelope i clock envelope)) :=
        h.act fun j => (h.connection j).envelope h.reachable (hintime envelope hstream)
      refine hact.setStream i k fun u hu => ?_
      exact absurd hu (afterAnswer_ne_registering _ u)
  · exact h.setStream i k fun u hu => ControlStream.noConfusion hu
  · exact h

theorem step_readUser (h : ServerOk server) (i k : Nat) :
    ServerOk (server.step (.readUser i k)) := by
  simp only [step]
  split
  · next v hstream huser =>
      refine h.setStream i k fun u hu => ?_
      rw [huser, ControlStream.registering.inj hu]
  · exact h.setStream i k fun u hu => ControlStream.noConfusion hu
  · exact h

theorem step_register (h : ServerOk server) {i k : Nat}
    (hintime : InTime server (.register i k)) : ServerOk (server.step (.register i k)) := by
  simp only [step]
  split
  · next v hstream =>
      have huser : (server.session i).user_id = some v := (h.connection i).registering k v hstream
      obtain ⟨hdisconnecting, hclosed⟩ := hintime v hstream
      have hact : ServerOk (server.act (.register v)) := by
        refine h.act fun j => (h.connection j).register fun u hserving => ?_
        rintro rfl
        -- a connection that is past its `unregister` has another user
        have hother : (server.session j).user_id = some u := by
          rcases hserving with hserving | hserving
          · exact ((h.connection j).disconnecting u hserving).1
          · exact ((h.connection j).closed u hserving).1
        have hij : i = j := (ControlSystem.reachable_identityInvariant h.reachable).user_unique
          i j u huser hother
        subst hij
        rcases hserving with hserving | hserving
        · exact hdisconnecting u hserving
        · exact hclosed (some u) hserving
      exact hact.setStream i k fun u hu => ControlStream.noConfusion hu
  · exact h

theorem step_close (h : ServerOk server) (i : Nat) : ServerOk (server.step (.close i)) := by
  simp only [step]
  split
  · refine ⟨h.reachable, fun j => (h.connection j).setServing i ?_ ?_ ?_ ?_⟩
    · exact fun u hu => Serving.noConfusion hu
    · exact fun u hu => Serving.noConfusion hu
    · exact fun hu => Serving.noConfusion hu
    · exact fun u hu => Serving.noConfusion hu
  · exact h

theorem step_readSession (h : ServerOk server) (i : Nat) :
    ServerOk (server.step (.readSession i)) := by
  simp only [step]
  split
  · split
    · next hnone =>
        refine ⟨h.reachable, fun j => (h.connection j).setServing i ?_ ?_ ?_ ?_⟩
        · exact fun u hu => Serving.noConfusion hu
        · exact fun u hu => Serving.noConfusion hu
        · exact fun _ => hnone
        · intro u hu
          cases hu
    · next v huser =>
        refine ⟨h.reachable, fun j => (h.connection j).setServing i ?_ ?_ ?_ ?_⟩
        · intro u hu
          rw [huser, Serving.unregistering.inj hu]
        · exact fun u hu => Serving.noConfusion hu
        · exact fun hu => Serving.noConfusion hu
        · exact fun u hu => Serving.noConfusion hu
  · exact h

/-- The first half of the cleanup takes the egress of the user away. -/
theorem step_unregister (h : ServerOk server) (i : Nat) :
    ServerOk (server.step (.unregister i)) := by
  simp only [step]
  split
  · next v hserving =>
      have huser : (server.session i).user_id = some v := (h.connection i).unregistering v hserving
      have hact : ServerOk (server.act (.unregister v)) :=
        h.act fun j => (h.connection j).unregister v
      refine ⟨hact.reachable, fun j => (hact.connection j).setServing i ?_ ?_ ?_ ?_⟩
      · exact fun u hu => Serving.noConfusion hu
      · intro u hu
        obtain rfl := Serving.disconnecting.inj hu
        have hegress : (server.runtime.media.egress.erase v)[v]? = none := by
          rw [get_erase, if_pos rfl]
        exact ⟨huser, hegress⟩
      · exact fun hu => Serving.noConfusion hu
      · exact fun u hu => Serving.noConfusion hu
  · exact h

/-- The second half of the cleanup leaves nothing of the user in the control plane. -/
theorem step_disconnect (h : ServerOk server) (i : Nat) :
    ServerOk (server.step (.disconnect i)) := by
  simp only [step]
  split
  · next v hserving =>
      obtain ⟨huser, hegress⟩ := (h.connection i).disconnecting v hserving
      have hact : ServerOk (server.act (.disconnect v)) :=
        h.act fun j => (h.connection j).disconnect v
      refine ⟨hact.reachable, fun j => (hact.connection j).setServing i ?_ ?_ ?_ ?_⟩
      · exact fun u hu => Serving.noConfusion hu
      · exact fun u hu => Serving.noConfusion hu
      · intro hu
        cases hu
      · intro u hu
        obtain rfl : v = u := Option.some.inj (Serving.closed.inj hu)
        have haway : Away (server.runtime.system.control.disconnectUser v) v :=
          disconnectUser_away server.runtime.system.control v
        exact ⟨huser, hegress, haway⟩
  · exact h

theorem step_ok (h : ServerOk server) {event : ServerEvent} (hintime : InTime server event) :
    ServerOk (server.step event) := by
  cases event with
  | openStream i request => exact step_openStream h i request
  | handle i k clock => exact step_handle h hintime
  | readUser i k => exact step_readUser h i k
  | register i k => exact step_register h hintime
  | timeout i k =>
      simp only [step]
      split
      · exact h.setStream i k fun u hu => ControlStream.noConfusion hu
      · exact h
  | datagram i bytes received now =>
      simp only [step]
      split
      · exact h.act fun j => (h.connection j).datagram h.reachable i bytes received now
      · exact h
  | close i => exact step_close h i
  | readSession i => exact step_readSession h i
  | unregister i => exact step_unregister h i
  | disconnect i => exact step_disconnect h i
  | recv v => exact h.act fun j => (h.connection j).updateEgress v _ rfl
  | release v => exact h.act fun j => (h.connection j).updateEgress v _ rfl

/-! ## Whole runs -/

/-- A server that has just started: no session has a user, and nobody has an egress. -/
theorem start_ok {control : ControlState} (hcontrol : control.Initial) (media : MediaRelay)
    (max_datagram_payload : Nat) : ServerOk (start control media max_datagram_payload) where
  reachable := .start ⟨control, hcontrol, rfl⟩
  connection i := by
    refine ⟨?_, ?_, ?_, ?_, ?_⟩
    · intro k u hk
      cases hk
    · exact fun u hu => Serving.noConfusion hu
    · exact fun u hu => Serving.noConfusion hu
    · exact fun hu => Serving.noConfusion hu
    · exact fun u hu => Serving.noConfusion hu

theorem run_ok (hserver : ServerOk server) {events : List ServerEvent}
    (hevents : Meets step InTime server events) : ServerOk (run step server events) :=
  Meets.induction (P := ServerOk) (fun _ _ hintime hok => step_ok hok hintime) hserver hevents

/-- A connection whose cleanup is done has left nothing. -/
theorem ServerOk.gone (h : ServerOk server) {i : Nat} {user_id : Option UserId}
    (hclosed : server.serving i = .closed user_id) {u : UserId}
    (huser : (server.session i).user_id = some u) : Gone server u := by
  have hi := h.connection i
  cases user_id with
  | none =>
      rw [hi.anonymous hclosed] at huser
      cases huser
  | some v =>
      obtain ⟨hv, hegress, haway⟩ := hi.closed v hclosed
      obtain rfl : v = u := Option.some.inj (hv.symm.trans huser)
      have hrooms := (ControlSystem.reachable_roomInvariant h.reachable).toRoomsOk
      exact ⟨haway.participant, haway.publishes hrooms, haway.subscribes hrooms,
        haway.display_name, hegress⟩

/-- Every task of the connection has finished, and so has its cleanup. -/
def Over (server : RelayServer) (i : Nat) : Prop :=
  (∃ user_id, server.serving i = .closed user_id) ∧
    ∀ stream ∈ (server.connections i).streams, stream = .finished

/-- No ghosts: when no task of a connection is late, nothing is left of its user once it is
over. -/
theorem run_gone {control : ControlState} (hcontrol : control.Initial) (media : MediaRelay)
    (max_datagram_payload : Nat) {events : List ServerEvent}
    (hevents : Meets step InTime (start control media max_datagram_payload) events) (i : Nat)
    (hover : Over (run step (start control media max_datagram_payload) events) i) (u : UserId)
    (huser : ((run step (start control media max_datagram_payload) events).session i).user_id
      = some u) :
    Gone (run step (start control media max_datagram_payload) events) u := by
  obtain ⟨user_id, hclosed⟩ := hover.1
  exact (run_ok (start_ok hcontrol media max_datagram_payload) hevents).gone hclosed huser

/-- The tasks of a connection take their steps before its cleanup unregisters its user. -/
def Prompt (server : RelayServer) : ServerEvent → Prop
  | .handle i _ _ | .register i _ => server.serving i = .accepting ∨ server.serving i = .closing
  | _ => True

instance : ∀ (server : RelayServer) (event : ServerEvent), Decidable (Prompt server event)
  | _, .handle _ _ _ | _, .register _ _ => inferInstanceAs (Decidable (_ ∨ _))
  | _, .openStream _ _ | _, .readUser _ _ | _, .timeout _ _ | _, .datagram _ _ _ _ | _, .close _
  | _, .readSession _ | _, .unregister _ | _, .disconnect _ | _, .recv _ | _, .release _ =>
      inferInstanceAs (Decidable True)

theorem Prompt.inTime {event : ServerEvent} (h : Prompt server event) : InTime server event := by
  cases event with
  | handle i k clock =>
      rintro envelope - ⟨user_id, hclosed⟩
      rcases h with h | h
      · exact absurd (h.symm.trans hclosed) Serving.noConfusion
      · exact absurd (h.symm.trans hclosed) Serving.noConfusion
  | register i k =>
      intro u _
      rcases h with h | h
      · exact ⟨fun v hv => Serving.noConfusion (h.symm.trans hv),
          fun v hv => Serving.noConfusion (h.symm.trans hv)⟩
      · exact ⟨fun v hv => Serving.noConfusion (h.symm.trans hv),
          fun v hv => Serving.noConfusion (h.symm.trans hv)⟩
  | _ => exact True.intro

/-- Connection 0 sends a `Hello` and a `CreateRoom` on two streams, and closes. -/
def requests : List ServerEvent :=
  [.openStream 0 (some (.new 0 (.hello ⟨protocolVersion, "host"⟩))),
    .openStream 0 (some (.new 1 (.createRoom ⟨"room"⟩)))]

def cleanup : List ServerEvent := [.close 0, .readSession 0, .unregister 0, .disconnect 0]

/-- Both tasks finish before the cleanup. -/
def promptRun : List ServerEvent :=
  requests ++ [.handle 0 0 ⟨0, 0⟩, .readUser 0 0, .register 0 0, .handle 0 1 ⟨0, 0⟩] ++ cleanup

theorem run_gone_prompt :
    Gone (run step (start .new .new 1200) promptRun) 1 ∧
      (run step (start .new .new 1200) promptRun).runtime.system.control.rooms.size = 0 := by
  have hprompt : Meets step Prompt (start .new .new 1200) promptRun := by decide +kernel
  have hevents : Meets step InTime (start .new .new 1200) promptRun :=
    hprompt.mono fun _ _ => Prompt.inTime
  have hserving : (run step (start .new .new 1200) promptRun).serving 0 = .closed (some 1) := by
    decide +kernel
  have hstreams : ∀ stream ∈ ((run step (start .new .new 1200) promptRun).connections 0).streams,
      stream = .finished := by decide +kernel
  exact ⟨run_gone .new .new 1200 hevents 0 ⟨⟨some 1, hserving⟩, hstreams⟩ 1 (by decide +kernel),
    by decide +kernel⟩

/-- The `Hello` is answered before the cleanup; its registration and the `CreateRoom` come
after. -/
def lateRun : List ServerEvent :=
  requests ++ [.handle 0 0 ⟨0, 0⟩, .readUser 0 0] ++ cleanup ++ [.register 0 0, .handle 0 1 ⟨0, 0⟩]

/-- Nothing is left to run for the connection, and its user is in a room and has an egress. -/
theorem late_tasks_leave_ghost :
    Over (run step (start .new .new 1200) lateRun) 0 ∧
      ((run step (start .new .new 1200) lateRun).session 0).user_id = some 1 ∧
      ¬ Gone (run step (start .new .new 1200) lateRun) 1 ∧
      ((run step (start .new .new 1200) lateRun).runtime.system.control.rooms[1]?.map fun room =>
        decide (1 ∈ room.participants)) = some true ∧
      (run step (start .new .new 1200) lateRun).runtime.media.egress[1]?.isSome := by
  have hserving : (run step (start .new .new 1200) lateRun).serving 0 = .closed (some 1) := by
    decide +kernel
  have hegress : (run step (start .new .new 1200) lateRun).runtime.media.egress[1]?.isSome := by
    decide +kernel
  refine ⟨⟨⟨some 1, hserving⟩, by decide +kernel⟩, by decide +kernel, ?_, by decide +kernel,
    hegress⟩
  intro hgone
  rw [hgone.egress] at hegress
  cases hegress

end RelayServer

end TeamView.Relay
