import TeamView.Relay.Control
import TeamView.Relay.Media

set_option autoImplicit false

/-! # The relay at run time

The control plane and the media relay of one server, and what its connections make them do
(`crates/relay-server/src/control_stream.rs`). Every event below is one critical section of the
source: the locks are held from its first read to its last write.
-/

namespace TeamView.Relay

open TeamView.Protocol Runs

structure RelayRuntime where
  system : ControlSystem
  media : MediaRelay
  max_datagram_payload : Nat

inductive RuntimeEvent where
  | envelope (session : Nat) (clock : Clock) (envelope : ClientEnvelope)
  | datagram (session : Nat) (bytes : List UInt8) (received_at_micros : UInt64) (now : Nat)
  | disconnect (user_id : UserId)
  | register (user_id : UserId)
  | unregister (user_id : UserId)
  /-- The sender task of a viewer takes the next datagram. -/
  | recv (user_id : UserId)
  /-- The sender task of a viewer has sent its datagram. -/
  | release (user_id : UserId)

namespace RelayRuntime

/-- `handle_media_datagram`; `now` is the clock when the fan-out is done. -/
def handleMediaDatagram (runtime : RelayRuntime) (session : Session) (bytes : List UInt8)
    (received_at_micros : UInt64) (now : Nat) : RelayRuntime :=
  if runtime.max_datagram_payload < bytes.length then runtime
  else
    match session.user_id with
    | none => runtime
    | some user_id =>
        if session.access_granted = false then runtime
        else
          match MediaPacket.decode bytes with
          | some (.ok packet) =>
              let (media, summary) := runtime.media.forwardMediaPacket runtime.system.control
                user_id packet received_at_micros
              let server_route_ms := microsDeltaToMillis received_at_micros.toNat now
              { runtime with
                media := media
                system := runtime.system.step (.recordForward packet summary bytes.length
                  received_at_micros.toNat server_route_ms) }
          | _ => runtime

def step (runtime : RelayRuntime) : RuntimeEvent → RelayRuntime
  | .envelope i clock envelope =>
      { runtime with system := runtime.system.step (.envelope i clock envelope) }
  | .datagram i bytes received_at_micros now =>
      runtime.handleMediaDatagram (runtime.system.sessions i) bytes received_at_micros now
  | .disconnect user_id =>
      { runtime with system := runtime.system.step (.disconnect user_id) }
  | .register user_id => { runtime with media := runtime.media.register user_id }
  | .unregister user_id => { runtime with media := runtime.media.unregister user_id }
  | .recv user_id => { runtime with media := runtime.media.recvEgress user_id }
  | .release user_id => { runtime with media := runtime.media.releaseEgress user_id }

/-- A server with the given control state that has seen no connection yet. -/
def start (control : ControlState) (media : MediaRelay) (max_datagram_payload : Nat) :
    RelayRuntime where
  system := .start control
  media := media
  max_datagram_payload := max_datagram_payload

/-- A datagram changes the control plane by the record of its forwarding, or not at all, and no
session ever. -/
theorem handleMediaDatagram_system (runtime : RelayRuntime) (session : Session)
    (bytes : List UInt8) (received : UInt64) (now : Nat) :
    (runtime.handleMediaDatagram session bytes received now).system = runtime.system ∨
      ∃ packet summary size time route,
        (runtime.handleMediaDatagram session bytes received now).system =
          runtime.system.step (.recordForward packet summary size time route) := by
  unfold handleMediaDatagram
  split
  · exact .inl rfl
  · split
    · exact .inl rfl
    · split
      · exact .inl rfl
      · split
        · exact .inr ⟨_, _, _, _, _, rfl⟩
        · exact .inl rfl

/-- Seen from the control plane, an event of the runtime is some events of the control plane. -/
theorem step_system (runtime : RelayRuntime) (event : RuntimeEvent) :
    ∃ events, (runtime.step event).system = run ControlSystem.step runtime.system events := by
  cases event with
  | envelope i clock envelope => exact ⟨[.envelope i clock envelope], rfl⟩
  | datagram i bytes received now =>
      rcases runtime.handleMediaDatagram_system (runtime.system.sessions i) bytes received now with
        hsame | ⟨packet, summary, size, time, route, hstep⟩
      · exact ⟨[], hsame⟩
      · exact ⟨[.recordForward packet summary size time route], hstep⟩
  | disconnect u => exact ⟨[.disconnect u], rfl⟩
  | register u => exact ⟨[], rfl⟩
  | unregister u => exact ⟨[], rfl⟩
  | recv u => exact ⟨[], rfl⟩
  | release u => exact ⟨[], rfl⟩

theorem run_system (runtime : RelayRuntime) (events : List RuntimeEvent) :
    ∃ controlEvents,
      (run step runtime events).system = run ControlSystem.step runtime.system controlEvents := by
  refine run_induction step
    (P := fun rt => ∃ controlEvents,
      rt.system = run ControlSystem.step runtime.system controlEvents) ?_ ⟨[], rfl⟩ events
  rintro rt event ⟨before, hbefore⟩
  obtain ⟨after, hafter⟩ := rt.step_system event
  exact ⟨before ++ after, by rw [hafter, hbefore, run_append]⟩

end RelayRuntime

end TeamView.Relay
