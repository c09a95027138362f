import TeamView.Lib.Runs
import TeamView.Relay.Fanout

set_option autoImplicit false

/-! # The fan-out and the sender tasks, step by step

`forward_media_packet` runs under the locks of the control state and of the relay, so there is one
fan-out at a time and no viewer comes or goes meanwhile. But the sender tasks of the viewers hold
no lock: they take and release datagrams between any two actions of the loop, even between a
reservation and the send it is for. Here each of these actions is a step of its own. Next to the
relay stand the bytes that each sender task has handed to its connection, and the packets that were
accepted.

A viewer that is registered again or unregistered loses its sender task. The task is told to stop,
and may still take and send some of what is in its channel before it does (`retired`).
-/

namespace TeamView.Relay

open TeamView.Protocol BTree Runs

/-- How far the loop is with a viewer. -/
inductive Turn where
  | next
  /-- Reserved, and not yet sent. -/
  | reserved (viewer : UserId)
  /-- The channel refused, and the reservation is still to be released. -/
  | refused (viewer : UserId)
  deriving DecidableEq

/-- A call of `forward_media_packet` that has passed the checks on the packet. -/
structure Forwarding where
  state : ControlState
  published : PublishedStream
  publisher_id : UserId
  datagram : EgressDatagram
  /-- The subscribers whose turn is still to come. -/
  viewers : List UserId
  turn : Turn
  summary : MediaForwardSummary

namespace Forwarding

/-- The loop turns to the next viewer. -/
def skip (forwarding : Forwarding) (viewers : List UserId) (dropped : Nat) : Forwarding :=
  { forwarding with
    viewers := viewers
    turn := .next
    summary := { forwarding.summary with dropped := forwarding.summary.dropped + dropped } }

/-- The datagram that is reserved for a viewer and not in its channel. -/
def reservedFor (forwarding : Forwarding) (v : UserId) : List EgressDatagram :=
  match forwarding.turn with
  | .next => []
  | .reserved viewer => if viewer = v then [forwarding.datagram] else []
  | .refused viewer => if viewer = v then [forwarding.datagram] else []

end Forwarding

/-- `forward_media_packet` up to its loop; `none` when the packet is rejected. -/
def MediaRelay.beginForward (relay : MediaRelay) (state : ControlState) (publisher_id : UserId)
    (packet : MediaPacket) (server_receive_time_micros : UInt64) : Option Forwarding :=
  let stream_id := packet.header.streamId
  match state.publishedStream stream_id with
  | none => none
  | some published =>
      if published.publisher_id ≠ publisher_id ∨ published.codec ≠ packet.header.codec ∨
          mediaKindPacketType published.media_kind ≠ packet.header.packet_type then
        none
      else if published.media_kind = .voice ∧
          state.voicePublisherCanSend stream_id publisher_id = false then
        none
      else
        match packet.encode with
        | .error _ => none
        | .ok _ =>
            some
              { state := state
                published := published
                publisher_id := publisher_id
                datagram :=
                  { stream_id := stream_id
                    packet := packetForEgress packet server_receive_time_micros
                    media_duration_ms :=
                      packetMediaDurationMs packet published relay.viewer_queue_budget_ms }
                viewers := state.subscribersForStream stream_id
                turn := .next
                summary := { stream_id := stream_id, queued := 0, dropped := 0 } }

/-! ## The sender tasks -/

/-- A datagram that a sender task has handed to its connection, and the bytes it did so with. -/
structure SentDatagram where
  datagram : EgressDatagram
  bytes : List UInt8

/-- What `send_viewer_egress` hands to the connection of the datagram in its hands: the packet with
the time of sending, unless it cannot be encoded. -/
def ViewerEgress.outgoing (egress : ViewerEgress) (unix_time_micros : UInt64) :
    List SentDatagram :=
  match egress.sending with
  | none => []
  | some datagram =>
      let packet : MediaPacket :=
        { datagram.packet with
          header := { datagram.packet.header with server_send_time_micros := unix_time_micros } }
      match packet.encode with
      | .ok bytes => [⟨datagram, bytes⟩]
      | .error _ => []

/-- A sender task, with what it has handed to its connection so far. -/
structure SenderTask where
  egress : ViewerEgress
  sent : List SentDatagram

namespace SenderTask

def recv (task : SenderTask) : SenderTask := { task with egress := task.egress.recv }

def send (task : SenderTask) (unix_time_micros : UInt64) : SenderTask where
  egress := task.egress.release
  sent := task.sent ++ task.egress.outgoing unix_time_micros

end SenderTask

/-! ## The machine -/

/-- A packet that passed the checks, with the time it came in. -/
structure AcceptedPacket where
  publisher_id : UserId
  packet : MediaPacket
  server_receive_time_micros : UInt64

structure RelayTasks where
  media : MediaRelay
  forwarding : Option Forwarding
  /-- What the sender task of a registered viewer has handed to its connection. -/
  sent : UserId → List SentDatagram
  retired : List SenderTask
  accepted : List AcceptedPacket

inductive TaskEvent where
  /-- A datagram of a user comes in, while the control state is as given. -/
  | datagram (state : ControlState) (publisher_id : UserId) (bytes : List UInt8)
      (received_at_micros : UInt64)
  /-- The next action of the fan-out. -/
  | advance
  | register (viewer : UserId)
  | unregister (viewer : UserId)
  /-- The sender task of a viewer takes the next datagram. -/
  | recv (viewer : UserId)
  /-- The sender task of a viewer hands its datagram to the connection and releases it. -/
  | send (viewer : UserId) (unix_time_micros : UInt64)
  /-- The receiving side of a channel is closed. -/
  | close (viewer : UserId)
  | retiredRecv (task : Nat)
  | retiredSend (task : Nat) (unix_time_micros : UInt64)

namespace RelayTasks

def start (media : MediaRelay) : RelayTasks where
  media := media
  forwarding := none
  sent := fun _ => []
  retired := []
  accepted := []

/-- The egress of a viewer is replaced. -/
def setEgress (tasks : RelayTasks) (v : UserId) (egress : ViewerEgress) : RelayTasks :=
  { tasks with media := { tasks.media with egress := tasks.media.egress.insert v egress } }

/-- The turn of a viewer begins: it is skipped, or its egress reserves. -/
def reserve (tasks : RelayTasks) (forwarding : Forwarding) (v : UserId) (viewers : List UserId) :
    RelayTasks :=
  if v = forwarding.publisher_id then
    { tasks with forwarding := some (forwarding.skip viewers 0) }
  else
    match tasks.media.egress[v]? with
    | none => { tasks with forwarding := some (forwarding.skip viewers 1) }
    | some egress =>
        if forwarding.published.media_kind = .voice ∧
            (forwarding.state.voiceStateForStream forwarding.datagram.stream_id v).any
              fun voice_state => voice_state.deafened then
          { tasks with forwarding := some (forwarding.skip viewers 1) }
        else
          match tryReserveStreamDepth egress.stream_depths forwarding.datagram.stream_id
              forwarding.datagram.media_duration_ms tasks.media.viewer_queue_budget_ms with
          | none => { tasks with forwarding := some (forwarding.skip viewers 1) }
          | some depths =>
              { tasks.setEgress v { egress with stream_depths := depths } with
                forwarding := some { forwarding with viewers := viewers, turn := .reserved v } }

/-- `try_send`. -/
def trySend (tasks : RelayTasks) (forwarding : Forwarding) (v : UserId) : RelayTasks :=
  match tasks.media.egress[v]? with
  | none => tasks
  | some egress =>
      match egress.channel.trySend forwarding.datagram with
      | .ok channel =>
          { tasks.setEgress v { egress with channel := channel } with
            forwarding := some
              { forwarding with
                turn := .next
                summary :=
                  { forwarding.summary with queued := forwarding.summary.queued + 1 } } }
      | .error _ => { tasks with forwarding := some { forwarding with turn := .refused v } }

/-- The release after a send that failed. -/
def rollBack (tasks : RelayTasks) (forwarding : Forwarding) (v : UserId) : RelayTasks :=
  match tasks.media.egress[v]? with
  | none => tasks
  | some egress =>
      { tasks.setEgress v
          { egress with
            stream_depths := releaseStreamDepth egress.stream_depths
              forwarding.datagram.stream_id forwarding.datagram.media_duration_ms } with
        forwarding := some (forwarding.skip forwarding.viewers 1) }

def advance (tasks : RelayTasks) : RelayTasks :=
  match tasks.forwarding with
  | none => tasks
  | some forwarding =>
      match forwarding.turn, forwarding.viewers with
      | .next, [] => { tasks with forwarding := none }
      | .next, v :: viewers => tasks.reserve forwarding v viewers
      | .reserved v, _ => tasks.trySend forwarding v
      | .refused v, _ => tasks.rollBack forwarding v

/-- The registration of a viewer ends, and its sender task is told to stop. -/
def retire (tasks : RelayTasks) (v : UserId) : List SenderTask :=
  match tasks.media.egress[v]? with
  | none => tasks.retired
  | some egress => tasks.retired ++ [⟨egress, tasks.sent v⟩]

/-- While a packet is forwarded, only the fan-out and the sender tasks proceed. -/
def step (tasks : RelayTasks) : TaskEvent → RelayTasks
  | .datagram state publisher_id bytes received_at_micros =>
      match tasks.forwarding, MediaPacket.decode bytes with
      | none, some (.ok packet) =>
          match tasks.media.beginForward state publisher_id packet received_at_micros with
          | none => tasks
          | some forwarding =>
              { tasks with
                forwarding := some forwarding
                accepted := tasks.accepted ++ [⟨publisher_id, packet, received_at_micros⟩] }
      | _, _ => tasks
  | .advance => tasks.advance
  | .register v =>
      match tasks.forwarding with
      | some _ => tasks
      | none =>
          { tasks with
            media := tasks.media.register v
            sent := Function.update tasks.sent v []
            retired := tasks.retire v }
  | .unregister v =>
      match tasks.forwarding with
      | some _ => tasks
      | none =>
          { tasks with
            media := tasks.media.unregister v
            sent := Function.update tasks.sent v []
            retired := tasks.retire v }
  | .recv v => { tasks with media := tasks.media.recvEgress v }
  | .send v unix_time_micros =>
      match tasks.media.egress[v]? with
      | none => tasks
      | some egress =>
          { tasks with
            media := tasks.media.releaseEgress v
            sent := Function.update tasks.sent v
              (tasks.sent v ++ egress.outgoing unix_time_micros) }
  | .close v =>
      { tasks with
        media := tasks.media.updateEgress v fun egress =>
          { egress with channel := { egress.channel with closed := true } } }
  | .retiredRecv i => { tasks with retired := tasks.retired.modify i SenderTask.recv }
  | .retiredSend i unix_time_micros =>
      { tasks with retired := tasks.retired.modify i fun task => task.send unix_time_micros }

/-- What a packet that passes the checks starts. -/
theorem beginForward_eq_some {media : MediaRelay} {state : ControlState} {publisher_id : UserId}
    {packet : MediaPacket} {received : UInt64} {forwarding : Forwarding}
    (h : media.beginForward state publisher_id packet received = some forwarding) :
    ∃ published, state.publishedStream packet.header.streamId = some published ∧
      published.publisher_id = publisher_id ∧
      forwarding =
        { state := state
          published := published
          publisher_id := publisher_id
          datagram := MediaRelay.datagramFor media published packet received
          viewers := state.subscribersForStream packet.header.streamId
          turn := .next
          summary := { stream_id := packet.header.streamId, queued := 0, dropped := 0 } } := by
  unfold MediaRelay.beginForward at h
  simp only at h
  cases hpublished : state.publishedStream packet.header.streamId with
  | none =>
      rw [hpublished] at h
      cases h
  | some published =>
      rw [hpublished] at h
      simp only at h
      split at h
      · cases h
      · next hchecks =>
          split at h
          · cases h
          · cases hencode : packet.encode with
            | error error =>
                rw [hencode] at h
                cases h
            | ok bytes =>
                rw [hencode] at h
                have hpublisher : published.publisher_id = publisher_id := by
                  by_contra hne
                  exact hchecks (.inl hne)
                exact ⟨published, rfl, hpublisher, (Option.some.inj h).symm⟩

/-! ## The steps together -/

/-- The state while a packet is forwarded. -/
def during (tasks : RelayTasks) (acc : MediaRelay × MediaForwardSummary) (forwarding : Forwarding)
    (viewers : List UserId) : RelayTasks :=
  { tasks with
    media := acc.1
    forwarding := some { forwarding with viewers := viewers, turn := .next, summary := acc.2 } }

/-- The actions for one viewer, with nothing between them, are one turn of the loop. -/
theorem advance_viewer (tasks : RelayTasks) (acc : MediaRelay × MediaForwardSummary)
    (forwarding : Forwarding) (v : UserId) (viewers : List UserId) :
    ∃ n, advance^[n] (tasks.during acc forwarding (v :: viewers))
      = tasks.during (MediaRelay.forwardTo forwarding.state forwarding.published
          forwarding.publisher_id forwarding.datagram acc v) forwarding viewers := by
  obtain ⟨media, summary⟩ := acc
  have hturn : (tasks.during (media, summary) forwarding (v :: viewers)).advance
      = (tasks.during (media, summary) forwarding (v :: viewers)).reserve
          { forwarding with viewers := v :: viewers, turn := .next, summary := summary } v
          viewers := rfl
  unfold MediaRelay.forwardTo
  simp only
  unfold reserve at hturn
  by_cases hpub : v = forwarding.publisher_id
  · -- the publisher itself is passed over
    refine ⟨1, ?_⟩
    rw [if_pos hpub, Function.iterate_one, hturn, if_pos hpub]
    rfl
  · rw [if_neg hpub] at hturn ⊢
    have hmedia : (tasks.during (media, summary) forwarding (v :: viewers)).media = media := rfl
    rw [hmedia] at hturn
    cases hegress : media.egress[v]? with
    | none =>
        -- nobody registered
        refine ⟨1, ?_⟩
        rw [Function.iterate_one, hturn, hegress]
        rfl
    | some egress =>
        rw [hegress] at hturn
        simp only at hturn ⊢
        by_cases hdeaf : forwarding.published.media_kind = .voice ∧
            (forwarding.state.voiceStateForStream forwarding.datagram.stream_id v).any
              (fun voice_state => voice_state.deafened) = true
        · -- deafened
          refine ⟨1, ?_⟩
          rw [Function.iterate_one, hturn, if_pos hdeaf, if_pos hdeaf]
          rfl
        · rw [if_neg hdeaf] at hturn ⊢
          unfold ViewerEgress.offer
          cases hreserve : tryReserveStreamDepth egress.stream_depths
              forwarding.datagram.stream_id forwarding.datagram.media_duration_ms
              media.viewer_queue_budget_ms with
          | none =>
              -- over the budget: nothing was reserved
              refine ⟨1, ?_⟩
              rw [hreserve] at hturn
              rw [Function.iterate_one, hturn]
              simp only [insert_of_get hegress]
              rfl
          | some depths =>
              rw [hreserve] at hturn
              simp only at hturn
              -- reserved; the send and perhaps the release follow
              have hown : (media.egress.insert v { egress with stream_depths := depths })[v]?
                  = some { egress with stream_depths := depths } := by
                rw [get_insert, if_pos rfl]
              cases hsend : egress.channel.trySend forwarding.datagram with
              | ok channel =>
                  refine ⟨2, ?_⟩
                  rw [Function.iterate_succ_apply, Function.iterate_one, hturn]
                  simp only [advance, trySend, setEgress, during, hown, hsend, insert_insert]
                  rfl
              | error error =>
                  refine ⟨3, ?_⟩
                  rw [Function.iterate_succ_apply, Function.iterate_succ_apply,
                    Function.iterate_one, hturn]
                  simp only [advance, trySend, rollBack, setEgress, during, hown, hsend,
                    insert_insert]
                  rfl

/-- The whole loop, with nothing between its actions. -/
theorem advance_viewers (tasks : RelayTasks) (acc : MediaRelay × MediaForwardSummary)
    (forwarding : Forwarding) (viewers : List UserId) :
    ∃ n, advance^[n] (tasks.during acc forwarding viewers)
      = tasks.during (viewers.foldl (MediaRelay.forwardTo forwarding.state forwarding.published
          forwarding.publisher_id forwarding.datagram) acc) forwarding [] := by
  induction viewers generalizing acc with
  | nil => exact ⟨0, rfl⟩
  | cons v viewers ih =>
      obtain ⟨n, hn⟩ := advance_viewer tasks acc forwarding v viewers
      obtain ⟨m, hm⟩ := ih (MediaRelay.forwardTo forwarding.state forwarding.published
        forwarding.publisher_id forwarding.datagram acc v)
      refine ⟨m + n, ?_⟩
      rw [Function.iterate_add_apply, hn, hm, List.foldl_cons]

/-- The checks and the loop make up `forward_media_packet`. -/
theorem forwardMediaPacket_eq (relay : MediaRelay) (state : ControlState) (publisher_id : UserId)
    (packet : MediaPacket) (received : UInt64) :
    relay.forwardMediaPacket state publisher_id packet received =
      match relay.beginForward state publisher_id packet received with
      | none => (relay, MediaRelay.rejectedSummary packet.header.streamId)
      | some forwarding =>
          forwarding.viewers.foldl (MediaRelay.forwardTo forwarding.state forwarding.published
            forwarding.publisher_id forwarding.datagram) (relay, forwarding.summary) := by
  unfold MediaRelay.forwardMediaPacket MediaRelay.beginForward
  simp only
  cases state.publishedStream packet.header.streamId with
  | none => rfl
  | some published =>
      simp only
      split
      · rfl
      · split
        · rfl
        · cases packet.encode with
          | error error => rfl
          | ok bytes => rfl

/-- Left alone, the machine forwards a datagram as `forward_media_packet` does. -/
theorem datagram_forwarded (media : MediaRelay) {bytes : List UInt8} {packet : MediaPacket}
    (hdecode : MediaPacket.decode bytes = some (.ok packet)) (state : ControlState)
    (publisher_id : UserId) (received : UInt64) :
    ∃ n, (advance^[n] ((start media).step (.datagram state publisher_id bytes received))).media
        = (media.forwardMediaPacket state publisher_id packet received).1 ∧
      (advance^[n] ((start media).step (.datagram state publisher_id bytes received))).forwarding
        = none := by
  have hstep : (start media).step (.datagram state publisher_id bytes received) =
      match media.beginForward state publisher_id packet received with
      | none => start media
      | some forwarding =>
          { start media with
            forwarding := some forwarding
            accepted := [⟨publisher_id, packet, received⟩] } := by
    simp only [step, hdecode, start, List.nil_append]
  rw [hstep, forwardMediaPacket_eq]
  cases hbegin : media.beginForward state publisher_id packet received with
  | none => exact ⟨0, rfl, rfl⟩
  | some forwarding =>
      have hturn : forwarding.turn = .next := by
        obtain ⟨published, -, -, rfl⟩ := beginForward_eq_some hbegin
        rfl
      obtain ⟨n, hn⟩ := advance_viewers
        { start media with accepted := [⟨publisher_id, packet, received⟩] }
        (media, forwarding.summary) forwarding forwarding.viewers
      have hfirst : ({ start media with
            forwarding := some forwarding
            accepted := [⟨publisher_id, packet, received⟩] } : RelayTasks)
          = during { start media with accepted := [⟨publisher_id, packet, received⟩] }
            (media, forwarding.summary) forwarding forwarding.viewers := by
        unfold during
        rw [← hturn]
        rfl
      refine ⟨1 + n, ?_⟩
      simp only
      rw [Function.iterate_add_apply, Function.iterate_one, hfirst, hn]
      exact ⟨rfl, rfl⟩

/-! ## What one step does -/

/-- A datagram that comes in starts a fan-out, or is dropped. -/
theorem step_datagram (tasks : RelayTasks) (state : ControlState) (publisher_id : UserId)
    (bytes : List UInt8) (received : UInt64) :
    tasks.step (.datagram state publisher_id bytes received) = tasks ∨
      ∃ packet forwarding, tasks.forwarding = none ∧
        MediaPacket.decode bytes = some (.ok packet) ∧
        tasks.media.beginForward state publisher_id packet received = some forwarding ∧
        tasks.step (.datagram state publisher_id bytes received) =
          { tasks with
            forwarding := some forwarding
            accepted := tasks.accepted ++ [⟨publisher_id, packet, received⟩] } := by
  cases hidle : tasks.forwarding with
  | some forwarding =>
      left
      simp only [step, hidle]
  | none =>
      cases hdecode : MediaPacket.decode bytes with
      | none =>
          left
          simp only [step, hidle, hdecode]
      | some result =>
          cases result with
          | error error =>
              left
              simp only [step, hidle, hdecode]
          | ok packet =>
              cases hbegin : tasks.media.beginForward state publisher_id packet received with
              | none =>
                  left
                  simp only [step, hidle, hdecode, hbegin]
              | some forwarding =>
                  right
                  refine ⟨packet, forwarding, rfl, rfl, hbegin, ?_⟩
                  simp only [step, hidle, hdecode, hbegin]

theorem step_send (tasks : RelayTasks) (v : UserId) (now : UInt64) :
    tasks.step (.send v now) =
      match tasks.media.egress[v]? with
      | none => tasks
      | some egress =>
          { tasks with
            media := tasks.media.releaseEgress v
            sent := Function.update tasks.sent v (tasks.sent v ++ egress.outgoing now) } := rfl

/-- A registration begins or ends while no packet is forwarded. -/
theorem step_registration (tasks : RelayTasks) (v : UserId) :
    (tasks.step (.register v) = tasks ∨ tasks.forwarding = none ∧
      tasks.step (.register v) =
        { tasks with
          media := tasks.media.register v
          sent := Function.update tasks.sent v []
          retired := tasks.retire v }) ∧
    (tasks.step (.unregister v) = tasks ∨ tasks.forwarding = none ∧
      tasks.step (.unregister v) =
        { tasks with
          media := tasks.media.unregister v
          sent := Function.update tasks.sent v []
          retired := tasks.retire v }) := by
  cases hidle : tasks.forwarding with
  | some forwarding =>
      constructor
      · left
        simp only [step, hidle]
      · left
        simp only [step, hidle]
  | none =>
      constructor
      · right
        refine ⟨rfl, ?_⟩
        simp only [step, hidle]
      · right
        refine ⟨rfl, ?_⟩
        simp only [step, hidle]

/-- The datagram that the fan-out has reserved for a viewer and not yet sent or released. -/
def reservedFor (tasks : RelayTasks) (v : UserId) : List EgressDatagram :=
  match tasks.forwarding with
  | none => []
  | some forwarding => forwarding.reservedFor v

/-- The actions of the fan-out, each with what it found and what it leaves. -/
inductive AdvanceCase (tasks : RelayTasks) (forwarding : Forwarding) : RelayTasks → Prop
  | finished (hturn : forwarding.turn = .next) (hviewers : forwarding.viewers = []) :
      AdvanceCase tasks forwarding { tasks with forwarding := none }
  | skipped (v : UserId) (viewers : List UserId) (dropped : Nat)
      (hturn : forwarding.turn = .next) (hviewers : forwarding.viewers = v :: viewers) :
      AdvanceCase tasks forwarding
        { tasks with forwarding := some (forwarding.skip viewers dropped) }
  | reserved (v : UserId) (viewers : List UserId) (egress : ViewerEgress) (depths : StreamDepths)
      (hturn : forwarding.turn = .next) (hviewers : forwarding.viewers = v :: viewers)
      (hegress : tasks.media.egress[v]? = some egress)
      (hreserve : tryReserveStreamDepth egress.stream_depths forwarding.datagram.stream_id
        forwarding.datagram.media_duration_ms tasks.media.viewer_queue_budget_ms = some depths) :
      AdvanceCase tasks forwarding
        { tasks.setEgress v { egress with stream_depths := depths } with
          forwarding := some { forwarding with viewers := viewers, turn := .reserved v } }
  | sent (v : UserId) (egress : ViewerEgress) (channel : Channel EgressDatagram)
      (summary : MediaForwardSummary) (hturn : forwarding.turn = .reserved v)
      (hegress : tasks.media.egress[v]? = some egress)
      (hsend : egress.channel.trySend forwarding.datagram = .ok channel) :
      AdvanceCase tasks forwarding
        { tasks.setEgress v { egress with channel := channel } with
          forwarding := some { forwarding with turn := .next, summary := summary } }
  | refused (v : UserId) (egress : ViewerEgress) (hturn : forwarding.turn = .reserved v)
      (hegress : tasks.media.egress[v]? = some egress) :
      AdvanceCase tasks forwarding
        { tasks with forwarding := some { forwarding with turn := .refused v } }
  | rolledBack (v : UserId) (egress : ViewerEgress) (hturn : forwarding.turn = .refused v)
      (hegress : tasks.media.egress[v]? = some egress) :
      AdvanceCase tasks forwarding
        { tasks.setEgress v
            { egress with
              stream_depths := releaseStreamDepth egress.stream_depths
                forwarding.datagram.stream_id forwarding.datagram.media_duration_ms } with
          forwarding := some (forwarding.skip forwarding.viewers 1) }
  | stuck (v : UserId) (hturn : forwarding.turn = .reserved v ∨ forwarding.turn = .refused v)
      (hegress : tasks.media.egress[v]? = none) :
      AdvanceCase tasks forwarding tasks

theorem advance_cases {tasks : RelayTasks} {forwarding : Forwarding}
    (hforwarding : tasks.forwarding = some forwarding) :
    AdvanceCase tasks forwarding tasks.advance := by
  unfold advance
  rw [hforwarding]
  simp only
  cases hturn : forwarding.turn with
  | next =>
      cases hviewers : forwarding.viewers with
      | nil => exact .finished hturn hviewers
      | cons v viewers =>
          simp only
          unfold reserve
          split
          · exact .skipped v viewers 0 hturn hviewers
          · split
            · exact .skipped v viewers 1 hturn hviewers
            · next egress hegress =>
                split
                · exact .skipped v viewers 1 hturn hviewers
                · split
                  · exact .skipped v viewers 1 hturn hviewers
                  · next depths hreserve =>
                      exact .reserved v viewers egress depths hturn hviewers hegress hreserve
  | reserved v =>
      simp only
      unfold trySend
      split
      · next hegress => exact .stuck v (.inl hturn) hegress
      · next egress hegress =>
          split
          · next channel hsend => exact .sent v egress channel _ hturn hegress hsend
          · exact .refused v egress hturn hegress
  | refused v =>
      simp only
      unfold rollBack
      split
      · next hegress => exact .stuck v (.inr hturn) hegress
      · next egress hegress => exact .rolledBack v egress hturn hegress

end RelayTasks

end TeamView.Relay
