import TeamView.Lib.Channel
import TeamView.Relay.ControlState

set_option autoImplicit false

/-! # The media relay

One bounded egress queue for each registered viewer, and the fan-out of a media packet to the
viewers of its stream (`crates/relay-server/src/media.rs`). A viewer's queue is shared by all the
streams the viewer subscribes to; next to it the relay records, for each stream, how many packets
and how many milliseconds of media are on their way to the viewer. A datagram is on its way from
its reservation until the sender task, which takes one datagram at a time from the queue, has
handed it to the connection and released it.

The source keeps `u16` and `u32` counters. They are natural numbers here, with the saturation
written out, and the budget carries the proof that it fits its width.
-/

namespace TeamView.Relay

open TeamView.Protocol BTree MachineInt

def defaultEgressQueueCapacity : Nat := 256
def defaultViewerQueueBudgetMs : UInt16 := 100

structure EgressDatagram where
  stream_id : StreamId
  packet : MediaPacket
  media_duration_ms : Nat
  deriving DecidableEq

structure EgressQueueDepth where
  queued_packets : Nat
  queued_media_ms : Nat
  deriving DecidableEq

/-- `EgressQueueDepth::default`. -/
def EgressQueueDepth.zero : EgressQueueDepth where
  queued_packets := 0
  queued_media_ms := 0

/-- What is on its way to a viewer, stream by stream. -/
abbrev StreamDepths := BTreeMap StreamId EgressQueueDepth

/-- The depth of a stream; no entry means nothing is on its way. -/
def depthOf (depths : StreamDepths) (stream_id : StreamId) : EgressQueueDepth :=
  (depths[stream_id]?).getD .zero

/-- `try_reserve_stream_depth`: `none` when the stream would exceed the budget. -/
def tryReserveStreamDepth (depths : StreamDepths) (stream_id : StreamId)
    (media_duration_ms queue_budget_ms : Nat) : Option StreamDepths :=
  let current := depthOf depths stream_id
  let next_media_ms := satAdd u16Max current.queued_media_ms (min media_duration_ms u16Max)
  if queue_budget_ms < next_media_ms then none
  else
    some (depths.insert stream_id
      { queued_packets := satAdd u32Max current.queued_packets 1
        queued_media_ms := next_media_ms })

def releaseStreamDepth (depths : StreamDepths) (stream_id : StreamId)
    (media_duration_ms : Nat) : StreamDepths :=
  match depths[stream_id]? with
  | none => depths
  | some depth =>
      let queued_packets := depth.queued_packets - 1
      let queued_media_ms := depth.queued_media_ms - media_duration_ms
      if queued_packets = 0 ∧ queued_media_ms = 0 then depths.erase stream_id
      else depths.insert stream_id ⟨queued_packets, queued_media_ms⟩

/-! ## One viewer -/

/-- The egress of a viewer: its channel, its recorded depths, and the datagram that the sender
task has taken from the channel and not yet released. -/
structure ViewerEgress where
  channel : Channel EgressDatagram
  stream_depths : StreamDepths
  sending : Option EgressDatagram

namespace ViewerEgress

def new (capacity : Nat) : ViewerEgress where
  channel := .empty capacity
  stream_depths := ∅
  sending := none

/-- The body of the fan-out loop for a viewer that may hear the stream: reserve, then send, and
release again when the channel refuses. -/
def offer (egress : ViewerEgress) (datagram : EgressDatagram) (queue_budget_ms : Nat) :
    ViewerEgress × Bool :=
  match tryReserveStreamDepth egress.stream_depths datagram.stream_id
      datagram.media_duration_ms queue_budget_ms with
  | none => (egress, false)
  | some depths =>
      match egress.channel.trySend datagram with
      | .ok channel => ({ egress with channel := channel, stream_depths := depths }, true)
      | .error _ =>
          ({ egress with
              stream_depths :=
                releaseStreamDepth depths datagram.stream_id datagram.media_duration_ms }, false)

/-- The sender task takes the next datagram, once it has released the one before. -/
def recv (egress : ViewerEgress) : ViewerEgress :=
  match egress.sending, egress.channel.recv with
  | none, some (datagram, channel) =>
      { egress with channel := channel, sending := some datagram }
  | _, _ => egress

/-- The sender task has handed its datagram to the connection and releases it. -/
def release (egress : ViewerEgress) : ViewerEgress :=
  match egress.sending with
  | none => egress
  | some datagram =>
      { egress with
        stream_depths :=
          releaseStreamDepth egress.stream_depths datagram.stream_id datagram.media_duration_ms
        sending := none }

end ViewerEgress

/-! ## The relay -/

structure MediaRelay where
  egress : BTreeMap UserId ViewerEgress
  egress_queue_capacity : Nat
  viewer_queue_budget_ms : Nat
  capacity_pos : 1 ≤ egress_queue_capacity
  budget_pos : 1 ≤ viewer_queue_budget_ms
  budget_le : viewer_queue_budget_ms ≤ u16Max

/-- `packet_media_duration_ms`: the share of a fragment in the duration of its frame. -/
def packetMediaDurationMs (packet : MediaPacket) (published : PublishedStream)
    (queue_budget_ms : Nat) : Nat :=
  let fps := max ((published.config.map fun config => config.frames_per_second).getD
    published.target_frames_per_second) 1
  let frame_duration_ms := min (divCeil 1000 fps) (max queue_budget_ms 1)
  let fragment_count := max packet.header.fragment_count.toNat 1
  min (max (frame_duration_ms / fragment_count) 1) u16Max

def mediaKindPacketType : MediaKind → PacketType
  | .screen => .video
  | .voice => .audio
  | .probe => .probe

def packetForEgress (packet : MediaPacket) (server_receive_time_micros : UInt64) : MediaPacket :=
  { packet with
    header :=
      { packet.header with
        server_receive_time_micros := server_receive_time_micros
        server_send_time_micros := 0 } }

namespace MediaRelay

def withEgressLimits (egress_queue_capacity : Nat) (viewer_queue_budget_ms : UInt16) :
    MediaRelay where
  egress := ∅
  egress_queue_capacity := max egress_queue_capacity 1
  viewer_queue_budget_ms := max viewer_queue_budget_ms.toNat 1
  capacity_pos := Nat.le_max_right _ _
  budget_pos := Nat.le_max_right _ _
  budget_le := by
    have hlt := viewer_queue_budget_ms.toNat_lt
    unfold u16Max
    omega

def new : MediaRelay :=
  withEgressLimits defaultEgressQueueCapacity defaultViewerQueueBudgetMs

def withViewerQueueBudgetMs (viewer_queue_budget_ms : UInt16) : MediaRelay :=
  withEgressLimits defaultEgressQueueCapacity viewer_queue_budget_ms

/-- `register`: a viewer that is registered already loses its queue and its sender task. -/
def register (relay : MediaRelay) (user_id : UserId) : MediaRelay :=
  { relay with egress := relay.egress.insert user_id (.new relay.egress_queue_capacity) }

def unregister (relay : MediaRelay) (user_id : UserId) : MediaRelay :=
  { relay with egress := relay.egress.erase user_id }

/-- Apply `f` to the egress of a viewer, if there is one. -/
def updateEgress (relay : MediaRelay) (user_id : UserId) (f : ViewerEgress → ViewerEgress) :
    MediaRelay :=
  match relay.egress[user_id]? with
  | none => relay
  | some egress => { relay with egress := relay.egress.insert user_id (f egress) }

/-- The sender task of a viewer takes a datagram. -/
def recvEgress (relay : MediaRelay) (user_id : UserId) : MediaRelay :=
  relay.updateEgress user_id .recv

/-- The sender task of a viewer releases the datagram it has sent. -/
def releaseEgress (relay : MediaRelay) (user_id : UserId) : MediaRelay :=
  relay.updateEgress user_id .release

/-! ## Fan-out -/

/-- The report of a packet that is rejected before the fan-out. -/
def rejectedSummary (stream_id : StreamId) : MediaForwardSummary where
  stream_id := stream_id
  queued := 0
  dropped := 1

/-- One turn of the fan-out loop. -/
def forwardTo (state : ControlState) (published : PublishedStream) (publisher_id : UserId)
    (datagram : EgressDatagram) (acc : MediaRelay × MediaForwardSummary)
    (subscriber_id : UserId) : MediaRelay × MediaForwardSummary :=
  let (relay, summary) := acc
  if subscriber_id = publisher_id then acc
  else
    match relay.egress[subscriber_id]? with
    | none => (relay, { summary with dropped := summary.dropped + 1 })
    | some egress =>
        if published.media_kind = .voice ∧
            (state.voiceStateForStream datagram.stream_id subscriber_id).any
              fun voice_state => voice_state.deafened then
          (relay, { summary with dropped := summary.dropped + 1 })
        else
          let (egress, queued) := egress.offer datagram relay.viewer_queue_budget_ms
          ({ relay with egress := relay.egress.insert subscriber_id egress },
            if queued then { summary with queued := summary.queued + 1 }
            else { summary with dropped := summary.dropped + 1 })

def forwardMediaPacket (relay : MediaRelay) (state : ControlState) (publisher_id : UserId)
    (packet : MediaPacket) (server_receive_time_micros : UInt64) :
    MediaRelay × MediaForwardSummary :=
  let stream_id := packet.header.streamId
  match state.publishedStream stream_id with
  | none => (relay, rejectedSummary stream_id)
  | some published =>
      if published.publisher_id ≠ publisher_id ∨ published.codec ≠ packet.header.codec ∨
          mediaKindPacketType published.media_kind ≠ packet.header.packet_type then
        (relay, rejectedSummary stream_id)
      else if published.media_kind = .voice ∧
          state.voicePublisherCanSend stream_id publisher_id = false then
        (relay, rejectedSummary stream_id)
      else
        match packet.encode with
        | .error _ => (relay, rejectedSummary stream_id)
        | .ok _ =>
            let datagram : EgressDatagram :=
              { stream_id := stream_id
                packet := packetForEgress packet server_receive_time_micros
                media_duration_ms :=
                  packetMediaDurationMs packet published relay.viewer_queue_budget_ms }
            (state.subscribersForStream stream_id).foldl
              (forwardTo state published publisher_id datagram)
              (relay, { stream_id := stream_id, queued := 0, dropped := 0 })

end MediaRelay

end TeamView.Relay
