import TeamView.Relay.EgressBudget

set_option autoImplicit false

/-! # Whether a frame fits an idle viewer

A fragment is charged its share of the duration of its frame, and at least one millisecond. A
frame with more fragments than milliseconds is therefore charged more than it lasts. The
fragments of a frame cost no more than the frame, and all of them reach an idle viewer, exactly
when there are no more of them than milliseconds in the frame and the viewer's channel has room
for them (`frame_fits_iff`).
-/

namespace TeamView.Relay

open TeamView.Protocol BTree MachineInt Runs

/-! ## Charges -/

/-- The frame rate that `packet_media_duration_ms` reads. -/
def frameRate (stream : PublishedStream) : Nat :=
  (stream.config.map fun config => config.frames_per_second).getD stream.target_frames_per_second

/-- The duration of a frame that a viewer's budget allows for. -/
def frameMs (stream : PublishedStream) (budget : Nat) : Nat :=
  min (divCeil 1000 (frameRate stream)) budget

theorem frameRate_pos {stream : PublishedStream} (hrange : ControlState.InRange stream) :
    1 ≤ frameRate stream := by
  have hmin : 1 ≤ minTargetFramesPerSecond := by decide
  unfold frameRate
  cases hconfig : stream.config with
  | none => exact hmin.trans hrange.frames.1
  | some config => exact hmin.trans (hrange.config_frames config hconfig).1

/-- Every fragment of a frame is charged the same. -/
theorem packetMediaDurationMs_eq {stream : PublishedStream}
    (hrange : ControlState.InRange stream) {packet : MediaPacket} {n budget : Nat}
    (hcount : packet.header.fragment_count.toNat = n) (hn : 1 ≤ n) (hbudget : 1 ≤ budget)
    (hwidth : budget ≤ u16Max) :
    packetMediaDurationMs packet stream budget = max (frameMs stream budget / n) 1 := by
  have hrate := frameRate_pos hrange
  have hframe : frameMs stream budget / n ≤ u16Max :=
    calc frameMs stream budget / n ≤ frameMs stream budget := Nat.div_le_self _ _
      _ ≤ budget := Nat.min_le_right _ _
      _ ≤ u16Max := hwidth
  have hone : 1 ≤ u16Max := by decide
  unfold packetMediaDurationMs
  simp only [hcount]
  rw [Nat.max_eq_left hn, Nat.max_eq_left hbudget]
  show min (max (min (divCeil 1000 (max (frameRate stream) 1)) budget / n) 1) u16Max = _
  rw [Nat.max_eq_left hrate, ← frameMs]
  omega

/-- `n` equal charges of at least one millisecond fit the frame exactly when `n` does. -/
theorem charges_le_iff {n frame : Nat} (hn : 1 ≤ n) :
    n * max (frame / n) 1 ≤ frame ↔ n ≤ frame := by
  constructor
  · intro hsum
    calc n = n * 1 := (Nat.mul_one n).symm
      _ ≤ n * max (frame / n) 1 := Nat.mul_le_mul_left n (Nat.le_max_right _ _)
      _ ≤ frame := hsum
  · intro hle
    have hshare : 1 ≤ frame / n := (Nat.one_le_div_iff hn).mpr hle
    rw [Nat.max_eq_left hshare]
    exact Nat.mul_div_le frame n

/-! ## Offering the fragments of a frame -/

namespace ViewerEgress

/-- The egress after the datagrams of a list were offered in order. -/
def offerAll (egress : ViewerEgress) (datagrams : List EgressDatagram) (budget : Nat) :
    ViewerEgress :=
  datagrams.foldl (fun egress datagram => (egress.offer datagram budget).1) egress

theorem offerAll_capacity (egress : ViewerEgress) (datagrams : List EgressDatagram)
    (budget : Nat) :
    (egress.offerAll datagrams budget).channel.capacity = egress.channel.capacity :=
  run_fixed (fun (egress : ViewerEgress) datagram => (egress.offer datagram budget).1)
    (fun egress => egress.channel.capacity)
    (fun egress datagram => offer_capacity egress datagram budget) egress datagrams

/-- An offer that stays within the budget and finds room. -/
theorem offer_of_fits {egress : ViewerEgress} {datagram : EgressDatagram} {budget : Nat}
    (hfits : (depthOf egress.stream_depths datagram.stream_id).queued_media_ms +
      datagram.media_duration_ms ≤ budget) (hwidth : budget ≤ u16Max)
    (hroom : egress.channel.HasRoom) :
    (egress.offer datagram budget).1.channel.queue = egress.channel.queue ++ [datagram] ∧
      (egress.offer datagram budget).1.channel.closed = egress.channel.closed ∧
      (depthOf (egress.offer datagram budget).1.stream_depths
        datagram.stream_id).queued_media_ms =
          (depthOf egress.stream_depths datagram.stream_id).queued_media_ms +
            datagram.media_duration_ms := by
  have hnext : satAdd u16Max (depthOf egress.stream_depths datagram.stream_id).queued_media_ms
      (min datagram.media_duration_ms u16Max) =
        (depthOf egress.stream_depths datagram.stream_id).queued_media_ms +
          datagram.media_duration_ms := by
    rw [Nat.min_eq_left (by omega), satAdd_eq (by omega)]
  have hsome : (tryReserveStreamDepth egress.stream_depths datagram.stream_id
      datagram.media_duration_ms budget).isSome = true := by
    rw [tryReserve_isSome_iff, hnext]
    exact hfits
  obtain ⟨depths, hreserve⟩ := Option.isSome_iff_exists.mp hsome
  obtain ⟨channel, hsend⟩ := (Channel.trySend_isOk_iff egress.channel datagram).mpr hroom
  obtain ⟨-, hqueue, -, hclosed⟩ := (Channel.trySend_ok_iff _ _ _).mp hsend
  have hoffer : (egress.offer datagram budget).1
      = { egress with channel := channel, stream_depths := depths } := by
    unfold ViewerEgress.offer
    rw [hreserve]
    simp only [hsend]
  rw [hoffer]
  refine ⟨hqueue, hclosed, ?_⟩
  show (depthOf depths datagram.stream_id).queued_media_ms = _
  rw [depthOf_reserved hreserve, if_pos rfl]
  exact hnext

/-- Equal charges that together stay within the budget all go in, when the channel has room. -/
theorem offerAll_of_fits (s : StreamId) (charge : Nat) {budget : Nat} (hwidth : budget ≤ u16Max)
    {datagrams : List EgressDatagram}
    (hall : ∀ datagram ∈ datagrams,
      datagram.stream_id = s ∧ datagram.media_duration_ms = charge)
    {egress : ViewerEgress} (hopen : egress.channel.closed = false)
    (hfits : (depthOf egress.stream_depths s).queued_media_ms + datagrams.length * charge
      ≤ budget)
    (hroom : egress.channel.queue.length + datagrams.length ≤ egress.channel.capacity) :
    (egress.offerAll datagrams budget).channel.queue = egress.channel.queue ++ datagrams := by
  -- the invariant of the loop is the hypotheses, with what is charged moved into the depth
  induction datagrams generalizing egress with
  | nil => exact (List.append_nil _).symm
  | cons datagram datagrams ih =>
      obtain ⟨hstream, hcharge⟩ := hall datagram List.mem_cons_self
      rw [List.length_cons] at hfits hroom
      have hfirst : (depthOf egress.stream_depths datagram.stream_id).queued_media_ms +
          datagram.media_duration_ms ≤ budget := by
        rw [hstream, hcharge]
        rw [Nat.add_mul, Nat.one_mul] at hfits
        omega
      obtain ⟨hqueue, hclosed, hdepth⟩ := offer_of_fits hfirst hwidth ⟨hopen, by omega⟩
      have hcapacity := offer_capacity egress datagram budget
      have hstill : (egress.offer datagram budget).1.channel.closed = false := hclosed.trans hopen
      have hrest := ih (fun d hd => hall d (List.mem_cons_of_mem _ hd)) hstill
        (by
          rw [hstream, hcharge] at hdepth
          rw [hdepth]
          rw [Nat.add_mul, Nat.one_mul] at hfits
          omega)
        (by
          rw [hqueue, hcapacity, List.length_append, List.length_singleton]
          omega)
      show ((egress.offer datagram budget).1.offerAll datagrams budget).channel.queue = _
      rw [hrest, hqueue, List.append_assoc]
      rfl

end ViewerEgress

/-! ## Forwarding the fragments of a frame -/

namespace MediaRelay

open ControlState

/-- The fragments of one frame of `stream`, each with the time at which the relay receives it:
every fragment passes the checks on its sender and can be encoded. -/
structure FrameOf (state : ControlState) (sender : UserId) (r : RoomId) (s : StreamId)
    (stream : PublishedStream) (fragments : List (MediaPacket × UInt64)) : Prop where
  sender_may : ∀ fragment ∈ fragments, SenderMay state sender fragment.1 r stream
  stream_id : ∀ fragment ∈ fragments, fragment.1.header.streamId = s
  fragment_count : ∀ fragment ∈ fragments,
    fragment.1.header.fragment_count.toNat = fragments.length
  encodes : ∀ fragment ∈ fragments, ∃ bytes, fragment.1.encode = .ok bytes

/-- The relay after the fragments were forwarded in order, and nothing was drained. -/
def forwardFrame (relay : MediaRelay) (state : ControlState) (sender : UserId)
    (fragments : List (MediaPacket × UInt64)) : MediaRelay :=
  run step relay (fragments.map fun fragment => .forward state sender fragment.1 fragment.2)

/-- A viewer that may hear the stream is offered every fragment. -/
theorem forwardFrame_egress {state : ControlState} (hinv : RoomInvariant state) {sender : UserId}
    {r : RoomId} {s : StreamId} {stream : PublishedStream} {v : UserId}
    (hviewer : v ∈ state.subscribersForStream s) (hother : v ≠ sender)
    (hhears : ¬ Deafened state stream s v) {fragments : List (MediaPacket × UInt64)}
    (hmay : ∀ fragment ∈ fragments, SenderMay state sender fragment.1 r stream)
    (hstream : ∀ fragment ∈ fragments, fragment.1.header.streamId = s)
    (hencodes : ∀ fragment ∈ fragments, ∃ bytes, fragment.1.encode = .ok bytes)
    {relay : MediaRelay} {egress : ViewerEgress} (hegress : relay.egress[v]? = some egress) :
    (relay.forwardFrame state sender fragments).egress[v]? =
      some (egress.offerAll (fragments.map fun fragment =>
        datagramFor relay stream fragment.1 fragment.2) relay.viewer_queue_budget_ms) := by
  induction fragments generalizing relay egress with
  | nil => exact hegress
  | cons fragment fragments ih =>
      have hs := hstream fragment List.mem_cons_self
      obtain ⟨bytes, hencode⟩ := hencodes fragment List.mem_cons_self
      have hfirst : (relay.step (.forward state sender fragment.1 fragment.2)).egress[v]?
          = some (egress.offer (datagramFor relay stream fragment.1 fragment.2)
              relay.viewer_queue_budget_ms).1 := by
        show (relay.forwardMediaPacket state sender fragment.1 fragment.2).1.egress[v]? = _
        rw [forwardMediaPacket_egress hinv (hmay fragment List.mem_cons_self) hencode, hs,
          if_pos ⟨hviewer, hother, hhears⟩, hegress]
        rfl
      have hsettings := (step_settings relay (.forward state sender fragment.1 fragment.2)).1
      have hrest := ih (fun f hf => hmay f (List.mem_cons_of_mem _ hf))
        (fun f hf => hstream f (List.mem_cons_of_mem _ hf))
        (fun f hf => hencodes f (List.mem_cons_of_mem _ hf)) hfirst
      have hdatagrams : (fragments.map fun f =>
          datagramFor (relay.step (.forward state sender fragment.1 fragment.2)) stream f.1 f.2)
          = fragments.map fun f => datagramFor relay stream f.1 f.2 := by
        simp only [datagramFor, hsettings]
      rw [hdatagrams, hsettings] at hrest
      exact hrest

/-- One frame toward an idle viewer: its charges stay within the frame and all its fragments are
queued exactly when it has no more fragments than milliseconds and the viewer's channel has room
for them. -/
theorem frame_fits_iff {relay : MediaRelay} {state : ControlState} (hstate : state.Reachable)
    {sender : UserId} {r : RoomId} {s : StreamId} {stream : PublishedStream}
    {fragments : List (MediaPacket × UInt64)} (hframe : FrameOf state sender r s stream fragments)
    {v : UserId} (hviewer : v ∈ state.subscribersForStream s) (hother : v ≠ sender)
    (hhears : ¬ Deafened state stream s v) {egress : ViewerEgress}
    (hegress : relay.egress[v]? = some egress) (hopen : egress.channel.closed = false)
    (hidle : depthOf egress.stream_depths s = .zero) :
    ((fragments.map fun fragment =>
        packetMediaDurationMs fragment.1 stream relay.viewer_queue_budget_ms).sum
          ≤ min (divCeil 1000 (frameRate stream)) relay.viewer_queue_budget_ms ∧
      queueOf (relay.forwardFrame state sender fragments) v = egress.channel.queue ++
        fragments.map fun fragment => datagramFor relay stream fragment.1 fragment.2) ↔
    fragments.length ≤ min (divCeil 1000 (frameRate stream)) relay.viewer_queue_budget_ms ∧
      egress.channel.queue.length + fragments.length ≤ egress.channel.capacity := by
  have hafter := forwardFrame_egress hstate.roomInvariant hviewer hother hhears hframe.sender_may
    hframe.stream_id hframe.encodes hegress
  have hqueue : queueOf (relay.forwardFrame state sender fragments) v
      = (egress.offerAll (fragments.map fun fragment =>
          datagramFor relay stream fragment.1 fragment.2)
            relay.viewer_queue_budget_ms).channel.queue := by
    rw [queueOf, hafter]
    rfl
  rw [hqueue]
  show _ ≤ frameMs stream relay.viewer_queue_budget_ms ∧ _ ↔
    _ ≤ frameMs stream relay.viewer_queue_budget_ms ∧ _
  rcases Nat.eq_zero_or_pos fragments.length with hzero | hpos
  · -- no fragments, no charge
    obtain rfl := List.length_eq_zero_iff.mp hzero
    have hbounded := egress.channel.bounded
    exact iff_of_true ⟨Nat.zero_le _, (List.append_nil _).symm⟩ ⟨Nat.zero_le _, hbounded⟩
  · -- every fragment is charged the same, so the charges add up to a product
    have hcharge : ∀ fragment ∈ fragments,
        packetMediaDurationMs fragment.1 stream relay.viewer_queue_budget_ms
          = max (frameMs stream relay.viewer_queue_budget_ms / fragments.length) 1 := by
      intro fragment hmem
      have hin := (hframe.sender_may fragment hmem).published
      exact packetMediaDurationMs_eq (hstate.targetsOk r _ stream hin)
        (hframe.fragment_count fragment hmem) hpos relay.budget_pos relay.budget_le
    have hsum : (fragments.map fun fragment =>
        packetMediaDurationMs fragment.1 stream relay.viewer_queue_budget_ms).sum
          = fragments.length
            * max (frameMs stream relay.viewer_queue_budget_ms / fragments.length) 1 := by
      rw [List.map_congr_left hcharge, List.map_const', List.sum_replicate, smul_eq_mul]
    rw [hsum, charges_le_iff hpos]
    refine and_congr_right fun hfits => ?_
    constructor
    · intro hall
      -- the channel holds all of them, and it never exceeds its capacity
      have hbounded := (egress.offerAll (fragments.map fun fragment =>
        datagramFor relay stream fragment.1 fragment.2)
        relay.viewer_queue_budget_ms).channel.bounded
      rw [hall, ViewerEgress.offerAll_capacity, List.length_append, List.length_map] at hbounded
      exact hbounded
    · intro hroom
      -- the whole frame is within the budget, so each of its reservations is
      have htotal := (charges_le_iff hpos).mpr hfits
      have hwithin : frameMs stream relay.viewer_queue_budget_ms ≤ relay.viewer_queue_budget_ms :=
        Nat.min_le_right _ _
      refine ViewerEgress.offerAll_of_fits s
        (max (frameMs stream relay.viewer_queue_budget_ms / fragments.length) 1) relay.budget_le ?_
        hopen ?_ ?_
      · intro datagram hmem
        obtain ⟨fragment, hfragment, rfl⟩ := List.mem_map.mp hmem
        exact ⟨hframe.stream_id fragment hfragment, hcharge fragment hfragment⟩
      · rw [hidle, List.length_map]
        show 0 + _ ≤ _
        omega
      · rw [List.length_map]
        exact hroom

/-! ## A small frame and a large one

Stream 7 of `ControlSystem.watchingState` runs at the default 30 frames per second, so that a
frame lasts 34 milliseconds; the default budget is 100 milliseconds. -/

theorem watching_senderMay {packet : MediaPacket} (hstream : packet.header.streamId = 7)
    (hcodec : packet.header.codec = .h264) (htype : packet.header.packet_type = .video) :
    SenderMay ControlSystem.watchingState 1 packet 1 screenStream := by
  have hinv := ControlSystem.watchingState_reachable.roomInvariant
  have hfound : ControlSystem.watchingState.publishedStream packet.header.streamId
      = some screenStream := by
    rw [hstream]
    decide +kernel
  have hroom : (ControlSystem.watchingState.rooms[(1 : RoomId)]?.bind
      fun room => room.published_streams[(7 : StreamId)]?) = some screenStream := by
    decide +kernel
  obtain ⟨room, hget, hpub⟩ := Option.bind_eq_some_iff.mp hroom
  refine ⟨⟨room, hget, ?_⟩, rfl, hcodec.symm, htype.symm, fun hkind => by cases hkind⟩
  rw [hstream]
  exact hpub

/-- The fragments of a frame of stream 7, all received at time zero. -/
def screenFrame (n : UInt16) : List (MediaPacket × UInt64) :=
  (List.range n.toNat).map fun i =>
    ({ screenPacket with
        header :=
          { screenPacket.header with fragment_index := UInt16.ofNat i, fragment_count := n } }, 0)

theorem screenFrame_frameOf {n : UInt16}
    (hencodes : (screenFrame n).all (fun fragment => fragment.1.encode.isOk) = true) :
    FrameOf ControlSystem.watchingState 1 1 7 screenStream (screenFrame n) where
  sender_may fragment hmem := by
    obtain ⟨i, -, rfl⟩ := List.mem_map.mp hmem
    exact watching_senderMay rfl rfl rfl
  stream_id fragment hmem := by
    obtain ⟨i, -, rfl⟩ := List.mem_map.mp hmem
    rfl
  fragment_count fragment hmem := by
    obtain ⟨i, -, rfl⟩ := List.mem_map.mp hmem
    rw [screenFrame, List.length_map, List.length_range]
  encodes fragment hmem := by
    have hok := List.all_eq_true.mp hencodes fragment hmem
    cases hencode : fragment.1.encode with
    | ok bytes => exact ⟨bytes, rfl⟩
    | error error =>
        rw [hencode] at hok
        cases hok

theorem frame_fits_iff_small :
    ((screenFrame 3).map fun fragment =>
        packetMediaDurationMs fragment.1 screenStream 100).sum ≤ 34 ∧
      queueOf ((new.register 2).forwardFrame ControlSystem.watchingState 1 (screenFrame 3)) 2
        = (screenFrame 3).map fun fragment =>
            datagramFor (new.register 2) screenStream fragment.1 fragment.2 := by
  have hframe : FrameOf ControlSystem.watchingState 1 1 7 screenStream (screenFrame 3) :=
    screenFrame_frameOf (by decide +kernel)
  have hviewer : 2 ∈ ControlSystem.watchingState.subscribersForStream 7 := by decide +kernel
  have hegress : (new.register 2).egress[2]? = some (.new defaultEgressQueueCapacity) :=
    (get_insert _ _ _ _).trans (if_pos rfl)
  exact (frame_fits_iff ControlSystem.watchingState_reachable hframe hviewer (by decide)
    (by decide +kernel) hegress rfl rfl).mpr (by decide +kernel)

/-- The 101 fragments of a frame are charged 101 milliseconds, and the last one is dropped. -/
theorem large_frame_exceeds :
    FrameOf ControlSystem.watchingState 1 1 7 screenStream (screenFrame 101) ∧
      ((screenFrame 101).map fun fragment =>
        packetMediaDurationMs fragment.1 screenStream 100).sum = 101 ∧
      101 ≤ defaultEgressQueueCapacity ∧ min (divCeil 1000 (frameRate screenStream)) 100 = 34 ∧
      (queueOf ((new.register 2).forwardFrame ControlSystem.watchingState 1
        (screenFrame 101)) 2).length = 100 :=
  ⟨screenFrame_frameOf (by decide +kernel), by decide +kernel, by decide, by decide,
    by decide +kernel⟩

end MediaRelay

end TeamView.Relay
