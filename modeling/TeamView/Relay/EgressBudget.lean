import TeamView.Relay.MediaIsolation
import TeamView.Relay.Runtime
import TeamView.Relay.Targets

set_option autoImplicit false

/-! # The media budget of a viewer's streams

All streams of a viewer share one bounded channel, and the relay bounds each stream by the media
time it has on its way to the viewer. What it records for a stream is exactly what is on its way:
the number of its datagrams in the channel and in the hands of the sender task, and the sum of
their durations (`ViewerEgress.Accounted`). So whether a datagram is enqueued depends on its own
stream and on the room in the channel, and on nothing else (`forward_enqueues_iff`).
-/

namespace TeamView.Relay

open TeamView.Protocol BTree MachineInt Runs

/-! ## Recorded depths -/

section Depths

variable (depths : StreamDepths) (s : StreamId)

theorem depthOf_insert (depth : EgressQueueDepth) (a : StreamId) :
    depthOf (depths.insert s depth) a = if a = s then depth else depthOf depths a := by
  unfold depthOf
  rw [get_insert]
  split <;> rfl

/-- Releasing lowers the depth of one stream; a depth that reaches zero is forgotten. -/
theorem depthOf_release (d : Nat) (a : StreamId) :
    depthOf (releaseStreamDepth depths s d) a =
      if a = s then
        ⟨(depthOf depths s).queued_packets - 1, (depthOf depths s).queued_media_ms - d⟩
      else depthOf depths a := by
  unfold releaseStreamDepth
  cases hget : depths[s]? with
  | none =>
      simp only
      split
      · next ha =>
          subst ha
          simp only [depthOf, hget, Option.getD_none, EgressQueueDepth.zero, Nat.zero_sub]
      · rfl
  | some depth =>
      have hdepth : depthOf depths s = depth := by
        rw [depthOf, hget, Option.getD_some]
      rw [hdepth]
      simp only
      split
      · next hzero =>
          unfold depthOf
          rw [get_erase]
          split
          · rw [hzero.1, hzero.2]
            rfl
          · rfl
      · exact depthOf_insert depths s _ a

/-- A reservation succeeds when the stream stays within the budget. -/
theorem tryReserve_isSome_iff (d budget : Nat) :
    (tryReserveStreamDepth depths s d budget).isSome = true ↔
      satAdd u16Max (depthOf depths s).queued_media_ms (min d u16Max) ≤ budget := by
  unfold tryReserveStreamDepth
  simp only
  split
  · next hover => simp only [Option.isSome_none, Bool.false_eq_true, false_iff]; omega
  · next hfits => simp only [Option.isSome_some, true_iff]; omega

variable {depths s}

theorem depthOf_reserved {d budget : Nat} {depths' : StreamDepths}
    (h : tryReserveStreamDepth depths s d budget = some depths') (a : StreamId) :
    depthOf depths' a =
      if a = s then
        ⟨satAdd u32Max (depthOf depths s).queued_packets 1,
          satAdd u16Max (depthOf depths s).queued_media_ms (min d u16Max)⟩
      else depthOf depths a := by
  unfold tryReserveStreamDepth at h
  simp only at h
  split at h
  · cases h
  · obtain rfl := Option.some.inj h
    exact depthOf_insert depths s _ a

end Depths

/-! ## What is on its way to one viewer -/

/-- The longest duration a fragment can be charged: a whole frame at the lowest frame rate. -/
def longestFrameMs : Nat := divCeil 1000 minTargetFramesPerSecond

namespace ViewerEgress

/-- The datagrams on their way to the viewer, the oldest first. -/
def pending (egress : ViewerEgress) : List EgressDatagram :=
  egress.sending.toList ++ egress.channel.queue

/-- Those of one stream. -/
def pendingOf (egress : ViewerEgress) (s : StreamId) : List EgressDatagram :=
  egress.pending.filter fun datagram => datagram.stream_id = s

/-- The media time of one stream on its way to the viewer. -/
def pendingMs (egress : ViewerEgress) (s : StreamId) : Nat :=
  ((egress.pendingOf s).map fun datagram => datagram.media_duration_ms).sum

/-- The recorded depths are what is on its way, and no sum of durations reaches the width of
its counter. -/
structure Accounted (egress : ViewerEgress) : Prop where
  depth : ∀ s, depthOf egress.stream_depths s =
    ⟨(egress.pendingOf s).length, egress.pendingMs s⟩
  durations : ∀ datagram ∈ egress.pending, datagram.media_duration_ms ≤ longestFrameMs
  capacity_le : (egress.channel.capacity + 2) * longestFrameMs ≤ u16Max

theorem accounted_new {capacity : Nat} (hcapacity : (capacity + 2) * longestFrameMs ≤ u16Max) :
    (new capacity).Accounted where
  depth s := by
    unfold depthOf
    have hempty : (new capacity).stream_depths[s]? = none := Std.ExtTreeMap.getElem?_empty
    rw [hempty]
    rfl
  durations datagram h := by cases h
  capacity_le := hcapacity

variable {egress : ViewerEgress}

theorem pending_length_le (egress : ViewerEgress) :
    egress.pending.length ≤ egress.channel.capacity + 1 := by
  have hbounded := egress.channel.bounded
  have hsending : egress.sending.toList.length ≤ 1 := by
    cases egress.sending with
    | none => exact Nat.zero_le 1
    | some datagram => exact le_refl 1
  rw [pending, List.length_append]
  omega

/-- One more datagram of any stream fits the width of the counter. -/
theorem Accounted.pendingMs_le (h : egress.Accounted) (s : StreamId) :
    egress.pendingMs s + longestFrameMs ≤ u16Max := by
  have hsum : egress.pendingMs s ≤ (egress.pendingOf s).length * longestFrameMs := by
    refine List.sum_le_card_nsmul _ _ ?_ |>.trans (by rw [List.length_map, smul_eq_mul])
    intro d hd
    obtain ⟨datagram, hmem, rfl⟩ := List.mem_map.mp hd
    exact h.durations datagram (List.mem_filter.mp hmem).1
  have hlength : (egress.pendingOf s).length ≤ egress.channel.capacity + 1 :=
    (List.length_filter_le _ _).trans egress.pending_length_le
  calc egress.pendingMs s + longestFrameMs
      ≤ (egress.channel.capacity + 1) * longestFrameMs + longestFrameMs :=
        Nat.add_le_add_right (hsum.trans (Nat.mul_le_mul_right _ hlength)) _
    _ = (egress.channel.capacity + 2) * longestFrameMs := by ring
    _ ≤ u16Max := h.capacity_le

/-- The counter of packets does not saturate either. -/
theorem Accounted.pendingOf_length_le (h : egress.Accounted) (s : StreamId) :
    (egress.pendingOf s).length + 1 ≤ u32Max := by
  have hlength : (egress.pendingOf s).length ≤ egress.channel.capacity + 1 :=
    (List.length_filter_le _ _).trans egress.pending_length_le
  have hcapacity := h.capacity_le
  have hlongest : longestFrameMs = 200 := by decide
  rw [hlongest] at hcapacity
  unfold u16Max at hcapacity
  unfold u32Max
  omega

section Offer

variable {datagram : EgressDatagram} {budget : Nat}

theorem pending_append {channel : Channel EgressDatagram} (depths : StreamDepths)
    (hqueue : channel.queue = egress.channel.queue ++ [datagram]) :
    ({ egress with channel := channel, stream_depths := depths } : ViewerEgress).pending
      = egress.pending ++ [datagram] := by
  show egress.sending.toList ++ channel.queue = _
  rw [hqueue, pending, List.append_assoc]

/-- A datagram at the end of the queue is the last one of its stream. -/
theorem pendingOf_append {egress' : ViewerEgress}
    (hpending : egress'.pending = egress.pending ++ [datagram]) (a : StreamId) :
    egress'.pendingOf a =
      egress.pendingOf a ++ (if a = datagram.stream_id then [datagram] else []) := by
  rw [pendingOf, hpending, List.filter_append, pendingOf]
  by_cases ha : a = datagram.stream_id
  · subst ha
    simp
  · simp [ha, Ne.symm ha]

theorem pendingMs_append {egress' : ViewerEgress}
    (hpending : egress'.pending = egress.pending ++ [datagram]) (a : StreamId) :
    egress'.pendingMs a =
      egress.pendingMs a + (if a = datagram.stream_id then datagram.media_duration_ms else 0) := by
  rw [pendingMs, pendingOf_append hpending, List.map_append, List.sum_append, pendingMs]
  split <;> rfl

/-- What a reservation records, when nothing saturates. -/
theorem Accounted.reserved (h : egress.Accounted)
    (hd : datagram.media_duration_ms ≤ longestFrameMs) {depths : StreamDepths}
    (hreserve : tryReserveStreamDepth egress.stream_depths datagram.stream_id
      datagram.media_duration_ms budget = some depths) (a : StreamId) :
    depthOf depths a =
      if a = datagram.stream_id then
        ⟨(egress.pendingOf a).length + 1, egress.pendingMs a + datagram.media_duration_ms⟩
      else depthOf egress.stream_depths a := by
  rw [depthOf_reserved hreserve]
  split
  · next ha =>
      subst ha
      have hms := h.pendingMs_le datagram.stream_id
      have hpackets := h.pendingOf_length_le datagram.stream_id
      rw [h.depth, Nat.min_eq_left (by omega)]
      simp only
      rw [satAdd_eq hpackets, satAdd_eq (by omega)]
  · rfl

/-- A datagram goes in exactly when its stream stays within the budget and the channel has
room. -/
theorem Accounted.offer_snd_iff (budget : Nat) (h : egress.Accounted)
    (hd : datagram.media_duration_ms ≤ longestFrameMs) :
    (egress.offer datagram budget).2 = true ↔
      egress.pendingMs datagram.stream_id + datagram.media_duration_ms ≤ budget ∧
        egress.channel.HasRoom := by
  have hms := h.pendingMs_le datagram.stream_id
  have hreserve := tryReserve_isSome_iff egress.stream_depths datagram.stream_id
    datagram.media_duration_ms budget
  rw [h.depth, Nat.min_eq_left (by omega)] at hreserve
  simp only at hreserve
  rw [satAdd_eq (by omega)] at hreserve
  rw [← hreserve]
  unfold offer
  cases tryReserveStreamDepth egress.stream_depths datagram.stream_id
      datagram.media_duration_ms budget with
  | none => simp
  | some depths =>
      simp only [Option.isSome_some, true_and]
      rw [← Channel.trySend_isOk_iff egress.channel datagram]
      cases egress.channel.trySend datagram with
      | error error => simp
      | ok channel => simp

theorem Accounted.send (h : egress.Accounted) (hd : datagram.media_duration_ms ≤ longestFrameMs)
    {depths : StreamDepths}
    (hreserve : tryReserveStreamDepth egress.stream_depths datagram.stream_id
      datagram.media_duration_ms budget = some depths) {channel : Channel EgressDatagram}
    (hqueue : channel.queue = egress.channel.queue ++ [datagram])
    (hcapacity : channel.capacity = egress.channel.capacity) :
    ({ egress with channel := channel, stream_depths := depths } : ViewerEgress).Accounted := by
  have hpending := pending_append depths hqueue
  refine ⟨fun a => ?_, ?_, ?_⟩
  · show depthOf depths a = _
    rw [h.reserved hd hreserve, pendingOf_append hpending, pendingMs_append hpending,
      List.length_append]
    split
    · rfl
    · rw [h.depth]
      rfl
  · intro d hmem
    rw [hpending] at hmem
    rcases List.mem_append.mp hmem with hold | hnew
    · exact h.durations d hold
    · rw [List.mem_singleton.mp hnew]
      exact hd
  · show (channel.capacity + 2) * longestFrameMs ≤ u16Max
    rw [hcapacity]
    exact h.capacity_le

theorem Accounted.offer (h : egress.Accounted)
    (hd : datagram.media_duration_ms ≤ longestFrameMs) :
    (egress.offer datagram budget).1.Accounted := by
  unfold ViewerEgress.offer
  cases hreserve : tryReserveStreamDepth egress.stream_depths datagram.stream_id
      datagram.media_duration_ms budget with
  | none => exact h
  | some depths =>
      simp only
      cases hsend : egress.channel.trySend datagram with
      | error error =>
          -- the channel refused, and the release undoes the reservation
          refine ⟨fun a => ?_, h.durations, h.capacity_le⟩
          show depthOf (releaseStreamDepth depths datagram.stream_id
            datagram.media_duration_ms) a = _
          rw [depthOf_release, h.reserved hd hreserve, h.reserved hd hreserve, if_pos rfl]
          split
          · next ha =>
              subst ha
              simp only [Nat.add_sub_cancel]
              rfl
          · exact h.depth a
      | ok channel =>
          obtain ⟨-, hqueue, hcapacity, -⟩ := (Channel.trySend_ok_iff _ _ _).mp hsend
          exact h.send hd hreserve hqueue hcapacity

end Offer

/-- The sender task moves a datagram from the channel into its hands: nothing changes in sum. -/
theorem Accounted.recv (h : egress.Accounted) : egress.recv.Accounted := by
  unfold ViewerEgress.recv
  split
  · next datagram channel hsending hrecv =>
      obtain ⟨hqueue, hcapacity, -⟩ := (Channel.recv_eq_some_iff _ _ _).mp hrecv
      have hpending : ({ egress with channel := channel, sending := some datagram } :
          ViewerEgress).pending = egress.pending := by
        show datagram :: channel.queue = _
        rw [pending, hsending, hqueue]
        rfl
      refine ⟨fun a => ?_, ?_, ?_⟩
      · rw [pendingMs, pendingOf, hpending]
        exact h.depth a
      · rw [hpending]
        exact h.durations
      · show (channel.capacity + 2) * longestFrameMs ≤ u16Max
        rw [hcapacity]
        exact h.capacity_le
  · exact h

/-- The sender task releases the datagram in its hands. -/
theorem Accounted.release (h : egress.Accounted) : egress.release.Accounted := by
  unfold ViewerEgress.release
  split
  · exact h
  · next datagram hsending =>
      have hpending : egress.pending = datagram :: egress.channel.queue := by
        rw [pending, hsending]
        rfl
      refine ⟨fun a => ?_, ?_, h.capacity_le⟩
      · show depthOf (releaseStreamDepth egress.stream_depths datagram.stream_id
          datagram.media_duration_ms) a = ⟨(List.filter _ egress.channel.queue).length,
            (List.map _ (List.filter _ egress.channel.queue)).sum⟩
        rw [depthOf_release, h.depth, h.depth, pendingMs, pendingMs, pendingOf, pendingOf, hpending]
        split
        · next ha =>
            subst ha
            simp
        · next ha => simp [Ne.symm ha]
      · intro d hmem
        refine h.durations d ?_
        rw [hpending]
        exact List.mem_cons_of_mem _ hmem

/-! ## The capacity is fixed -/

theorem offer_capacity (egress : ViewerEgress) (datagram : EgressDatagram) (budget : Nat) :
    (egress.offer datagram budget).1.channel.capacity = egress.channel.capacity := by
  unfold ViewerEgress.offer
  split
  · rfl
  · split
    · next channel hsend => exact ((Channel.trySend_ok_iff _ _ _).mp hsend).2.2.1
    · rfl

theorem offer_closed (egress : ViewerEgress) (datagram : EgressDatagram) (budget : Nat) :
    (egress.offer datagram budget).1.channel.closed = egress.channel.closed := by
  unfold ViewerEgress.offer
  split
  · rfl
  · split
    · next channel hsend => exact ((Channel.trySend_ok_iff _ _ _).mp hsend).2.2.2
    · rfl

theorem offer_sending (egress : ViewerEgress) (datagram : EgressDatagram) (budget : Nat) :
    (egress.offer datagram budget).1.sending = egress.sending := by
  unfold ViewerEgress.offer
  split
  · rfl
  · split <;> rfl

theorem recv_capacity (egress : ViewerEgress) :
    egress.recv.channel.capacity = egress.channel.capacity := by
  unfold ViewerEgress.recv
  split
  · next datagram channel hsending hrecv => exact ((Channel.recv_eq_some_iff _ _ _).mp hrecv).2.1
  · rfl

theorem release_capacity (egress : ViewerEgress) :
    egress.release.channel.capacity = egress.channel.capacity := by
  unfold ViewerEgress.release
  split <;> rfl

end ViewerEgress

/-- A fragment is charged no more than a whole frame at its frame rate. -/
theorem packetMediaDurationMs_le (packet : MediaPacket) {stream : PublishedStream}
    (hrange : ControlState.InRange stream) (budget : Nat) :
    packetMediaDurationMs packet stream budget ≤ longestFrameMs := by
  have hfps : minTargetFramesPerSecond ≤ max ((stream.config.map fun config =>
      config.frames_per_second).getD stream.target_frames_per_second) 1 := by
    refine le_trans ?_ (Nat.le_max_left _ _)
    cases hconfig : stream.config with
    | none => exact hrange.frames.1
    | some config => exact (hrange.config_frames config hconfig).1
  unfold packetMediaDurationMs
  simp only
  generalize max ((stream.config.map fun config =>
      config.frames_per_second).getD stream.target_frames_per_second) 1 = fps at hfps
  have hframe : divCeil 1000 fps ≤ longestFrameMs := by
    unfold longestFrameMs divCeil
    have hlongest : (1000 + minTargetFramesPerSecond - 1) / minTargetFramesPerSecond = 200 := by
      decide
    unfold minTargetFramesPerSecond at hfps
    rw [hlongest, Nat.div_le_iff_le_mul_add_pred (by omega)]
    omega
  have hshare : min (divCeil 1000 fps) (max budget 1) / max packet.header.fragment_count.toNat 1
      ≤ longestFrameMs :=
    calc min (divCeil 1000 fps) (max budget 1) / max packet.header.fragment_count.toNat 1
        ≤ min (divCeil 1000 fps) (max budget 1) := Nat.div_le_self _ _
      _ ≤ divCeil 1000 fps := Nat.min_le_left _ _
      _ ≤ longestFrameMs := hframe
  have hone : 1 ≤ longestFrameMs := by decide
  omega

/-! ## Runs of the media relay -/

/-- What happens to the media relay: a packet is forwarded against a control state, a viewer
comes or goes, or the sender task of a viewer takes or releases a datagram. -/
inductive MediaEvent where
  | forward (state : ControlState) (publisher_id : UserId) (packet : MediaPacket)
      (received : UInt64)
  | register (user_id : UserId)
  | unregister (user_id : UserId)
  | recv (user_id : UserId)
  | release (user_id : UserId)

namespace MediaRelay

open ControlState

def step (relay : MediaRelay) : MediaEvent → MediaRelay
  | .forward state publisher_id packet received =>
      (relay.forwardMediaPacket state publisher_id packet received).1
  | .register user_id => relay.register user_id
  | .unregister user_id => relay.unregister user_id
  | .recv user_id => relay.recvEgress user_id
  | .release user_id => relay.releaseEgress user_id

/-- Packets are forwarded against control states that a run of the control plane reaches. -/
def UsesReachable (_ : MediaRelay) : MediaEvent → Prop
  | .forward state _ _ _ => state.Reachable
  | _ => True

/-- Every viewer's recorded depths are what is on its way. -/
structure AccountsOk (relay : MediaRelay) : Prop where
  capacity_le : (relay.egress_queue_capacity + 2) * longestFrameMs ≤ u16Max
  accounted : ∀ (v : UserId) (egress : ViewerEgress), relay.egress[v]? = some egress →
    egress.Accounted ∧ egress.channel.capacity = relay.egress_queue_capacity

variable {relay : MediaRelay}

theorem AccountsOk.updateEgress (h : relay.AccountsOk) (v : UserId)
    {f : ViewerEgress → ViewerEgress}
    (haccounted : ∀ egress : ViewerEgress, egress.Accounted → (f egress).Accounted)
    (hcapacity : ∀ egress : ViewerEgress, (f egress).channel.capacity = egress.channel.capacity) :
    (relay.updateEgress v f).AccountsOk := by
  unfold MediaRelay.updateEgress
  split
  · exact h
  · next egress hegress =>
      obtain ⟨hold, hcap⟩ := h.accounted v egress hegress
      refine ⟨h.capacity_le, fun w egress' hget => ?_⟩
      rw [get_insert] at hget
      split at hget
      · obtain rfl := Option.some.inj hget
        exact ⟨haccounted egress hold, (hcapacity egress).trans hcap⟩
      · exact h.accounted w egress' hget

/-- A packet is rejected, or its sender passed the checks and it was encoded. -/
theorem forwardMediaPacket_cases {state : ControlState} (hinv : RoomInvariant state)
    (relay : MediaRelay) (sender : UserId) (packet : MediaPacket) (received : UInt64) :
    (relay.forwardMediaPacket state sender packet received).1 = relay ∨
      ∃ (r : RoomId) (stream : PublishedStream) (bytes : List UInt8),
        SenderMay state sender packet r stream ∧ packet.encode = .ok bytes := by
  by_cases hmay : ∃ r stream, SenderMay state sender packet r stream
  · obtain ⟨r, stream, hmay⟩ := hmay
    cases hencode : packet.encode with
    | ok bytes => exact .inr ⟨r, stream, bytes, hmay, rfl⟩
    | error error =>
        left
        unfold forwardMediaPacket
        simp only [hencode]
        repeat' split
        all_goals rfl
  · left
    rw [forwardMediaPacket_of_not_senderMay hinv (fun r stream h => hmay ⟨r, stream, h⟩)]

theorem AccountsOk.forward (h : relay.AccountsOk) {state : ControlState}
    (hstate : state.Reachable) (sender : UserId) (packet : MediaPacket) (received : UInt64) :
    (relay.forwardMediaPacket state sender packet received).1.AccountsOk := by
  rcases forwardMediaPacket_cases hstate.roomInvariant relay sender packet received with
    hsame | ⟨r, stream, bytes, hmay, hencode⟩
  · rw [hsame]
    exact h
  · have hinv := hstate.roomInvariant
    have hrange := hstate.targetsOk r _ stream hmay.published
    have hd : (datagramFor relay stream packet received).media_duration_ms ≤ longestFrameMs :=
      packetMediaDurationMs_le packet hrange _
    have hsettings : (relay.forwardMediaPacket state sender packet
        received).1.egress_queue_capacity = relay.egress_queue_capacity := by
      rw [forwardMediaPacket_of_senderMay hinv hmay hencode]
      exact (foldl_forwardTo_settings _ _ _ _ _ _).2
    refine ⟨hsettings.symm ▸ h.capacity_le, fun v egress' hget => ?_⟩
    rw [hsettings]
    rw [forwardMediaPacket_egress hinv hmay hencode] at hget
    split at hget
    · obtain ⟨egress, hegress, rfl⟩ := Option.map_eq_some_iff.mp hget
      obtain ⟨hold, hcap⟩ := h.accounted v egress hegress
      exact ⟨hold.offer hd, (ViewerEgress.offer_capacity egress _ _).trans hcap⟩
    · exact h.accounted v egress' hget

theorem step_accountsOk (relay : MediaRelay) (event : MediaEvent)
    (hevent : relay.UsesReachable event) (h : relay.AccountsOk) :
    (relay.step event).AccountsOk := by
  cases event with
  | forward state sender packet received => exact h.forward hevent sender packet received
  | register u =>
      refine ⟨h.capacity_le, fun v egress hget => ?_⟩
      have hlook : (relay.egress.insert u (.new relay.egress_queue_capacity))[v]? = some egress :=
        hget
      rw [get_insert] at hlook
      split at hlook
      · obtain rfl := Option.some.inj hlook
        exact ⟨ViewerEgress.accounted_new h.capacity_le, rfl⟩
      · exact h.accounted v egress hlook
  | unregister u =>
      refine ⟨h.capacity_le, fun v egress hget => ?_⟩
      have hlook : (relay.egress.erase u)[v]? = some egress := hget
      rw [get_erase] at hlook
      split at hlook
      · cases hlook
      · exact h.accounted v egress hlook
  | recv u =>
      exact h.updateEgress u (fun _ => ViewerEgress.Accounted.recv) ViewerEgress.recv_capacity
  | release u =>
      exact h.updateEgress u (fun _ => ViewerEgress.Accounted.release) ViewerEgress.release_capacity

theorem step_settings (relay : MediaRelay) (event : MediaEvent) :
    (relay.step event).viewer_queue_budget_ms = relay.viewer_queue_budget_ms ∧
      (relay.step event).egress_queue_capacity = relay.egress_queue_capacity := by
  cases event with
  | forward state sender packet received =>
      simp only [step, forwardMediaPacket]
      split
      · exact ⟨rfl, rfl⟩
      · repeat' split
        all_goals first | exact ⟨rfl, rfl⟩ | exact foldl_forwardTo_settings _ _ _ _ _ _
  | register u => exact ⟨rfl, rfl⟩
  | unregister u => exact ⟨rfl, rfl⟩
  | recv u =>
      simp only [step, recvEgress, updateEgress]
      split <;> exact ⟨rfl, rfl⟩
  | release u =>
      simp only [step, releaseEgress, updateEgress]
      split <;> exact ⟨rfl, rfl⟩

/-- The runs of a relay that gives every viewer the default channel. -/
theorem run_accountsOk {budget : UInt16} {events : List MediaEvent}
    (hevents : Meets step UsesReachable (withViewerQueueBudgetMs budget) events) :
    (run step (withViewerQueueBudgetMs budget) events).AccountsOk := by
  refine Meets.induction (P := AccountsOk) step_accountsOk ?_ hevents
  have hcapacity : (max defaultEgressQueueCapacity 1 + 2) * longestFrameMs ≤ u16Max := by decide
  refine ⟨hcapacity, fun v egress hget => ?_⟩
  have hnone : (withViewerQueueBudgetMs budget).egress[v]? = none :=
    Std.ExtTreeMap.getElem?_empty
  rw [hnone] at hget
  cases hget

theorem run_settings (relay : MediaRelay) (events : List MediaEvent) :
    (run step relay events).viewer_queue_budget_ms = relay.viewer_queue_budget_ms ∧
      (run step relay events).egress_queue_capacity = relay.egress_queue_capacity :=
  ⟨run_fixed step (fun relay => relay.viewer_queue_budget_ms)
      (fun relay event => (step_settings relay event).1) relay events,
    run_fixed step (fun relay => relay.egress_queue_capacity)
      (fun relay event => (step_settings relay event).2) relay events⟩

/-- After any run, a datagram whose sender passes the checks is enqueued for a viewer that may
hear it exactly when its own stream stays within the budget and the viewer's channel is not
full. -/
theorem forward_enqueues_iff {budget : UInt16} {events : List MediaEvent}
    (hevents : Meets step UsesReachable (withViewerQueueBudgetMs budget) events)
    {state : ControlState} (hstate : state.Reachable) {sender : UserId} {packet : MediaPacket}
    {r : RoomId} {stream : PublishedStream} (hmay : SenderMay state sender packet r stream)
    {bytes : List UInt8} (hencode : packet.encode = .ok bytes) (received : UInt64)
    {v : UserId} (hviewer : v ∈ state.subscribersForStream packet.header.streamId)
    (hother : v ≠ sender) (hhears : ¬ Deafened state stream packet.header.streamId v)
    {egress : ViewerEgress}
    (hegress : (run step (withViewerQueueBudgetMs budget) events).egress[v]? = some egress)
    (hopen : egress.channel.closed = false) :
    let relay := run step (withViewerQueueBudgetMs budget) events
    let datagram := datagramFor relay stream packet received
    queueOf (relay.forwardMediaPacket state sender packet received).1 v
      = egress.channel.queue ++
        if egress.pendingMs packet.header.streamId + datagram.media_duration_ms
            ≤ max budget.toNat 1 ∧ egress.channel.queue.length < defaultEgressQueueCapacity
        then [datagram] else [] := by
  intro relay datagram
  have haccounts : relay.AccountsOk := run_accountsOk hevents
  have hbudget : relay.viewer_queue_budget_ms = max budget.toNat 1 := (run_settings _ events).1
  have hcapacity : relay.egress_queue_capacity = defaultEgressQueueCapacity :=
    (run_settings _ events).2
  obtain ⟨haccounted, hcap⟩ := haccounts.accounted v egress hegress
  have hrange := hstate.targetsOk r _ stream hmay.published
  have hd : datagram.media_duration_ms ≤ longestFrameMs :=
    packetMediaDurationMs_le packet hrange _
  have hafter : (relay.forwardMediaPacket state sender packet received).1.egress[v]?
      = some (egress.offer datagram relay.viewer_queue_budget_ms).1 := by
    rw [forwardMediaPacket_egress hstate.roomInvariant hmay hencode,
      if_pos ⟨hviewer, hother, hhears⟩, hegress]
    rfl
  -- the recorded depths are exact, so the reservation decides by what is pending
  have hdecision : (egress.offer datagram relay.viewer_queue_budget_ms).2 = true ↔
      egress.pendingMs packet.header.streamId + datagram.media_duration_ms ≤ max budget.toNat 1 ∧
        egress.channel.queue.length < defaultEgressQueueCapacity := by
    have hiff := haccounted.offer_snd_iff relay.viewer_queue_budget_ms hd
    rw [hbudget] at hiff ⊢
    rw [hiff, Channel.HasRoom, hcap, hcapacity]
    simp only [hopen, true_and]
    rfl
  have hqueue : queueOf (relay.forwardMediaPacket state sender packet received).1 v
      = (egress.offer datagram relay.viewer_queue_budget_ms).1.channel.queue := by
    rw [queueOf, hafter]
    rfl
  rw [hqueue, ViewerEgress.offer_queue]
  exact congrArg (egress.channel.queue ++ ·) (if_congr hdecision rfl rfl)

/-! ## A viewer of two streams

User 1 shows its screen as stream 7 and speaks as stream 8, and user 2 watches and listens. -/

def loungeRun : List ControlEvent :=
  ControlSystem.watchingRun ++
    [.ask 0 (.publishStream ⟨1, 8, .opus, .voice⟩), .ask 1 (.subscribeStream ⟨1, 8⟩)]

def loungeSystem : ControlSystem := run ControlSystem.step (ControlSystem.start .new) loungeRun

theorem loungeSystem_reachable : loungeSystem.Reachable :=
  ⟨ControlSystem.start .new, loungeRun, ⟨.new, .new, rfl⟩, rfl⟩

def screenStream : PublishedStream := freshStream ⟨1, 7, .h264, .screen⟩ 1

def voiceStream : PublishedStream := freshStream ⟨1, 8, .opus, .voice⟩ 1

def voicePacket : MediaPacket where
  header := .new .audio .opus 8 0 2
  payload := [1, 2]

/-- One of the fragments of a large frame, which are charged one millisecond each. -/
def largeFramePacket : MediaPacket :=
  { screenPacket with header := { screenPacket.header with fragment_count := 400 } }

/-- The lounge after the viewer has deafened itself. -/
def deafenedSystem : ControlSystem :=
  loungeSystem.step (.ask 1 (.setVoiceState ⟨1, false, true, false, false⟩))

theorem lounge_senderMay : ∃ r, SenderMay loungeSystem.control 1 voicePacket r voiceStream := by
  have hfound : loungeSystem.control.publishedStream voicePacket.header.streamId
      = some voiceStream := by decide +kernel
  have hinv := ControlSystem.reachable_roomInvariant loungeSystem_reachable
  exact senderMay_of_checks hinv hfound rfl rfl fun _ => by decide +kernel

theorem lounge_senderMay_screen :
    ∃ r, SenderMay loungeSystem.control 1 largeFramePacket r screenStream := by
  have hfound : loungeSystem.control.publishedStream largeFramePacket.header.streamId
      = some screenStream := by decide +kernel
  have hinv := ControlSystem.reachable_roomInvariant loungeSystem_reachable
  exact senderMay_of_checks hinv hfound rfl rfl nofun

theorem deafened_senderMay : ∃ r, SenderMay deafenedSystem.control 1 voicePacket r voiceStream := by
  have hfound : deafenedSystem.control.publishedStream voicePacket.header.streamId
      = some voiceStream := by decide +kernel
  have hinv := ControlSystem.reachable_roomInvariant (loungeSystem_reachable.after
    (.ask 1 (.setVoiceState ⟨1, false, true, false, false⟩)))
  exact senderMay_of_checks hinv hfound rfl rfl fun _ => by decide +kernel

/-- The viewer registers, and fragments of a large frame are forwarded to it. -/
def largeFrameEvents (fragments : Nat) : List MediaEvent :=
  .register 2 :: List.replicate fragments (.forward loungeSystem.control 1 largeFramePacket 0)

theorem largeFrameEvents_meets (fragments : Nat) (relay : MediaRelay) :
    Meets step UsesReachable relay (largeFrameEvents fragments) := by
  refine ⟨True.intro, ?_⟩
  generalize step relay (.register 2) = relay'
  induction fragments generalizing relay' with
  | zero => exact True.intro
  | succ fragments ih => exact ⟨⟨loungeSystem, loungeSystem_reachable, rfl⟩, ih _⟩

/-- The viewer registers, and a fragment of a large frame and some voice datagrams are forwarded to
it. -/
def loungeEvents (spoken : Nat) : List MediaEvent :=
  .register 2 :: .forward loungeSystem.control 1 largeFramePacket 0 ::
    List.replicate spoken (.forward loungeSystem.control 1 voicePacket 0)

theorem loungeEvents_meets (spoken : Nat) (relay : MediaRelay) :
    Meets step UsesReachable relay (loungeEvents spoken) := by
  refine ⟨True.intro, ⟨loungeSystem, loungeSystem_reachable, rfl⟩, ?_⟩
  generalize step (step relay (.register 2)) _ = relay'
  induction spoken generalizing relay' with
  | zero => exact True.intro
  | succ spoken ih => exact ⟨⟨loungeSystem, loungeSystem_reachable, rfl⟩, ih _⟩

def loungeRelay (spoken : Nat) : MediaRelay :=
  run step (withViewerQueueBudgetMs 100) (loungeEvents spoken)

/-- Behind a fragment of the screen a second voice datagram fits into the budget of the voice, and a
third does not. -/
theorem forward_enqueues_iff_lounge :
    (queueOf (loungeRelay 1) 2).length = 2 ∧
      queueOf ((loungeRelay 1).forwardMediaPacket loungeSystem.control 1 voicePacket 0).1 2
        = queueOf (loungeRelay 1) 2 ++ [datagramFor (loungeRelay 1) voiceStream voicePacket 0] ∧
      queueOf ((loungeRelay 2).forwardMediaPacket loungeSystem.control 1 voicePacket 0).1 2
        = queueOf (loungeRelay 2) 2 := by
  obtain ⟨r, hmay⟩ := lounge_senderMay
  have hencode : voicePacket.encode = .ok (voicePacket.header.encode ++ voicePacket.payload) := by
    decide +kernel
  have hviewer : 2 ∈ loungeSystem.control.subscribersForStream voicePacket.header.streamId := by
    decide +kernel
  have hhears : ¬ Deafened loungeSystem.control voiceStream voicePacket.header.streamId 2 := by
    decide +kernel
  have hms (spoken : Nat) : (datagramFor (loungeRelay spoken) voiceStream voicePacket
      0).media_duration_ms = 34 := by
    show packetMediaDurationMs voicePacket voiceStream _ = 34
    rw [loungeRelay, (run_settings _ _).1]
    decide +kernel
  -- the turn of a voice datagram, behind so many milliseconds of voice and so many datagrams
  have hturn {spoken ms waiting : Nat}
      (hshown : (loungeRelay spoken).egress[(2 : UserId)]?.map (fun egress =>
        (egress.channel.closed, egress.pendingMs 8, egress.channel.queue.length))
          = some (false, ms, waiting)) :
      (queueOf (loungeRelay spoken) 2).length = waiting ∧
        queueOf ((loungeRelay spoken).forwardMediaPacket loungeSystem.control 1 voicePacket 0).1 2
          = queueOf (loungeRelay spoken) 2 ++
            if ms + 34 ≤ max (100 : UInt16).toNat 1 ∧ waiting < defaultEgressQueueCapacity
            then [datagramFor (loungeRelay spoken) voiceStream voicePacket 0] else [] := by
    obtain ⟨egress, hegress, hshown⟩ := Option.map_eq_some_iff.mp hshown
    obtain ⟨hopen, hdepths⟩ := Prod.mk.inj hshown
    obtain ⟨rfl, rfl⟩ := Prod.mk.inj hdepths
    have hqueue := forward_enqueues_iff (loungeEvents_meets spoken (withViewerQueueBudgetMs 100))
      ⟨loungeSystem, loungeSystem_reachable, rfl⟩ hmay hencode 0 hviewer (by decide) hhears hegress
      hopen
    have hwaiting : queueOf (loungeRelay spoken) 2 = egress.channel.queue := by
      rw [queueOf, hegress]
      rfl
    rw [hwaiting, ← hms spoken]
    exact ⟨rfl, hqueue⟩
  have hsecond := @hturn 1 34 2 (by decide +kernel)
  have hthird := @hturn 2 68 3 (by decide +kernel)
  refine ⟨hsecond.1, hsecond.2.trans (congrArg _ (if_pos (by decide))), ?_⟩
  exact hthird.2.trans ((congrArg _ (if_neg (by decide))).trans (List.append_nil _))

/-- The relay after a large frame whose viewer drains nothing. -/
def crowdedRelay : MediaRelay := run step (withViewerQueueBudgetMs 300) (largeFrameEvents 256)

/-- What the fan-out makes of a fragment of the large frame. -/
def fragmentDatagram : EgressDatagram :=
  datagramFor (withViewerQueueBudgetMs 300) screenStream largeFramePacket 0

theorem fragmentDatagram_ms : fragmentDatagram.media_duration_ms = 1 := by decide +kernel

/-- The egress of the viewer with some fragments of the large frame, none of them taken. -/
structure Crowded (fragments : Nat) (egress : ViewerEgress) : Prop where
  sending : egress.sending = none
  opened : egress.channel.closed = false
  queue : egress.channel.queue = List.replicate fragments fragmentDatagram

theorem Crowded.pendingMs {fragments : Nat} {egress : ViewerEgress}
    (h : Crowded fragments egress) : egress.pendingMs 7 = fragments ∧ egress.pendingMs 8 = 0 := by
  have hpending : egress.pending = List.replicate fragments fragmentDatagram := by
    rw [ViewerEgress.pending, h.sending, h.queue]
    rfl
  unfold ViewerEgress.pendingMs ViewerEgress.pendingOf
  rw [hpending, List.filter_replicate_of_pos (by decide), List.filter_replicate_of_neg (by decide),
    List.map_replicate, List.sum_replicate, fragmentDatagram_ms]
  exact ⟨Nat.mul_one fragments, rfl⟩

theorem Crowded.offer {fragments : Nat} {egress : ViewerEgress} (h : Crowded fragments egress)
    (haccounted : egress.Accounted) (hcapacity : fragments < egress.channel.capacity)
    (hbudget : fragments + 1 ≤ 300) :
    Crowded (fragments + 1) (egress.offer fragmentDatagram 300).1 := by
  have hfits : (egress.offer fragmentDatagram 300).2 = true := by
    refine (haccounted.offer_snd_iff 300 ?_).mpr ⟨?_, h.opened, ?_⟩
    · rw [fragmentDatagram_ms]
      decide
    · rw [fragmentDatagram_ms]
      show egress.pendingMs 7 + 1 ≤ 300
      rw [h.pendingMs.1]
      exact hbudget
    · rw [h.queue, List.length_replicate]
      exact hcapacity
  constructor
  · rw [ViewerEgress.offer_sending]
    exact h.sending
  · rw [ViewerEgress.offer_closed]
    exact h.opened
  · rw [ViewerEgress.offer_queue, hfits, h.queue, List.replicate_succ']
    rfl

/-- A channel that the fragments fill drops the voice datagram of its viewer. -/
theorem Crowded.dropped {relay : MediaRelay} (haccounts : relay.AccountsOk)
    (hbudget : relay.viewer_queue_budget_ms = 300) {egress : ViewerEgress}
    (hegress : relay.egress[(2 : UserId)]? = some egress)
    (h : Crowded relay.egress_queue_capacity egress) :
    (relay.forwardMediaPacket loungeSystem.control 1 voicePacket 0).2 = ⟨8, 0, 1⟩ := by
  obtain ⟨haccounted, hcapacity⟩ := haccounts.accounted 2 egress hegress
  obtain ⟨r, hmay⟩ := lounge_senderMay
  have hencode : voicePacket.encode = .ok (voicePacket.header.encode ++ voicePacket.payload) := by
    decide +kernel
  have hviewers : loungeSystem.control.subscribersForStream voicePacket.header.streamId = [2] := by
    decide +kernel
  have hfull : (egress.offer (datagramFor relay voiceStream voicePacket 0) 300).2 = false := by
    have hd : (datagramFor relay voiceStream voicePacket 0).media_duration_ms
        ≤ longestFrameMs := by
      rw [datagramFor, hbudget]
      decide +kernel
    rw [Bool.eq_false_iff]
    intro hqueued
    have hroom := ((haccounted.offer_snd_iff 300 hd).mp hqueued).2.2
    rw [h.queue, List.length_replicate, hcapacity] at hroom
    exact absurd hroom (Nat.lt_irrefl _)
  have hhears : ¬ Deafened loungeSystem.control voiceStream 8 2 := by decide +kernel
  rw [forwardMediaPacket_of_senderMay
    (ControlSystem.reachable_roomInvariant loungeSystem_reachable) hmay hencode, hviewers,
    List.foldl_cons, List.foldl_nil, forwardTo]
  simp only [hegress, hbudget, hfull]
  rw [if_neg (by decide)]
  exact congrArg Prod.snd (if_neg hhears)

/-- The fragments that the channel has room for all join it. -/
theorem largeFrameEvents_crowded {fragments : Nat}
    (hfragments : fragments ≤ defaultEgressQueueCapacity) :
    ∃ egress, (run step (withViewerQueueBudgetMs 300)
        (largeFrameEvents fragments)).egress[(2 : UserId)]? = some egress ∧
      Crowded fragments egress := by
  induction fragments with
  | zero => exact ⟨_, (get_insert _ _ _ _).trans (if_pos rfl), rfl, rfl, rfl⟩
  | succ fragments ih =>
      obtain ⟨egress, hegress, hcrowded⟩ := ih (by omega)
      obtain ⟨haccounted, hcapacity⟩ := (run_accountsOk
        (largeFrameEvents_meets fragments _)).accounted 2 egress hegress
      obtain ⟨hbudget, hdefault⟩ := run_settings (withViewerQueueBudgetMs 300)
        (largeFrameEvents fragments)
      obtain ⟨r, hmay⟩ := lounge_senderMay_screen
      have hencode : largeFramePacket.encode
          = .ok (largeFramePacket.header.encode ++ largeFramePacket.payload) := by
        decide +kernel
      have hviewer : 2 ∈ loungeSystem.control.subscribersForStream
          largeFramePacket.header.streamId := by decide +kernel
      have hevents : largeFrameEvents (fragments + 1) = largeFrameEvents fragments ++
          [.forward loungeSystem.control 1 largeFramePacket 0] := by
        rw [largeFrameEvents, List.replicate_succ']
        rfl
      refine ⟨(egress.offer fragmentDatagram 300).1, ?_, ?_⟩
      · rw [hevents, run_snoc, step, forwardMediaPacket_egress
          (ControlSystem.reachable_roomInvariant loungeSystem_reachable) hmay hencode,
          if_pos ⟨hviewer, by decide, by decide +kernel⟩, hegress, datagramFor, hbudget]
        rfl
      · have hroom : fragments < egress.channel.capacity := by
          rw [hcapacity, hdefault]
          exact hfragments
        refine hcrowded.offer haccounted hroom ?_
        unfold defaultEgressQueueCapacity at hfragments
        omega

/-- The budget would take the voice datagram, but the screen has filled the channel; and a
deafened viewer is skipped whatever the budget says. -/
theorem voice_dropped_within_budget :
    (Meets step UsesReachable (withViewerQueueBudgetMs 300) (largeFrameEvents 256) ∧
      (∃ r, SenderMay loungeSystem.control 1 voicePacket r voiceStream) ∧
      2 ∈ loungeSystem.control.subscribersForStream 8 ∧
      (crowdedRelay.egress[(2 : UserId)]?.map fun egress =>
          (egress.channel.closed, decide (egress.pendingMs 8 +
            packetMediaDurationMs voicePacket voiceStream 300 ≤ 300))) = some (false, true) ∧
      (crowdedRelay.forwardMediaPacket loungeSystem.control 1 voicePacket 0).2 = ⟨8, 0, 1⟩) ∧
    (∃ r, SenderMay deafenedSystem.control 1 voicePacket r voiceStream) ∧
      2 ∈ deafenedSystem.control.subscribersForStream 8 ∧
      ((run step (withViewerQueueBudgetMs 300) (largeFrameEvents 0)).forwardMediaPacket
          deafenedSystem.control 1 voicePacket 0).2 = ⟨8, 0, 1⟩ := by
  -- the run keeps its name, so that nothing below evaluates it
  have hrun : run step (withViewerQueueBudgetMs 300) (largeFrameEvents 256) = crowdedRelay := rfl
  obtain ⟨egress, hegress, hcrowded⟩ := @largeFrameEvents_crowded 256 (by decide)
  have haccounts := run_accountsOk (largeFrameEvents_meets 256 (withViewerQueueBudgetMs 300))
  have hsettings := run_settings (withViewerQueueBudgetMs 300) (largeFrameEvents 256)
  rw [hrun] at hegress haccounts hsettings
  have hbudget : crowdedRelay.viewer_queue_budget_ms = 300 := hsettings.1
  have hdefault : crowdedRelay.egress_queue_capacity = 256 := hsettings.2
  refine ⟨⟨largeFrameEvents_meets 256 _, lounge_senderMay, by decide +kernel, ?_,
    Crowded.dropped haccounts hbudget hegress (hdefault.symm ▸ hcrowded)⟩,
    deafened_senderMay, by decide +kernel, by decide +kernel⟩
  rw [hegress, Option.map_some, hcrowded.opened, hcrowded.pendingMs.2]
  decide +kernel

end MediaRelay

namespace RelayRuntime

open MediaRelay

/-- Seen from the media relay, an event of the runtime forwards at most one packet, against the
control state of the runtime. -/
theorem step_media (runtime : RelayRuntime) (event : RuntimeEvent)
    (hreachable : runtime.system.Reachable) :
    ∃ mediaEvents, (runtime.step event).media = run MediaRelay.step runtime.media mediaEvents ∧
      Meets MediaRelay.step UsesReachable runtime.media mediaEvents := by
  cases event with
  | envelope i clock envelope => exact ⟨[], rfl, True.intro⟩
  | datagram i bytes received now =>
      simp only [step, handleMediaDatagram]
      split
      · exact ⟨[], rfl, True.intro⟩
      · split
        · exact ⟨[], rfl, True.intro⟩
        · next u huser =>
            split
            · exact ⟨[], rfl, True.intro⟩
            · split
              · next packet hdecode =>
                  exact ⟨[.forward runtime.system.control u packet received], rfl,
                    ⟨runtime.system, hreachable, rfl⟩, True.intro⟩
              · exact ⟨[], rfl, True.intro⟩
  | disconnect u => exact ⟨[], rfl, True.intro⟩
  | register u => exact ⟨[.register u], rfl, True.intro, True.intro⟩
  | unregister u => exact ⟨[.unregister u], rfl, True.intro, True.intro⟩
  | recv u => exact ⟨[.recv u], rfl, True.intro, True.intro⟩
  | release u => exact ⟨[.release u], rfl, True.intro, True.intro⟩

/-- The accounts are exact in every run of the server. -/
theorem run_accountsOk {control : ControlState} (hinitial : control.Initial) (budget : UInt16)
    (max_datagram_payload : Nat) (events : List RuntimeEvent) :
    (run step (start control (withViewerQueueBudgetMs budget) max_datagram_payload)
      events).media.AccountsOk := by
  have hfresh : (withViewerQueueBudgetMs budget).AccountsOk :=
    MediaRelay.run_accountsOk
      (show Meets MediaRelay.step UsesReachable (withViewerQueueBudgetMs budget) [] from True.intro)
  have hboth := run_induction step
    (P := fun runtime => runtime.system.Reachable ∧ runtime.media.AccountsOk) ?_
    (s := start control (withViewerQueueBudgetMs budget) max_datagram_payload)
    ⟨.start ⟨control, hinitial, rfl⟩, hfresh⟩ events
  · exact hboth.2
  · rintro runtime event ⟨hreachable, haccounts⟩
    constructor
    · obtain ⟨controlEvents, hsystem⟩ := runtime.step_system event
      obtain ⟨s₀, before, h₀, hbefore⟩ := hreachable
      exact ⟨s₀, before ++ controlEvents, h₀, by rw [hsystem, hbefore, run_append]⟩
    · obtain ⟨mediaEvents, hmedia, hmeets⟩ := runtime.step_media event hreachable
      rw [hmedia]
      exact Meets.induction (P := AccountsOk) step_accountsOk haccounts hmeets

end RelayRuntime

end TeamView.Relay
