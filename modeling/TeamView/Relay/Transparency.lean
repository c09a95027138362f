import Mathlib.Data.List.Forall2
import TeamView.Protocol.PacketCodec
import TeamView.Relay.EgressExact

set_option autoImplicit false

/-! # The relay is transparent

What a sender task hands to its connection are the accepted packets of each stream, in their order,
some of them left out, none twice, and each the same as it came but for the two stamps of the
relay. The invariant is about everything that went through the channel of a viewer: what its sender
task has sent, holds, or still has to take is a sublist of what was accepted, and does not count in
the packet that the fan-out is about to offer it.
-/

namespace TeamView.Relay

open TeamView.Protocol BTree Runs

/-! ## What goes through a channel -/

namespace AcceptedPacket

/-- What the fan-out offers of an accepted packet. -/
def queued (accepted : AcceptedPacket) : StreamId × MediaPacket :=
  (accepted.packet.header.streamId,
    packetForEgress accepted.packet accepted.server_receive_time_micros)

/-- The packet as it leaves the relay: with its two stamps, and otherwise as it came. -/
def relayed (accepted : AcceptedPacket) (server_send_time_micros : UInt64) : MediaPacket :=
  { accepted.packet with
    header :=
      { accepted.packet.header with
        server_receive_time_micros := accepted.server_receive_time_micros
        server_send_time_micros := server_send_time_micros } }

end AcceptedPacket

/-- A datagram with what distinguishes it from others. -/
def EgressDatagram.content (datagram : EgressDatagram) : StreamId × MediaPacket :=
  (datagram.stream_id, datagram.packet)

/-- All that went into the channel of a sender task and was not lost: sent, in its hands, or still
in the channel. -/
def SenderTask.passed (task : SenderTask) : List (StreamId × MediaPacket) :=
  (task.sent.map fun sent => sent.datagram.content) ++
    task.egress.pending.map EgressDatagram.content

/-- What a sender task has sent is what it took, encoded with some time of sending. -/
def SentDatagram.Encoded (sent : SentDatagram) : Prop :=
  ∃ server_send_time_micros : UInt64,
    ({ sent.datagram.packet with
        header :=
          { sent.datagram.packet.header with
            server_send_time_micros := server_send_time_micros } } : MediaPacket).encode
      = .ok sent.bytes

namespace SenderTask

theorem passed_recv (task : SenderTask) : task.recv.passed = task.passed := by
  have hpending : task.egress.recv.pending = task.egress.pending := by
    unfold ViewerEgress.recv
    split
    · next datagram channel hsending hrecv =>
        obtain ⟨hqueue, -, -⟩ := (Channel.recv_eq_some_iff _ _ _).mp hrecv
        show datagram :: channel.queue = _
        rw [ViewerEgress.pending, hsending, hqueue]
        rfl
    · rfl
  rw [passed, passed, recv]
  simp only [hpending]

theorem passed_send (task : SenderTask) (now : UInt64) :
    (task.send now).passed.Sublist task.passed := by
  cases hsending : task.egress.sending with
  | none =>
      have hrelease : task.egress.release = task.egress := by
        rw [ViewerEgress.release, hsending]
      have houtgoing : task.egress.outgoing now = [] := by
        rw [ViewerEgress.outgoing, hsending]
      rw [passed, send, hrelease, houtgoing, List.append_nil]
      exact List.Sublist.refl _
  | some datagram =>
      have hpending : task.egress.pending = datagram :: task.egress.channel.queue := by
        rw [ViewerEgress.pending, hsending]
        rfl
      have hrelease : task.egress.release.pending = task.egress.channel.queue := by
        rw [ViewerEgress.release, hsending]
        rfl
      have houtgoing : ((task.egress.outgoing now).map fun sent => sent.datagram).Sublist
          [datagram] := by
        rw [ViewerEgress.outgoing, hsending]
        simp only
        split
        · exact List.Sublist.refl _
        · exact List.nil_sublist _
      have hcontent := houtgoing.map EgressDatagram.content
      rw [List.map_map] at hcontent
      rw [passed, passed, send]
      simp only
      rw [hrelease, hpending, List.map_append, List.append_assoc]
      exact (hcontent.append (List.Sublist.refl _)).append_left _

theorem encoded_send {task : SenderTask} (h : ∀ sent ∈ task.sent, sent.Encoded) (now : UInt64) :
    ∀ sent ∈ (task.send now).sent, sent.Encoded := by
  intro sent hmem
  rcases List.mem_append.mp hmem with hold | hnew
  · exact h sent hold
  · unfold ViewerEgress.outgoing at hnew
    split at hnew
    · cases hnew
    · simp only at hnew
      split at hnew
      · next bytes hencode =>
          rw [List.mem_singleton.mp hnew]
          exact ⟨now, hencode⟩
      · cases hnew

end SenderTask

/-! ## The invariant -/

namespace RelayTasks

open ControlState

/-- The sender task of a registered viewer. -/
def taskOf (tasks : RelayTasks) (v : UserId) (egress : ViewerEgress) : SenderTask :=
  ⟨egress, tasks.sent v⟩

/-- The fan-out has still to offer its packet to the viewer. -/
def Awaits (forwarding : Forwarding) (v : UserId) : Prop :=
  v ∈ forwarding.viewers ∨ forwarding.turn = .reserved v

/-- What may have gone into the channel of a viewer: the packet that is being forwarded only after
it was offered. -/
def offered (tasks : RelayTasks) : List (StreamId × MediaPacket) :=
  tasks.accepted.map AcceptedPacket.queued

/-- The sender of an accepted packet published its stream, in a state that was reached, and the
packet came in as a datagram. -/
def AcceptedPacket.Genuine (accepted : AcceptedPacket) : Prop :=
  (∃ bytes, MediaPacket.decode bytes = some (.ok accepted.packet)) ∧
    ∃ state : ControlState, state.Reachable ∧ ∃ published,
      state.publishedStream accepted.packet.header.streamId = some published ∧
        published.publisher_id = accepted.publisher_id

/-- Every channel carries accepted packets in their order. -/
structure InOrder (tasks : RelayTasks) : Prop where
  current : ∀ (v : UserId) (egress : ViewerEgress), tasks.media.egress[v]? = some egress →
    (tasks.taskOf v egress).passed.Sublist tasks.offered
  awaiting : ∀ forwarding, tasks.forwarding = some forwarding →
    ∃ before, tasks.offered = before ++ [forwarding.datagram.content] ∧
      ∀ (v : UserId) (egress : ViewerEgress), tasks.media.egress[v]? = some egress →
        Awaits forwarding v → (tasks.taskOf v egress).passed.Sublist before
  once : ∀ forwarding, tasks.forwarding = some forwarding → forwarding.viewers.Nodup ∧
    ∀ v, forwarding.turn = .reserved v → v ∉ forwarding.viewers
  retired : ∀ task ∈ tasks.retired, task.passed.Sublist tasks.offered ∧
    ∀ sent ∈ task.sent, sent.Encoded
  encoded : ∀ v, ∀ sent ∈ tasks.sent v, sent.Encoded
  genuine : ∀ accepted ∈ tasks.accepted, AcceptedPacket.Genuine accepted

theorem start_inOrder {media : MediaRelay} (hfresh : ∀ v : UserId, media.egress[v]? = none) :
    (start media).InOrder where
  current v egress hget := by
    rw [show (start media).media.egress[v]? = none from hfresh v] at hget
    cases hget
  awaiting _ h := by cases h
  once _ h := by cases h
  retired _ h := by cases h
  encoded _ _ h := by cases h
  genuine _ h := by cases h

/-- A step in which no channel gets anything new and no viewer awaits the packet anew. -/
theorem InOrder.of_sublist {tasks tasks' : RelayTasks} (h : tasks.InOrder)
    (hpassed : ∀ (v : UserId) (egress' : ViewerEgress), tasks'.media.egress[v]? = some egress' →
      ∃ egress, tasks.media.egress[v]? = some egress ∧
        (tasks'.taskOf v egress').passed.Sublist (tasks.taskOf v egress).passed)
    (hforwarding : ∀ forwarding', tasks'.forwarding = some forwarding' →
      ∃ forwarding, tasks.forwarding = some forwarding ∧
        forwarding'.datagram = forwarding.datagram ∧
        (∀ v, Awaits forwarding' v → Awaits forwarding v) ∧ forwarding'.viewers.Nodup ∧
        ∀ v, forwarding'.turn = .reserved v → v ∉ forwarding'.viewers)
    (hencoded : ∀ v, ∀ sent ∈ tasks'.sent v, sent.Encoded)
    (hretired : tasks'.retired = tasks.retired) (haccepted : tasks'.accepted = tasks.accepted) :
    tasks'.InOrder := by
  have hoffered : tasks'.offered = tasks.offered := by
    rw [offered, haccepted, offered]
  refine
    { current := fun v egress' hget => ?_
      awaiting := fun forwarding' hf => ?_
      once := fun forwarding' hf => ?_
      retired := fun task hmem => ?_
      encoded := hencoded
      genuine := fun accepted hmem => h.genuine accepted (haccepted ▸ hmem) }
  · obtain ⟨egress, hold, hsub⟩ := hpassed v egress' hget
    rw [hoffered]
    exact hsub.trans (h.current v egress hold)
  · obtain ⟨forwarding, hold, hdatagram, hawaits, -⟩ := hforwarding forwarding' hf
    obtain ⟨before, hbefore, hwaiting⟩ := h.awaiting forwarding hold
    refine ⟨before, ?_, fun v egress' hget hawait => ?_⟩
    · rw [hoffered, hdatagram, hbefore]
    · obtain ⟨egress, hegress, hsub⟩ := hpassed v egress' hget
      exact hsub.trans (hwaiting v egress hegress (hawaits v hawait))
  · obtain ⟨forwarding, -, -, -, hnodup, hnot⟩ := hforwarding forwarding' hf
    exact ⟨hnodup, hnot⟩
  · rw [hretired] at hmem
    rw [hoffered]
    exact h.retired task hmem

/-- The egress of one viewer is replaced by one that holds the same datagrams. -/
theorem setEgress_passed {tasks tasks' : RelayTasks} {v : UserId} {egress egress' : ViewerEgress}
    (hegress : tasks.media.egress[v]? = some egress)
    (hmedia : tasks'.media.egress = tasks.media.egress.insert v egress')
    (hsent : tasks'.sent = tasks.sent) (hpending : egress'.pending = egress.pending) (w : UserId)
    (found : ViewerEgress) (hget : tasks'.media.egress[w]? = some found) :
    ∃ old, tasks.media.egress[w]? = some old ∧
      (tasks'.taskOf w found).passed.Sublist (tasks.taskOf w old).passed := by
  have hpassed : ∀ egress, (tasks'.taskOf w egress).passed = (tasks.taskOf w egress).passed := by
    intro egress
    rw [taskOf, taskOf, hsent]
  rw [hmedia, get_insert] at hget
  split at hget
  · next hw =>
      obtain rfl := Option.some.inj hget
      refine ⟨egress, hw ▸ hegress, ?_⟩
      rw [hpassed]
      show ((tasks.sent w).map _ ++ egress'.pending.map _).Sublist
        ((tasks.sent w).map _ ++ egress.pending.map _)
      rw [hpending]
  · refine ⟨found, hget, ?_⟩
    rw [hpassed]

/-- The loop is between two viewers: who awaits the packet then, awaited it before. -/
theorem awaits_of_next {forwarding next : Forwarding} (hturn : next.turn = .next)
    (hviewers : ∀ v ∈ next.viewers, v ∈ forwarding.viewers) (v : UserId)
    (hawaits : Awaits next v) : Awaits forwarding v := by
  rcases hawaits with hmem | hreserved
  · exact .inl (hviewers v hmem)
  · rw [hturn] at hreserved
    cases hreserved

/-- The channel of a viewer whose turn it is takes the packet: it goes in behind what was offered
before it. -/
theorem InOrder.take {tasks : RelayTasks} (h : tasks.InOrder) {forwarding : Forwarding}
    (hforwarding : tasks.forwarding = some forwarding) {v : UserId} {egress : ViewerEgress}
    {channel : Channel EgressDatagram} (hturn : forwarding.turn = .reserved v)
    (hegress : tasks.media.egress[v]? = some egress)
    (hsend : egress.channel.trySend forwarding.datagram = .ok channel)
    (summary : MediaForwardSummary) :
    InOrder
      { tasks.setEgress v { egress with channel := channel } with
        forwarding := some { forwarding with turn := .next, summary := summary } } := by
  obtain ⟨hnodup, honce⟩ := h.once forwarding hforwarding
  obtain ⟨before, hbefore, hwaiting⟩ := h.awaiting forwarding hforwarding
  have hpending : ({ egress with channel := channel } : ViewerEgress).pending
      = egress.pending ++ [forwarding.datagram] := by
    obtain ⟨-, hqueue, -, -⟩ := (Channel.trySend_ok_iff _ _ _).mp hsend
    show egress.sending.toList ++ channel.queue = _
    rw [hqueue, ViewerEgress.pending, List.append_assoc]
  have hlook : ∀ (w : UserId) (found : ViewerEgress),
      (tasks.media.egress.insert v { egress with channel := channel })[w]? = some found →
      (w = v ∧ found = { egress with channel := channel }) ∨
        (w ≠ v ∧ tasks.media.egress[w]? = some found) := by
    intro w found hget
    rw [get_insert] at hget
    split at hget
    · next hw => exact .inl ⟨hw, (Option.some.inj hget).symm⟩
    · next hw => exact .inr ⟨hw, hget⟩
  refine
    { current := fun w found hget => ?_
      awaiting := fun f hf => ?_
      once := fun f hf => ?_
      retired := h.retired
      encoded := h.encoded
      genuine := h.genuine }
  · rcases hlook w found hget with ⟨rfl, rfl⟩ | ⟨-, hold⟩
    · -- what `v` has passed ends before this packet, so the packet goes behind it
      have hsub := hwaiting w egress hegress (.inr hturn)
      show ((tasks.sent w).map _ ++
        ({ egress with channel := channel } : ViewerEgress).pending.map _).Sublist tasks.offered
      rw [hpending, List.map_append, ← List.append_assoc, hbefore]
      exact hsub.append (List.Sublist.refl _)
    · exact h.current w found hold
  · obtain rfl := Option.some.inj hf
    refine ⟨before, hbefore, fun w found hget hawaits => ?_⟩
    have hmem : w ∈ forwarding.viewers := by
      rcases hawaits with hmem | hw
      · exact hmem
      · cases hw
    -- the viewer that has taken the packet does not come a second time
    rcases hlook w found hget with ⟨rfl, -⟩ | ⟨-, hold⟩
    · exact absurd hmem (honce w hturn)
    · exact hwaiting w found hold (.inl hmem)
  · obtain rfl := Option.some.inj hf
    exact ⟨hnodup, fun w hw => by cases hw⟩

theorem InOrder.advance {tasks : RelayTasks} (h : tasks.InOrder) : tasks.advance.InOrder := by
  cases hforwarding : tasks.forwarding with
  | none =>
      rw [RelayTasks.advance, hforwarding]
      exact h
  | some forwarding =>
      obtain ⟨hnodup, honce⟩ := h.once forwarding hforwarding
      have hsame : ∀ (v : UserId) (egress : ViewerEgress),
          tasks.media.egress[v]? = some egress → ∃ old, tasks.media.egress[v]? = some old ∧
            (tasks.taskOf v egress).passed.Sublist (tasks.taskOf v old).passed :=
        fun v egress hget => ⟨egress, hget, List.Sublist.refl _⟩
      have hcase := advance_cases hforwarding
      generalize tasks.advance = tasks' at hcase ⊢
      cases hcase with
      | finished hturn hviewers =>
          -- no packet is under way any more
          exact h.of_sublist hsame (fun f hf => by cases hf) h.encoded rfl rfl
      | skipped v viewers dropped hturn hviewers =>
          -- the viewer passed over does not get the packet later
          rw [hviewers] at hnodup
          -- the refused viewer awaits nothing more
          refine h.of_sublist hsame (fun f hf => ?_) h.encoded rfl rfl
          obtain rfl := Option.some.inj hf
          refine ⟨forwarding, hforwarding, rfl, awaits_of_next rfl fun w hw => ?_,
            (List.nodup_cons.mp hnodup).2, fun w hw => by cases hw⟩
          rw [hviewers]
          exact List.mem_cons_of_mem _ hw
      | reserved v viewers egress depths hturn hviewers hegress hreserve =>
          -- the reserved viewer leaves the list but awaits the packet all the same
          rw [hviewers] at hnodup
          obtain ⟨hfresh, hnodup⟩ := List.nodup_cons.mp hnodup
          refine h.of_sublist (setEgress_passed hegress rfl rfl rfl) (fun f hf => ?_) h.encoded
            rfl rfl
          obtain rfl := Option.some.inj hf
          refine ⟨forwarding, hforwarding, rfl, fun w hawaits => ?_, hnodup, fun w hw => ?_⟩
          · left
            rw [hviewers]
            rcases hawaits with hmem | hw
            · exact List.mem_cons_of_mem _ hmem
            · cases hw
              exact List.mem_cons_self
          · cases hw
            exact hfresh
      | sent v egress channel summary hturn hegress hsend =>
          exact h.take hforwarding hturn hegress hsend summary
      | refused v egress hturn hegress =>
          refine h.of_sublist hsame (fun f hf => ?_) h.encoded rfl rfl
          obtain rfl := Option.some.inj hf
          refine ⟨forwarding, hforwarding, rfl, fun w hawaits => ?_, hnodup,
            fun w hw => by cases hw⟩
          rcases hawaits with hmem | hw
          · exact .inl hmem
          · cases hw
      | rolledBack v egress hturn hegress =>
          refine h.of_sublist (setEgress_passed hegress rfl rfl rfl) (fun f hf => ?_) h.encoded
            rfl rfl
          obtain rfl := Option.some.inj hf
          exact ⟨forwarding, hforwarding, rfl, awaits_of_next rfl fun w hw => hw, hnodup,
            fun w hw => by cases hw⟩
      | stuck v hturn hegress => exact h

/-- A step of a sender task, or the end of a channel: nothing new goes in. -/
theorem InOrder.updateEgress {tasks : RelayTasks} (h : tasks.InOrder) (v : UserId)
    (f : ViewerEgress → ViewerEgress) {sent : UserId → List SentDatagram}
    (hothers : ∀ w, w ≠ v → sent w = tasks.sent w)
    (hpassed : ∀ egress, tasks.media.egress[v]? = some egress →
      (SenderTask.mk (f egress) (sent v)).passed.Sublist (tasks.taskOf v egress).passed)
    (hencoded : ∀ s ∈ sent v, s.Encoded) (hmissing : tasks.media.egress[v]? = none →
      sent = tasks.sent) :
    InOrder { tasks with media := tasks.media.updateEgress v f, sent := sent } := by
  cases hegress : tasks.media.egress[v]? with
  | none =>
      have hsame : tasks.media.updateEgress v f = tasks.media := by
        rw [MediaRelay.updateEgress, hegress]
      rw [hsame, hmissing hegress]
      exact h
  | some egress =>
      have hmedia : tasks.media.updateEgress v f
          = { tasks.media with egress := tasks.media.egress.insert v (f egress) } := by
        rw [MediaRelay.updateEgress, hegress]
      rw [hmedia]
      refine h.of_sublist (fun w found hget => ?_) (fun forwarding hf => ?_) (fun w => ?_) rfl rfl
      · have hlook : (tasks.media.egress.insert v (f egress))[w]? = some found := hget
        rw [get_insert] at hlook
        split at hlook
        · next hw =>
            obtain rfl := Option.some.inj hlook
            rw [hw]
            exact ⟨egress, hegress, hpassed egress hegress⟩
        · next hw =>
            refine ⟨found, hlook, ?_⟩
            show (SenderTask.mk found (sent w)).passed.Sublist _
            rw [hothers w hw]
            exact List.Sublist.refl _
      · exact ⟨forwarding, hf, rfl, fun _ hawaits => hawaits, h.once forwarding hf⟩
      · show ∀ s ∈ sent w, s.Encoded
        by_cases hw : w = v
        · rw [hw]
          exact hencoded
        · rw [hothers w hw]
          exact h.encoded w

/-- The registration of a viewer ends, and perhaps another one begins, with an empty channel. -/
theorem InOrder.registration {tasks : RelayTasks} (h : tasks.InOrder)
    (hidle : tasks.forwarding = none) (v : UserId) {media : MediaRelay}
    (hothers : ∀ w, w ≠ v → media.egress[w]? = tasks.media.egress[w]?)
    (hfresh : ∀ egress, media.egress[v]? = some egress → egress.pending = []) :
    InOrder
      { tasks with
        media := media
        sent := Function.update tasks.sent v []
        retired := tasks.retire v } := by
  refine
    { current := fun w egress hget => ?_
      awaiting := fun forwarding hf => ?_
      once := fun forwarding hf => ?_
      retired := fun task hmem => ?_
      encoded := fun w => ?_
      genuine := h.genuine }
  · by_cases hw : w = v
    · -- the new task has passed nothing yet
      show ((Function.update tasks.sent v [] w).map _ ++ egress.pending.map _).Sublist _
      subst hw
      rw [hfresh egress hget, Function.update_self]
      exact List.nil_sublist _
    · have hsub := h.current w egress ((hothers w hw) ▸ hget)
      show ((Function.update tasks.sent v [] w).map _ ++ egress.pending.map _).Sublist _
      rw [Function.update_of_ne hw]
      exact hsub
  · rw [show tasks.forwarding = some forwarding from hf] at hidle
    cases hidle
  · rw [show tasks.forwarding = some forwarding from hf] at hidle
    cases hidle
  · have hmem : task ∈ tasks.retire v := hmem
    -- the old task of `v` retires with what it has passed
    unfold retire at hmem
    cases hegress : tasks.media.egress[v]? with
    | none =>
        rw [hegress] at hmem
        exact h.retired task hmem
    | some egress =>
        rw [hegress] at hmem
        rcases List.mem_append.mp hmem with hold | hnew
        · exact h.retired task hold
        · rw [List.mem_singleton.mp hnew]
          exact ⟨h.current v egress hegress, h.encoded v⟩
  · show ∀ s ∈ Function.update tasks.sent v [] w, s.Encoded
    by_cases hw : w = v
    · subst hw
      rw [Function.update_self]
      intro s hs
      cases hs
    · rw [Function.update_of_ne hw]
      exact h.encoded w

theorem mem_of_mem_modify {α : Type} {f : α → α} {x : α} {l : List α} {i : Nat}
    (h : x ∈ l.modify i f) : x ∈ l ∨ ∃ y ∈ l, x = f y := by
  induction l generalizing i with
  | nil => cases i <;> cases h
  | cons y l ih =>
      cases i with
      | zero =>
          rcases List.mem_cons.mp h with hx | hmem
          · exact .inr ⟨y, List.mem_cons_self, hx⟩
          · exact .inl (List.mem_cons_of_mem _ hmem)
      | succ i =>
          rcases List.mem_cons.mp h with hx | hmem
          · exact .inl (hx ▸ List.mem_cons_self)
          · rcases ih hmem with hold | ⟨z, hz, hx⟩
            · exact .inl (List.mem_cons_of_mem _ hold)
            · exact .inr ⟨z, List.mem_cons_of_mem _ hz, hx⟩

/-- A step of a sender task whose registration is gone. -/
theorem InOrder.retiredStep {tasks : RelayTasks} (h : tasks.InOrder) (i : Nat)
    {f : SenderTask → SenderTask} (hpassed : ∀ task, (f task).passed.Sublist task.passed)
    (hencoded : ∀ task : SenderTask, (∀ sent ∈ task.sent, sent.Encoded) →
      ∀ sent ∈ (f task).sent, sent.Encoded) :
    InOrder { tasks with retired := tasks.retired.modify i f } := by
  refine ⟨h.current, h.awaiting, h.once, fun task hmem => ?_, h.encoded, h.genuine⟩
  rcases mem_of_mem_modify hmem with hold | ⟨old, hold, rfl⟩
  · exact h.retired task hold
  · obtain ⟨hsub, hsent⟩ := h.retired old hold
    exact ⟨(hpassed old).trans hsub, hencoded old hsent⟩

/-- The fan-out of an accepted packet begins: it is offered behind all that were offered. -/
theorem InOrder.begin {tasks : RelayTasks} (h : tasks.InOrder) {state : ControlState}
    (hstate : state.Reachable) {publisher_id : UserId} {bytes : List UInt8}
    {packet : MediaPacket} {received : UInt64} {forwarding : Forwarding}
    (hdecode : MediaPacket.decode bytes = some (.ok packet))
    (hbegin : tasks.media.beginForward state publisher_id packet received = some forwarding) :
    InOrder
      { tasks with
        forwarding := some forwarding
        accepted := tasks.accepted ++ [⟨publisher_id, packet, received⟩] } := by
  obtain ⟨published, hpublished, hpublisher, rfl⟩ := beginForward_eq_some hbegin
  have hoffered : (tasks.accepted ++
      [(⟨publisher_id, packet, received⟩ : AcceptedPacket)]).map AcceptedPacket.queued
        = tasks.offered ++ [(packet.header.streamId, packetForEgress packet received)] :=
    List.map_append
  refine
    { current := fun v egress hget => ?_
      awaiting := fun f hf => ?_
      once := fun f hf => ?_
      retired := fun task hmem => ?_
      encoded := h.encoded
      genuine := fun accepted hmem => ?_ }
  · show (tasks.taskOf v egress).passed.Sublist (List.map _ _)
    rw [hoffered]
    exact (h.current v egress hget).trans (List.sublist_append_left _ _)
  · obtain rfl := Option.some.inj hf
    exact ⟨tasks.offered, hoffered, fun v egress hget _ => h.current v egress hget⟩
  · obtain rfl := Option.some.inj hf
    exact ⟨hstate.roomInvariant.nodup_subscribersForStream _, fun v hv => by cases hv⟩
  · obtain ⟨hsub, hsent⟩ := h.retired task hmem
    refine ⟨?_, hsent⟩
    show task.passed.Sublist (List.map _ _)
    rw [hoffered]
    exact hsub.trans (List.sublist_append_left _ _)
  · rcases List.mem_append.mp hmem with hold | hnew
    · exact h.genuine accepted hold
    · rw [List.mem_singleton.mp hnew]
      exact ⟨⟨bytes, hdecode⟩, state, hstate, published, hpublished, hpublisher⟩

theorem step_inOrder (tasks : RelayTasks) (event : TaskEvent)
    (hevent : tasks.UsesReachable event) (h : tasks.InOrder) : (tasks.step event).InOrder := by
  cases event with
  | datagram state publisher_id bytes received =>
      rcases tasks.step_datagram state publisher_id bytes received with
        hsame | ⟨packet, forwarding, hidle, hdecode, hbegin, hstep⟩
      · rw [hsame]
        exact h
      · rw [hstep]
        exact h.begin hevent hdecode hbegin
  | advance => exact h.advance
  | register v =>
      rcases (tasks.step_registration v).1 with hsame | ⟨hidle, hstep⟩
      · rw [hsame]
        exact h
      · rw [hstep]
        -- a new channel is empty, and that of nobody else changes
        -- the channel is gone
        refine h.registration hidle v (fun w hw => ?_) fun egress hget => ?_
        · show (tasks.media.egress.insert v _)[w]? = _
          rw [get_insert, if_neg hw]
        · have hlook : (tasks.media.egress.insert v
            (.new tasks.media.egress_queue_capacity))[v]? = some egress := hget
          rw [get_insert, if_pos rfl] at hlook
          rw [← Option.some.inj hlook]
          rfl
  | unregister v =>
      rcases (tasks.step_registration v).2 with hsame | ⟨hidle, hstep⟩
      · rw [hsame]
        exact h
      · rw [hstep]
        refine h.registration hidle v (fun w hw => ?_) fun egress hget => ?_
        · show (tasks.media.egress.erase v)[w]? = _
          rw [get_erase, if_neg hw]
        · have hlook : (tasks.media.egress.erase v)[v]? = some egress := hget
          rw [get_erase, if_pos rfl] at hlook
          cases hlook
  | recv v =>
      -- the datagram in the sender's hands still counts as passed
      refine h.updateEgress v .recv (fun w _ => rfl) (fun egress hegress => ?_) (h.encoded v)
        fun _ => rfl
      have hsame := (tasks.taskOf v egress).passed_recv
      show ((tasks.taskOf v egress).recv).passed.Sublist _
      rw [hsame]
  | send v now =>
      rw [step_send]
      cases hegress : tasks.media.egress[v]? with
      | none => exact h
      | some egress =>
          -- the datagram sent joins the sent ones of `v`
          refine h.updateEgress v .release (fun w hw => Function.update_of_ne hw _ _)
            (fun found hfound => ?_) ?_ fun hnone => ?_
          · rw [hegress] at hfound
            obtain rfl := Option.some.inj hfound
            rw [Function.update_self]
            exact (tasks.taskOf v egress).passed_send now
          · rw [Function.update_self]
            exact @SenderTask.encoded_send (tasks.taskOf v egress) (h.encoded v) now
          · rw [hegress] at hnone
            cases hnone
  | close v =>
      refine h.updateEgress v _ (fun w _ => rfl) (fun egress hegress => ?_) (h.encoded v)
        fun _ => rfl
      exact List.Sublist.refl _
  | retiredRecv i =>
      refine h.retiredStep i (fun task => ?_) fun task hsent => hsent
      rw [task.passed_recv]
  | retiredSend i now =>
      exact h.retiredStep i (fun task => task.passed_send now)
        fun task hsent => SenderTask.encoded_send hsent now

/-! ## What the viewers get -/

/-- The packets that come in as datagrams, in their order. -/
def incoming (events : List TaskEvent) : List AcceptedPacket :=
  events.filterMap fun
    | .datagram _ publisher_id bytes received_at_micros =>
        match MediaPacket.decode bytes with
        | some (.ok packet) => some ⟨publisher_id, packet, received_at_micros⟩
        | _ => none
    | _ => none

theorem step_accepted (tasks : RelayTasks) (event : TaskEvent) :
    ∃ more, (tasks.step event).accepted = tasks.accepted ++ more ∧
      more.Sublist (incoming [event]) := by
  have hnone : ∀ tasks' : RelayTasks, tasks'.accepted = tasks.accepted →
      ∃ more, tasks'.accepted = tasks.accepted ++ more ∧ more.Sublist (incoming [event]) :=
    fun tasks' hsame => ⟨[], by rw [hsame, List.append_nil], List.nil_sublist _⟩
  cases event with
  | datagram state publisher_id bytes received =>
      rcases tasks.step_datagram state publisher_id bytes received with
        hsame | ⟨packet, forwarding, -, hdecode, -, hstep⟩
      · exact hnone _ (by rw [hsame])
      · rw [hstep]
        refine ⟨_, rfl, ?_⟩
        -- the only event that accepts a packet, and it is an incoming one
        have hincoming : incoming [.datagram state publisher_id bytes received]
            = [⟨publisher_id, packet, received⟩] := by
          rw [incoming, List.filterMap_cons]
          simp only [hdecode]
          rfl
        rw [hincoming]
  | advance =>
      refine hnone _ ?_
      show tasks.advance.accepted = _
      cases hforwarding : tasks.forwarding with
      | none => rw [RelayTasks.advance, hforwarding]
      | some forwarding =>
          have hcase := advance_cases hforwarding
          generalize tasks.advance = tasks' at hcase ⊢
          cases hcase <;> rfl
  | register v =>
      refine hnone _ ?_
      rcases (tasks.step_registration v).1 with hsame | ⟨-, hstep⟩
      · rw [hsame]
      · rw [hstep]
  | unregister v =>
      refine hnone _ ?_
      rcases (tasks.step_registration v).2 with hsame | ⟨-, hstep⟩
      · rw [hsame]
      · rw [hstep]
  | recv v => exact hnone _ rfl
  | send v now =>
      refine hnone _ ?_
      rw [step_send]
      split <;> rfl
  | close v => exact hnone _ rfl
  | retiredRecv i => exact hnone _ rfl
  | retiredSend i now => exact hnone _ rfl

/-- The accepted packets are among those that came in. -/
theorem accepted_sublist (tasks : RelayTasks) (events : List TaskEvent) :
    ∃ more, (run step tasks events).accepted = tasks.accepted ++ more ∧
      more.Sublist (incoming events) := by
  induction events generalizing tasks with
  | nil => exact ⟨[], (List.append_nil _).symm, List.Sublist.refl _⟩
  | cons event events ih =>
      obtain ⟨first, hfirst, hsub⟩ := tasks.step_accepted event
      obtain ⟨rest, hrest, hsubs⟩ := ih (tasks.step event)
      refine ⟨first ++ rest, ?_, ?_⟩
      · rw [run_cons, hrest, hfirst, List.append_assoc]
      · have hcons : incoming (event :: events) = incoming [event] ++ incoming events :=
          @List.filterMap_append _ _ [event] events _
        rw [hcons]
        exact hsub.append hsubs

/-- The sender tasks of all registrations, those that are gone included. -/
def Registered (tasks : RelayTasks) (task : SenderTask) : Prop :=
  task ∈ tasks.retired ∨ ∃ (v : UserId) (egress : ViewerEgress),
    tasks.media.egress[v]? = some egress ∧ task = tasks.taskOf v egress

/-- The bytes of one sent datagram. -/
theorem decode_of_encoded {sent : SentDatagram} (hencoded : sent.Encoded)
    {accepted : AcceptedPacket} (hgenuine : AcceptedPacket.Genuine accepted)
    (hcontent : sent.datagram.content = accepted.queued) :
    ∃ now, MediaPacket.decode sent.bytes = some (.ok (accepted.relayed now)) := by
  obtain ⟨now, hencode⟩ := hencoded
  obtain ⟨⟨bytes, hdecode⟩, -⟩ := hgenuine
  have hpacket : sent.datagram.packet
      = packetForEgress accepted.packet accepted.server_receive_time_micros :=
    congrArg Prod.snd hcontent
  obtain ⟨hvalid, hversion⟩ := valid_of_reads (decode_ok_iff.mp hdecode)
  have hrelayed : (accepted.relayed now).Valid :=
    ⟨⟨hvalid.header.fragment, hvalid.header.layer, hvalid.header.probe⟩, hvalid.payload_length⟩
  rw [hpacket] at hencode
  have hbytes := (encode_ok_iff.mp hencode).2
  refine ⟨now, ?_⟩
  rw [decode_ok_iff, hbytes]
  exact reads_encode hrelayed hversion

/-- What one sender task sent of a stream, next to the packets that it sent. -/
theorem InOrder.sent_of_stream {tasks : RelayTasks} (h : tasks.InOrder) {task : SenderTask}
    (hpassed : task.passed.Sublist tasks.offered) (hencoded : ∀ sent ∈ task.sent, sent.Encoded)
    (s : StreamId) :
    ∃ accepted, accepted.Sublist (tasks.accepted.filter fun accepted =>
        accepted.packet.header.streamId = s) ∧
      List.Forall₂ (fun sent accepted => ∃ now,
          MediaPacket.decode sent.bytes = some (.ok (AcceptedPacket.relayed accepted now)))
        (task.sent.filter fun sent => sent.datagram.stream_id = s) accepted := by
  have hsent : (task.sent.map fun sent => sent.datagram.content).Sublist tasks.offered :=
    (List.sublist_append_left _ _).trans hpassed
  generalize task.sent = sents at hsent hencoded ⊢
  obtain ⟨accepted, hsub, hcontents⟩ := List.sublist_map_iff.mp hsent
  have hpairs : List.Forall₂ (fun (sent : SentDatagram) accepted =>
      sent.datagram.content = AcceptedPacket.queued accepted) sents accepted := by
    rw [← List.forall₂_eq_eq_eq, List.forall₂_map_left_iff, List.forall₂_map_right_iff]
      at hcontents
    exact hcontents
  have hdecoded : List.Forall₂ (fun (sent : SentDatagram) accepted =>
      sent.datagram.stream_id = accepted.packet.header.streamId ∧ ∃ now,
        MediaPacket.decode sent.bytes = some (.ok (AcceptedPacket.relayed accepted now)))
      sents accepted := by
    have hgenuine : ∀ a ∈ accepted, AcceptedPacket.Genuine a :=
      fun a ha => h.genuine a (hsub.subset ha)
    clear hcontents hsub hsent hpassed
    induction hpairs with
    | nil => exact .nil
    | @cons sent a sents accepted hcontent hpairs ih =>
        rw [List.forall_mem_cons] at hencoded hgenuine
        exact .cons ⟨congrArg Prod.fst hcontent,
          decode_of_encoded hencoded.1 hgenuine.1 hcontent⟩ (ih hencoded.2 hgenuine.2)
  refine ⟨accepted.filter fun accepted => accepted.packet.header.streamId = s, hsub.filter _, ?_⟩
  have hfiltered := List.rel_filter (p := fun sent => decide (sent.datagram.stream_id = s))
    (q := fun accepted => decide (accepted.packet.header.streamId = s)) ?_ hdecoded
  · exact hfiltered.imp fun sent a hpair => hpair.2
  · intro sent a hpair
    show decide (_ = s) = true ↔ decide (_ = s) = true
    rw [hpair.1]

/-- In every run, whatever the sender task of any registration has handed to its connection for a
stream decodes to packets that are, in their order, some of the accepted packets of that stream,
each with the relay's stamps and otherwise as it came; and the accepted packets are, in their order,
some of those that the publishers of their streams sent. -/
theorem relay_transparent (capacity : Nat) (budget : UInt16) (events : List TaskEvent)
    (hevents : Meets step UsesReachable (start (.withEgressLimits capacity budget)) events)
    (task : SenderTask)
    (htask : Registered (run step (start (.withEgressLimits capacity budget)) events) task)
    (s : StreamId) :
    let tasks := run step (start (.withEgressLimits capacity budget)) events
    (∃ packets : List MediaPacket,
      ((task.sent.filter fun sent => sent.datagram.stream_id = s).map fun sent =>
          MediaPacket.decode sent.bytes) = packets.map (fun packet => some (.ok packet)) ∧
      List.SublistForall₂ (fun packet accepted => ∃ now,
          packet = AcceptedPacket.relayed accepted now) packets
        (tasks.accepted.filter fun accepted => accepted.packet.header.streamId = s)) ∧
    tasks.accepted.Sublist (incoming events) ∧
      ∀ accepted ∈ tasks.accepted, ∃ state : ControlState, state.Reachable ∧ ∃ published,
        state.publishedStream accepted.packet.header.streamId = some published ∧
          published.publisher_id = accepted.publisher_id := by
  intro tasks
  have hfresh : ∀ v : UserId, (MediaRelay.withEgressLimits capacity budget).egress[v]? = none :=
    fun v => Std.ExtTreeMap.getElem?_empty
  have horder : tasks.InOrder :=
    Meets.induction (P := InOrder) step_inOrder (start_inOrder hfresh) hevents
  obtain ⟨hpassed, hencoded⟩ : task.passed.Sublist tasks.offered ∧
      ∀ sent ∈ task.sent, sent.Encoded := by
    rcases htask with hretired | ⟨v, egress, hegress, rfl⟩
    · exact horder.retired task hretired
    · exact ⟨horder.current v egress hegress, horder.encoded v⟩
  refine ⟨?_, ?_, fun accepted hmem => (horder.genuine accepted hmem).2⟩
  · obtain ⟨accepted, hsub, hpairs⟩ := horder.sent_of_stream hpassed hencoded s
    generalize (task.sent.filter fun sent => sent.datagram.stream_id = s) = sents at hpairs
    -- the decoded packets, one for each pair
    obtain ⟨packets, hpackets, hrelayed⟩ : ∃ packets : List MediaPacket,
        sents.map (fun sent => MediaPacket.decode sent.bytes)
          = packets.map (fun packet => some (.ok packet)) ∧
        List.Forall₂ (fun packet accepted => ∃ now,
          packet = AcceptedPacket.relayed accepted now) packets accepted := by
      clear hsub
      induction hpairs with
      | nil => exact ⟨[], rfl, .nil⟩
      | @cons sent a sents accepted hfirst hrest ih =>
          obtain ⟨packets, hpackets, hrelayed⟩ := ih
          obtain ⟨now, hdecode⟩ := hfirst
          refine ⟨a.relayed now :: packets, ?_, .cons ⟨now, rfl⟩ hrelayed⟩
          rw [List.map_cons, List.map_cons, hpackets, hdecode]
    exact ⟨packets, hpackets, List.sublistForall₂_iff.mpr ⟨accepted, hrelayed, hsub⟩⟩
  · -- nothing is accepted that nobody sent
    obtain ⟨more, hmore, hsub⟩ :=
      accepted_sublist (start (.withEgressLimits capacity budget)) events
    have hall : tasks.accepted = more := by
      rw [show tasks.accepted = _ from hmore]
      rfl
    rw [hall]
    exact hsub

/-- A packet of the screen of user 1 on its way to user 2, until it is sent. -/
def sendingRun : List TaskEvent :=
  reservingRun ++ [.advance, .recv 2, .advance, .send 2 9]

theorem sendingRun_meets (media : MediaRelay) :
    Meets step UsesReachable (start media) sendingRun :=
  ⟨True.intro, ControlSystem.watchingState_reachable, True.intro, True.intro, True.intro,
    True.intro, True.intro, True.intro⟩

theorem relay_transparent_sending :
    ∃ packets : List MediaPacket,
      ((((run step (start (.withEgressLimits 256 100)) sendingRun).sent 2).filter
          fun sent => sent.datagram.stream_id = 7).map fun sent => MediaPacket.decode sent.bytes)
        = packets.map (fun packet => some (.ok packet)) ∧
      packets.length = 1 ∧
      List.SublistForall₂ (fun packet accepted => ∃ now,
          packet = AcceptedPacket.relayed accepted now) packets
        ((run step (start (.withEgressLimits 256 100)) sendingRun).accepted.filter
          fun accepted => accepted.packet.header.streamId = 7) := by
  have hregistered : ((run step (start (.withEgressLimits 256 100))
      sendingRun).media.egress[(2 : UserId)]?).isSome = true := by decide +kernel
  obtain ⟨egress, hegress⟩ := Option.isSome_iff_exists.mp hregistered
  obtain ⟨⟨packets, hpackets, hrelayed⟩, -⟩ := relay_transparent 256 100 sendingRun
    (sendingRun_meets _) _ (.inr ⟨2, egress, hegress, rfl⟩) 7
  refine ⟨packets, hpackets, ?_, hrelayed⟩
  have hone : (((run step (start (.withEgressLimits 256 100)) sendingRun).sent 2).filter
      fun sent => sent.datagram.stream_id = 7).length = 1 := by decide +kernel
  have hlength := congrArg List.length hpackets
  rw [List.length_map, List.length_map] at hlength
  exact hlength.symm.trans hone

end RelayTasks

end TeamView.Relay
