import TeamView.Relay.EgressLedger
import TeamView.Relay.EgressTasks

set_option autoImplicit false

/-! # Egress accounting is exact

Whatever the fan-out and the sender tasks do, and in whatever order, the recorded depths of a
viewer are the ledger of what is reserved for it, in its channel, or in the hands of its sender
task. One lemma for each action says what it does to the egress of one viewer, and the invariant of
the whole machine follows viewer by viewer.
-/

namespace TeamView.Relay

open TeamView.Protocol BTree MachineInt Runs

/-- The accounts of one viewer, with the datagrams that the fan-out has reserved for it. -/
structure EgressOk (budget capacity : Nat) (reserved : List EgressDatagram)
    (egress : ViewerEgress) : Prop where
  ledger : Ledger egress.stream_depths (reserved ++ egress.pending)
  within : ∀ s, mediaMs (ofStream s (reserved ++ egress.pending)) ≤ budget
  durations : ∀ datagram ∈ reserved ++ egress.pending, datagram.media_duration_ms ≤ longestFrameMs
  capacity : egress.channel.capacity = capacity

namespace EgressOk

variable {budget capacity : Nat} {reserved : List EgressDatagram} {egress : ViewerEgress}
  {datagram : EgressDatagram}

theorem new (budget capacity : Nat) : EgressOk budget capacity [] (.new capacity) where
  ledger := Ledger.empty
  within _ := Nat.zero_le _
  durations _ hmem := by cases hmem
  capacity := rfl

/-- Room for one more datagram in every counter, while nothing is reserved. -/
theorem room (h : EgressOk budget capacity [] egress)
    (hcapacity : (capacity + 2) * longestFrameMs ≤ u16Max) (s : StreamId) :
    mediaMs (ofStream s egress.pending) + longestFrameMs ≤ u16Max ∧
      (ofStream s egress.pending).length + 1 ≤ u32Max := by
  have hlength : (ofStream s egress.pending).length ≤ capacity + 1 := by
    have hfilter : (ofStream s egress.pending).length ≤ egress.pending.length :=
      List.length_filter_le _ _
    have hpending := egress.pending_length_le
    rw [h.capacity] at hpending
    omega
  have hms : mediaMs (ofStream s egress.pending) ≤ (capacity + 1) * longestFrameMs :=
    mediaMs_le (fun d hd => h.durations d (List.mem_of_mem_filter hd)) hlength
  have hlongest : longestFrameMs = 200 := by decide
  have hwide : u16Max = 65535 := rfl
  have hwide' : u32Max = 4294967295 := rfl
  rw [hlongest] at hms hcapacity ⊢
  omega

theorem reserve (h : EgressOk budget capacity [] egress)
    (hcapacity : (capacity + 2) * longestFrameMs ≤ u16Max)
    (hdatagram : datagram.media_duration_ms ≤ longestFrameMs) {depths : StreamDepths}
    (hreserve : tryReserveStreamDepth egress.stream_depths datagram.stream_id
      datagram.media_duration_ms budget = some depths) :
    EgressOk budget capacity [datagram] { egress with stream_depths := depths } := by
  obtain ⟨hms, hcount⟩ := h.room hcapacity datagram.stream_id
  obtain ⟨hledger, hwithin⟩ := h.ledger.reserve
    (show mediaMs (ofStream datagram.stream_id egress.pending) + _ ≤ u16Max by omega) hcount
    hreserve
  refine ⟨hledger, fun s => ?_, ?_, h.capacity⟩
  · by_cases hs : s = datagram.stream_id
    · rw [hs]
      exact hwithin
    · show mediaMs (ofStream s (datagram :: egress.pending)) ≤ budget
      rw [ofStream_cons_ne hs]
      exact h.within s
  · intro d hmem
    rcases List.mem_cons.mp hmem with rfl | hmem
    · exact hdatagram
    · exact h.durations d hmem

/-- The same datagrams in another place. -/
theorem of_perm (h : EgressOk budget capacity reserved egress) {reserved' : List EgressDatagram}
    {egress' : ViewerEgress} (hdepths : egress'.stream_depths = egress.stream_depths)
    (hcapacity : egress'.channel.capacity = egress.channel.capacity)
    (hperm : (reserved ++ egress.pending).Perm (reserved' ++ egress'.pending)) :
    EgressOk budget capacity reserved' egress' := by
  refine ⟨?_, fun s => ?_, fun d hmem => ?_, ?_⟩
  · rw [hdepths]
    exact h.ledger.perm hperm
  · have hsum : mediaMs (ofStream s (reserved ++ egress.pending))
        = mediaMs (ofStream s (reserved' ++ egress'.pending)) :=
      ((hperm.filter _).map _).sum_eq
    rw [← hsum]
    exact h.within s
  · exact h.durations d (hperm.mem_iff.mpr hmem)
  · rw [hcapacity, h.capacity]

/-- One datagram is released. -/
theorem of_release (h : EgressOk budget capacity reserved egress)
    {reserved' : List EgressDatagram} {egress' : ViewerEgress}
    (hdepths : egress'.stream_depths = releaseStreamDepth egress.stream_depths
      datagram.stream_id datagram.media_duration_ms)
    (hcapacity : egress'.channel.capacity = egress.channel.capacity)
    (hperm : (reserved ++ egress.pending).Perm (datagram :: (reserved' ++ egress'.pending))) :
    EgressOk budget capacity reserved' egress' := by
  have hledger := h.ledger.perm hperm
  refine ⟨?_, fun s => ?_, fun d hmem => ?_, ?_⟩
  · rw [hdepths]
    exact hledger.release
  · have hsum : mediaMs (ofStream s (reserved ++ egress.pending))
        = mediaMs (ofStream s (datagram :: (reserved' ++ egress'.pending))) :=
      ((hperm.filter _).map _).sum_eq
    have hwithin := h.within s
    rw [hsum] at hwithin
    by_cases hs : s = datagram.stream_id
    · rw [hs, ofStream_cons_self, mediaMs_cons] at hwithin
      rw [hs]
      omega
    · rw [ofStream_cons_ne hs] at hwithin
      exact hwithin
  · exact h.durations d (hperm.mem_iff.mpr (List.mem_cons_of_mem _ hmem))
  · rw [hcapacity, h.capacity]

/-- The send of a reserved datagram. -/
theorem send (h : EgressOk budget capacity [datagram] egress)
    {channel : Channel EgressDatagram}
    (hsend : egress.channel.trySend datagram = .ok channel) :
    EgressOk budget capacity [] { egress with channel := channel } := by
  obtain ⟨-, hqueue, hcapacity, -⟩ := (Channel.trySend_ok_iff _ _ _).mp hsend
  refine h.of_perm rfl hcapacity ?_
  have hpending : ({ egress with channel := channel } : ViewerEgress).pending
      = egress.pending ++ [datagram] := by
    show egress.sending.toList ++ channel.queue = _
    rw [hqueue, ViewerEgress.pending, List.append_assoc]
  rw [hpending]
  exact List.perm_append_comm

/-- The release after a send that failed. -/
theorem rollBack (h : EgressOk budget capacity [datagram] egress) :
    EgressOk budget capacity []
      { egress with
        stream_depths := releaseStreamDepth egress.stream_depths datagram.stream_id
          datagram.media_duration_ms } :=
  h.of_release rfl rfl (List.Perm.refl _)

theorem recv (h : EgressOk budget capacity reserved egress) :
    EgressOk budget capacity reserved egress.recv := by
  unfold ViewerEgress.recv
  split
  · next datagram channel hsending hrecv =>
      obtain ⟨hqueue, hcapacity, -⟩ := (Channel.recv_eq_some_iff _ _ _).mp hrecv
      refine h.of_perm rfl hcapacity ?_
      have hpending : egress.pending = datagram :: channel.queue := by
        rw [ViewerEgress.pending, hsending, hqueue]
        rfl
      rw [hpending]
      exact List.Perm.refl _
  · exact h

theorem release (h : EgressOk budget capacity reserved egress) :
    EgressOk budget capacity reserved egress.release := by
  unfold ViewerEgress.release
  split
  · exact h
  · next datagram hsending =>
      refine h.of_release rfl rfl ?_
      have hpending : egress.pending = datagram :: egress.channel.queue := by
        rw [ViewerEgress.pending, hsending]
        rfl
      rw [hpending]
      exact List.perm_middle

theorem close (h : EgressOk budget capacity reserved egress) :
    EgressOk budget capacity reserved
      { egress with channel := { egress.channel with closed := true } } :=
  h.of_perm rfl rfl (List.Perm.refl _)

end EgressOk

namespace RelayTasks

open ControlState

/-- Datagrams come in while the control state is one that a run of the control plane reaches. -/
def UsesReachable (_ : RelayTasks) : TaskEvent → Prop
  | .datagram state _ _ _ => state.Reachable
  | _ => True

/-- The accounts of every viewer. -/
structure AccountsExact (tasks : RelayTasks) : Prop where
  capacity_le : (tasks.media.egress_queue_capacity + 2) * longestFrameMs ≤ u16Max
  egress_ok : ∀ (v : UserId) (egress : ViewerEgress), tasks.media.egress[v]? = some egress →
    EgressOk tasks.media.viewer_queue_budget_ms tasks.media.egress_queue_capacity
      (tasks.reservedFor v) egress
  datagram_ok : ∀ forwarding, tasks.forwarding = some forwarding →
    forwarding.datagram.media_duration_ms ≤ longestFrameMs

variable {tasks : RelayTasks}

/-- What is reserved for a viewer while a packet is forwarded. -/
theorem reservedFor_of_forwarding {forwarding : Forwarding}
    (hforwarding : tasks.forwarding = some forwarding) (v : UserId) :
    tasks.reservedFor v = forwarding.reservedFor v := by
  rw [reservedFor, hforwarding]

theorem Forwarding.reservedFor_next {forwarding : Forwarding} (hturn : forwarding.turn = .next)
    (v : UserId) : forwarding.reservedFor v = [] := by
  rw [Forwarding.reservedFor, hturn]

/-- One viewer's egress and reservation change, and those of the others do not. -/
theorem AccountsExact.setEgress (h : tasks.AccountsExact) {v : UserId} {egress : ViewerEgress}
    {forwarding : Option Forwarding}
    (hforwarding : ∀ f, forwarding = some f → f.datagram.media_duration_ms ≤ longestFrameMs)
    (hothers : ∀ w, w ≠ v → ({ tasks.setEgress v egress with
      forwarding := forwarding } : RelayTasks).reservedFor w = tasks.reservedFor w)
    (hegress : EgressOk tasks.media.viewer_queue_budget_ms tasks.media.egress_queue_capacity
      (({ tasks.setEgress v egress with forwarding := forwarding } : RelayTasks).reservedFor v)
      egress) :
    AccountsExact { tasks.setEgress v egress with forwarding := forwarding } := by
  refine ⟨h.capacity_le, fun w egress' hget => ?_, hforwarding⟩
  have hlook : (tasks.media.egress.insert v egress)[w]? = some egress' := hget
  rw [get_insert] at hlook
  split at hlook
  · next hw =>
      obtain rfl := Option.some.inj hlook
      rw [hw]
      exact hegress
  · next hw =>
      rw [hothers w hw]
      exact h.egress_ok w egress' hlook

/-- Only the turn of the fan-out changes, and nobody's reservation with it. -/
theorem AccountsExact.setForwarding (h : tasks.AccountsExact) {forwarding : Option Forwarding}
    (hforwarding : ∀ f, forwarding = some f → f.datagram.media_duration_ms ≤ longestFrameMs)
    (hsame : ∀ w, ({ tasks with forwarding := forwarding } : RelayTasks).reservedFor w
      = tasks.reservedFor w) : AccountsExact { tasks with forwarding := forwarding } := by
  refine ⟨h.capacity_le, fun w egress hget => ?_, hforwarding⟩
  rw [hsame w]
  exact h.egress_ok w egress hget

theorem AccountsExact.advance (h : tasks.AccountsExact) : tasks.advance.AccountsExact := by
  cases hforwarding : tasks.forwarding with
  | none =>
      rw [RelayTasks.advance, hforwarding]
      exact h
  | some forwarding =>
      have hdatagram := h.datagram_ok forwarding hforwarding
      have hnow := fun v => reservedFor_of_forwarding hforwarding v
      have hnext : forwarding.turn = .next → ∀ v, tasks.reservedFor v = [] :=
        fun hturn v => (hnow v).trans (Forwarding.reservedFor_next hturn v)
      have hreserved : ∀ v, forwarding.turn = .reserved v ∨ forwarding.turn = .refused v →
          ∀ w, tasks.reservedFor w = if v = w then [forwarding.datagram] else [] := by
        intro v hturn w
        rw [hnow, Forwarding.reservedFor]
        rcases hturn with hturn | hturn <;> rw [hturn]
      have hcase := advance_cases hforwarding
      generalize tasks.advance = tasks' at hcase ⊢
      cases hcase with
      | finished hturn hviewers =>
          exact h.setForwarding (fun f hf => by cases hf) fun w => (hnext hturn w).symm
      | skipped v viewers dropped hturn hviewers =>
          refine h.setForwarding (fun f hf => ?_) fun w => (hnext hturn w).symm
          rw [← Option.some.inj hf]
          exact hdatagram
      | reserved v viewers egress depths hturn hviewers hegress hreserve =>
          have hok := h.egress_ok v egress hegress
          rw [hnext hturn] at hok
          refine h.setEgress (fun f hf => ?_) (fun w hw => ?_) ?_
          · rw [← Option.some.inj hf]
            exact hdatagram
          · rw [hnext hturn]
            exact if_neg (Ne.symm hw)
          · -- the reservation of `v` is now pending, on top of what is in its channel
            have hafter := hok.reserve h.capacity_le hdatagram hreserve
            have hown : (if v = v then [forwarding.datagram] else []) = [forwarding.datagram] :=
              if_pos rfl
            rw [← hown] at hafter
            exact hafter
      | sent v egress channel summary hturn hegress hsend =>
          have hok := h.egress_ok v egress hegress
          rw [hreserved v (.inl hturn), if_pos rfl] at hok
          -- the reserved datagram moves into the channel
          refine h.setEgress (fun f hf => ?_) (fun w hw => ?_) (hok.send hsend)
          · rw [← Option.some.inj hf]
            exact hdatagram
          · rw [hreserved v (.inl hturn), if_neg (Ne.symm hw)]
            rfl
      | refused v egress hturn hegress =>
          -- refused: the reservation stands until it is rolled back
          refine h.setForwarding (fun f hf => ?_) fun w => ?_
          · rw [← Option.some.inj hf]
            exact hdatagram
          · rw [hreserved v (.inl hturn)]
            rfl
      | rolledBack v egress hturn hegress =>
          have hok := h.egress_ok v egress hegress
          rw [hreserved v (.inr hturn), if_pos rfl] at hok
          refine h.setEgress (fun f hf => ?_) (fun w hw => ?_) hok.rollBack
          · rw [← Option.some.inj hf]
            exact hdatagram
          · rw [hreserved v (.inr hturn), if_neg (Ne.symm hw)]
            rfl
      | stuck v hturn hegress => exact h

/-- A step of a sender task, or the end of a channel. -/
theorem AccountsExact.updateEgress (h : tasks.AccountsExact) (v : UserId)
    {f : ViewerEgress → ViewerEgress}
    (hf : ∀ {reserved : List EgressDatagram} {egress : ViewerEgress},
      EgressOk tasks.media.viewer_queue_budget_ms tasks.media.egress_queue_capacity reserved
        egress →
      EgressOk tasks.media.viewer_queue_budget_ms tasks.media.egress_queue_capacity reserved
        (f egress)) (sent : UserId → List SentDatagram) :
    AccountsExact { tasks with media := tasks.media.updateEgress v f, sent := sent } := by
  unfold MediaRelay.updateEgress
  split
  · exact ⟨h.capacity_le, h.egress_ok, h.datagram_ok⟩
  · next egress hegress =>
      refine ⟨h.capacity_le, fun w egress' hget => ?_, h.datagram_ok⟩
      have hlook : (tasks.media.egress.insert v (f egress))[w]? = some egress' := hget
      rw [get_insert] at hlook
      split at hlook
      · next hw =>
          obtain rfl := Option.some.inj hlook
          rw [hw]
          exact hf (h.egress_ok v egress hegress)
      · exact h.egress_ok w egress' hlook

theorem step_accountsExact (tasks : RelayTasks) (event : TaskEvent)
    (hevent : tasks.UsesReachable event) (h : tasks.AccountsExact) :
    (tasks.step event).AccountsExact := by
  cases event with
  | datagram state publisher_id bytes received =>
      rcases tasks.step_datagram state publisher_id bytes received with
        hsame | ⟨packet, forwarding, hidle, -, hbegin, hstep⟩
      · rw [hsame]
        exact h
      · rw [hstep]
        obtain ⟨published, hpublished, -, rfl⟩ := beginForward_eq_some hbegin
        -- the fan-out begins: nothing is reserved yet
        have hstate : state.Reachable := hevent
        obtain ⟨r, hin⟩ :=
          (hstate.roomInvariant.publishedStream_eq_some_iff _ published).mp hpublished
        have hrange := hstate.targetsOk r _ published hin
        refine ⟨h.capacity_le, fun v egress hget => ?_, fun f hf => ?_⟩
        · have hok := h.egress_ok v egress hget
          rw [reservedFor, hidle] at hok
          exact hok
        · rw [← Option.some.inj hf]
          exact packetMediaDurationMs_le packet hrange _
  | advance => exact h.advance
  | register v =>
      rcases (tasks.step_registration v).1 with hsame | ⟨hidle, hstep⟩
      · rw [hsame]
        exact h
      · rw [hstep]
        refine ⟨h.capacity_le, fun w egress hget => ?_, fun f hf => h.datagram_ok f hf⟩
        have hlook : (tasks.media.egress.insert v
          (.new tasks.media.egress_queue_capacity))[w]? = some egress := hget
        -- between packets no viewer has a reservation
        have hnone : ∀ w, tasks.reservedFor w = [] := by
          intro w
          rw [reservedFor, hidle]
        show EgressOk _ _ (tasks.reservedFor w) egress
        rw [get_insert] at hlook
        split at hlook
        · obtain rfl := Option.some.inj hlook
          rw [hnone]
          exact EgressOk.new _ _
        · exact h.egress_ok w egress hlook
  | unregister v =>
      rcases (tasks.step_registration v).2 with hsame | ⟨hidle, hstep⟩
      · rw [hsame]
        exact h
      · rw [hstep]
        refine ⟨h.capacity_le, fun w egress hget => ?_, fun f hf => h.datagram_ok f hf⟩
        have hlook : (tasks.media.egress.erase v)[w]? = some egress := hget
        rw [get_erase] at hlook
        split at hlook
        · cases hlook
        · exact h.egress_ok w egress hlook
  | recv v => exact h.updateEgress v (fun hok => hok.recv) tasks.sent
  | send v now =>
      rw [step_send]
      split
      · exact h
      · exact h.updateEgress v (fun hok => hok.release) _
  | close v => exact h.updateEgress v (fun hok => hok.close) tasks.sent
  | retiredRecv i => exact ⟨h.capacity_le, h.egress_ok, h.datagram_ok⟩
  | retiredSend i now => exact ⟨h.capacity_le, h.egress_ok, h.datagram_ok⟩

theorem start_accountsExact (budget : UInt16) :
    (start (.withViewerQueueBudgetMs budget)).AccountsExact := by
  have hcapacity : (max defaultEgressQueueCapacity 1 + 2) * longestFrameMs ≤ u16Max := by decide
  refine ⟨hcapacity, fun v egress hget => ?_, fun f hf => by cases hf⟩
  have hnone : (MediaRelay.withViewerQueueBudgetMs budget).egress[v]? = none :=
    Std.ExtTreeMap.getElem?_empty
  have hlook : (MediaRelay.withViewerQueueBudgetMs budget).egress[v]? = some egress := hget
  rw [hnone] at hlook
  cases hlook

/-! ## The budget and the capacity are fixed -/

theorem step_settings (tasks : RelayTasks) (event : TaskEvent) :
    (tasks.step event).media.viewer_queue_budget_ms = tasks.media.viewer_queue_budget_ms := by
  have hupdate : ∀ v f, (tasks.media.updateEgress v f).viewer_queue_budget_ms
      = tasks.media.viewer_queue_budget_ms := by
    intro v f
    unfold MediaRelay.updateEgress
    split <;> rfl
  cases event with
  | datagram state publisher_id bytes received =>
      rcases tasks.step_datagram state publisher_id bytes received with
        hsame | ⟨packet, forwarding, -, -, -, hstep⟩
      · rw [hsame]
      · rw [hstep]
  | advance =>
      show tasks.advance.media.viewer_queue_budget_ms = _
      cases hforwarding : tasks.forwarding with
      | none => rw [RelayTasks.advance, hforwarding]
      | some forwarding =>
          have hcase := advance_cases hforwarding
          generalize tasks.advance = tasks' at hcase ⊢
          cases hcase <;> rfl
  | register v =>
      rcases (tasks.step_registration v).1 with hsame | ⟨-, hstep⟩
      · rw [hsame]
      · rw [hstep]
        rfl
  | unregister v =>
      rcases (tasks.step_registration v).2 with hsame | ⟨-, hstep⟩
      · rw [hsame]
      · rw [hstep]
        rfl
  | recv v => exact hupdate v _
  | send v now =>
      rw [step_send]
      split
      · rfl
      · exact hupdate v _
  | close v => exact hupdate v _
  | retiredRecv i => rfl
  | retiredSend i now => rfl

/-! ## Exactness -/

/-- What is on its way to a viewer: reserved for it, in its channel, or in the hands of its sender
task. -/
def onItsWay (tasks : RelayTasks) (v : UserId) (egress : ViewerEgress) (s : StreamId) :
    List EgressDatagram :=
  (tasks.reservedFor v ++ egress.pending).filter fun datagram => datagram.stream_id = s

/-- In every state that the fan-out and the sender tasks reach, the recorded depth of a stream is
the number of its datagrams on their way to the viewer and the sum of their durations; the sum
keeps to the budget; there is an entry exactly when something is on its way; and neither the next
reservation nor the release of a datagram that is on its way saturates. -/
theorem egress_exact (budget : UInt16) (events : List TaskEvent)
    (hevents : Meets step UsesReachable (start (.withViewerQueueBudgetMs budget)) events)
    (v : UserId) (egress : ViewerEgress)
    (hegress : (run step (start (.withViewerQueueBudgetMs budget)) events).media.egress[v]?
      = some egress) (s : StreamId) :
    let tasks := run step (start (.withViewerQueueBudgetMs budget)) events
    let datagrams := tasks.onItsWay v egress s
    depthOf egress.stream_depths s
        = ⟨datagrams.length, (datagrams.map fun datagram => datagram.media_duration_ms).sum⟩ ∧
      (datagrams.map fun datagram => datagram.media_duration_ms).sum ≤ max budget.toNat 1 ∧
      ((egress.stream_depths[s]?).isSome = true ↔ datagrams.length ≠ 0) ∧
      (∀ forwarding, tasks.forwarding = some forwarding → forwarding.turn = .next →
        (depthOf egress.stream_depths s).queued_media_ms + forwarding.datagram.media_duration_ms
            ≤ u16Max ∧
          (depthOf egress.stream_depths s).queued_packets + 1 ≤ u32Max) ∧
      ∀ datagram ∈ datagrams, 1 ≤ (depthOf egress.stream_depths s).queued_packets ∧
        datagram.media_duration_ms ≤ (depthOf egress.stream_depths s).queued_media_ms := by
  intro tasks datagrams
  have hexact : tasks.AccountsExact :=
    Meets.induction (P := AccountsExact) step_accountsExact (start_accountsExact budget) hevents
  have hbudget : tasks.media.viewer_queue_budget_ms = max budget.toNat 1 :=
    run_fixed step (fun tasks => tasks.media.viewer_queue_budget_ms) step_settings _ events
  have hok := hexact.egress_ok v egress hegress
  have hentry : egress.stream_depths[s]? = ledgerEntry datagrams := hok.ledger s
  have hdepth : depthOf egress.stream_depths s = ⟨datagrams.length, mediaMs datagrams⟩ :=
    hok.ledger.depthOf_eq s
  refine ⟨hdepth, ?_, ?_, fun forwarding hforwarding hturn => ?_, fun datagram hmem => ?_⟩
  · rw [← hbudget]
    exact hok.within s
  · rw [hentry]
    exact ledgerEntry_isSome_iff datagrams
  · -- between two turns nothing is reserved, so the bound leaves room for one more
    have hnothing : tasks.reservedFor v = [] := by
      rw [reservedFor_of_forwarding hforwarding, Forwarding.reservedFor_next hturn]
    rw [hnothing] at hok
    obtain ⟨hms, hcount⟩ := hok.room hexact.capacity_le s
    have hlongest := hexact.datagram_ok forwarding hforwarding
    have hnow : datagrams = ofStream s egress.pending := by
      show ofStream s (tasks.reservedFor v ++ egress.pending) = _
      rw [hnothing, List.nil_append]
    rw [hdepth, hnow]
    refine ⟨?_, hcount⟩
    show mediaMs (ofStream s egress.pending) + forwarding.datagram.media_duration_ms ≤ u16Max
    omega
  · obtain ⟨hall, hstream⟩ := List.mem_filter.mp hmem
    have hs : datagram.stream_id = s := of_decide_eq_true hstream
    rw [← hs]
    exact hok.ledger.release_le hall

/-- User 2 watches the screen of user 1: its egress has reserved a packet that is not sent yet. -/
def reservingRun : List TaskEvent :=
  [.register 2,
    .datagram ControlSystem.watchingState 1
      (MediaRelay.screenPacket.header.encode ++ MediaRelay.screenPacket.payload) 0,
    .advance]

theorem egress_exact_reserving :
    ∃ egress, (run step (start (.withViewerQueueBudgetMs 100)) reservingRun).media.egress[(2 :
        UserId)]? = some egress ∧
      (depthOf egress.stream_depths 7).queued_packets = 1 ∧
      depthOf egress.stream_depths 7 =
        ⟨((run step (start (.withViewerQueueBudgetMs 100)) reservingRun).onItsWay 2 egress
            7).length,
          (((run step (start (.withViewerQueueBudgetMs 100)) reservingRun).onItsWay 2 egress 7).map
            fun datagram => datagram.media_duration_ms).sum⟩ := by
  have hmeets : Meets step UsesReachable (start (.withViewerQueueBudgetMs 100)) reservingRun :=
    ⟨True.intro, ControlSystem.watchingState_reachable, True.intro, True.intro⟩
  have hone : ((run step (start (.withViewerQueueBudgetMs 100)) reservingRun).media.egress[(2 :
      UserId)]?.map fun egress => (depthOf egress.stream_depths 7).queued_packets) = some 1 := by
    decide +kernel
  obtain ⟨egress, hegress, hpackets⟩ := Option.map_eq_some_iff.mp hone
  exact ⟨egress, hegress, hpackets, (egress_exact 100 reservingRun hmeets 2 egress hegress 7).1⟩

end RelayTasks

end TeamView.Relay
