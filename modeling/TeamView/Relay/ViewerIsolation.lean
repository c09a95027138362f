import TeamView.Relay.EgressBudget

set_option autoImplicit false

/-! # Isolation of viewers from each other

A viewer may drain its queue slowly, let it fill up, or not be registered at all: what the other
viewers of the same streams get is the same. Two relays that differ only in the egress of one
viewer are run side by side over the same packets, and the turns of the fan-out loop are compared
one by one.
-/

namespace TeamView.Relay

open TeamView.Protocol BTree Runs

/-- The event is the business of one viewer: its registration, or a step of its sender task. -/
def MediaEvent.ofViewer (v : UserId) : MediaEvent → Bool
  | .forward _ _ _ _ => false
  | .register u => u = v
  | .unregister u => u = v
  | .recv u => u = v
  | .release u => u = v

namespace MediaRelay

/-- The two relays differ at most in the egress of viewer `v`. -/
structure AgreeExcept (v : UserId) (relay relay' : MediaRelay) : Prop where
  budget : relay.viewer_queue_budget_ms = relay'.viewer_queue_budget_ms
  capacity : relay.egress_queue_capacity = relay'.egress_queue_capacity
  egress : ∀ w, w ≠ v → relay.egress[w]? = relay'.egress[w]?

namespace AgreeExcept

variable {v : UserId} {relay relay' relay'' : MediaRelay}

theorem refl (v : UserId) (relay : MediaRelay) : AgreeExcept v relay relay :=
  ⟨rfl, rfl, fun _ _ => rfl⟩

theorem symm (h : AgreeExcept v relay relay') : AgreeExcept v relay' relay :=
  ⟨h.budget.symm, h.capacity.symm, fun w hw => (h.egress w hw).symm⟩

theorem trans (h : AgreeExcept v relay relay') (h' : AgreeExcept v relay' relay'') :
    AgreeExcept v relay relay'' :=
  ⟨h.budget.trans h'.budget, h.capacity.trans h'.capacity,
    fun w hw => (h.egress w hw).trans (h'.egress w hw)⟩

theorem queueOf_eq (h : AgreeExcept v relay relay') {w : UserId} (hw : w ≠ v) :
    relay.queueOf w = relay'.queueOf w := by
  rw [queueOf, queueOf, h.egress w hw]

/-! ## One packet -/

/-- One turn of the loop, in both relays. -/
theorem forwardTo (state : ControlState) (published : PublishedStream) (publisher_id : UserId)
    (datagram : EgressDatagram) {acc acc' : MediaRelay × MediaForwardSummary}
    (h : AgreeExcept v acc.1 acc'.1) (u : UserId) :
    AgreeExcept v (MediaRelay.forwardTo state published publisher_id datagram acc u).1
      (MediaRelay.forwardTo state published publisher_id datagram acc' u).1 := by
  obtain ⟨hbudget, hcapacity⟩ := forwardTo_settings state published publisher_id datagram acc u
  obtain ⟨hbudget', hcapacity'⟩ :=
    forwardTo_settings state published publisher_id datagram acc' u
  refine ⟨?_, ?_, fun w hw => ?_⟩
  · rw [hbudget, hbudget', h.budget]
  · rw [hcapacity, hcapacity', h.capacity]
  · rw [forwardTo_egress, forwardTo_egress]
    split
    · next hturn =>
        -- the turn of a viewer other than `v`: both relays offer it the same
        have hu : u ≠ v := hturn.1 ▸ hw
        rw [h.egress u hu, h.budget]
    · exact h.egress w hw

theorem foldl_forwardTo (state : ControlState) (published : PublishedStream)
    (publisher_id : UserId) (datagram : EgressDatagram) (viewers : List UserId)
    {acc acc' : MediaRelay × MediaForwardSummary} (h : AgreeExcept v acc.1 acc'.1) :
    AgreeExcept v
      (viewers.foldl (MediaRelay.forwardTo state published publisher_id datagram) acc).1
      (viewers.foldl (MediaRelay.forwardTo state published publisher_id datagram) acc').1 := by
  induction viewers generalizing acc acc' with
  | nil => exact h
  | cons u viewers ih => exact ih (h.forwardTo state published publisher_id datagram u)

theorem forwardMediaPacket (h : AgreeExcept v relay relay') (state : ControlState)
    (publisher_id : UserId) (packet : MediaPacket) (received : UInt64) :
    AgreeExcept v (relay.forwardMediaPacket state publisher_id packet received).1
      (relay'.forwardMediaPacket state publisher_id packet received).1 := by
  unfold MediaRelay.forwardMediaPacket
  simp only
  cases state.publishedStream packet.header.streamId with
  | none => exact h
  | some published =>
      simp only
      split
      · exact h
      · split
        · exact h
        · cases packet.encode with
          | error error => exact h
          | ok bytes =>
              simp only
              rw [h.budget]
              exact foldl_forwardTo state published publisher_id _ _ h

/-! ## Other events -/

theorem updateEgress (h : AgreeExcept v relay relay') (u : UserId)
    (f : ViewerEgress → ViewerEgress) :
    AgreeExcept v (relay.updateEgress u f) (relay'.updateEgress u f) := by
  have hget : ∀ (relay : MediaRelay) (w : UserId), (relay.updateEgress u f).egress[w]?
      = if w = u then (relay.egress[u]?).map f else relay.egress[w]? := by
    intro relay w
    unfold MediaRelay.updateEgress
    cases hegress : relay.egress[u]? with
    | none =>
        simp only
        by_cases hw : w = u
        · rw [if_pos hw, hw, hegress]
          rfl
        · rw [if_neg hw]
    | some egress => exact get_insert _ _ _ _
  have hsettings : ∀ relay : MediaRelay,
      (relay.updateEgress u f).viewer_queue_budget_ms = relay.viewer_queue_budget_ms ∧
      (relay.updateEgress u f).egress_queue_capacity = relay.egress_queue_capacity := by
    intro relay
    unfold MediaRelay.updateEgress
    split <;> exact ⟨rfl, rfl⟩
  refine ⟨?_, ?_, fun w hw => ?_⟩
  · rw [(hsettings relay).1, (hsettings relay').1, h.budget]
  · rw [(hsettings relay).2, (hsettings relay').2, h.capacity]
  · rw [hget, hget]
    split
    · next hu => rw [h.egress u (hu ▸ hw)]
    · exact h.egress w hw

/-- The same event in both relays. -/
theorem step (h : AgreeExcept v relay relay') (event : MediaEvent) :
    AgreeExcept v (relay.step event) (relay'.step event) := by
  cases event with
  | forward state publisher_id packet received =>
      exact h.forwardMediaPacket state publisher_id packet received
  | register u =>
      refine ⟨h.budget, h.capacity, fun w hw => ?_⟩
      show (relay.egress.insert u _)[w]? = (relay'.egress.insert u _)[w]?
      rw [get_insert, get_insert, h.capacity, h.egress w hw]
  | unregister u =>
      refine ⟨h.budget, h.capacity, fun w hw => ?_⟩
      show (relay.egress.erase u)[w]? = (relay'.egress.erase u)[w]?
      rw [get_erase, get_erase, h.egress w hw]
  | recv u => exact h.updateEgress u _
  | release u => exact h.updateEgress u _

/-- An event of `v` in one of them. -/
theorem step_ofViewer (h : AgreeExcept v relay relay') {event : MediaEvent}
    (hevent : event.ofViewer v = true) : AgreeExcept v (relay.step event) relay' := by
  have hsettings := step_settings relay event
  refine ⟨hsettings.1.trans h.budget, hsettings.2.trans h.capacity, fun w hw => ?_⟩
  rw [← h.egress w hw]
  have hupdate : ∀ f : ViewerEgress → ViewerEgress,
      (relay.updateEgress v f).egress[w]? = relay.egress[w]? := by
    intro f
    unfold MediaRelay.updateEgress
    split
    · rfl
    · show (relay.egress.insert v _)[w]? = _
      rw [get_insert, if_neg hw]
  cases event with
  | forward state publisher_id packet received => cases hevent
  | register u =>
      obtain rfl : u = v := of_decide_eq_true hevent
      show (relay.egress.insert u _)[w]? = _
      rw [get_insert, if_neg hw]
  | unregister u =>
      obtain rfl : u = v := of_decide_eq_true hevent
      show (relay.egress.erase u)[w]? = _
      rw [get_erase, if_neg hw]
  | recv u =>
      obtain rfl : u = v := of_decide_eq_true hevent
      exact hupdate _
  | release u =>
      obtain rfl : u = v := of_decide_eq_true hevent
      exact hupdate _

end AgreeExcept

/-! ## Whole runs -/

/-- For each packet of a run, whether it was accepted for viewer `w`: whether the viewer's queue
grew. -/
def acceptances (w : UserId) : MediaRelay → List MediaEvent → List Bool
  | _, [] => []
  | relay, .forward state publisher_id packet received :: events =>
      let relay' := relay.step (.forward state publisher_id packet received)
      decide ((relay.queueOf w).length < (relay'.queueOf w).length)
        :: acceptances w relay' events
  | relay, event :: events => acceptances w (relay.step event) events

/-- An event that forwards no packet leaves the list of acceptances as it is. -/
theorem acceptances_cons {w : UserId} (relay : MediaRelay) {event : MediaEvent}
    (hevent : ∀ state publisher_id packet received,
      event ≠ .forward state publisher_id packet received) (events : List MediaEvent) :
    acceptances w relay (event :: events) = acceptances w (relay.step event) events := by
  cases event with
  | forward state publisher_id packet received =>
      exact absurd rfl (hevent state publisher_id packet received)
  | register u => rfl
  | unregister u => rfl
  | recv u => rfl
  | release u => rfl

/-- The same run without the events of `v`, in a relay that agrees. -/
theorem run_without {v : UserId} (events : List MediaEvent) {relay relay' : MediaRelay}
    (h : AgreeExcept v relay relay') :
    AgreeExcept v (run step relay events)
        (run step relay' (events.filter fun event => !event.ofViewer v)) ∧
      ∀ w, w ≠ v → acceptances w relay events
        = acceptances w relay' (events.filter fun event => !event.ofViewer v) := by
  induction events generalizing relay relay' with
  | nil => exact ⟨h, fun _ _ => rfl⟩
  | cons event events ih =>
      by_cases hevent : event.ofViewer v = true
      · have hnext := ih (h.step_ofViewer hevent)
        have hskip : (event :: events).filter (fun event => !event.ofViewer v)
            = events.filter fun event => !event.ofViewer v :=
          List.filter_cons_of_neg (by rw [hevent]; decide)
        rw [hskip]
        refine ⟨hnext.1, fun w hw => ?_⟩
        rw [acceptances_cons relay fun state publisher_id packet received heq => ?_]
        · exact hnext.2 w hw
        · rw [heq] at hevent
          cases hevent
      · have hnext := ih (h.step event)
        have hkeep : (event :: events).filter (fun event => !event.ofViewer v)
            = event :: events.filter fun event => !event.ofViewer v :=
          List.filter_cons_of_pos (by rw [Bool.eq_false_iff.mpr hevent]; rfl)
        rw [hkeep]
        refine ⟨hnext.1, fun w hw => ?_⟩
        cases event with
        | forward state publisher_id packet received =>
            have hafter := h.step (.forward state publisher_id packet received)
            rw [acceptances, acceptances]
            rw [h.queueOf_eq hw, hafter.queueOf_eq hw, hnext.2 w hw]
        | register u => exact hnext.2 w hw
        | unregister u => exact hnext.2 w hw
        | recv u => exact hnext.2 w hw
        | release u => exact hnext.2 w hw

/-- Two relays that differ only in the egress of viewer `v`, and two runs that differ only in what
`v` does: every other viewer ends with the same egress, which is its queue and its recorded
depths, and each packet was accepted for it in both or in neither. -/
theorem viewers_isolated {v : UserId} {relay relay' : MediaRelay}
    (hagree : AgreeExcept v relay relay') {events events' : List MediaEvent}
    (hsame : (events.filter fun event => !event.ofViewer v)
      = events'.filter fun event => !event.ofViewer v) {w : UserId} (hw : w ≠ v) :
    (run step relay events).egress[w]? = (run step relay' events').egress[w]? ∧
      (run step relay events).queueOf w = (run step relay' events').queueOf w ∧
      acceptances w relay events = acceptances w relay' events' := by
  obtain ⟨hrun, haccept⟩ := run_without events hagree
  obtain ⟨hrun', haccept'⟩ := run_without events' (AgreeExcept.refl v relay')
  rw [hsame] at hrun haccept
  have hends := hrun.trans hrun'.symm
  refine ⟨hends.egress w hw, hends.queueOf_eq hw, ?_⟩
  rw [haccept w hw, haccept' w hw]

/-! ## A stalled viewer -/

/-- The screen has a second viewer, user 3. -/
def audienceState : ControlState :=
  (run ControlSystem.step (ControlSystem.start .new) (ControlSystem.watchingRun ++
    [.ask 2 (.hello ⟨protocolVersion, "second"⟩), .ask 2 (.joinRoom ⟨1⟩),
      .ask 2 (.subscribeStream ⟨1, 7⟩)])).control

/-- A relay that serves the first viewer; its budget is one packet of the screen. -/
def firstServed : MediaRelay := (withViewerQueueBudgetMs 40).register 2

/-- Three packets of the screen, each taken and sent for the first viewer at once, and then what
the task of the second viewer does. -/
def audienceEvents (second : List MediaEvent) : List MediaEvent :=
  (List.replicate 3
    ([.forward audienceState 1 screenPacket 0, .recv 2, .release 2] ++ second)).flatten

theorem audienceEvents_filter {second : List MediaEvent}
    (hsecond : ∀ event ∈ second, event.ofViewer 3 = true) :
    (audienceEvents second).filter (fun event => !event.ofViewer 3) = audienceEvents [] := by
  have hnone : second.filter (fun event => !event.ofViewer 3) = [] :=
    List.filter_eq_nil_iff.mpr fun event hevent => by simp [hsecond event hevent]
  unfold audienceEvents
  rw [List.filter_flatten, List.map_replicate, List.filter_append, hnone]
  rfl

/-- The second viewer stalls and loses two packets, or its task keeps up, or it is not registered:
the first viewer gets every packet. -/
theorem viewers_isolated_watching :
    (acceptances 3 (firstServed.register 3) (audienceEvents []) = [true, false, false] ∧
      acceptances 3 (firstServed.register 3) (audienceEvents [.recv 3, .release 3])
        = [true, true, true] ∧
      acceptances 3 firstServed (audienceEvents []) = [false, false, false]) ∧
    (acceptances 2 (firstServed.register 3) (audienceEvents []) = [true, true, true] ∧
      acceptances 2 (firstServed.register 3) (audienceEvents [])
        = acceptances 2 (firstServed.register 3) (audienceEvents [.recv 3, .release 3]) ∧
      acceptances 2 firstServed (audienceEvents [])
        = acceptances 2 (firstServed.register 3) (audienceEvents [])) := by
  have hagree : AgreeExcept 3 firstServed (firstServed.register 3) := by
    refine ⟨rfl, rfl, fun w hw => ?_⟩
    show firstServed.egress[w]? = (firstServed.egress.insert 3 _)[w]?
    rw [get_insert, if_neg hw]
  have hstalled := @audienceEvents_filter [] (by decide)
  have htaken := @audienceEvents_filter [.recv 3, .release 3] (by decide)
  refine ⟨⟨by decide +kernel, by decide +kernel, by decide +kernel⟩, by decide +kernel, ?_, ?_⟩
  · exact (viewers_isolated (AgreeExcept.refl 3 _) (hstalled.trans htaken.symm) (by decide)).2.2
  · exact (viewers_isolated hagree rfl (by decide)).2.2

end MediaRelay

end TeamView.Relay
