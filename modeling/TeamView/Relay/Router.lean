import TeamView.Lib.BTree
import TeamView.Lib.MachineInt
import TeamView.Lib.Runs
import TeamView.Protocol.Packet

set_option autoImplicit false

/-! # Viewer queues and the stream fan-out

The queue of a viewer takes a packet only if the media it holds stays within a budget of
milliseconds, and a fan-out offers each packet to the queues of all its viewers
(`crates/relay-server/src/router.rs`). This file compares the queue with an exact one, which adds
durations without a bound: the 16-bit sum saturates, and with the largest budget a saturated sum
is not over it. A fan-out is as many queues as it has viewers, each on its own.
-/

namespace TeamView.Relay

open TeamView.Protocol BTree MachineInt Runs

inductive EnqueueDecision
  | enqueue
  | dropForViewer
  deriving DecidableEq

structure QueueStats where
  queued_packets : Nat
  queued_media_ms : Nat
  dropped_packets : Nat
  dropped_frames : Nat
  deriving DecidableEq

def QueueStats.isOverBudget (stats : QueueStats) (max_media_ms : UInt16) : Bool :=
  max_media_ms.toNat < stats.queued_media_ms

def decideEnqueue (queue : QueueStats) (queue_budget_ms : UInt16) : EnqueueDecision :=
  if queue.isOverBudget queue_budget_ms then .dropForViewer else .enqueue

/-! ## The queue of a viewer -/

structure QueuedPacket where
  packet : MediaPacket
  media_duration_ms : UInt16
  deriving DecidableEq

structure ViewerQueue where
  viewer_id : UserId
  queued_packets : List QueuedPacket
  queued_media_ms : Nat
  queue_budget_ms : UInt16
  received_packets : Nat
  dropped_packets : Nat
  dropped_frames : Nat
  deriving DecidableEq

namespace ViewerQueue

def new (viewer_id : UserId) (queue_budget_ms : UInt16) : ViewerQueue where
  viewer_id := viewer_id
  queued_packets := []
  queued_media_ms := 0
  queue_budget_ms := queue_budget_ms
  received_packets := 0
  dropped_packets := 0
  dropped_frames := 0

def enqueue (queue : ViewerQueue) (packet : MediaPacket) (media_duration_ms : UInt16) :
    ViewerQueue × EnqueueDecision :=
  if queue.queue_budget_ms.toNat < satAdd u16Max queue.queued_media_ms media_duration_ms.toNat then
    ({ queue with
        dropped_packets := satAdd u64Max queue.dropped_packets 1
        dropped_frames :=
          if packet.header.flags.contains PacketFlags.endOfFrame then
            satAdd u64Max queue.dropped_frames 1
          else queue.dropped_frames },
      .dropForViewer)
  else
    ({ queue with
        received_packets := satAdd u64Max queue.received_packets 1
        queued_media_ms := satAdd u16Max queue.queued_media_ms media_duration_ms.toNat
        queued_packets := queue.queued_packets ++ [⟨packet, media_duration_ms⟩] },
      .enqueue)

def drainOne (queue : ViewerQueue) : ViewerQueue × Option MediaPacket :=
  match queue.queued_packets with
  | [] => (queue, none)
  | queued :: rest =>
      ({ queue with
          queued_packets := rest
          queued_media_ms := queue.queued_media_ms - queued.media_duration_ms.toNat },
        some queued.packet)

def stats (queue : ViewerQueue) : QueueStats where
  queued_packets := queue.queued_packets.length % 2 ^ 32
  queued_media_ms := queue.queued_media_ms
  dropped_packets := queue.dropped_packets
  dropped_frames := queue.dropped_frames

end ViewerQueue

/-- The calls that change a queue. -/
inductive QueueOp
  | enqueue (packet : MediaPacket) (media_duration_ms : UInt16)
  | drainOne
  deriving DecidableEq

def ViewerQueue.step (queue : ViewerQueue) : QueueOp → ViewerQueue
  | .enqueue packet media_duration_ms => (queue.enqueue packet media_duration_ms).1
  | .drainOne => queue.drainOne.1

/-- A call keeps the budget, and the recorded sum within it. -/
theorem ViewerQueue.step_within {queue_budget_ms : UInt16} (queue : ViewerQueue) (op : QueueOp)
    (h : queue.queue_budget_ms = queue_budget_ms ∧
      queue.queued_media_ms ≤ queue_budget_ms.toNat) :
    (queue.step op).queue_budget_ms = queue_budget_ms ∧
      (queue.step op).queued_media_ms ≤ queue_budget_ms.toNat := by
  obtain ⟨rfl, hwithin⟩ := h
  cases op with
  | enqueue packet media_duration_ms =>
      rw [ViewerQueue.step, ViewerQueue.enqueue]
      split
      · exact ⟨rfl, hwithin⟩
      · next hfits => exact ⟨rfl, Nat.not_lt.mp hfits⟩
  | drainOne =>
      rw [ViewerQueue.step, ViewerQueue.drainOne]
      split
      · exact ⟨rfl, hwithin⟩
      · exact ⟨rfl, le_trans (Nat.sub_le _ _) hwithin⟩

/-- By what a queue reports it is never over its budget, whatever it holds. -/
theorem decideEnqueue_run (viewer_id : UserId) (queue_budget_ms : UInt16) (ops : List QueueOp) :
    decideEnqueue (run ViewerQueue.step (.new viewer_id queue_budget_ms) ops).stats
      queue_budget_ms = .enqueue := by
  have hstart : (ViewerQueue.new viewer_id queue_budget_ms).queue_budget_ms = queue_budget_ms ∧
      (ViewerQueue.new viewer_id queue_budget_ms).queued_media_ms ≤ queue_budget_ms.toNat :=
    ⟨rfl, Nat.zero_le _⟩
  have hwithin := run_induction ViewerQueue.step
    (fun queue op h => ViewerQueue.step_within queue op h) hstart ops
  rw [decideEnqueue, QueueStats.isOverBudget, if_neg]
  rw [decide_eq_true_iff]
  exact Nat.not_lt.mpr hwithin.2

/-- A queue with what its callers have seen: how many packets they offered, which ones were
enqueued and which ones they got back. -/
structure QueueHistory where
  queue : ViewerQueue
  offered : Nat
  accepted : List MediaPacket
  drained : List MediaPacket

namespace QueueHistory

def start (viewer_id : UserId) (queue_budget_ms : UInt16) : QueueHistory :=
  ⟨.new viewer_id queue_budget_ms, 0, [], []⟩

def step (history : QueueHistory) : QueueOp → QueueHistory
  | .enqueue packet media_duration_ms =>
      let (queue, decision) := history.queue.enqueue packet media_duration_ms
      { history with
        queue := queue
        offered := history.offered + 1
        accepted :=
          if decision = .enqueue then history.accepted ++ [packet] else history.accepted }
  | .drainOne =>
      let (queue, packet) := history.queue.drainOne
      { history with queue := queue, drained := history.drained ++ packet.toList }

/-- What the counters of the queue promise about its history. -/
structure Exact (history : QueueHistory) : Prop where
  media_ms : history.queue.queued_media_ms =
    (history.queue.queued_packets.map fun queued => queued.media_duration_ms.toNat).sum
  budget : history.queue.queued_media_ms ≤ history.queue.queue_budget_ms.toNat
  in_order : history.drained ++ history.queue.queued_packets.map QueuedPacket.packet
    = history.accepted
  counted : history.queue.received_packets + history.queue.dropped_packets = history.offered

end QueueHistory

/-! ## The exact queue -/

/-- A queue of durations that adds them without a bound: the durations that wait, and how many
were accepted and refused. -/
structure ExactQueue where
  waiting : List Nat
  accepted : Nat
  refused : Nat
  deriving DecidableEq

namespace ExactQueue

def start : ExactQueue := ⟨[], 0, 0⟩

def step (budget : Nat) (exact : ExactQueue) : QueueOp → ExactQueue
  | .enqueue _ media_duration_ms =>
      if exact.waiting.sum + media_duration_ms.toNat ≤ budget then
        { exact with
          waiting := exact.waiting ++ [media_duration_ms.toNat]
          accepted := exact.accepted + 1 }
      else { exact with refused := exact.refused + 1 }
  | .drainOne => { exact with waiting := exact.waiting.tail }

/-- The counts only grow. -/
theorem step_counts (budget : Nat) (exact : ExactQueue) (op : QueueOp) :
    exact.accepted ≤ (exact.step budget op).accepted ∧
      exact.refused ≤ (exact.step budget op).refused := by
  cases op with
  | drainOne => exact ⟨Nat.le_refl _, Nat.le_refl _⟩
  | enqueue packet media_duration_ms =>
      rw [step]
      split
      · exact ⟨Nat.le_succ _, Nat.le_refl _⟩
      · exact ⟨Nat.le_refl _, Nat.le_succ _⟩

theorem run_counts (budget : Nat) (exact : ExactQueue) (ops : List QueueOp) :
    exact.accepted ≤ (run (step budget) exact ops).accepted ∧
      exact.refused ≤ (run (step budget) exact ops).refused := by
  refine run_induction (P := fun exact' => exact.accepted ≤ exact'.accepted ∧
    exact.refused ≤ exact'.refused) (step budget) ?_ ⟨Nat.le_refl _, Nat.le_refl _⟩ ops
  intro exact' op h
  have hstep := step_counts budget exact' op
  exact ⟨h.1.trans hstep.1, h.2.trans hstep.2⟩

end ExactQueue

/-- The exact queue of the same budget refuses nothing if that budget is the largest, and its
counts fit the counters. -/
structure Countable (queue_budget_ms : UInt16) (ops : List QueueOp) : Prop where
  unsaturated : queue_budget_ms.toNat = u16Max →
    (run (ExactQueue.step queue_budget_ms.toNat) .start ops).refused = 0
  accepted_le : (run (ExactQueue.step queue_budget_ms.toNat) .start ops).accepted ≤ u64Max
  refused_le : (run (ExactQueue.step queue_budget_ms.toNat) .start ops).refused ≤ u64Max

/-! ## The queue refines the exact one -/

/-- The queue holds what the exact one holds, and its counters are the exact ones as far as they
reach. -/
structure Refines (queue_budget_ms : UInt16) (history : QueueHistory) (exact : ExactQueue) :
    Prop where
  budget_eq : history.queue.queue_budget_ms = queue_budget_ms
  durations : (history.queue.queued_packets.map fun queued => queued.media_duration_ms.toNat)
    = exact.waiting
  media_ms : history.queue.queued_media_ms = exact.waiting.sum
  within : exact.waiting.sum ≤ queue_budget_ms.toNat
  received : history.queue.received_packets = min exact.accepted u64Max
  dropped : history.queue.dropped_packets = min exact.refused u64Max
  offered : history.offered = exact.accepted + exact.refused

theorem satAdd_min_one (n : Nat) : satAdd u64Max (min n u64Max) 1 = min (n + 1) u64Max := by
  unfold satAdd
  omega

theorem refines_start (viewer_id : UserId) (queue_budget_ms : UInt16) :
    Refines queue_budget_ms (.start viewer_id queue_budget_ms) .start :=
  ⟨rfl, rfl, rfl, Nat.zero_le _, rfl, rfl, rfl⟩

/-- A call keeps both queues alike, unless the exact one refuses a packet and the budget is the
largest. -/
theorem Refines.step {queue_budget_ms : UInt16} {history : QueueHistory} {exact : ExactQueue}
    (h : Refines queue_budget_ms history exact) (op : QueueOp)
    (hfits : queue_budget_ms.toNat = u16Max →
      (exact.step queue_budget_ms.toNat op).refused = exact.refused) :
    Refines queue_budget_ms (history.step op) (exact.step queue_budget_ms.toNat op) := by
  have hbudget : queue_budget_ms.toNat ≤ u16Max := Nat.le_of_lt_succ queue_budget_ms.toNat_lt
  cases op with
  | drainOne =>
      have hmedia := h.media_ms
      have hwithin := h.within
      have hdurations := h.durations
      rw [QueueHistory.step, ExactQueue.step, ViewerQueue.drainOne]
      cases hqueue : history.queue.queued_packets with
      | nil =>
          rw [hqueue, List.map_nil] at hdurations
          -- nothing waits in either queue
          refine ⟨h.budget_eq, ?_, ?_, ?_, h.received, h.dropped, h.offered⟩
          · show history.queue.queued_packets.map _ = exact.waiting.tail
            rw [hqueue, ← hdurations]
            rfl
          · rw [← hdurations] at hmedia ⊢
            exact hmedia
          · rw [← hdurations]
            exact Nat.zero_le _
      | cons queued rest =>
          rw [hqueue, List.map_cons] at hdurations
          -- the oldest packet leaves with its duration, which the sum contains
          have hsum : exact.waiting.sum
              = queued.media_duration_ms.toNat + exact.waiting.tail.sum := by
            rw [← hdurations, List.sum_cons, List.tail_cons]
          refine ⟨h.budget_eq, ?_, ?_, ?_, h.received, h.dropped, h.offered⟩
          · show rest.map _ = exact.waiting.tail
            rw [← hdurations, List.tail_cons]
          · show history.queue.queued_media_ms - queued.media_duration_ms.toNat = _
            rw [hmedia, hsum, Nat.add_sub_cancel_left]
          · show exact.waiting.tail.sum ≤ queue_budget_ms.toNat
            omega
  | enqueue packet media_duration_ms =>
      have hoffered := h.offered
      rw [ExactQueue.step] at hfits
      rw [QueueHistory.step, ExactQueue.step, ViewerQueue.enqueue, h.budget_eq, h.media_ms,
        h.received, h.dropped, satAdd_min_one, satAdd_min_one]
      by_cases hroom : exact.waiting.sum + media_duration_ms.toNat ≤ queue_budget_ms.toNat
      · -- within the budget the counter does not saturate
        have hexact : satAdd u16Max exact.waiting.sum media_duration_ms.toNat
            = exact.waiting.sum + media_duration_ms.toNat := satAdd_eq (hroom.trans hbudget)
        rw [if_pos hroom, hexact, if_neg (Nat.not_lt.mpr hroom)]
        refine ⟨rfl, ?_, ?_, ?_, rfl, rfl, ?_⟩
        · show (history.queue.queued_packets ++ [_]).map _ = _
          rw [List.map_append, h.durations]
          rfl
        · show _ = (exact.waiting ++ [media_duration_ms.toNat]).sum
          rw [List.sum_append, List.sum_singleton]
        · rw [List.sum_append, List.sum_singleton]
          exact hroom
        · show history.offered + 1 = exact.accepted + 1 + exact.refused
          omega
      · -- the sum goes over the budget, and unless that is the largest, its cut does too
        have hlower : queue_budget_ms.toNat < u16Max := by
          refine Nat.lt_of_le_of_ne hbudget fun hlargest => ?_
          have hsame := hfits hlargest
          rw [if_neg hroom] at hsame
          exact absurd hsame (Nat.succ_ne_self _)
        have hover : queue_budget_ms.toNat
            < satAdd u16Max exact.waiting.sum media_duration_ms.toNat := by
          unfold satAdd
          omega
        rw [if_neg hroom, if_pos hover]
        refine ⟨rfl, h.durations, rfl, h.within, rfl, rfl, ?_⟩
        show history.offered + 1 = exact.accepted + (exact.refused + 1)
        omega

/-- A saturated sum is not over the largest budget, so a packet that the exact queue refuses is
taken, and the sum of the queue is too small. -/
theorem Refines.not_exact {queue_budget_ms : UInt16} {history : QueueHistory} {exact : ExactQueue}
    (h : Refines queue_budget_ms history exact) (hlargest : queue_budget_ms.toNat = u16Max)
    {op : QueueOp} (hrefused : (exact.step queue_budget_ms.toNat op).refused ≠ exact.refused) :
    ¬ (history.step op).Exact := by
  intro hexact
  cases op with
  | drainOne => exact hrefused rfl
  | enqueue packet media_duration_ms =>
      rw [ExactQueue.step] at hrefused
      have hover : ¬ exact.waiting.sum + media_duration_ms.toNat ≤ queue_budget_ms.toNat := by
        intro hroom
        rw [if_pos hroom] at hrefused
        exact hrefused rfl
      have hcut : satAdd u16Max exact.waiting.sum media_duration_ms.toNat = u16Max :=
        Nat.min_eq_right (by omega)
      have hsum := hexact.media_ms
      rw [QueueHistory.step, ViewerQueue.enqueue, h.budget_eq, h.media_ms, hcut, hlargest,
        if_neg (Nat.lt_irrefl _)] at hsum
      have hqueued : u16Max = exact.waiting.sum + media_duration_ms.toNat := by
        calc u16Max
          _ = ((history.queue.queued_packets ++ [QueuedPacket.mk packet media_duration_ms]).map
              fun queued : QueuedPacket => queued.media_duration_ms.toNat).sum := hsum
          _ = exact.waiting.sum + media_duration_ms.toNat := by
              rw [List.map_append, List.sum_append, h.durations]
              exact congrArg _ (List.sum_singleton)
      omega

/-- What was drained and what still waits are the packets enqueued, in order. -/
theorem step_in_order {history : QueueHistory}
    (h : history.drained ++ history.queue.queued_packets.map QueuedPacket.packet
      = history.accepted) (op : QueueOp) :
    (history.step op).drained ++ (history.step op).queue.queued_packets.map QueuedPacket.packet
      = (history.step op).accepted := by
  cases op with
  | enqueue packet media_duration_ms =>
      rw [QueueHistory.step, ViewerQueue.enqueue]
      by_cases hover : history.queue.queue_budget_ms.toNat
          < satAdd u16Max history.queue.queued_media_ms media_duration_ms.toNat
      · rw [if_pos hover]
        exact h
      · rw [if_neg hover]
        show history.drained ++ (history.queue.queued_packets ++ [_]).map _
          = history.accepted ++ [packet]
        rw [List.map_append, ← List.append_assoc, h]
        rfl
  | drainOne =>
      rw [QueueHistory.step, ViewerQueue.drainOne]
      cases hqueue : history.queue.queued_packets with
      | nil =>
          rw [hqueue] at h
          show history.drained ++ [] ++ history.queue.queued_packets.map _ = history.accepted
          rw [hqueue, ← h, List.append_nil]
      | cons queued rest =>
          rw [hqueue, List.map_cons] at h
          show history.drained ++ [queued.packet] ++ rest.map _ = history.accepted
          rw [List.append_assoc, ← h]
          rfl

section Runs

variable (viewer_id : UserId) (queue_budget_ms : UInt16)

/-- The history of a queue, from an empty one. -/
def historyOf (ops : List QueueOp) : QueueHistory :=
  run QueueHistory.step (.start viewer_id queue_budget_ms) ops

def exactOf (ops : List QueueOp) : ExactQueue :=
  run (ExactQueue.step queue_budget_ms.toNat) .start ops

theorem exactOf_mono {ops ops' : List QueueOp} (h : ops <+: ops') :
    (exactOf queue_budget_ms ops).accepted ≤ (exactOf queue_budget_ms ops').accepted ∧
      (exactOf queue_budget_ms ops).refused ≤ (exactOf queue_budget_ms ops').refused := by
  obtain ⟨more, rfl⟩ := h
  unfold exactOf
  rw [run_append]
  exact ExactQueue.run_counts _ _ more

theorem refines_historyOf {ops : List QueueOp}
    (hunsaturated : queue_budget_ms.toNat = u16Max → (exactOf queue_budget_ms ops).refused = 0) :
    Refines queue_budget_ms (historyOf viewer_id queue_budget_ms ops)
      (exactOf queue_budget_ms ops) := by
  induction ops using List.reverseRecOn with
  | nil => exact refines_start viewer_id queue_budget_ms
  | append_singleton ops op ih =>
      have hmono := exactOf_mono queue_budget_ms (List.prefix_append ops [op])
      have hbefore := ih fun hlargest => by
        have hnone := hunsaturated hlargest
        omega
      unfold exactOf historyOf at *
      rw [run_snoc] at hmono hunsaturated
      rw [run_snoc, run_snoc]
      refine hbefore.step op fun hlargest => ?_
      have hnone := hunsaturated hlargest
      omega

/-- With the largest budget, a queue that is exact after every call has refused nothing. -/
theorem refused_eq_zero {ops : List QueueOp}
    (hexact : ∀ before, before <+: ops → (historyOf viewer_id queue_budget_ms before).Exact)
    (hlargest : queue_budget_ms.toNat = u16Max) : (exactOf queue_budget_ms ops).refused = 0 := by
  induction ops using List.reverseRecOn with
  | nil => rfl
  | append_singleton ops op ih =>
      have hnone := ih fun before hbefore =>
        hexact before (hbefore.trans (List.prefix_append ops [op]))
      have hrefines := refines_historyOf viewer_id queue_budget_ms fun _ => hnone
      have hlast := hexact _ (List.prefix_refl (ops ++ [op]))
      rw [historyOf, run_snoc] at hlast
      rw [exactOf, run_snoc, ← hnone]
      by_contra hrefused
      exact hrefines.not_exact hlargest hrefused hlast

theorem historyOf_in_order (ops : List QueueOp) :
    (historyOf viewer_id queue_budget_ms ops).drained ++
        (historyOf viewer_id queue_budget_ms ops).queue.queued_packets.map QueuedPacket.packet
      = (historyOf viewer_id queue_budget_ms ops).accepted :=
  run_induction (P := fun history : QueueHistory =>
    history.drained ++ history.queue.queued_packets.map QueuedPacket.packet = history.accepted)
    QueueHistory.step (fun _ op h => step_in_order h op) rfl ops

/-- The queue is exact after every call exactly when its sum never saturates and its counters do
not. -/
theorem exact_iff_countable (ops : List QueueOp) :
    (∀ before, before <+: ops → (historyOf viewer_id queue_budget_ms before).Exact) ↔
      Countable queue_budget_ms ops := by
  constructor
  · intro hexact
    have hunsaturated := refused_eq_zero viewer_id queue_budget_ms hexact
    have hrefines := refines_historyOf viewer_id queue_budget_ms hunsaturated
    have hcounted := (hexact ops (List.prefix_refl ops)).counted
    rw [hrefines.received, hrefines.dropped, hrefines.offered] at hcounted
    exact ⟨hunsaturated, by unfold exactOf at hcounted; omega,
      by unfold exactOf at hcounted; omega⟩
  · intro hcountable before hbefore
    have hmono := exactOf_mono queue_budget_ms hbefore
    have haccepted : (exactOf queue_budget_ms ops).accepted ≤ u64Max := hcountable.accepted_le
    have hrefused : (exactOf queue_budget_ms ops).refused ≤ u64Max := hcountable.refused_le
    have hunsaturated : queue_budget_ms.toNat = u16Max →
        (exactOf queue_budget_ms before).refused = 0 := by
      intro hlargest
      have hnone : (exactOf queue_budget_ms ops).refused = 0 := hcountable.unsaturated hlargest
      omega
    have hrefines := refines_historyOf viewer_id queue_budget_ms hunsaturated
    refine ⟨?_, ?_, historyOf_in_order viewer_id queue_budget_ms before, ?_⟩
    · rw [hrefines.media_ms, hrefines.durations]
    · rw [hrefines.media_ms, hrefines.budget_eq]
      exact hrefines.within
    · rw [hrefines.received, hrefines.dropped, hrefines.offered]
      omega

end Runs

/-! ## The fan-out -/

structure StreamFanout where
  stream_id : StreamId
  viewers : BTreeMap UserId ViewerQueue

structure FanoutSummary where
  stream_id : StreamId
  delivered_to : BTreeSet UserId
  dropped_for : BTreeSet UserId

namespace StreamFanout

def new (stream_id : StreamId) : StreamFanout := ⟨stream_id, ∅⟩

def addViewer (fanout : StreamFanout) (viewer_id : UserId) (queue_budget_ms : UInt16) :
    StreamFanout :=
  match fanout.viewers[viewer_id]? with
  | some _ => fanout
  | none =>
      { fanout with
        viewers := fanout.viewers.insert viewer_id (.new viewer_id queue_budget_ms) }

def removeViewer (fanout : StreamFanout) (viewer_id : UserId) : StreamFanout :=
  { fanout with viewers := fanout.viewers.erase viewer_id }

/-- One turn of the loop over the viewers: the queues so far, and for whom the packet was
enqueued and dropped. -/
def fanoutTurn (packet : MediaPacket) (media_duration_ms : UInt16)
    (acc : BTreeMap UserId ViewerQueue × BTreeSet UserId × BTreeSet UserId)
    (viewer : UserId × ViewerQueue) :
    BTreeMap UserId ViewerQueue × BTreeSet UserId × BTreeSet UserId :=
  let (queue, decision) := viewer.2.enqueue packet media_duration_ms
  match decision with
  | .enqueue => (acc.1.insert viewer.1 queue, acc.2.1.insert viewer.1, acc.2.2)
  | .dropForViewer => (acc.1.insert viewer.1 queue, acc.2.1, acc.2.2.insert viewer.1)

def fanout (fanout : StreamFanout) (packet : MediaPacket) (media_duration_ms : UInt16) :
    StreamFanout × FanoutSummary :=
  let (viewers, delivered_to, dropped_for) :=
    fanout.viewers.toList.foldl (fanoutTurn packet media_duration_ms) (fanout.viewers, ∅, ∅)
  ({ fanout with viewers := viewers }, ⟨fanout.stream_id, delivered_to, dropped_for⟩)

/-- `viewer_queue_mut`, and `drain_one` of the queue if there is one. -/
def drainViewer (fanout : StreamFanout) (viewer_id : UserId) : StreamFanout × Option MediaPacket :=
  match fanout.viewers[viewer_id]? with
  | none => (fanout, none)
  | some queue =>
      ({ fanout with viewers := fanout.viewers.insert viewer_id queue.drainOne.1 },
        queue.drainOne.2)

/-! ### The loop -/

section Loop

variable (packet : MediaPacket) (media_duration_ms : UInt16)

theorem fanoutTurn_viewers (acc : BTreeMap UserId ViewerQueue × BTreeSet UserId × BTreeSet UserId)
    (viewer : UserId × ViewerQueue) :
    (fanoutTurn packet media_duration_ms acc viewer).1
      = acc.1.insert viewer.1 (viewer.2.enqueue packet media_duration_ms).1 := by
  unfold fanoutTurn
  rcases viewer.2.enqueue packet media_duration_ms with ⟨queue, decision⟩
  cases decision <;> rfl

/-- A turn puts the viewer into one of the two sets. -/
theorem mem_fanoutTurn (acc : BTreeMap UserId ViewerQueue × BTreeSet UserId × BTreeSet UserId)
    (viewer : UserId × ViewerQueue) (w : UserId) :
    (w ∈ (fanoutTurn packet media_duration_ms acc viewer).2.1 ↔
      w ∈ acc.2.1 ∨
        w = viewer.1 ∧ (viewer.2.enqueue packet media_duration_ms).2 = .enqueue) ∧
    (w ∈ (fanoutTurn packet media_duration_ms acc viewer).2.2 ↔
      w ∈ acc.2.2 ∨
        w = viewer.1 ∧ (viewer.2.enqueue packet media_duration_ms).2 = .dropForViewer) := by
  unfold fanoutTurn
  rcases viewer.2.enqueue packet media_duration_ms with ⟨queue, decision⟩
  cases decision with
  | enqueue => simp [@eq_comm _ w viewer.1, or_comm]
  | dropForViewer => simp [@eq_comm _ w viewer.1, or_comm]

/-- After the loop, the queue of every viewer on the list has been offered the packet once. -/
theorem foldl_fanoutTurn_viewers {viewers : List (UserId × ViewerQueue)}
    (hnodup : (viewers.map Prod.fst).Nodup)
    (acc : BTreeMap UserId ViewerQueue × BTreeSet UserId × BTreeSet UserId) (w : UserId) :
    (∀ queue, (w, queue) ∈ viewers →
        (viewers.foldl (fanoutTurn packet media_duration_ms) acc).1[w]?
          = some (queue.enqueue packet media_duration_ms).1) ∧
      ((∀ queue, (w, queue) ∉ viewers) →
        (viewers.foldl (fanoutTurn packet media_duration_ms) acc).1[w]? = acc.1[w]?) := by
  induction viewers generalizing acc with
  | nil => exact ⟨nofun, fun _ => rfl⟩
  | cons viewer viewers ih =>
      rw [List.map_cons, List.nodup_cons] at hnodup
      obtain ⟨hthere, haway⟩ := ih hnodup.2 (fanoutTurn packet media_duration_ms acc viewer)
      rw [List.foldl_cons]
      rw [fanoutTurn_viewers, get_insert] at haway
      constructor
      · intro queue hmem
        rcases List.mem_cons.mp hmem with rfl | hmem
        · -- no later turn is about the same viewer
          rw [if_pos rfl] at haway
          exact haway fun other hother => hnodup.1 (List.mem_map.mpr ⟨_, hother, rfl⟩)
        · exact hthere queue hmem
      · intro hnone
        have hne : w ≠ viewer.1 := by
          rintro rfl
          exact hnone viewer.2 List.mem_cons_self
        rw [if_neg hne] at haway
        exact haway fun other hother => hnone other (List.mem_cons_of_mem _ hother)

theorem mem_foldl_fanoutTurn (viewers : List (UserId × ViewerQueue))
    (acc : BTreeMap UserId ViewerQueue × BTreeSet UserId × BTreeSet UserId) (w : UserId) :
    (w ∈ (viewers.foldl (fanoutTurn packet media_duration_ms) acc).2.1 ↔
      w ∈ acc.2.1 ∨ ∃ queue, (w, queue) ∈ viewers ∧
        (queue.enqueue packet media_duration_ms).2 = .enqueue) ∧
    (w ∈ (viewers.foldl (fanoutTurn packet media_duration_ms) acc).2.2 ↔
      w ∈ acc.2.2 ∨ ∃ queue, (w, queue) ∈ viewers ∧
        (queue.enqueue packet media_duration_ms).2 = .dropForViewer) := by
  induction viewers generalizing acc with
  | nil => simp
  | cons viewer viewers ih =>
      obtain ⟨hdelivered, hdropped⟩ := ih (fanoutTurn packet media_duration_ms acc viewer)
      obtain ⟨hdelivered', hdropped'⟩ := mem_fanoutTurn packet media_duration_ms acc viewer w
      have hsplit : ∀ decision, (∃ queue, (w, queue) ∈ viewer :: viewers ∧
            (queue.enqueue packet media_duration_ms).2 = decision) ↔
          (w = viewer.1 ∧ (viewer.2.enqueue packet media_duration_ms).2 = decision) ∨
            ∃ queue, (w, queue) ∈ viewers ∧
              (queue.enqueue packet media_duration_ms).2 = decision := by
        intro decision
        constructor
        · rintro ⟨queue, hmem, hdecision⟩
          rcases List.mem_cons.mp hmem with rfl | hmem
          · exact .inl ⟨rfl, hdecision⟩
          · exact .inr ⟨queue, hmem, hdecision⟩
        · rintro (⟨rfl, hdecision⟩ | ⟨queue, hmem, hdecision⟩)
          · exact ⟨viewer.2, List.mem_cons_self, hdecision⟩
          · exact ⟨queue, List.mem_cons_of_mem _ hmem, hdecision⟩
      rw [List.foldl_cons, hdelivered, hdropped, hdelivered', hdropped', hsplit, hsplit, or_assoc,
        or_assoc]
      exact ⟨Iff.rfl, Iff.rfl⟩

end Loop

/-! ### One call -/

theorem mem_toList_iff (viewers : BTreeMap UserId ViewerQueue) (w : UserId) (queue : ViewerQueue) :
    (w, queue) ∈ viewers.toList ↔ viewers[w]? = some queue :=
  Std.ExtTreeMap.mem_toList_iff_getElem?_eq_some

/-- Every queue is offered the packet once. -/
theorem fanout_viewers (fanout : StreamFanout) (packet : MediaPacket) (media_duration_ms : UInt16)
    (w : UserId) :
    (fanout.fanout packet media_duration_ms).1.viewers[w]?
      = (fanout.viewers[w]?).map fun queue => (queue.enqueue packet media_duration_ms).1 := by
  have hnodup : (fanout.viewers.toList.map Prod.fst).Nodup := by
    rw [Std.ExtTreeMap.map_fst_toList_eq_keys]
    exact Std.ExtTreeMap.nodup_keys
  obtain ⟨hthere, haway⟩ :=
    foldl_fanoutTurn_viewers packet media_duration_ms hnodup (fanout.viewers, ∅, ∅) w
  show (fanout.viewers.toList.foldl (fanoutTurn packet media_duration_ms) _).1[w]? = _
  cases hqueue : fanout.viewers[w]? with
  | none =>
      rw [haway fun queue hmem => ?_, hqueue]
      · rfl
      · rw [mem_toList_iff, hqueue] at hmem
        exact nomatch hmem
  | some queue =>
      rw [hthere queue ((mem_toList_iff _ _ _).mpr hqueue)]
      rfl

/-- The summary names each viewer once, by the decision of its queue. -/
theorem fanout_summary (fanout : StreamFanout) (packet : MediaPacket) (media_duration_ms : UInt16)
    (w : UserId) :
    (w ∈ (fanout.fanout packet media_duration_ms).2.delivered_to ↔
      ∃ queue, fanout.viewers[w]? = some queue ∧
        (queue.enqueue packet media_duration_ms).2 = .enqueue) ∧
    (w ∈ (fanout.fanout packet media_duration_ms).2.dropped_for ↔
      ∃ queue, fanout.viewers[w]? = some queue ∧
        (queue.enqueue packet media_duration_ms).2 = .dropForViewer) := by
  have hmem := mem_foldl_fanoutTurn packet media_duration_ms fanout.viewers.toList
    (fanout.viewers, ∅, ∅) w
  simp only [mem_toList_iff, Std.ExtTreeSet.not_mem_empty, false_or] at hmem
  exact hmem

end StreamFanout

/-! ## Every queue on its own -/

/-- The calls that change a fan-out or one of its queues. -/
inductive FanoutOp
  | addViewer (viewer_id : UserId) (queue_budget_ms : UInt16)
  | removeViewer (viewer_id : UserId)
  | fanout (packet : MediaPacket) (media_duration_ms : UInt16)
  | drainOne (viewer_id : UserId)

def StreamFanout.step (fanout : StreamFanout) : FanoutOp → StreamFanout
  | .addViewer viewer_id queue_budget_ms => fanout.addViewer viewer_id queue_budget_ms
  | .removeViewer viewer_id => fanout.removeViewer viewer_id
  | .fanout packet media_duration_ms => (fanout.fanout packet media_duration_ms).1
  | .drainOne viewer_id => (fanout.drainViewer viewer_id).1

/-- What a call means for one viewer: the budget it was added with, and the calls on its queue
since. -/
def servedStep (v : UserId) (served : Option (UInt16 × List QueueOp)) :
    FanoutOp → Option (UInt16 × List QueueOp)
  | .addViewer viewer_id queue_budget_ms =>
      if v = viewer_id then some (served.getD (queue_budget_ms, [])) else served
  | .removeViewer viewer_id => if v = viewer_id then none else served
  | .fanout packet media_duration_ms =>
      served.map fun served => (served.1, served.2 ++ [.enqueue packet media_duration_ms])
  | .drainOne viewer_id =>
      if v = viewer_id then served.map fun served => (served.1, served.2 ++ [.drainOne])
      else served

/-- The queue that is made for one viewer alone and gets these calls. -/
def standAlone (v : UserId) (served : UInt16 × List QueueOp) : ViewerQueue :=
  run ViewerQueue.step (.new v served.1) served.2

/-- A call changes the queue of a viewer as the calls that it means for this viewer do. -/
theorem step_standAlone {fanout : StreamFanout} {v : UserId}
    {served : Option (UInt16 × List QueueOp)}
    (h : fanout.viewers[v]? = served.map (standAlone v)) (op : FanoutOp) :
    (fanout.step op).viewers[v]? = (servedStep v served op).map (standAlone v) := by
  -- one more call for a viewer that is served already
  have hmore : ∀ op, (served.map fun served => (served.1, served.2 ++ [op])).map (standAlone v)
      = (fanout.viewers[v]?).map fun queue => queue.step op := by
    intro op
    rw [h, Option.map_map, Option.map_map]
    congr 1
    funext served
    exact run_snoc _ _ _ _
  cases op with
  | addViewer viewer_id queue_budget_ms =>
      rw [StreamFanout.step, StreamFanout.addViewer, servedStep]
      by_cases hv : v = viewer_id
      · subst hv
        rw [if_pos rfl]
        cases served with
        | none =>
            rw [Option.map_none] at h
            -- the viewer enters with an empty queue
            simp only [h, get_insert, if_true]
            rfl
        | some served =>
            rw [Option.map_some] at h
            -- a viewer that is there keeps its queue
            simp only [h]
            rfl
      · rw [if_neg hv, ← h]
        split
        · rfl
        · show (fanout.viewers.insert viewer_id _)[v]? = _
          rw [get_insert, if_neg hv]
  | removeViewer viewer_id =>
      show (fanout.viewers.erase viewer_id)[v]? = _
      rw [servedStep, get_erase]
      by_cases hv : v = viewer_id
      · rw [if_pos hv, if_pos hv]
        rfl
      · rw [if_neg hv, if_neg hv, h]
  | fanout packet media_duration_ms =>
      rw [servedStep, hmore]
      exact StreamFanout.fanout_viewers fanout packet media_duration_ms v
  | drainOne viewer_id =>
      rw [StreamFanout.step, StreamFanout.drainViewer, servedStep]
      by_cases hv : v = viewer_id
      · subst hv
        rw [if_pos rfl, hmore]
        cases hqueue : fanout.viewers[v]? with
        | none => exact hqueue
        | some queue =>
            show (fanout.viewers.insert v _)[v]? = _
            rw [get_insert, if_pos rfl]
            rfl
      · rw [if_neg hv, ← h]
        split
        · rfl
        · show (fanout.viewers.insert viewer_id _)[v]? = _
          rw [get_insert, if_neg hv]

/-- In every run of a fan-out, each viewer has the queue that it would have alone. -/
theorem run_standAlone (stream_id : StreamId) (ops : List FanoutOp) (v : UserId) :
    (run StreamFanout.step (.new stream_id) ops).viewers[v]?
      = (run (servedStep v) none ops).map (standAlone v) := by
  induction ops using List.reverseRecOn with
  | nil => exact Std.ExtTreeMap.getElem?_empty
  | append_singleton ops op ih =>
      rw [run_snoc, run_snoc]
      exact step_standAlone ih op

/-- The summary of a packet divides the current viewers. -/
structure Divides (fanout : StreamFanout) (summary : FanoutSummary) : Prop where
  current : ∀ v, v ∈ fanout.viewers ↔ v ∈ summary.delivered_to ∨ v ∈ summary.dropped_for
  disjoint : ∀ v, ¬ (v ∈ summary.delivered_to ∧ v ∈ summary.dropped_for)

theorem fanout_divides (fanout : StreamFanout) (packet : MediaPacket)
    (media_duration_ms : UInt16) :
    Divides fanout (fanout.fanout packet media_duration_ms).2 := by
  constructor
  · intro v
    obtain ⟨hdelivered, hdropped⟩ := fanout.fanout_summary packet media_duration_ms v
    rw [hdelivered, hdropped, mem_iff_get]
    constructor
    · rintro ⟨queue, hqueue⟩
      cases hdecision : (queue.enqueue packet media_duration_ms).2 with
      | enqueue => exact .inl ⟨queue, hqueue, hdecision⟩
      | dropForViewer => exact .inr ⟨queue, hqueue, hdecision⟩
    · rintro (⟨queue, hqueue, -⟩ | ⟨queue, hqueue, -⟩)
      · exact ⟨queue, hqueue⟩
      · exact ⟨queue, hqueue⟩
  · rintro v ⟨hboth, hboth'⟩
    obtain ⟨hdelivered, hdropped⟩ := fanout.fanout_summary packet media_duration_ms v
    obtain ⟨queue, hqueue, henqueued⟩ := hdelivered.mp hboth
    obtain ⟨queue', hqueue', hdropped⟩ := hdropped.mp hboth'
    cases hqueue.symm.trans hqueue'
    exact nomatch henqueued.symm.trans hdropped

/-- A queue is exact after every call exactly when its sum and its counters do not saturate, and
the queues of a fan-out are those of its viewers alone. -/
theorem viewer_queues_exact_iff (viewer_id : UserId) (queue_budget_ms : UInt16)
    (ops : List QueueOp) (stream_id : StreamId) (fanout_ops : List FanoutOp) :
    ((∀ before, before <+: ops → (historyOf viewer_id queue_budget_ms before).Exact) ↔
        Countable queue_budget_ms ops) ∧
      (∀ v, (run StreamFanout.step (.new stream_id) fanout_ops).viewers[v]?
        = (run (servedStep v) none fanout_ops).map (standAlone v)) ∧
      ∀ (packet : MediaPacket) (media_duration_ms : UInt16),
        Divides (run StreamFanout.step (.new stream_id) fanout_ops)
          ((run StreamFanout.step (.new stream_id) fanout_ops).fanout packet
            media_duration_ms).2 :=
  ⟨exact_iff_countable viewer_id queue_budget_ms ops, run_standAlone stream_id fanout_ops,
    fanout_divides _⟩

/-- Two packets of 40 seconds wait in a queue with the largest budget, and its sum is 65535. -/
theorem full_budget_overrun :
    ¬ ∀ (viewer_id : UserId) (queue_budget_ms : UInt16) (ops : List QueueOp),
      (historyOf viewer_id queue_budget_ms ops).Exact := by
  intro hclaim
  let packet : MediaPacket := ⟨.new .video .h264 9 1 0, []⟩
  have hexact := hclaim 1 65535 [.enqueue packet 40000, .enqueue packet 40000]
  exact absurd hexact.media_ms (by decide)

end TeamView.Relay
