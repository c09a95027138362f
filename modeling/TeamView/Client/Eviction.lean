import TeamView.Client.FrameAccounting
import TeamView.Lib.Serial

set_option autoImplicit false

/-! # Which frames the reassembly buffer drops

A packet makes the buffer drop frames three times: the stale ones, the ones that make room for a
new frame, and the ones that exceed the media budget (`crates/desktop-client/src/decode/mod.rs`).
Age is measured around the wrap of the frame ids, but the two loops take the first key of the map
for the oldest frame. This file says what a push does stage by stage, that the loops end, which
bounds they keep over any run of packets, and when the frames they drop are the oldest ones.
-/

namespace TeamView.Client

open TeamView.Protocol BTree MachineInt Runs Serial

/-! ## The loops that drop frames -/

/-- The loop as the source writes it, without a bound on its turns: from `pending` it ends in
`rest` and drops so many frames. -/
inductive DropsOldest (tooMany : BTreeMap UInt32 PendingFrame → Bool) :
    BTreeMap UInt32 PendingFrame → BTreeMap UInt32 PendingFrame → Nat → Prop
  | fits {pending} : tooMany pending = false → DropsOldest tooMany pending pending 0
  | empty {pending} : tooMany pending = true → pending.minKey? = none →
      DropsOldest tooMany pending pending 0
  | turn {pending rest} {oldest_frame_id : UInt32} {dropped : Nat} : tooMany pending = true →
      pending.minKey? = some oldest_frame_id →
      DropsOldest tooMany (pending.erase oldest_frame_id) rest dropped →
      DropsOldest tooMany pending rest (dropped + 1)

section DropOldest

variable {tooMany : BTreeMap UInt32 PendingFrame → Bool} {pending : BTreeMap UInt32 PendingFrame}

theorem size_erase_minKey {oldest_frame_id : UInt32}
    (h : pending.minKey? = some oldest_frame_id) :
    (pending.erase oldest_frame_id).size + 1 = pending.size := by
  have hkeys := congrArg List.length (keys_erase_minKey h)
  rw [List.length_cons, Std.ExtTreeMap.length_keys, Std.ExtTreeMap.length_keys] at hkeys
  exact hkeys.symm

/-- The loop ends, after as many turns as there are frames at most. -/
theorem dropOldestWhile_ends {turns : Nat} (hturns : pending.size ≤ turns)
    (dropped_frames : Nat) : ∃ rest dropped, DropsOldest tooMany pending rest dropped ∧
      dropOldestWhile tooMany turns pending dropped_frames = (rest, dropped_frames + dropped) := by
  induction turns generalizing pending dropped_frames with
  | zero =>
      have hnone : pending.minKey? = none := by
        rw [Std.ExtTreeMap.minKey?_eq_none_iff, ← Std.ExtTreeMap.isEmpty_iff,
          Std.ExtTreeMap.isEmpty_eq_size_beq_zero, beq_iff_eq]
        exact Nat.le_zero.mp hturns
      refine ⟨pending, 0, ?_, rfl⟩
      cases htoo : tooMany pending with
      | false => exact .fits htoo
      | true => exact .empty htoo hnone
  | succ turns ih =>
      unfold dropOldestWhile
      cases htoo : tooMany pending with
      | false => exact ⟨pending, 0, .fits htoo, rfl⟩
      | true =>
          cases hmin : pending.minKey? with
          | none => exact ⟨pending, 0, .empty htoo hmin, rfl⟩
          | some oldest =>
              have hsize := size_erase_minKey hmin
              obtain ⟨rest, dropped, hloop, heq⟩ :=
                @ih (pending.erase oldest) (by omega) (dropped_frames + 1)
              refine ⟨rest, dropped + 1, .turn htoo hmin hloop, ?_⟩
              show dropOldestWhile tooMany turns (pending.erase oldest) (dropped_frames + 1) = _
              rw [heq, Nat.add_assoc, Nat.add_comm 1 dropped]

/-- What is left are the keys behind the dropped ones. -/
theorem DropsOldest.keys {rest : BTreeMap UInt32 PendingFrame} {dropped : Nat}
    (h : DropsOldest tooMany pending rest dropped) : rest.keys = pending.keys.drop dropped := by
  induction h with
  | fits => rfl
  | empty => rfl
  | turn _ hmin _ ih => rw [keys_erase_minKey hmin, List.drop_succ_cons, ih]

theorem DropsOldest.get {rest : BTreeMap UInt32 PendingFrame} {dropped : Nat}
    (h : DropsOldest tooMany pending rest dropped) {frame_id : UInt32} (hmem : frame_id ∈ rest) :
    rest[frame_id]? = pending[frame_id]? := by
  induction h with
  | fits => rfl
  | empty => rfl
  | @turn pending rest oldest dropped _ _ _ ih =>
      have hkeep : frame_id ∈ pending.erase oldest := by
        rw [mem_iff_get, ← ih hmem, ← mem_iff_get]
        exact hmem
      rw [ih hmem, get_erase, if_neg ((mem_erase pending oldest frame_id).mp hkeep).1]

theorem DropsOldest.size {rest : BTreeMap UInt32 PendingFrame} {dropped : Nat}
    (h : DropsOldest tooMany pending rest dropped) : rest.size + dropped = pending.size := by
  induction h with
  | fits => rfl
  | empty => rfl
  | turn _ hmin _ ih =>
      have hsize := size_erase_minKey hmin
      omega

/-- The last turn of the loop was needed. -/
theorem DropsOldest.last {rest : BTreeMap UInt32 PendingFrame} {dropped : Nat}
    (h : DropsOldest tooMany pending rest dropped) :
    (dropped = 0 ∧ rest = pending) ∨
      ∃ before, tooMany before = true ∧ before.size = rest.size + 1 := by
  induction h with
  | fits => exact .inl ⟨rfl, rfl⟩
  | empty => exact .inl ⟨rfl, rfl⟩
  | @turn pending rest oldest dropped htoo hmin _ ih =>
      right
      rcases ih with ⟨_, rfl⟩ | hbefore
      · exact ⟨pending, htoo, (size_erase_minKey hmin).symm⟩
      · exact hbefore

/-- The condition fails in the end, or nothing is left. -/
theorem DropsOldest.done {rest : BTreeMap UInt32 PendingFrame} {dropped : Nat}
    (h : DropsOldest tooMany pending rest dropped) : tooMany rest = false ∨ rest.size = 0 := by
  induction h with
  | fits hfits => exact .inl hfits
  | empty _ hnone =>
      rw [Std.ExtTreeMap.minKey?_eq_none_iff] at hnone
      right
      rw [hnone]
      exact Std.ExtTreeMap.size_empty
  | turn _ _ _ ih => exact ih

/-- The loop has one end. -/
theorem DropsOldest.unique {rest rest' : BTreeMap UInt32 PendingFrame} {dropped dropped' : Nat}
    (h : DropsOldest tooMany pending rest dropped)
    (h' : DropsOldest tooMany pending rest' dropped') : rest = rest' ∧ dropped = dropped' := by
  induction h generalizing rest' dropped' with
  | fits hfits =>
      cases h' with
      | fits => exact ⟨rfl, rfl⟩
      | empty => exact ⟨rfl, rfl⟩
      | turn htoo => exact absurd (htoo.symm.trans hfits) (by decide)
  | empty _ hnone =>
      cases h' with
      | fits => exact ⟨rfl, rfl⟩
      | empty => exact ⟨rfl, rfl⟩
      | turn _ hmin => exact absurd (hmin.symm.trans hnone) (by simp)
  | turn htoo hmin _ ih =>
      cases h' with
      | fits hfits => exact absurd (htoo.symm.trans hfits) (by decide)
      | empty _ hnone => exact absurd (hmin.symm.trans hnone) (by simp)
      | turn _ hmin' hloop =>
          have hsame := Option.some.inj (hmin.symm.trans hmin')
          subst hsame
          obtain ⟨hrest, hdropped⟩ := ih hloop
          exact ⟨hrest, congrArg (· + 1) hdropped⟩

/-- The frames that the loop drops, in their order, each with the map that it is dropped from. -/
def droppedOldest (tooMany : BTreeMap UInt32 PendingFrame → Bool) :
    Nat → BTreeMap UInt32 PendingFrame → List (BTreeMap UInt32 PendingFrame × UInt32)
  | 0, _ => []
  | turns + 1, pending =>
      if tooMany pending then
        match pending.minKey? with
        | none => []
        | some oldest_frame_id =>
            (pending, oldest_frame_id) ::
              droppedOldest tooMany turns (pending.erase oldest_frame_id)
      else []

/-- These are the frames that leave the map. -/
theorem dropOldestWhile_eq_droppedOldest (turns dropped_frames : Nat) :
    dropOldestWhile tooMany turns pending dropped_frames =
      (((droppedOldest tooMany turns pending).map Prod.snd).foldl
          (fun pending frame_id => pending.erase frame_id) pending,
        dropped_frames + (droppedOldest tooMany turns pending).length) := by
  induction turns generalizing pending dropped_frames with
  | zero => rfl
  | succ turns ih =>
      unfold dropOldestWhile droppedOldest
      cases tooMany pending with
      | false => rfl
      | true =>
          cases pending.minKey? with
          | none => rfl
          | some oldest =>
              show dropOldestWhile tooMany turns (pending.erase oldest) (dropped_frames + 1) = _
              rw [ih, Nat.add_right_comm]
              rfl

theorem dropsOldest_dropOldestWhile (tooMany : BTreeMap UInt32 PendingFrame → Bool)
    (pending : BTreeMap UInt32 PendingFrame) :
    DropsOldest tooMany pending (dropOldestWhile tooMany pending.size pending 0).1
      (dropOldestWhile tooMany pending.size pending 0).2 := by
  obtain ⟨rest, dropped, hloop, heq⟩ :=
    @dropOldestWhile_ends tooMany pending pending.size (le_refl _) 0
  rw [heq, Nat.zero_add]
  exact hloop

end DropOldest

namespace FrameReassemblyBuffer

/-! ## The stages of a push -/

section Stages

variable (buffer : FrameReassemblyBuffer) (packet : MediaPacket) (received : UInt64)

/-- The pending frame that the packet belongs to. -/
def entryFor : PendingFrame :=
  (buffer.roomFor packet.header.frame_id).1[packet.header.frame_id]?.getD ⟨received, []⟩

/-- The frames once the packet is stored with its own. -/
def stored : BTreeMap UInt32 PendingFrame :=
  (buffer.roomFor packet.header.frame_id).1.insert packet.header.frame_id
    { buffer.entryFor packet received with
      packets := (buffer.entryFor packet received).packets ++ [packet] }

def Repeats : Prop :=
  ∃ earlier ∈ buffer.packetsOf packet.header.frame_id,
    earlier.header.fragment_index = packet.header.fragment_index

/-- The fragment is new, and its frame is not complete with it. -/
def Waits : Prop :=
  ¬ buffer.Repeats packet ∧
    (buffer.packetsOf packet.header.frame_id).length + 1 ≠ packet.header.fragment_count.toNat

def Completes : Prop :=
  ¬ buffer.Repeats packet ∧
    (buffer.packetsOf packet.header.frame_id).length + 1 = packet.header.fragment_count.toNat

end Stages

variable {buffer : FrameReassemblyBuffer} {packet : MediaPacket} {received : UInt64}
  {frame_id : UInt32}

theorem frameIsOlderThanWindow_iff {frame_id newest_frame_id max_frame_age_frames : UInt32} :
    frameIsOlderThanWindow frame_id newest_frame_id max_frame_age_frames = true ↔
      max_frame_age_frames.toNat < ahead (2 ^ 32) frame_id.toNat newest_frame_id.toNat ∧
        ahead (2 ^ 32) frame_id.toNat newest_frame_id.toNat < u32Max / 2 := by
  unfold frameIsOlderThanWindow
  simp only [Bool.and_eq_true, decide_eq_true_eq, UInt32.lt_iff_toNat_lt, toNat_sub_eq_ahead]
  rfl

theorem dropsOldest_roomFor (frame_id : UInt32) : ∃ dropped,
    DropsOldest (buffer.crowdedFor frame_id) (buffer.freshFrames frame_id)
      (buffer.roomFor frame_id).1 dropped :=
  ⟨_, dropsOldest_dropOldestWhile _ _⟩

/-- There is room for a frame that is there already. -/
theorem roomFor_of_mem (h : frame_id ∈ buffer.pending) :
    (buffer.roomFor frame_id).1 = buffer.freshFrames frame_id := by
  have hfits : buffer.crowdedFor frame_id (buffer.freshFrames frame_id) = false := by
    rw [crowdedFor, Std.ExtTreeMap.contains_iff_mem.mpr ((mem_freshFrames frame_id).mpr h)]
    rfl
  show (dropOldestWhile _ _ _ 0).1 = _
  rw [dropOldestWhile_of_not hfits]

theorem entryFor_packets :
    (buffer.entryFor packet received).packets = buffer.packetsOf packet.header.frame_id :=
  packets_entry

theorem repeats_iff :
    ((buffer.entryFor packet received).packets.any fun pending =>
        pending.header.fragment_index = packet.header.fragment_index) = true ↔
      buffer.Repeats packet := by
  rw [entryFor_packets, List.any_eq_true]
  simp only [decide_eq_true_eq]
  rfl

/-- What a push does: the fragment was there already, its frame waits for more, or the frame
leaves the buffer, whether it can be put together or not. -/
theorem pushWithStatsAt_cases (buffer : FrameReassemblyBuffer) (packet : MediaPacket)
    (received : UInt64) :
    (buffer.Repeats packet ∧ buffer.pushWithStatsAt packet received =
        ({ buffer with
            pending := (buffer.roomFor packet.header.frame_id).1.insert packet.header.frame_id
              (buffer.entryFor packet received) },
          .error (.duplicateFragment packet.header.fragment_index packet.header.frame_id))) ∨
      (buffer.Waits packet ∧ buffer.pushWithStatsAt packet received =
        ({ buffer with pending := (buffer.evictMediaBudget (buffer.stored packet received)).1 },
          .ok ⟨none, (buffer.roomFor packet.header.frame_id).2 +
            (buffer.evictMediaBudget (buffer.stored packet received)).2, 0⟩)) ∨
      (buffer.Completes packet ∧ ∃ result, buffer.pushWithStatsAt packet received =
        ({ buffer with
            pending := (buffer.stored packet received).erase packet.header.frame_id }, result) ∧
        ∀ outcome, result = .ok outcome →
          outcome.dropped_frames = (buffer.roomFor packet.header.frame_id).2) := by
  by_cases hrepeats : buffer.Repeats packet
  · refine .inl ⟨hrepeats, ?_⟩
    unfold pushWithStatsAt
    exact if_pos (repeats_iff.mpr hrepeats)
  · have hany := mt (@repeats_iff buffer packet received).mp hrepeats
    have hlength : ((buffer.entryFor packet received).packets ++ [packet]).length
        = (buffer.packetsOf packet.header.frame_id).length + 1 := by
      rw [List.length_append, List.length_singleton, entryFor_packets]
    by_cases hcount : (buffer.packetsOf packet.header.frame_id).length + 1
        = packet.header.fragment_count.toNat
    · refine .inr (.inr ⟨⟨hrepeats, hcount⟩, ?_⟩)
      -- the last fragment: the frame goes, whether it can be joined or not
      have hlast := not_not.mpr (hlength.trans hcount)
      have hpush : buffer.pushWithStatsAt packet received = _ :=
        (if_neg hany).trans (if_neg hlast)
      refine ⟨(buffer.pushWithStatsAt packet received).2, Prod.ext ?_ rfl, ?_⟩
      · rw [hpush]
        dsimp only
        split <;> rfl
      · intro outcome houtcome
        rw [hpush] at houtcome
        dsimp only at houtcome
        split at houtcome
        · exact nomatch houtcome
        · cases houtcome
          rfl
    · refine .inr (.inl ⟨⟨hrepeats, hcount⟩, ?_⟩)
      have hmore : ((buffer.entryFor packet received).packets ++ [packet]).length
          ≠ packet.header.fragment_count.toNat := by
        rw [hlength]
        exact hcount
      exact (if_neg hany).trans (if_pos hmore)

end FrameReassemblyBuffer

/-! ## The bounds -/

/-- What the buffer keeps of a frame: fragments of it, each of them once. -/
structure PendingFrame.Holds (entry : PendingFrame) (frame_id : UInt32) : Prop where
  started : entry.packets ≠ []
  own : ∀ packet ∈ entry.packets, packet.header.frame_id = frame_id
  once : (entry.packets.map fun packet => packet.header.fragment_index).Nodup

namespace FrameReassemblyBuffer

structure Bounded (buffer : FrameReassemblyBuffer) : Prop where
  capacity : 0 < buffer.max_pending_frames
  frames : buffer.pending.size ≤ buffer.max_pending_frames
  media : buffer.pendingMediaMs buffer.pending ≤ buffer.max_pending_media_ms.toNat
  entries : ∀ (frame_id : UInt32) (entry : PendingFrame),
    buffer.pending[frame_id]? = some entry → entry.Holds frame_id

/-- One packet after the other, at the times they are received. -/
def afterPush (buffer : FrameReassemblyBuffer) (push : MediaPacket × UInt64) :
    FrameReassemblyBuffer :=
  (buffer.pushWithStatsAt push.1 push.2).1

variable {buffer : FrameReassemblyBuffer} {packet : MediaPacket} {received : UInt64}
  {frame_id : UInt32}

theorem bounded_of_empty (hpending : buffer.pending = ∅)
    (hcapacity : 0 < buffer.max_pending_frames) : buffer.Bounded where
  capacity := hcapacity
  frames := by
    rw [hpending]
    exact Nat.zero_le _
  media := by
    rw [hpending, pendingMediaMs, Std.ExtTreeMap.size_empty, satMul, Nat.zero_mul]
    exact Nat.zero_le _
  entries := by
    intro frame_id entry hentry
    rw [hpending] at hentry
    exact absurd hentry (by simp)

theorem pendingMediaMs_mono {pending pending' : BTreeMap UInt32 PendingFrame}
    (h : pending.size ≤ pending'.size) :
    buffer.pendingMediaMs pending ≤ buffer.pendingMediaMs pending' := by
  have hmul := Nat.mul_le_mul_right buffer.frame_interval_ms.toNat h
  unfold pendingMediaMs satMul
  omega

/-- A buffer that only loses frames stays within its bounds. -/
theorem Bounded.shrink (h : buffer.Bounded) {pending : BTreeMap UInt32 PendingFrame}
    (hkept : ∀ (frame_id : UInt32) (entry : PendingFrame),
      pending[frame_id]? = some entry → buffer.pending[frame_id]? = some entry) :
    ({ buffer with pending := pending } : FrameReassemblyBuffer).Bounded := by
  have hsize : pending.size ≤ buffer.pending.size := by
    refine size_le_of_subset fun frame_id hmem => ?_
    obtain ⟨entry, hentry⟩ := (mem_iff_get _ _).mp hmem
    exact mem_of_get (hkept frame_id entry hentry)
  refine ⟨h.capacity, le_trans hsize h.frames, ?_, ?_⟩
  · exact le_trans (pendingMediaMs_mono hsize) h.media
  · intro frame_id entry hentry
    exact h.entries frame_id entry (hkept frame_id entry hentry)

/-- The frames that are left when there is room are as they were. -/
theorem get_of_roomFor {newest : UInt32} {entry : PendingFrame}
    (h : (buffer.roomFor newest).1[frame_id]? = some entry) :
    buffer.pending[frame_id]? = some entry := by
  obtain ⟨dropped, hloop⟩ := buffer.dropsOldest_roomFor newest
  rw [hloop.get (mem_of_get h), freshFrames, get_foldl_erase] at h
  split at h
  · exact absurd h (by simp)
  · exact h

theorem roomFor_size_le (newest : UInt32) :
    (buffer.roomFor newest).1.size ≤ buffer.pending.size := by
  refine size_le_of_subset fun frame_id hmem => ?_
  obtain ⟨entry, hentry⟩ := (mem_iff_get _ _).mp hmem
  exact mem_of_get (get_of_roomFor hentry)

/-- The packet of a frame that is new finds room. -/
theorem Bounded.stored_size (h : buffer.Bounded) (packet : MediaPacket) (received : UInt64) :
    (buffer.stored packet received).size ≤ buffer.max_pending_frames := by
  have hcapacity := h.capacity
  have hframes := h.frames
  have hroomFor : (buffer.roomFor packet.header.frame_id).1.size ≤ buffer.pending.size :=
    roomFor_size_le _
  rw [stored, Std.ExtTreeMap.size_insert]
  split
  · omega
  · next hnew =>
      obtain ⟨dropped, hloop⟩ := buffer.dropsOldest_roomFor packet.header.frame_id
      rcases hloop.done with hfits | hempty
      · rw [crowdedFor, Bool.eq_false_iff.mpr hnew, Bool.not_false, Bool.true_and,
          decide_eq_false_iff_not] at hfits
        omega
      · omega

theorem Bounded.packetsOf_own (h : buffer.Bounded) (frame_id : UInt32) :
    ∀ packet ∈ buffer.packetsOf frame_id, packet.header.frame_id = frame_id := by
  unfold packetsOf
  cases hentry : buffer.pending[frame_id]? with
  | none => exact fun _ hmem => absurd hmem (by simp)
  | some entry => exact (h.entries frame_id entry hentry).own

theorem Bounded.packetsOf_once (h : buffer.Bounded) (frame_id : UInt32) :
    ((buffer.packetsOf frame_id).map fun packet => packet.header.fragment_index).Nodup := by
  unfold packetsOf
  cases hentry : buffer.pending[frame_id]? with
  | none => exact List.nodup_nil
  | some entry => exact (h.entries frame_id entry hentry).once

/-- Every frame is well kept once a new fragment is stored. -/
theorem Bounded.stored_entries (h : buffer.Bounded) (hnew : ¬ buffer.Repeats packet)
    (entry : PendingFrame) (hentry : (buffer.stored packet received)[frame_id]? = some entry) :
    entry.Holds frame_id := by
  rw [stored, get_insert] at hentry
  split at hentry
  · next hown =>
      have hpackets := congrArg PendingFrame.packets (Option.some.inj hentry)
      rw [entryFor_packets] at hpackets
      subst hown
      refine ⟨?_, ?_, ?_⟩
      · rw [← hpackets]
        exact List.append_ne_nil_of_right_ne_nil _ (List.cons_ne_nil packet [])
      · intro other hother
        rw [← hpackets, List.mem_append, List.mem_singleton] at hother
        rcases hother with hearlier | rfl
        · exact h.packetsOf_own packet.header.frame_id other hearlier
        · rfl
      · rw [← hpackets, List.map_append, List.nodup_append]
        refine ⟨h.packetsOf_once packet.header.frame_id, List.nodup_singleton _, ?_⟩
        intro index hindex other hother hsame
        obtain ⟨earlier, hearlier, rfl⟩ := List.mem_map.mp hindex
        exact hnew ⟨earlier, hearlier, hsame.trans (List.mem_singleton.mp hother)⟩
  · exact h.entries frame_id entry (get_of_roomFor hentry)

/-- Nothing waits beyond the media budget. -/
theorem evictMediaBudget_media (pending : BTreeMap UInt32 PendingFrame) :
    buffer.pendingMediaMs (buffer.evictMediaBudget pending).1
      ≤ buffer.max_pending_media_ms.toNat := by
  have hloop := dropsOldest_dropOldestWhile buffer.overBudget pending
  have hempty : ∀ rest : BTreeMap UInt32 PendingFrame, rest.size = 0 →
      buffer.pendingMediaMs rest ≤ buffer.max_pending_media_ms.toNat := by
    intro rest hsize
    rw [pendingMediaMs, hsize, satMul, Nat.zero_mul]
    exact Nat.zero_le _
  rcases hloop.done with hfits | hsize
  · rw [overBudget, Bool.and_eq_false_iff, decide_eq_false_iff_not, Nat.not_lt] at hfits
    rcases hfits with hle | hnothing
    · exact hle
    · refine hempty _ ?_
      rw [Bool.not_eq_false', Std.ExtTreeMap.isEmpty_eq_size_beq_zero, beq_iff_eq] at hnothing
      exact hnothing
  · exact hempty _ hsize

theorem Bounded.push (h : buffer.Bounded) (push : MediaPacket × UInt64) :
    (buffer.afterPush push).Bounded := by
  obtain ⟨packet, received⟩ := push
  show (buffer.pushWithStatsAt packet received).1.Bounded
  rcases buffer.pushWithStatsAt_cases packet received with
    ⟨⟨earlier, hearlier, _⟩, hpush⟩ | ⟨hwaits, hpush⟩ | ⟨_, _, hpush, _⟩
  · -- the frame of a repeated fragment is there already, so its entry is only written back
    have hmem : packet.header.frame_id ∈ buffer.pending := by
      rw [mem_iff_get, ← Option.isSome_iff_exists, Option.isSome_iff_ne_none]
      intro hnone
      rw [packetsOf, hnone] at hearlier
      exact absurd hearlier (by simp)
    obtain ⟨entry, hentry⟩ := (mem_iff_get _ _).mp hmem
    have hback : (buffer.roomFor packet.header.frame_id).1[packet.header.frame_id]?
        = some (buffer.entryFor packet received) := by
      rw [entryFor, roomFor_get, hentry, Option.getD_some]
    rw [hpush, insert_of_get hback]
    exact h.shrink fun _ _ hkept => get_of_roomFor hkept
  · rw [hpush]
    -- the frame waits: the loop drops until the media time is within its budget
    obtain hloop := dropsOldest_dropOldestWhile buffer.overBudget (buffer.stored packet received)
    have hsize := @dropOldestWhile_size buffer.overBudget (buffer.stored packet received)
      (buffer.stored packet received).size 0
    refine ⟨h.capacity, ?_, evictMediaBudget_media _, ?_⟩
    · have hstored := h.stored_size packet received
      show (dropOldestWhile buffer.overBudget (buffer.stored packet received).size
        (buffer.stored packet received) 0).1.size ≤ buffer.max_pending_frames
      omega
    · intro frame_id entry hentry
      have hsame := hloop.get (mem_of_get hentry)
      exact h.stored_entries hwaits.1 entry (hsame.symm.trans hentry)
  · rw [hpush]
    -- the frame leaves again, and nothing else has come in
    refine h.shrink ?_
    intro frame_id entry hentry
    rw [stored, erase_insert, get_erase] at hentry
    split at hentry
    · exact absurd hentry (by simp)
    · exact get_of_roomFor hentry

/-- The buffer stays within its bounds, whatever packets arrive, and the loops that drop frames
end. -/
theorem pushes_bounded {buffer : FrameReassemblyBuffer} (hbuilt : buffer.Constructed)
    (pushes : List (MediaPacket × UInt64)) :
    (run afterPush buffer pushes).Bounded ∧
      ∀ pending : BTreeMap UInt32 PendingFrame,
        (∀ frame_id : UInt32, ∃ rest dropped, DropsOldest
          ((run afterPush buffer pushes).crowdedFor frame_id) pending rest dropped) ∧
        ∃ rest dropped, DropsOldest
          (run afterPush buffer pushes).overBudget pending rest dropped := by
  refine ⟨?_, ?_⟩
  · exact run_induction afterPush (fun _ push h => h.push push)
      (bounded_of_empty hbuilt.pending_eq hbuilt.max_pos) pushes
  · intro pending
    exact ⟨fun frame_id => ⟨_, _, dropsOldest_dropOldestWhile _ _⟩,
      ⟨_, _, dropsOldest_dropOldestWhile _ _⟩⟩

theorem pushes_bounded_hostile :
    (run afterPush (withLimits 2 3) [(AccountedBuffer.firstHalf 7, 0),
      (AccountedBuffer.firstHalf 7, 0), (AccountedBuffer.firstHalf 900, 0)]).Bounded :=
  (pushes_bounded (.withLimits 2 3) _).1

/-! ## Which frames are dropped -/

section Decidable

variable (buffer : FrameReassemblyBuffer) (packet : MediaPacket)

instance : Decidable (buffer.Repeats packet) :=
  inferInstanceAs (Decidable (∃ earlier ∈ buffer.packetsOf packet.header.frame_id,
    earlier.header.fragment_index = packet.header.fragment_index))

instance : Decidable (buffer.Waits packet) :=
  inferInstanceAs (Decidable (¬ buffer.Repeats packet ∧
    (buffer.packetsOf packet.header.frame_id).length + 1 ≠ packet.header.fragment_count.toNat))

end Decidable

/-- The frames that a push drops for room and for the media budget, each with the pending frames
it is taken from. -/
def evictions (buffer : FrameReassemblyBuffer) (packet : MediaPacket) (received : UInt64) :
    List (BTreeMap UInt32 PendingFrame × UInt32) :=
  droppedOldest (buffer.crowdedFor packet.header.frame_id)
      (buffer.freshFrames packet.header.frame_id).size
      (buffer.freshFrames packet.header.frame_id) ++
    if buffer.Waits packet then
      droppedOldest buffer.overBudget (buffer.stored packet received).size
        (buffer.stored packet received)
    else []

/-- The dropped frames that a push reports are the stale ones and these. -/
theorem dropped_frames_eq (buffer : FrameReassemblyBuffer) (packet : MediaPacket)
    (received : UInt64) {outcome : ReassemblyOutcome}
    (h : (buffer.pushWithStatsAt packet received).2 = .ok outcome) :
    outcome.dropped_frames = (buffer.staleFrames packet.header.frame_id).length +
      (buffer.evictions packet received).length := by
  have hcount : ∀ tooMany pending, (dropOldestWhile tooMany pending.size pending 0).2
      = (droppedOldest tooMany pending.size pending).length := by
    intro tooMany pending
    rw [dropOldestWhile_eq_droppedOldest, Nat.zero_add]
  have hroom : (buffer.roomFor packet.header.frame_id).2
      = (buffer.staleFrames packet.header.frame_id).length +
        (droppedOldest (buffer.crowdedFor packet.header.frame_id)
          (buffer.freshFrames packet.header.frame_id).size
          (buffer.freshFrames packet.header.frame_id)).length := by
    rw [← hcount]
    rfl
  rcases buffer.pushWithStatsAt_cases packet received with
    ⟨_, hpush⟩ | ⟨hwaits, hpush⟩ | ⟨hcompletes, _, hpush, hdropped⟩
  · rw [hpush] at h
    exact nomatch h
  · rw [hpush] at h
    cases h
    show _ + (dropOldestWhile buffer.overBudget _ _ 0).2 = _
    rw [evictions, if_pos hwaits, List.length_append, hroom, hcount, Nat.add_assoc]
  · have hnot : ¬ buffer.Waits packet := fun hwaits => hwaits.2 hcompletes.2
    rw [hpush] at h
    rw [hdropped outcome h, evictions, if_neg hnot, List.append_nil, hroom]

/-- No frame is dropped while an older one is kept. -/
def OldestFirst (evictions : List (BTreeMap UInt32 PendingFrame × UInt32)) : Prop :=
  ∀ eviction ∈ evictions, ∀ frame_id ∈ eviction.1,
    frameIsOlderThanWindow frame_id eviction.2 0 = false

/-- No two of the frames lie on different sides of the wrap: as numbers they are not further
apart than half the ids. -/
def OneSide (frame_ids : List UInt32) : Prop :=
  ∀ a ∈ frame_ids, ∀ b ∈ frame_ids, b.toNat ≤ a.toNat + (u32Max / 2 + 2)

/-- The pending frames that a packet of `frame_id` leaves, oldest key first. -/
def liveIds (buffer : FrameReassemblyBuffer) (frame_id : UInt32) : List UInt32 :=
  buffer.pending.keys.filter fun pending =>
    !frameIsOlderThanWindow pending frame_id buffer.max_frame_age_frames

/-- The frames that wait together once the packet is stored. -/
def heldIds (buffer : FrameReassemblyBuffer) (frame_id : UInt32) : List UInt32 :=
  if frame_id ∈ buffer.liveIds frame_id then buffer.liveIds frame_id
  else frame_id :: (buffer.liveIds frame_id).drop
    ((buffer.liveIds frame_id).length + 1 - buffer.max_pending_frames)

def NeedsRoom (buffer : FrameReassemblyBuffer) (frame_id : UInt32) : Prop :=
  frame_id ∉ buffer.liveIds frame_id ∧
    buffer.max_pending_frames ≤ (buffer.liveIds frame_id).length

def ExceedsBudget (buffer : FrameReassemblyBuffer) (packet : MediaPacket) : Prop :=
  buffer.Waits packet ∧ buffer.max_pending_media_ms.toNat <
    min ((buffer.heldIds packet.header.frame_id).length * buffer.frame_interval_ms.toNat) u16Max

/-- The frames lie within half of the ids of each other: of any two, one is the older one. -/
def WithinHalf (frame_ids : List UInt32) : Prop :=
  ∀ a ∈ frame_ids, ∀ b ∈ frame_ids,
    a = b ∨ frameIsOlderThanWindow a b 0 = true ∨ frameIsOlderThanWindow b a 0 = true

-- decided along the list: a search among all ids would not end
instance (frame_ids : List UInt32) : Decidable (WithinHalf frame_ids) :=
  @List.decidableBAll _ _ (fun _ => List.decidableBAll _ frame_ids) frame_ids

variable {tooMany : BTreeMap UInt32 PendingFrame → Bool} {pending : BTreeMap UInt32 PendingFrame}

theorem OneSide.subset {frame_ids frame_ids' : List UInt32} (h : OneSide frame_ids)
    (hsub : ∀ a ∈ frame_ids', a ∈ frame_ids) : OneSide frame_ids' :=
  fun a ha b hb => h a (hsub a ha) b (hsub b hb)

/-- A larger key is an older frame exactly when it lies on the other side of the wrap. -/
theorem not_older_iff {a b : UInt32} (hab : a.toNat ≤ b.toNat) :
    frameIsOlderThanWindow b a 0 = false ↔ b.toNat ≤ a.toNat + (u32Max / 2 + 2) := by
  have hb : b.toNat < 2 ^ 32 := b.toNat_lt
  have hzero : (0 : UInt32).toNat = 0 := rfl
  have hhalf : u32Max / 2 = 2147483647 := rfl
  rw [← Bool.not_eq_true, frameIsOlderThanWindow_iff, hzero, hhalf]
  rcases Nat.eq_or_lt_of_le hab with heq | hlt
  · rw [heq, ahead_self (Nat.le_of_lt hb)]
    omega
  · rw [ahead_of_lt hlt hb]
    omega

theorem minKey_le {oldest_frame_id frame_id : UInt32} (h : pending.minKey? = some oldest_frame_id)
    (hmem : frame_id ∈ pending) : oldest_frame_id.toNat ≤ frame_id.toNat := by
  have hle := (Std.ExtTreeMap.minKey?_eq_some_iff_mem_and_forall.mp h).2 frame_id hmem
  rw [Std.isLE_compare] at hle
  exact UInt32.le_iff_toNat_le.mp hle

/-- On one side of the wrap the first key is the oldest frame. -/
theorem OneSide.oldestFirst (turns : Nat) (h : OneSide pending.keys) :
    OldestFirst (droppedOldest tooMany turns pending) := by
  induction turns generalizing pending with
  | zero => exact fun _ hmem => absurd hmem List.not_mem_nil
  | succ turns ih =>
      unfold droppedOldest
      split
      · split
        · exact fun _ hmem => absurd hmem List.not_mem_nil
        · next oldest hmin =>
            intro eviction hmem
            rcases List.mem_cons.mp hmem with rfl | hlater
            · intro frame_id hpending
              have hside := h oldest (by rw [keys_erase_minKey hmin]; exact List.mem_cons_self)
                frame_id (Std.ExtTreeMap.mem_keys.mpr hpending)
              exact (not_older_iff (minKey_le hmin hpending)).mpr hside
            · refine ih (h.subset ?_) eviction hlater
              intro frame_id hkept
              rw [keys_erase_minKey hmin]
              exact List.mem_cons_of_mem oldest hkept
      · exact fun _ hmem => absurd hmem List.not_mem_nil

/-- The loop drops the oldest frame each time exactly when it drops nothing or all frames lie on
one side of the wrap. -/
theorem oldestFirst_droppedOldest_iff :
    OldestFirst (droppedOldest tooMany pending.size pending) ↔
      (tooMany pending = true → OneSide pending.keys) := by
  constructor
  · intro h htoo a ha b hb
    rw [Std.ExtTreeMap.mem_keys] at ha hb
    obtain ⟨turns, hturns⟩ : ∃ turns, pending.size = turns + 1 :=
      ⟨pending.size - 1, by have := size_pos_of_mem ha; omega⟩
    rw [hturns, droppedOldest, if_pos htoo] at h
    cases hmin : pending.minKey? with
    | none =>
        rw [Std.ExtTreeMap.minKey?_eq_none_iff] at hmin
        rw [hmin] at ha
        exact absurd ha Std.ExtTreeMap.not_mem_empty
    | some oldest =>
        rw [hmin] at h
        -- the first eviction takes the least id, which is the oldest only on one side
        have hfirst := h (pending, oldest) List.mem_cons_self b hb
        have hside := (not_older_iff (minKey_le hmin hb)).mp hfirst
        have hleast := minKey_le hmin ha
        omega
  · intro h
    cases htoo : tooMany pending with
    | true => exact (h htoo).oldestFirst pending.size
    | false =>
        intro eviction hmem
        cases hsize : pending.size with
        | zero =>
            rw [hsize] at hmem
            exact absurd hmem List.not_mem_nil
        | succ turns =>
            rw [hsize, droppedOldest, if_neg (Bool.eq_false_iff.mp htoo)] at hmem
            exact absurd hmem List.not_mem_nil

/-! ## The frames of a push, from the state before it -/

theorem freshFrames_keys (frame_id : UInt32) :
    (buffer.freshFrames frame_id).keys = buffer.liveIds frame_id := by
  rw [freshFrames, keys_foldl_erase]
  refine List.filter_congr fun pending hpending => ?_
  have hstale : pending ∈ buffer.staleFrames frame_id ↔
      frameIsOlderThanWindow pending frame_id buffer.max_frame_age_frames = true := by
    rw [staleFrames, List.mem_filter, and_iff_right hpending]
  rw [decide_not, Bool.decide_congr hstale, Bool.decide_eq_true]

theorem mem_freshFrames_iff (newest : UInt32) :
    frame_id ∈ buffer.freshFrames newest ↔ frame_id ∈ buffer.liveIds newest := by
  rw [← freshFrames_keys, Std.ExtTreeMap.mem_keys]

theorem length_liveIds (frame_id : UInt32) :
    (buffer.freshFrames frame_id).size = (buffer.liveIds frame_id).length := by
  rw [← freshFrames_keys, Std.ExtTreeMap.length_keys]

theorem crowdedFor_freshFrames (frame_id : UInt32) :
    buffer.crowdedFor frame_id (buffer.freshFrames frame_id) = true ↔
      buffer.NeedsRoom frame_id := by
  rw [crowdedFor, Bool.and_eq_true, Bool.not_eq_true', ← Bool.not_eq_true,
    Std.ExtTreeMap.contains_iff_mem, mem_freshFrames_iff, decide_eq_true_eq, length_liveIds]
  rfl

/-- Making room takes away as many of the first keys as there are too many. -/
theorem roomFor_keys (hnew : frame_id ∉ buffer.liveIds frame_id) :
    (buffer.roomFor frame_id).1.keys = (buffer.liveIds frame_id).drop
      ((buffer.liveIds frame_id).length + 1 - buffer.max_pending_frames) := by
  obtain ⟨dropped, hloop⟩ := buffer.dropsOldest_roomFor frame_id
  have hsize := hloop.size
  rw [length_liveIds] at hsize
  have hroom : (buffer.roomFor frame_id).1.size < buffer.max_pending_frames ∨
      (buffer.roomFor frame_id).1.size = 0 := by
    refine hloop.done.imp_left fun hfits => ?_
    have hnot : (buffer.roomFor frame_id).1.contains frame_id = false := by
      rw [← Bool.not_eq_true, Std.ExtTreeMap.contains_iff_mem]
      exact fun hmem => hnew ((mem_freshFrames_iff frame_id).mp (dropOldestWhile_subset _ _ hmem))
    rw [crowdedFor, hnot, Bool.not_false, Bool.true_and, decide_eq_false_iff_not] at hfits
    exact Nat.not_le.mp hfits
  have hneeded : dropped = 0 ∨
      buffer.max_pending_frames ≤ (buffer.roomFor frame_id).1.size + 1 := by
    refine hloop.last.imp And.left ?_
    rintro ⟨before, hcrowded, hbefore⟩
    rw [crowdedFor, Bool.and_eq_true, decide_eq_true_eq] at hcrowded
    exact hbefore ▸ hcrowded.2
  rw [hloop.keys, freshFrames_keys]
  rcases hroom with hfits | hempty
  · congr 1
    omega
  · -- nothing is left, so it does not matter by how much the count goes over
    rw [List.drop_eq_nil_of_le (by omega), List.drop_eq_nil_of_le (by omega)]

theorem mem_roomFor (newest : UInt32) : frame_id ∈ (buffer.roomFor newest).1 ↔
    frame_id ∈ if newest ∈ buffer.liveIds newest then buffer.liveIds newest
      else (buffer.liveIds newest).drop
        ((buffer.liveIds newest).length + 1 - buffer.max_pending_frames) := by
  split
  · next hthere =>
      rw [roomFor_of_mem ((mem_freshFrames newest).mp ((mem_freshFrames_iff newest).mpr hthere)),
        mem_freshFrames_iff]
  · next hnew => rw [← roomFor_keys hnew, Std.ExtTreeMap.mem_keys]

theorem liveIds_nodup (frame_id : UInt32) : (buffer.liveIds frame_id).Nodup :=
  Std.ExtTreeMap.nodup_keys.filter _

theorem heldIds_nodup (frame_id : UInt32) : (buffer.heldIds frame_id).Nodup := by
  unfold heldIds
  split
  · exact liveIds_nodup frame_id
  · next hnew =>
      rw [List.nodup_cons]
      refine ⟨fun hmem => hnew (List.mem_of_mem_drop hmem), ?_⟩
      exact (liveIds_nodup frame_id).sublist (List.drop_sublist _ _)

theorem mem_stored :
    frame_id ∈ buffer.stored packet received ↔
      frame_id ∈ buffer.heldIds packet.header.frame_id := by
  rw [stored, mem_insert, mem_roomFor, heldIds]
  split
  · next hthere =>
      constructor
      · rintro (rfl | hmem)
        · exact hthere
        · exact hmem
      · exact .inr
  · rw [List.mem_cons]

theorem stored_size (buffer : FrameReassemblyBuffer) (packet : MediaPacket) (received : UInt64) :
    (buffer.stored packet received).size = (buffer.heldIds packet.header.frame_id).length := by
  rw [← Std.ExtTreeMap.length_keys]
  refine List.Perm.length_eq ?_
  rw [List.perm_ext_iff_of_nodup Std.ExtTreeMap.nodup_keys (heldIds_nodup _)]
  intro frame_id
  rw [Std.ExtTreeMap.mem_keys, mem_stored]

theorem overBudget_stored (hwaits : buffer.Waits packet) :
    buffer.overBudget (buffer.stored packet received) = true ↔ buffer.ExceedsBudget packet := by
  have hsome : (buffer.stored packet received).isEmpty = false := by
    rw [Bool.eq_false_iff, ne_eq, Std.ExtTreeMap.isEmpty_iff,
      Std.ExtTreeMap.eq_empty_iff_forall_not_mem]
    exact fun hnone => hnone packet.header.frame_id ((mem_insert _ _ _ _).mpr (.inl rfl))
  have htop : u16Max ≤ u64Max := by decide
  have hms : buffer.pendingMediaMs (buffer.stored packet received)
      = min ((buffer.heldIds packet.header.frame_id).length * buffer.frame_interval_ms.toNat)
        u16Max := by
    rw [pendingMediaMs, satMul, stored_size, min_assoc, min_eq_right htop]
  rw [overBudget, hsome, Bool.not_false, Bool.and_true, decide_eq_true_eq, hms]
  exact (and_iff_right hwaits).symm

theorem oneSide_congr {frame_ids frame_ids' : List UInt32}
    (hsame : ∀ a, a ∈ frame_ids ↔ a ∈ frame_ids') : OneSide frame_ids ↔ OneSide frame_ids' :=
  ⟨fun h => h.subset fun a ha => (hsame a).mpr ha, fun h => h.subset fun a ha => (hsame a).mp ha⟩

/-- The frames that a push drops are the oldest ones exactly when those it chooses from lie on
one side of the wrap. -/
theorem evictions_oldestFirst_iff (buffer : FrameReassemblyBuffer) (packet : MediaPacket)
    (received : UInt64) :
    OldestFirst (buffer.evictions packet received) ↔
      (buffer.NeedsRoom packet.header.frame_id → OneSide (buffer.liveIds packet.header.frame_id)) ∧
        (buffer.ExceedsBudget packet → OneSide (buffer.heldIds packet.header.frame_id)) := by
  have hroom : OldestFirst (droppedOldest (buffer.crowdedFor packet.header.frame_id)
      (buffer.freshFrames packet.header.frame_id).size
      (buffer.freshFrames packet.header.frame_id)) ↔
      (buffer.NeedsRoom packet.header.frame_id →
        OneSide (buffer.liveIds packet.header.frame_id)) := by
    rw [oldestFirst_droppedOldest_iff, crowdedFor_freshFrames, freshFrames_keys]
  have hstored : OneSide (buffer.stored packet received).keys ↔
      OneSide (buffer.heldIds packet.header.frame_id) := by
    refine oneSide_congr fun frame_id => ?_
    rw [Std.ExtTreeMap.mem_keys, mem_stored]
  have happend : ∀ first second, OldestFirst (first ++ second) ↔
      OldestFirst first ∧ OldestFirst second := by
    intro first second
    unfold OldestFirst
    rw [List.forall_mem_append]
  rw [evictions, happend, hroom]
  refine and_congr_right fun _ => ?_
  split
  · next hwaits => rw [oldestFirst_droppedOldest_iff, overBudget_stored hwaits, hstored]
  · next hnot =>
      refine iff_of_true (fun _ hmem => absurd hmem List.not_mem_nil) ?_
      exact fun hexceeds => absurd hexceeds.1 hnot

/-- Around the wrap the budget drops frame 0 and keeps the last frame before it. -/
theorem wrapped_frame_dropped :
    ¬ ∀ (buffer : FrameReassemblyBuffer) (packet : MediaPacket) (received : UInt64),
      WithinHalf (packet.header.frame_id :: buffer.pending.keys) →
        OldestFirst (buffer.evictions packet received) := by
  intro hclaim
  let buffer := run afterPush (withJitterBudget 64 64 66 33)
    [(AccountedBuffer.firstHalf 4294967295, 0), (AccountedBuffer.firstHalf 0, 0)]
  have hwithin : WithinHalf (1 :: buffer.pending.keys) := by decide +kernel
  have hwaits : buffer.Waits (AccountedBuffer.firstHalf 1) := by decide +kernel
  have hbudget : OldestFirst (droppedOldest buffer.overBudget
      (buffer.stored (AccountedBuffer.firstHalf 1) 0).size
      (buffer.stored (AccountedBuffer.firstHalf 1) 0)) := by
    intro eviction hmem
    refine hclaim buffer (AccountedBuffer.firstHalf 1) 0 hwithin eviction ?_
    rw [evictions, if_pos hwaits]
    exact List.mem_append_right _ hmem
  have hover : buffer.overBudget (buffer.stored (AccountedBuffer.firstHalf 1) 0) = true := by
    decide +kernel
  have hside := oldestFirst_droppedOldest_iff.mp hbudget hover 0 (by decide +kernel)
    4294967295 (by decide +kernel)
  exact absurd hside (by decide)

end FrameReassemblyBuffer

end TeamView.Client
