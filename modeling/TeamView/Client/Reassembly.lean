import TeamView.Lib.BTree
import TeamView.Lib.Runs
import TeamView.Protocol.Frame

set_option autoImplicit false

/-! # The reassembly buffer of a viewer

`FrameReassemblyBuffer` (`crates/desktop-client/src/decode/mod.rs`) collects the packets of
several frames and hands a frame out with its last fragment. Frames that are too old, too many or
too much media are dropped.
-/

namespace TeamView.Client

open TeamView.Protocol BTree MachineInt Runs

/-- `PendingFrame`. -/
structure PendingFrame where
  first_packet_receive_time_micros : UInt64
  packets : List MediaPacket

structure FrameReassemblyBuffer where
  pending : BTreeMap UInt32 PendingFrame
  max_pending_frames : Nat
  max_frame_age_frames : UInt32
  max_pending_media_ms : UInt16
  frame_interval_ms : UInt16

structure ReassemblyOutcome where
  frame : Option EncodedFrame
  dropped_frames : Nat
  reassembly_ms : Nat
  deriving DecidableEq

inductive PushError where
  | duplicateFragment (fragment_index : UInt16) (frame_id : UInt32)
  | reassembly (error : FrameReassemblyError)
  deriving DecidableEq

/-- `micros_delta_to_millis`. -/
def microsDeltaToMillis (start_micros end_micros : UInt64) : Nat :=
  if start_micros = 0 ∨ end_micros < start_micros then 0
  else min ((end_micros.toNat - start_micros.toNat) / 1000) u16Max

def frameIsOlderThanWindow (frame_id newest_frame_id max_frame_age_frames : UInt32) : Bool :=
  let distance := newest_frame_id - frame_id
  decide (max_frame_age_frames < distance) && decide (distance < UInt32.ofNat (u32Max / 2))

/-- Remove the oldest frames while there are too many. A turn of the loop removes a frame, so as
many turns as there are frames are enough. -/
def dropOldestWhile (tooMany : BTreeMap UInt32 PendingFrame → Bool) :
    Nat → BTreeMap UInt32 PendingFrame → Nat → BTreeMap UInt32 PendingFrame × Nat
  | 0, pending, dropped_frames => (pending, dropped_frames)
  | turns + 1, pending, dropped_frames =>
      if tooMany pending then
        match pending.minKey? with
        | none => (pending, dropped_frames)
        | some oldest_frame_id =>
            dropOldestWhile tooMany turns (pending.erase oldest_frame_id) (dropped_frames + 1)
      else (pending, dropped_frames)

namespace FrameReassemblyBuffer

def withLimits (max_pending_frames : Nat) (max_frame_age_frames : UInt32) :
    FrameReassemblyBuffer where
  pending := ∅
  max_pending_frames := max max_pending_frames 1
  max_frame_age_frames := max max_frame_age_frames 1
  max_pending_media_ms := UInt16.ofNat u16Max
  frame_interval_ms := 1

def new : FrameReassemblyBuffer := withLimits 64 64

def withJitterBudget (max_pending_frames : Nat) (max_frame_age_frames : UInt32)
    (max_pending_media_ms frame_interval_ms : UInt16) : FrameReassemblyBuffer where
  pending := ∅
  max_pending_frames := max max_pending_frames 1
  max_frame_age_frames := max max_frame_age_frames 1
  max_pending_media_ms := max max_pending_media_ms (max frame_interval_ms 1)
  frame_interval_ms := max frame_interval_ms 1

/-- `pending_media_ms`, for a map of pending frames. -/
def pendingMediaMs (buffer : FrameReassemblyBuffer) (pending : BTreeMap UInt32 PendingFrame) :
    Nat :=
  min (satMul u64Max pending.size buffer.frame_interval_ms.toNat) u16Max

/-- `evict_stale_frames`. -/
def staleFrames (buffer : FrameReassemblyBuffer) (newest_frame_id : UInt32) : List UInt32 :=
  buffer.pending.keys.filter fun frame_id =>
    frameIsOlderThanWindow frame_id newest_frame_id buffer.max_frame_age_frames

/-- The condition of the loop of `evict_media_budget`. -/
def overBudget (buffer : FrameReassemblyBuffer) (pending : BTreeMap UInt32 PendingFrame) : Bool :=
  decide (buffer.max_pending_media_ms.toNat < buffer.pendingMediaMs pending) && !pending.isEmpty

/-- `evict_media_budget`. -/
def evictMediaBudget (buffer : FrameReassemblyBuffer) (pending : BTreeMap UInt32 PendingFrame) :
    BTreeMap UInt32 PendingFrame × Nat :=
  dropOldestWhile buffer.overBudget pending.size pending 0

/-- The condition of the loop that makes room for a new frame. -/
def crowdedFor (buffer : FrameReassemblyBuffer) (frame_id : UInt32)
    (pending : BTreeMap UInt32 PendingFrame) : Bool :=
  !pending.contains frame_id && decide (buffer.max_pending_frames ≤ pending.size)

def pushWithStatsAt (buffer : FrameReassemblyBuffer) (packet : MediaPacket)
    (packet_receive_time_micros : UInt64) :
    FrameReassemblyBuffer × Except PushError ReassemblyOutcome :=
  let frame_id := packet.header.frame_id
  let fragment_index := packet.header.fragment_index
  -- stale frames go first, and then the oldest ones while a new frame has no slot
  let stale := buffer.staleFrames frame_id
  let pending := stale.foldl (fun pending frame_id => pending.erase frame_id) buffer.pending
  let (pending, crowded) :=
    dropOldestWhile (buffer.crowdedFor frame_id) pending.size pending 0
  let entry := pending[frame_id]?.getD ⟨packet_receive_time_micros, []⟩
  if entry.packets.any (fun pending => pending.header.fragment_index = fragment_index) then
    -- what was dropped stays dropped, and the fragments before this one are kept
    ({ buffer with pending := pending.insert frame_id entry },
      .error (.duplicateFragment fragment_index frame_id))
  else
    let entry := { entry with packets := entry.packets ++ [packet] }
    let pending := pending.insert frame_id entry
    if entry.packets.length ≠ packet.header.fragment_count.toNat then
      let (pending, over_budget) := buffer.evictMediaBudget pending
      ({ buffer with pending := pending },
        .ok ⟨none, stale.length + crowded + over_budget, 0⟩)
    else
      -- the frame leaves the buffer whether it can be joined or not
      let buffer := { buffer with pending := pending.erase frame_id }
      let reassembly_ms := microsDeltaToMillis entry.first_packet_receive_time_micros
        packet_receive_time_micros
      match reassembleFrame entry.packets with
      | .error error => (buffer, .error (.reassembly error))
      | .ok frame => (buffer, .ok ⟨some frame, stale.length + crowded, reassembly_ms⟩)

end FrameReassemblyBuffer

/-! ## Dropping frames -/

section DropOldest

variable {tooMany : BTreeMap UInt32 PendingFrame → Bool} {pending : BTreeMap UInt32 PendingFrame}

theorem dropOldestWhile_of_not (h : tooMany pending = false) (turns dropped_frames : Nat) :
    dropOldestWhile tooMany turns pending dropped_frames = (pending, dropped_frames) := by
  cases turns with
  | zero => rfl
  | succ turns =>
      rw [dropOldestWhile, h]
      rfl

/-- A frame that leaves the map is counted. -/
theorem dropOldestWhile_size (turns dropped_frames : Nat) :
    (dropOldestWhile tooMany turns pending dropped_frames).1.size
        + (dropOldestWhile tooMany turns pending dropped_frames).2
      = pending.size + dropped_frames := by
  induction turns generalizing pending dropped_frames with
  | zero => rfl
  | succ turns ih =>
      unfold dropOldestWhile
      split
      · split
        · rfl
        · next oldest hsome =>
            -- the oldest frame is one of the map, so that erasing it is one frame less
            have hmem := (Std.ExtTreeMap.minKey?_eq_some_iff_mem_and_forall.mp hsome).1
            have hpos := size_pos_of_mem hmem
            have hrest := @ih (pending.erase oldest) (dropped_frames + 1)
            rw [Std.ExtTreeMap.size_erase, if_pos (Std.ExtTreeMap.contains_iff_mem.mpr hmem)]
              at hrest
            omega
      · rfl

/-- No frame comes into the map. -/
theorem dropOldestWhile_subset {frame_id : UInt32} (turns dropped_frames : Nat)
    (h : frame_id ∈ (dropOldestWhile tooMany turns pending dropped_frames).1) :
    frame_id ∈ pending := by
  induction turns generalizing pending dropped_frames with
  | zero => exact h
  | succ turns ih =>
      unfold dropOldestWhile at h
      split at h
      · split at h
        · exact h
        · next oldest _ =>
            have hrest := ih (dropped_frames + 1) h
            exact ((mem_erase pending oldest frame_id).mp hrest).2
      · exact h

theorem dropOldestWhile_le (turns dropped_frames : Nat) :
    dropped_frames ≤ (dropOldestWhile tooMany turns pending dropped_frames).2 := by
  induction turns generalizing pending dropped_frames with
  | zero => exact le_refl dropped_frames
  | succ turns ih =>
      unfold dropOldestWhile
      split
      · split
        · exact le_refl dropped_frames
        · exact le_trans (Nat.le_succ dropped_frames) (ih (dropped_frames + 1))
      · exact le_refl dropped_frames

/-- The loop drops a frame when its condition holds and there is one. -/
theorem dropOldestWhile_pos (htoo : tooMany pending = true) (hpos : 0 < pending.size) :
    0 < (dropOldestWhile tooMany pending.size pending 0).2 := by
  obtain ⟨turns, hturns⟩ : ∃ turns, pending.size = turns + 1 :=
    ⟨pending.size - 1, by omega⟩
  rw [hturns, dropOldestWhile, if_pos htoo]
  split
  · next hnone =>
      rw [Std.ExtTreeMap.minKey?_eq_none_iff] at hnone
      rw [hnone] at hpos
      exact absurd hpos (Nat.lt_irrefl 0)
  · exact dropOldestWhile_le turns (0 + 1)

end DropOldest

namespace FrameReassemblyBuffer

variable {buffer : FrameReassemblyBuffer} {packet : MediaPacket} {received : UInt64}
  {packets : List MediaPacket} {first : UInt64}

/-- Nothing is dropped for this packet before it is stored, and its fragment is new: `packets`
are the ones that its frame has so far. -/
structure Admits (buffer : FrameReassemblyBuffer) (packet : MediaPacket) (received first : UInt64)
    (packets : List MediaPacket) : Prop where
  fresh : buffer.staleFrames packet.header.frame_id = []
  room : packet.header.frame_id ∈ buffer.pending ∨ buffer.pending.size < buffer.max_pending_frames
  entry : buffer.pending[packet.header.frame_id]?.getD ⟨received, []⟩ = ⟨first, packets⟩
  unseen : ∀ earlier ∈ packets, earlier.header.fragment_index ≠ packet.header.fragment_index

theorem Admits.not_crowded (h : buffer.Admits packet received first packets) :
    buffer.crowdedFor packet.header.frame_id buffer.pending = false := by
  rw [crowdedFor, Bool.and_eq_false_iff, Bool.not_eq_false', Std.ExtTreeMap.contains_iff_mem,
    decide_eq_false_iff_not, Nat.not_le]
  exact h.room

theorem Admits.not_duplicate (h : buffer.Admits packet received first packets) :
    ¬ packets.any (fun pending =>
      pending.header.fragment_index = packet.header.fragment_index) = true := by
  rw [List.any_eq_true]
  rintro ⟨earlier, hearlier, hsame⟩
  exact h.unseen earlier hearlier (decide_eq_true_eq.mp hsame)

/-- A packet that does not complete its frame is stored. -/
theorem push_stored (h : buffer.Admits packet received first packets)
    (hmore : packets.length + 1 ≠ packet.header.fragment_count.toNat)
    (hbudget : buffer.pendingMediaMs
      (buffer.pending.insert packet.header.frame_id ⟨first, packets ++ [packet]⟩)
        ≤ buffer.max_pending_media_ms.toNat) :
    buffer.pushWithStatsAt packet received =
      ({ buffer with
          pending := buffer.pending.insert packet.header.frame_id ⟨first, packets ++ [packet]⟩ },
        .ok ⟨none, 0, 0⟩) := by
  have hlength : (packets ++ [packet]).length ≠ packet.header.fragment_count.toNat := by
    rw [List.length_append, List.length_singleton]
    exact hmore
  have hfits : buffer.overBudget
      (buffer.pending.insert packet.header.frame_id ⟨first, packets ++ [packet]⟩) = false := by
    rw [overBudget, Bool.and_eq_false_iff, decide_eq_false_iff_not]
    exact .inl (Nat.not_lt.mpr hbudget)
  unfold pushWithStatsAt evictMediaBudget
  simp only [h.fresh, List.foldl_nil, dropOldestWhile_of_not h.not_crowded, h.entry,
    if_neg h.not_duplicate, if_pos hlength, dropOldestWhile_of_not hfits, List.length_nil,
    Nat.add_zero]

/-- The last fragment hands the frame out. -/
theorem push_completed (h : buffer.Admits packet received first packets)
    (hlast : packets.length + 1 = packet.header.fragment_count.toNat) {frame : EncodedFrame}
    (hframe : reassembleFrame (packets ++ [packet]) = .ok frame) :
    buffer.pushWithStatsAt packet received =
      ({ buffer with
          pending := (buffer.pending.insert packet.header.frame_id
            ⟨first, packets ++ [packet]⟩).erase packet.header.frame_id },
        .ok ⟨some frame, 0, microsDeltaToMillis first received⟩) := by
  have hlength : ¬ (packets ++ [packet]).length ≠ packet.header.fragment_count.toNat := by
    rw [List.length_append, List.length_singleton]
    exact not_not.mpr hlast
  unfold pushWithStatsAt
  simp only [h.fresh, List.foldl_nil, dropOldestWhile_of_not h.not_crowded, h.entry,
    if_neg h.not_duplicate, if_neg hlength, hframe, List.length_nil, Nat.add_zero]

end FrameReassemblyBuffer

end TeamView.Client
