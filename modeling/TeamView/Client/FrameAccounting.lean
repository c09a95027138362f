import TeamView.Client.Reassembly

set_option autoImplicit false

/-! # Frame accounting

A frame that a reassembly buffer takes up is handed out, rejected when it is complete, dropped or
still pending. The caller learns of dropped frames from the `Ok` value of `push_with_stats_at`
only, so a push that drops frames and then fails loses their number. The accounts of a run balance
exactly when no push of it does both.
-/

namespace TeamView.Client

open TeamView.Protocol BTree MachineInt Runs

namespace FrameReassemblyBuffer

/-- The buffers that a constructor returns. -/
inductive Constructed : FrameReassemblyBuffer → Prop
  | new : Constructed new
  | withLimits (max_pending_frames : Nat) (max_frame_age_frames : UInt32) :
      Constructed (withLimits max_pending_frames max_frame_age_frames)
  | withJitterBudget (max_pending_frames : Nat) (max_frame_age_frames : UInt32)
      (max_pending_media_ms frame_interval_ms : UInt16) :
      Constructed (withJitterBudget max_pending_frames max_frame_age_frames max_pending_media_ms
        frame_interval_ms)

/-- The frames that `evict_stale_frames` leaves. -/
def freshFrames (buffer : FrameReassemblyBuffer) (newest_frame_id : UInt32) :
    BTreeMap UInt32 PendingFrame :=
  (buffer.staleFrames newest_frame_id).foldl (fun pending frame_id => pending.erase frame_id)
    buffer.pending

/-- The frames that are left when `push_with_stats_at` looks its frame up, and how many it has
dropped until then. -/
def roomFor (buffer : FrameReassemblyBuffer) (frame_id : UInt32) :
    BTreeMap UInt32 PendingFrame × Nat :=
  let pending := buffer.freshFrames frame_id
  let (pending, crowded) :=
    dropOldestWhile (buffer.crowdedFor frame_id) pending.size pending 0
  (pending, (buffer.staleFrames frame_id).length + crowded)

/-- The packets that a frame has so far. -/
def packetsOf (buffer : FrameReassemblyBuffer) (frame_id : UInt32) : List MediaPacket :=
  match buffer.pending[frame_id]? with
  | none => []
  | some entry => entry.packets

/-- The push of a packet drops frames before it looks its own frame up. -/
def Evicts (buffer : FrameReassemblyBuffer) (packet : MediaPacket) : Prop :=
  let stale := buffer.staleFrames packet.header.frame_id
  stale ≠ [] ∨
    packet.header.frame_id ∉ buffer.pending ∧
      buffer.max_pending_frames ≤ buffer.pending.size - stale.length

/-- The push of a packet fails: its frame has the fragment already, or it completes a frame that
`reassemble_frame` rejects. -/
def Fails (buffer : FrameReassemblyBuffer) (packet : MediaPacket) : Prop :=
  let packets := buffer.packetsOf packet.header.frame_id
  (∃ earlier ∈ packets, earlier.header.fragment_index = packet.header.fragment_index) ∨
    packets.length + 1 = packet.header.fragment_count.toNat ∧
      (reassembleFrame (packets ++ [packet])).isOk = false

end FrameReassemblyBuffer

/-- What became of the frames of a buffer, as far as its caller can tell. -/
structure FrameAccount where
  /-- The entries that were put into the map of pending frames. -/
  created : Nat
  returned : Nat
  /-- The sum of `dropped_frames`. -/
  reported : Nat
  /-- The frames that were complete and that `reassemble_frame` rejected. -/
  rejected : Nat
  deriving DecidableEq

def FrameAccount.empty : FrameAccount := ⟨0, 0, 0, 0⟩

def FrameAccount.record (account : FrameAccount) (vacant : Bool)
    (result : Except PushError ReassemblyOutcome) : FrameAccount :=
  let account := { account with created := account.created + vacant.toNat }
  match result with
  | .ok outcome =>
      { account with
        returned := account.returned + outcome.frame.isSome.toNat
        reported := account.reported + outcome.dropped_frames }
  | .error (.duplicateFragment _ _) => account
  | .error (.reassembly _) => { account with rejected := account.rejected + 1 }

/-- A buffer with its account. -/
structure AccountedBuffer where
  buffer : FrameReassemblyBuffer
  account : FrameAccount

namespace AccountedBuffer

/-- A packet is pushed with the time at which it was received. -/
def push (s : AccountedBuffer) (event : MediaPacket × UInt64) : AccountedBuffer :=
  let frame_id := event.1.header.frame_id
  let vacant := !(s.buffer.roomFor frame_id).1.contains frame_id
  let (buffer, result) := s.buffer.pushWithStatsAt event.1 event.2
  ⟨buffer, s.account.record vacant result⟩

/-- The frames that are accounted for. -/
def accounted (s : AccountedBuffer) : Nat :=
  s.account.returned + s.account.reported + s.account.rejected + s.buffer.pending.size

def Balanced (s : AccountedBuffer) : Prop := s.account.created = s.accounted

instance decidableBalanced (s : AccountedBuffer) : Decidable s.Balanced :=
  inferInstanceAs (Decidable (s.account.created = s.accounted))

/-- The frames that a push drops and reports to nobody. -/
def lostFrames (s : AccountedBuffer) (event : MediaPacket × UInt64) : Nat :=
  match (s.buffer.pushWithStatsAt event.1 event.2).2 with
  | .ok _ => 0
  | .error _ => (s.buffer.roomFor event.1.header.frame_id).2

end AccountedBuffer

/-! ## Making room -/

namespace FrameReassemblyBuffer

variable {buffer : FrameReassemblyBuffer} {packet : MediaPacket} {received : UInt64}

theorem mem_staleFrames {frame_id newest_frame_id : UInt32} :
    frame_id ∈ buffer.staleFrames newest_frame_id ↔
      frame_id ∈ buffer.pending ∧
        frameIsOlderThanWindow frame_id newest_frame_id buffer.max_frame_age_frames = true := by
  rw [staleFrames, List.mem_filter, Std.ExtTreeMap.mem_keys]

/-- A frame is not older than itself. -/
theorem not_mem_staleFrames_self (frame_id : UInt32) : frame_id ∉ buffer.staleFrames frame_id := by
  intro hmem
  have hold := (mem_staleFrames.mp hmem).2
  rw [frameIsOlderThanWindow, UInt32.sub_self, Bool.and_eq_true, decide_eq_true_eq] at hold
  exact UInt32.not_lt_zero hold.1

theorem freshFrames_size (buffer : FrameReassemblyBuffer) (frame_id : UInt32) :
    (buffer.freshFrames frame_id).size + (buffer.staleFrames frame_id).length
      = buffer.pending.size :=
  size_foldl_erase (Std.ExtTreeMap.nodup_keys.filter _) fun _ h => (mem_staleFrames.mp h).1

theorem freshFrames_get (frame_id : UInt32) :
    (buffer.freshFrames frame_id)[frame_id]? = buffer.pending[frame_id]? := by
  rw [freshFrames, get_foldl_erase, if_neg (not_mem_staleFrames_self frame_id)]

theorem mem_freshFrames (frame_id : UInt32) :
    frame_id ∈ buffer.freshFrames frame_id ↔ frame_id ∈ buffer.pending := by
  rw [mem_iff_get, mem_iff_get, freshFrames_get]

theorem roomFor_size (buffer : FrameReassemblyBuffer) (frame_id : UInt32) :
    (buffer.roomFor frame_id).1.size + (buffer.roomFor frame_id).2 = buffer.pending.size := by
  have hfresh := freshFrames_size buffer frame_id
  have hroom := @dropOldestWhile_size (buffer.crowdedFor frame_id) (buffer.freshFrames frame_id)
    (buffer.freshFrames frame_id).size 0
  unfold roomFor
  simp only
  omega

theorem crowdedFor_iff {frame_id : UInt32} {pending : BTreeMap UInt32 PendingFrame} :
    buffer.crowdedFor frame_id pending = true ↔
      frame_id ∉ pending ∧ buffer.max_pending_frames ≤ pending.size := by
  rw [crowdedFor, Bool.and_eq_true, Bool.not_eq_true', decide_eq_true_eq,
    ← Std.ExtTreeMap.contains_iff_mem, Bool.not_eq_true]

/-- The frame of the packet itself is not dropped. -/
theorem roomFor_get (frame_id : UInt32) :
    (buffer.roomFor frame_id).1[frame_id]? = buffer.pending[frame_id]? := by
  rw [← freshFrames_get]
  unfold roomFor
  simp only
  by_cases hmem : frame_id ∈ buffer.freshFrames frame_id
  · have hquiet : buffer.crowdedFor frame_id (buffer.freshFrames frame_id) = false := by
      rw [Bool.eq_false_iff, ne_eq, crowdedFor_iff]
      exact fun h => h.1 hmem
    rw [dropOldestWhile_of_not hquiet]
  · have hnone := mt (@dropOldestWhile_subset (buffer.crowdedFor frame_id) _ frame_id
      (buffer.freshFrames frame_id).size 0) hmem
    rw [(not_mem_iff_get _ _).mp hmem, (not_mem_iff_get _ _).mp hnone]

/-- A push drops frames before it looks its own frame up exactly when it evicts. -/
theorem roomFor_dropped_eq_zero_iff (hmax : 0 < buffer.max_pending_frames)
    (packet : MediaPacket) :
    (buffer.roomFor packet.header.frame_id).2 = 0 ↔ ¬ buffer.Evicts packet := by
  have hsize := freshFrames_size buffer packet.header.frame_id
  have hcrowded : buffer.crowdedFor packet.header.frame_id
        (buffer.freshFrames packet.header.frame_id) = true ↔
      packet.header.frame_id ∉ buffer.pending ∧ buffer.max_pending_frames
        ≤ buffer.pending.size - (buffer.staleFrames packet.header.frame_id).length := by
    rw [crowdedFor_iff, mem_freshFrames]
    exact and_congr_right fun _ => by omega
  unfold Evicts
  simp only
  rw [← hcrowded, not_or, not_not, ← List.length_eq_zero_iff]
  refine Nat.add_eq_zero_iff.trans (and_congr_right fun _ => ?_)
  constructor
  · intro hzero htoo
    have hroom := (crowdedFor_iff.mp htoo).2
    have hpos := dropOldestWhile_pos htoo (by omega)
    omega
  · intro hquiet
    rw [dropOldestWhile_of_not (Bool.eq_false_iff.mpr hquiet)]

/-- `push_with_stats_at` in terms of the room that it makes. -/
theorem pushWithStatsAt_eq (buffer : FrameReassemblyBuffer) (packet : MediaPacket)
    (received : UInt64) :
    buffer.pushWithStatsAt packet received =
      let frame_id := packet.header.frame_id
      let fragment_index := packet.header.fragment_index
      let room := buffer.roomFor frame_id
      let entry := room.1[frame_id]?.getD ⟨received, []⟩
      if entry.packets.any (fun pending => pending.header.fragment_index = fragment_index) then
        ({ buffer with pending := room.1.insert frame_id entry },
          .error (.duplicateFragment fragment_index frame_id))
      else
        let entry := { entry with packets := entry.packets ++ [packet] }
        let pending := room.1.insert frame_id entry
        if entry.packets.length ≠ packet.header.fragment_count.toNat then
          ({ buffer with pending := (buffer.evictMediaBudget pending).1 },
            .ok ⟨none, room.2 + (buffer.evictMediaBudget pending).2, 0⟩)
        else
          let buffer := { buffer with pending := pending.erase frame_id }
          match reassembleFrame entry.packets with
          | .error error => (buffer, .error (.reassembly error))
          | .ok frame => (buffer, .ok ⟨some frame, room.2,
              microsDeltaToMillis entry.first_packet_receive_time_micros received⟩) := rfl

/-- The size of the map of pending frames once the frame of a packet is in it. -/
def sizeWith (buffer : FrameReassemblyBuffer) (frame_id : UInt32) : Nat :=
  (buffer.roomFor frame_id).1.size + (!(buffer.roomFor frame_id).1.contains frame_id).toNat

theorem size_insert_room (frame_id : UInt32) (entry : PendingFrame) :
    ((buffer.roomFor frame_id).1.insert frame_id entry).size = buffer.sizeWith frame_id := by
  rw [sizeWith, Std.ExtTreeMap.size_insert]
  cases (buffer.roomFor frame_id).1.contains frame_id <;> rfl

theorem size_erase_room (frame_id : UInt32) (entry : PendingFrame) :
    (((buffer.roomFor frame_id).1.insert frame_id entry).erase frame_id).size + 1
      = buffer.sizeWith frame_id := by
  have hmem : frame_id ∈ (buffer.roomFor frame_id).1.insert frame_id entry :=
    (BTree.mem_insert _ _ _ _).mpr (.inl rfl)
  have hpos := size_pos_of_mem hmem
  rw [Std.ExtTreeMap.size_erase, if_pos (Std.ExtTreeMap.contains_iff_mem.mpr hmem),
    ← size_insert_room frame_id entry]
  omega

theorem packets_entry :
    ((buffer.roomFor packet.header.frame_id).1[packet.header.frame_id]?.getD
        ⟨received, []⟩).packets = buffer.packetsOf packet.header.frame_id := by
  rw [roomFor_get, packetsOf]
  cases buffer.pending[packet.header.frame_id]? <;> rfl

/-- What a push can do to the number of pending frames. -/
inductive Pushed (buffer : FrameReassemblyBuffer) (packet : MediaPacket) :
    FrameReassemblyBuffer × Except PushError ReassemblyOutcome → Prop
  | duplicate {after : FrameReassemblyBuffer} {fragment_index : UInt16} {frame_id : UInt32}
      (fails : buffer.Fails packet)
      (size : after.pending.size = buffer.sizeWith packet.header.frame_id) :
      Pushed buffer packet (after, .error (.duplicateFragment fragment_index frame_id))
  | rejected {after : FrameReassemblyBuffer} {error : FrameReassemblyError}
      (fails : buffer.Fails packet)
      (size : after.pending.size + 1 = buffer.sizeWith packet.header.frame_id) :
      Pushed buffer packet (after, .error (.reassembly error))
  | stored {after : FrameReassemblyBuffer} {dropped_frames : Nat} (works : ¬ buffer.Fails packet)
      (size : after.pending.size + dropped_frames = buffer.sizeWith packet.header.frame_id) :
      Pushed buffer packet (after, .ok
        ⟨none, (buffer.roomFor packet.header.frame_id).2 + dropped_frames, 0⟩)
  | completed {after : FrameReassemblyBuffer} {frame : EncodedFrame} {reassembly_ms : Nat}
      (works : ¬ buffer.Fails packet)
      (size : after.pending.size + 1 = buffer.sizeWith packet.header.frame_id) :
      Pushed buffer packet (after, .ok
        ⟨some frame, (buffer.roomFor packet.header.frame_id).2, reassembly_ms⟩)

theorem pushed (buffer : FrameReassemblyBuffer) (packet : MediaPacket) (received : UInt64) :
    Pushed buffer packet (buffer.pushWithStatsAt packet received) := by
  rw [pushWithStatsAt_eq]
  simp only [packets_entry]
  have hduplicate : ((buffer.packetsOf packet.header.frame_id).any fun earlier =>
        earlier.header.fragment_index = packet.header.fragment_index) = true ↔
      ∃ earlier ∈ buffer.packetsOf packet.header.frame_id,
        earlier.header.fragment_index = packet.header.fragment_index := by
    simp only [List.any_eq_true, decide_eq_true_eq]
  -- the branches of the source, in its order
  split
  · next hdup => exact .duplicate (.inl (hduplicate.mp hdup)) (size_insert_room _ _)
  · next hfresh =>
      rw [hduplicate] at hfresh
      split
      · next hmore =>
          rw [List.length_append, List.length_singleton] at hmore
          refine .stored (fun hfails => hfails.elim hfresh fun h => hmore h.1) ?_
          rw [← size_insert_room]
          exact dropOldestWhile_size _ 0
      · next hlast =>
          rw [List.length_append, List.length_singleton, ne_eq, not_not] at hlast
          split
          · next error herror =>
              exact .rejected (.inr ⟨hlast, by rw [herror]; rfl⟩) (size_erase_room _ _)
          · next frame hframe =>
              refine .completed (fun hfails => hfails.elim hfresh fun h => ?_) (size_erase_room _ _)
              rw [hframe] at h
              exact absurd h.2 nofun

/-- A push leaves the limits of the buffer alone. -/
theorem push_max_pending_frames (buffer : FrameReassemblyBuffer) (packet : MediaPacket)
    (received : UInt64) :
    (buffer.pushWithStatsAt packet received).1.max_pending_frames = buffer.max_pending_frames := by
  rw [pushWithStatsAt_eq]
  simp only
  split
  · rfl
  · split
    · rfl
    · split <;> rfl

theorem Constructed.pending_eq (h : buffer.Constructed) : buffer.pending = ∅ := by
  cases h <;> rfl

theorem Constructed.max_pos (h : buffer.Constructed) : 0 < buffer.max_pending_frames := by
  cases h with
  | new => exact Nat.succ_pos 63
  | withLimits max_pending_frames _ => exact Nat.le_max_right max_pending_frames 1
  | withJitterBudget max_pending_frames _ _ _ => exact Nat.le_max_right max_pending_frames 1

end FrameReassemblyBuffer

/-! ## The account of a run -/

namespace AccountedBuffer

open FrameReassemblyBuffer

/-- One push moves the frames between the accounts, but for those that it loses. -/
theorem push_account (s : AccountedBuffer) (event : MediaPacket × UInt64) :
    (s.push event).account.created + s.accounted =
      s.account.created + (s.push event).accounted + s.lostFrames event := by
  have hroom := roomFor_size s.buffer event.1.header.frame_id
  have hpushed := pushed s.buffer event.1 event.2
  unfold push lostFrames accounted
  simp only
  generalize s.buffer.pushWithStatsAt event.1 event.2 = outcome at hpushed
  cases hpushed with
  | duplicate _ hsize =>
      rw [sizeWith] at hsize
      simp only [FrameAccount.record]
      omega
  | rejected _ hsize =>
      rw [sizeWith] at hsize
      simp only [FrameAccount.record]
      omega
  | stored _ hsize =>
      rw [sizeWith] at hsize
      simp only [FrameAccount.record, Option.isSome_none, Bool.toNat_false]
      omega
  | completed _ hsize =>
      rw [sizeWith] at hsize
      simp only [FrameAccount.record, Option.isSome_some, Bool.toNat_true]
      omega

/-- The frames that no account shows are the ones that the pushes lost. -/
theorem run_account (s : AccountedBuffer) (events : List (MediaPacket × UInt64)) :
    (run push s events).account.created + s.accounted =
      s.account.created + (run push s events).accounted + sumSteps push lostFrames s events := by
  induction events generalizing s with
  | nil => rfl
  | cons event events ih =>
      have hfirst := push_account s event
      have hrest := ih (s.push event)
      rw [run_cons, sumSteps]
      omega

/-- A push loses no frame exactly when it does not both fail and evict. -/
theorem lostFrames_eq_zero_iff {s : AccountedBuffer} (hmax : 0 < s.buffer.max_pending_frames)
    (event : MediaPacket × UInt64) :
    s.lostFrames event = 0 ↔ ¬ (s.buffer.Fails event.1 ∧ s.buffer.Evicts event.1) := by
  have hroom := roomFor_dropped_eq_zero_iff hmax event.1
  have hpushed := pushed s.buffer event.1 event.2
  unfold lostFrames
  generalize s.buffer.pushWithStatsAt event.1 event.2 = outcome at hpushed
  cases hpushed with
  | duplicate hfails _ => exact hroom.trans (by rw [and_iff_right hfails])
  | rejected hfails _ => exact hroom.trans (by rw [and_iff_right hfails])
  | stored hworks _ => exact iff_of_true rfl fun h => hworks h.1
  | completed hworks _ => exact iff_of_true rfl fun h => hworks h.1

/-- Every frame is accounted for as long as no push both drops frames and fails. -/
theorem frame_accounts_balance_iff {buffer : FrameReassemblyBuffer} (hbuilt : buffer.Constructed)
    (events : List (MediaPacket × UInt64)) :
    (run push ⟨buffer, .empty⟩ events).Balanced ↔
      Meets push (fun s event => ¬ (s.buffer.Fails event.1 ∧ s.buffer.Evicts event.1))
        ⟨buffer, .empty⟩ events := by
  have hstart : AccountedBuffer.accounted ⟨buffer, .empty⟩ = 0 := by
    unfold accounted
    rw [hbuilt.pending_eq]
    rfl
  have htotal := run_account ⟨buffer, .empty⟩ events
  have hlost : (run push ⟨buffer, .empty⟩ events).Balanced ↔
      sumSteps push lostFrames ⟨buffer, .empty⟩ events = 0 := by
    have hempty : (AccountedBuffer.mk buffer .empty).account.created = 0 := rfl
    unfold Balanced
    omega
  rw [hlost, sumSteps_eq_zero_iff]
  have hkeeps : ∀ (s : AccountedBuffer) (event : MediaPacket × UInt64),
      0 < s.buffer.max_pending_frames → 0 < (s.push event).buffer.max_pending_frames := by
    intro s event hmax
    show 0 < (s.buffer.pushWithStatsAt event.1 event.2).1.max_pending_frames
    rw [push_max_pending_frames]
    exact hmax
  exact Meets.congr_of_inv hkeeps (fun s event hmax => lostFrames_eq_zero_iff hmax event)
    hbuilt.max_pos events

/-- The first of two fragments of a frame. -/
def firstHalf (frame_id : UInt32) : MediaPacket where
  header :=
    { version := 1, packet_type := .video, flags := 0, room_stream_id := 1, sequence_number := 0
      frame_id, fragment_index := 0, fragment_count := 2, media_timestamp := 0
      sender_capture_time_micros := 0, sender_clock_offset_micros := 0
      sender_encode_done_time_micros := 0, sender_send_time_micros := 0
      server_receive_time_micros := 0, server_send_time_micros := 0
      codec := .h264, layer := 0, payload_length := 1 }
  payload := [0]

theorem frame_accounts_balance_reordered :
    (run push ⟨.new, .empty⟩ [(firstHalf 100, 0), (firstHalf 1, 0), (firstHalf 101, 0)]).Balanced ↔
      Meets push (fun s event => ¬ (s.buffer.Fails event.1 ∧ s.buffer.Evicts event.1))
        ⟨.new, .empty⟩ [(firstHalf 100, 0), (firstHalf 1, 0), (firstHalf 101, 0)] :=
  frame_accounts_balance_iff .new _

/-- Frame 1 comes late and is dropped by a packet of frame 100 that fails as a duplicate: nobody
hears of it. -/
theorem reordered_frame_unreported :
    ¬ ∀ (buffer : FrameReassemblyBuffer), buffer.Constructed →
      ∀ events : List (MediaPacket × UInt64), (run push ⟨buffer, .empty⟩ events).Balanced := by
  intro hclaim
  have hbalanced := hclaim .new .new [(firstHalf 100, 0), (firstHalf 1, 0), (firstHalf 100, 0)]
  revert hbalanced
  decide +kernel

end AccountedBuffer

end TeamView.Client
