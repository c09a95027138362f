import TeamView.Client.Reassembly
import TeamView.Protocol.FrameRoundTrip

set_option autoImplicit false

/-! # Delivering the frames of a stream

Frames of one stream are packetized, and their packets reach a fresh `FrameReassemblyBuffer` in any
order, at most once each, with the stamps of the way. When the buffer has room for the frames, what
it holds is a function of the packets delivered so far (`Tracks`): of every frame the packets that
have arrived, unless none or all of them have.
-/

namespace TeamView.Client

open TeamView.Protocol BTree MachineInt Runs

/-- A frame with its packets. -/
structure SentFrame where
  frame : EncodedFrame
  packet_type : PacketType
  first_sequence_number : UInt32
  max_payload : Nat
  packets : List MediaPacket
  packetized :
    packetizeFrameWithType frame packet_type first_sequence_number max_payload = .ok packets

/-- One packet of a frame arrives. -/
structure Delivery where
  sent : SentFrame
  fragment : Fin sent.packets.length
  stamps : Stamps
  received_at_micros : UInt64

/-- The distance of two frame ids, in the direction in which they are closer. -/
def wrappingDistance (a b : UInt32) : UInt32 := min (a - b) (b - a)

/-- Frames of one stream for which a buffer with this jitter budget has room. -/
structure Burst (frames : List SentFrame) (max_pending_frames : Nat)
    (max_frame_age_frames : UInt32) (max_pending_media_ms frame_interval_ms : UInt16) : Prop where
  one_stream : ∀ a ∈ frames, ∀ b ∈ frames,
    a.frame.room_stream_id = b.frame.room_stream_id ∧ a.packet_type = b.packet_type
  media : ∀ a ∈ frames, a.packet_type = .video ∨ a.packet_type = .audio
  distinct : (frames.map fun sent => sent.frame.frame_id).Nodup
  close : ∀ a ∈ frames, ∀ b ∈ frames,
    wrappingDistance a.frame.frame_id b.frame.frame_id ≤ max_frame_age_frames
  age : max_frame_age_frames.toNat < 2 ^ 31 - 1
  interval : 1 ≤ frame_interval_ms.toNat
  count : frames.length ≤ max_pending_frames
  media_ms : frames.length * frame_interval_ms.toNat ≤ max_pending_media_ms.toNat

namespace SentFrame

def id (sent : SentFrame) : UInt32 := sent.frame.frame_id

theorem packetized' (sent : SentFrame) : Packetized sent.frame sent.packet_type
    sent.first_sequence_number sent.max_payload sent.packets :=
  packetized_of_ok sent.packetized

/-- All the fragments of the frame have been delivered. -/
def Complete (delivered : List Delivery) (sent : SentFrame) : Prop :=
  ∀ i < sent.packets.length, ∃ d ∈ delivered, d.sent = sent ∧ d.fragment.val = i

/-- Some fragment of the frame has been delivered. -/
def Started (delivered : List Delivery) (sent : SentFrame) : Prop :=
  ∃ d ∈ delivered, d.sent = sent

end SentFrame

namespace Delivery

def packet (d : Delivery) : MediaPacket := (d.sent.packets.get d.fragment).restamp d.stamps

theorem get_packets (d : Delivery) : d.sent.packets.get d.fragment
    = d.sent.frame.fragment d.sent.packet_type d.sent.first_sequence_number d.sent.max_payload
        (d.sent.frame.fragmentCount d.sent.max_payload) d.fragment.val := by
  have hpackets := d.sent.packetized'.packets_eq
  rw [List.get_eq_getElem]
  have hget := List.getElem_of_eq hpackets d.fragment.isLt
  rw [hget, List.getElem_map, List.getElem_range]

theorem packet_frame_id (d : Delivery) : d.packet.header.frame_id = d.sent.id := by
  rw [packet, get_packets]
  rfl

theorem length_packets (d : Delivery) :
    d.sent.packets.length = d.sent.frame.fragmentCount d.sent.max_payload := by
  rw [d.sent.packetized'.packets_eq, List.length_map, List.length_range]

theorem packet_fragment_index (d : Delivery) :
    d.packet.header.fragment_index.toNat = d.fragment.val := by
  have hlt := d.fragment.isLt
  have hcount := d.sent.packetized'.count_le
  have hlength := d.length_packets
  have hwidth : u16Max < 2 ^ 16 := by decide
  rw [packet, get_packets]
  simp only [MediaPacket.restamp, EncodedFrame.fragment, UInt16.toNat_ofNat']
  exact Nat.mod_eq_of_lt (by omega)

theorem packet_fragment_count (d : Delivery) :
    d.packet.header.fragment_count.toNat = d.sent.packets.length := by
  have hcount := d.sent.packetized'.count_le
  have hwidth : u16Max < 2 ^ 16 := by decide
  rw [d.length_packets, packet, get_packets]
  simp only [MediaPacket.restamp, EncodedFrame.fragment, UInt16.toNat_ofNat']
  exact Nat.mod_eq_of_lt (by omega)

end Delivery

/-- The packets of a frame among the delivered ones, in the order of their arrival. -/
def arrivals (delivered : List Delivery) (frame_id : UInt32) : List MediaPacket :=
  (delivered.filter fun d => d.sent.id = frame_id).map Delivery.packet

/-- Packets of the frames, each at most once. -/
structure Deliverable (frames : List SentFrame) (delivered : List Delivery) : Prop where
  sent : ∀ d ∈ delivered, d.sent ∈ frames
  once : (delivered.map fun d => (d.sent.id, d.fragment.val)).Nodup

/-- What was delivered earlier is deliverable too. -/
theorem Deliverable.before {frames : List SentFrame} {before after : List Delivery}
    (h : Deliverable frames (before ++ after)) : Deliverable frames before := by
  have honce := h.once
  rw [List.map_append] at honce
  exact ⟨fun e he => h.sent e (List.mem_append_left _ he), (List.nodup_append.mp honce).1⟩

section Arrivals

variable {frames : List SentFrame} {delivered : List Delivery} {d : Delivery} {sent : SentFrame}

/-- A frame of the burst is known by its id. -/
theorem eq_of_id (hdistinct : (frames.map SentFrame.id).Nodup) {a b : SentFrame} (ha : a ∈ frames)
    (hb : b ∈ frames) (hid : a.id = b.id) : a = b :=
  List.inj_on_of_nodup_map hdistinct ha hb hid

theorem arrivals_append (before after : List Delivery) (frame_id : UInt32) :
    arrivals (before ++ after) frame_id = arrivals before frame_id ++ arrivals after frame_id := by
  simp [arrivals]

theorem arrivals_append_self (delivered : List Delivery) (d : Delivery) :
    arrivals (delivered ++ [d]) d.sent.id = arrivals delivered d.sent.id ++ [d.packet] := by
  simp [arrivals]

theorem arrivals_append_of_ne (delivered : List Delivery) {d : Delivery} {frame_id : UInt32}
    (hne : frame_id ≠ d.sent.id) :
    arrivals (delivered ++ [d]) frame_id = arrivals delivered frame_id := by
  simp [arrivals, Ne.symm hne]

/-- The indices of the fragments of a frame that have arrived. -/
theorem arrivals_index (delivered : List Delivery) (frame_id : UInt32) :
    (arrivals delivered frame_id).map (fun packet => packet.header.fragment_index.toNat)
      = (delivered.filter fun d => d.sent.id = frame_id).map fun d => d.fragment.val := by
  rw [arrivals, List.map_map]
  exact List.map_congr_left fun d _ => d.packet_fragment_index

/-- Delivered at most once, the fragments of a frame have different indices. -/
theorem nodup_arrivals_index (hdelivered : Deliverable frames delivered) (frame_id : UInt32) :
    ((arrivals delivered frame_id).map fun packet =>
      packet.header.fragment_index.toNat).Nodup := by
  rw [arrivals_index]
  have hfilter := hdelivered.once.of_map.filter fun d => d.sent.id = frame_id
  refine List.Nodup.map_on ?_ hfilter
  intro a ha b hb hindex
  rw [List.mem_filter, decide_eq_true_eq] at ha hb
  refine List.inj_on_of_nodup_map hdelivered.once ha.1 hb.1 ?_
  rw [ha.2, hb.2, hindex]

theorem arrivals_index_lt (hdistinct : (frames.map SentFrame.id).Nodup)
    (hdelivered : Deliverable frames delivered) (hsent : sent ∈ frames) :
    ∀ i ∈ (arrivals delivered sent.id).map (fun packet => packet.header.fragment_index.toNat),
      i < sent.packets.length := by
  rw [arrivals_index]
  intro i hi
  obtain ⟨d, hd, rfl⟩ := List.mem_map.mp hi
  rw [List.mem_filter, decide_eq_true_eq] at hd
  obtain rfl := eq_of_id hdistinct (hdelivered.sent d hd.1) hsent hd.2
  exact d.fragment.isLt

/-- As many packets as the frame has have arrived exactly when the frame is complete. -/
theorem length_arrivals_eq_iff (hdistinct : (frames.map SentFrame.id).Nodup)
    (hdelivered : Deliverable frames delivered) (hsent : sent ∈ frames) :
    (arrivals delivered sent.id).length = sent.packets.length ↔ sent.Complete delivered := by
  have hcount := Sorted.length_eq_iff_forall_mem
    (nodup_arrivals_index hdelivered sent.id) (arrivals_index_lt hdistinct hdelivered hsent)
  rw [List.length_map] at hcount
  rw [hcount, arrivals_index]
  refine forall₂_congr fun i _ => ?_
  rw [List.mem_map]
  constructor
  · rintro ⟨d, hd, hi⟩
    rw [List.mem_filter, decide_eq_true_eq] at hd
    exact ⟨d, hd.1, eq_of_id hdistinct (hdelivered.sent d hd.1) hsent hd.2, hi⟩
  · rintro ⟨d, hd, rfl, hi⟩
    exact ⟨d, List.mem_filter.mpr ⟨hd, decide_eq_true rfl⟩, hi⟩

theorem arrivals_eq_nil_iff (hdistinct : (frames.map SentFrame.id).Nodup)
    (hdelivered : Deliverable frames delivered) (hsent : sent ∈ frames) :
    arrivals delivered sent.id = [] ↔ ¬ sent.Started delivered := by
  rw [arrivals, List.map_eq_nil_iff, List.filter_eq_nil_iff]
  constructor
  · rintro hnone ⟨d, hd, rfl⟩
    exact hnone d hd (decide_eq_true rfl)
  · intro hnot d hd hid
    exact hnot ⟨d, hd, eq_of_id hdistinct (hdelivered.sent d hd) hsent (decide_eq_true_eq.mp hid)⟩

/-- The arrivals of a complete frame reassemble to it. -/
theorem reassembleFrame_arrivals (hdistinct : (frames.map SentFrame.id).Nodup)
    (hmedia : ∀ a ∈ frames, a.packet_type = .video ∨ a.packet_type = .audio)
    (hdelivered : Deliverable frames delivered) (hsent : sent ∈ frames)
    (hall : (arrivals delivered sent.id).length = sent.packets.length) :
    reassembleFrame (arrivals delivered sent.id)
      = .ok (sent.frame.arrived (arrivals delivered sent.id)) := by
  have hprobe : sent.packet_type ≠ .probe := by
    intro hprobe
    rcases hmedia sent hsent with h | h <;> rw [h] at hprobe <;> cases hprobe
  have hnodup : ((arrivals delivered sent.id).map fun packet =>
      packet.header.fragment_index).Nodup := by
    have hmap : ((arrivals delivered sent.id).map fun packet =>
        packet.header.fragment_index).map UInt16.toNat
          = (arrivals delivered sent.id).map fun packet => packet.header.fragment_index.toNat :=
      List.map_map
    exact (hmap ▸ nodup_arrivals_index hdelivered sent.id).of_map
  refine reassembleFrame_of_fragments sent.packetized' hprobe ⟨?_, hnodup, hall⟩
  intro packet hpacket
  obtain ⟨d, hd, rfl⟩ := List.mem_map.mp hpacket
  rw [List.mem_filter, decide_eq_true_eq] at hd
  obtain rfl := eq_of_id hdistinct (hdelivered.sent d hd.1) hsent hd.2
  exact ⟨d.sent.packets.get d.fragment, List.get_mem _ _, d.stamps, rfl⟩

end Arrivals

/-! ## What the buffer holds -/

/-- Of every frame the buffer has the packets that have arrived, unless these are none or all, and
it has nothing else. -/
structure Tracks (frames : List SentFrame) (start buffer : FrameReassemblyBuffer)
    (delivered : List Delivery) : Prop where
  settings : buffer = { start with pending := buffer.pending }
  inside : ∀ frame_id ∈ buffer.pending, frame_id ∈ frames.map SentFrame.id
  slot : ∀ sent ∈ frames, buffer.pending[sent.id]?.map PendingFrame.packets =
    if arrivals delivered sent.id = [] ∨
        (arrivals delivered sent.id).length = sent.packets.length then none
    else some (arrivals delivered sent.id)

/-- The ids of two frames of a burst are within the age window of each other. -/
theorem not_older {a b age : UInt32} (hclose : wrappingDistance a b ≤ age)
    (hage : age.toNat < 2 ^ 31 - 1) : frameIsOlderThanWindow a b (max age 1) = false := by
  have ha := a.toNat_lt
  have hb := b.toNat_lt
  have hwindow : age ≤ max age 1 := by
    show age ≤ if age ≤ 1 then 1 else age
    split
    · next h => exact h
    · exact UInt32.le_refl age
  have hforth : (b - a).toNat = (2 ^ 32 - a.toNat + b.toNat) % 2 ^ 32 := UInt32.toNat_sub b a
  have hback : (a - b).toNat = (2 ^ 32 - b.toNat + a.toNat) % 2 ^ 32 := UInt32.toNat_sub a b
  have hcases : (a - b).toNat ≤ age.toNat ∨ (b - a).toNat ≤ age.toNat := by
    have hmin : wrappingDistance a b = if a - b ≤ b - a then a - b else b - a := rfl
    rw [hmin] at hclose
    split at hclose
    · exact .inl (UInt32.le_iff_toNat_le.mp hclose)
    · exact .inr (UInt32.le_iff_toNat_le.mp hclose)
  have hhalf : (UInt32.ofNat (u32Max / 2)).toNat = 2 ^ 31 - 1 := by decide
  rw [UInt32.le_iff_toNat_le] at hwindow
  unfold frameIsOlderThanWindow
  rw [Bool.and_eq_false_iff, decide_eq_false_iff_not, decide_eq_false_iff_not,
    UInt32.lt_iff_toNat_lt, UInt32.lt_iff_toNat_lt, hhalf]
  -- either the distance is within the window, or it is that of a frame from the future
  rcases hcases with h | h
  · rw [hback] at h
    rw [hforth]
    omega
  · left
    omega

namespace Tracks

variable {frames : List SentFrame} {start buffer : FrameReassemblyBuffer}
  {delivered : List Delivery} {d : Delivery}

/-- With room for all frames, there is room for the frame of the next packet. -/
theorem size_lt (htracks : Tracks frames start buffer delivered) {sent : SentFrame}
    (hsent : sent ∈ frames) :
    sent.id ∈ buffer.pending ∨ buffer.pending.size < frames.length := by
  by_cases hin : sent.id ∈ buffer.pending
  · exact .inl hin
  · right
    have hnodup : (sent.id :: buffer.pending.keys).Nodup := by
      rw [List.nodup_cons]
      exact ⟨fun hkey => hin (Std.ExtTreeMap.mem_keys.mp hkey), Std.ExtTreeMap.nodup_keys⟩
    have hsub : sent.id :: buffer.pending.keys ⊆ frames.map SentFrame.id := by
      intro frame_id hmem
      rcases List.mem_cons.mp hmem with rfl | hkey
      · exact List.mem_map_of_mem hsent
      · exact htracks.inside frame_id (Std.ExtTreeMap.mem_keys.mp hkey)
    have hle := (hnodup.subperm hsub).length_le
    rw [List.length_cons, Std.ExtTreeMap.length_keys, List.length_map] at hle
    omega

theorem size_le (htracks : Tracks frames start buffer delivered) :
    buffer.pending.size ≤ frames.length := by
  have hsub : buffer.pending.keys ⊆ frames.map SentFrame.id :=
    fun frame_id hkey => htracks.inside frame_id (Std.ExtTreeMap.mem_keys.mp hkey)
  have hnodup : buffer.pending.keys.Nodup := Std.ExtTreeMap.nodup_keys
  have hle := (hnodup.subperm hsub).length_le
  rwa [Std.ExtTreeMap.length_keys, List.length_map] at hle

section Step

variable {max_pending_frames : Nat} {max_frame_age_frames : UInt32}
  {max_pending_media_ms frame_interval_ms : UInt16}

/-- With the next packet the frame is not complete before it, and no arrival is its fragment. -/
theorem arrivals_before (hdistinct : (frames.map SentFrame.id).Nodup)
    (hdelivered : Deliverable frames (delivered ++ [d])) :
    (arrivals delivered d.sent.id).length < d.sent.packets.length ∧
      ∀ earlier ∈ arrivals delivered d.sent.id,
        earlier.header.fragment_index ≠ d.packet.header.fragment_index := by
  have hsent : d.sent ∈ frames := hdelivered.sent d (List.mem_append_right _ List.mem_cons_self)
  have hnodup := nodup_arrivals_index hdelivered d.sent.id
  constructor
  · have hle := Sorted.length_le_of_bound hnodup
      (arrivals_index_lt hdistinct hdelivered hsent)
    rw [arrivals_append_self, List.length_map, List.length_append, List.length_singleton] at hle
    exact hle
  · intro earlier hearlier hsame
    rw [arrivals_append_self, List.map_append, List.nodup_append] at hnodup
    refine hnodup.2.2 _ (List.mem_map_of_mem hearlier) _
      (List.mem_map_of_mem List.mem_cons_self) ?_
    rw [hsame]

/-- Nothing has to be dropped for the next packet, and its fragment is new. -/
theorem admits
    (hburst : Burst frames max_pending_frames max_frame_age_frames max_pending_media_ms
      frame_interval_ms)
    (htracks : Tracks frames (.withJitterBudget max_pending_frames max_frame_age_frames
      max_pending_media_ms frame_interval_ms) buffer delivered)
    (hdelivered : Deliverable frames (delivered ++ [d])) :
    ∃ first, buffer.Admits d.packet d.received_at_micros first (arrivals delivered d.sent.id) := by
  have hsent : d.sent ∈ frames := hdelivered.sent d (List.mem_append_right _ List.mem_cons_self)
  have hdistinct : (frames.map SentFrame.id).Nodup := hburst.distinct
  have hid := d.packet_frame_id
  obtain ⟨hless, hunseen⟩ := arrivals_before hdistinct hdelivered
  have hfresh : buffer.staleFrames d.packet.header.frame_id = [] := by
    rw [FrameReassemblyBuffer.staleFrames, List.filter_eq_nil_iff]
    intro frame_id hkey
    obtain ⟨sent, hin, rfl⟩ :=
      List.mem_map.mp (htracks.inside frame_id (Std.ExtTreeMap.mem_keys.mp hkey))
    rw [htracks.settings, hid]
    exact Bool.eq_false_iff.mp (not_older (hburst.close sent hin d.sent hsent) hburst.age)
  have hroom : d.packet.header.frame_id ∈ buffer.pending ∨
      buffer.pending.size < buffer.max_pending_frames := by
    have hcount := hburst.count
    rw [hid, htracks.settings]
    rcases htracks.size_lt hsent with hin | hlt
    · exact .inl hin
    · refine .inr (Nat.lt_of_lt_of_le hlt ?_)
      exact Nat.le_trans hcount (Nat.le_max_left _ _)
  have hslot := htracks.slot d.sent hsent
  by_cases hnone : arrivals delivered d.sent.id = []
  · rw [if_pos (.inl hnone), Option.map_eq_none_iff] at hslot
    rw [hnone] at hunseen ⊢
    refine ⟨d.received_at_micros, hfresh, hroom, ?_, hunseen⟩
    rw [hid, hslot]
    rfl
  · rw [if_neg (not_or.mpr ⟨hnone, Nat.ne_of_lt hless⟩), Option.map_eq_some_iff] at hslot
    obtain ⟨⟨first, packets⟩, hget, rfl⟩ := hslot
    refine ⟨first, hfresh, hroom, ?_, hunseen⟩
    rw [hid, hget]
    rfl

/-- The frames that the buffer may hold at once are within its media budget. -/
theorem pendingMediaMs_le
    (hburst : Burst frames max_pending_frames max_frame_age_frames max_pending_media_ms
      frame_interval_ms)
    (htracks : Tracks frames (.withJitterBudget max_pending_frames max_frame_age_frames
      max_pending_media_ms frame_interval_ms) buffer delivered)
    {pending : BTreeMap UInt32 PendingFrame} (hsize : pending.size ≤ frames.length) :
    buffer.pendingMediaMs pending ≤ buffer.max_pending_media_ms.toNat := by
  have hinterval : (max frame_interval_ms 1).toNat = frame_interval_ms.toNat := by
    have hone : (1 : UInt16) ≤ frame_interval_ms := UInt16.le_iff_toNat_le.mpr hburst.interval
    show (if frame_interval_ms ≤ 1 then 1 else frame_interval_ms).toNat = _
    split
    · next hle => rw [UInt16.le_antisymm hle hone]
    · rfl
  have hbudget : max_pending_media_ms.toNat
      ≤ (max max_pending_media_ms (max frame_interval_ms 1)).toNat := by
    show _ ≤ (if max_pending_media_ms ≤ _ then _ else max_pending_media_ms).toNat
    split
    · next hle => exact UInt16.le_iff_toNat_le.mp hle
    · exact Nat.le_refl _
  rw [htracks.settings]
  calc min (satMul u64Max pending.size (max frame_interval_ms 1).toNat) u16Max
      ≤ pending.size * (max frame_interval_ms 1).toNat :=
        Nat.le_trans (Nat.min_le_left _ _) (Nat.min_le_left _ _)
    _ ≤ frames.length * frame_interval_ms.toNat := by
        rw [hinterval]
        exact Nat.mul_le_mul_right _ hsize
    _ ≤ max_pending_media_ms.toNat := hburst.media_ms
    _ ≤ (max max_pending_media_ms (max frame_interval_ms 1)).toNat := hbudget

/-- A change of the slot of the delivered packet's frame alone. -/
theorem update (htracks : Tracks frames start buffer delivered)
    (hdistinct : (frames.map SentFrame.id).Nodup) (hsent : d.sent ∈ frames)
    {pending : BTreeMap UInt32 PendingFrame}
    (hother : ∀ frame_id, frame_id ≠ d.sent.id → pending[frame_id]? = buffer.pending[frame_id]?)
    (hself : pending[d.sent.id]?.map PendingFrame.packets =
      if (arrivals (delivered ++ [d]) d.sent.id).length = d.sent.packets.length then none
      else some (arrivals (delivered ++ [d]) d.sent.id)) :
    Tracks frames start { buffer with pending := pending } (delivered ++ [d]) where
  settings := by
    rw [htracks.settings]
  inside frame_id hin := by
    by_cases hid : frame_id = d.sent.id
    · rw [hid]
      exact List.mem_map_of_mem hsent
    · rw [mem_iff_get, hother frame_id hid, ← mem_iff_get] at hin
      exact htracks.inside frame_id hin
  slot sent hin := by
    by_cases hid : sent.id = d.sent.id
    · obtain rfl := eq_of_id hdistinct hin hsent hid
      have hnonempty : arrivals (delivered ++ [d]) d.sent.id ≠ [] := by
        rw [arrivals_append_self]
        exact List.append_ne_nil_of_right_ne_nil _ (List.cons_ne_nil _ _)
      simp only [hself, hnonempty, false_or]
    · rw [arrivals_append_of_ne delivered hid]
      show pending[sent.id]?.map PendingFrame.packets = _
      rw [hother sent.id hid]
      exact htracks.slot sent hin

/-- The frame that comes out of the push with which `delivered` ends. -/
def expectedFrame (delivered : List Delivery) (sent : SentFrame) : Option EncodedFrame :=
  if (arrivals delivered sent.id).length = sent.packets.length then
    some (sent.frame.arrived (arrivals delivered sent.id))
  else none

/-- The frame that comes out is the one whose packet came in. -/
theorem filter_expectedFrame (delivered : List Delivery) (sent : SentFrame) (frame_id : UInt32) :
    (expectedFrame delivered sent).toList.filter (fun frame => frame.frame_id = frame_id)
      = if frame_id = sent.id then (expectedFrame delivered sent).toList else [] := by
  unfold expectedFrame
  split
  · have hid : (sent.frame.arrived (arrivals delivered sent.id)).frame_id = sent.id := rfl
    by_cases heq : frame_id = sent.id
    · simp [hid, heq]
    · simp [hid, heq, Ne.symm heq]
  · split <;> rfl

/-- One push. -/
theorem push
    (hburst : Burst frames max_pending_frames max_frame_age_frames max_pending_media_ms
      frame_interval_ms)
    (htracks : Tracks frames (.withJitterBudget max_pending_frames max_frame_age_frames
      max_pending_media_ms frame_interval_ms) buffer delivered)
    (hdelivered : Deliverable frames (delivered ++ [d])) :
    (∃ reassembly_ms, (buffer.pushWithStatsAt d.packet d.received_at_micros).2
      = .ok ⟨expectedFrame (delivered ++ [d]) d.sent, 0, reassembly_ms⟩) ∧
    Tracks frames (.withJitterBudget max_pending_frames max_frame_age_frames
      max_pending_media_ms frame_interval_ms)
      (buffer.pushWithStatsAt d.packet d.received_at_micros).1 (delivered ++ [d]) := by
  have hsent : d.sent ∈ frames := hdelivered.sent d (List.mem_append_right _ List.mem_cons_self)
  have hdistinct : (frames.map SentFrame.id).Nodup := hburst.distinct
  obtain ⟨first, hadmits⟩ := admits hburst htracks hdelivered
  have hafter := arrivals_append_self delivered d
  have hlength : (arrivals (delivered ++ [d]) d.sent.id).length
      = (arrivals delivered d.sent.id).length + 1 := by
    rw [hafter, List.length_append, List.length_singleton]
  have hcount := d.packet_fragment_count
  have hid := d.packet_frame_id
  by_cases hlast : (arrivals (delivered ++ [d]) d.sent.id).length = d.sent.packets.length
  · -- the last fragment: the frame is joined and leaves the buffer
    have hframe := reassembleFrame_arrivals hdistinct hburst.media hdelivered hsent hlast
    rw [hafter] at hframe
    have hpush := FrameReassemblyBuffer.push_completed hadmits (by omega) hframe
    rw [hpush]
    constructor
    · refine ⟨microsDeltaToMillis first d.received_at_micros, ?_⟩
      rw [expectedFrame, if_pos hlast, hafter]
    · refine htracks.update hdistinct hsent ?_ ?_
      · intro frame_id hne
        rw [hid, get_erase, if_neg hne, get_insert, if_neg hne]
      · rw [hid, get_erase, if_pos rfl, if_pos hlast]
        rfl
  · -- a fragment more: the buffer has a slot for every frame of the burst
    have hsize : (buffer.pending.insert d.packet.header.frame_id
        ⟨first, arrivals delivered d.sent.id ++ [d.packet]⟩).size ≤ frames.length := by
      have hle := htracks.size_le
      rw [Std.ExtTreeMap.size_insert, hid]
      rcases htracks.size_lt hsent with hin | hlt
      · rw [if_pos (Std.ExtTreeMap.contains_iff_mem.mpr hin)]
        exact hle
      · split
        · exact hle
        · exact hlt
    have hpush := FrameReassemblyBuffer.push_stored hadmits (by omega)
      (pendingMediaMs_le hburst htracks hsize)
    rw [hpush]
    constructor
    · refine ⟨0, ?_⟩
      rw [expectedFrame, if_neg hlast]
    · refine htracks.update hdistinct hsent ?_ ?_
      · intro frame_id hne
        rw [hid, get_insert, if_neg hne]
      · rw [hid, get_insert, if_pos rfl, if_neg hlast, hafter]
        rfl

end Step

end Tracks

/-! ## Whole runs -/

namespace FrameReassemblyBuffer

def deliver (buffer : FrameReassemblyBuffer) (d : Delivery) : FrameReassemblyBuffer :=
  (buffer.pushWithStatsAt d.packet d.received_at_micros).1

/-- The frames that the pushes hand out, in order. -/
def outputs (buffer : FrameReassemblyBuffer) : List Delivery → List EncodedFrame
  | [] => []
  | d :: deliveries =>
      (match (buffer.pushWithStatsAt d.packet d.received_at_micros).2 with
        | .ok outcome => outcome.frame.toList
        | .error _ => []) ++ (buffer.deliver d).outputs deliveries

theorem outputs_append (buffer : FrameReassemblyBuffer) (before after : List Delivery) :
    buffer.outputs (before ++ after)
      = buffer.outputs before ++ (run deliver buffer before).outputs after := by
  induction before generalizing buffer with
  | nil => rfl
  | cons d before ih =>
      rw [List.cons_append, outputs, outputs, ih, run_cons, List.append_assoc]

end FrameReassemblyBuffer

section Runs

variable {frames : List SentFrame} {max_pending_frames : Nat} {max_frame_age_frames : UInt32}
  {max_pending_media_ms frame_interval_ms : UInt16}

open FrameReassemblyBuffer

/-- A fresh buffer has nothing, and nothing has arrived. -/
theorem tracks_start (frames : List SentFrame) (max_pending_frames : Nat)
    (max_frame_age_frames : UInt32) (max_pending_media_ms frame_interval_ms : UInt16) :
    Tracks frames (.withJitterBudget max_pending_frames max_frame_age_frames
      max_pending_media_ms frame_interval_ms) (.withJitterBudget max_pending_frames
        max_frame_age_frames max_pending_media_ms frame_interval_ms) [] where
  settings := rfl
  inside frame_id hin := absurd hin Std.ExtTreeMap.not_mem_empty
  slot sent _ := by
    have hnone : (∅ : BTreeMap UInt32 PendingFrame)[sent.id]? = none :=
      Std.ExtTreeMap.getElem?_empty
    rw [if_pos (.inl rfl)]
    show (∅ : BTreeMap UInt32 PendingFrame)[sent.id]?.map PendingFrame.packets = none
    rw [hnone]
    rfl

theorem run_tracks
    (hburst : Burst frames max_pending_frames max_frame_age_frames max_pending_media_ms
      frame_interval_ms) {delivered : List Delivery} (hdelivered : Deliverable frames delivered) :
    Tracks frames (.withJitterBudget max_pending_frames max_frame_age_frames
      max_pending_media_ms frame_interval_ms) (run deliver (.withJitterBudget max_pending_frames
        max_frame_age_frames max_pending_media_ms frame_interval_ms) delivered) delivered := by
  induction delivered using List.reverseRecOn with
  | nil => exact tracks_start frames _ _ _ _
  | append_singleton delivered d ih =>
      rw [run_snoc]
      exact ((ih hdelivered.before).push hburst hdelivered).2

/-- What the run hands out of a frame: nothing until its last fragment, then the frame. -/
theorem filter_outputs
    (hburst : Burst frames max_pending_frames max_frame_age_frames max_pending_media_ms
      frame_interval_ms) {delivered : List Delivery} (hdelivered : Deliverable frames delivered)
    {sent : SentFrame} (hsent : sent ∈ frames) :
    ((withJitterBudget max_pending_frames max_frame_age_frames max_pending_media_ms
        frame_interval_ms).outputs delivered).filter (fun frame => frame.frame_id = sent.id)
      = (Tracks.expectedFrame delivered sent).toList := by
  induction delivered using List.reverseRecOn with
  | nil =>
      have hpos : (0 : Nat) ≠ sent.packets.length := by
        rw [sent.packetized'.packets_eq, List.length_map, List.length_range]
        exact Nat.ne_of_lt sent.packetized'.count_pos
      rw [Tracks.expectedFrame, if_neg (show ¬ (arrivals [] sent.id).length = _ from hpos)]
      rfl
  | append_singleton delivered d ih =>
      have hdistinct : (frames.map SentFrame.id).Nodup := hburst.distinct
      have htracks := run_tracks hburst hdelivered.before
      obtain ⟨⟨reassembly_ms, hpush⟩, -⟩ := htracks.push hburst hdelivered
      have houtput : (run deliver (withJitterBudget max_pending_frames max_frame_age_frames
          max_pending_media_ms frame_interval_ms) delivered).outputs [d]
            = (Tracks.expectedFrame (delivered ++ [d]) d.sent).toList := by
        rw [outputs, hpush]
        exact List.append_nil _
      have hd : d.sent ∈ frames := hdelivered.sent d (List.mem_append_right _ List.mem_cons_self)
      rw [outputs_append, List.filter_append, ih hdelivered.before, houtput,
        Tracks.filter_expectedFrame]
      by_cases hid : sent.id = d.sent.id
      · obtain rfl := eq_of_id hdistinct hsent hd hid
        have hless := (Tracks.arrivals_before hdistinct hdelivered).1
        have hnone : Tracks.expectedFrame delivered d.sent = none := by
          rw [Tracks.expectedFrame, if_neg (Nat.ne_of_lt hless)]
        rw [hnone, if_pos rfl]
        rfl
      · have hsame : Tracks.expectedFrame (delivered ++ [d]) sent
            = Tracks.expectedFrame delivered sent := by
          rw [Tracks.expectedFrame, Tracks.expectedFrame, arrivals_append_of_ne delivered hid]
        rw [hsame, if_neg hid, List.append_nil]

/-- Delivered in any order, at most once each, the packets of a burst make the buffer hand out
every frame exactly when its last fragment comes, and it keeps the frames that are under way. -/
theorem frames_delivered
    (hburst : Burst frames max_pending_frames max_frame_age_frames max_pending_media_ms
      frame_interval_ms) {deliveries : List Delivery}
    (hdeliverable : Deliverable frames deliveries) :
    (∀ before d after, deliveries = before ++ d :: after →
      ∃ frame reassembly_ms, ((run deliver (.withJitterBudget max_pending_frames
          max_frame_age_frames max_pending_media_ms frame_interval_ms) before).pushWithStatsAt
            d.packet d.received_at_micros).2 = .ok ⟨frame, 0, reassembly_ms⟩ ∧
        (d.sent.Complete (before ++ [d]) →
          frame = some (d.sent.frame.arrived (arrivals deliveries d.sent.id))) ∧
        (¬ d.sent.Complete (before ++ [d]) → frame = none)) ∧
    (∀ sent ∈ frames,
      (sent.Complete deliveries →
        ((withJitterBudget max_pending_frames max_frame_age_frames max_pending_media_ms
          frame_interval_ms).outputs deliveries).filter (fun frame => frame.frame_id = sent.id)
            = [sent.frame.arrived (arrivals deliveries sent.id)]) ∧
      (¬ sent.Complete deliveries →
        ((withJitterBudget max_pending_frames max_frame_age_frames max_pending_media_ms
          frame_interval_ms).outputs deliveries).filter (fun frame => frame.frame_id = sent.id)
            = [])) ∧
    ∀ frame_id, frame_id ∈ (run deliver (.withJitterBudget max_pending_frames
        max_frame_age_frames max_pending_media_ms frame_interval_ms) deliveries).pending ↔
      ∃ sent ∈ frames, sent.id = frame_id ∧ sent.Started deliveries ∧
        ¬ sent.Complete deliveries := by
  have hdistinct : (frames.map SentFrame.id).Nodup := hburst.distinct
  refine ⟨?_, ?_, ?_⟩
  · -- one push: what it reports is `expectedFrame` of the packets up to it
    rintro before d after rfl
    have hprefix : Deliverable frames ((before ++ [d]) ++ after) := by
      rw [List.append_assoc]
      exact hdeliverable
    have hd : d.sent ∈ frames :=
      hdeliverable.sent d (List.mem_append_right _ List.mem_cons_self)
    have hcomplete := length_arrivals_eq_iff hdistinct hprefix.before hd
    obtain ⟨⟨reassembly_ms, hpush⟩, -⟩ :=
      (run_tracks hburst hprefix.before.before).push hburst hprefix.before
    refine ⟨_, reassembly_ms, hpush, fun hall => ?_, fun hnot => ?_⟩
    · -- nothing of the frame comes after its last fragment
      have hlength := hcomplete.mpr hall
      have hle := Sorted.length_le_of_bound (nodup_arrivals_index hprefix d.sent.id)
        (arrivals_index_lt hdistinct hprefix hd)
      rw [arrivals_append, List.length_map, List.length_append] at hle
      have hrest : arrivals after d.sent.id = [] := by
        rw [← List.length_eq_zero_iff]
        omega
      have hsame : arrivals (before ++ d :: after) d.sent.id
          = arrivals (before ++ [d]) d.sent.id := by
        rw [List.append_cons, arrivals_append, hrest, List.append_nil]
      rw [Tracks.expectedFrame, if_pos hlength, hsame]
    · rw [Tracks.expectedFrame, if_neg (mt hcomplete.mp hnot)]
  · intro sent hsent
    have hcomplete := length_arrivals_eq_iff hdistinct hdeliverable hsent
    -- the whole run: the outputs of one frame
    rw [filter_outputs hburst hdeliverable hsent, Tracks.expectedFrame]
    constructor
    · intro hall
      rw [if_pos (hcomplete.mpr hall)]
      rfl
    · intro hnot
      rw [if_neg (mt hcomplete.mp hnot)]
      rfl
  · intro frame_id
    -- what is pending: a slot is filled from the first fragment to the last
    have htracks := run_tracks hburst hdeliverable
    constructor
    · intro hin
      obtain ⟨sent, hsent, rfl⟩ := List.mem_map.mp (htracks.inside frame_id hin)
      obtain ⟨pending, hget⟩ := (mem_iff_get _ _).mp hin
      have hslot := htracks.slot sent hsent
      rw [hget] at hslot
      split at hslot
      · cases hslot
      · next hneither =>
          obtain ⟨hsome, hless⟩ := not_or.mp hneither
          rw [arrivals_eq_nil_iff hdistinct hdeliverable hsent, not_not] at hsome
          rw [length_arrivals_eq_iff hdistinct hdeliverable hsent] at hless
          exact ⟨sent, hsent, rfl, hsome, hless⟩
    · rintro ⟨sent, hsent, rfl, hstarted, hnot⟩
      have hslot := htracks.slot sent hsent
      rw [if_neg, Option.map_eq_some_iff] at hslot
      · obtain ⟨pending, hget, -⟩ := hslot
        exact mem_of_get hget
      · rw [arrivals_eq_nil_iff hdistinct hdeliverable hsent,
          length_arrivals_eq_iff hdistinct hdeliverable hsent, not_or, not_not]
        exact ⟨hstarted, hnot⟩

/-- A frame of three bytes, cut in two, and the next one, whose id has wrapped around. -/
def lastFrame : EncodedFrame :=
  ⟨1, 4294967295, 90, 1, 2, 3, 0, 0, 0, .h264, true, [1, 2, 3]⟩

def wrappedFrame : EncodedFrame :=
  ⟨1, 0, 93, 4, 5, 6, 0, 0, 0, .h264, false, [4]⟩

def lastSent : SentFrame where
  frame := lastFrame
  packet_type := .video
  first_sequence_number := 7
  max_payload := 2
  packets := (List.range 2).map (lastFrame.fragment .video 7 2 2)
  packetized := by decide +kernel

def wrappedSent : SentFrame where
  frame := wrappedFrame
  packet_type := .video
  first_sequence_number := 9
  max_payload := 2
  packets := (List.range 1).map (wrappedFrame.fragment .video 9 2 1)
  packetized := by decide +kernel

/-- The second fragment of the first frame overtakes the first, and the next frame both. -/
def overtaking : List Delivery :=
  [⟨wrappedSent, ⟨0, by decide⟩, ⟨10, 20, 30⟩, 40⟩, ⟨lastSent, ⟨1, by decide⟩, ⟨11, 0, 31⟩, 41⟩,
    ⟨lastSent, ⟨0, by decide⟩, ⟨12, 22, 29⟩, 42⟩]

theorem frames_delivered_overtaking :
    ((withJitterBudget 2 1 20 10).outputs overtaking).filter
        (fun frame => frame.frame_id = lastSent.id)
      = [{ lastFrame with
            sender_send_time_micros := 12
            server_receive_time_micros := 22
            server_send_time_micros := 31 }] := by
  have hburst : Burst [lastSent, wrappedSent] 2 1 20 10 := by
    refine ⟨?_, ?_, by decide, ?_, by decide, by decide, by decide, by decide⟩
    · simp [lastSent, wrappedSent, lastFrame, wrappedFrame]
    · simp [lastSent, wrappedSent]
    · simp only [List.mem_cons, List.not_mem_nil, or_false, forall_eq_or_imp, forall_eq]
      decide
  have hdeliverable : Deliverable [lastSent, wrappedSent] overtaking := by
    refine ⟨?_, by decide⟩
    simp [overtaking]
  have hcomplete : lastSent.Complete overtaking := by
    intro i hi
    have htwo : i < 2 := hi
    interval_cases i
    · exact ⟨_, List.mem_cons_of_mem _ (List.mem_cons_of_mem _ List.mem_cons_self), rfl, rfl⟩
    · exact ⟨_, List.mem_cons_of_mem _ List.mem_cons_self, rfl, rfl⟩
  have hout := ((frames_delivered hburst hdeliverable).2.1 lastSent List.mem_cons_self).1 hcomplete
  rw [hout]
  decide +kernel

end Runs

end TeamView.Client
