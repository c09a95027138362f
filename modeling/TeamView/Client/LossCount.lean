import TeamView.Client.ViewerRecovery
import TeamView.Lib.Serial

set_option autoImplicit false

/-! # Counting lost packets

`ClientMediaStats::record_packet` (`crates/desktop-client/src/stats.rs`) counts the sequence numbers
left out in front of each new highest one. It keeps no record of them, so a packet that arrives
late stays counted as lost. This file gives the exact count for any order of arrival.
-/

namespace TeamView.Client

open TeamView.Protocol MachineInt Runs Serial

namespace ClientMediaStats

/-- How far a packet is ahead of the first one. -/
def position (first packet : MediaPacket) : Nat :=
  (packet.header.sequence_number - first.header.sequence_number).toNat

/-- The positions of the packets after the first. -/
def positions (first : MediaPacket) (later : List MediaPacket) : List Nat :=
  later.map (position first)

/-- The sequence numbers from that of the first packet to the highest received one that were not
received. -/
def notReceived (first : MediaPacket) (later : List MediaPacket) : List Nat :=
  (List.range (highest 0 (positions first later) + 1)).filter fun n =>
    first.header.sequence_number + UInt32.ofNat n ∉
      (first :: later).map fun packet => packet.header.sequence_number

variable {first : MediaPacket} {later : List MediaPacket}

theorem position_eq_ahead (first packet : MediaPacket) : position first packet =
    ahead (2 ^ 32) first.header.sequence_number.toNat packet.header.sequence_number.toNat :=
  toNat_sub_eq_ahead _ _

theorem position_lt (first packet : MediaPacket) : position first packet < 2 ^ 32 :=
  UInt32.toNat_lt _

theorem position_self (first : MediaPacket) : position first first = 0 := by
  unfold position
  rw [UInt32.sub_self]
  rfl

theorem position_inj {packet packet' : MediaPacket} :
    position first packet = position first packet' ↔
      packet.header.sequence_number = packet'.header.sequence_number := by
  rw [position_eq_ahead, position_eq_ahead,
    ahead_inj (UInt32.toNat_lt _) (UInt32.toNat_lt _) (UInt32.toNat_lt _), UInt32.toNat_inj]

/-- The number at position `n`. -/
theorem number_at_iff {packet : MediaPacket} {n : Nat} (hn : n < 2 ^ 32) :
    packet.header.sequence_number = first.header.sequence_number + UInt32.ofNat n ↔
      position first packet = n := by
  unfold position
  constructor
  · intro h
    rw [h, UInt32.add_comm, UInt32.add_sub_cancel, UInt32.toNat_ofNat_of_lt' hn]
  · intro h
    rw [← h, UInt32.ofNat_toNat, UInt32.add_comm, UInt32.sub_add_cancel]

/-! ## One packet -/

/-- Within half of the numbers a packet is counted when it is ahead of the last one. -/
theorem recordPacket_spec {stats : ClientMediaStats} {last packet : MediaPacket}
    (hlast : stats.last_sequence_number = some last.header.sequence_number)
    (hlastHalf : position first last < u32Max / 2)
    (hhalf : position first packet < u32Max / 2) :
    (position first last < position first packet →
      (stats.recordPacket packet).lost_packets = satAdd u64Max stats.lost_packets
          (position first packet - position first last - 1) ∧
        (stats.recordPacket packet).last_sequence_number = some packet.header.sequence_number) ∧
      (position first packet ≤ position first last →
        (stats.recordPacket packet).lost_packets = stats.lost_packets ∧
          (stats.recordPacket packet).last_sequence_number = stats.last_sequence_number) := by
  have hlastLt := UInt32.toNat_lt last.header.sequence_number
  have hpacketLt := UInt32.toNat_lt packet.header.sequence_number
  have hfirstLt := UInt32.toNat_lt first.header.sequence_number
  have hdistance := toNat_sub_eq_ahead last.header.sequence_number packet.header.sequence_number
  have hbound : (UInt32.ofNat (u32Max / 2)).toNat = u32Max / 2 := rfl
  have hzero : (0 : UInt32).toNat = 0 := rfl
  have hmax : u32Max / 2 = 2147483647 := rfl
  rw [position_eq_ahead] at hlastHalf hhalf
  rw [position_eq_ahead, position_eq_ahead]
  constructor
  · intro hahead
    -- ahead of the last one by less than half the circle: the gap is counted
    rw [ahead_eq_sub hfirstLt hlastLt hpacketLt (Nat.le_of_lt hahead)] at hdistance
    have hcounted : 0 < packet.header.sequence_number - last.header.sequence_number ∧
        packet.header.sequence_number - last.header.sequence_number
          < UInt32.ofNat (u32Max / 2) := by
      rw [UInt32.lt_iff_toNat_lt, UInt32.lt_iff_toNat_lt, hbound, hzero, hdistance]
      omega
    have hgap : (packet.header.sequence_number - last.header.sequence_number - 1).toNat
        = (packet.header.sequence_number - last.header.sequence_number).toNat - 1 := by
      refine UInt32.toNat_sub_of_le _ _ ?_
      rw [UInt32.le_iff_toNat_le]
      exact UInt32.lt_iff_toNat_lt.mp hcounted.1
    unfold recordPacket
    simp only [hlast, if_pos hcounted, hgap, hdistance, and_self]
  · intro hbehind
    have hignored : ¬ (0 < packet.header.sequence_number - last.header.sequence_number ∧
        packet.header.sequence_number - last.header.sequence_number
          < UInt32.ofNat (u32Max / 2)) := by
      rw [UInt32.lt_iff_toNat_lt, UInt32.lt_iff_toNat_lt, hbound, hzero, hdistance]
      -- the same number, or the long way around the circle
      rcases Nat.eq_or_lt_of_le hbehind with hsame | hless
      · rw [ahead_eq_sub hfirstLt hlastLt hpacketLt (le_of_eq hsame.symm)]
        omega
      · rw [ahead_eq_wrap hfirstLt hlastLt hpacketLt hless]
        omega
    unfold recordPacket
    simp only [hlast, if_neg hignored, and_self]

/-! ## All packets -/

/-- The counter adds up what each new highest number leaves out. -/
theorem run_lost_packets {stats : ClientMediaStats} {last : MediaPacket}
    (hlast : stats.last_sequence_number = some last.header.sequence_number)
    (hlastHalf : position first last < u32Max / 2) (hbound : stats.lost_packets ≤ u64Max)
    (hhalf : ∀ packet ∈ later, position first packet < u32Max / 2) :
    (run recordPacket stats later).lost_packets =
      min (stats.lost_packets + skipped (position first last) (positions first later)) u64Max := by
  induction later generalizing stats last with
  | nil => exact (Nat.min_eq_left hbound).symm
  | cons packet later ih =>
      have hpacket := hhalf packet List.mem_cons_self
      have hrest : ∀ packet ∈ later, position first packet < u32Max / 2 :=
        fun other hother => hhalf other (List.mem_cons_of_mem packet hother)
      obtain ⟨hahead, hbehind⟩ := recordPacket_spec hlast hlastHalf hpacket
      have hskipped : skipped (position first last) (positions first (packet :: later)) =
          if position first last < position first packet then
            (position first packet - position first last - 1)
              + skipped (position first packet) (positions first later)
          else skipped (position first last) (positions first later) := rfl
      rw [run_cons, hskipped]
      by_cases hnew : position first last < position first packet
      · obtain ⟨hlost, hnumber⟩ := hahead hnew
        have hle : (stats.recordPacket packet).lost_packets ≤ u64Max := by
          rw [hlost]
          exact Nat.min_le_right _ _
        rw [if_pos hnew, ih hnumber hpacket hle hrest, hlost, satAdd]
        omega
      · obtain ⟨hlost, hnumber⟩ := hbehind (Nat.not_lt.mp hnew)
        rw [if_neg hnew, ih (hnumber.trans hlast) hlastHalf (hlost ▸ hbound) hrest, hlost]

theorem positions_nodup
    (hdistinct : ((first :: later).map fun packet => packet.header.sequence_number).Nodup) :
    (0 :: positions first later).Nodup := by
  have hpositions : (positions first (first :: later)).Nodup := by
    refine List.Nodup.map_on ?_ (List.Nodup.of_map _ hdistinct)
    intro packet hpacket packet' hpacket' hsame
    exact List.inj_on_of_nodup_map hdistinct hpacket hpacket' (position_inj.mp hsame)
  rw [positions, List.map_cons, position_self] at hpositions
  exact hpositions

theorem length_notReceived
    (hdistinct : ((first :: later).map fun packet => packet.header.sequence_number).Nodup) :
    (notReceived first later).length + later.length = highest 0 (positions first later) := by
  have hlt : ∀ n ∈ 0 :: positions first later, n < highest 0 (positions first later) + 1 := by
    intro n hn
    rcases List.mem_cons.mp hn with rfl | hlater
    · exact Nat.succ_pos _
    · exact Nat.lt_succ_of_le (le_highest_of_mem hlater)
  have hwrap : highest 0 (positions first later) < 2 ^ 32 := by
    refine Nat.lt_of_le_pred (by decide) (highest_le (Nat.zero_le _) fun n hn => ?_)
    obtain ⟨packet, _, rfl⟩ := List.mem_map.mp hn
    exact Nat.le_pred_of_lt (position_lt first packet)
  have hsame : notReceived first later =
      (List.range (highest 0 (positions first later) + 1)).filter
        (· ∉ 0 :: positions first later) := by
    refine List.filter_congr fun n hn => ?_
    have hn' : n < 2 ^ 32 := by
      have hlast := List.mem_range.mp hn
      omega
    have hpositions : 0 :: positions first later = (first :: later).map (position first) := by
      rw [List.map_cons, position_self]
      rfl
    rw [decide_eq_decide, hpositions, List.mem_map, List.mem_map]
    simp only [number_at_iff hn']
  have hcount := length_left_out (positions_nodup hdistinct) hlt
  have hlength : (0 :: positions first later).length = later.length + 1 := by
    rw [List.length_cons, positions, List.length_map]
  rw [hsame]
  omega

/-- The first packet is the lowest one, so that it makes no other late. -/
theorem late_from_first (first : MediaPacket) (later : List MediaPacket) :
    late [] (positions first (first :: later)) = late [0] (positions first later) := by
  have hnone : ¬ ∃ e ∈ ([] : List Nat), position first first < e := by simp
  rw [positions, List.map_cons, late, if_neg hnone, position_self]
  rfl

/-- Packets that are within half of the sequence numbers after the first count as lost when they
are not received, and also when they are received late. -/
theorem lost_packets_eq (first : MediaPacket) (later : List MediaPacket)
    (hdistinct : ((first :: later).map fun packet => packet.header.sequence_number).Nodup)
    (hhalf : ∀ packet ∈ later, position first packet < u32Max / 2) :
    (run recordPacket default (first :: later)).lost_packets =
        (notReceived first later).length +
          (late [] (positions first (first :: later))).length ∧
      ((run recordPacket default (first :: later)).lost_packets =
          (notReceived first later).length ↔
        (positions first (first :: later)).Pairwise (· ≤ ·)) := by
  have hstart : position first first < u32Max / 2 := by
    rw [position_self]
    decide
  have hrun := @run_lost_packets first later (default.recordPacket first) first rfl hstart
    (Nat.zero_le u64Max) hhalf
  have hzero : (default.recordPacket first).lost_packets = 0 := rfl
  have hskipped : skipped 0 (positions first later) + (positions first later).length + 0 =
      highest 0 (positions first later) + (late [0] (positions first later)).length :=
    skipped_add_length (List.mem_singleton_self 0) (by simp) (positions_nodup hdistinct)
  have hnot := length_notReceived hdistinct
  have hhighest : highest 0 (positions first later) ≤ u32Max / 2 := by
    refine highest_le (Nat.zero_le _) fun n hn => ?_
    obtain ⟨packet, hpacket, rfl⟩ := List.mem_map.mp hn
    exact Nat.le_of_lt (hhalf packet hpacket)
  have hlate := (late_sublist [0] (positions first later)).length_le
  have hlength : (positions first later).length = later.length := List.length_map _
  have hlost : (run recordPacket default (first :: later)).lost_packets =
      (notReceived first later).length + (late [0] (positions first later)).length := by
    have htop : u32Max / 2 ≤ u64Max := by decide
    rw [run_cons, hrun, hzero, position_self]
    omega
  rw [late_from_first]
  refine ⟨hlost, ?_⟩
  rw [hlost, Nat.add_eq_left, List.length_eq_zero_iff, ← late_from_first, late_eq_nil_iff]
  exact and_iff_right fun e he => absurd he List.not_mem_nil

/-- A packet with the given sequence number. -/
def numbered (sequence_number : UInt32) : MediaPacket :=
  let frame : EncodedFrame := ⟨1, 0, 0, 0, 0, 0, 0, 0, 0, .h264, false, [0, 0, 0, 1]⟩
  frame.fragment .video sequence_number 4 1 0

theorem lost_packets_reordered :
    (run recordPacket default
          ((numbered 10) :: [numbered 12, numbered 11, numbered 15])).lost_packets = 3 ∧
      ¬ (positions (numbered 10) [numbered 10, numbered 12, numbered 11, numbered 15]).Pairwise
        (· ≤ ·) := by
  have hcount := lost_packets_eq (numbered 10) [numbered 12, numbered 11, numbered 15]
    (by decide +kernel) (by decide +kernel)
  refine ⟨hcount.1.trans (by decide +kernel), ?_⟩
  rw [← hcount.2, hcount.1]
  decide +kernel

/-- Packet 11 comes after packet 12 and stays counted as lost. -/
theorem late_packet_counted :
    ¬ ∀ (first : MediaPacket) (later : List MediaPacket),
      ((first :: later).map fun packet => packet.header.sequence_number).Nodup →
      (∀ packet ∈ later, position first packet < u32Max / 2) →
        (run recordPacket default (first :: later)).lost_packets =
          (notReceived first later).length := by
  intro hclaim
  have hcount := hclaim (numbered 10) [numbered 12, numbered 11] (by decide +kernel)
    (by decide +kernel)
  revert hcount
  decide +kernel

end ClientMediaStats

end TeamView.Client
