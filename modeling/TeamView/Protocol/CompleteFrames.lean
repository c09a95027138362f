import TeamView.Protocol.Frame

set_option autoImplicit false

/-! # What `reassemble_frame` accepts

The loop of `reassemble_frame` checks the sorted packets one by one against the first. Taken
together its checks say that the packets are a complete frame (`CompleteFrame`): every fragment
once, all of one frame, the last one marked. A complete frame is accepted in every order, with the
same result (`reassemble_accepts_complete_frames`).
-/

namespace TeamView.Protocol

open MachineInt

/-- The position of a packet in its frame. -/
def MediaPacket.index (packet : MediaPacket) : Nat := packet.header.fragment_index.toNat

/-- The packets of one frame, each fragment once. -/
structure CompleteFrame (packets : List MediaPacket) : Prop where
  nonempty : packets ≠ []
  valid : ∀ packet ∈ packets, packet.header.validate = .ok ()
  media : ∀ packet ∈ packets,
    packet.header.packet_type = .video ∨ packet.header.packet_type = .audio
  indices : ∃ n : Nat, (∀ packet ∈ packets, packet.header.fragment_count.toNat = n) ∧
    (packets.map MediaPacket.index).Perm (List.range n)
  agree : ∀ packet ∈ packets, ∀ other ∈ packets,
    packet.header.frame_id = other.header.frame_id ∧
      packet.header.room_stream_id = other.header.room_stream_id ∧
      packet.header.codec = other.header.codec ∧
      packet.header.packet_type = other.header.packet_type ∧
      packet.header.layer = other.header.layer ∧
      packet.header.media_timestamp = other.header.media_timestamp ∧
      packet.header.sender_capture_time_micros = other.header.sender_capture_time_micros ∧
      packet.header.sender_clock_offset_micros = other.header.sender_clock_offset_micros ∧
      packet.header.flags.contains PacketFlags.keyframe
        = other.header.flags.contains PacketFlags.keyframe
  ended : ∀ packet ∈ packets, packet.header.flags.contains PacketFlags.endOfFrame
    = decide (packet.index + 1 = packet.header.fragment_count.toNat)

/-- The frame that the packets carry: what they agree on, the payloads in the order of the
indices, the latest of the senders' and the server's send stamps and the earliest receipt. -/
structure Carries (packets : List MediaPacket) (frame : EncodedFrame) : Prop where
  shared : ∀ packet ∈ packets,
    frame.room_stream_id = packet.header.room_stream_id ∧
      frame.frame_id = packet.header.frame_id ∧
      frame.media_timestamp = packet.header.media_timestamp ∧
      frame.sender_capture_time_micros = packet.header.sender_capture_time_micros ∧
      frame.sender_clock_offset_micros = packet.header.sender_clock_offset_micros ∧
      frame.codec = packet.header.codec ∧
      frame.is_keyframe = packet.header.flags.contains PacketFlags.keyframe
  bytes : ∀ ordered : List MediaPacket, ordered.Perm packets →
    ordered.map MediaPacket.index = List.range packets.length →
      frame.bytes = ordered.flatMap MediaPacket.payload
  encode_done : (packets.map fun packet => packet.header.sender_encode_done_time_micros).max?
    = some frame.sender_encode_done_time_micros
  sender_send : (packets.map fun packet => packet.header.sender_send_time_micros).max?
    = some frame.sender_send_time_micros
  server_send : (packets.map fun packet => packet.header.server_send_time_micros).max?
    = some frame.server_send_time_micros
  server_receive : frame.server_receive_time_micros =
    minimumNonzero (packets.map fun packet => packet.header.server_receive_time_micros)

/-! ## The loop -/

theorem sameMetadata_iff {first header : MediaPacketHeader} :
    sameMetadata first header = true ↔
      header.fragment_count = first.fragment_count ∧ header.frame_id = first.frame_id ∧
        header.room_stream_id = first.room_stream_id ∧ header.codec = first.codec ∧
        header.packet_type = first.packet_type ∧ header.layer = first.layer ∧
        header.media_timestamp = first.media_timestamp ∧
        header.sender_capture_time_micros = first.sender_capture_time_micros ∧
        header.sender_clock_offset_micros = first.sender_clock_offset_micros ∧
        header.flags.contains PacketFlags.keyframe = first.flags.contains PacketFlags.keyframe :=
  decide_eq_true_iff

/-- What the loop checks of the packet in place `i`. -/
structure InPlace (first : MediaPacketHeader) (i : Nat) (packet : MediaPacket) : Prop where
  index : packet.header.fragment_index = UInt16.ofNat i
  same : sameMetadata first packet.header = true
  last : packet.header.flags.contains PacketFlags.endOfFrame
    = decide (i + 1 = first.fragment_count.toNat)

theorem UInt16.ofNat_ne_succ (i : Nat) : UInt16.ofNat i ≠ UInt16.ofNat (i + 1) := by
  intro heq
  have htoNat := congrArg UInt16.toNat heq
  rw [UInt16.toNat_ofNat', UInt16.toNat_ofNat'] at htoNat
  omega

/-- The loop accepts the packets that are in place, one after another, and joins them. -/
theorem reassembleLoop_ok_iff {first : MediaPacketHeader} {i : Nat} {previous : Option UInt16}
    (hprevious : previous ≠ some (UInt16.ofNat i)) {assembly assembly' : Assembly}
    {packets : List MediaPacket} :
    reassembleLoop first i previous assembly packets = .ok assembly' ↔
      List.Forall₂ (InPlace first) (List.range' i packets.length) packets ∧
        assembly' = packets.foldl Assembly.add assembly := by
  induction packets generalizing i previous assembly with
  | nil =>
      rw [reassembleLoop]
      constructor
      · intro h
        exact ⟨.nil, (Except.ok.inj h).symm⟩
      · rintro ⟨-, rfl⟩
        rfl
  | cons packet packets ih =>
      rw [List.length_cons, List.range'_succ, List.forall₂_cons, List.foldl_cons]
      constructor
      · intro h
        -- the checks of the source for one fragment, each of them passed
        rw [reassembleLoop] at h
        split at h
        · cases h
        · split at h
          · cases h
          · next hindex =>
              split at h
              · cases h
              · next hsame =>
                  split at h
                  · cases h
                  · next hlast =>
                      have hindex := not_not.mp hindex
                      -- the next index differs from this one, wherever the count wraps
                      have hnext : some packet.header.fragment_index
                          ≠ some (UInt16.ofNat (i + 1)) := by
                        rw [hindex]
                        exact fun heq => UInt16.ofNat_ne_succ i (Option.some.inj heq)
                      obtain ⟨hrest, hassembly⟩ := (ih hnext).mp h
                      exact ⟨⟨⟨hindex, Bool.eq_true_of_not_eq_false hsame, not_not.mp hlast⟩,
                        hrest⟩, hassembly⟩
      · rintro ⟨⟨hplace, hrest⟩, hassembly⟩
        have hfree : previous ≠ some packet.header.fragment_index := by
          rw [hplace.index]
          exact hprevious
        have hnext : some packet.header.fragment_index ≠ some (UInt16.ofNat (i + 1)) := by
          rw [hplace.index]
          exact fun heq => UInt16.ofNat_ne_succ i (Option.some.inj heq)
        rw [reassembleLoop_cons hfree hplace.index hplace.same hplace.last]
        exact (ih hnext).mpr ⟨hrest, hassembly⟩

/-! ## The packets in order -/

theorem validateHeaders_ok_iff {packets : List MediaPacket} :
    validateHeaders packets = .ok () ↔ ∀ packet ∈ packets, packet.header.validate = .ok () := by
  induction packets with
  | nil => exact iff_of_true rfl fun packet hpacket => nomatch hpacket
  | cons packet packets ih =>
      rw [List.forall_mem_cons, ← ih, validateHeaders]
      split
      · next error herror =>
          rw [herror]
          exact ⟨fun h => (nomatch h), fun h => nomatch h.1⟩
      · next hvalid =>
          rw [hvalid]
          exact ⟨fun h => ⟨rfl, h⟩, And.right⟩

theorem sortFragments_perm (packets : List MediaPacket) :
    (sortFragments packets).Perm packets := List.perm_insertionSort _ packets

/-- Sorting puts the fragments of a complete frame in place. -/
theorem map_index_sortFragments {packets : List MediaPacket} {n : Nat}
    (hindices : (packets.map MediaPacket.index).Perm (List.range n)) :
    (sortFragments packets).map MediaPacket.index = List.range n := by
  have htotal : Std.Total fun a b : MediaPacket =>
      a.header.fragment_index ≤ b.header.fragment_index := ⟨fun a b => UInt16.le_total _ _⟩
  have htrans : IsTrans MediaPacket fun a b =>
      a.header.fragment_index ≤ b.header.fragment_index := ⟨fun a b c => UInt16.le_trans⟩
  have hlength : packets.length = n := by
    have hcount := hindices.length_eq
    rwa [List.length_map, List.length_range] at hcount
  rw [← hlength] at hindices ⊢
  refine Sorted.map_insertionSort_eq_range _ MediaPacket.index
    (fun a b => UInt16.le_iff_toNat_le.mp) (hindices.nodup_iff.mpr List.nodup_range) ?_
  intro packet hpacket
  exact List.mem_range.mp (hindices.mem_iff.mp (List.mem_map_of_mem hpacket))

/-- The frame that the loop leaves behind. -/
def EncodedFrame.ofAssembly (first : MediaPacketHeader) (assembly : Assembly) : EncodedFrame where
  room_stream_id := first.room_stream_id
  frame_id := first.frame_id
  media_timestamp := first.media_timestamp
  sender_capture_time_micros := first.sender_capture_time_micros
  sender_clock_offset_micros := first.sender_clock_offset_micros
  sender_encode_done_time_micros := assembly.sender_encode_done_time_micros
  sender_send_time_micros := assembly.sender_send_time_micros
  server_receive_time_micros := assembly.server_receive_time_micros
  server_send_time_micros := assembly.server_send_time_micros
  codec := first.codec
  is_keyframe := first.flags.contains PacketFlags.keyframe
  bytes := assembly.bytes

/-- All the checks of `reassemble_frame`, and its result. -/
theorem reassembleFrame_ok_iff {packets : List MediaPacket} {frame : EncodedFrame} :
    reassembleFrame packets = .ok frame ↔
      (∀ packet ∈ packets, packet.header.validate = .ok ()) ∧
        ∃ (head : MediaPacket) (tail : List MediaPacket),
          sortFragments packets = head :: tail ∧ head.header.packet_type ≠ .probe ∧
            packets.length = head.header.fragment_count.toNat ∧
            List.Forall₂ (InPlace head.header) (List.range' 0 (head :: tail).length)
              (head :: tail) ∧
            frame = .ofAssembly head.header
              ((head :: tail).foldl Assembly.add (.start head.header)) := by
  have hprevious : (none : Option UInt16) ≠ some (UInt16.ofNat 0) :=
    (Option.some_ne_none _).symm
  rw [← validateHeaders_ok_iff, reassembleFrame]
  constructor
  · intro h
    split at h
    · cases h
    · next hvalid =>
        -- the checks of the source, in its order
        refine ⟨hvalid, ?_⟩
        split at h
        · cases h
        · next head tail hsort =>
            simp only at h
            split at h
            · cases h
            · next hprobe =>
                split at h
                · cases h
                · next hcount =>
                    split at h
                    · cases h
                    · next assembly hloop =>
                        obtain ⟨hplaces, hassembly⟩ := (reassembleLoop_ok_iff hprevious).mp hloop
                        refine ⟨head, tail, hsort, hprobe, not_not.mp hcount, hplaces, ?_⟩
                        rw [← hassembly]
                        exact (Except.ok.inj h).symm
  · rintro ⟨hvalid, head, tail, hsort, hprobe, hcount, hplaces, rfl⟩
    rw [hvalid, hsort]
    simp only
    rw [if_neg hprobe, if_neg (not_not.mpr hcount),
      (reassembleLoop_ok_iff hprevious).mpr ⟨hplaces, rfl⟩]
    rfl

/-! ## Complete frames are what is accepted -/

/-- Packets in place, one after another, have the indices from `i` on. -/
theorem map_index_of_inPlace {first : MediaPacketHeader} {i : Nat} {packets : List MediaPacket}
    (hfits : i + packets.length ≤ 2 ^ 16)
    (hplaces : List.Forall₂ (InPlace first) (List.range' i packets.length) packets) :
    packets.map MediaPacket.index = List.range' i packets.length := by
  induction packets generalizing i with
  | nil => rfl
  | cons packet packets ih =>
      rw [List.length_cons, List.range'_succ, List.forall₂_cons] at hplaces
      rw [List.length_cons] at hfits
      rw [List.map_cons, List.length_cons, List.range'_succ, ih (by omega) hplaces.2,
        MediaPacket.index, hplaces.1.index, UInt16.toNat_ofNat', Nat.mod_eq_of_lt (by omega)]

/-- Each packet in place knows its own place. -/
theorem inPlace_of_mem {first : MediaPacketHeader} {i : Nat} {packets : List MediaPacket}
    (hfits : i + packets.length ≤ 2 ^ 16)
    (hplaces : List.Forall₂ (InPlace first) (List.range' i packets.length) packets)
    {packet : MediaPacket} (hpacket : packet ∈ packets) :
    InPlace first packet.index packet := by
  have hindices := map_index_of_inPlace hfits hplaces
  rw [← hindices, List.forall₂_map_left_iff, List.forall₂_same] at hplaces
  exact hplaces packet hpacket

section Accepted

variable {packets : List MediaPacket} {head : MediaPacket} {tail : List MediaPacket}

theorem completeFrame_of_accepted
    (hvalid : ∀ packet ∈ packets, packet.header.validate = .ok ())
    (hsort : sortFragments packets = head :: tail) (hprobe : head.header.packet_type ≠ .probe)
    (hcount : packets.length = head.header.fragment_count.toNat)
    (hplaces : List.Forall₂ (InPlace head.header) (List.range' 0 (head :: tail).length)
      (head :: tail)) : CompleteFrame packets := by
  have hperm : (head :: tail).Perm packets := hsort ▸ sortFragments_perm packets
  have hwidth := head.header.fragment_count.toNat_lt
  have hfits : 0 + (head :: tail).length ≤ 2 ^ 16 := by
    rw [hperm.length_eq]
    omega
  have hplace : ∀ packet ∈ packets, InPlace head.header packet.index packet :=
    fun packet hpacket => inPlace_of_mem hfits hplaces (hperm.mem_iff.mpr hpacket)
  have hsame : ∀ packet ∈ packets, _ := fun packet hpacket =>
    sameMetadata_iff.mp (hplace packet hpacket).same
  refine ⟨?_, hvalid, ?_, ⟨packets.length, ?_, ?_⟩, ?_, ?_⟩
  · rintro rfl
    exact absurd hperm.length_eq (Nat.succ_ne_zero _)
  · intro packet hpacket
    obtain ⟨-, -, -, -, htype, -⟩ := hsame packet hpacket
    rw [htype]
    cases hkind : head.header.packet_type with
    | video => exact .inl rfl
    | audio => exact .inr rfl
    | probe => exact absurd hkind hprobe
  · intro packet hpacket
    rw [(hsame packet hpacket).1, hcount]
  · have hindices := map_index_of_inPlace hfits hplaces
    rw [hperm.length_eq, ← List.range_eq_range'] at hindices
    rw [← hindices]
    exact (hperm.map _).symm
  · intro packet hpacket other hother
    obtain ⟨-, h1, h2, h3, h4, h5, h6, h7, h8, h9⟩ := hsame packet hpacket
    obtain ⟨-, g1, g2, g3, g4, g5, g6, g7, g8, g9⟩ := hsame other hother
    exact ⟨h1.trans g1.symm, h2.trans g2.symm, h3.trans g3.symm, h4.trans g4.symm,
      h5.trans g5.symm, h6.trans g6.symm, h7.trans g7.symm, h8.trans g8.symm, h9.trans g9.symm⟩
  · intro packet hpacket
    rw [(hplace packet hpacket).last, (hsame packet hpacket).1]

theorem CompleteFrame.accepted (h : CompleteFrame packets)
    (hsort : sortFragments packets = head :: tail) :
    head.header.packet_type ≠ .probe ∧
      packets.length = head.header.fragment_count.toNat ∧
      List.Forall₂ (InPlace head.header) (List.range' 0 (head :: tail).length)
        (head :: tail) := by
  have hperm : (head :: tail).Perm packets := hsort ▸ sortFragments_perm packets
  have hhead : head ∈ packets := hperm.mem_iff.mp List.mem_cons_self
  obtain ⟨n, hcount, hindices⟩ := h.indices
  have hlength : packets.length = n := by
    have hlengths := hindices.length_eq
    rwa [List.length_map, List.length_range] at hlengths
  refine ⟨?_, by rw [hcount head hhead, hlength], ?_⟩
  · rcases h.media head hhead with hvideo | haudio
    · rw [hvideo]
      decide
    · rw [haudio]
      decide
  · have hsorted := map_index_sortFragments hindices
    rw [hsort] at hsorted
    rw [← List.range_eq_range', hperm.length_eq, hlength, ← hsorted,
      List.forall₂_map_left_iff, List.forall₂_same]
    intro packet hpacket
    have hin : packet ∈ packets := hperm.mem_iff.mp hpacket
    have hsame_count : packet.header.fragment_count = head.header.fragment_count :=
      UInt16.toNat_inj.mp ((hcount packet hin).trans (hcount head hhead).symm)
    refine ⟨(UInt16.ofNat_toNat).symm, sameMetadata_iff.mpr ⟨hsame_count, ?_⟩, ?_⟩
    · exact h.agree packet hin head hhead
    · rw [h.ended packet hin, hsame_count]

theorem carries_of_accepted (hsort : sortFragments packets = head :: tail)
    (hcount : packets.length = head.header.fragment_count.toNat)
    (hplaces : List.Forall₂ (InPlace head.header) (List.range' 0 (head :: tail).length)
      (head :: tail)) :
    Carries packets (.ofAssembly head.header
      ((head :: tail).foldl Assembly.add (.start head.header))) := by
  have hperm : (head :: tail).Perm packets := hsort ▸ sortFragments_perm packets
  have hhead : head ∈ head :: tail := List.mem_cons_self
  have hwidth := head.header.fragment_count.toNat_lt
  have hfits : 0 + (head :: tail).length ≤ 2 ^ 16 := by
    rw [hperm.length_eq]
    omega
  have hindices := map_index_of_inPlace hfits hplaces
  rw [hperm.length_eq, ← List.range_eq_range'] at hindices
  -- the largest stamp of the list is the one the loop finds from the first packet on
  have hlatest : ∀ stamp : MediaPacket → UInt64,
      (packets.map stamp).max? = some (((head :: tail).map stamp).foldl max (stamp head)) := by
    intro stamp
    have hsame : (packets.map stamp).max? = ((head :: tail).map stamp).max? :=
      Sorted.max?_congr fun a => ((hperm.map stamp).mem_iff).symm
    rw [hsame]
    exact Sorted.max?_eq_foldl (List.mem_map_of_mem hhead)
  rw [Assembly.foldl_add]
  constructor
  case shared =>
    intro packet hpacket
    have hplace := inPlace_of_mem hfits hplaces (hperm.mem_iff.mpr hpacket)
    obtain ⟨-, hframe, hroom, hcodec, -, -, hmedia, hcapture, hoffset, hkey⟩ :=
      sameMetadata_iff.mp hplace.same
    exact ⟨hroom.symm, hframe.symm, hmedia.symm, hcapture.symm, hoffset.symm, hcodec.symm,
      hkey.symm⟩
  case bytes =>
    intro ordered hordered hindex
    have hnodup : (ordered.map MediaPacket.index).Nodup := by
      rw [hindex]
      exact List.nodup_range
    rw [Sorted.eq_of_map_eq (hordered.trans hperm.symm) hnodup (hindex.trans hindices.symm)]
    rfl
  case encode_done => exact hlatest fun packet => packet.header.sender_encode_done_time_micros
  case sender_send => exact hlatest fun packet => packet.header.sender_send_time_micros
  case server_send => exact hlatest fun packet => packet.header.server_send_time_micros
  case server_receive =>
    show List.foldl minNonzero (minNonzero head.header.server_receive_time_micros 0) _ = _
    rw [minNonzero_zero]
    exact foldl_minNonzero_stamp hperm hhead fun packet =>
      packet.header.server_receive_time_micros

end Accepted

/-! ## The order does not matter -/

theorem CompleteFrame.perm {packets packets' : List MediaPacket} (h : CompleteFrame packets)
    (hperm : packets'.Perm packets) : CompleteFrame packets' where
  nonempty := by
    rintro rfl
    exact h.nonempty hperm.nil_eq.symm
  valid packet hpacket := h.valid packet (hperm.mem_iff.mp hpacket)
  media packet hpacket := h.media packet (hperm.mem_iff.mp hpacket)
  indices := by
    obtain ⟨n, hcount, hindices⟩ := h.indices
    exact ⟨n, fun packet hpacket => hcount packet (hperm.mem_iff.mp hpacket),
      (hperm.map _).trans hindices⟩
  agree packet hpacket other hother :=
    h.agree packet (hperm.mem_iff.mp hpacket) other (hperm.mem_iff.mp hother)
  ended packet hpacket := h.ended packet (hperm.mem_iff.mp hpacket)

theorem CompleteFrame.sortFragments_eq {packets packets' : List MediaPacket}
    (h : CompleteFrame packets) (hperm : packets'.Perm packets) :
    sortFragments packets' = sortFragments packets := by
  obtain ⟨n, -, hindices⟩ := h.indices
  have hsorted := map_index_sortFragments hindices
  have hsorted' := map_index_sortFragments ((hperm.map _).trans hindices)
  have hnodup : ((sortFragments packets').map MediaPacket.index).Nodup := by
    rw [hsorted']
    exact List.nodup_range
  have hsame : (sortFragments packets').Perm (sortFragments packets) :=
    (sortFragments_perm packets').trans (hperm.trans (sortFragments_perm packets).symm)
  exact Sorted.eq_of_map_eq hsame hnodup (hsorted'.trans hsorted.symm)

theorem CompleteFrame.reassembles {packets : List MediaPacket} (h : CompleteFrame packets) :
    ∃ frame, reassembleFrame packets = .ok frame := by
  cases hsort : sortFragments packets with
  | nil =>
      have hperm := sortFragments_perm packets
      rw [hsort] at hperm
      exact absurd hperm.nil_eq.symm h.nonempty
  | cons head tail =>
      obtain ⟨hprobe, hcount, hplaces⟩ := h.accepted hsort
      exact ⟨_, reassembleFrame_ok_iff.mpr ⟨h.valid, head, tail, hsort, hprobe, hcount, hplaces,
        rfl⟩⟩

theorem completeFrame_of_ok {packets : List MediaPacket} {frame : EncodedFrame}
    (h : reassembleFrame packets = .ok frame) : CompleteFrame packets := by
  obtain ⟨hvalid, head, tail, hsort, hprobe, hcount, hplaces, -⟩ := reassembleFrame_ok_iff.mp h
  exact completeFrame_of_accepted hvalid hsort hprobe hcount hplaces

theorem reassembleFrame_of_perm {packets packets' : List MediaPacket} {frame : EncodedFrame}
    (h : reassembleFrame packets = .ok frame) (hperm : packets'.Perm packets) :
    reassembleFrame packets' = .ok frame := by
  have hcomplete := completeFrame_of_ok h
  obtain ⟨hvalid, head, tail, hsort, hprobe, hcount, hplaces, hframe⟩ :=
    reassembleFrame_ok_iff.mp h
  refine reassembleFrame_ok_iff.mpr ⟨(hcomplete.perm hperm).valid, head, tail, ?_, hprobe, ?_,
    hplaces, hframe⟩
  · rw [hcomplete.sortFragments_eq hperm, hsort]
  · rw [hperm.length_eq, hcount]

theorem carries_of_ok {packets : List MediaPacket} {frame : EncodedFrame}
    (h : reassembleFrame packets = .ok frame) : Carries packets frame := by
  obtain ⟨-, head, tail, hsort, -, hcount, hplaces, rfl⟩ := reassembleFrame_ok_iff.mp h
  exact carries_of_accepted hsort hcount hplaces

/-- `reassemble_frame` accepts the complete frames and nothing else, each in every order with the
same result, which is the frame that the packets carry. -/
theorem reassemble_accepts_complete_frames (packets : List MediaPacket) :
    ((∃ frame, reassembleFrame packets = .ok frame) ↔ CompleteFrame packets) ∧
      ∀ frame, reassembleFrame packets = .ok frame →
        (∀ packets' : List MediaPacket, packets'.Perm packets →
          reassembleFrame packets' = .ok frame) ∧
        Carries packets frame :=
  ⟨⟨fun ⟨_, h⟩ => completeFrame_of_ok h, CompleteFrame.reassembles⟩,
    fun _ h => ⟨fun _ hperm => reassembleFrame_of_perm h hperm, carries_of_ok h⟩⟩

/-- A keyframe of five bytes. -/
def shortFrame : EncodedFrame where
  room_stream_id := 7
  frame_id := 3
  media_timestamp := 9000
  sender_capture_time_micros := 100
  sender_clock_offset_micros := -5
  sender_encode_done_time_micros := 120
  sender_send_time_micros := 130
  server_receive_time_micros := 0
  server_send_time_micros := 0
  codec := .h264
  is_keyframe := true
  bytes := [1, 2, 3, 4, 5]

/-- Its packets of two bytes, in reverse. -/
theorem reassemble_accepts_complete_frames_short :
    ∃ (packets : List MediaPacket) (frame : EncodedFrame),
      CompleteFrame packets ∧ Carries packets frame ∧ frame.bytes = [1, 2, 3, 4, 5] := by
  have hok : (packetizeFrameWithType shortFrame .video 0xFFFFFFFF 2).map (fun packets =>
      reassembleFrame packets.reverse) = .ok (.ok shortFrame) := by decide +kernel
  cases hpackets : packetizeFrameWithType shortFrame .video 0xFFFFFFFF 2 with
  | error error =>
      rw [hpackets] at hok
      cases hok
  | ok packets =>
      rw [hpackets] at hok
      have hframe : reassembleFrame packets.reverse = .ok shortFrame := Except.ok.inj hok
      have haccepts := reassemble_accepts_complete_frames packets.reverse
      exact ⟨packets.reverse, shortFrame, haccepts.1.mp ⟨_, hframe⟩,
        (haccepts.2 _ hframe).2, rfl⟩

end TeamView.Protocol
