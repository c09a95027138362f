import TeamView.Protocol.CompleteFrames
import TeamView.Protocol.PacketCodec

set_option autoImplicit false

/-! # The round trip of a frame

The packets of a frame are a complete frame in the sense of `CompleteFrame`, in whatever order they
arrive and whatever stamps were written into them on the way, so `reassemble_frame` accepts them;
what they carry is the frame that was packetized (`reassembleFrame_of_fragments`,
`packetize_round_trip`).
-/

namespace TeamView.Protocol

open MachineInt

section Arrived

variable {frame : EncodedFrame} {packet_type : PacketType} {first_sequence_number : UInt32}
  {max_payload : Nat} {packets got : List MediaPacket}

/-- A packet names the fragment that it is. -/
theorem Packetized.restamped_index
    (hframe : Packetized frame packet_type first_sequence_number max_payload packets)
    {fragment packet : MediaPacket} (hfragment : fragment ∈ packets)
    (hpacket : fragment.Restamped packet) :
    packet.index < packets.length ∧
      (frame.fragment packet_type first_sequence_number max_payload
        (frame.fragmentCount max_payload) packet.index).Restamped packet := by
  have hcount := hframe.count_le
  have hwidth : u16Max < 2 ^ 16 := by decide
  rw [hframe.packets_eq, List.mem_map] at hfragment
  obtain ⟨i, hi, rfl⟩ := hfragment
  rw [List.mem_range] at hi
  obtain ⟨stamps, rfl⟩ := hpacket
  have hindex : (UInt16.ofNat i).toNat = i := by
    rw [UInt16.toNat_ofNat', Nat.mod_eq_of_lt (by omega)]
  rw [hframe.packets_eq, List.length_map, List.length_range]
  simp only [MediaPacket.index, MediaPacket.restamp, EncodedFrame.fragment, hindex]
  exact ⟨hi, stamps, rfl⟩

/-- The packets of a frame arrive, each once, with the stamps of the way. -/
structure Arrived (packets got : List MediaPacket) : Prop where
  restamped : ∀ packet ∈ got, ∃ fragment ∈ packets, fragment.Restamped packet
  distinct : (got.map fun packet => packet.header.fragment_index).Nodup
  all : got.length = packets.length

theorem Packetized.length_eq
    (hframe : Packetized frame packet_type first_sequence_number max_payload packets) :
    packets.length = frame.fragmentCount max_payload := by
  rw [hframe.packets_eq, List.length_map, List.length_range]

theorem Packetized.arrived_index
    (hframe : Packetized frame packet_type first_sequence_number max_payload packets)
    (harrived : Arrived packets got) {packet : MediaPacket} (hpacket : packet ∈ got) :
    packet.index < packets.length ∧ ∃ stamps, packet =
      (frame.fragment packet_type first_sequence_number max_payload
        (frame.fragmentCount max_payload) packet.index).restamp stamps := by
  obtain ⟨fragment, hfragment, hrestamped⟩ := harrived.restamped packet hpacket
  exact hframe.restamped_index hfragment hrestamped

/-- As many different indices below the count as there are fragments are all of them. -/
theorem Packetized.perm_index
    (hframe : Packetized frame packet_type first_sequence_number max_payload packets)
    (harrived : Arrived packets got) :
    (got.map MediaPacket.index).Perm (List.range (frame.fragmentCount max_payload)) := by
  have hnodup : (got.map MediaPacket.index).Nodup := by
    have hmap := harrived.distinct.map (f := UInt16.toNat) fun a b => UInt16.toNat_inj.mp
    rwa [List.map_map] at hmap
  have hbelow : got.map MediaPacket.index ⊆ List.range (frame.fragmentCount max_payload) := by
    intro i hi
    obtain ⟨packet, hpacket, rfl⟩ := List.mem_map.mp hi
    rw [List.mem_range, ← hframe.length_eq]
    exact (hframe.arrived_index harrived hpacket).1
  refine (hnodup.subperm hbelow).perm_of_length_le ?_
  rw [List.length_range, List.length_map, harrived.all, hframe.length_eq]

theorem Packetized.completeFrame
    (hframe : Packetized frame packet_type first_sequence_number max_payload packets)
    (hmedia : packet_type ≠ .probe) (harrived : Arrived packets got) : CompleteFrame got := by
  have hcount : (UInt16.ofNat (frame.fragmentCount max_payload)).toNat
      = frame.fragmentCount max_payload := by
    have hle := hframe.count_le
    have hwidth : u16Max < 2 ^ 16 := by decide
    rw [UInt16.toNat_ofNat', Nat.mod_eq_of_lt (by omega)]
  constructor
  case nonempty =>
    rintro rfl
    have hpos := hframe.count_pos
    rw [← hframe.length_eq, ← harrived.all] at hpos
    exact absurd hpos (Nat.lt_irrefl 0)
  case valid =>
    intro packet hpacket
    obtain ⟨fragment, hfragment, stamps, rfl⟩ := harrived.restamped packet hpacket
    exact hframe.valid fragment hfragment
  case media =>
    intro packet hpacket
    obtain ⟨-, stamps, hpacket⟩ := hframe.arrived_index harrived hpacket
    rw [hpacket]
    show packet_type = .video ∨ packet_type = .audio
    cases packet_type with
    | video => exact .inl rfl
    | audio => exact .inr rfl
    | probe => exact absurd rfl hmedia
  case indices =>
    refine ⟨frame.fragmentCount max_payload, fun packet hpacket => ?_,
      hframe.perm_index harrived⟩
    obtain ⟨-, stamps, hpacket⟩ := hframe.arrived_index harrived hpacket
    rw [hpacket]
    exact hcount
  case agree =>
    intro packet hpacket other hother
    obtain ⟨-, stamps, hpacket⟩ := hframe.arrived_index harrived hpacket
    obtain ⟨-, stamps', hother⟩ := hframe.arrived_index harrived hother
    rw [hpacket, hother]
    refine ⟨rfl, rfl, rfl, rfl, rfl, rfl, rfl, rfl, ?_⟩
    show (frame.fragmentFlags _ _).contains _ = (frame.fragmentFlags _ _).contains _
    rw [EncodedFrame.fragmentFlags_keyframe, EncodedFrame.fragmentFlags_keyframe]
  case ended =>
    intro packet hpacket
    obtain ⟨-, stamps, heq⟩ := hframe.arrived_index harrived hpacket
    have hfragments : packet.header.fragment_count.toNat = frame.fragmentCount max_payload := by
      rw [heq]
      exact hcount
    have hflags : packet.header.flags
        = frame.fragmentFlags packet.index (frame.fragmentCount max_payload) := by
      rw [heq]
      exact congrArg (frame.fragmentFlags · _) (congrArg MediaPacket.index heq)
    rw [hflags, hfragments]
    exact EncodedFrame.fragmentFlags_endOfFrame frame _ _

/-- The payloads of the packets, in the order of their indices, are the bytes of the frame. -/
theorem Packetized.flatMap_payload
    (hframe : Packetized frame packet_type first_sequence_number max_payload packets)
    (harrived : Arrived packets got) :
    (sortFragments got).flatMap MediaPacket.payload = frame.bytes := by
  have hpayload : ∀ packet ∈ sortFragments got,
      packet.payload = frame.fragmentPayload max_payload packet.index := by
    intro packet hpacket
    obtain ⟨-, stamps, heq⟩ :=
      hframe.arrived_index harrived ((sortFragments_perm got).mem_iff.mp hpacket)
    rw [heq]
    exact congrArg (frame.fragmentPayload max_payload) (congrArg MediaPacket.index heq)
  calc (sortFragments got).flatMap MediaPacket.payload
      = (sortFragments got).flatMap fun packet =>
          frame.fragmentPayload max_payload packet.index := List.flatMap_congr hpayload
    _ = ((sortFragments got).map MediaPacket.index).flatMap
          (frame.fragmentPayload max_payload) := (List.flatMap_map _ _ _).symm
    _ = (List.range' 0 (frame.fragmentCount max_payload)).flatMap
          (frame.fragmentPayload max_payload) := by
        rw [map_index_sortFragments (hframe.perm_index harrived), List.range_eq_range']
    _ = frame.bytes := by
        rw [EncodedFrame.flatMap_fragmentPayload frame hframe.payload_pos 0 _ (Nat.zero_add _),
          Nat.zero_mul, List.drop_zero]

/-- What the arrived packets carry is the frame, with the stamps of the way. -/
theorem Packetized.carried_eq
    (hframe : Packetized frame packet_type first_sequence_number max_payload packets)
    (hmedia : packet_type ≠ .probe) (harrived : Arrived packets got) {carried : EncodedFrame}
    (hcarries : Carries got carried) : carried = frame.arrived got := by
  have hcomplete := hframe.completeFrame hmedia harrived
  obtain ⟨packet, hpacket⟩ := List.exists_mem_of_ne_nil got hcomplete.nonempty
  obtain ⟨hroom, hid, hmedia_timestamp, hcapture, hoffset, hcodec, hkey⟩ :=
    hcarries.shared packet hpacket
  have hbytes := hcarries.bytes (sortFragments got) (sortFragments_perm got) (by
    rw [map_index_sortFragments (hframe.perm_index harrived), harrived.all, hframe.length_eq])
  -- every packet has the time at which the frame was encoded
  have hdone : ∀ packet ∈ got, packet.header.sender_encode_done_time_micros
      = frame.sender_encode_done_time_micros := by
    intro packet hpacket
    obtain ⟨-, stamps, heq⟩ := hframe.arrived_index harrived hpacket
    rw [heq]
    rfl
  have hencoded := (List.max?_eq_some_iff.mp hcarries.encode_done).1
  obtain ⟨last, hlast, hstamp⟩ := List.mem_map.mp hencoded
  have hsend := hcarries.sender_send
  have hserver := hcarries.server_send
  obtain ⟨-, stamps, heq⟩ := hframe.arrived_index harrived hpacket
  rw [heq] at hroom hid hmedia_timestamp hcapture hoffset hcodec hkey
  cases carried
  rw [EncodedFrame.arrived, hsend, hserver]
  simp only [EncodedFrame.mk.injEq, Option.getD_some, true_and]
  exact ⟨hroom, hid, hmedia_timestamp, hcapture, hoffset, hstamp.symm.trans (hdone last hlast),
    hcarries.server_receive, hcodec,
    hkey.trans (EncodedFrame.fragmentFlags_keyframe frame _ _),
    hbytes.trans (hframe.flatMap_payload harrived)⟩

/-- The packets of a packetized frame, in any order and with any stamps, reassemble to the
frame. -/
theorem reassembleFrame_of_fragments
    (hframe : Packetized frame packet_type first_sequence_number max_payload packets)
    (hmedia : packet_type ≠ .probe) (harrived : Arrived packets got) :
    reassembleFrame got = .ok (frame.arrived got) := by
  obtain ⟨carried, hok⟩ := (hframe.completeFrame hmedia harrived).reassembles
  rw [hok, hframe.carried_eq hmedia harrived (carries_of_ok hok)]

end Arrived

/-! ## When packetizing succeeds -/

theorem encodeFragments_of_valid {fragment : Nat → MediaPacket} {indices : List Nat}
    (h : ∀ i ∈ indices, (fragment i).Valid) :
    encodeFragments fragment indices = .ok (indices.map fragment) := by
  induction indices with
  | nil => rfl
  | cons i indices ih =>
      rw [List.forall_mem_cons] at h
      rw [encodeFragments, encode_ok_iff.mpr ⟨h.1, rfl⟩]
      simp only
      rw [ih h.2]
      rfl

namespace EncodedFrame

variable (frame : EncodedFrame)

theorem length_fragmentPayload_le (max_payload i : Nat) :
    (frame.fragmentPayload max_payload i).length ≤ max_payload := by
  rw [fragmentPayload_eq]
  exact List.length_take_le _ _

/-- A fragment of a frame within the limits encodes. -/
theorem fragment_valid {packet_type : PacketType} (hmedia : packet_type ≠ .probe)
    (first_sequence_number : UInt32) {max_payload count i : Nat}
    (hpayload : max_payload ≤ u16Max) (hcount : count ≤ u16Max) (hi : i < count) :
    (frame.fragment packet_type first_sequence_number max_payload count i).Valid := by
  have hwidth : u16Max < 2 ^ 16 := by decide
  have hlength := frame.length_fragmentPayload_le max_payload i
  refine ⟨⟨?_, rfl, fun hprobe => absurd hprobe hmedia⟩, ?_⟩
  · show UInt16.ofNat i < UInt16.ofNat count
    rw [UInt16.lt_iff_toNat_lt, UInt16.toNat_ofNat', UInt16.toNat_ofNat',
      Nat.mod_eq_of_lt (by omega), Nat.mod_eq_of_lt (by omega)]
    exact hi
  · show (UInt16.ofNat (frame.fragmentPayload max_payload i).length).toNat = _
    rw [UInt16.toNat_ofNat', Nat.mod_eq_of_lt (by omega)]
    rfl

end EncodedFrame

theorem packetizeFrameWithType_ok_iff (frame : EncodedFrame) {packet_type : PacketType}
    (hmedia : packet_type ≠ .probe) (first_sequence_number : UInt32) (max_payload : Nat) :
    (∃ packets, packetizeFrameWithType frame packet_type first_sequence_number max_payload
        = .ok packets) ↔
      1 ≤ max_payload ∧ max_payload ≤ u16Max ∧ frame.fragmentCount max_payload ≤ u16Max := by
  unfold packetizeFrameWithType
  simp only
  constructor
  · rintro ⟨packets, h⟩
    split at h
    · cases h
    · split at h
      · cases h
      · split at h
        · cases h
        · omega
  · rintro ⟨hpos, hpayload, hcount⟩
    rw [if_neg (by omega), if_neg (by omega), if_neg (by omega)]
    refine ⟨_, encodeFragments_of_valid fun i hi => ?_⟩
    exact frame.fragment_valid hmedia first_sequence_number hpayload hcount (List.mem_range.mp hi)

/-- Every packet that packetizing returns encodes, whatever its type. -/
theorem encode_of_packetized {frame : EncodedFrame} {packet_type : PacketType}
    {first_sequence_number : UInt32} {max_payload : Nat} {packets : List MediaPacket}
    (h : packetizeFrameWithType frame packet_type first_sequence_number max_payload = .ok packets) :
    ∀ packet ∈ packets, ∃ bytes, packet.encode = .ok bytes := by
  unfold packetizeFrameWithType at h
  simp only at h
  split at h
  · cases h
  · split at h
    · cases h
    · split at h
      · cases h
      · obtain ⟨rfl, hencode⟩ := encodeFragments_ok h
        rw [List.forall_mem_map]
        exact hencode

/-! ## Unstamped packets -/

/-- Values that are all the same have it as their largest and as their smallest nonzero one. -/
theorem max?_of_all_eq {l : List UInt64} {a : UInt64} (hne : l ≠ []) (h : ∀ b ∈ l, b = a) :
    l.max? = some a := by
  have hsame : l.max? = [a].max? := by
    refine Sorted.max?_congr fun b => ?_
    rw [List.mem_singleton]
    refine ⟨h b, ?_⟩
    rintro rfl
    obtain ⟨c, hc⟩ := List.exists_mem_of_ne_nil l hne
    exact h c hc ▸ hc
  exact hsame

theorem minimumNonzero_of_all_eq {l : List UInt64} {a : UInt64} (hne : l ≠ [])
    (h : ∀ b ∈ l, b = a) : minimumNonzero l = a := by
  have hsame : minimumNonzero l = minimumNonzero [a] := by
    refine minimumNonzero_congr fun b => ?_
    rw [List.mem_singleton]
    refine ⟨h b, ?_⟩
    rintro rfl
    obtain ⟨c, hc⟩ := List.exists_mem_of_ne_nil l hne
    exact h c hc ▸ hc
  rw [hsame]
  by_cases ha : a = 0
  · rw [ha]
    rfl
  · simp [minimumNonzero, ha]

section Packetized

variable {frame : EncodedFrame} {packet_type : PacketType} {first_sequence_number : UInt32}
  {max_payload : Nat} {packets got : List MediaPacket}

theorem Packetized.get_eq
    (hframe : Packetized frame packet_type first_sequence_number max_payload packets) (i : Nat)
    (hi : i < packets.length) :
    packets.get ⟨i, hi⟩ = frame.fragment packet_type first_sequence_number max_payload
      (frame.fragmentCount max_payload) i := by
  have hget : packets[i]? = ((List.range (frame.fragmentCount max_payload)).map
      (frame.fragment packet_type first_sequence_number max_payload
        (frame.fragmentCount max_payload)))[i]? := by
    rw [← hframe.packets_eq]
  rw [hframe.length_eq] at hi
  rw [List.getElem?_map, List.getElem?_range hi, Option.map_some] at hget
  exact (List.getElem?_eq_some_iff.mp hget).2

/-- The packets themselves, in any order, have arrived. -/
theorem Packetized.arrived_of_perm
    (hframe : Packetized frame packet_type first_sequence_number max_payload packets)
    (hperm : got.Perm packets) : Arrived packets got where
  restamped packet hpacket :=
    ⟨packet, hperm.mem_iff.mp hpacket,
      ⟨packet.header.sender_send_time_micros, packet.header.server_receive_time_micros,
        packet.header.server_send_time_micros⟩, rfl⟩
  distinct := by
    have hcount := hframe.count_le
    have hwidth : u16Max < 2 ^ 16 := by decide
    have hindices : packets.map (fun packet => packet.header.fragment_index)
        = (List.range (frame.fragmentCount max_payload)).map UInt16.ofNat := by
      rw [hframe.packets_eq, List.map_map]
      rfl
    rw [(hperm.map _).nodup_iff, hindices]
    refine List.Nodup.map_on ?_ List.nodup_range
    intro i hi j hj heq
    rw [List.mem_range] at hi hj
    have htoNat := congrArg UInt16.toNat heq
    rw [UInt16.toNat_ofNat', UInt16.toNat_ofNat', Nat.mod_eq_of_lt (by omega),
      Nat.mod_eq_of_lt (by omega)] at htoNat
    exact htoNat
  all := hperm.length_eq

/-- Packets that nobody has stamped carry the frame itself. -/
theorem Packetized.arrived_eq
    (hframe : Packetized frame packet_type first_sequence_number max_payload packets)
    (hperm : got.Perm packets) : frame.arrived got = frame := by
  have hne : got ≠ [] := by
    rintro rfl
    have hlength := hperm.length_eq
    have hpos := hframe.count_pos
    rw [hframe.length_eq, List.length_nil] at hlength
    omega
  have hstamp : ∀ (stamp : MediaPacket → UInt64) (value : UInt64),
      (∀ i, stamp (frame.fragment packet_type first_sequence_number max_payload
        (frame.fragmentCount max_payload) i) = value) →
        got.map stamp ≠ [] ∧ ∀ b ∈ got.map stamp, b = value := by
    intro stamp value hvalue
    refine ⟨fun hnil => hne (List.map_eq_nil_iff.mp hnil), ?_⟩
    intro b hb
    obtain ⟨packet, hpacket, rfl⟩ := List.mem_map.mp hb
    have hin := hperm.mem_iff.mp hpacket
    rw [hframe.packets_eq] at hin
    obtain ⟨i, -, rfl⟩ := List.mem_map.mp hin
    exact hvalue i
  obtain ⟨hsend, hsend'⟩ := hstamp (fun packet => packet.header.sender_send_time_micros) _
    fun _ => rfl
  obtain ⟨hreceive, hreceive'⟩ := hstamp
    (fun packet => packet.header.server_receive_time_micros) _ fun _ => rfl
  obtain ⟨hserver, hserver'⟩ := hstamp (fun packet => packet.header.server_send_time_micros) _
    fun _ => rfl
  rw [EncodedFrame.arrived, max?_of_all_eq hsend hsend', max?_of_all_eq hserver hserver',
    minimumNonzero_of_all_eq hreceive hreceive']
  rfl

end Packetized

/-! ## The round trip -/

/-- `packetize_frame_with_type` cuts every frame that fits its counters, and only these; its
packets are numbered consecutively, respect the payload limit and are flagged as the frame and the
last fragment demand; joined again in any order they are the frame. With a datagram target, no
packet is longer than the target once encoded. -/
theorem packetize_round_trip (frame : EncodedFrame) (packet_type : PacketType)
    (hmedia : packet_type = .video ∨ packet_type = .audio) (first_sequence_number : UInt32)
    (max_payload : Nat) :
    ((∃ packets, packetizeFrameWithType frame packet_type first_sequence_number max_payload
        = .ok packets) ↔
      1 ≤ max_payload ∧ max_payload ≤ 65535 ∧
        max 1 (divCeil frame.bytes.length max_payload) ≤ 65535) ∧
    (∀ packets, packetizeFrameWithType frame packet_type first_sequence_number max_payload
        = .ok packets →
      (∀ (i : Nat) (hi : i < packets.length),
        (packets.get ⟨i, hi⟩).header.sequence_number.toNat
            = (first_sequence_number.toNat + i) % 2 ^ 32 ∧
          (packets.get ⟨i, hi⟩).payload.length ≤ max_payload ∧
          (packets.get ⟨i, hi⟩).header.flags.contains PacketFlags.keyframe = frame.is_keyframe ∧
          ((packets.get ⟨i, hi⟩).header.flags.contains PacketFlags.endOfFrame = true ↔
            i + 1 = packets.length)) ∧
      ∀ got : List MediaPacket, got.Perm packets → reassembleFrame got = .ok frame) ∧
    ∀ (kind : PacketType) (max_datagram_payload : Nat), 81 < max_datagram_payload →
      max_datagram_payload - 81 ≤ 65535 → ∀ packets,
        packetizeFrameWithTypeForDatagramTarget frame kind first_sequence_number
            max_datagram_payload = .ok packets →
          ∀ packet ∈ packets, ∃ bytes, packet.encode = .ok bytes ∧
            bytes.length ≤ max_datagram_payload := by
  have hprobe : packet_type ≠ .probe := by
    rintro rfl
    rcases hmedia with h | h <;> cases h
  refine ⟨?_, ?_, ?_⟩
  · -- when packets are made
    rw [packetizeFrameWithType_ok_iff frame hprobe, EncodedFrame.fragmentCount, Nat.max_comm]
    rfl
  · intro packets hok
    -- what they look like, one by one
    have hframe := packetized_of_ok hok
    refine ⟨fun i hi => ?_, fun got hperm => ?_⟩
    · rw [hframe.get_eq i hi]
      refine ⟨?_, frame.length_fragmentPayload_le max_payload i,
        EncodedFrame.fragmentFlags_keyframe frame _ _, ?_⟩
      · show (first_sequence_number + UInt32.ofNat i).toNat = _
        rw [UInt32.toNat_add, UInt32.toNat_ofNat', Nat.add_mod_mod]
      · show (frame.fragmentFlags i (frame.fragmentCount max_payload)).contains _ = true ↔ _
        rw [EncodedFrame.fragmentFlags_endOfFrame, decide_eq_true_iff, hframe.length_eq]
    · -- joined again, in any order
      rw [reassembleFrame_of_fragments hframe hprobe (hframe.arrived_of_perm hperm),
        hframe.arrived_eq hperm]
  · intro kind max_datagram_payload hlarge _ packets hok packet hpacket
    -- the target leaves room for the header
    unfold packetizeFrameWithTypeForDatagramTarget at hok
    have hheader : mediaPacketHeaderLen = 81 := rfl
    rw [if_neg (by omega)] at hok
    have hframe := packetized_of_ok hok
    obtain ⟨bytes, hbytes⟩ := encode_of_packetized hok packet hpacket
    have hwritten : bytes = packet.header.encode ++ packet.payload := (encode_ok_iff.mp hbytes).2
    refine ⟨bytes, hbytes, ?_⟩
    rw [hwritten]
    clear hbytes hwritten
    rw [hframe.packets_eq] at hpacket
    obtain ⟨i, -, rfl⟩ := List.mem_map.mp hpacket
    have hpayload := frame.length_fragmentPayload_le (max_datagram_payload - mediaPacketHeaderLen) i
    rw [List.length_append, length_encode]
    show mediaPacketHeaderLen + (frame.fragmentPayload _ i).length ≤ _
    omega

/-- A short frame, cut into packets of two bytes from the last sequence number on, and joined in
reverse. -/
theorem packetize_round_trip_short :
    ∃ packets : List MediaPacket,
      packetizeFrameWithType shortFrame .video 0xFFFFFFFF 2 = .ok packets ∧
        packets.length = 3 ∧ reassembleFrame packets.reverse = .ok shortFrame := by
  have htrip := packetize_round_trip shortFrame .video (.inl rfl) 0xFFFFFFFF 2
  obtain ⟨packets, hpackets⟩ := htrip.1.mpr (by decide)
  have hlength : (packetizeFrameWithType shortFrame .video 0xFFFFFFFF 2).map List.length
      = .ok 3 := by decide +kernel
  rw [hpackets] at hlength
  exact ⟨packets, hpackets, Except.ok.inj hlength,
    (htrip.2.1 packets hpackets).2 _ packets.reverse_perm⟩

end TeamView.Protocol
