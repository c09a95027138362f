import TeamView.Protocol.Packet

set_option autoImplicit false

/-! # The media packet codec

The two sides of the wire format against each other: what `encode` writes and what `decode` reads
are the same nineteen numbers, so that each packet that can be encoded is decoded again, and the
datagrams that `decode` accepts are told by their bytes alone.
-/

namespace TeamView.Protocol

open Bytes MachineInt

/-! ## The fields on the wire -/

/-- The widths of the fields of a header. -/
def headerWidths : List Nat := [1, 1, 1, 2, 4, 4, 4, 2, 2, 8, 8, 8, 8, 8, 8, 8, 1, 1, 2]

/-- The numbers in the fields of a header, as they are sent. -/
def MediaPacketHeader.fields (header : MediaPacketHeader) : List Nat :=
  [header.version.toNat, header.packet_type.toByte.toNat, header.flags.toNat,
    mediaPacketHeaderLen, header.room_stream_id.toNat, header.sequence_number.toNat,
    header.frame_id.toNat, header.fragment_index.toNat, header.fragment_count.toNat,
    header.media_timestamp.toNat, header.sender_capture_time_micros.toNat,
    header.sender_clock_offset_micros.toUInt64.toNat,
    header.sender_encode_done_time_micros.toNat, header.sender_send_time_micros.toNat,
    header.server_receive_time_micros.toNat, header.server_send_time_micros.toNat,
    header.codec.toByte.toNat, header.layer.toNat, header.payload_length.toNat]

/-- The header that the bytes of a datagram describe. -/
def headerAt (src : List UInt8) (packet_type : PacketType) (codec : CodecId) :
    MediaPacketHeader where
  version := UInt8.ofNat (beAt src 0 1)
  packet_type := packet_type
  flags := UInt8.ofNat (beAt src 2 1)
  room_stream_id := UInt32.ofNat (beAt src 5 4)
  sequence_number := UInt32.ofNat (beAt src 9 4)
  frame_id := UInt32.ofNat (beAt src 13 4)
  fragment_index := UInt16.ofNat (beAt src 17 2)
  fragment_count := UInt16.ofNat (beAt src 19 2)
  media_timestamp := UInt64.ofNat (beAt src 21 8)
  sender_capture_time_micros := UInt64.ofNat (beAt src 29 8)
  sender_clock_offset_micros := (UInt64.ofNat (beAt src 37 8)).toInt64
  sender_encode_done_time_micros := UInt64.ofNat (beAt src 45 8)
  sender_send_time_micros := UInt64.ofNat (beAt src 53 8)
  server_receive_time_micros := UInt64.ofNat (beAt src 61 8)
  server_send_time_micros := UInt64.ofNat (beAt src 69 8)
  codec := codec
  layer := UInt8.ofNat (beAt src 78 1)
  payload_length := UInt16.ofNat (beAt src 79 2)

theorem encode_eq_putBeInts (header : MediaPacketHeader) :
    header.encode = putBeInts headerWidths header.fields := by
  delta MediaPacketHeader.encode
  simp only [MediaPacketHeader.fields, headerWidths, putBeInts, List.append_assoc,
    List.append_nil]

theorem length_encode (header : MediaPacketHeader) :
    header.encode.length = mediaPacketHeaderLen := by
  delta MediaPacketHeader.encode
  simp only [List.length_append, beBytes_length, mediaPacketHeaderLen]

/-- Every field of a header fits its width. -/
theorem fields_fit (header : MediaPacketHeader) :
    List.Forall₂ (fun n v => v < 256 ^ n) headerWidths header.fields := by
  have h8 : ∀ value : UInt8, value.toNat < 256 ^ 1 := fun value => value.toNat_lt
  have h16 : ∀ value : UInt16, value.toNat < 256 ^ 2 := fun value => value.toNat_lt
  have h32 : ∀ value : UInt32, value.toNat < 256 ^ 4 := fun value => value.toNat_lt
  have h64 : ∀ value : UInt64, value.toNat < 256 ^ 8 := fun value => value.toNat_lt
  have hlen : mediaPacketHeaderLen < 256 ^ 2 := by decide
  exact .cons (h8 _) <| .cons (h8 _) <| .cons (h8 _) <| .cons hlen <|
    .cons (h32 _) <| .cons (h32 _) <| .cons (h32 _) <| .cons (h16 _) <| .cons (h16 _) <|
    .cons (h64 _) <| .cons (h64 _) <| .cons (h64 _) <| .cons (h64 _) <| .cons (h64 _) <|
    .cons (h64 _) <| .cons (h64 _) <| .cons (h8 _) <| .cons (h8 _) <| .cons (h16 _) .nil

/-- The fields of the header in front of a payload. -/
theorem beFields_encode (header : MediaPacketHeader) (rest : List UInt8) :
    beFields headerWidths 0 (header.encode ++ rest) = header.fields := by
  have hfront : ([] : List UInt8).length = 0 := rfl
  have h := beFields_putBeInts (fields_fit header) hfront rest
  rw [encode_eq_putBeInts]
  exact h

/-! ## Reading a header -/

/-- What `decode` makes of a datagram that is long enough, by the numbers at their offsets. -/
theorem decode_header_eq {src : List UInt8} (hlen : mediaPacketHeaderLen ≤ src.length) :
    MediaPacketHeader.decode src =
      if beAt src 0 1 ≠ protocolVersion then
        some (.error (.unsupportedVersion (UInt8.ofNat (beAt src 0 1))))
      else
        match PacketType.tryFrom (UInt8.ofNat (beAt src 1 1)) with
        | .error error => some (.error error)
        | .ok packet_type =>
            if beAt src 3 2 < mediaPacketHeaderLen then
              some (.error (.unsupportedHeaderLength (beAt src 3 2)))
            else if src.length < beAt src 3 2 then
              some (.error (.tooShort (beAt src 3 2) src.length))
            else
              match CodecId.tryFrom (UInt8.ofNat (beAt src 77 1)) with
              | .error error => some (.error error)
              | .ok codec =>
                  match (headerAt src packet_type codec).validate with
                  | .error error => some (.error error)
                  | .ok _ => some (.ok ⟨headerAt src packet_type codec, beAt src 3 2⟩) := by
  have hlen' : 81 ≤ src.length := hlen
  have hread : ∀ widths offset, offset + widths.sum ≤ 81 → getBeInts widths (src.drop offset)
      = some (beFields widths offset src, src.drop (offset + widths.sum)) :=
    fun widths offset hin => getBeInts_eq (by omega)
  have hversion : getBeInts [1] src = some ([beAt src 0 1], src.drop 1) :=
    hread [1] 0 (by decide)
  have htype : getBeInts [1] (src.drop 1) = some ([beAt src 1 1], src.drop 2) :=
    hread [1] 1 (by decide)
  have hflags : getBeInts [1, 2] (src.drop 2) = some ([beAt src 2 1, beAt src 3 2], src.drop 5) :=
    hread [1, 2] 2 (by decide)
  have hfields := hread [4, 4, 4, 2, 2, 8, 8, 8, 8, 8, 8, 8, 1] 5 (by decide)
  have hlast : getBeInts [1, 2] (src.drop 78)
      = some ([beAt src 78 1, beAt src 79 2], src.drop 81) := hread [1, 2] 78 (by decide)
  simp only [beFields, List.sum_cons, List.sum_nil, Nat.reduceAdd] at hfields
  unfold MediaPacketHeader.decode MediaPacketHeader.decodeFields
  rw [if_neg (by omega)]
  simp only [hversion, htype, hflags, hfields, hlast]
  rfl

/-! ## The datagrams that are accepted -/

/-- The rules of the header: what `validate` asks for. -/
structure MediaPacketHeader.Valid (header : MediaPacketHeader) : Prop where
  fragment : header.fragment_index < header.fragment_count
  layer : header.layer = 0
  probe : header.packet_type = .probe → header.codec = .h264

theorem validate_iff (header : MediaPacketHeader) :
    header.validate = .ok () ↔ header.Valid := by
  unfold MediaPacketHeader.validate
  constructor
  · intro h
    split at h
    · cases h
    · split at h
      · cases h
      · next hindex =>
          split at h
          · cases h
          · next hlayer =>
              split at h
              · cases h
              · next hprobe =>
                  refine ⟨UInt16.not_le.mp hindex, not_not.mp hlayer, fun htype => ?_⟩
                  by_contra hcodec
                  exact hprobe ⟨htype, hcodec⟩
  · rintro ⟨hfragment, hlayer, hprobe⟩
    have hcount : header.fragment_count ≠ 0 := by
      intro hzero
      rw [hzero] at hfragment
      exact absurd hfragment (UInt16.not_lt.mpr (UInt16.zero_le))
    rw [if_neg hcount, if_neg (UInt16.not_le.mpr hfragment), if_neg (not_not.mpr hlayer),
      if_neg fun h => h.2 (hprobe h.1)]

/-- What `encode` asks of a packet. -/
structure MediaPacket.Valid (packet : MediaPacket) : Prop where
  header : packet.header.Valid
  payload_length : packet.header.payload_length.toNat = packet.payload.length

/-- A datagram that `decode` accepts, by its bytes: supported version, known packet type and codec,
a header at least as long as ours, the rules of the header, and nothing missing or left over. -/
structure Accepted (src : List UInt8) : Prop where
  version : beAt src 0 1 = protocolVersion
  packet_type : beAt src 1 1 ∈ [1, 2, 3]
  codec : beAt src 77 1 ∈ [1, 2, 3, 16]
  header_length : mediaPacketHeaderLen ≤ beAt src 3 2
  fragment : beAt src 17 2 < beAt src 19 2
  layer : beAt src 78 1 = 0
  probe : beAt src 1 1 = 3 → beAt src 77 1 = 1
  length : src.length = beAt src 3 2 + beAt src 79 2

/-- The packet that the bytes of a datagram describe. -/
structure Reads (src : List UInt8) (packet : MediaPacket) : Prop where
  version : beAt src 0 1 = protocolVersion
  packet_type : beAt src 1 1 = packet.header.packet_type.toByte.toNat
  codec : beAt src 77 1 = packet.header.codec.toByte.toNat
  header_length : mediaPacketHeaderLen ≤ beAt src 3 2
  header : packet.header = headerAt src packet.header.packet_type packet.header.codec
  valid : packet.header.Valid
  length : src.length = beAt src 3 2 + packet.header.payload_length.toNat
  payload : packet.payload = src.drop (beAt src 3 2)

theorem PacketType.tryFrom_eq_ok {value : UInt8} {packet_type : PacketType} :
    PacketType.tryFrom value = .ok packet_type ↔ value = packet_type.toByte := by
  constructor
  · intro h
    unfold PacketType.tryFrom at h
    split at h
    · cases h; assumption
    · split at h
      · cases h; assumption
      · split at h
        · cases h; assumption
        · cases h
  · rintro rfl
    cases packet_type <;> rfl

theorem CodecId.tryFrom_eq_ok {value : UInt8} {codec : CodecId} :
    CodecId.tryFrom value = .ok codec ↔ value = codec.toByte := by
  constructor
  · intro h
    unfold CodecId.tryFrom at h
    split at h
    · cases h; assumption
    · split at h
      · cases h; assumption
      · split at h
        · cases h; assumption
        · split at h
          · cases h; assumption
          · cases h
  · rintro rfl
    cases codec <;> rfl

/-- A byte of the datagram, as the type of the source has it. -/
theorem byteAt_eq_iff (src : List UInt8) (offset : Nat) (value : UInt8) :
    UInt8.ofNat (beAt src offset 1) = value ↔ beAt src offset 1 = value.toNat := by
  have hlt : beAt src offset 1 < 256 := beAt_lt src offset 1
  rw [← UInt8.toNat_inj, UInt8.toNat_ofNat', Nat.mod_eq_of_lt hlt]

/-- Decoding never reads past the end. -/
theorem decode_ne_none (src : List UInt8) : MediaPacket.decode src ≠ none := by
  have hheader : MediaPacketHeader.decode src ≠ none := by
    by_cases hlen : mediaPacketHeaderLen ≤ src.length
    · rw [decode_header_eq hlen]
      repeat' split
      all_goals exact Option.some_ne_none _
    · rw [MediaPacketHeader.decode, if_pos (by omega)]
      exact Option.some_ne_none _
  unfold MediaPacket.decode
  split
  · next hnone => exact absurd hnone hheader
  · exact Option.some_ne_none _
  · simp only
    repeat' split
    all_goals exact Option.some_ne_none _

theorem decode_header_ok_iff {src : List UInt8} {decoded : DecodedMediaPacketHeader} :
    MediaPacketHeader.decode src = some (.ok decoded) ↔
      mediaPacketHeaderLen ≤ beAt src 3 2 ∧ beAt src 3 2 ≤ src.length ∧
      beAt src 0 1 = protocolVersion ∧
      beAt src 1 1 = decoded.header.packet_type.toByte.toNat ∧
      beAt src 77 1 = decoded.header.codec.toByte.toNat ∧
      decoded.header = headerAt src decoded.header.packet_type decoded.header.codec ∧
      decoded.header.Valid ∧ decoded.payload_offset = beAt src 3 2 := by
  constructor
  · intro h
    have hlen : mediaPacketHeaderLen ≤ src.length := by
      by_contra hshort
      rw [MediaPacketHeader.decode, if_pos (by omega)] at h
      cases h
    rw [decode_header_eq hlen] at h
    -- the branches of the source, in its order
    by_cases hversion : beAt src 0 1 = protocolVersion
    · rw [if_neg (not_not.mpr hversion)] at h
      cases htype : PacketType.tryFrom (UInt8.ofNat (beAt src 1 1)) with
      | error error =>
          rw [htype] at h
          cases h
      | ok packet_type =>
          rw [htype] at h
          simp only at h
          split at h
          · cases h
          · next hheader =>
              split at h
              · cases h
              · next hlong =>
                  cases hcodec : CodecId.tryFrom (UInt8.ofNat (beAt src 77 1)) with
                  | error error =>
                      rw [hcodec] at h
                      cases h
                  | ok codec =>
                      rw [hcodec] at h
                      simp only at h
                      split at h
                      · cases h
                      · next hvalid =>
                          rw [PacketType.tryFrom_eq_ok, byteAt_eq_iff] at htype
                          rw [CodecId.tryFrom_eq_ok, byteAt_eq_iff] at hcodec
                          cases h
                          exact ⟨by omega, by omega, hversion, htype, hcodec, rfl,
                            (validate_iff _).mp hvalid, rfl⟩
    · rw [if_pos hversion] at h
      cases h
  · rintro ⟨hheader, hlong, hversion, htype, hcodec, heq, hvalid, hoffset⟩
    -- the same branches, each taken as the conditions say
    rw [← byteAt_eq_iff, ← PacketType.tryFrom_eq_ok] at htype
    rw [← byteAt_eq_iff, ← CodecId.tryFrom_eq_ok] at hcodec
    rw [← validate_iff, heq] at hvalid
    rw [decode_header_eq (by omega), if_neg (not_not.mpr hversion), htype]
    simp only
    rw [if_neg (by omega), if_neg (by omega), hcodec]
    simp only
    rw [hvalid]
    cases decoded
    exact congrArg (fun decoded => some (Except.ok decoded))
      (congrArg₂ DecodedMediaPacketHeader.mk heq.symm hoffset.symm)

/-- `decode` accepts a datagram as the packet that its bytes describe. -/
theorem decode_ok_iff {src : List UInt8} {packet : MediaPacket} :
    MediaPacket.decode src = some (.ok packet) ↔ Reads src packet := by
  constructor
  · intro h
    unfold MediaPacket.decode at h
    split at h
    · cases h
    · cases h
    · next decoded hheader =>
        obtain ⟨hlen, -, hversion, htype, hcodec, heq, hvalid, hoffset⟩ :=
          decode_header_ok_iff.mp hheader
        simp only at h
        split at h
        · cases h
        · split at h
          · cases h
          · next hshort hlong =>
              cases h
              have hlength : src.length
                  = beAt src 3 2 + decoded.header.payload_length.toNat := by omega
              refine ⟨hversion, htype, hcodec, hlen, heq, hvalid, hlength, ?_⟩
              show (src.drop decoded.payload_offset).take _ = _
              rw [hoffset]
              refine List.take_of_length_le ?_
              rw [List.length_drop]
              omega
  · rintro ⟨hversion, htype, hcodec, hlen, heq, hvalid, hlength, hpayload⟩
    have hheader : MediaPacketHeader.decode src = some (.ok ⟨packet.header, beAt src 3 2⟩) :=
      decode_header_ok_iff.mpr ⟨hlen, by omega, hversion, htype, hcodec, heq, hvalid, rfl⟩
    have hwhole : (src.drop (beAt src 3 2)).take
        (beAt src 3 2 + packet.header.payload_length.toNat - beAt src 3 2) = packet.payload := by
      rw [hpayload]
      refine List.take_of_length_le ?_
      rw [List.length_drop]
      omega
    unfold MediaPacket.decode
    rw [hheader]
    simp only
    rw [if_neg (by omega), if_neg (by omega), hwhole]

/-! ## Round trips -/

theorem encode_ok_iff {packet : MediaPacket} {bytes : List UInt8} :
    packet.encode = .ok bytes
      ↔ packet.Valid ∧ bytes = packet.header.encode ++ packet.payload := by
  have hmax : packet.header.payload_length.toNat < 65536 := packet.header.payload_length.toNat_lt
  have hwide : u16Max = 65535 := rfl
  unfold MediaPacket.encode
  constructor
  · intro h
    split at h
    · cases h
    · split at h
      · cases h
      · next hlength =>
          split at h
          · cases h
          · next hvalid =>
              have hbytes := Except.ok.inj h
              exact ⟨⟨(validate_iff _).mp hvalid, not_not.mp hlength⟩, hbytes.symm⟩
  · rintro ⟨⟨hheader, hlength⟩, hbytes⟩
    rw [if_neg (by omega), if_neg (not_not.mpr hlength), (validate_iff _).mpr hheader, hbytes]

/-- The bytes of a packet read as this packet. -/
theorem reads_encode {packet : MediaPacket} (hvalid : packet.Valid)
    (hversion : packet.header.version.toNat = protocolVersion) :
    Reads (packet.header.encode ++ packet.payload) packet := by
  have hfields := beFields_encode packet.header packet.payload
  have hlength : (packet.header.encode ++ packet.payload).length
      = mediaPacketHeaderLen + packet.payload.length := by
    rw [List.length_append, length_encode]
  have hdrop : (packet.header.encode ++ packet.payload).drop mediaPacketHeaderLen
      = packet.payload := List.drop_left' (length_encode packet.header)
  generalize packet.header.encode ++ packet.payload = src at *
  simp only [headerWidths, beFields, MediaPacketHeader.fields, Nat.reduceAdd, List.cons.injEq,
    and_true] at hfields
  obtain ⟨h0, h1, h2, h3, h5, h9, h13, h17, h19, h21, h29, h37, h45, h53, h61, h69, h77, h78,
    h79⟩ := hfields
  have hown : headerAt src packet.header.packet_type packet.header.codec = packet.header := by
    unfold headerAt
    simp only [h0, h2, h5, h9, h13, h17, h19, h21, h29, h37, h45, h53, h61, h69, h78, h79,
      UInt8.ofNat_toNat, UInt16.ofNat_toNat, UInt32.ofNat_toNat, UInt64.ofNat_toNat,
      Int64.toInt64_toUInt64]
  exact
    { version := by rw [h0, hversion]
      packet_type := h1
      codec := h77
      header_length := by rw [h3]
      header := hown.symm
      valid := hvalid.header
      length := by rw [hlength, h3, hvalid.payload_length]
      payload := by rw [h3, hdrop] }

/-- The bytes of a datagram whose header is no longer than ours. -/
theorem eq_encode_of_reads {src : List UInt8} {packet : MediaPacket} (h : Reads src packet)
    (hlen : beAt src 3 2 = mediaPacketHeaderLen) :
    src = packet.header.encode ++ packet.payload := by
  have hlength := h.length
  have hwidths : headerWidths.sum = mediaPacketHeaderLen := rfl
  have hin : 0 + headerWidths.sum ≤ src.length := by omega
  have hput := putBeInts_beFields hin
  have hfields : beFields headerWidths 0 src = packet.header.fields := by
    have hu8 : ∀ offset, (UInt8.ofNat (beAt src offset 1)).toNat = beAt src offset 1 :=
      fun offset => UInt8.toNat_ofNat_of_lt' (beAt_lt src offset 1)
    have hu16 : ∀ offset, (UInt16.ofNat (beAt src offset 2)).toNat = beAt src offset 2 :=
      fun offset => UInt16.toNat_ofNat_of_lt' (beAt_lt src offset 2)
    have hu32 : ∀ offset, (UInt32.ofNat (beAt src offset 4)).toNat = beAt src offset 4 :=
      fun offset => UInt32.toNat_ofNat_of_lt' (beAt_lt src offset 4)
    have hu64 : ∀ offset, (UInt64.ofNat (beAt src offset 8)).toNat = beAt src offset 8 :=
      fun offset => UInt64.toNat_ofNat_of_lt' (beAt_lt src offset 8)
    rw [h.header]
    simp only [headerWidths, beFields, MediaPacketHeader.fields, headerAt, Nat.reduceAdd,
      UInt64.toUInt64_toInt64, hu8, hu16, hu32, hu64, hlen, h.packet_type, h.codec]
  rw [hfields, ← encode_eq_putBeInts, List.drop_zero, hwidths] at hput
  rw [hput, h.payload, hlen, List.take_append_drop]

theorem valid_of_reads {src : List UInt8} {packet : MediaPacket} (h : Reads src packet) :
    packet.Valid ∧ packet.header.version.toNat = protocolVersion := by
  constructor
  · refine ⟨h.valid, ?_⟩
    have hlength := h.length
    rw [h.payload, List.length_drop]
    omega
  · have hversion : packet.header.version = UInt8.ofNat (beAt src 0 1) := by
      rw [h.header]
      rfl
    rw [hversion, h.version]
    rfl

/-- The bytes alone tell whether a datagram is accepted. -/
theorem accepted_iff_reads (src : List UInt8) : Accepted src ↔ ∃ packet, Reads src packet := by
  have hu8 : ∀ offset, (UInt8.ofNat (beAt src offset 1)).toNat = beAt src offset 1 :=
    fun offset => UInt8.toNat_ofNat_of_lt' (beAt_lt src offset 1)
  have hu16 : ∀ offset, (UInt16.ofNat (beAt src offset 2)).toNat = beAt src offset 2 :=
    fun offset => UInt16.toNat_ofNat_of_lt' (beAt_lt src offset 2)
  constructor
  · intro h
    -- the accepted bytes name a packet type and a codec
    obtain ⟨packet_type, htype⟩ : ∃ packet_type : PacketType,
        beAt src 1 1 = packet_type.toByte.toNat := by
      have hmem := h.packet_type
      simp only [List.mem_cons, List.not_mem_nil, or_false] at hmem
      rcases hmem with heq | heq | heq
      · exact ⟨.video, heq⟩
      · exact ⟨.audio, heq⟩
      · exact ⟨.probe, heq⟩
    obtain ⟨codec, hcodec⟩ : ∃ codec : CodecId, beAt src 77 1 = codec.toByte.toNat := by
      have hmem := h.codec
      simp only [List.mem_cons, List.not_mem_nil, or_false] at hmem
      rcases hmem with heq | heq | heq | heq
      · exact ⟨.h264, heq⟩
      · exact ⟨.av1, heq⟩
      · exact ⟨.hevc, heq⟩
      · exact ⟨.opus, heq⟩
    -- the checks of `validate`, field by field
    have hvalid : (headerAt src packet_type codec).Valid := by
      refine ⟨?_, ?_, ?_⟩
      · show UInt16.ofNat (beAt src 17 2) < UInt16.ofNat (beAt src 19 2)
        rw [UInt16.lt_iff_toNat_lt, hu16, hu16]
        exact h.fragment
      · show UInt8.ofNat (beAt src 78 1) = 0
        rw [h.layer]
        rfl
      · intro hprobe
        have hprobe : packet_type = .probe := hprobe
        have hthree : beAt src 1 1 = 3 := by
          rw [htype, hprobe]
          rfl
        have hone := h.probe hthree
        rw [hcodec] at hone
        show codec = .h264
        cases codec with
        | h264 => rfl
        | av1 => cases hone
        | hevc => cases hone
        | opus => cases hone
    refine ⟨⟨headerAt src packet_type codec, src.drop (beAt src 3 2)⟩, ?_⟩
    refine ⟨h.version, htype, hcodec, h.header_length, rfl, hvalid, ?_, rfl⟩
    show src.length = beAt src 3 2 + (UInt16.ofNat (beAt src 79 2)).toNat
    rw [hu16, h.length]
  · rintro ⟨packet, h⟩
    -- a packet that is read satisfies the checks, and its fields are the bytes
    have hvalid := h.valid
    have hlength := h.length
    rw [h.header] at hvalid hlength
    obtain ⟨hfragment, hlayer, hprobe⟩ := hvalid
    have hfragment : UInt16.ofNat (beAt src 17 2) < UInt16.ofNat (beAt src 19 2) := hfragment
    rw [UInt16.lt_iff_toNat_lt, hu16, hu16] at hfragment
    refine ⟨h.version, ?_, ?_, h.header_length, hfragment, ?_, ?_, ?_⟩
    · rw [h.packet_type]
      cases packet.header.packet_type <;> decide
    · rw [h.codec]
      cases packet.header.codec <;> decide
    · exact (byteAt_eq_iff src 78 0).mp hlayer
    · intro hthree
      have htype : packet.header.packet_type = .probe := by
        rw [h.packet_type] at hthree
        cases hcase : packet.header.packet_type <;> rw [hcase] at hthree <;>
          first | rfl | cases hthree
      have hh264 : packet.header.codec = .h264 := hprobe htype
      rw [h.codec, hh264]
      rfl
    · rw [hlength]
      exact congrArg _ (hu16 79)

/-- Bytes of an extension of the header are ignored. -/
theorem reads_of_extension {src src' : List UInt8} {packet : MediaPacket} (h : Reads src packet)
    (hlength : src'.length = src.length)
    (hfront : src'.take mediaPacketHeaderLen = src.take mediaPacketHeaderLen)
    (hback : src'.drop (beAt src 3 2) = src.drop (beAt src 3 2)) : Reads src' packet := by
  have hat : ∀ offset n, offset + n ≤ mediaPacketHeaderLen →
      beAt src' offset n = beAt src offset n := by
    intro offset n hin
    have htake : ∀ bytes : List UInt8, (bytes.drop offset).take n
        = ((bytes.take mediaPacketHeaderLen).drop offset).take n := by
      intro bytes
      rw [List.drop_take, List.take_take]
      congr 1
      omega
    rw [beAt, beAt, htake src', htake src, hfront]
  have hheader : ∀ packet_type codec, headerAt src' packet_type codec
      = headerAt src packet_type codec := by
    intro packet_type codec
    unfold headerAt
    simp (disch := decide) only [hat]
  have hlen : beAt src' 3 2 = beAt src 3 2 := hat 3 2 (by decide)
  exact
    { version := (hat 0 1 (by decide)).trans h.version
      packet_type := (hat 1 1 (by decide)).trans h.packet_type
      codec := (hat 77 1 (by decide)).trans h.codec
      header_length := by rw [hlen]; exact h.header_length
      header := by rw [hheader]; exact h.header
      valid := h.valid
      length := by rw [hlength, hlen]; exact h.length
      payload := by rw [hlen, hback]; exact h.payload }

/-- The codec: what can be encoded and is then decoded again, which bytes are accepted, and that
accepted bytes are encoded again, to the same bytes when there is no extension of the header. -/
theorem codec_roundTrip :
    (∀ packet : MediaPacket, packet.header.version.toNat = protocolVersion →
      ((∃ bytes, packet.encode = .ok bytes) ↔
        packet.header.payload_length.toNat = packet.payload.length ∧
        packet.payload.length ≤ u16Max ∧
        packet.header.fragment_index < packet.header.fragment_count ∧ packet.header.layer = 0 ∧
        (packet.header.packet_type = .probe → packet.header.codec = .h264)) ∧
      ∀ bytes, packet.encode = .ok bytes → MediaPacket.decode bytes = some (.ok packet)) ∧
    (∀ src : List UInt8, MediaPacket.decode src ≠ none ∧
      ((∃ packet, MediaPacket.decode src = some (.ok packet)) ↔ Accepted src) ∧
      (∀ src' : List UInt8, src'.length = src.length →
        src'.take mediaPacketHeaderLen = src.take mediaPacketHeaderLen →
        src'.drop (beAt src 3 2) = src.drop (beAt src 3 2) → Accepted src →
        MediaPacket.decode src' = MediaPacket.decode src) ∧
      ∀ packet, MediaPacket.decode src = some (.ok packet) →
        src.length = beAt src 3 2 + packet.payload.length ∧
        ∃ bytes, packet.encode = .ok bytes ∧ MediaPacket.decode bytes = some (.ok packet) ∧
          (beAt src 3 2 = mediaPacketHeaderLen → bytes = src)) := by
  have hround : ∀ packet : MediaPacket, packet.header.version.toNat = protocolVersion →
      ∀ bytes, packet.encode = .ok bytes → MediaPacket.decode bytes = some (.ok packet) := by
    intro packet hversion bytes h
    obtain ⟨hvalid, hbytes⟩ := encode_ok_iff.mp h
    rw [hbytes]
    exact decode_ok_iff.mpr (reads_encode hvalid hversion)
  refine ⟨fun packet hversion => ⟨?_, hround packet hversion⟩,
    fun src => ⟨decode_ne_none src, ?_, ?_, ?_⟩⟩
  · constructor
    · rintro ⟨bytes, h⟩
      obtain ⟨⟨⟨hfragment, hlayer, hprobe⟩, hlength⟩, -⟩ := encode_ok_iff.mp h
      -- a length of two bytes is at most the largest one
      have hmax : packet.header.payload_length.toNat < 65536 :=
        packet.header.payload_length.toNat_lt
      have hwide : u16Max = 65535 := rfl
      exact ⟨hlength, by omega, hfragment, hlayer, hprobe⟩
    · rintro ⟨hlength, -, hfragment, hlayer, hprobe⟩
      exact ⟨_, encode_ok_iff.mpr ⟨⟨⟨hfragment, hlayer, hprobe⟩, hlength⟩, rfl⟩⟩
  · rw [accepted_iff_reads]
    exact exists_congr fun packet => decode_ok_iff
  · intro src' hlength hfront hback haccepted
    obtain ⟨packet, hreads⟩ := (accepted_iff_reads src).mp haccepted
    rw [decode_ok_iff.mpr hreads]
    exact decode_ok_iff.mpr (reads_of_extension hreads hlength hfront hback)
  · intro packet h
    have hreads := decode_ok_iff.mp h
    obtain ⟨hvalid, hversion⟩ := valid_of_reads hreads
    have hencode : packet.encode = .ok (packet.header.encode ++ packet.payload) :=
      encode_ok_iff.mpr ⟨hvalid, rfl⟩
    have hlength := hreads.length
    rw [hvalid.payload_length] at hlength
    refine ⟨hlength, _, hencode, hround packet hversion _ hencode, fun hlen => ?_⟩
    exact (eq_encode_of_reads hreads hlen).symm

end TeamView.Protocol
