import TeamView.Lib.Sorted
import TeamView.Protocol.Packet

set_option autoImplicit false

/-! # Frames and their fragments

`packetize_frame_with_type` cuts an encoded frame into packets, and `reassemble_frame` joins the
packets of a frame again (`crates/protocol/src/frame.rs`). On the way the sender and the server
overwrite three of the time stamps of a packet (`MediaPacket.restamp`).
-/

namespace TeamView.Protocol

open MachineInt

structure EncodedFrame where
  room_stream_id : UInt32
  frame_id : UInt32
  media_timestamp : UInt64
  sender_capture_time_micros : UInt64
  sender_clock_offset_micros : Int64
  sender_encode_done_time_micros : UInt64
  sender_send_time_micros : UInt64
  server_receive_time_micros : UInt64
  server_send_time_micros : UInt64
  codec : CodecId
  is_keyframe : Bool
  bytes : List UInt8
  deriving DecidableEq

/-! ## Packetizing -/

inductive FramePacketizeError where
  | zeroMaxPayload
  | payloadTooLarge (max_payload : Nat)
  | datagramTooSmall
  | tooManyFragments (fragment_count : Nat)
  | packetEncode (error : PacketEncodeError)
  deriving DecidableEq

namespace EncodedFrame

def fragmentCount (frame : EncodedFrame) (max_payload : Nat) : Nat :=
  max (divCeil frame.bytes.length max_payload) 1

/-- The bytes from `start` to `stop` that fragment `fragment_index` carries. -/
def fragmentPayload (frame : EncodedFrame) (max_payload fragment_index : Nat) : List UInt8 :=
  let start := fragment_index * max_payload
  let stop := min ((fragment_index + 1) * max_payload) frame.bytes.length
  if start = stop then [] else (frame.bytes.drop start).take (stop - start)

def fragmentFlags (frame : EncodedFrame) (fragment_index fragment_count : Nat) : PacketFlags :=
  let flags := if frame.is_keyframe then PacketFlags.withFlag 0 PacketFlags.keyframe else 0
  if fragment_index + 1 = fragment_count then flags.withFlag PacketFlags.endOfFrame else flags

/-- The packet that one turn of the loop of `packetize_frame_with_type` builds. -/
def fragment (frame : EncodedFrame) (packet_type : PacketType) (first_sequence_number : UInt32)
    (max_payload fragment_count fragment_index : Nat) : MediaPacket where
  header :=
    { MediaPacketHeader.new packet_type frame.codec frame.room_stream_id
        (first_sequence_number + UInt32.ofNat fragment_index)
        (UInt16.ofNat (frame.fragmentPayload max_payload fragment_index).length) with
      flags := frame.fragmentFlags fragment_index fragment_count
      frame_id := frame.frame_id
      fragment_index := UInt16.ofNat fragment_index
      fragment_count := UInt16.ofNat fragment_count
      media_timestamp := frame.media_timestamp
      sender_capture_time_micros := frame.sender_capture_time_micros
      sender_clock_offset_micros := frame.sender_clock_offset_micros
      sender_encode_done_time_micros := frame.sender_encode_done_time_micros
      sender_send_time_micros := frame.sender_send_time_micros
      server_receive_time_micros := frame.server_receive_time_micros
      server_send_time_micros := frame.server_send_time_micros }
  payload := frame.fragmentPayload max_payload fragment_index

end EncodedFrame

/-- The loop: every packet must encode. -/
def encodeFragments (fragment : Nat → MediaPacket) :
    List Nat → Except FramePacketizeError (List MediaPacket)
  | [] => .ok []
  | fragment_index :: rest =>
      match (fragment fragment_index).encode with
      | .error error => .error (.packetEncode error)
      | .ok _ =>
          match encodeFragments fragment rest with
          | .error error => .error error
          | .ok packets => .ok (fragment fragment_index :: packets)

def packetizeFrameWithType (frame : EncodedFrame) (packet_type : PacketType)
    (first_sequence_number : UInt32) (max_payload : Nat) :
    Except FramePacketizeError (List MediaPacket) :=
  if max_payload = 0 then .error .zeroMaxPayload
  else if u16Max < max_payload then .error (.payloadTooLarge max_payload)
  else
    let fragment_count := frame.fragmentCount max_payload
    if u16Max < fragment_count then .error (.tooManyFragments fragment_count)
    else
      encodeFragments
        (frame.fragment packet_type first_sequence_number max_payload fragment_count)
        (List.range fragment_count)

/-- `packetize_frame_with_type_for_datagram_target`: the payloads leave room for the header. -/
def packetizeFrameWithTypeForDatagramTarget (frame : EncodedFrame) (packet_type : PacketType)
    (first_sequence_number : UInt32) (max_datagram_payload : Nat) :
    Except FramePacketizeError (List MediaPacket) :=
  if max_datagram_payload ≤ mediaPacketHeaderLen then .error .datagramTooSmall
  else
    packetizeFrameWithType frame packet_type first_sequence_number
      (max_datagram_payload - mediaPacketHeaderLen)

/-! ## Reassembling -/

inductive FrameReassemblyError where
  | empty
  | missingFragment (fragment_index : UInt16)
  | duplicateFragment (fragment_index : UInt16)
  | fragmentMetadataMismatch
  | fragmentCountMismatch
  | invalidEndOfFrameFlag (fragment_index : UInt16)
  | invalidPacketHeader (error : PacketDecodeError)
  deriving DecidableEq

def minNonzero (left right : UInt64) : UInt64 :=
  if left = 0 then right else if right = 0 then left else min left right

/-- The variables of the loop of `reassemble_frame`. -/
structure Assembly where
  sender_encode_done_time_micros : UInt64
  sender_send_time_micros : UInt64
  server_receive_time_micros : UInt64
  server_send_time_micros : UInt64
  bytes : List UInt8

namespace Assembly

def start (first : MediaPacketHeader) : Assembly where
  sender_encode_done_time_micros := first.sender_encode_done_time_micros
  sender_send_time_micros := first.sender_send_time_micros
  server_receive_time_micros := minNonzero first.server_receive_time_micros 0
  server_send_time_micros := first.server_send_time_micros
  bytes := []

def add (assembly : Assembly) (packet : MediaPacket) : Assembly where
  sender_encode_done_time_micros :=
    max assembly.sender_encode_done_time_micros packet.header.sender_encode_done_time_micros
  sender_send_time_micros :=
    max assembly.sender_send_time_micros packet.header.sender_send_time_micros
  server_receive_time_micros :=
    minNonzero assembly.server_receive_time_micros packet.header.server_receive_time_micros
  server_send_time_micros :=
    max assembly.server_send_time_micros packet.header.server_send_time_micros
  bytes := assembly.bytes ++ packet.payload

end Assembly

/-- The fragments of a frame agree on what the frame as a whole has. -/
def sameMetadata (first header : MediaPacketHeader) : Bool :=
  header.fragment_count = first.fragment_count ∧ header.frame_id = first.frame_id ∧
    header.room_stream_id = first.room_stream_id ∧ header.codec = first.codec ∧
    header.packet_type = first.packet_type ∧ header.layer = first.layer ∧
    header.media_timestamp = first.media_timestamp ∧
    header.sender_capture_time_micros = first.sender_capture_time_micros ∧
    header.sender_clock_offset_micros = first.sender_clock_offset_micros ∧
    header.flags.contains PacketFlags.keyframe = first.flags.contains PacketFlags.keyframe

def reassembleLoop (first : MediaPacketHeader) :
    Nat → Option UInt16 → Assembly → List MediaPacket → Except FrameReassemblyError Assembly
  | _, _, assembly, [] => .ok assembly
  | expected_index, previous_fragment_index, assembly, packet :: packets =>
      let fragment_index := packet.header.fragment_index
      if previous_fragment_index = some fragment_index then
        .error (.duplicateFragment fragment_index)
      else if fragment_index ≠ UInt16.ofNat expected_index then
        .error (.missingFragment (UInt16.ofNat expected_index))
      else if sameMetadata first packet.header = false then .error .fragmentMetadataMismatch
      else if packet.header.flags.contains PacketFlags.endOfFrame
          ≠ decide (expected_index + 1 = first.fragment_count.toNat) then
        .error (.invalidEndOfFrameFlag fragment_index)
      else
        reassembleLoop first (expected_index + 1) (some fragment_index) (assembly.add packet)
          packets

/-- The first invalid header of the packets. -/
def validateHeaders : List MediaPacket → Except PacketDecodeError Unit
  | [] => .ok ()
  | packet :: packets =>
      match packet.header.validate with
      | .error error => .error error
      | .ok _ => validateHeaders packets

/-- `sort_by_key` by the fragment index. -/
def sortFragments (packets : List MediaPacket) : List MediaPacket :=
  packets.insertionSort fun a b => a.header.fragment_index ≤ b.header.fragment_index

def reassembleFrame (packets : List MediaPacket) : Except FrameReassemblyError EncodedFrame :=
  match validateHeaders packets with
  | .error error => .error (.invalidPacketHeader error)
  | .ok _ =>
      match sortFragments packets with
      | [] => .error .empty
      | head :: tail =>
          let first := head.header
          if first.packet_type = .probe then .error .fragmentMetadataMismatch
          else if packets.length ≠ first.fragment_count.toNat then .error .fragmentCountMismatch
          else
            match reassembleLoop first 0 none (.start first) (head :: tail) with
            | .error error => .error error
            | .ok assembly =>
                .ok
                  { room_stream_id := first.room_stream_id
                    frame_id := first.frame_id
                    media_timestamp := first.media_timestamp
                    sender_capture_time_micros := first.sender_capture_time_micros
                    sender_clock_offset_micros := first.sender_clock_offset_micros
                    sender_encode_done_time_micros := assembly.sender_encode_done_time_micros
                    sender_send_time_micros := assembly.sender_send_time_micros
                    server_receive_time_micros := assembly.server_receive_time_micros
                    server_send_time_micros := assembly.server_send_time_micros
                    codec := first.codec
                    is_keyframe := first.flags.contains PacketFlags.keyframe
                    bytes := assembly.bytes }

/-! ## What packetizing yields -/

theorem encodeFragments_ok {fragment : Nat → MediaPacket} {indices : List Nat}
    {packets : List MediaPacket} (h : encodeFragments fragment indices = .ok packets) :
    packets = indices.map fragment ∧ ∀ i ∈ indices, ∃ bytes, (fragment i).encode = .ok bytes := by
  induction indices generalizing packets with
  | nil =>
      cases h
      exact ⟨rfl, fun i hi => absurd hi List.not_mem_nil⟩
  | cons i indices ih =>
      unfold encodeFragments at h
      split at h
      · cases h
      · next bytes hencode =>
          split at h
          · cases h
          · next rest hrest =>
              cases h
              obtain ⟨hmap, hall⟩ := ih hrest
              refine ⟨by rw [hmap, List.map_cons], ?_⟩
              rw [List.forall_mem_cons]
              exact ⟨⟨bytes, hencode⟩, hall⟩

/-- A packet that encodes has a valid header. -/
theorem MediaPacket.validate_of_encode {packet : MediaPacket} {bytes : List UInt8}
    (h : packet.encode = .ok bytes) : packet.header.validate = .ok () := by
  unfold encode at h
  split at h
  · cases h
  · split at h
    · cases h
    · split at h
      · cases h
      · next hvalid => exact hvalid

/-- The fragments of a frame that was packetized, and what the relay has checked about them. -/
structure Packetized (frame : EncodedFrame) (packet_type : PacketType)
    (first_sequence_number : UInt32) (max_payload : Nat) (packets : List MediaPacket) : Prop where
  payload_pos : 0 < max_payload
  count_pos : 0 < frame.fragmentCount max_payload
  count_le : frame.fragmentCount max_payload ≤ u16Max
  packets_eq : packets = (List.range (frame.fragmentCount max_payload)).map
    (frame.fragment packet_type first_sequence_number max_payload (frame.fragmentCount max_payload))
  valid : ∀ packet ∈ packets, packet.header.validate = .ok ()

theorem packetized_of_ok {frame : EncodedFrame} {packet_type : PacketType}
    {first_sequence_number : UInt32} {max_payload : Nat} {packets : List MediaPacket}
    (h : packetizeFrameWithType frame packet_type first_sequence_number max_payload = .ok packets) :
    Packetized frame packet_type first_sequence_number max_payload packets := by
  unfold packetizeFrameWithType at h
  split at h
  · cases h
  · next hpayload =>
      split at h
      · cases h
      · simp only at h
        split at h
        · cases h
        · next hcount =>
            obtain ⟨hmap, hencode⟩ := encodeFragments_ok h
            refine ⟨Nat.pos_of_ne_zero hpayload, Nat.le_max_right _ _, Nat.le_of_not_lt hcount,
              hmap, ?_⟩
            intro packet hpacket
            rw [hmap, List.mem_map] at hpacket
            obtain ⟨i, hi, rfl⟩ := hpacket
            obtain ⟨bytes, hbytes⟩ := hencode i hi
            exact MediaPacket.validate_of_encode hbytes

namespace EncodedFrame

variable (frame : EncodedFrame)

/-- Fragment `i` carries the next `max_payload` bytes, or what is left of them. -/
theorem fragmentPayload_eq (max_payload i : Nat) :
    frame.fragmentPayload max_payload i
      = (frame.bytes.drop (i * max_payload)).take max_payload := by
  have hnext : (i + 1) * max_payload = i * max_payload + max_payload := Nat.succ_mul i max_payload
  unfold fragmentPayload
  simp only
  split
  · next heq =>
      rw [hnext] at heq
      rcases Nat.eq_zero_or_pos max_payload with hzero | hpos
      · rw [hzero, List.take_zero]
      · have hend : frame.bytes.length ≤ i * max_payload := by omega
        rw [List.drop_of_length_le hend, List.take_nil]
  · rw [hnext, List.take_eq_take_iff, List.length_drop]
    omega

/-- The payloads of the fragments from `i` on are the bytes from there on. -/
theorem flatMap_fragmentPayload {max_payload : Nat} (hpos : 0 < max_payload) (i n : Nat)
    (hcount : i + n = frame.fragmentCount max_payload) :
    (List.range' i n).flatMap (frame.fragmentPayload max_payload)
      = frame.bytes.drop (i * max_payload) := by
  induction n generalizing i with
  | zero =>
      have hall : frame.bytes.length ≤ i * max_payload := by
        have hceil : divCeil frame.bytes.length max_payload ≤ i := by
          rw [Nat.add_zero] at hcount
          rw [hcount]
          exact Nat.le_max_left _ _
        have hlt : frame.bytes.length + max_payload - 1 < (i + 1) * max_payload := by
          rw [← Nat.div_lt_iff_lt_mul hpos]
          exact Nat.lt_succ_of_le hceil
        rw [Nat.add_mul, Nat.one_mul] at hlt
        omega
      rw [List.drop_of_length_le hall]
      rfl
  | succ n ih =>
      have hrest := ih (i + 1) (by omega)
      rw [List.range'_succ, List.flatMap_cons, hrest, fragmentPayload_eq, Nat.add_mul, Nat.one_mul,
        ← List.drop_drop, List.take_append_drop]

theorem fragmentFlags_keyframe (i n : Nat) :
    (frame.fragmentFlags i n).contains PacketFlags.keyframe = frame.is_keyframe := by
  unfold fragmentFlags
  by_cases hlast : i + 1 = n
  · cases frame.is_keyframe <;> simp only [hlast, if_true] <;> decide
  · cases frame.is_keyframe <;> simp only [hlast, if_false] <;> decide

theorem fragmentFlags_endOfFrame (i n : Nat) :
    (frame.fragmentFlags i n).contains PacketFlags.endOfFrame = decide (i + 1 = n) := by
  unfold fragmentFlags
  by_cases hlast : i + 1 = n
  · rw [decide_eq_true hlast]
    cases frame.is_keyframe <;> simp only [hlast, if_true] <;> decide
  · rw [decide_eq_false hlast]
    cases frame.is_keyframe <;> simp only [hlast, if_false] <;> decide

end EncodedFrame

/-! ## On the way -/

/-- The time stamps that the sender and the server write into a packet as they send it on. -/
structure Stamps where
  sender_send_time_micros : UInt64
  server_receive_time_micros : UInt64
  server_send_time_micros : UInt64

def MediaPacket.restamp (packet : MediaPacket) (stamps : Stamps) : MediaPacket :=
  { packet with
    header :=
      { packet.header with
        sender_send_time_micros := stamps.sender_send_time_micros
        server_receive_time_micros := stamps.server_receive_time_micros
        server_send_time_micros := stamps.server_send_time_micros } }

def MediaPacket.Restamped (fragment packet : MediaPacket) : Prop :=
  ∃ stamps, packet = fragment.restamp stamps

/-- The smallest of the values that are not zero; zero when there is none. -/
def minimumNonzero (values : List UInt64) : UInt64 := (values.filter (· ≠ 0)).min?.getD 0

/-- The frame as its fragments `packets` arrive: the stamps are the latest of the sender's and
server's sends and the earliest of the server's receipts. -/
def EncodedFrame.arrived (frame : EncodedFrame) (packets : List MediaPacket) : EncodedFrame :=
  { frame with
    sender_send_time_micros :=
      ((packets.map fun packet => packet.header.sender_send_time_micros).max?).getD 0
    server_receive_time_micros :=
      minimumNonzero (packets.map fun packet => packet.header.server_receive_time_micros)
    server_send_time_micros :=
      ((packets.map fun packet => packet.header.server_send_time_micros).max?).getD 0 }

/-- `max` of two machine words is their larger one. -/
instance lawfulOrderMax_uInt64 : Std.LawfulOrderMax UInt64 := by
  have hmax : ∀ a b : UInt64, max a b = if a ≤ b then b else a := fun a b => rfl
  refine .of_max_le_iff (fun a b c => ?_) fun a b => ?_
  · rw [hmax]
    split
    · next hle => exact ⟨fun h => ⟨UInt64.le_trans hle h, h⟩, And.right⟩
    · next hle =>
        have hge : b ≤ a := (UInt64.le_total a b).resolve_left hle
        exact ⟨fun h => ⟨h, UInt64.le_trans hge h⟩, And.left⟩
  · rw [hmax]
    split
    · exact .inr rfl
    · exact .inl rfl

theorem minNonzero_zero (a : UInt64) : minNonzero a 0 = a := by
  unfold minNonzero
  split
  · next h => exact h.symm
  · rw [if_pos rfl]

theorem minimumNonzero_congr {l l' : List UInt64} (h : ∀ a, a ∈ l ↔ a ∈ l') :
    minimumNonzero l = minimumNonzero l' := by
  have hfilter : ∀ a, a ∈ l.filter (· ≠ 0) ↔ a ∈ l'.filter (· ≠ 0) := by
    intro a
    rw [List.mem_filter, List.mem_filter, h]
  rw [minimumNonzero, minimumNonzero, Sorted.min?_congr hfilter]

/-- Two values of the list may be replaced by their smaller nonzero one. -/
theorem minimumNonzero_cons_cons (a b : UInt64) (l : List UInt64) :
    minimumNonzero (a :: b :: l) = minimumNonzero (minNonzero a b :: l) := by
  unfold minimumNonzero minNonzero
  by_cases ha : a = 0
  · simp [ha]
  · by_cases hb : b = 0
    · simp [ha, hb]
    · have hmin : min a b ≠ 0 := by
        rcases Std.min_eq_or (a := a) (b := b) with h | h
        · rwa [h]
        · rwa [h]
      simp only [ha, hb, hmin, List.filter_cons, if_false, List.min?_cons', List.foldl_cons,
        ne_eq, not_false_eq_true, decide_true, if_true]

/-- The fold of `min_nonzero` from one of the values finds the smallest that is not zero. -/
theorem foldl_minNonzero {l : List UInt64} {a : UInt64} (ha : a ∈ l) :
    l.foldl minNonzero a = minimumNonzero l := by
  have hfold : ∀ (l : List UInt64) (a : UInt64),
      l.foldl minNonzero a = minimumNonzero (a :: l) := by
    intro l
    induction l with
    | nil =>
        intro a
        unfold minimumNonzero
        by_cases ha : a = 0 <;> simp [ha]
    | cons b l ih =>
        intro a
        rw [List.foldl_cons, ih, minimumNonzero_cons_cons]
  rw [hfold]
  refine minimumNonzero_congr fun b => ?_
  rw [List.mem_cons]
  constructor
  · rintro (rfl | hb)
    · exact ha
    · exact hb
  · exact .inr

/-! ## The loop of `reassemble_frame` -/

namespace Assembly

/-- The loop keeps the maximum and the minimum of the stamps and appends the payloads. -/
theorem foldl_add (assembly : Assembly) (packets : List MediaPacket) :
    packets.foldl add assembly =
      { sender_encode_done_time_micros :=
          (packets.map fun packet => packet.header.sender_encode_done_time_micros).foldl max
            assembly.sender_encode_done_time_micros
        sender_send_time_micros :=
          (packets.map fun packet => packet.header.sender_send_time_micros).foldl max
            assembly.sender_send_time_micros
        server_receive_time_micros :=
          (packets.map fun packet => packet.header.server_receive_time_micros).foldl minNonzero
            assembly.server_receive_time_micros
        server_send_time_micros :=
          (packets.map fun packet => packet.header.server_send_time_micros).foldl max
            assembly.server_send_time_micros
        bytes := assembly.bytes ++ packets.flatMap MediaPacket.payload } := by
  induction packets generalizing assembly with
  | nil => simp
  | cons packet packets ih =>
      rw [List.foldl_cons, ih]
      simp [add]

end Assembly

/-- A turn of the loop that finds nothing wrong. -/
theorem reassembleLoop_cons {first : MediaPacketHeader} {expected_index : Nat}
    {previous : Option UInt16} {packet : MediaPacket}
    (hprevious : previous ≠ some packet.header.fragment_index)
    (hindex : packet.header.fragment_index = UInt16.ofNat expected_index)
    (hsame : sameMetadata first packet.header = true)
    (hlast : packet.header.flags.contains PacketFlags.endOfFrame
      = decide (expected_index + 1 = first.fragment_count.toNat))
    (assembly : Assembly) (packets : List MediaPacket) :
    reassembleLoop first expected_index previous assembly (packet :: packets)
      = reassembleLoop first (expected_index + 1) (some packet.header.fragment_index)
          (assembly.add packet) packets := by
  have hsame' : ¬ sameMetadata first packet.header = false := by
    rw [hsame]
    decide
  rw [reassembleLoop]
  rw [if_neg hprevious, if_neg (not_not.mpr hindex), if_neg hsame', if_neg (not_not.mpr hlast)]

theorem foldl_minNonzero_stamp {sorted got : List MediaPacket} (hperm : sorted.Perm got)
    {head : MediaPacket} (hhead : head ∈ sorted) (stamp : MediaPacket → UInt64) :
    (sorted.map stamp).foldl minNonzero (stamp head) = minimumNonzero (got.map stamp) := by
  rw [foldl_minNonzero (List.mem_map_of_mem (f := stamp) hhead)]
  exact minimumNonzero_congr fun a => (hperm.map stamp).mem_iff

end TeamView.Protocol
