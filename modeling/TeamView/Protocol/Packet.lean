import TeamView.Lib.Bytes
import TeamView.Lib.MachineInt
import TeamView.Protocol.Control

set_option autoImplicit false

/-! # Media packets

The datagram header and its codec (`crates/protocol/src/packet.rs`). Header fields have the
fixed widths of the source. A decoder is a partial function into `Except`: `none` is the panic
of a read past the end of the buffer, `some (.error e)` is a rejected datagram.
-/

namespace TeamView.Protocol

open Bytes MachineInt

/-- `MEDIA_PACKET_HEADER_LEN`. -/
def mediaPacketHeaderLen : Nat := 81

/-- `DEFAULT_DATAGRAM_PAYLOAD_TARGET`. -/
def defaultDatagramPayloadTarget : Nat := 1150

inductive PacketType where
  | video
  | audio
  | probe
  deriving DecidableEq

inductive PacketDecodeError where
  | tooShort (expected actual : Nat)
  | payloadTooShort (expected actual : Nat)
  | trailingBytes (expected actual : Nat)
  | unsupportedVersion (version : UInt8)
  | unsupportedHeaderLength (length : Nat)
  | unknownPacketType (value : UInt8)
  | unknownCodec (value : UInt8)
  | invalidFragment (fragment_index fragment_count : UInt16)
  | unsupportedLayer (layer : UInt8)
  | invalidPacketCodec (packet_type : PacketType) (codec : CodecId)
  deriving DecidableEq

inductive PacketEncodeError where
  | payloadTooLarge (length : Nat)
  | payloadLengthMismatch (header actual : Nat)
  | invalidHeader (error : PacketDecodeError)
  deriving DecidableEq

/-! ## Enumerations on the wire -/

def PacketType.toByte : PacketType → UInt8
  | .video => 1
  | .audio => 2
  | .probe => 3

def PacketType.tryFrom (value : UInt8) : Except PacketDecodeError PacketType :=
  if value = 1 then .ok .video
  else if value = 2 then .ok .audio
  else if value = 3 then .ok .probe
  else .error (.unknownPacketType value)

def CodecId.toByte : CodecId → UInt8
  | .h264 => 1
  | .av1 => 2
  | .hevc => 3
  | .opus => 16

def CodecId.tryFrom (value : UInt8) : Except PacketDecodeError CodecId :=
  if value = 1 then .ok .h264
  else if value = 2 then .ok .av1
  else if value = 3 then .ok .hevc
  else if value = 16 then .ok .opus
  else .error (.unknownCodec value)

/-! ## Flags -/

/-- `PacketFlags`. -/
abbrev PacketFlags := UInt8

namespace PacketFlags

def keyframe : UInt8 := 1
def endOfFrame : UInt8 := 2
def config : UInt8 := 4
def discardable : UInt8 := 8

def contains (flags : PacketFlags) (flag : UInt8) : Bool := flags &&& flag != 0

def withFlag (flags : PacketFlags) (flag : UInt8) : PacketFlags := flags ||| flag

end PacketFlags

/-! ## Header -/

structure MediaPacketHeader where
  version : UInt8
  packet_type : PacketType
  flags : PacketFlags
  room_stream_id : UInt32
  sequence_number : UInt32
  frame_id : UInt32
  fragment_index : UInt16
  fragment_count : UInt16
  media_timestamp : UInt64
  sender_capture_time_micros : UInt64
  sender_clock_offset_micros : Int64
  sender_encode_done_time_micros : UInt64
  sender_send_time_micros : UInt64
  server_receive_time_micros : UInt64
  server_send_time_micros : UInt64
  codec : CodecId
  layer : UInt8
  payload_length : UInt16
  deriving DecidableEq

namespace MediaPacketHeader

def new (packet_type : PacketType) (codec : CodecId) (room_stream_id sequence_number : UInt32)
    (payload_length : UInt16) : MediaPacketHeader where
  version := UInt8.ofNat protocolVersion
  packet_type := packet_type
  flags := 0
  room_stream_id := room_stream_id
  sequence_number := sequence_number
  frame_id := 0
  fragment_index := 0
  fragment_count := 1
  media_timestamp := 0
  sender_capture_time_micros := 0
  sender_clock_offset_micros := 0
  sender_encode_done_time_micros := 0
  sender_send_time_micros := 0
  server_receive_time_micros := 0
  server_send_time_micros := 0
  codec := codec
  layer := 0
  payload_length := payload_length

/-- The stream of the packet, as the control plane names it. -/
def streamId (header : MediaPacketHeader) : StreamId := header.room_stream_id.toNat

def validate (header : MediaPacketHeader) : Except PacketDecodeError Unit :=
  if header.fragment_count = 0 then
    .error (.invalidFragment header.fragment_index header.fragment_count)
  else if header.fragment_count ≤ header.fragment_index then
    .error (.invalidFragment header.fragment_index header.fragment_count)
  else if header.layer ≠ 0 then .error (.unsupportedLayer header.layer)
  else if header.packet_type = .probe ∧ header.codec ≠ .h264 then
    .error (.invalidPacketCodec header.packet_type header.codec)
  else .ok ()

def encode (header : MediaPacketHeader) : List UInt8 :=
  beBytes 1 header.version.toNat ++
  beBytes 1 header.packet_type.toByte.toNat ++
  beBytes 1 header.flags.toNat ++
  beBytes 2 mediaPacketHeaderLen ++
  beBytes 4 header.room_stream_id.toNat ++
  beBytes 4 header.sequence_number.toNat ++
  beBytes 4 header.frame_id.toNat ++
  beBytes 2 header.fragment_index.toNat ++
  beBytes 2 header.fragment_count.toNat ++
  beBytes 8 header.media_timestamp.toNat ++
  beBytes 8 header.sender_capture_time_micros.toNat ++
  beBytes 8 header.sender_clock_offset_micros.toUInt64.toNat ++
  beBytes 8 header.sender_encode_done_time_micros.toNat ++
  beBytes 8 header.sender_send_time_micros.toNat ++
  beBytes 8 header.server_receive_time_micros.toNat ++
  beBytes 8 header.server_send_time_micros.toNat ++
  beBytes 1 header.codec.toByte.toNat ++
  beBytes 1 header.layer.toNat ++
  beBytes 2 header.payload_length.toNat

end MediaPacketHeader

structure DecodedMediaPacketHeader where
  header : MediaPacketHeader
  payload_offset : Nat
  deriving DecidableEq

/-- The part of `MediaPacketHeader::decode` that follows the header length: the fields up to the
payload length, and the validation of the header. -/
def MediaPacketHeader.decodeFields (version flags : UInt8) (packet_type : PacketType)
    (header_length : Nat) (buf : List UInt8) :
    Option (Except PacketDecodeError DecodedMediaPacketHeader) :=
  match getBeInts [4, 4, 4, 2, 2, 8, 8, 8, 8, 8, 8, 8, 1] buf with
  | some ([room_stream_id, sequence_number, frame_id, fragment_index, fragment_count,
        media_timestamp, sender_capture_time_micros, sender_clock_offset_micros,
        sender_encode_done_time_micros, sender_send_time_micros, server_receive_time_micros,
        server_send_time_micros, codec], buf) =>
      match CodecId.tryFrom (UInt8.ofNat codec) with
      | .error error => some (.error error)
      | .ok codec =>
          match getBeInts [1, 2] buf with
          | some ([layer, payload_length], _) =>
              let header : MediaPacketHeader :=
                { version := version
                  packet_type := packet_type
                  flags := flags
                  room_stream_id := UInt32.ofNat room_stream_id
                  sequence_number := UInt32.ofNat sequence_number
                  frame_id := UInt32.ofNat frame_id
                  fragment_index := UInt16.ofNat fragment_index
                  fragment_count := UInt16.ofNat fragment_count
                  media_timestamp := UInt64.ofNat media_timestamp
                  sender_capture_time_micros := UInt64.ofNat sender_capture_time_micros
                  sender_clock_offset_micros := (UInt64.ofNat sender_clock_offset_micros).toInt64
                  sender_encode_done_time_micros := UInt64.ofNat sender_encode_done_time_micros
                  sender_send_time_micros := UInt64.ofNat sender_send_time_micros
                  server_receive_time_micros := UInt64.ofNat server_receive_time_micros
                  server_send_time_micros := UInt64.ofNat server_send_time_micros
                  codec := codec
                  layer := UInt8.ofNat layer
                  payload_length := UInt16.ofNat payload_length }
              match header.validate with
              | .error error => some (.error error)
              | .ok _ => some (.ok ⟨header, header_length⟩)
          | _ => none
  | _ => none

/-- `MediaPacketHeader::decode`. -/
def MediaPacketHeader.decode (src : List UInt8) :
    Option (Except PacketDecodeError DecodedMediaPacketHeader) :=
  if src.length < mediaPacketHeaderLen then
    some (.error (.tooShort mediaPacketHeaderLen src.length))
  else
    match getBeInts [1] src with
    | some ([version], buf) =>
        if version ≠ protocolVersion then
          some (.error (.unsupportedVersion (UInt8.ofNat version)))
        else
          match getBeInts [1] buf with
          | some ([packet_type], buf) =>
              match PacketType.tryFrom (UInt8.ofNat packet_type) with
              | .error error => some (.error error)
              | .ok packet_type =>
                  match getBeInts [1, 2] buf with
                  | some ([flags, header_length], buf) =>
                      if header_length < mediaPacketHeaderLen then
                        some (.error (.unsupportedHeaderLength header_length))
                      else if src.length < header_length then
                        some (.error (.tooShort header_length src.length))
                      else
                        decodeFields (UInt8.ofNat version) (UInt8.ofNat flags) packet_type
                          header_length buf
                  | _ => none
          | _ => none
    | _ => none

/-! ## Packets -/

structure MediaPacket where
  header : MediaPacketHeader
  payload : List UInt8
  deriving DecidableEq

namespace MediaPacket

def encode (packet : MediaPacket) : Except PacketEncodeError (List UInt8) :=
  if u16Max < packet.payload.length then .error (.payloadTooLarge packet.payload.length)
  else if packet.header.payload_length.toNat ≠ packet.payload.length then
    .error (.payloadLengthMismatch packet.header.payload_length.toNat packet.payload.length)
  else
    match packet.header.validate with
    | .error error => .error (.invalidHeader error)
    | .ok _ => .ok (packet.header.encode ++ packet.payload)

def decode (src : List UInt8) : Option (Except PacketDecodeError MediaPacket) :=
  match MediaPacketHeader.decode src with
  | none => none
  | some (.error error) => some (.error error)
  | some (.ok decoded) =>
      let expected_len := decoded.payload_offset + decoded.header.payload_length.toNat
      if src.length < expected_len then
        some (.error (.payloadTooShort expected_len src.length))
      else if expected_len < src.length then
        some (.error (.trailingBytes expected_len src.length))
      else
        some (.ok
          { header := decoded.header
            payload := (src.drop decoded.payload_offset).take
              (expected_len - decoded.payload_offset) })

end MediaPacket

/-! ## What a decoded packet satisfies -/

theorem MediaPacketHeader.validate_of_decodeFields {version flags : UInt8}
    {packet_type : PacketType} {header_length : Nat} {buf : List UInt8}
    {decoded : DecodedMediaPacketHeader}
    (h : decodeFields version flags packet_type header_length buf = some (.ok decoded)) :
    decoded.header.validate = .ok () := by
  unfold decodeFields at h
  split at h
  · split at h
    · cases h
    · split at h
      · simp only at h
        split at h
        · cases h
        · next hvalid =>
            cases h
            exact hvalid
      · cases h
  · cases h

theorem MediaPacketHeader.validate_of_decode {src : List UInt8}
    {decoded : DecodedMediaPacketHeader} (h : decode src = some (.ok decoded)) :
    decoded.header.validate = .ok () := by
  unfold decode at h
  split at h
  · cases h
  · split at h
    · split at h
      · cases h
      · split at h
        · split at h
          · cases h
          · split at h
            · split at h
              · cases h
              · split at h
                · cases h
                · exact validate_of_decodeFields h
            · cases h
        · cases h
    · cases h

/-- A packet that `decode` returns can be encoded again: its header is valid and its payload has
the length the header announces. -/
theorem MediaPacket.encode_of_decode {src : List UInt8} {packet : MediaPacket}
    (h : decode src = some (.ok packet)) :
    packet.encode = .ok (packet.header.encode ++ packet.payload) := by
  unfold decode at h
  split at h
  · cases h
  · cases h
  · next decoded hheader =>
      have hvalid := MediaPacketHeader.validate_of_decode hheader
      simp only at h
      split at h
      · cases h
      · split at h
        · cases h
        · next hshort hlong =>
            cases h
            have hmax : decoded.header.payload_length.toNat < 65536 :=
              decoded.header.payload_length.toNat_lt
            have hlen : ((src.drop decoded.payload_offset).take
                (decoded.payload_offset + decoded.header.payload_length.toNat
                  - decoded.payload_offset)).length = decoded.header.payload_length.toNat := by
              rw [List.length_take, List.length_drop]
              omega
            simp only [encode, hlen, u16Max, hvalid]
            rw [if_neg (by omega), if_neg (by simp)]

end TeamView.Protocol
