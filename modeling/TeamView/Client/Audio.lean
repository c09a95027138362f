import TeamView.Lib.Bytes
import TeamView.Protocol.Frame

set_option autoImplicit false

/-! # Synthetic audio

The Opus-like audio of a voice stream (`crates/desktop-client/src/audio.rs`): a header, then the
samples or padding. Without samples in it the decoder makes them up from the frame id. A voice frame
that is decoded goes to a playback, which checks its length again.
-/

namespace TeamView.Client

open TeamView.Protocol Bytes MachineInt

/-- `SYNTHETIC_OPUS_MAGIC`, `TVO1`. -/
def syntheticOpusMagic : List UInt8 := [0x54, 0x56, 0x4f, 0x31]

/-- `PCM_PAYLOAD_MAGIC`, `TVP1`. -/
def pcmPayloadMagic : List UInt8 := [0x54, 0x56, 0x50, 0x31]

/-! ## The encoder -/

structure SyntheticOpusEncoderConfig where
  sample_rate_hz : UInt32
  channel_count : UInt16
  frame_duration_ms : UInt16
  bitrate_bps : UInt32
  synthetic_payload_bytes : Nat
  deriving DecidableEq

def SyntheticOpusEncoderConfig.default : SyntheticOpusEncoderConfig where
  sample_rate_hz := 48000
  channel_count := 1
  frame_duration_ms := 20
  bitrate_bps := 32000
  synthetic_payload_bytes := 96

/-- The 24 bytes in front of every audio frame. -/
def audioHeader (frame_id sample_rate_hz : UInt32) (channel_count sample_count : UInt16)
    (capture_time_micros : UInt64) : List UInt8 :=
  syntheticOpusMagic ++ (leBytes 4 frame_id.toNat ++ (leBytes 4 sample_rate_hz.toNat ++
    (leBytes 2 channel_count.toNat ++ (leBytes 2 sample_count.toNat ++
      leBytes 8 capture_time_micros.toNat))))

/-- The loops that fill a frame up to the configured size, `count` bytes from length `len` on. -/
def audioPaddingFrom (seed : UInt32) : Nat → Nat → List UInt8
  | _, 0 => []
  | len, count + 1 => (seed + UInt32.ofNat len).toUInt8 :: audioPaddingFrom seed (len + 1) count

/-- `to_le_bytes` of a sample. -/
def sampleBytes (sample : Int16) : List UInt8 := leBytes 2 sample.toUInt16.toNat

/-- The frame that both encoders return around their bytes. -/
def audioFrame (frame_id : UInt32) (capture_time_micros : UInt64) (sample_count : UInt16)
    (stream_id : UInt32) (bytes : List UInt8) : EncodedFrame where
  room_stream_id := stream_id
  frame_id := frame_id
  media_timestamp := UInt64.ofNat (satMul u32Max frame_id.toNat sample_count.toNat)
  sender_capture_time_micros := capture_time_micros
  sender_clock_offset_micros := 0
  sender_encode_done_time_micros := 0
  sender_send_time_micros := 0
  server_receive_time_micros := 0
  server_send_time_micros := 0
  codec := .opus
  is_keyframe := false
  bytes := bytes

namespace SyntheticOpusEncoder

def sampleCountPerFrame (config : SyntheticOpusEncoderConfig) : UInt16 :=
  UInt16.ofNat (min (satMul u32Max config.sample_rate_hz.toNat config.frame_duration_ms.toNat
    / 1000) u16Max)

def encode (config : SyntheticOpusEncoderConfig) (frame_id : UInt32)
    (capture_time_micros : UInt64) (stream_id : UInt32) : EncodedFrame :=
  let sample_count := sampleCountPerFrame config
  let bytes := audioHeader frame_id config.sample_rate_hz config.channel_count sample_count
    capture_time_micros
  audioFrame frame_id capture_time_micros sample_count stream_id
    (bytes ++ audioPaddingFrom (frame_id * 31) bytes.length
      (config.synthetic_payload_bytes - bytes.length))

def encodePcmI16 (config : SyntheticOpusEncoderConfig) (frame_id : UInt32)
    (capture_time_micros : UInt64) (sample_rate_hz : UInt32) (channel_count : UInt16)
    (samples : List Int16) (stream_id : UInt32) : Except String EncodedFrame :=
  if sample_rate_hz = 0 then .error "audio sample rate must be non-zero"
  else if channel_count = 0 then .error "audio channel count must be non-zero"
  else if samples.length % channel_count.toNat ≠ 0 then
    .error (s!"audio sample buffer length {samples.length} is not divisible by channel count " ++
      s!"{channel_count}")
  else
    let sample_count_per_channel := samples.length / channel_count.toNat
    if sample_count_per_channel = 0 then .error "audio sample count must be non-zero"
    else if u16Max < sample_count_per_channel then
      .error "audio sample count exceeds protocol field"
    else
      let sample_count := UInt16.ofNat sample_count_per_channel
      match checkedMul u64Max samples.length 2 with
      | none => .error "audio PCM payload size overflow"
      | some pcm_bytes =>
          if u32Max < pcm_bytes then .error "audio PCM payload exceeds protocol length field"
          else
            let bytes := audioHeader frame_id sample_rate_hz channel_count sample_count
                capture_time_micros ++
              (pcmPayloadMagic ++ (leBytes 4 pcm_bytes ++ samples.flatMap sampleBytes))
            .ok (audioFrame frame_id capture_time_micros sample_count stream_id
              (bytes ++ audioPaddingFrom (frame_id * 17) bytes.length
                (config.synthetic_payload_bytes - bytes.length)))

end SyntheticOpusEncoder

/-! ## The decoder -/

structure DecodedAudioFrame where
  frame_id : UInt32
  sample_rate_hz : UInt32
  channel_count : UInt16
  sample_count : UInt16
  capture_time_micros : UInt64
  pcm : List Int16
  deriving DecidableEq

/-- Arithmetic that overflows stops a debug build, here with `none`, and wraps in a release
build. -/
inductive Build where
  | debug
  | release
  deriving DecidableEq

/-- The result of an `i32` operation whose exact value is `a`. -/
def Build.i32 (build : Build) (a : Int) : Option Int32 :=
  match build with
  | .debug => if -2147483648 ≤ a ∧ a ≤ 2147483647 then some (Int32.ofInt a) else none
  | .release => some (Int32.ofInt a)

/-- The result of a `usize` operation whose exact value is `a`. -/
def Build.usize (build : Build) (a : Nat) : Option Nat :=
  match build with
  | .debug => if a ≤ u64Max then some a else none
  | .release => some (a % (u64Max + 1))

theorem Build.usize_of_le (build : Build) {a : Nat} (h : a ≤ u64Max) :
    build.usize a = some a := by
  cases build with
  | debug => exact if_pos h
  | release => exact congrArg some (Nat.mod_eq_of_lt (Nat.lt_succ_of_le h))

/-- The sample at a position of a frame that has none in it. -/
def syntheticSample (build : Build) (frame_id : UInt32) (sample : Nat) : Option Int16 := do
  let frame_phase ← build.i32 (frame_id.toInt32.toInt * 97)
  let sample_phase ← build.i32 ((UInt32.ofNat sample).toInt32.toInt * 13)
  let phase ← build.i32 (frame_phase.toInt + sample_phase.toInt)
  let value ← build.i32 (phase.toInt.tmod 1024 - 512)
  some value.toInt16

def syntheticPcm (build : Build) (frame_id : UInt32) (sample_count channel_count : UInt16) :
    Option (List Int16) := do
  let total_samples ← build.usize (sample_count.toNat * channel_count.toNat)
  (List.range total_samples).mapM (syntheticSample build frame_id)

/-- The number in the `n` bytes at an offset, least significant first. -/
def leAt (bytes : List UInt8) (offset n : Nat) : Nat := ofLe ((bytes.drop offset).take n)

/-- `chunks_exact(2)`, each as a sample. -/
def samplesOf : List UInt8 → List Int16
  | low :: high :: bytes => (UInt16.ofNat (ofLe [low, high])).toInt16 :: samplesOf bytes
  | _ => []

def embeddedPcm (build : Build) (payload : List UInt8) (sample_count channel_count : UInt16) :
    Option (Except String (Option (List Int16))) :=
  if payload.length < 8 then some (.ok none)
  else if payload.take 4 ≠ pcmPayloadMagic then some (.ok none)
  else do
    let pcm_byte_len := leAt payload 4 4
    let total_samples ← build.usize (sample_count.toNat * channel_count.toNat)
    let expected_pcm_bytes ← build.usize (total_samples * 2)
    if pcm_byte_len ≠ expected_pcm_bytes then
      some (.error
        (s!"embedded PCM length mismatch: expected {expected_pcm_bytes}, got {pcm_byte_len}"))
    else
      let stop ← build.usize (8 + pcm_byte_len)
      if payload.length < stop then some (.error "embedded PCM payload is truncated")
      else some (.ok (some (samplesOf ((payload.take stop).drop 8))))

namespace SyntheticOpusDecoder

def decode (build : Build) (encoded : List UInt8) :
    Option (Except String (Option DecodedAudioFrame)) :=
  if encoded.length < 24 then some (.ok none)
  else if encoded.take 4 ≠ syntheticOpusMagic then some (.ok none)
  else
    let frame_id := UInt32.ofNat (leAt encoded 4 4)
    let sample_rate_hz := UInt32.ofNat (leAt encoded 8 4)
    let channel_count := UInt16.ofNat (leAt encoded 12 2)
    let sample_count := UInt16.ofNat (leAt encoded 14 2)
    let capture_time_micros := UInt64.ofNat (leAt encoded 16 8)
    if sample_rate_hz = 0 ∨ channel_count = 0 ∨ sample_count = 0 then some (.ok none)
    else do
      match ← embeddedPcm build (encoded.drop 24) sample_count channel_count with
      | .error error => some (.error error)
      | .ok embedded =>
          let pcm ←
            match embedded with
            | some pcm => some pcm
            | none => syntheticPcm build frame_id sample_count channel_count
          some (.ok (some
            ⟨frame_id, sample_rate_hz, channel_count, sample_count, capture_time_micros, pcm⟩))

end SyntheticOpusDecoder

/-! ## Playback -/

structure PlayedAudioFrame where
  frame_id : UInt32
  sample_rate_hz : UInt32
  channel_count : UInt16
  sample_count : UInt16
  deriving DecidableEq

structure LatestAudioPlayback where
  played_frames : Nat
  latest : Option PlayedAudioFrame
  deriving DecidableEq

def LatestAudioPlayback.default : LatestAudioPlayback := ⟨0, none⟩

def validateDecodedAudioFrame (frame : DecodedAudioFrame) : Except String PlayedAudioFrame :=
  match checkedMul u16Max frame.sample_count.toNat frame.channel_count.toNat with
  | none => .error "decoded audio sample count overflow"
  | some expected_samples =>
      if frame.pcm.length ≠ expected_samples then
        .error
          (s!"decoded audio sample buffer length mismatch: expected {expected_samples}, " ++
            s!"got {frame.pcm.length}")
      else
        .ok ⟨frame.frame_id, frame.sample_rate_hz, frame.channel_count, frame.sample_count⟩

def LatestAudioPlayback.play (playback : LatestAudioPlayback) (frame : DecodedAudioFrame) :
    Except String LatestAudioPlayback :=
  (validateDecodedAudioFrame frame).map fun played =>
    { played_frames := satAdd u64Max playback.played_frames 1, latest := some played }

end TeamView.Client
