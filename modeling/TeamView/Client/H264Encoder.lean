import TeamView.Client.AnnexB
import TeamView.Lib.Bytes
import TeamView.Protocol.Frame

set_option autoImplicit false

/-! # The synthetic H.264 encoder

Captured frames (`crates/desktop-client/src/capture/mod.rs`) and the encoder that stands in for a
hardware one (`crates/desktop-client/src/encode/h264.rs`). A frame becomes one slice, with the
stream's parameters before it when it is a keyframe, a preview of its pixels in it when it has any,
and bytes behind it up to the configured size.
-/

namespace TeamView.Client

open TeamView.Protocol Bytes MachineInt

inductive CapturePixelFormat where
  | bgra8
  | nv12
  | unknown
  deriving DecidableEq

inductive CaptureFrameStorage where
  | metadataOnly
  | cpuBytes (bytes : List UInt8)
  | nativeHandle (handle : UInt64)
  deriving DecidableEq

structure CaptureFrame where
  frame_id : UInt64
  width : UInt32
  height : UInt32
  capture_time_micros : UInt64
  format : CapturePixelFormat
  storage : CaptureFrameStorage
  deriving DecidableEq

/-- `CaptureFrame::bgra_byte_len`; `none` is its error. -/
def bgraByteLen (width height : UInt32) : Option Nat :=
  (checkedMul u64Max width.toNat height.toNat).bind fun pixels => checkedMul u64Max pixels 4

/-! ## Previews -/

def maxSyntheticPreviewWidth : UInt32 := 160
def maxSyntheticPreviewHeight : UInt32 := 90

def previewDimensions (width height : UInt32) : UInt32 × UInt32 :=
  if width ≤ maxSyntheticPreviewWidth ∧ height ≤ maxSyntheticPreviewHeight then
    (max width 1, max height 1)
  else
    let height_by_width := UInt32.ofNat
      (height.toNat * maxSyntheticPreviewWidth.toNat / max width.toNat 1)
    if height_by_width ≤ maxSyntheticPreviewHeight then
      (maxSyntheticPreviewWidth, max height_by_width 1)
    else
      let width_by_height := UInt32.ofNat
        (width.toNat * maxSyntheticPreviewHeight.toNat / max height.toNat 1)
      (max width_by_height 1, maxSyntheticPreviewHeight)

/-- The offset of the source pixel that is nearest to pixel `(x, y)` of the preview. -/
def nearestOffset (source_width source_height preview_width preview_height : UInt32) (y x : Nat) :
    Nat :=
  let source_y := y * source_height.toNat / preview_height.toNat
  let source_x := x * source_width.toNat / preview_width.toNat
  (source_y * source_width.toNat + source_x) * 4

/-- The positions of a picture, row by row. -/
def positions (width height : UInt32) : List (Nat × Nat) :=
  (List.range height.toNat).flatMap fun y => (List.range width.toNat).map fun x => (y, x)

/-- The loops of `downsample_bgra_nearest`: the pixels at the given offsets. -/
def gatherPixels (source_pixels : List UInt8) : List Nat → Option (List UInt8)
  | [] => some []
  | offset :: offsets =>
      if offset + 4 ≤ source_pixels.length then
        (gatherPixels source_pixels offsets).map
          fun preview => (source_pixels.drop offset).take 4 ++ preview
      else none

def downsampleBgraNearest (source_pixels : List UInt8)
    (source_width source_height preview_width preview_height : UInt32) : Option (List UInt8) :=
  (bgraByteLen preview_width preview_height).bind fun _ =>
    gatherPixels source_pixels ((positions preview_width preview_height).map fun position =>
      nearestOffset source_width source_height preview_width preview_height position.1 position.2)

/-! ## Payloads -/

/-- `SYNTHETIC_SPS_MAGIC`, `TVS1`. -/
def syntheticSpsMagic : List UInt8 := [0x54, 0x56, 0x53, 0x31]

/-- `SYNTHETIC_PPS_MAGIC`, `TVP1`. -/
def syntheticPpsMagic : List UInt8 := [0x54, 0x56, 0x50, 0x31]

/-- `SYNTHETIC_FRAME_MAGIC`, `TVF1`. -/
def syntheticFrameMagic : List UInt8 := [0x54, 0x56, 0x46, 0x31]

/-- `SYNTHETIC_PREVIEW_MAGIC`, `TVB1`. -/
def syntheticPreviewMagic : List UInt8 := [0x54, 0x56, 0x42, 0x31]

def nalSps : UInt8 := 0x67
def nalPps : UInt8 := 0x68
def nalIdrSlice : UInt8 := 0x65
def nalNonIdrSlice : UInt8 := 0x41

def syntheticSpsPayload (width height : UInt32) (frames_per_second : UInt16) : List UInt8 :=
  syntheticSpsMagic ++ (leBytes 4 width.toNat ++ (leBytes 4 height.toNat ++
    leBytes 2 frames_per_second.toNat))

def syntheticPreviewPayload (frame : CaptureFrame) : Option (List UInt8) :=
  match frame.storage with
  | .cpuBytes source_pixels =>
      if frame.format ≠ .bgra8 then none
      else
        match bgraByteLen frame.width frame.height with
        | none => none
        | some expected_len =>
            if source_pixels.length ≠ expected_len then none
            else
              let (preview_width, preview_height) := previewDimensions frame.width frame.height
              (downsampleBgraNearest source_pixels frame.width frame.height preview_width
                preview_height).map fun preview_pixels =>
                  syntheticPreviewMagic ++ (leBytes 4 preview_width.toNat ++
                    (leBytes 4 preview_height.toNat ++
                      (leBytes 4 preview_pixels.length ++ preview_pixels)))
  | _ => none

def syntheticFramePayload (frame : CaptureFrame) : List UInt8 :=
  syntheticFrameMagic ++ (leBytes 4 frame.frame_id.toUInt32.toNat ++
    (leBytes 4 frame.width.toNat ++ (leBytes 4 frame.height.toNat ++
      (syntheticPreviewPayload frame).getD [])))

/-! ## The encoder -/

structure H264EncoderConfig where
  width : UInt32
  height : UInt32
  frames_per_second : UInt16
  bitrate_bps : UInt32
  synthetic_payload_bytes : Nat
  deriving DecidableEq

def H264EncoderConfig.default : H264EncoderConfig where
  width := 1280
  height := 720
  frames_per_second := 30
  bitrate_bps := 4000000
  synthetic_payload_bytes := 512

structure H264Encoder where
  config : H264EncoderConfig
  keyframe_requested : Bool
  deriving DecidableEq

namespace H264Encoder

def isKeyframe (encoder : H264Encoder) (frame : CaptureFrame) : Bool :=
  encoder.keyframe_requested || frame.frame_id = 1

/-- The NAL units of a frame. -/
def frameNals (encoder : H264Encoder) (frame : CaptureFrame) : List UInt8 :=
  if encoder.isKeyframe frame then
    nalBytes nalSps (syntheticSpsPayload frame.width frame.height encoder.config.frames_per_second)
      ++ (nalBytes nalPps syntheticPpsMagic
        ++ nalBytes nalIdrSlice (syntheticFramePayload frame))
  else nalBytes nalNonIdrSlice (syntheticFramePayload frame)

/-- The loop that fills the frame up to the configured size, `count` bytes from length `len` on. -/
def paddingFrom (frame_id : UInt64) : Nat → Nat → List UInt8
  | _, 0 => []
  | len, count + 1 => (frame_id + UInt64.ofNat len).toUInt8 :: paddingFrom frame_id (len + 1) count

def encodedBytes (encoder : H264Encoder) (frame : CaptureFrame) : List UInt8 :=
  let bytes := encoder.frameNals frame
  bytes ++ paddingFrom frame.frame_id bytes.length
    (encoder.config.synthetic_payload_bytes - bytes.length)

def encode (encoder : H264Encoder) (frame : CaptureFrame) (stream_id : UInt32) :
    H264Encoder × EncodedFrame :=
  ({ encoder with keyframe_requested := false },
    { room_stream_id := stream_id
      frame_id := frame.frame_id.toUInt32
      media_timestamp := UInt64.ofNat (satMul u64Max frame.frame_id.toNat 3000)
      sender_capture_time_micros := frame.capture_time_micros
      sender_clock_offset_micros := 0
      sender_encode_done_time_micros := 0
      sender_send_time_micros := 0
      server_receive_time_micros := 0
      server_send_time_micros := 0
      codec := .h264
      is_keyframe := encoder.isKeyframe frame
      bytes := encoder.encodedBytes frame })

def requestKeyframe (encoder : H264Encoder) : H264Encoder :=
  { encoder with keyframe_requested := true }

end H264Encoder

end TeamView.Client
