import TeamView.Client.AnnexB
import TeamView.Lib.Bytes

set_option autoImplicit false

/-! # The synthetic H.264 decoder

`H264Decoder` (`crates/desktop-client/src/decode/h264.rs`) reads what `H264Encoder` writes. It keeps
the parameters of the last keyframe, and shows them when a slice says nothing about its frame.
-/

namespace TeamView.Client

open Bytes MachineInt

inductive DecodedPixelFormat where
  | bgra8
  deriving DecidableEq

structure DecodedFrame where
  frame_id : UInt32
  width : UInt32
  height : UInt32
  pixel_format : DecodedPixelFormat
  pixels : List UInt8
  deriving DecidableEq

inductive DecodeError where
  /-- `synthetic decoded frame exceeds maximum preview size` -/
  | exceedsMaximumPreviewSize
  deriving DecidableEq

/-- `MAX_SYNTHETIC_DECODED_PIXELS`. -/
def maxSyntheticDecodedPixels : Nat := 3840 * 2160

structure SyntheticStreamConfig where
  width : UInt32
  height : UInt32
  deriving DecidableEq

structure SyntheticPreview where
  width : UInt32
  height : UInt32
  pixels : List UInt8
  deriving DecidableEq

structure SyntheticFrameInfo where
  frame_id : UInt32
  width : UInt32
  height : UInt32
  preview : Option SyntheticPreview
  deriving DecidableEq

/-! ## Parsing -/

/-- The little-endian number of four bytes at an offset. -/
def u32At (bytes : List UInt8) (offset : Nat) : UInt32 :=
  UInt32.ofNat (ofLe ((bytes.drop offset).take 4))

def parseSyntheticSps (payload : List UInt8) : Option SyntheticStreamConfig :=
  if payload.length < 14 then none
  else if payload.take 4 ≠ [0x54, 0x56, 0x53, 0x31] then none
  else
    let width := u32At payload 4
    let height := u32At payload 8
    if width = 0 ∨ height = 0 then none else some ⟨width, height⟩

def parseSyntheticPreview (payload : List UInt8) : Option SyntheticPreview :=
  if payload.length < 16 then none
  else if payload.take 4 ≠ [0x54, 0x56, 0x42, 0x31] then none
  else
    let width := u32At payload 4
    let height := u32At payload 8
    let byte_len := (u32At payload 12).toNat
    if width = 0 ∨ height = 0 then none
    else
      match (checkedMul u64Max width.toNat height.toNat).bind fun pixels =>
        checkedMul u64Max pixels 4 with
      | none => none
      | some expected_len =>
          if byte_len ≠ expected_len then none
          else if payload.length < 16 + byte_len then none
          else some ⟨width, height, (payload.drop 16).take byte_len⟩

def parseSyntheticFrame (payload : List UInt8) : Option SyntheticFrameInfo :=
  if payload.length < 16 then none
  else if payload.take 4 ≠ [0x54, 0x56, 0x46, 0x31] then none
  else
    let frame_id := u32At payload 4
    let width := u32At payload 8
    let height := u32At payload 12
    if width = 0 ∨ height = 0 then none
    else some ⟨frame_id, width, height, parseSyntheticPreview (payload.drop 16)⟩

/-! ## Decoding -/

structure H264Decoder where
  config : Option SyntheticStreamConfig
  deriving DecidableEq

/-- The variables of the loop of `decode`. -/
structure DecodeScan where
  config : Option SyntheticStreamConfig
  saw_sps : Bool
  saw_pps : Bool
  saw_idr : Bool
  saw_slice : Bool
  frame_info : Option SyntheticFrameInfo
  deriving DecidableEq

namespace DecodeScan

def start (decoder : H264Decoder) : DecodeScan := ⟨decoder.config, false, false, false, false, none⟩

/-- One NAL unit. -/
def nal (scan : DecodeScan) : List UInt8 → DecodeScan
  | [] => scan
  | header :: payload =>
      let nal_type := header &&& 0x1f
      let payload := annexBUnescapePayload payload
      if nal_type = 7 then
        { scan with
          saw_sps := true
          config := (parseSyntheticSps payload).or scan.config }
      else if nal_type = 8 then { scan with saw_pps := true }
      else if nal_type = 5 then
        { scan with
          saw_idr := true
          saw_slice := true
          frame_info := (parseSyntheticFrame payload).or scan.frame_info }
      else if nal_type = 1 then
        { scan with
          saw_slice := true
          frame_info := (parseSyntheticFrame payload).or scan.frame_info }
      else scan

end DecodeScan

/-- `synthetic_bgra_pixels`: a pattern that tells frames and keyframes apart. -/
def syntheticBgraPixels (width height frame_id : UInt32) (is_keyframe : Bool) : List UInt8 :=
  let keyframe_bias : UInt8 := if is_keyframe then 0x40 else 0x10
  (List.range height.toNat).flatMap fun y =>
    (List.range width.toNat).flatMap fun x =>
      let pattern := ((UInt32.ofNat x / 32) ^^^ (UInt32.ofNat y / 32) ^^^ frame_id).toUInt8
      [pattern * 3, pattern * 5 + keyframe_bias, pattern * 7 + frame_id.toUInt8, 0xff]

namespace H264Decoder

/-- What `decode` makes of the scanned NAL units. -/
def present (scan : DecodeScan) : Except DecodeError (Option DecodedFrame) :=
  if scan.saw_slice = false then .ok none
  else if scan.saw_idr ∧ (scan.saw_sps = false ∨ scan.saw_pps = false ∨ scan.config = none) then
    .ok none
  else
    match scan.config with
    | none => .ok none
    | some config =>
        let frame_info := scan.frame_info.getD ⟨0, config.width, config.height, none⟩
        let (width, height, pixels) :=
          match frame_info.preview with
          | some preview => (preview.width, preview.height, preview.pixels)
          | none =>
              let width := max frame_info.width 1
              let height := max frame_info.height 1
              (width, height, syntheticBgraPixels width height frame_info.frame_id scan.saw_idr)
        if maxSyntheticDecodedPixels < width.toNat * height.toNat then
          .error .exceedsMaximumPreviewSize
        else .ok (some ⟨frame_info.frame_id, width, height, .bgra8, pixels⟩)

def decode (decoder : H264Decoder) (encoded : List UInt8) :
    H264Decoder × Except DecodeError (Option DecodedFrame) :=
  if encoded.isEmpty then (decoder, .ok none)
  else
    let scan := (annexBNals encoded).foldl DecodeScan.nal (.start decoder)
    (⟨scan.config⟩, present scan)

end H264Decoder

end TeamView.Client
