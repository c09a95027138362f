import TeamView.Client.H264Decoder
import TeamView.Client.Scaling

set_option autoImplicit false

/-! # The synthetic H.264 round trip

What the decoder shows of the frames that the encoder writes. The bytes behind the slice are not
escaped: they count up from a byte that the frame id and the length decide, and with the zeros at
the end of the slice they may form a start code (`Clashes`), which cuts the slice short.
-/

namespace TeamView.Client

open TeamView.Protocol Bytes MachineInt

/-! ## Reading back what was written -/

/-- A field of four bytes behind others. -/
theorem u32At_of_append {front : List UInt8} {offset : Nat} (hfront : front.length = offset)
    (value : UInt32) (tail : List UInt8) :
    u32At (front ++ (leBytes 4 value.toNat ++ tail)) offset = value := by
  have hfield : ((front ++ (leBytes 4 value.toNat ++ tail)).drop offset).take 4
      = leBytes 4 value.toNat := by
    rw [← hfront, List.drop_left]
    exact List.take_left' (leBytes_length 4 value.toNat)
  have hvalue : value.toNat < 256 ^ 4 := value.toNat_lt
  rw [u32At, hfield, ofLe_leBytes 4 _ hvalue, UInt32.ofNat_toNat]

theorem parseSyntheticSps_payload {width height : UInt32} (hwidth : width ≠ 0)
    (hheight : height ≠ 0) (frames_per_second : UInt16) :
    parseSyntheticSps (syntheticSpsPayload width height frames_per_second)
      = some ⟨width, height⟩ := by
  have hlength : (syntheticSpsPayload width height frames_per_second).length = 14 := by
    simp [syntheticSpsPayload, syntheticSpsMagic]
  have hmagic : (syntheticSpsPayload width height frames_per_second).take 4
      = [0x54, 0x56, 0x53, 0x31] := List.take_left' rfl
  have hw : u32At (syntheticSpsPayload width height frames_per_second) 4 = width :=
    u32At_of_append rfl width _
  have hh : u32At (syntheticSpsPayload width height frames_per_second) 8 = height := by
    rw [syntheticSpsPayload, ← List.append_assoc]
    refine u32At_of_append ?_ height _
    simp [syntheticSpsMagic]
  unfold parseSyntheticSps
  rw [if_neg (by omega), if_neg (not_not.mpr hmagic), hw, hh]
  exact if_neg (not_or.mpr ⟨hwidth, hheight⟩)

/-- The payload of a frame, and any bytes behind it. -/
theorem parseSyntheticFrame_payload {frame_id width height : UInt32} (hwidth : width ≠ 0)
    (hheight : height ≠ 0) (tail : List UInt8) :
    parseSyntheticFrame (syntheticFrameMagic ++ (leBytes 4 frame_id.toNat ++
        (leBytes 4 width.toNat ++ (leBytes 4 height.toNat ++ tail))))
      = some ⟨frame_id, width, height, parseSyntheticPreview tail⟩ := by
  generalize hpayload : syntheticFrameMagic ++ (leBytes 4 frame_id.toNat ++
    (leBytes 4 width.toNat ++ (leBytes 4 height.toNat ++ tail))) = payload
  have hlength : 16 ≤ payload.length := by
    rw [← hpayload]
    simp only [syntheticFrameMagic, List.length_append, List.length_cons, List.length_nil,
      leBytes_length]
    omega
  have hmagic : payload.take 4 = [0x54, 0x56, 0x46, 0x31] := by
    rw [← hpayload]
    exact List.take_left' rfl
  have hid : u32At payload 4 = frame_id := by
    rw [← hpayload]
    exact u32At_of_append rfl frame_id _
  have hw : u32At payload 8 = width := by
    rw [← hpayload, ← List.append_assoc]
    refine u32At_of_append ?_ width _
    simp [syntheticFrameMagic]
  have hh : u32At payload 12 = height := by
    rw [← hpayload, ← List.append_assoc, ← List.append_assoc]
    refine u32At_of_append ?_ height _
    simp [syntheticFrameMagic]
  have htail : payload.drop 16 = tail := by
    rw [← hpayload, ← List.append_assoc, ← List.append_assoc, ← List.append_assoc]
    refine List.drop_left' ?_
    simp [syntheticFrameMagic]
  unfold parseSyntheticFrame
  rw [if_neg (by omega), if_neg (not_not.mpr hmagic), hid, hw, hh, htail]
  exact if_neg (not_or.mpr ⟨hwidth, hheight⟩)

/-- Bytes that count up are no preview: the first two letters of its magic do not. -/
theorem parseSyntheticPreview_ascending (first : UInt8) (count : Nat) :
    parseSyntheticPreview (ascending first count) = none := by
  unfold parseSyntheticPreview
  split
  · rfl
  · next hlong =>
      rw [length_ascending] at hlong
      obtain ⟨rest, hrest⟩ : ∃ rest, count = rest + 4 := ⟨count - 4, by omega⟩
      rw [if_pos]
      subst hrest
      intro hmagic
      simp only [ascending, List.take_succ_cons, List.take_zero, List.cons.injEq] at hmagic
      obtain ⟨hfirst, hsecond, -⟩ := hmagic
      rw [hfirst] at hsecond
      cases hsecond

/-- The payload of a preview, whole or cut short. -/
theorem parseSyntheticPreview_payload {width height : UInt32} (hwidth : width ≠ 0)
    (hheight : height ≠ 0) {byte_len : Nat} (hlen : byte_len = width.toNat * height.toNat * 4)
    (hsize : byte_len < 2 ^ 32) (pixels : List UInt8) :
    parseSyntheticPreview (syntheticPreviewMagic ++ (leBytes 4 width.toNat ++
        (leBytes 4 height.toNat ++ (leBytes 4 byte_len ++ pixels))))
      = if pixels.length < byte_len then none else some ⟨width, height, pixels.take byte_len⟩ := by
  have hfield : (UInt32.ofNat byte_len).toNat = byte_len := by
    rw [UInt32.toNat_ofNat', Nat.mod_eq_of_lt hsize]
  rw [← hfield]
  generalize hpayload : syntheticPreviewMagic ++ (leBytes 4 width.toNat ++
    (leBytes 4 height.toNat ++ (leBytes 4 (UInt32.ofNat byte_len).toNat ++ pixels))) = payload
  have hlength : payload.length = 16 + pixels.length := by
    rw [← hpayload]
    simp only [syntheticPreviewMagic, List.length_append, List.length_cons, List.length_nil,
      leBytes_length]
    omega
  -- the fields are where the parser looks for them
  have hmagic : payload.take 4 = [0x54, 0x56, 0x42, 0x31] := by
    rw [← hpayload]
    exact List.take_left' rfl
  have hw : u32At payload 4 = width := by
    rw [← hpayload]
    exact u32At_of_append rfl width _
  have hh : u32At payload 8 = height := by
    rw [← hpayload, ← List.append_assoc]
    refine u32At_of_append ?_ height _
    simp [syntheticPreviewMagic]
  have hl : u32At payload 12 = UInt32.ofNat byte_len := by
    rw [← hpayload, ← List.append_assoc, ← List.append_assoc]
    refine u32At_of_append ?_ (UInt32.ofNat byte_len) _
    simp [syntheticPreviewMagic]
  have htail : payload.drop 16 = pixels := by
    rw [← hpayload, ← List.append_assoc, ← List.append_assoc, ← List.append_assoc]
    refine List.drop_left' ?_
    simp [syntheticPreviewMagic]
  have hwide : u64Max = 2 ^ 64 - 1 := by decide
  -- no product overflows, and the length that is declared is the right one
  have hfour : checkedMul u64Max width.toNat height.toNat = some (width.toNat * height.toNat) := by
    rw [checkedMul, if_pos (by omega)]
  have hexpected : checkedMul u64Max (width.toNat * height.toNat) 4 = some byte_len := by
    rw [checkedMul, if_pos (by omega), hlen]
  unfold parseSyntheticPreview
  rw [if_neg (by omega), if_neg (not_not.mpr hmagic), hw, hh, hl, htail, hfield, hlength]
  simp only
  rw [if_neg (not_or.mpr ⟨hwidth, hheight⟩), hfour, Option.bind_some, hexpected]
  simp only [ne_eq, not_true_eq_false, if_false, Nat.add_lt_add_iff_left]

/-! ## Previews -/

/-- The pixels of the preview, each the source pixel nearest to it. -/
def nearestPreview (source_pixels : List UInt8) (width height : UInt32) : List UInt8 :=
  let preview := previewDimensions width height
  (positions preview.1 preview.2).flatMap fun position =>
    (source_pixels.drop
      (nearestOffset width height preview.1 preview.2 position.1 position.2)).take 4

/-- The preview of a picture that is all there. -/
theorem downsample_eq {source_pixels : List UInt8} {width height : UInt32}
    (hwidth : 1 ≤ width.toNat) (hheight : 1 ≤ height.toNat)
    (hlength : source_pixels.length = width.toNat * height.toNat * 4) :
    downsampleBgraNearest source_pixels width height (previewDimensions width height).1
        (previewDimensions width height).2 = some (nearestPreview source_pixels width height) ∧
      (nearestPreview source_pixels width height).length
        = (previewDimensions width height).1.toNat * (previewDimensions width height).2.toNat * 4 :=
  ⟨downsample_nearest hwidth hheight hlength,
    (nearestPixels_samples hwidth hheight hlength).length⟩

/-! ## One frame -/

/-- The capture frames that the round trip is about. -/
structure ValidFrame (frame : CaptureFrame) : Prop where
  width_pos : 1 ≤ frame.width.toNat
  height_pos : 1 ≤ frame.height.toNat
  size_le : frame.width.toNat * frame.height.toNat ≤ maxSyntheticDecodedPixels
  storage_ok : frame.storage = .metadataOnly ∨ (frame.format = .bgra8 ∧ ∃ pixels,
    frame.storage = .cpuBytes pixels ∧
      pixels.length = frame.width.toNat * frame.height.toNat * 4)

/-- The preview of a frame, when it has pixels. -/
def framePreview (frame : CaptureFrame) : Option SyntheticPreview :=
  match frame.storage with
  | .cpuBytes pixels =>
      let preview := previewDimensions frame.width frame.height
      some ⟨preview.1, preview.2, nearestPreview pixels frame.width frame.height⟩
  | _ => none

/-- What the decoder is to make of a frame: its id, and its preview or at least its dimensions. -/
def Shows (frame : CaptureFrame) (result : Except DecodeError (Option DecodedFrame)) : Prop :=
  ∃ decoded, result = .ok (some decoded) ∧ decoded.frame_id = frame.frame_id.toUInt32 ∧
    match framePreview frame with
    | some preview => decoded.width = preview.width ∧ decoded.height = preview.height ∧
        decoded.pixels = preview.pixels
    | none => decoded.width = frame.width ∧ decoded.height = frame.height

/-- The first byte behind the NAL units of a frame, if there is room for it. -/
def firstPadding (encoder : H264Encoder) (frame : CaptureFrame) : UInt8 :=
  (frame.frame_id + UInt64.ofNat (encoder.frameNals frame).length).toUInt8

/-- The bytes behind the slice make a start code with the zeros that the slice ends in. -/
def Clashes (encoder : H264Encoder) (frame : CaptureFrame) : Prop :=
  Clash (zerosAfter 0 (syntheticFramePayload frame)) (firstPadding encoder frame)
    (encoder.config.synthetic_payload_bytes - (encoder.frameNals frame).length)

instance (encoder : H264Encoder) (frame : CaptureFrame) : Decidable (Clashes encoder frame) :=
  inferInstanceAs (Decidable (Clash _ _ _))

theorem paddingFrom_eq (frame_id : UInt64) (len count : Nat) :
    H264Encoder.paddingFrom frame_id len count
      = ascending (frame_id + UInt64.ofNat len).toUInt8 count := by
  induction count generalizing len with
  | zero => rfl
  | succ count ih =>
      have hnext : (frame_id + UInt64.ofNat (len + 1)).toUInt8
          = (frame_id + UInt64.ofNat len).toUInt8 + 1 := by
        rw [UInt64.ofNat_add, ← UInt64.add_assoc, UInt64.toUInt8_add]
        rfl
      rw [H264Encoder.paddingFrom, ascending, ih, hnext]

theorem ne_zero_of_pos {value : UInt32} (h : 1 ≤ value.toNat) : value ≠ 0 := by
  intro hzero
  rw [hzero] at h
  exact absurd h (by decide)

/-- The payload of the preview of a frame, which the decoder reads back. -/
theorem previewPayload_eq {frame : CaptureFrame} (hframe : ValidFrame frame) :
    (frame.storage = .metadataOnly ∧ syntheticPreviewPayload frame = none ∧
        framePreview frame = none) ∨
      ∃ preview byte_len, framePreview frame = some preview ∧
        preview.width ≠ 0 ∧ preview.height ≠ 0 ∧
        byte_len = preview.width.toNat * preview.height.toNat * 4 ∧ byte_len ≤ 57600 ∧
        4 ≤ byte_len ∧ preview.pixels.length = byte_len ∧
        syntheticPreviewPayload frame
          = some (syntheticPreviewMagic ++ (leBytes 4 preview.width.toNat ++
              (leBytes 4 preview.height.toNat ++ (leBytes 4 byte_len ++ preview.pixels)))) := by
  obtain ⟨hwidth, hheight, hsize, hmeta | ⟨hformat, pixels, hstorage, hlength⟩⟩ := hframe
  · refine .inl ⟨hmeta, ?_, ?_⟩
    · rw [syntheticPreviewPayload, hmeta]
    · rw [framePreview, hmeta]
  · obtain ⟨hdown, hpixels⟩ := downsample_eq hwidth hheight hlength
    obtain ⟨hw, hw', hh, hh'⟩ := previewDimensions_bounds hwidth hheight
    have hbound : (previewDimensions frame.width frame.height).1.toNat
        * (previewDimensions frame.width frame.height).2.toNat ≤ 160 * 90 :=
      Nat.mul_le_mul hw' hh'
    have hone : 1 * 1 ≤ (previewDimensions frame.width frame.height).1.toNat
        * (previewDimensions frame.width frame.height).2.toNat := Nat.mul_le_mul hw hh
    have hwide : u64Max = 2 ^ 64 - 1 := by decide
    have hmax : maxSyntheticDecodedPixels = 8294400 := by decide
    have hexpected : bgraByteLen frame.width frame.height
        = some (frame.width.toNat * frame.height.toNat * 4) := bgraByteLen_of_le (by omega)
    have hpreview : framePreview frame = some
        ⟨(previewDimensions frame.width frame.height).1,
          (previewDimensions frame.width frame.height).2,
          nearestPreview pixels frame.width frame.height⟩ := by
      rw [framePreview, hstorage]
    refine .inr ⟨_, (nearestPreview pixels frame.width frame.height).length, hpreview,
      ne_zero_of_pos hw, ne_zero_of_pos hh, hpixels, by omega, by omega, rfl, ?_⟩
    rw [syntheticPreviewPayload, hstorage]
    simp only [hformat, hexpected, hlength, ne_eq, not_true_eq_false, if_false, hdown,
      Option.map_some]

/-- A slice that reaches the decoder whole. -/
theorem parse_kept {frame : CaptureFrame} (hframe : ValidFrame frame) (first : UInt8)
    (count : Nat) :
    parseSyntheticFrame (syntheticFramePayload frame ++ ascending first count)
      = some ⟨frame.frame_id.toUInt32, frame.width, frame.height, framePreview frame⟩ := by
  have hwidth := ne_zero_of_pos hframe.width_pos
  have hheight := ne_zero_of_pos hframe.height_pos
  rw [syntheticFramePayload]
  simp only [List.append_assoc]
  rw [parseSyntheticFrame_payload hwidth hheight]
  congr 2
  rcases previewPayload_eq hframe with ⟨-, hnone, hpreview⟩ |
    ⟨preview, byte_len, hpreview, hpw, hph, hlen, hsize, -, hpixels, hpayload⟩
  · rw [hnone, hpreview]
    exact parseSyntheticPreview_ascending first count
  · rw [hpayload, hpreview, Option.getD_some]
    simp only [List.append_assoc]
    rw [parseSyntheticPreview_payload hpw hph hlen (by omega), if_neg, List.take_left' hpixels]
    rw [List.length_append]
    omega

theorem take_behind {front : List UInt8} {len : Nat} (hfront : front.length = len)
    (rest : List UInt8) (count : Nat) :
    (front ++ rest).take (len + count) = front ++ rest.take count := by
  rw [← hfront]
  exact List.take_length_add_append count

/-- A slice that lost the zeros at its end: without a preview nothing of it is left to read, and
with one its preview is not. -/
theorem parse_cut {frame : CaptureFrame} (hframe : ValidFrame frame) {zeros : Nat}
    (hone : 1 ≤ zeros) (htwo : zeros ≤ 2) :
    parseSyntheticFrame ((syntheticFramePayload frame).take
        ((syntheticFramePayload frame).length - zeros))
      = if frame.storage = .metadataOnly then none
        else some ⟨frame.frame_id.toUInt32, frame.width, frame.height, none⟩ := by
  have hwidth := ne_zero_of_pos hframe.width_pos
  have hheight := ne_zero_of_pos hframe.height_pos
  rcases previewPayload_eq hframe with ⟨hmeta, hnone, hpreview⟩ |
    ⟨preview, byte_len, hpreview, hpw, hph, hlen, hsize, hfour, hpixels, hpayload⟩
  · have hlength : (syntheticFramePayload frame).length = 16 := by
      rw [syntheticFramePayload, hnone]
      simp [syntheticFrameMagic]
    rw [if_pos hmeta, parseSyntheticFrame, if_pos]
    rw [List.length_take]
    omega
  · have hstored : frame.storage ≠ .metadataOnly := by
      intro hmeta
      rw [framePreview, hmeta] at hpreview
      cases hpreview
    have hlength : (syntheticFramePayload frame).length = 32 + byte_len := by
      rw [syntheticFramePayload, hpayload]
      simp only [syntheticFrameMagic, syntheticPreviewMagic, Option.getD_some, List.length_append,
        List.length_cons, List.length_nil, leBytes_length, hpixels]
      omega
    -- the cut is within the pixels
    have hcut : (syntheticFramePayload frame).take ((syntheticFramePayload frame).length - zeros)
        = syntheticFrameMagic ++ (leBytes 4 frame.frame_id.toUInt32.toNat ++
          (leBytes 4 frame.width.toNat ++ (leBytes 4 frame.height.toNat ++
            (syntheticPreviewMagic ++ (leBytes 4 preview.width.toNat ++
              (leBytes 4 preview.height.toNat ++ (leBytes 4 byte_len ++
                preview.pixels.take (byte_len - zeros)))))))) := by
      rw [hlength, syntheticFramePayload, hpayload, Option.getD_some]
      have hcount : 32 + byte_len - zeros = 4 + (4 + (4 + (4 + (4 + (4 + (4 + (4
          + (byte_len - zeros)))))))) := by omega
      have hmagic : syntheticFrameMagic.length = 4 := rfl
      have hmagic' : syntheticPreviewMagic.length = 4 := rfl
      rw [hcount, take_behind hmagic, take_behind (leBytes_length 4 _),
        take_behind (leBytes_length 4 _), take_behind (leBytes_length 4 _), take_behind hmagic',
        take_behind (leBytes_length 4 _), take_behind (leBytes_length 4 _),
        take_behind (leBytes_length 4 _)]
    rw [if_neg hstored, hcut, parseSyntheticFrame_payload hwidth hheight,
      parseSyntheticPreview_payload hpw hph hlen (by omega), if_pos]
    rw [List.length_take]
    omega

/-! ## The NAL units of a frame -/

/-- What the decoder learns from the slice of a frame. -/
def sliceInfo (encoder : H264Encoder) (frame : CaptureFrame) : Option SyntheticFrameInfo :=
  if Clashes encoder frame then
    if frame.storage = .metadataOnly then none
    else some ⟨frame.frame_id.toUInt32, frame.width, frame.height, none⟩
  else some ⟨frame.frame_id.toUInt32, frame.width, frame.height, framePreview frame⟩

/-- The slice as the decoder cuts it out, and what may be cut off behind it. -/
theorem nals_slice {frame : CaptureFrame} (hframe : ValidFrame frame) (encoder : H264Encoder)
    {nal_header : UInt8} (hheader : nal_header ≠ 0) (turns : Nat) :
    ∃ slice others, nalsWithin (turns + 2) (nalBytes nal_header (syntheticFramePayload frame)
          ++ ascending (firstPadding encoder frame)
            (encoder.config.synthetic_payload_bytes - (encoder.frameNals frame).length))
        = (nal_header :: slice) :: others ∧
      parseSyntheticFrame (annexBUnescapePayload slice) = sliceInfo encoder frame ∧
      ∀ scan, others.foldl DecodeScan.nal scan = scan := by
  by_cases hclash : Clashes encoder frame
  · obtain ⟨cut, more, hcut, hnals⟩ := nals_last_cut hheader hclash turns
    have hone : 1 ≤ zerosAfter 0 (syntheticFramePayload frame) := by
      rcases hclash with ⟨htwo, -, -⟩ | ⟨hone, -, -⟩
      · omega
      · exact hone
    have htwo := zerosAfter_le (Nat.zero_le 2) (syntheticFramePayload frame)
    refine ⟨cut, [ascending 2 more], hnals, ?_, ?_⟩
    · rw [hcut, parse_cut hframe hone htwo, sliceInfo, if_pos hclash]
    · -- its type is that of no NAL unit the decoder knows
      intro scan
      cases more with
      | zero => rfl
      | succ more => rfl
  · have hnals := nals_last_kept hheader hclash (turns + 1)
    rw [List.cons_append] at hnals
    obtain ⟨first, count, hrest⟩ := unescape_ascending
      (zerosAfter 0 (syntheticFramePayload frame)) (firstPadding encoder frame)
      (encoder.config.synthetic_payload_bytes - (encoder.frameNals frame).length)
    refine ⟨annexBEscapePayload (syntheticFramePayload frame) ++ ascending
      (firstPadding encoder frame)
      (encoder.config.synthetic_payload_bytes - (encoder.frameNals frame).length), [], hnals, ?_,
      fun scan => rfl⟩
    rw [annexBEscapePayload, annexBUnescapePayload, unescape_escape (Nat.zero_le 2), hrest,
      parse_kept hframe, sliceInfo, if_neg hclash]

/-- A slice, as the decoder's loop takes it up. -/
theorem scan_nonIdrSlice (scan : DecodeScan) (slice : List UInt8) :
    scan.nal (nalNonIdrSlice :: slice) = { scan with
      saw_slice := true
      frame_info := (parseSyntheticFrame (annexBUnescapePayload slice)).or scan.frame_info } := rfl

theorem scan_idrSlice (scan : DecodeScan) (slice : List UInt8) :
    scan.nal (nalIdrSlice :: slice) = { scan with
      saw_idr := true
      saw_slice := true
      frame_info := (parseSyntheticFrame (annexBUnescapePayload slice)).or scan.frame_info } := rfl

theorem scan_pps (scan : DecodeScan) (parameters : List UInt8) :
    scan.nal (nalPps :: parameters) = { scan with saw_pps := true } := rfl

/-- What the decoder has scanned of a frame. -/
theorem scan_frame {frame : CaptureFrame} (hframe : ValidFrame frame) (encoder : H264Encoder)
    (decoder : H264Decoder) :
    (annexBNals (encoder.encodedBytes frame)).foldl DecodeScan.nal (.start decoder)
      = { config := if encoder.isKeyframe frame then some ⟨frame.width, frame.height⟩
            else decoder.config
          saw_sps := encoder.isKeyframe frame
          saw_pps := encoder.isKeyframe frame
          saw_idr := encoder.isKeyframe frame
          saw_slice := true
          frame_info := sliceInfo encoder frame } := by
  have hwidth := ne_zero_of_pos hframe.width_pos
  have hheight := ne_zero_of_pos hframe.height_pos
  have hcode : annexBStartCode.length = 4 := rfl
  rw [H264Encoder.encodedBytes, paddingFrom_eq]
  show (annexBNals (encoder.frameNals frame ++ ascending (firstPadding encoder frame)
    (encoder.config.synthetic_payload_bytes - (encoder.frameNals frame).length))).foldl
      DecodeScan.nal (.start decoder) = _
  -- the padding is arbitrary bytes to the scan
  generalize hpadding : ascending (firstPadding encoder frame)
    (encoder.config.synthetic_payload_bytes - (encoder.frameNals frame).length) = padding
  cases hkey : encoder.isKeyframe frame with
  | false =>
      -- one unit, the slice, and turns enough for it and for what follows
      have hbytes : encoder.frameNals frame
          = nalBytes nalNonIdrSlice (syntheticFramePayload frame) := by
        rw [H264Encoder.frameNals, hkey]
        rfl
      obtain ⟨turns, hturns⟩ : ∃ turns, (encoder.frameNals frame ++ padding).length
          = turns + 2 := by
        refine ⟨(encoder.frameNals frame ++ padding).length - 2, ?_⟩
        rw [List.length_append, hbytes, nalBytes, List.length_append, List.length_cons]
        omega
      have hheader : nalNonIdrSlice ≠ 0 := by decide
      obtain ⟨slice, others, hnals, hinfo, hothers⟩ := nals_slice hframe encoder hheader turns
      rw [hpadding] at hnals
      rw [annexBNals, hturns, hbytes, hnals, List.foldl_cons, hothers, scan_nonIdrSlice, hinfo]
      simp [DecodeScan.start]
  | true =>
      -- two parameter sets before the slice, and a turn for each of them
      have hbytes : encoder.frameNals frame
          = nalBytes nalSps (syntheticSpsPayload frame.width frame.height
              encoder.config.frames_per_second)
            ++ (nalBytes nalPps syntheticPpsMagic
              ++ nalBytes nalIdrSlice (syntheticFramePayload frame)) := by
        rw [H264Encoder.frameNals, hkey]
        rfl
      obtain ⟨turns, hturns⟩ : ∃ turns, (encoder.frameNals frame ++ padding).length
          = turns + 2 + 1 + 1 := by
        refine ⟨(encoder.frameNals frame ++ padding).length - 4, ?_⟩
        rw [List.length_append, hbytes, nalBytes, List.length_append, List.length_append,
          List.length_cons]
        omega
      have hidr : nalIdrSlice ≠ 0 := by decide
      have hppsHeader : nalPps ≠ 0 := by decide
      have hspsHeader : nalSps ≠ 0 := by decide
      obtain ⟨slice, others, hnals, hinfo, hothers⟩ := nals_slice hframe encoder hidr turns
      rw [hpadding] at hnals
      have hstarts : ∀ (nal_header : UInt8) (payload rest : List UInt8),
          ∃ more, nalBytes nal_header payload ++ rest = annexBStartCode ++ more :=
        fun _ _ _ => ⟨_, List.append_assoc _ _ _⟩
      -- each unit ends where the start code of the next one stands
      have hpps := nextNal_nalBytes hppsHeader syntheticPpsMagic
        (hstarts nalIdrSlice (syntheticFramePayload frame) padding)
      have hsps := nextNal_nalBytes hspsHeader
        (syntheticSpsPayload frame.width frame.height encoder.config.frames_per_second)
        (hstarts nalPps syntheticPpsMagic
          (nalBytes nalIdrSlice (syntheticFramePayload frame) ++ padding))
      -- the stream parameters survive the escaping
      have hscan : ∀ scan : DecodeScan, (scan.nal (nalSps :: annexBEscapePayload
          (syntheticSpsPayload frame.width frame.height encoder.config.frames_per_second)))
            = { scan with saw_sps := true, config := some ⟨frame.width, frame.height⟩ } := by
        intro scan
        have hread := parseSyntheticSps_payload hwidth hheight encoder.config.frames_per_second
        show { scan with
          saw_sps := true
          config := (parseSyntheticSps (annexBUnescapePayload (annexBEscapePayload _))).or _ } = _
        rw [unescape_escape_self, hread, Option.some_or]
      rw [annexBNals, hturns, hbytes, List.append_assoc, List.append_assoc, nalsWithin_succ hsps,
        nalsWithin_succ hpps, hnals, List.foldl_cons, List.foldl_cons, List.foldl_cons, hothers,
        scan_idrSlice, hinfo, scan_pps, hscan]
      simp [DecodeScan.start]

/-! ## What is shown -/

/-- The scan of a frame whose parameters are known. -/
def scanned (config : SyntheticStreamConfig) (is_keyframe : Bool)
    (frame_info : Option SyntheticFrameInfo) : DecodeScan :=
  ⟨some config, is_keyframe, is_keyframe, is_keyframe, true, frame_info⟩

/-- Without a preview the decoder draws a pattern. -/
theorem present_pattern (config : SyntheticStreamConfig) (is_keyframe : Bool)
    (frame_info : Option SyntheticFrameInfo) (shown : SyntheticFrameInfo)
    (hshown : frame_info.getD ⟨0, config.width, config.height, none⟩ = shown)
    (hpreview : shown.preview = none) (hwidth : 1 ≤ shown.width.toNat)
    (hheight : 1 ≤ shown.height.toNat) :
    H264Decoder.present (scanned config is_keyframe frame_info)
      = if maxSyntheticDecodedPixels < shown.width.toNat * shown.height.toNat then
          .error .exceedsMaximumPreviewSize
        else .ok (some ⟨shown.frame_id, shown.width, shown.height, .bgra8,
          syntheticBgraPixels shown.width shown.height shown.frame_id is_keyframe⟩) := by
  have hmax : ∀ value : UInt32, 1 ≤ value.toNat → max value 1 = value := by
    intro value hvalue
    rw [← UInt32.toNat_inj, toNat_max]
    exact Nat.max_eq_left hvalue
  have hready : ¬ (is_keyframe = true ∧ (is_keyframe = false ∨ is_keyframe = false
      ∨ some config = none)) := by
    rintro ⟨hkey, hlacks⟩
    simp [hkey] at hlacks
  unfold H264Decoder.present scanned
  simp only [Bool.true_eq_false, if_false, if_neg hready, hshown, hpreview]
  rw [hmax _ hwidth, hmax _ hheight]

theorem present_preview (config : SyntheticStreamConfig) (is_keyframe : Bool)
    {shown : SyntheticFrameInfo} {preview : SyntheticPreview}
    (hpreview : shown.preview = some preview)
    (hsize : preview.width.toNat * preview.height.toNat ≤ maxSyntheticDecodedPixels) :
    H264Decoder.present (scanned config is_keyframe (some shown))
      = .ok (some ⟨shown.frame_id, preview.width, preview.height, .bgra8, preview.pixels⟩) := by
  have hready : ¬ (is_keyframe = true ∧ (is_keyframe = false ∨ is_keyframe = false
      ∨ some config = none)) := by
    rintro ⟨hkey, hlacks⟩
    simp [hkey] at hlacks
  unfold H264Decoder.present scanned
  simp only [Bool.true_eq_false, if_false, if_neg hready, Option.getD_some, hpreview]
  exact if_neg (by omega)

/-- The last byte of the pattern is that of an opaque pixel. -/
theorem syntheticBgraPixels_getLast {width height : UInt32} (hwidth : 1 ≤ width.toNat)
    (hheight : 1 ≤ height.toNat) (frame_id : UInt32) (is_keyframe : Bool) :
    (syntheticBgraPixels width height frame_id is_keyframe).getLast? = some 0xff := by
  obtain ⟨rows, hrows⟩ : ∃ rows, height.toNat = rows + 1 := ⟨height.toNat - 1, by omega⟩
  obtain ⟨columns, hcolumns⟩ : ∃ columns, width.toNat = columns + 1 := ⟨width.toNat - 1, by omega⟩
  unfold syntheticBgraPixels
  simp only
  rw [hrows, List.range_succ, List.flatMap_append, List.flatMap_singleton, hcolumns,
    List.range_succ, List.flatMap_append, List.flatMap_singleton]
  simp [List.getLast?_append]

/-- The last byte of a preview that a clash cuts is zero. -/
theorem framePreview_getLast {frame : CaptureFrame} (hframe : ValidFrame frame)
    {preview : SyntheticPreview} (hpreview : framePreview frame = some preview)
    (hzeros : 1 ≤ zerosAfter 0 (syntheticFramePayload frame)) :
    preview.pixels.getLast? = some 0 := by
  rcases previewPayload_eq hframe with ⟨-, -, hnone⟩ |
    ⟨preview', byte_len, hpreview', -, -, -, -, hfour, hpixels, hpayload⟩
  · rw [hnone] at hpreview
    cases hpreview
  · rw [hpreview] at hpreview'
    cases hpreview'
    obtain ⟨cut, shorter, -, htrailing, -⟩ := escape_trailing (syntheticFramePayload frame)
    obtain ⟨zeros, hcount⟩ : ∃ zeros, zerosAfter 0 (syntheticFramePayload frame) = zeros + 1 :=
      ⟨zerosAfter 0 (syntheticFramePayload frame) - 1, by omega⟩
    have hlast : (syntheticFramePayload frame).getLast? = some 0 := by
      rw [htrailing, hcount, List.replicate_succ', ← List.append_assoc]
      exact List.getLast?_concat
    have hsome : preview.pixels ≠ [] := by
      intro hnil
      rw [hnil, List.length_nil] at hpixels
      omega
    rw [syntheticFramePayload, hpayload, Option.getD_some] at hlast
    simp only [List.getLast?_append] at hlast
    rw [List.getLast?_eq_some_getLast hsome] at hlast ⊢
    exact hlast

/-- What the decoder shows of a frame. A keyframe brings its own parameters; any other frame is
shown only after one. -/
theorem decode_frame {frame : CaptureFrame} (hframe : ValidFrame frame) (encoder : H264Encoder)
    (decoder : H264Decoder) {config : SyntheticStreamConfig}
    (hconfig : (if encoder.isKeyframe frame then some ⟨frame.width, frame.height⟩
      else decoder.config) = some config) :
    decoder.decode (encoder.encodedBytes frame) = (⟨some config⟩, H264Decoder.present
      (scanned config (encoder.isKeyframe frame) (sliceInfo encoder frame))) := by
  have hnonempty : (encoder.encodedBytes frame).isEmpty = false := by
    rw [H264Encoder.encodedBytes, H264Encoder.frameNals]
    cases encoder.isKeyframe frame with
    | true => rfl
    | false => rfl
  have hscan := scan_frame hframe encoder decoder
  rw [hconfig] at hscan
  rw [H264Decoder.decode, hnonempty, if_neg (by decide), hscan]
  rfl

theorem shows_iff {frame : CaptureFrame} (hframe : ValidFrame frame) (encoder : H264Encoder)
    {config : SyntheticStreamConfig} (is_keyframe : Bool)
    (hpositive : 1 ≤ config.width.toNat ∧ 1 ≤ config.height.toNat) :
    Shows frame (H264Decoder.present (scanned config is_keyframe (sliceInfo encoder frame))) ↔
      (Clashes encoder frame → frame.storage = .metadataOnly ∧ frame.frame_id.toUInt32 = 0 ∧
        config = ⟨frame.width, frame.height⟩) := by
  have hfits : ¬ maxSyntheticDecodedPixels < frame.width.toNat * frame.height.toNat :=
    Nat.not_lt.mpr hframe.size_le
  have hmax : maxSyntheticDecodedPixels = 8294400 := by decide
  by_cases hclash : Clashes encoder frame
  · rw [sliceInfo, if_pos hclash]
    by_cases hmeta : frame.storage = .metadataOnly
    · -- nothing of the slice is left: the decoder shows frame 0 of the stream's size
      have hpattern := present_pattern config is_keyframe none
        ⟨0, config.width, config.height, none⟩ rfl rfl hpositive.1 hpositive.2
      rw [if_pos hmeta, hpattern]
      have hpreview : framePreview frame = none := by
        rw [framePreview, hmeta]
      constructor
      · -- only a frame that is frame 0 itself, of the size of the stream
        rintro ⟨decoded, hdecoded, hid, hsize⟩ -
        rw [hpreview] at hsize
        split at hdecoded
        · cases hdecoded
        · cases hdecoded
          refine ⟨hmeta, hid.symm, ?_⟩
          obtain ⟨hw, hh⟩ := hsize
          cases config
          exact congrArg₂ SyntheticStreamConfig.mk hw hh
      · intro hspecial
        obtain ⟨-, hid, rfl⟩ := hspecial hclash
        refine ⟨_, if_neg hfits, hid.symm, ?_⟩
        rw [hpreview]
        exact ⟨rfl, rfl⟩
    · -- the preview is cut, and the pattern in its place has another last byte
      have hpattern := present_pattern config is_keyframe
        (some ⟨frame.frame_id.toUInt32, frame.width, frame.height, none⟩)
        ⟨frame.frame_id.toUInt32, frame.width, frame.height, none⟩ rfl rfl
        hframe.width_pos hframe.height_pos
      rw [if_neg hmeta, hpattern, if_neg hfits]
      constructor
      · rintro ⟨decoded, hdecoded, -, hsize⟩ -
        cases hdecoded
        rcases previewPayload_eq hframe with ⟨hstored, -, -⟩ | ⟨preview, -, hpreview, -⟩
        · exact absurd hstored hmeta
        · rw [hpreview] at hsize
          have hzeros : 1 ≤ zerosAfter 0 (syntheticFramePayload frame) := by
            rcases hclash with ⟨htwo, -, -⟩ | ⟨hone, -, -⟩
            · omega
            · exact hone
          -- the captured preview ends in a zero, the pattern in an opaque pixel
          have hlast := framePreview_getLast hframe hpreview hzeros
          rw [← hsize.2.2, syntheticBgraPixels_getLast hframe.width_pos hframe.height_pos] at hlast
          cases hlast
      · intro hspecial
        exact absurd (hspecial hclash).1 hmeta
  · rw [sliceInfo, if_neg hclash]
    -- without a clash the slice is read back whole
    refine iff_of_true ?_ fun h => absurd h hclash
    rcases previewPayload_eq hframe with ⟨-, -, hpreview⟩ |
      ⟨preview, byte_len, hpreview, -, -, hlen, hsize, -, -, -⟩
    · have hpattern := present_pattern config is_keyframe
        (some ⟨frame.frame_id.toUInt32, frame.width, frame.height, framePreview frame⟩)
        ⟨frame.frame_id.toUInt32, frame.width, frame.height, framePreview frame⟩ rfl hpreview
        hframe.width_pos hframe.height_pos
      rw [hpattern]
      refine ⟨_, if_neg hfits, rfl, ?_⟩
      rw [hpreview]
      exact ⟨rfl, rfl⟩
    · rw [present_preview config is_keyframe hpreview (by omega)]
      refine ⟨_, rfl, rfl, ?_⟩
      rw [hpreview]
      exact ⟨rfl, rfl, rfl⟩

/-! ## A whole stream -/

/-- The calls to the encoder. -/
inductive EncoderCall where
  | requestKeyframe
  | encode (frame : CaptureFrame) (stream_id : UInt32)
  deriving DecidableEq

/-- The frames that one encoder is given, each with what one decoder makes of its output. -/
def roundTrip : H264Encoder → H264Decoder → List EncoderCall →
    List (CaptureFrame × Except DecodeError (Option DecodedFrame))
  | _, _, [] => []
  | encoder, decoder, .requestKeyframe :: calls => roundTrip encoder.requestKeyframe decoder calls
  | encoder, decoder, .encode frame stream_id :: calls =>
      let (encoder', encoded) := encoder.encode frame stream_id
      let (decoder', result) := decoder.decode encoded.bytes
      (frame, result) :: roundTrip encoder' decoder' calls

/-- The first frame of the calls is encoded as a keyframe. -/
def StartsWithKeyframe : H264Encoder → List EncoderCall → Prop
  | _, [] => True
  | encoder, .requestKeyframe :: calls => StartsWithKeyframe encoder.requestKeyframe calls
  | encoder, .encode frame _ :: _ => encoder.isKeyframe frame = true

/-- No frame of the calls clashes with the bytes behind it, unless it is a frame without pixels
whose id counts as zero and whose dimensions are those of the last keyframe. -/
def Harmless : H264Encoder → Option SyntheticStreamConfig → List EncoderCall → Prop
  | _, _, [] => True
  | encoder, last_keyframe, .requestKeyframe :: calls =>
      Harmless encoder.requestKeyframe last_keyframe calls
  | encoder, last_keyframe, .encode frame _ :: calls =>
      let last_keyframe := if encoder.isKeyframe frame then some ⟨frame.width, frame.height⟩
        else last_keyframe
      (Clashes encoder frame → frame.storage = .metadataOnly ∧ frame.frame_id.toUInt32 = 0 ∧
        last_keyframe = some ⟨frame.width, frame.height⟩) ∧
      Harmless { encoder with keyframe_requested := false } last_keyframe calls

/-- Every frame of the calls is shown. -/
def RoundTrips (encoder : H264Encoder) (decoder : H264Decoder) (calls : List EncoderCall) : Prop :=
  ∀ frame result, (frame, result) ∈ roundTrip encoder decoder calls → Shows frame result

/-- One more frame, whose parameters the decoder then knows. -/
theorem roundTrips_encode {frame : CaptureFrame} (hframe : ValidFrame frame)
    (encoder : H264Encoder) (decoder : H264Decoder) {config : SyntheticStreamConfig}
    (hconfig : (if encoder.isKeyframe frame then some ⟨frame.width, frame.height⟩
      else decoder.config) = some config)
    (hpositive : 1 ≤ config.width.toNat ∧ 1 ≤ config.height.toNat) (stream_id : UInt32)
    (calls : List EncoderCall) :
    RoundTrips encoder decoder (.encode frame stream_id :: calls) ↔
      (Clashes encoder frame → frame.storage = .metadataOnly ∧ frame.frame_id.toUInt32 = 0 ∧
        some config = some ⟨frame.width, frame.height⟩) ∧
      RoundTrips { encoder with keyframe_requested := false } ⟨some config⟩ calls := by
  have hdecode := decode_frame hframe encoder decoder hconfig
  have hshows := shows_iff hframe encoder (encoder.isKeyframe frame) hpositive
  have htrip : roundTrip encoder decoder (.encode frame stream_id :: calls)
      = (frame, H264Decoder.present
          (scanned config (encoder.isKeyframe frame) (sliceInfo encoder frame)))
        :: roundTrip { encoder with keyframe_requested := false } ⟨some config⟩ calls := by
    show (frame, (decoder.decode (encoder.encodedBytes frame)).2)
      :: roundTrip { encoder with keyframe_requested := false }
        (decoder.decode (encoder.encodedBytes frame)).1 calls = _
    rw [hdecode]
  rw [Option.some_inj, ← hshows]
  unfold RoundTrips
  rw [htrip]
  constructor
  · intro hall
    refine ⟨hall frame _ List.mem_cons_self, fun other result hmem => ?_⟩
    exact hall other result (List.mem_cons_of_mem _ hmem)
  · rintro ⟨hfirst, hrest⟩ other result hmem
    rcases List.mem_cons.mp hmem with heq | hmem
    · cases heq
      exact hfirst
    · exact hrest other result hmem

/-- From a keyframe on. -/
theorem roundTrips_iff_of_config {calls : List EncoderCall}
    (hvalid : ∀ frame stream_id, .encode frame stream_id ∈ calls → ValidFrame frame)
    (encoder : H264Encoder) {config : SyntheticStreamConfig}
    (hpositive : 1 ≤ config.width.toNat ∧ 1 ≤ config.height.toNat) :
    RoundTrips encoder ⟨some config⟩ calls ↔ Harmless encoder (some config) calls := by
  induction calls generalizing encoder config with
  | nil =>
      refine iff_of_true ?_ trivial
      intro frame result hmem
      cases hmem
  | cons call calls ih =>
      have hrest : ∀ frame stream_id, .encode frame stream_id ∈ calls → ValidFrame frame :=
        fun frame stream_id hmem => hvalid frame stream_id (List.mem_cons_of_mem _ hmem)
      cases call with
      | requestKeyframe => exact ih hrest encoder.requestKeyframe hpositive
      | encode frame stream_id =>
          have hframe := hvalid frame stream_id List.mem_cons_self
          rw [Harmless]
          cases hkey : encoder.isKeyframe frame with
          | true =>
              have hown : 1 ≤ frame.width.toNat ∧ 1 ≤ frame.height.toNat :=
                ⟨hframe.width_pos, hframe.height_pos⟩
              rw [roundTrips_encode hframe encoder _ (if_pos hkey) hown, ih hrest _ hown]
              rfl
          | false =>
              have hnot : ¬ encoder.isKeyframe frame = true := by
                rw [hkey]
                decide
              rw [roundTrips_encode hframe encoder _ (if_neg hnot) hpositive, ih hrest _ hpositive]
              rfl

/-- The synthetic round trip shows every frame if and only if no frame clashes with the bytes
behind it, but for frames that a cut slice shows all the same. -/
theorem roundTrips_iff_harmless (encoder : H264Encoder) (decoder : H264Decoder)
    (calls : List EncoderCall)
    (hvalid : ∀ frame stream_id, .encode frame stream_id ∈ calls → ValidFrame frame)
    (hstart : StartsWithKeyframe encoder calls) :
    RoundTrips encoder decoder calls ↔ Harmless encoder none calls := by
  induction calls generalizing encoder with
  | nil =>
      refine iff_of_true ?_ trivial
      intro frame result hmem
      cases hmem
  | cons call calls ih =>
      have hrest : ∀ frame stream_id, .encode frame stream_id ∈ calls → ValidFrame frame :=
        fun frame stream_id hmem => hvalid frame stream_id (List.mem_cons_of_mem _ hmem)
      cases call with
      | requestKeyframe => exact ih encoder.requestKeyframe hrest hstart
      | encode frame stream_id =>
          have hframe := hvalid frame stream_id List.mem_cons_self
          have hown : 1 ≤ frame.width.toNat ∧ 1 ≤ frame.height.toNat :=
            ⟨hframe.width_pos, hframe.height_pos⟩
          have hkey : encoder.isKeyframe frame = true := hstart
          rw [Harmless, hkey, roundTrips_encode hframe encoder _ (if_pos hkey) hown,
            roundTrips_iff_of_config hrest _ hown]
          rfl

/-- A frame without pixels, of the size that the encoder is configured for by default. -/
def plainFrame (frame_id : UInt64) : CaptureFrame :=
  ⟨frame_id, 1280, 720, 0, .unknown, .metadataOnly⟩

theorem validFrame_plainFrame (frame_id : UInt64) : ValidFrame (plainFrame frame_id) where
  width_pos := (by decide : 1 ≤ (1280 : UInt32).toNat)
  height_pos := (by decide : 1 ≤ (720 : UInt32).toNat)
  size_le := (by decide : (1280 : UInt32).toNat * (720 : UInt32).toNat ≤ maxSyntheticDecodedPixels)
  storage_ok := .inl rfl

/-- Three frames without pixels, the second and the third without a clash. -/
theorem roundTrips_plainFrames :
    RoundTrips ⟨.default, false⟩ ⟨none⟩
      [.encode (plainFrame 1) 1, .encode (plainFrame 2) 1, .encode (plainFrame 3) 1] := by
  have hstart : StartsWithKeyframe ⟨.default, false⟩
      [.encode (plainFrame 1) 1, .encode (plainFrame 2) 1, .encode (plainFrame 3) 1] := rfl
  refine (roundTrips_iff_harmless ⟨.default, false⟩ ⟨none⟩ _ ?_ hstart).mpr ?_
  · intro frame stream_id hmem
    simp only [List.mem_cons, EncoderCall.encode.injEq, List.not_mem_nil, or_false] at hmem
    rcases hmem with ⟨rfl, -⟩ | ⟨rfl, -⟩ | ⟨rfl, -⟩ <;> exact validFrame_plainFrame _
  · have h1 : ¬ Clashes ⟨.default, false⟩ (plainFrame 1) := by decide +kernel
    have h2 : ¬ Clashes ⟨.default, false⟩ (plainFrame 2) := by decide +kernel
    have h3 : ¬ Clashes ⟨.default, false⟩ (plainFrame 3) := by decide +kernel
    exact ⟨fun h => absurd h h1, fun h => absurd h h2, fun h => absurd h h3, trivial⟩

/-- Behind frame 234 the first byte is a zero and the second a one, and the frame ends in zeros. -/
theorem not_roundTrips_frame_234 :
    ¬ ∀ (encoder : H264Encoder) (calls : List EncoderCall),
      (∀ frame stream_id, .encode frame stream_id ∈ calls → ValidFrame frame) →
      StartsWithKeyframe encoder calls → RoundTrips encoder ⟨none⟩ calls := by
  intro hall
  have hvalid : ∀ frame stream_id, EncoderCall.encode frame stream_id
      ∈ [.encode (plainFrame 1) 1, .encode (plainFrame 234) 1] → ValidFrame frame := by
    intro frame stream_id hmem
    simp only [List.mem_cons, EncoderCall.encode.injEq, List.not_mem_nil, or_false] at hmem
    rcases hmem with ⟨rfl, -⟩ | ⟨rfl, -⟩ <;> exact validFrame_plainFrame _
  have hstart : StartsWithKeyframe ⟨.default, false⟩
      [.encode (plainFrame 1) 1, .encode (plainFrame 234) 1] := rfl
  have hkey : H264Encoder.isKeyframe ⟨.default, false⟩ (plainFrame 1) = true := rfl
  have hown : 1 ≤ (1280 : UInt32).toNat ∧ 1 ≤ (720 : UInt32).toNat := by decide
  have htrips := hall ⟨.default, false⟩ _ hvalid hstart
  rw [roundTrips_encode (validFrame_plainFrame 1) _ _ (if_pos hkey) hown,
    roundTrips_iff_of_config (fun frame stream_id hmem =>
      hvalid frame stream_id (List.mem_cons_of_mem _ hmem)) _ hown] at htrips
  have hclash : Clashes ⟨.default, false⟩ (plainFrame 234) := by decide +kernel
  have hid : (plainFrame 234).frame_id.toUInt32 = 0 := (htrips.2.1 hclash).2.1
  exact absurd hid (by decide)

end TeamView.Client
