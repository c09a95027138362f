import TeamView.Client.H264Encoder
import TeamView.Lib.Blocks

set_option autoImplicit false

/-! # Previews and resized frames

A captured frame is scaled twice: to the target of the stream before it is encoded
(`CaptureFrame::resize_bgra_nearest`, `crates/desktop-client/src/capture/mod.rs`) and to the preview
inside its slice (`crates/desktop-client/src/encode/h264.rs`). Both take the nearest source pixel.
The preview is to fit 160 by 90 pixels without being larger than the frame, which it does unless the
height it would have at the full width is cut to 32 bits.
-/

namespace TeamView.Client

open TeamView.Protocol MachineInt Blocks

/-! ## Resizing -/

/-- `isize::MAX`, the most bytes that `Vec::with_capacity` takes. -/
def isizeMax : Nat := 9223372036854775807

/-- The function of this name. Its `Vec::with_capacity` panics above `isize::MAX`, here with
`none`. -/
def resizeBgraNearest (source_pixels : List UInt8)
    (source_width source_height width height : UInt32) : Option (Except String (List UInt8)) :=
  match bgraByteLen width height with
  | none => some (.error "BGRA frame dimensions are too large")
  | some byte_len =>
      if isizeMax < byte_len then none
      else
        match gatherPixels source_pixels ((positions width height).map fun position =>
          nearestOffset source_width source_height width height position.1 position.2) with
        | none => some (.error "BGRA frame buffer is shorter than expected")
        | some resized => some (.ok resized)

namespace CaptureFrame

def metadataOnly (frame_id : UInt64) (width height : UInt32) (capture_time_micros : UInt64) :
    CaptureFrame :=
  ⟨frame_id, width, height, capture_time_micros, .bgra8, .metadataOnly⟩

/-- The refusal of a buffer that has not the length of its dimensions. -/
def bufferLengthError (len : Nat) (width height : UInt32) (expected_len : Nat) : String :=
  s!"BGRA frame buffer length {len} does not match {width}x{height}x4 ({expected_len})"

def cpuBgra (frame_id : UInt64) (width height : UInt32) (capture_time_micros : UInt64)
    (bytes : List UInt8) : Except String CaptureFrame :=
  match bgraByteLen width height with
  | none => .error "BGRA frame dimensions are too large"
  | some expected_len =>
      if bytes.length ≠ expected_len then
        .error (bufferLengthError bytes.length width height expected_len)
      else .ok ⟨frame_id, width, height, capture_time_micros, .bgra8, .cpuBytes bytes⟩

/-- The method of this name, for a frame that is resized to the target of its stream. -/
def resizeBgraNearest (frame : CaptureFrame) (width height : UInt32) :
    Option (Except String CaptureFrame) :=
  if width = 0 ∨ height = 0 then some (.error "resize target dimensions must be non-zero")
  else if frame.width = width ∧ frame.height = height then some (.ok frame)
  else
    match frame.storage with
    | .cpuBytes source_pixels =>
        if frame.format ≠ .bgra8 then
          some (.ok (metadataOnly frame.frame_id width height frame.capture_time_micros))
        else
          match bgraByteLen frame.width frame.height with
          | none => some (.error "BGRA frame dimensions are too large")
          | some expected_len =>
              if source_pixels.length ≠ expected_len then
                some (.error (bufferLengthError source_pixels.length frame.width frame.height
                  expected_len))
              else
                (Client.resizeBgraNearest source_pixels frame.width frame.height width
                  height).map fun resized => resized.bind fun bytes =>
                    cpuBgra frame.frame_id width height frame.capture_time_micros bytes
    | _ => some (.ok (metadataOnly frame.frame_id width height frame.capture_time_micros))

end CaptureFrame

/-! ## The nearest pixels -/

theorem bgraByteLen_eq_some {width height : UInt32} {byte_len : Nat}
    (h : bgraByteLen width height = some byte_len) :
    byte_len = width.toNat * height.toNat * 4 := by
  unfold bgraByteLen at h
  obtain ⟨pixels, hpixels, hbytes⟩ := Option.bind_eq_some_iff.mp h
  rw [eq_of_checkedMul hbytes, eq_of_checkedMul hpixels]

theorem mem_positions {width height : UInt32} {position : Nat × Nat} :
    position ∈ positions width height
      ↔ position.1 < height.toNat ∧ position.2 < width.toNat := mem_cells

theorem gatherPixels_eq {source_pixels : List UInt8} {offsets : List Nat}
    (hin : ∀ offset ∈ offsets, offset + 4 ≤ source_pixels.length) :
    gatherPixels source_pixels offsets
      = some (offsets.flatMap fun offset => (source_pixels.drop offset).take 4) := by
  induction offsets with
  | nil => rfl
  | cons offset offsets ih =>
      rw [List.forall_mem_cons] at hin
      rw [gatherPixels, if_pos hin.1, ih hin.2, Option.map_some, List.flatMap_cons]

/-- The pixel in column `x` of row `y`. -/
def pixelAt (pixels : List UInt8) (width x y : Nat) : List UInt8 :=
  block 4 pixels (y * width + x)

/-- The pixels of a scaled picture, each the source pixel nearest to it. -/
def nearestPixels (source_pixels : List UInt8) (source_width source_height width height : UInt32) :
    List UInt8 :=
  (positions width height).flatMap fun position =>
    (source_pixels.drop
      (nearestOffset source_width source_height width height position.1 position.2)).take 4

/-- The sampling law: the bytes are a picture of its dimensions, and the pixel at each position is
the source pixel at the position scaled and rounded down. -/
structure SamplesNearest (source_pixels : List UInt8)
    (source_width source_height width height : UInt32) (pixels : List UInt8) : Prop where
  length : pixels.length = width.toNat * height.toNat * 4
  pixel : ∀ x < width.toNat, ∀ y < height.toNat, pixelAt pixels width.toNat x y =
    pixelAt source_pixels source_width.toNat (x * source_width.toNat / width.toNat)
      (y * source_height.toNat / height.toNat)

section Nearest

variable {source_pixels : List UInt8} {source_width source_height width height : UInt32}

/-- A source position is a position of the source. -/
theorem scaled_lt {size source_size position : Nat} (hsource : 1 ≤ source_size)
    (hposition : position < size) : position * source_size / size < source_size :=
  Nat.div_lt_of_lt_mul (Nat.mul_lt_mul_of_pos_right hposition hsource)

/-- The source pixel of a position is within the source. -/
theorem nearestOffset_lt (hwidth : 1 ≤ source_width.toNat) (hheight : 1 ≤ source_height.toNat)
    {y x : Nat} (hy : y < height.toNat) (hx : x < width.toNat) :
    nearestOffset source_width source_height width height y x + 4
      ≤ source_width.toNat * source_height.toNat * 4 := by
  have hcell := cell_lt (scaled_lt hwidth hx) (scaled_lt hheight hy)
  unfold nearestOffset
  dsimp only
  omega

theorem nearest_in (hwidth : 1 ≤ source_width.toNat) (hheight : 1 ≤ source_height.toNat)
    (hlength : source_pixels.length = source_width.toNat * source_height.toNat * 4) :
    ∀ position ∈ positions width height,
      nearestOffset source_width source_height width height position.1 position.2 + 4
        ≤ source_pixels.length := by
  intro position hposition
  rw [mem_positions] at hposition
  rw [hlength]
  exact nearestOffset_lt hwidth hheight hposition.1 hposition.2

theorem gather_nearest (hwidth : 1 ≤ source_width.toNat) (hheight : 1 ≤ source_height.toNat)
    (hlength : source_pixels.length = source_width.toNat * source_height.toNat * 4) :
    gatherPixels source_pixels ((positions width height).map fun position =>
        nearestOffset source_width source_height width height position.1 position.2)
      = some (nearestPixels source_pixels source_width source_height width height) := by
  rw [gatherPixels_eq, List.flatMap_map]
  · rfl
  · intro offset hoffset
    obtain ⟨position, hposition, rfl⟩ := List.mem_map.mp hoffset
    exact nearest_in hwidth hheight hlength position hposition

theorem nearestPixels_samples (hwidth : 1 ≤ source_width.toNat) (hheight : 1 ≤ source_height.toNat)
    (hlength : source_pixels.length = source_width.toNat * source_height.toNat * 4) :
    SamplesNearest source_pixels source_width source_height width height
      (nearestPixels source_pixels source_width source_height width height) := by
  have hfour : ∀ position ∈ positions width height, ((source_pixels.drop
      (nearestOffset source_width source_height width height position.1 position.2)).take
        4).length = 4 := by
    intro position hposition
    have hposition := nearest_in hwidth hheight hlength position hposition
    rw [List.length_take, List.length_drop]
    omega
  constructor
  · rw [nearestPixels, length_flatMap hfour]
    exact congrArg (· * 4) (length_cells width.toNat height.toNat)
  · intro x hx y hy
    exact block_cells hfour hx hy

end Nearest

/-! ## The dimensions of a preview -/

theorem toNat_max (a b : UInt32) : (max a b).toNat = max a.toNat b.toNat := by
  show (if a ≤ b then b else a).toNat = _
  split
  · next hle => exact (Nat.max_eq_right (UInt32.le_iff_toNat_le.mp hle)).symm
  · next hgt =>
      have hle : ¬ a.toNat ≤ b.toNat := fun h => hgt (UInt32.le_iff_toNat_le.mpr h)
      exact (Nat.max_eq_left (by omega)).symm

/-- The height that a preview of the full width would have. -/
def heightByWidth (width height : UInt32) : Nat := height.toNat * 160 / width.toNat

/-- The height at the full width has more than 32 bits, and cut to 32 bits it looks like that of a
flat picture. -/
def HeightTruncates (width height : UInt32) : Prop :=
  2 ^ 32 ≤ heightByWidth width height ∧ heightByWidth width height % 2 ^ 32 ≤ 90

instance (width height : UInt32) : Decidable (HeightTruncates width height) :=
  inferInstanceAs (Decidable (_ ∧ _))

/-- The preview is not empty, within its limits and not larger than the frame. -/
def PreviewWithin (width height : UInt32) : Prop :=
  1 ≤ (previewDimensions width height).1.toNat ∧
    (previewDimensions width height).1.toNat ≤ min width.toNat 160 ∧
    1 ≤ (previewDimensions width height).2.toNat ∧
    (previewDimensions width height).2.toNat ≤ min height.toNat 90

section Dimensions

variable {width height : UInt32}

/-- The three branches: a small frame is kept, a flat one gets the full width, and a tall one the
full height, with a width that is never cut to 32 bits. -/
theorem previewDimensions_cases (hwidth : 1 ≤ width.toNat) (hheight : 1 ≤ height.toNat) :
    (width.toNat ≤ 160 ∧ height.toNat ≤ 90 ∧ previewDimensions width height = (width, height)) ∨
      ((160 < width.toNat ∨ 90 < height.toNat) ∧ heightByWidth width height % 2 ^ 32 ≤ 90 ∧
        (previewDimensions width height).1.toNat = 160 ∧
        (previewDimensions width height).2.toNat
          = max (heightByWidth width height % 2 ^ 32) 1) ∨
      ((160 < width.toNat ∨ 90 < height.toNat) ∧ 90 < heightByWidth width height % 2 ^ 32 ∧
        91 * width.toNat ≤ height.toNat * 160 ∧
        (previewDimensions width height).1.toNat
          = max (width.toNat * 90 / height.toNat) 1 ∧
        (previewDimensions width height).2.toNat = 90) := by
  have hone : (1 : UInt32).toNat = 1 := rfl
  have hmaxw : maxSyntheticPreviewWidth.toNat = 160 := rfl
  have hmaxh : maxSyntheticPreviewHeight.toNat = 90 := rfl
  have hcut : (UInt32.ofNat (height.toNat * maxSyntheticPreviewWidth.toNat
      / max width.toNat 1)).toNat = heightByWidth width height % 2 ^ 32 := by
    rw [UInt32.toNat_ofNat', Nat.max_eq_left hwidth, hmaxw]
    rfl
  unfold previewDimensions
  split
  · next hsmall =>
      -- small enough: nothing is scaled
      have hw := UInt32.le_iff_toNat_le.mp hsmall.1
      have hh := UInt32.le_iff_toNat_le.mp hsmall.2
      refine .inl ⟨hw, hh, Prod.ext ?_ ?_⟩
      · rw [← UInt32.toNat_inj, toNat_max, hone, Nat.max_eq_left hwidth]
      · rw [← UInt32.toNat_inj, toNat_max, hone, Nat.max_eq_left hheight]
  · next hlarge =>
      have hover : 160 < width.toNat ∨ 90 < height.toNat := by
        rw [UInt32.le_iff_toNat_le, UInt32.le_iff_toNat_le] at hlarge
        omega
      dsimp only
      split
      · next hflat =>
          -- full width, unless the height that goes with it is too large
          rw [UInt32.le_iff_toNat_le, hcut] at hflat
          refine .inr (.inl ⟨hover, hflat, hmaxw, ?_⟩)
          rw [toNat_max, hcut, hone]
      · next htall =>
          rw [UInt32.le_iff_toNat_le, hcut] at htall
          -- full height: the quotient itself was too large, not only its low bits
          have hmore : 91 ≤ heightByWidth width height := by
            have hle := Nat.mod_le (heightByWidth width height) (2 ^ 32)
            omega
          have hratio : 91 * width.toNat ≤ height.toNat * 160 :=
            (Nat.le_div_iff_mul_le hwidth).mp hmore
          refine .inr (.inr ⟨hover, Nat.not_le.mp htall, hratio, ?_, hmaxh⟩)
          have hnarrow : width.toNat * 90 / height.toNat ≤ 160 := by
            refine Nat.div_le_of_le_mul ?_
            omega
          rw [toNat_max, UInt32.toNat_ofNat', Nat.max_eq_left hheight, hmaxh, hone,
            Nat.mod_eq_of_lt (by omega)]

/-- Whatever the frame, its preview is within the limits. -/
theorem previewDimensions_bounds (hwidth : 1 ≤ width.toNat) (hheight : 1 ≤ height.toNat) :
    1 ≤ (previewDimensions width height).1.toNat ∧
      (previewDimensions width height).1.toNat ≤ 160 ∧
      1 ≤ (previewDimensions width height).2.toNat ∧
      (previewDimensions width height).2.toNat ≤ 90 := by
  rcases previewDimensions_cases hwidth hheight with
    ⟨hw, hh, hdims⟩ | ⟨_, hcut, hw, hh⟩ | ⟨_, _, hratio, hw, hh⟩
  · rw [hdims]
    exact ⟨hwidth, hw, hheight, hh⟩
  · omega
  · have hnarrow : width.toNat * 90 / height.toNat ≤ 160 := by
      refine Nat.div_le_of_le_mul ?_
      omega
    omega

/-- The preview is larger than the frame exactly when the height at the full width is cut. -/
theorem previewWithin_iff (hwidth : 1 ≤ width.toNat) (hheight : 1 ≤ height.toNat) :
    PreviewWithin width height ↔ ¬ HeightTruncates width height := by
  have hlimit := height.toNat_lt
  constructor
  · rintro ⟨_, hw, _, _⟩ ⟨hbig, hsmall⟩
    have hnarrow : 2 ^ 32 * width.toNat ≤ height.toNat * 160 :=
      (Nat.le_div_iff_mul_le hwidth).mp hbig
    rcases previewDimensions_cases hwidth hheight with
      ⟨_, hh, _⟩ | ⟨_, _, hfull, _⟩ | ⟨_, htall, _, _, _⟩
    · omega
    · omega
    · exact absurd hsmall (Nat.not_le.mpr htall)
  · intro hexact
    rcases previewDimensions_cases hwidth hheight with
      ⟨hw, hh, hdims⟩ | ⟨hover, hcut, hw, hh⟩ | ⟨hover, _, hratio, hw, hh⟩
    · unfold PreviewWithin
      rw [hdims]
      dsimp only
      omega
    · have hfits : heightByWidth width height < 2 ^ 32 := by
        by_contra hbig
        exact hexact ⟨Nat.not_lt.mp hbig, hcut⟩
      rw [Nat.mod_eq_of_lt hfits] at hcut hh
      -- the height at the full width is at most 90, so a frame of 160 columns or fewer is small
      have hratio : height.toNat * 160 < 91 * width.toNat :=
        (Nat.div_lt_iff_lt_mul hwidth).mp (Nat.lt_succ_of_le hcut)
      have hless : heightByWidth width height ≤ height.toNat := by
        refine Nat.div_le_of_le_mul ?_
        rw [Nat.mul_comm]
        exact Nat.mul_le_mul_right _ (by omega)
      unfold PreviewWithin
      omega
    · have hless : width.toNat * 90 / height.toNat ≤ width.toNat := by
        refine Nat.div_le_of_le_mul ?_
        rw [Nat.mul_comm]
        exact Nat.mul_le_mul_right _ (by omega)
      have hnarrow : width.toNat * 90 / height.toNat ≤ 160 := by
        refine Nat.div_le_of_le_mul ?_
        omega
      unfold PreviewWithin
      omega

end Dimensions

/-! ## Scaling -/

/-- The preview of a frame is made, by the sampling law. -/
def PreviewSamples (source_pixels : List UInt8) (width height : UInt32) : Prop :=
  ∃ preview, downsampleBgraNearest source_pixels width height (previewDimensions width height).1
      (previewDimensions width height).2 = some preview ∧
    SamplesNearest source_pixels width height (previewDimensions width height).1
      (previewDimensions width height).2 preview

/-- A frame is resized, by the sampling law. -/
def ResizeSamples (source_pixels : List UInt8) (width height target_width target_height : UInt32) :
    Prop :=
  (∃ resized, resizeBgraNearest source_pixels width height target_width target_height
      = some (.ok resized) ∧
    SamplesNearest source_pixels width height target_width target_height resized) ∧
  ∀ frame : CaptureFrame, frame.width = width → frame.height = height → frame.format = .bgra8 →
    frame.storage = .cpuBytes source_pixels →
    ∃ resized, frame.resizeBgraNearest target_width target_height =
        some (.ok ⟨frame.frame_id, target_width, target_height, frame.capture_time_micros, .bgra8,
          .cpuBytes resized⟩) ∧
      SamplesNearest source_pixels width height target_width target_height resized

section Scaling

variable {source_pixels : List UInt8} {width height target_width target_height : UInt32}

/-- A picture samples itself. -/
theorem samplesNearest_self (hlength : source_pixels.length = width.toNat * height.toNat * 4) :
    SamplesNearest source_pixels width height width height source_pixels := by
  refine ⟨hlength, fun x hx y hy => ?_⟩
  rw [Nat.mul_div_cancel _ (Nat.zero_lt_of_lt hx), Nat.mul_div_cancel _ (Nat.zero_lt_of_lt hy)]

theorem pos_of_ne_zero {a : UInt32} (h : a ≠ 0) : 1 ≤ a.toNat :=
  Nat.pos_of_ne_zero fun hzero => h (UInt32.toNat_inj.mp hzero)

theorem bgraByteLen_of_le (h : width.toNat * height.toNat * 4 ≤ u64Max) :
    bgraByteLen width height = some (width.toNat * height.toNat * 4) := by
  have hpixels : width.toNat * height.toNat ≤ u64Max := by omega
  rw [bgraByteLen, checkedMul, if_pos hpixels, Option.bind_some, checkedMul, if_pos h]

/-- The preview of a picture that is all there. -/
theorem downsample_nearest (hwidth : 1 ≤ width.toNat) (hheight : 1 ≤ height.toNat)
    (hlength : source_pixels.length = width.toNat * height.toNat * 4) :
    downsampleBgraNearest source_pixels width height (previewDimensions width height).1
        (previewDimensions width height).2 =
      some (nearestPixels source_pixels width height (previewDimensions width height).1
        (previewDimensions width height).2) := by
  obtain ⟨_, hw, _, hh⟩ := previewDimensions_bounds hwidth hheight
  have hpixels : (previewDimensions width height).1.toNat
      * (previewDimensions width height).2.toNat ≤ 160 * 90 := Nat.mul_le_mul hw hh
  have htop : u64Max = 2 ^ 64 - 1 := by decide
  rw [downsampleBgraNearest, bgraByteLen_of_le (by omega), Option.bind_some]
  exact gather_nearest hwidth hheight hlength

theorem resizeBgraNearest_ok (hwidth : 1 ≤ width.toNat) (hheight : 1 ≤ height.toNat)
    (hlength : source_pixels.length = width.toNat * height.toNat * 4)
    {target_len : Nat} (htarget : bgraByteLen target_width target_height = some target_len)
    (hcapacity : target_len ≤ isizeMax) :
    resizeBgraNearest source_pixels width height target_width target_height =
      some (.ok (nearestPixels source_pixels width height target_width target_height)) := by
  unfold resizeBgraNearest
  rw [htarget]
  dsimp only
  rw [if_neg (Nat.not_lt.mpr hcapacity), gather_nearest hwidth hheight hlength]

theorem resizeSamples (hwidth : 1 ≤ width.toNat) (hheight : 1 ≤ height.toNat)
    (hpixels : bgraByteLen width height = some source_pixels.length)
    (htargetWidth : target_width ≠ 0) (htargetHeight : target_height ≠ 0) {target_len : Nat}
    (htarget : bgraByteLen target_width target_height = some target_len)
    (hcapacity : target_len ≤ isizeMax) :
    ResizeSamples source_pixels width height target_width target_height := by
  have hlength := bgraByteLen_eq_some hpixels
  have hresize := resizeBgraNearest_ok hwidth hheight hlength htarget hcapacity
  have hsamples : SamplesNearest source_pixels width height target_width target_height
      (nearestPixels source_pixels width height target_width target_height) :=
    nearestPixels_samples hwidth hheight hlength
  refine ⟨⟨_, hresize, hsamples⟩, ?_⟩
  rintro ⟨frame_id, _, _, capture_time_micros, _, _⟩ rfl rfl rfl rfl
  unfold CaptureFrame.resizeBgraNearest
  rw [if_neg (not_or.mpr ⟨htargetWidth, htargetHeight⟩)]
  dsimp only
  split
  · next hsame =>
      obtain ⟨rfl, rfl⟩ := hsame
      exact ⟨source_pixels, rfl, samplesNearest_self hlength⟩
  · rw [if_neg (not_not.mpr rfl), hpixels]
    dsimp only
    rw [if_neg (not_not.mpr rfl), hresize]
    refine ⟨_, ?_, hsamples⟩
    show some (CaptureFrame.cpuBgra frame_id target_width target_height capture_time_micros
      (nearestPixels source_pixels _ _ target_width target_height)) = _
    unfold CaptureFrame.cpuBgra
    rw [htarget]
    dsimp only
    rw [if_neg]
    rw [hsamples.length, bgraByteLen_eq_some htarget]
    exact not_not.mpr rfl

/-- Every picture that is all there is scaled by the sampling law, and its preview keeps within the
limits and the picture exactly when the height at the full width is not cut to 32 bits. -/
theorem preview_scaling_iff (hwidth : width ≠ 0) (hheight : height ≠ 0)
    (hpixels : bgraByteLen width height = some source_pixels.length)
    (htargetWidth : target_width ≠ 0) (htargetHeight : target_height ≠ 0) {target_len : Nat}
    (htarget : bgraByteLen target_width target_height = some target_len) :
    (PreviewWithin width height ∧ PreviewSamples source_pixels width height ∧
        ResizeSamples source_pixels width height target_width target_height) ↔
      ¬ HeightTruncates width height ∧ target_len ≤ isizeMax := by
  have hw := pos_of_ne_zero hwidth
  have hh := pos_of_ne_zero hheight
  have hlength := bgraByteLen_eq_some hpixels
  rw [previewWithin_iff hw hh]
  refine and_congr_right fun _ => ⟨?_, fun hcapacity => ?_⟩
  · rintro ⟨_, ⟨resized, hresized, _⟩, _⟩
    unfold resizeBgraNearest at hresized
    rw [htarget] at hresized
    dsimp only at hresized
    split at hresized
    · exact nomatch hresized
    · next hcapacity => exact Nat.not_lt.mp hcapacity
  · exact ⟨⟨_, downsample_nearest hw hh hlength, nearestPixels_samples hw hh hlength⟩,
      resizeSamples hw hh hpixels htargetWidth htargetHeight htarget hcapacity⟩

theorem preview_scaling_two_by_one :
    PreviewWithin 2 1 ∧ PreviewSamples [1, 2, 3, 4, 5, 6, 7, 8] 2 1 ∧
      ResizeSamples [1, 2, 3, 4, 5, 6, 7, 8] 2 1 4 3 :=
  (preview_scaling_iff (by decide) (by decide) (by decide) (by decide) (by decide)
    (show bgraByteLen 4 3 = some 48 by decide)).mpr (by decide)

end Scaling

/-- A frame of 1 by 26843546 pixels gets a preview of 160 by 64, which is wider than the frame. -/
theorem narrow_preview_upscaled :
    ¬ ∀ (source_pixels : List UInt8) (width height target_width target_height : UInt32)
      (target_len : Nat), width ≠ 0 → height ≠ 0 →
      bgraByteLen width height = some source_pixels.length → target_width ≠ 0 →
      target_height ≠ 0 → bgraByteLen target_width target_height = some target_len →
      PreviewWithin width height ∧ PreviewSamples source_pixels width height ∧
        ResizeSamples source_pixels width height target_width target_height := by
  intro hclaim
  have hdims : previewDimensions 1 26843546 = (160, 64) := by decide
  have hpixels : bgraByteLen 1 26843546 = some (List.replicate 107374184 (0 : UInt8)).length := by
    rw [List.length_replicate]
    decide
  have hwithin := (hclaim (List.replicate 107374184 0) 1 26843546 1 1 4 (by decide) (by decide)
    hpixels (by decide) (by decide) (by decide)).1.2.1
  rw [hdims] at hwithin
  exact absurd hwithin (by decide)

end TeamView.Client
