import TeamView.Client.SyntheticRoundTrip
import TeamView.Client.ViewerRecovery

set_option autoImplicit false

/-! # What the decoder makes of hostile bytes

The bytes decide the size of a frame twice, in the parameters and in the slice. A frame that
`H264Decoder::decode` returns (`crates/desktop-client/src/decode/h264.rs`) passes the check of every
playback. The limit on its size comes after its pixels, though: a slice without a preview has a
pattern drawn for it at any size.
-/

namespace TeamView.Client

open Bytes MachineInt

/-! ## What a scan finds -/

def nalType : List UInt8 → Option UInt8
  | [] => none
  | header :: _ => some (header &&& 0x1f)

/-- The metadata that a slice carries. -/
def frameOf : List UInt8 → Option SyntheticFrameInfo
  | [] => none
  | header :: payload =>
      if header &&& 0x1f = 5 ∨ header &&& 0x1f = 1 then
        parseSyntheticFrame (annexBUnescapePayload payload)
      else none

/-- The parameters that a sequence parameter set carries. -/
def configOf : List UInt8 → Option SyntheticStreamConfig
  | [] => none
  | header :: payload =>
      if header &&& 0x1f = 7 then parseSyntheticSps (annexBUnescapePayload payload) else none

def hasNal (nal_type : UInt8) (nals : List (List UInt8)) : Bool :=
  nals.any fun nal => nalType nal = some nal_type

def lastFrameInfo (nals : List (List UInt8)) : Option SyntheticFrameInfo :=
  (nals.filterMap frameOf).getLast?

def lastConfig (nals : List (List UInt8)) : Option SyntheticStreamConfig :=
  (nals.filterMap configOf).getLast?

section Scan

variable (nal : List UInt8) (nals : List (List UInt8))

theorem hasNal_cons (nal_type : UInt8) :
    hasNal nal_type (nal :: nals) =
      (decide (nalType nal = some nal_type) || hasNal nal_type nals) :=
  rfl

theorem getLast?_filterMap_cons {α β : Type} (f : α → Option β) (a : α) (as : List α) :
    ((a :: as).filterMap f).getLast? = ((as.filterMap f).getLast?).or (f a) := by
  rw [List.filterMap_cons]
  cases f a with
  | none => rw [Option.or_none]
  | some b =>
      rw [List.getLast?_cons]
      cases (as.filterMap f).getLast? <;> rfl

/-- One NAL unit adds its type and what it carries. -/
theorem nal_eq (scan : DecodeScan) : scan.nal nal =
    { config := (configOf nal).or scan.config
      saw_sps := scan.saw_sps || decide (nalType nal = some 7)
      saw_pps := scan.saw_pps || decide (nalType nal = some 8)
      saw_idr := scan.saw_idr || decide (nalType nal = some 5)
      saw_slice := scan.saw_slice ||
        (decide (nalType nal = some 5) || decide (nalType nal = some 1))
      frame_info := (frameOf nal).or scan.frame_info } := by
  cases nal with
  | nil => simp [DecodeScan.nal, nalType, configOf, frameOf]
  | cons header payload =>
      unfold DecodeScan.nal nalType configOf frameOf
      simp only [Option.some.injEq]
      split
      · next h => simp [h]
      · split
        · next h => simp [h]
        · split
          · next h => simp [h]
          · split
            · next h => simp [h]
            · next h7 h8 h5 h1 => simp [h7, h8, h5, h1]

/-- The scan in terms of the NAL units: which types there are, and the last metadata and parameters
among them. -/
theorem foldl_nal (scan : DecodeScan) : nals.foldl DecodeScan.nal scan =
    { config := (lastConfig nals).or scan.config
      saw_sps := scan.saw_sps || hasNal 7 nals
      saw_pps := scan.saw_pps || hasNal 8 nals
      saw_idr := scan.saw_idr || hasNal 5 nals
      saw_slice := scan.saw_slice || (hasNal 5 nals || hasNal 1 nals)
      frame_info := (lastFrameInfo nals).or scan.frame_info } := by
  induction nals generalizing scan with
  | nil => simp [hasNal, lastConfig, lastFrameInfo]
  | cons nal nals ih =>
      have hslice : ∀ a b c d e : Bool,
          (a || (b || c) || (d || e)) = (a || (b || d || (c || e))) := by
        decide
      rw [List.foldl_cons, ih, nal_eq]
      simp only [lastConfig, lastFrameInfo, getLast?_filterMap_cons, Option.or_assoc, hasNal_cons,
        Bool.or_assoc, hslice]

end Scan

/-- The parameters in force after some bytes. -/
def H264Decoder.configAfter (decoder : H264Decoder) (nals : List (List UInt8)) :
    Option SyntheticStreamConfig :=
  (lastConfig nals).or decoder.config

/-- The frame that a decoder presents without a slice that says otherwise. -/
def shownInfo (nals : List (List UInt8)) (config : SyntheticStreamConfig) : SyntheticFrameInfo :=
  (lastFrameInfo nals).getD ⟨0, config.width, config.height, none⟩

/-- There is a slice to present, and with a keyframe also its parameters. -/
def Presentable (nals : List (List UInt8)) : Prop :=
  (hasNal 5 nals = true ∨ hasNal 1 nals = true) ∧
    (hasNal 5 nals = true → hasNal 7 nals = true ∧ hasNal 8 nals = true)

/-! ## The calls of the pixel generator -/

/-- The arguments of `synthetic_bgra_pixels`. -/
structure PixelCall where
  width : UInt32
  height : UInt32
  frame_id : UInt32
  is_keyframe : Bool
  deriving DecidableEq

def PixelCall.pixels (call : PixelCall) : Nat := call.width.toNat * call.height.toNat

/-- The body of `present` over any way to run `synthetic_bgra_pixels`. -/
def H264Decoder.presentM {m : Type → Type} [Monad m] (generate : PixelCall → m (List UInt8))
    (scan : DecodeScan) : m (Except DecodeError (Option DecodedFrame)) :=
  if scan.saw_slice = false then pure (.ok none)
  else if scan.saw_idr ∧ (scan.saw_sps = false ∨ scan.saw_pps = false ∨ scan.config = none) then
    pure (.ok none)
  else
    match scan.config with
    | none => pure (.ok none)
    | some config => do
        let frame_info := scan.frame_info.getD ⟨0, config.width, config.height, none⟩
        let (width, height, pixels) ←
          match frame_info.preview with
          | some preview => pure (preview.width, preview.height, preview.pixels)
          | none => do
              let width := max frame_info.width 1
              let height := max frame_info.height 1
              let pixels ← generate ⟨width, height, frame_info.frame_id, scan.saw_idr⟩
              pure (width, height, pixels)
        if maxSyntheticDecodedPixels < width.toNat * height.toNat then
          pure (.error .exceedsMaximumPreviewSize)
        else pure (.ok (some ⟨frame_info.frame_id, width, height, .bgra8, pixels⟩))

theorem stateM_pure {σ α : Type} (a : α) (s : σ) : (pure a : StateM σ α) s = (a, s) := rfl

theorem stateM_bind {σ α β : Type} (x : StateM σ α) (f : α → StateM σ β) (s : σ) :
    (x >>= f) s = f (x s).1 (x s).2 := rfl

/-- `synthetic_bgra_pixels` that keeps a list of its calls. -/
def recordedPixels (call : PixelCall) : StateM (List PixelCall) (List UInt8) := fun calls =>
  (syntheticBgraPixels call.width call.height call.frame_id call.is_keyframe, calls ++ [call])

namespace H264Decoder

/-- The calls of `synthetic_bgra_pixels` that `decode` makes. -/
def decodeCalls (decoder : H264Decoder) (encoded : List UInt8) : List PixelCall :=
  if encoded.isEmpty then []
  else
    (presentM recordedPixels ((annexBNals encoded).foldl DecodeScan.nal (.start decoder)) []).2

/-- Keeping the list changes nothing else, and it is empty or has one call. -/
theorem presentM_recordedPixels (scan : DecodeScan) (calls : List PixelCall) :
    presentM recordedPixels scan calls = (present scan, calls ++
      if scan.saw_slice = false then []
      else if scan.saw_idr ∧ (scan.saw_sps = false ∨ scan.saw_pps = false ∨ scan.config = none) then
        []
      else
        match scan.config with
        | none => []
        | some config =>
            let info := scan.frame_info.getD ⟨0, config.width, config.height, none⟩
            match info.preview with
            | some _ => []
            | none => [⟨max info.width 1, max info.height 1, info.frame_id, scan.saw_idr⟩]) := by
  unfold presentM present
  split
  · rw [List.append_nil]
    rfl
  · split
    · rw [List.append_nil]
      rfl
    · cases scan.config with
      | none =>
          rw [List.append_nil]
          rfl
      | some config =>
          dsimp only
          generalize scan.frame_info.getD ⟨0, config.width, config.height, none⟩ = info
          obtain ⟨frame_id, width, height, preview⟩ := info
          cases preview with
          | none =>
              dsimp only
              split
              · next hlarge =>
                  simp [stateM_bind, stateM_pure, recordedPixels, hlarge]
              · next hsmall =>
                  simp [stateM_bind, stateM_pure, recordedPixels, hsmall]
          | some preview =>
              rw [List.append_nil]
              dsimp only
              split
              · next hlarge => simp [stateM_bind, stateM_pure, hlarge]
              · next hsmall => simp [stateM_bind, stateM_pure, hsmall]

/-- The scan of some bytes, from the state before them. -/
theorem scan_eq (decoder : H264Decoder) (nals : List (List UInt8)) :
    nals.foldl DecodeScan.nal (.start decoder) =
      { config := decoder.configAfter nals
        saw_sps := hasNal 7 nals
        saw_pps := hasNal 8 nals
        saw_idr := hasNal 5 nals
        saw_slice := hasNal 5 nals || hasNal 1 nals
        frame_info := lastFrameInfo nals } := by
  rw [foldl_nal]
  simp [DecodeScan.start, configAfter]

/-- The limit on the size of a frame, which comes last. -/
def limited (frame : DecodedFrame) : Except DecodeError (Option DecodedFrame) :=
  if maxSyntheticDecodedPixels < frame.width.toNat * frame.height.toNat then
    .error .exceedsMaximumPreviewSize
  else .ok (some frame)

/-- What becomes of some bytes, with the calls of `synthetic_bgra_pixels`. -/
inductive Presented (decoder : H264Decoder) (nals : List (List UInt8)) :
    Except DecodeError (Option DecodedFrame) × List PixelCall → Prop
  | nothing (idle : ¬ (Presentable nals ∧ ∃ config, decoder.configAfter nals = some config)) :
      Presented decoder nals (.ok none, [])
  | preview {config : SyntheticStreamConfig} {shown : SyntheticPreview}
      (presentable : Presentable nals) (known : decoder.configAfter nals = some config)
      (embedded : (shownInfo nals config).preview = some shown) :
      Presented decoder nals
        (limited ⟨(shownInfo nals config).frame_id, shown.width, shown.height, .bgra8,
          shown.pixels⟩, [])
  | pattern {config : SyntheticStreamConfig} {call : PixelCall}
      (presentable : Presentable nals) (known : decoder.configAfter nals = some config)
      (bare : (shownInfo nals config).preview = none)
      (arguments : call = ⟨max (shownInfo nals config).width 1,
        max (shownInfo nals config).height 1, (shownInfo nals config).frame_id, hasNal 5 nals⟩) :
      Presented decoder nals
        (limited ⟨call.frame_id, call.width, call.height, .bgra8,
          syntheticBgraPixels call.width call.height call.frame_id call.is_keyframe⟩, [call])

theorem annexBNals_of_isEmpty {encoded : List UInt8} (h : encoded.isEmpty = true) :
    annexBNals encoded = [] := by
  rw [List.isEmpty_iff.mp h]
  rfl

theorem presented (decoder : H264Decoder) (encoded : List UInt8) :
    Presented decoder (annexBNals encoded)
      ((decoder.decode encoded).2, decoder.decodeCalls encoded) := by
  unfold decode decodeCalls
  split
  · next hempty =>
      refine .nothing fun h => ?_
      rw [annexBNals_of_isEmpty hempty] at h
      exact absurd h.1.1 (by simp [hasNal])
  · rw [presentM_recordedPixels, scan_eq]
    generalize annexBNals encoded = nals
    unfold present
    dsimp only
    by_cases hslice : (hasNal 5 nals || hasNal 1 nals) = false
    · -- no slice: there is nothing to show
      rw [if_pos hslice, if_pos hslice]
      refine .nothing fun h => ?_
      rw [Bool.or_eq_false_iff] at hslice
      rcases h.1.1 with hidr | hplain
      · exact absurd (hidr.symm.trans hslice.1) (by decide)
      · exact absurd (hplain.symm.trans hslice.2) (by decide)
    · rw [if_neg hslice, if_neg hslice]
      by_cases hlacks : hasNal 5 nals = true ∧ (hasNal 7 nals = false ∨ hasNal 8 nals = false ∨
          decoder.configAfter nals = none)
      · -- a keyframe without its parameters is an error
        rw [if_pos hlacks, if_pos hlacks]
        refine .nothing ?_
        rintro ⟨⟨_, hready⟩, config, hknown⟩
        obtain ⟨hsps, hpps⟩ := hready hlacks.1
        rcases hlacks.2 with hno | hno | hno
        · exact absurd (hsps.symm.trans hno) (by decide)
        · exact absurd (hpps.symm.trans hno) (by decide)
        · exact absurd (hknown.symm.trans hno) (by simp)
      · rw [if_neg hlacks, if_neg hlacks]
        cases hknown : decoder.configAfter nals with
        | none => exact .nothing fun h => absurd h.2 (by simp [hknown])
        | some config =>
            have hpresentable : Presentable nals := by
              refine ⟨?_, fun hidr => ?_⟩
              · rw [Bool.eq_false_iff, ne_eq, not_not, Bool.or_eq_true] at hslice
                exact hslice
              · rw [hknown] at hlacks
                simp only [hidr, true_and, not_or, Bool.not_eq_false] at hlacks
                exact ⟨hlacks.1, hlacks.2.1⟩
            have hinfo : (lastFrameInfo nals).getD ⟨0, config.width, config.height, none⟩
                = shownInfo nals config := rfl
            dsimp only
            rw [hinfo]
            -- the pattern stands in for a preview that is not there
            cases hpreview : (shownInfo nals config).preview with
            | none =>
                have hpattern := Presented.pattern hpresentable hknown hpreview rfl
                exact hpattern
            | some preview => exact .preview hpresentable hknown hpreview

/-! ## The calls and the limit -/

/-- Bytes that have a pattern drawn that is too large: there is a frame to present, the last
metadata of a slice, or else the last parameters, exceed the limit, and no preview comes with
them. -/
def Overdraws (decoder : H264Decoder) (encoded : List UInt8) : Prop :=
  Presentable (annexBNals encoded) ∧
    ∃ config, decoder.configAfter (annexBNals encoded) = some config ∧
      (shownInfo (annexBNals encoded) config).preview = none ∧
      maxSyntheticDecodedPixels <
        (max (shownInfo (annexBNals encoded) config).width 1).toNat *
          (max (shownInfo (annexBNals encoded) config).height 1).toNat

/-- What decoding some bytes costs at most: no pattern beyond the limit, no capacity that does not
fit, and no pattern for a frame that is refused. -/
structure DecodesBounded (decoder : H264Decoder) (encoded : List UInt8) : Prop where
  limit : ∀ call ∈ decoder.decodeCalls encoded, call.pixels ≤ maxSyntheticDecodedPixels
  capacity : ∀ call ∈ decoder.decodeCalls encoded,
    satMul u64Max (satMul u64Max call.width.toNat call.height.toNat) 4 ≤ isizeMax
  refused : (decoder.decode encoded).2 = .error .exceedsMaximumPreviewSize →
    decoder.decodeCalls encoded = []

theorem limited_eq_error_iff (frame : DecodedFrame) :
    limited frame = .error .exceedsMaximumPreviewSize ↔
      maxSyntheticDecodedPixels < frame.width.toNat * frame.height.toNat := by
  unfold limited
  split
  · next h => exact iff_of_true rfl h
  · next h => exact iff_of_false nofun h

/-- Decoding is bounded exactly when no pattern beyond the limit is asked for. -/
theorem decodesBounded_iff (decoder : H264Decoder) (encoded : List UInt8) :
    DecodesBounded decoder encoded ↔ ¬ Overdraws decoder encoded := by
  have hpresented := presented decoder encoded
  generalize hpair : ((decoder.decode encoded).2, decoder.decodeCalls encoded) = pair
    at hpresented
  have hno_calls : decoder.decodeCalls encoded = [] → DecodesBounded decoder encoded := by
    intro hnone
    refine ⟨?_, ?_, fun _ => hnone⟩
    · rw [hnone]
      exact fun call hcall => absurd hcall List.not_mem_nil
    · rw [hnone]
      exact fun call hcall => absurd hcall List.not_mem_nil
  cases hpresented with
  | nothing idle =>
      refine iff_of_true (hno_calls (Prod.mk.inj hpair).2) ?_
      rintro ⟨hpresentable, config, hknown, _⟩
      exact idle ⟨hpresentable, config, hknown⟩
  | preview presentable known embedded =>
      refine iff_of_true (hno_calls (Prod.mk.inj hpair).2) ?_
      -- an embedded preview is copied, and no pattern is made
      rintro ⟨_, config', hknown, hbare, _⟩
      obtain rfl := Option.some.inj (known.symm.trans hknown)
      exact absurd (embedded.symm.trans hbare) (by simp)
  | @pattern config call presentable known bare arguments =>
      obtain ⟨hresult, hcalls⟩ := Prod.mk.inj hpair
      -- one pattern, of the size of the frame but at least one pixel each way
      have hpixels : call.pixels = (max (shownInfo (annexBNals encoded) config).width 1).toNat *
          (max (shownInfo (annexBNals encoded) config).height 1).toNat := by
        rw [arguments]
        rfl
      constructor
      · rintro hbounded ⟨_, config', hknown, _, hover⟩
        obtain rfl := Option.some.inj (known.symm.trans hknown)
        have hlimit := hbounded.limit call (by rw [hcalls]; exact List.mem_singleton_self call)
        omega
      · intro hnot
        have hlimit : call.pixels ≤ maxSyntheticDecodedPixels := by
          refine Nat.not_lt.mp fun hover => hnot ⟨presentable, config, known, bare, ?_⟩
          rw [← hpixels]
          exact hover
        have hmax : maxSyntheticDecodedPixels = 8294400 := rfl
        refine ⟨?_, ?_, ?_⟩
        · rw [hcalls]
          intro other hother
          rw [List.mem_singleton.mp hother]
          exact hlimit
        · rw [hcalls]
          intro other hother
          rw [List.mem_singleton.mp hother]
          -- four bytes for each pixel, far below the largest allocation
          have hcapacity : call.width.toNat * call.height.toNat ≤ 8294400 := hlimit
          unfold satMul isizeMax
          omega
        · intro herror
          rw [hresult, limited_eq_error_iff] at herror
          exact absurd hlimit (Nat.not_le.mpr herror)

/-- A keyframe with the parameters of 1920 times 1080 pixels and a slice of the largest size. -/
def hugeSlice : List UInt8 :=
  [0, 0, 1, 0x67, 0x54, 0x56, 0x53, 0x31, 0x80, 0x07, 0, 0, 0x38, 0x04, 0, 0, 0x1e, 0x01,
    0, 0, 1, 0x68, 0x54,
    0, 0, 1, 0x65, 0x54, 0x56, 0x46, 0x31, 1, 1, 1, 1, 255, 255, 255, 255, 255, 255, 255, 255]

/-- The pattern is drawn before its size is looked at. -/
theorem huge_slice_drawn :
    ¬ ∀ (decoder : H264Decoder) (encoded : List UInt8), DecodesBounded decoder encoded := by
  intro hclaim
  have hbounded := hclaim ⟨none⟩ hugeSlice
  have hcalls : (⟨none⟩ : H264Decoder).decodeCalls hugeSlice
      = [⟨4294967295, 4294967295, 16843009, true⟩] := by
    decide +kernel
  have hlimit := hbounded.limit ⟨4294967295, 4294967295, 16843009, true⟩
    (by rw [hcalls]; exact List.mem_singleton_self _)
  exact absurd hlimit (by decide)

/-! ## The frames that are returned -/

theorem length_syntheticBgraPixels (width height frame_id : UInt32) (is_keyframe : Bool) :
    (syntheticBgraPixels width height frame_id is_keyframe).length
      = width.toNat * height.toNat * 4 := by
  unfold syntheticBgraPixels
  dsimp only
  rw [Blocks.length_flatMap (k := width.toNat * 4), List.length_range, ← Nat.mul_assoc,
    Nat.mul_comm height.toNat]
  intro y _
  rw [Blocks.length_flatMap (k := 4) fun x _ => rfl, List.length_range]

/-- An embedded preview is as long as its size says. -/
theorem parseSyntheticPreview_spec {payload : List UInt8} {preview : SyntheticPreview}
    (h : parseSyntheticPreview payload = some preview) :
    preview.width ≠ 0 ∧ preview.height ≠ 0 ∧
      preview.pixels.length = preview.width.toNat * preview.height.toNat * 4 := by
  unfold parseSyntheticPreview at h
  split at h
  · exact nomatch h
  · split at h
    · exact nomatch h
    · dsimp only at h
      split at h
      · exact nomatch h
      · next hsize =>
          rw [not_or] at hsize
          split at h
          · exact nomatch h
          · next expected_len hexpected =>
              split at h
              · exact nomatch h
              · next hlen =>
                  split at h
                  · exact nomatch h
                  · next hlong =>
                      rw [not_not] at hlen
                      obtain ⟨pixels, hpixels, hfour⟩ := Option.bind_eq_some_iff.mp hexpected
                      have hproduct := eq_of_checkedMul hpixels
                      have htotal := eq_of_checkedMul hfour
                      cases h
                      refine ⟨hsize.1, hsize.2, ?_⟩
                      rw [List.length_take, List.length_drop]
                      rw [hproduct] at htotal
                      rw [← htotal, ← hlen]
                      omega

theorem preview_spec_of_shownInfo {nals : List (List UInt8)} {config : SyntheticStreamConfig}
    {preview : SyntheticPreview} (h : (shownInfo nals config).preview = some preview) :
    preview.width ≠ 0 ∧ preview.height ≠ 0 ∧
      preview.pixels.length = preview.width.toNat * preview.height.toNat * 4 := by
  unfold shownInfo at h
  cases hlast : lastFrameInfo nals with
  | none =>
      rw [hlast] at h
      exact nomatch h
  | some info =>
      rw [hlast, Option.getD_some] at h
      obtain ⟨nal, _, hnal⟩ := List.mem_filterMap.mp (List.mem_of_getLast? hlast)
      unfold frameOf at hnal
      split at hnal
      · exact nomatch hnal
      · split at hnal
        · unfold parseSyntheticFrame at hnal
          split at hnal
          · exact nomatch hnal
          · split at hnal
            · exact nomatch hnal
            · dsimp only at hnal
              split at hnal
              · exact nomatch hnal
              · cases hnal
                exact parseSyntheticPreview_spec h
        · exact nomatch hnal

theorem of_limited_eq_ok {shown frame : DecodedFrame} (h : limited shown = .ok (some frame)) :
    shown = frame ∧ frame.width.toNat * frame.height.toNat ≤ maxSyntheticDecodedPixels := by
  unfold limited at h
  split at h
  · exact nomatch h
  · next hsmall =>
      cases h
      exact ⟨rfl, Nat.not_lt.mp hsmall⟩

theorem max_one_ne_zero (a : UInt32) : max a 1 ≠ 0 := by
  intro hzero
  have hone := congrArg UInt32.toNat hzero
  rw [toNat_max] at hone
  have hle := Nat.le_max_right a.toNat (1 : UInt32).toNat
  rw [hone] at hle
  exact absurd hle (by decide)

/-- Every playback shows a frame of a size within the limit with all its pixels. -/
theorem validateBgraFrame_of_size {frame : DecodedFrame}
    (hsize : frame.width.toNat * frame.height.toNat ≤ maxSyntheticDecodedPixels)
    (hpixels : frame.pixels.length = frame.width.toNat * frame.height.toNat * 4) :
    validateBgraFrame frame = .ok (frame.width.toNat * frame.height.toNat * 4) := by
  have hmax : maxSyntheticDecodedPixels = 8294400 := rfl
  have htop : u32Max = 4294967295 := rfl
  have hproduct : checkedMul u32Max frame.width.toNat frame.height.toNat
      = some (frame.width.toNat * frame.height.toNat) := if_pos (by omega)
  have hfour : checkedMul u32Max (frame.width.toNat * frame.height.toNat) 4
      = some (frame.width.toNat * frame.height.toNat * 4) := if_pos (by omega)
  have hformat : ¬ frame.pixel_format ≠ .bgra8 := by
    cases frame.pixel_format
    simp
  unfold validateBgraFrame
  rw [hproduct, Option.bind_some, hfour]
  dsimp only
  rw [if_neg hformat, if_neg (not_not.mpr hpixels)]

/-- Every frame that is returned can be shown, whatever the bytes and the state of the decoder. -/
theorem decoded_frame_renderable (decoder : H264Decoder) (encoded : List UInt8)
    (frame : DecodedFrame) (h : (decoder.decode encoded).2 = .ok (some frame)) :
    frame.width ≠ 0 ∧ frame.height ≠ 0 ∧
      frame.width.toNat * frame.height.toNat ≤ maxSyntheticDecodedPixels ∧
      frame.pixels.length = frame.width.toNat * frame.height.toNat * 4 ∧
      validateBgraFrame frame = .ok (frame.width.toNat * frame.height.toNat * 4) := by
  have hpresented := presented decoder encoded
  rw [h] at hpresented
  generalize hpair : ((Except.ok (some frame) : Except DecodeError (Option DecodedFrame)),
    decoder.decodeCalls encoded) = pair at hpresented
  have hfacts : frame.width ≠ 0 ∧ frame.height ≠ 0 ∧
      frame.width.toNat * frame.height.toNat ≤ maxSyntheticDecodedPixels ∧
      frame.pixels.length = frame.width.toNat * frame.height.toNat * 4 := by
    cases hpresented with
    | nothing => exact absurd (Prod.mk.inj hpair).1 (by simp)
    | preview presentable known embedded =>
        obtain ⟨rfl, hsize⟩ := of_limited_eq_ok (Prod.mk.inj hpair).1.symm
        obtain ⟨hwidth, hheight, hpixels⟩ := preview_spec_of_shownInfo embedded
        exact ⟨hwidth, hheight, hsize, hpixels⟩
    | pattern presentable known bare arguments =>
        obtain ⟨rfl, hsize⟩ := of_limited_eq_ok (Prod.mk.inj hpair).1.symm
        subst arguments
        exact ⟨max_one_ne_zero _, max_one_ne_zero _, hsize, length_syntheticBgraPixels _ _ _ _⟩
  obtain ⟨hwidth, hheight, hsize, hpixels⟩ := hfacts
  exact ⟨hwidth, hheight, hsize, hpixels, validateBgraFrame_of_size hsize hpixels⟩

/-- A slice without metadata shows a frame of the size that the parameters gave. -/
theorem decoded_frame_renderable_bare_slice :
    validateBgraFrame ⟨0, 1, 1, .bgra8, [0, 16, 0, 255]⟩ = .ok 4 :=
  (decoded_frame_renderable ⟨some ⟨1, 1⟩⟩ [0, 0, 1, 0x41] ⟨0, 1, 1, .bgra8, [0, 16, 0, 255]⟩
    (by decide +kernel)).2.2.2.2

end H264Decoder

end TeamView.Client
