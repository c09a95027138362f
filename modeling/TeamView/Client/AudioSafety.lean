import TeamView.Client.AudioRoundTrip

set_option autoImplicit false

/-! # Audio decoding and its arithmetic

A frame without samples has them made up by `synthetic_pcm`
(`crates/desktop-client/src/audio.rs`) in `i32` arithmetic that starts from the frame id as an
`i32`. This file gives the exact frames on which that arithmetic stays in its range and the samples
in theirs, for arbitrary bytes, and shows that what the encoder writes without samples is always
read as such.
-/

namespace TeamView.Client

open TeamView.Protocol Bytes MachineInt

/-! ## One sample -/

/-- The frame id as the `i32` that the samples start from. -/
def framePhase (frame_id : UInt32) : Int := frame_id.toInt32.toInt

/-- The sample at a position, without a bound on the numbers. -/
def exactSample (frame_id : UInt32) (sample : Nat) : Int :=
  (framePhase frame_id * 97 + sample * 13).tmod 1024 - 512

/-- The positions whose multiple of 13 fits an `i32`. -/
def lastPosition : Nat := 165191049

/-- The remainder has the sign of the number. -/
theorem tmod_cases (a : Int) : (0 ≤ a ∧ a.tmod 1024 = a % 1024) ∨
    (a < 0 ∧ a.tmod 1024 = -((-a) % 1024)) := by
  rcases lt_or_ge a 0 with hneg | hnonneg
  · right
    refine ⟨hneg, ?_⟩
    have hflip : a.tmod 1024 = -((-a).tmod 1024) := by rw [Int.neg_tmod, Int.neg_neg]
    rw [hflip, Int.tmod_eq_emod_of_nonneg (by omega)]
  · exact .inl ⟨hnonneg, Int.tmod_eq_emod_of_nonneg hnonneg⟩

theorem exactSample_bounds (frame_id : UInt32) (sample : Nat) :
    -1535 ≤ exactSample frame_id sample ∧ exactSample frame_id sample ≤ 511 := by
  unfold exactSample
  rcases tmod_cases (framePhase frame_id * 97 + sample * 13) with h | h <;> omega

/-- The range of a sample is missed below zero only, and not at the multiples of 1024. -/
theorem exactSample_ge_iff (frame_id : UInt32) (sample : Nat) :
    -512 ≤ exactSample frame_id sample ↔
      0 ≤ framePhase frame_id * 97 + sample * 13 ∨
        1024 ∣ framePhase frame_id * 97 + sample * 13 := by
  unfold exactSample
  rcases tmod_cases (framePhase frame_id * 97 + sample * 13) with h | h <;> omega

theorem Build.i32_of_fits (build : Build) {a : Int} (h : -2147483648 ≤ a ∧ a ≤ 2147483647) :
    build.i32 a = some (Int32.ofInt a) := by
  cases build with
  | debug => exact if_pos h
  | release => rfl

theorem toInt_ofInt_of_fits {a : Int} (h : -2147483648 ≤ a ∧ a ≤ 2147483647) :
    (Int32.ofInt a).toInt = a :=
  Int32.toInt_ofInt_of_le h.1 (by omega)

theorem position_toInt {sample : Nat} (h : sample ≤ 2147483647) :
    (UInt32.ofNat sample).toInt32.toInt = sample := by
  have hcast : (UInt32.ofNat sample).toInt32 = Int32.ofNat sample := rfl
  rw [hcast, Int32.toInt_ofNat_of_lt (by omega)]

/-- The three products and sums of a sample fit. -/
def SampleFits (frame_id : UInt32) (sample : Nat) : Prop :=
  -2147483648 ≤ framePhase frame_id * 97 ∧ framePhase frame_id * 97 ≤ 2147483647 ∧
    sample ≤ lastPosition ∧ framePhase frame_id * 97 + sample * 13 ≤ 2147483647

theorem syntheticSample_of_fits (build : Build) {frame_id : UInt32} {sample : Nat}
    (h : SampleFits frame_id sample) :
    ∃ value : Int16, syntheticSample build frame_id sample = some value ∧
      value.toInt = exactSample frame_id sample := by
  obtain ⟨hlow, hhigh, hposition, hsum⟩ := h
  unfold lastPosition at hposition
  have hbounds := exactSample_bounds frame_id sample
  have hfirst : build.i32 (frame_id.toInt32.toInt * 97)
      = some (Int32.ofInt (framePhase frame_id * 97)) := build.i32_of_fits ⟨hlow, hhigh⟩
  have hsecond : build.i32 ((UInt32.ofNat sample).toInt32.toInt * 13)
      = some (Int32.ofInt (sample * 13)) := by
    rw [position_toInt (by omega)]
    exact build.i32_of_fits (by omega)
  have hthird : build.i32 ((Int32.ofInt (framePhase frame_id * 97)).toInt
      + (Int32.ofInt (sample * 13)).toInt)
      = some (Int32.ofInt (framePhase frame_id * 97 + sample * 13)) := by
    rw [toInt_ofInt_of_fits ⟨hlow, hhigh⟩, toInt_ofInt_of_fits (by omega)]
    exact build.i32_of_fits (by omega)
  have hfourth : build.i32
      ((Int32.ofInt (framePhase frame_id * 97 + sample * 13)).toInt.tmod 1024 - 512)
      = some (Int32.ofInt (exactSample frame_id sample)) := by
    rw [toInt_ofInt_of_fits (by omega)]
    exact build.i32_of_fits (by unfold exactSample at hbounds; omega)
  refine ⟨(Int32.ofInt (exactSample frame_id sample)).toInt16, ?_, ?_⟩
  · unfold syntheticSample
    simp only [hfirst, hsecond, hthird, hfourth, Option.bind_eq_bind, Option.bind_some]
  · rw [Int32.toInt_toInt16, toInt_ofInt_of_fits (by omega)]
    exact Int.bmod_eq_of_le (by omega) (by omega)

/-- A debug build makes a sample only when everything fits. -/
theorem fits_of_syntheticSample {frame_id : UInt32} {sample : Nat} (hsample : sample ≤ 2147483647)
    (h : syntheticSample .debug frame_id sample ≠ none) : SampleFits frame_id sample := by
  have hfits : ∀ {a : Int} {value : Int32}, Build.debug.i32 a = some value →
      (-2147483648 ≤ a ∧ a ≤ 2147483647) ∧ value.toInt = a := by
    intro a value hvalue
    unfold Build.i32 at hvalue
    dsimp only at hvalue
    split at hvalue
    · next hrange =>
        rw [← Option.some.inj hvalue]
        exact ⟨hrange, toInt_ofInt_of_fits hrange⟩
    · exact nomatch hvalue
  obtain ⟨value, hvalue⟩ := Option.ne_none_iff_exists'.mp h
  unfold syntheticSample at hvalue
  simp only [Option.bind_eq_bind, Option.bind_eq_some_iff] at hvalue
  obtain ⟨frame_phase, hfirst, sample_phase, hsecond, phase, hthird, _⟩ := hvalue
  obtain ⟨hfirstRange, hfirstValue⟩ := hfits hfirst
  obtain ⟨hsecondRange, hsecondValue⟩ := hfits hsecond
  obtain ⟨hthirdRange, _⟩ := hfits hthird
  rw [position_toInt hsample] at hsecondRange hsecondValue
  rw [hfirstValue, hsecondValue] at hthirdRange
  refine ⟨hfirstRange.1, hfirstRange.2, ?_, hthirdRange.2⟩
  unfold lastPosition
  omega

/-! ## All samples of a frame -/

theorem mapM_eq_some_iff {α β : Type} {f : α → Option β} {l : List α} {r : List β} :
    l.mapM f = some r ↔ l.map f = r.map some := by
  induction l generalizing r with
  | nil =>
      rw [List.mapM_nil, List.map_nil]
      cases r <;> simp
  | cons a l ih =>
      rw [List.mapM_cons, List.map_cons]
      simp only [Option.bind_eq_bind, Option.bind_eq_some_iff, Option.pure_def, ih]
      constructor
      · rintro ⟨b, hb, rest, hrest, hr⟩
        rw [← Option.some.inj hr, List.map_cons, hb, hrest]
      · intro h
        cases r with
        | nil => exact absurd h (List.cons_ne_nil _ _)
        | cons b rest =>
            obtain ⟨hb, hrest⟩ := List.cons.inj h
            exact ⟨b, hb, rest, hrest, rfl⟩

/-- The sample count of all channels fits a `usize`. -/
theorem usize_total (build : Build) (sample_count channel_count : UInt16) :
    build.usize (sample_count.toNat * channel_count.toNat)
      = some (sample_count.toNat * channel_count.toNat) := by
  refine build.usize_of_le ?_
  have hsamples : sample_count.toNat ≤ 65535 := Nat.le_of_lt_succ sample_count.toNat_lt
  have hchannels : channel_count.toNat ≤ 65535 := Nat.le_of_lt_succ channel_count.toNat_lt
  calc sample_count.toNat * channel_count.toNat ≤ 65535 * 65535 :=
        Nat.mul_le_mul hsamples hchannels
    _ ≤ u64Max := by decide

theorem syntheticPcm_eq_some_iff {build : Build} {frame_id : UInt32}
    {sample_count channel_count : UInt16} {pcm : List Int16} :
    syntheticPcm build frame_id sample_count channel_count = some pcm ↔
      (List.range (sample_count.toNat * channel_count.toNat)).map (syntheticSample build frame_id)
        = pcm.map some := by
  unfold syntheticPcm
  rw [usize_total]
  exact mapM_eq_some_iff

theorem length_syntheticPcm {build : Build} {frame_id : UInt32}
    {sample_count channel_count : UInt16} {pcm : List Int16}
    (h : syntheticPcm build frame_id sample_count channel_count = some pcm) :
    pcm.length = sample_count.toNat * channel_count.toNat := by
  have hlength := congrArg List.length (syntheticPcm_eq_some_iff.mp h)
  rw [List.length_map, List.length_map, List.length_range] at hlength
  exact hlength.symm

theorem syntheticSample_of_syntheticPcm {build : Build} {frame_id : UInt32}
    {sample_count channel_count : UInt16} {pcm : List Int16}
    (h : syntheticPcm build frame_id sample_count channel_count = some pcm) {sample : Nat}
    (hsample : sample < sample_count.toNat * channel_count.toNat) :
    ∃ value ∈ pcm, syntheticSample build frame_id sample = some value := by
  have hmem : syntheticSample build frame_id sample ∈ pcm.map some := by
    rw [← syntheticPcm_eq_some_iff.mp h]
    exact List.mem_map_of_mem (List.mem_range.mpr hsample)
  obtain ⟨value, hvalue, heq⟩ := List.mem_map.mp hmem
  exact ⟨value, hvalue, heq.symm⟩

/-- All samples can be made when all of them fit. -/
theorem syntheticPcm_of_fits (build : Build) {frame_id : UInt32}
    {sample_count channel_count : UInt16}
    (h : ∀ sample < sample_count.toNat * channel_count.toNat, SampleFits frame_id sample) :
    ∃ pcm, syntheticPcm build frame_id sample_count channel_count = some pcm ∧
      ∀ value ∈ pcm, ∃ sample < sample_count.toNat * channel_count.toNat,
        value.toInt = exactSample frame_id sample := by
  have hvalues : ∀ sample ∈ List.range (sample_count.toNat * channel_count.toNat),
      ∃ value, syntheticSample build frame_id sample = some value ∧
        value.toInt = exactSample frame_id sample :=
    fun sample hsample => syntheticSample_of_fits build (h sample (List.mem_range.mp hsample))
  refine ⟨(List.range (sample_count.toNat * channel_count.toNat)).map fun sample =>
    (syntheticSample build frame_id sample).getD 0, ?_, ?_⟩
  · rw [syntheticPcm_eq_some_iff, List.map_map]
    refine List.map_congr_left fun sample hsample => ?_
    obtain ⟨value, hvalue, _⟩ := hvalues sample hsample
    rw [Function.comp_apply, hvalue, Option.getD_some]
  · intro value hvalue
    obtain ⟨sample, hsample, rfl⟩ := List.mem_map.mp hvalue
    obtain ⟨value, hvalue, hexact⟩ := hvalues sample hsample
    refine ⟨sample, List.mem_range.mp hsample, ?_⟩
    rw [hvalue, Option.getD_some, hexact]

/-- The frame ids and numbers of samples whose arithmetic fits. -/
def PhasesFit (frame_id : UInt32) (total : Nat) : Prop :=
  -2147483648 ≤ framePhase frame_id * 97 ∧ (total - 1) * 13 ≤ 2147483647 ∧
    framePhase frame_id * 97 + ((total - 1 : Nat) : Int) * 13 ≤ 2147483647

/-- The frame ids and numbers of samples that are safe: from a frame id that is not negative as an
`i32` the last position must fit; from a negative one only a single sample is in its range, and
only when the remainder is zero. -/
def PhasesSafe (frame_id : UInt32) (total : Nat) : Prop :=
  (0 ≤ framePhase frame_id ∧
      framePhase frame_id * 97 + ((total - 1 : Nat) : Int) * 13 ≤ 2147483647) ∨
    (framePhase frame_id < 0 ∧ total = 1 ∧ 1024 ∣ framePhase frame_id ∧
      -2147483648 ≤ framePhase frame_id * 97)

instance (frame_id : UInt32) (total : Nat) : Decidable (PhasesFit frame_id total) :=
  inferInstanceAs (Decidable (_ ∧ _))

instance (frame_id : UInt32) (total : Nat) : Decidable (PhasesSafe frame_id total) :=
  inferInstanceAs (Decidable (_ ∨ _))

theorem PhasesFit.fits {frame_id : UInt32} {total sample : Nat} (h : PhasesFit frame_id total)
    (hsample : sample < total) : SampleFits frame_id sample := by
  obtain ⟨hlow, hposition, hsum⟩ := h
  refine ⟨hlow, ?_, ?_, ?_⟩
  · omega
  · unfold lastPosition
    omega
  · omega

/-- A debug build makes all samples exactly when they fit. The last position decides, or, where it
has more than 31 bits, the first position that does not fit. -/
theorem syntheticPcm_debug_iff {frame_id : UInt32} {sample_count channel_count : UInt16}
    (hpos : 0 < sample_count.toNat * channel_count.toNat) :
    syntheticPcm .debug frame_id sample_count channel_count ≠ none ↔
      PhasesFit frame_id (sample_count.toNat * channel_count.toNat) := by
  constructor
  · intro h
    obtain ⟨pcm, hpcm⟩ := Option.ne_none_iff_exists'.mp h
    have hfits : ∀ sample < sample_count.toNat * channel_count.toNat, sample ≤ 2147483647 →
        SampleFits frame_id sample := by
      intro sample hsample hsmall
      obtain ⟨value, _, hvalue⟩ := syntheticSample_of_syntheticPcm hpcm hsample
      exact fits_of_syntheticSample hsmall (Option.ne_none_iff_exists'.mpr ⟨value, hvalue⟩)
    have hlast : sample_count.toNat * channel_count.toNat - 1 ≤ 165191049 := by
      by_contra hmore
      have hposition : (165191050 : Nat) ≤ lastPosition :=
        (hfits 165191050 (by omega) (by omega)).2.2.1
      unfold lastPosition at hposition
      omega
    obtain ⟨hlow, _, _, hsum⟩ := hfits (sample_count.toNat * channel_count.toNat - 1) (by omega)
      (by omega)
    exact ⟨hlow, by omega, hsum⟩
  · intro h
    obtain ⟨pcm, hpcm, _⟩ := syntheticPcm_of_fits .debug fun _ hsample => h.fits hsample
    exact Option.ne_none_iff_exists'.mpr ⟨pcm, hpcm⟩

/-- What fits has its samples in range exactly when it is safe. The first sample asks for a frame id
that is not negative or a zero remainder, and the second one is never at a zero remainder as
well. -/
theorem phasesSafe_iff {frame_id : UInt32} {total : Nat} (hpos : 0 < total) :
    PhasesSafe frame_id total ↔
      PhasesFit frame_id total ∧ ∀ sample < total, -512 ≤ exactSample frame_id sample := by
  constructor
  · rintro (⟨hnonneg, hsum⟩ | ⟨hneg, rfl, hdvd, hlow⟩)
    · refine ⟨⟨by omega, by omega, hsum⟩, fun sample _ => ?_⟩
      rw [exactSample_ge_iff]
      left
      omega
    · refine ⟨⟨hlow, by omega, by omega⟩, fun sample hsample => ?_⟩
      have hfirst : sample = 0 := by omega
      rw [exactSample_ge_iff, hfirst]
      right
      omega
  · rintro ⟨⟨hlow, _, hsum⟩, hrange⟩
    rcases lt_or_ge (framePhase frame_id) 0 with hneg | hnonneg
    · have hdvd : 1024 ∣ framePhase frame_id := by
        rcases (exactSample_ge_iff frame_id 0).mp (hrange 0 hpos) with h | h <;> omega
      refine .inr ⟨hneg, ?_, hdvd, hlow⟩
      by_contra hmore
      rcases (exactSample_ge_iff frame_id 1).mp (hrange 1 (by omega)) with h | h <;> omega
    · exact .inl ⟨hnonneg, hsum⟩

/-- Samples that fit are the exact ones, in either build. -/
theorem mem_syntheticPcm_of_fits {build : Build} {frame_id : UInt32}
    {sample_count channel_count : UInt16} {pcm : List Int16}
    (h : PhasesFit frame_id (sample_count.toNat * channel_count.toNat))
    (hpcm : syntheticPcm build frame_id sample_count channel_count = some pcm) {value : Int16}
    (hvalue : value ∈ pcm) :
    ∃ sample < sample_count.toNat * channel_count.toNat,
      value.toInt = exactSample frame_id sample := by
  obtain ⟨pcm', hpcm', hexact⟩ := syntheticPcm_of_fits build fun _ hsample => h.fits hsample
  rw [hpcm] at hpcm'
  rw [Option.some.inj hpcm'] at hvalue
  exact hexact value hvalue

/-- Every position of samples that fit has its exact sample. -/
theorem exactSample_mem_syntheticPcm {build : Build} {frame_id : UInt32}
    {sample_count channel_count : UInt16} {pcm : List Int16}
    (h : PhasesFit frame_id (sample_count.toNat * channel_count.toNat))
    (hpcm : syntheticPcm build frame_id sample_count channel_count = some pcm) {sample : Nat}
    (hsample : sample < sample_count.toNat * channel_count.toNat) :
    ∃ value ∈ pcm, value.toInt = exactSample frame_id sample := by
  obtain ⟨value, hmem, hvalue⟩ := syntheticSample_of_syntheticPcm hpcm hsample
  obtain ⟨value', hvalue', hexact⟩ := syntheticSample_of_fits build (h.fits hsample)
  rw [hvalue] at hvalue'
  exact ⟨value, hmem, by rw [Option.some.inj hvalue', hexact]⟩

/-! ## Arbitrary bytes -/

/-- No samples are embedded behind the header. -/
def EmbedsNoPcm (payload : List UInt8) : Prop :=
  payload.length < 8 ∨ payload.take 4 ≠ pcmPayloadMagic

theorem AcceptedHeader.total_pos {encoded : List UInt8} (h : AcceptedHeader encoded) :
    0 < headerTotal encoded := by
  have hchannels : (headerChannels encoded).toNat ≠ 0 :=
    fun hzero => h.channels (UInt16.toNat_inj.mp hzero)
  have hsamples : (headerSamples encoded).toNat ≠ 0 :=
    fun hzero => h.samples (UInt16.toNat_inj.mp hzero)
  exact Nat.mul_pos (Nat.pos_of_ne_zero hsamples) (Nat.pos_of_ne_zero hchannels)

theorem length_samplesOf (n : Nat) (bytes : List UInt8) (h : bytes.length = n * 2) :
    (samplesOf bytes).length = n := by
  induction n generalizing bytes with
  | zero =>
      have hnil : bytes = [] := List.eq_nil_of_length_eq_zero (by omega)
      rw [hnil]
      rfl
  | succ n ih =>
      match bytes, h with
      | [_], h => exact absurd h (by simp only [List.length_cons, List.length_nil]; omega)
      | low :: high :: bytes, h =>
          have hrest : bytes.length = n * 2 := by
            simp only [List.length_cons] at h
            omega
          show (samplesOf bytes).length + 1 = n + 1
          rw [ih bytes hrest]

theorem leAt_lt (bytes : List UInt8) (offset : Nat) : leAt bytes offset 4 < 4294967296 := by
  have htaken : ((bytes.drop offset).take 4).length ≤ 4 := List.length_take_le _ _
  calc leAt bytes offset 4 < 256 ^ ((bytes.drop offset).take 4).length := ofLe_lt _
    _ ≤ 256 ^ 4 := Nat.pow_le_pow_right (by decide) htaken

theorem embeddedPcm_of_none (build : Build) {payload : List UInt8} (h : EmbedsNoPcm payload)
    (sample_count channel_count : UInt16) :
    embeddedPcm build payload sample_count channel_count = some (.ok none) := by
  unfold embeddedPcm
  by_cases hshort : payload.length < 8
  · exact if_pos hshort
  · rw [if_neg hshort]
    exact if_pos (h.resolve_left hshort)

/-- Embedded samples are refused, or as many as announced. None of the sizes overflows. -/
theorem embeddedPcm_of_embedded (build : Build) {payload : List UInt8} (h : ¬ EmbedsNoPcm payload)
    (sample_count channel_count : UInt16) :
    (∃ error, embeddedPcm build payload sample_count channel_count = some (.error error)) ∨
      ∃ pcm, embeddedPcm build payload sample_count channel_count = some (.ok (some pcm)) ∧
        pcm.length = sample_count.toNat * channel_count.toNat := by
  obtain ⟨hlong, hmagic⟩ := not_or.mp h
  have hsmall : sample_count.toNat * channel_count.toNat ≤ 65535 * 65535 :=
    Nat.mul_le_mul (Nat.le_of_lt_succ sample_count.toNat_lt)
      (Nat.le_of_lt_succ channel_count.toNat_lt)
  have hlen := leAt_lt payload 4
  have htop : u64Max = 18446744073709551615 := rfl
  have hbytes : build.usize (sample_count.toNat * channel_count.toNat * 2)
      = some (sample_count.toNat * channel_count.toNat * 2) := build.usize_of_le (by omega)
  have hstop : build.usize (8 + leAt payload 4 4) = some (8 + leAt payload 4 4) :=
    build.usize_of_le (by omega)
  unfold embeddedPcm
  rw [if_neg hlong, if_neg hmagic]
  simp only [usize_total, hbytes, hstop, Option.bind_eq_bind, Option.bind_some]
  by_cases hcount : leAt payload 4 4 ≠ sample_count.toNat * channel_count.toNat * 2
  · rw [if_pos hcount]
    exact .inl ⟨_, rfl⟩
  · rw [if_neg hcount]
    by_cases hshort : payload.length < 8 + leAt payload 4 4
    · rw [if_pos hshort]
      exact .inl ⟨_, rfl⟩
    · rw [if_neg hshort]
      refine .inr ⟨_, rfl, length_samplesOf _ _ ?_⟩
      rw [List.length_drop, List.length_take_of_le (by omega)]
      omega

namespace SyntheticOpusDecoder

theorem decode_of_not_accepted (build : Build) {encoded : List UInt8}
    (h : ¬ AcceptedHeader encoded) : decode build encoded = some (.ok none) := by
  unfold decode
  split
  · rfl
  · next hlength =>
      split
      · rfl
      · next hmagic =>
          dsimp only
          refine if_pos ?_
          by_contra hfields
          obtain ⟨hrate, hrest⟩ := not_or.mp hfields
          obtain ⟨hchannels, hsamples⟩ := not_or.mp hrest
          exact h ⟨Nat.not_lt.mp hlength, not_not.mp hmagic, hrate, hchannels, hsamples⟩

/-- Without embedded samples the decoder makes them up. -/
theorem decode_generated (build : Build) {encoded : List UInt8} (h : AcceptedHeader encoded)
    (hnone : EmbedsNoPcm (encoded.drop 24)) :
    decode build encoded =
      (syntheticPcm build (headerFrameId encoded) (headerSamples encoded)
        (headerChannels encoded)).map fun pcm =>
          .ok (some ⟨headerFrameId encoded, UInt32.ofNat (leAt encoded 8 4),
            headerChannels encoded, headerSamples encoded,
            UInt64.ofNat (leAt encoded 16 8), pcm⟩) := by
  rw [decode_of_accepted build h, embeddedPcm_of_none build hnone, Option.bind_some,
    Option.map_eq_bind]
  rfl

/-- Embedded samples are refused or handed on, in as great a number as announced. -/
theorem decode_embedded (build : Build) {encoded : List UInt8} (h : AcceptedHeader encoded)
    (hsome : ¬ EmbedsNoPcm (encoded.drop 24)) :
    ∃ result, decode build encoded = some result ∧ ∀ frame, result = .ok (some frame) →
      frame.pcm.length = frame.sample_count.toNat * frame.channel_count.toNat := by
  rw [decode_of_accepted build h]
  rcases embeddedPcm_of_embedded build hsome (headerSamples encoded) (headerChannels encoded)
    with ⟨error, herror⟩ | ⟨pcm, hpcm, hlength⟩
  · rw [herror]
    exact ⟨.error error, rfl, nofun⟩
  · rw [hpcm]
    refine ⟨_, rfl, fun frame hframe => ?_⟩
    cases hframe
    exact hlength

/-- Whatever the bytes are, a decoded frame has as many samples as it announces. -/
theorem length_decode {build : Build} {encoded : List UInt8} {frame : DecodedAudioFrame}
    (h : decode build encoded = some (.ok (some frame))) :
    frame.pcm.length = frame.sample_count.toNat * frame.channel_count.toNat := by
  by_cases haccepted : AcceptedHeader encoded
  · by_cases hnone : EmbedsNoPcm (encoded.drop 24)
    · rw [decode_generated build haccepted hnone] at h
      obtain ⟨pcm, hpcm, hframe⟩ := Option.map_eq_some_iff.mp h
      cases hframe
      exact length_syntheticPcm hpcm
    · obtain ⟨result, hresult, hlength⟩ := decode_embedded build haccepted hnone
      rw [hresult] at h
      exact hlength frame (Option.some.inj h)
  · rw [decode_of_not_accepted build haccepted] at h
    exact nomatch h

end SyntheticOpusDecoder

/-- Decoding the bytes overflows nowhere, and gives the announced number of samples, those that are
made up all in their range. -/
structure ArithmeticSafe (encoded : List UInt8) : Prop where
  no_overflow : SyntheticOpusDecoder.decode .debug encoded ≠ none
  samples : ∀ build frame, SyntheticOpusDecoder.decode build encoded = some (.ok (some frame)) →
    frame.pcm.length = frame.sample_count.toNat * frame.channel_count.toNat ∧
      (EmbedsNoPcm (encoded.drop 24) → ∀ value ∈ frame.pcm, -512 ≤ value ∧ value ≤ 511)

/-- The header asks for made-up samples only where they are safe. -/
def SafeInput (encoded : List UInt8) : Prop :=
  AcceptedHeader encoded → EmbedsNoPcm (encoded.drop 24) →
    PhasesSafe (headerFrameId encoded) (headerTotal encoded)

theorem int16_bounds_iff (value : Int16) :
    -512 ≤ value ∧ value ≤ 511 ↔ -512 ≤ value.toInt ∧ value.toInt ≤ 511 := by
  rw [Int16.le_iff_toInt_le, Int16.le_iff_toInt_le]
  exact Iff.rfl

/-- The frames to which samples are made up are the ones that need a condition. -/
theorem arithmeticSafe_iff (encoded : List UInt8) : ArithmeticSafe encoded ↔ SafeInput encoded := by
  constructor
  · intro h haccepted hnone
    have hdecode := SyntheticOpusDecoder.decode_generated .debug haccepted hnone
    -- a debug build that does not stop has phases that fit
    have hsome : syntheticPcm .debug (headerFrameId encoded) (headerSamples encoded)
        (headerChannels encoded) ≠ none := by
      intro hpcm
      rw [hpcm] at hdecode
      exact h.no_overflow hdecode
    have hfit := (syntheticPcm_debug_iff haccepted.total_pos).mp hsome
    obtain ⟨pcm, hpcm⟩ := Option.ne_none_iff_exists'.mp hsome
    rw [hpcm, Option.map_some] at hdecode
    refine (phasesSafe_iff haccepted.total_pos).mpr ⟨hfit, fun sample hsample => ?_⟩
    obtain ⟨value, hvalue, hexact⟩ := exactSample_mem_syntheticPcm hfit hpcm hsample
    -- the last factor of a sample cannot leave the range, so the first one does not
    have hbounds := (h.samples .debug _ hdecode).2 hnone value hvalue
    rw [int16_bounds_iff, hexact] at hbounds
    exact hbounds.1
  · intro h
    refine ⟨?_, fun build frame hframe =>
      ⟨SyntheticOpusDecoder.length_decode hframe, fun hnone value hvalue => ?_⟩⟩
    · -- generated, embedded or refused: only the first computes samples
      by_cases haccepted : AcceptedHeader encoded
      · by_cases hnone : EmbedsNoPcm (encoded.drop 24)
        · have hfit := ((phasesSafe_iff haccepted.total_pos).mp (h haccepted hnone)).1
          obtain ⟨pcm, hpcm⟩ := Option.ne_none_iff_exists'.mp
            ((syntheticPcm_debug_iff haccepted.total_pos).mpr hfit)
          rw [SyntheticOpusDecoder.decode_generated .debug haccepted hnone, hpcm]
          exact Option.some_ne_none _
        · obtain ⟨result, hresult, _⟩ :=
            SyntheticOpusDecoder.decode_embedded .debug haccepted hnone
          rw [hresult]
          exact Option.some_ne_none _
      · rw [SyntheticOpusDecoder.decode_of_not_accepted .debug haccepted]
        exact Option.some_ne_none _
    · have haccepted : AcceptedHeader encoded := by
        by_contra hrefused
        rw [SyntheticOpusDecoder.decode_of_not_accepted build hrefused] at hframe
        exact nomatch hframe
      obtain ⟨hfit, hrange⟩ := (phasesSafe_iff haccepted.total_pos).mp (h haccepted hnone)
      rw [SyntheticOpusDecoder.decode_generated build haccepted hnone] at hframe
      obtain ⟨pcm, hpcm, hpcmFrame⟩ := Option.map_eq_some_iff.mp hframe
      cases hpcmFrame
      obtain ⟨sample, hsample, hexact⟩ := mem_syntheticPcm_of_fits hfit hpcm hvalue
      rw [int16_bounds_iff, hexact]
      exact ⟨hrange sample hsample, (exactSample_bounds _ _).2⟩

/-! ## What the encoder writes -/

/-- The padding counts up, which the magic of embedded samples does not. -/
theorem audioPaddingFrom_embedsNoPcm (seed : UInt32) (len count : Nat) :
    EmbedsNoPcm (audioPaddingFrom seed len count) := by
  match count with
  | 0 | 1 | 2 | 3 =>
      left
      simp [audioPaddingFrom]
  | count + 4 =>
      right
      intro hmagic
      have hfirst := (List.cons.inj hmagic).1
      have hsecond := (List.cons.inj (List.cons.inj hmagic).2).1
      have hstep : (seed + UInt32.ofNat (len + 1)).toUInt8
          = (seed + UInt32.ofNat len).toUInt8 + 1 := by
        rw [UInt32.ofNat_add, ← UInt32.add_assoc, UInt32.toUInt8_add]
        rfl
      rw [hstep, hfirst] at hsecond
      exact absurd hsecond (by decide)

/-- A release build always makes samples up. -/
theorem syntheticPcm_release (frame_id : UInt32) (sample_count channel_count : UInt16) :
    syntheticPcm .release frame_id sample_count channel_count ≠ none := by
  rw [Option.ne_none_iff_exists']
  refine ⟨(List.range (sample_count.toNat * channel_count.toNat)).map fun sample =>
    (syntheticSample .release frame_id sample).getD 0, ?_⟩
  rw [syntheticPcm_eq_some_iff, List.map_map]
  rfl

section Encoded

variable (build : Build) (config : SyntheticOpusEncoderConfig) (frame_id : UInt32)
  (capture_time_micros : UInt64) (stream_id : UInt32)

/-- What the encoder writes is decoded as the frame it is, and never as embedded samples. -/
def DecodesEncoded : Prop :=
  EmbedsNoPcm ((SyntheticOpusEncoder.encode config frame_id capture_time_micros
      stream_id).bytes.drop 24) ∧
    ∃ frame, SyntheticOpusDecoder.decode build (SyntheticOpusEncoder.encode config frame_id
        capture_time_micros stream_id).bytes = some (.ok (some frame)) ∧
      frame.frame_id = frame_id

theorem encode_embedsNoPcm :
    EmbedsNoPcm ((SyntheticOpusEncoder.encode config frame_id capture_time_micros
      stream_id).bytes.drop 24) := by
  have hdrop : (SyntheticOpusEncoder.encode config frame_id capture_time_micros
      stream_id).bytes.drop 24 = audioPaddingFrom (frame_id * 31) _ _ :=
    List.drop_left' (length_audioHeader _ _ _ _ _)
  rw [hdrop]
  exact audioPaddingFrom_embedsNoPcm _ _ _

variable {config}

theorem decode_encode (hrate : config.sample_rate_hz ≠ 0) (hchannels : config.channel_count ≠ 0)
    (hcount : SyntheticOpusEncoder.sampleCountPerFrame config ≠ 0) :
    SyntheticOpusDecoder.decode build (SyntheticOpusEncoder.encode config frame_id
        capture_time_micros stream_id).bytes =
      (syntheticPcm build frame_id (SyntheticOpusEncoder.sampleCountPerFrame config)
        config.channel_count).map fun pcm =>
          .ok (some ⟨frame_id, config.sample_rate_hz, config.channel_count,
            SyntheticOpusEncoder.sampleCountPerFrame config, capture_time_micros, pcm⟩) := by
  refine (SyntheticOpusDecoder.decode_audioHeader build capture_time_micros hrate hchannels hcount
    _).trans ?_
  rw [embeddedPcm_of_none build (audioPaddingFrom_embedsNoPcm _ _ _), Option.bind_some,
    Option.map_eq_bind]
  rfl

theorem decodesEncoded_iff (hrate : config.sample_rate_hz ≠ 0)
    (hchannels : config.channel_count ≠ 0)
    (hcount : SyntheticOpusEncoder.sampleCountPerFrame config ≠ 0) :
    DecodesEncoded build config frame_id capture_time_micros stream_id ↔
      build = .release ∨ PhasesFit frame_id
        ((SyntheticOpusEncoder.sampleCountPerFrame config).toNat * config.channel_count.toNat) := by
  have hpos : 0 < (SyntheticOpusEncoder.sampleCountPerFrame config).toNat
      * config.channel_count.toNat :=
    Nat.mul_pos (Nat.pos_of_ne_zero fun hzero => hcount (UInt16.toNat_inj.mp hzero))
      (Nat.pos_of_ne_zero fun hzero => hchannels (UInt16.toNat_inj.mp hzero))
  have hdecodes : DecodesEncoded build config frame_id capture_time_micros stream_id ↔
      syntheticPcm build frame_id (SyntheticOpusEncoder.sampleCountPerFrame config)
        config.channel_count ≠ none := by
    unfold DecodesEncoded
    rw [decode_encode build frame_id capture_time_micros stream_id hrate hchannels hcount,
      Option.ne_none_iff_exists']
    constructor
    · rintro ⟨_, frame, hframe, _⟩
      obtain ⟨pcm, hpcm, _⟩ := Option.map_eq_some_iff.mp hframe
      exact ⟨pcm, hpcm⟩
    · rintro ⟨pcm, hpcm⟩
      exact ⟨encode_embedsNoPcm config frame_id capture_time_micros stream_id, _,
        congrArg (Option.map _) hpcm, rfl⟩
  rw [hdecodes]
  cases build with
  | debug => simp only [syntheticPcm_debug_iff hpos, reduceCtorEq, false_or]
  | release => exact iff_of_true (syntheticPcm_release _ _ _) (.inl rfl)

end Encoded

/-- Arbitrary bytes are decoded safely exactly when a frame that samples are made up for has a frame
id and a number of samples for which the arithmetic stays in its range, and what the encoder writes
without samples is decoded by a release build, and by a debug build for the same reason. -/
theorem audio_decoding_safe_iff (encoded : List UInt8) :
    (ArithmeticSafe encoded ↔ SafeInput encoded) ∧
      ∀ (build : Build) (config : SyntheticOpusEncoderConfig) (frame_id : UInt32)
        (capture_time_micros : UInt64) (stream_id : UInt32), config.sample_rate_hz ≠ 0 →
        config.channel_count ≠ 0 → SyntheticOpusEncoder.sampleCountPerFrame config ≠ 0 →
        (DecodesEncoded build config frame_id capture_time_micros stream_id ↔
          build = .release ∨ PhasesFit frame_id
            ((SyntheticOpusEncoder.sampleCountPerFrame config).toNat
              * config.channel_count.toNat)) :=
  ⟨arithmeticSafe_iff encoded,
    fun build _ frame_id capture_time_micros stream_id hrate hchannels hcount =>
      decodesEncoded_iff build frame_id capture_time_micros stream_id hrate hchannels hcount⟩

theorem audio_decoding_safe_default :
    ArithmeticSafe (audioHeader 7 48000 1 960 42) ∧
      DecodesEncoded .debug .default 7 42 3 ∧ ¬ DecodesEncoded .debug .default 30000000 42 3 :=
  ⟨(audio_decoding_safe_iff _).1.mpr fun _ _ => by decide,
    ((audio_decoding_safe_iff []).2 .debug .default 7 42 3 (by decide) (by decide)
      (by decide)).mpr (.inr (by decide)),
    mt ((audio_decoding_safe_iff []).2 .debug .default 30000000 42 3 (by decide) (by decide)
      (by decide)).mp (by decide)⟩

/-- A frame id of 30000000 stops a debug build at its first sample. -/
theorem large_frame_id_overflows :
    ¬ ((∀ encoded, ArithmeticSafe encoded) ∧
      ∀ (build : Build) (config : SyntheticOpusEncoderConfig) (frame_id : UInt32)
        (capture_time_micros : UInt64) (stream_id : UInt32), config.sample_rate_hz ≠ 0 →
        config.channel_count ≠ 0 → SyntheticOpusEncoder.sampleCountPerFrame config ≠ 0 →
        DecodesEncoded build config frame_id capture_time_micros stream_id) := by
  rintro ⟨hsafe, _⟩
  exact (hsafe (audioHeader 30000000 48000 1 960 42)).no_overflow (by decide +kernel)

end TeamView.Client
