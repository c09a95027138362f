import TeamView.Client.Audio
import TeamView.Lib.Blocks

set_option autoImplicit false

/-! # The audio round trip

The decoder reads back what the encoders write, in a debug build and in a release build
(`crates/desktop-client/src/audio.rs`). A playback counts the samples of all channels in sixteen
bits, though, so it refuses a frame with more of them, which the encoder and the decoder allow.
-/

namespace TeamView.Client

open TeamView.Protocol Bytes MachineInt

/-! ## Reading back what was written -/

/-- A field behind others. -/
theorem leAt_of_append {front : List UInt8} {offset n value : Nat} (hfront : front.length = offset)
    (hvalue : value < 256 ^ n) (tail : List UInt8) :
    leAt (front ++ (leBytes n value ++ tail)) offset n = value := by
  rw [leAt, ← hfront, List.drop_left, List.take_left' (leBytes_length n value),
    ofLe_leBytes n value hvalue]

@[simp] theorem length_audioHeader (frame_id sample_rate_hz : UInt32)
    (channel_count sample_count : UInt16) (capture_time_micros : UInt64) :
    (audioHeader frame_id sample_rate_hz channel_count sample_count capture_time_micros).length
      = 24 := by
  simp [audioHeader, syntheticOpusMagic]

@[simp] theorem length_sampleBytes (sample : Int16) : (sampleBytes sample).length = 2 :=
  leBytes_length 2 _

theorem length_flatMap_sampleBytes (samples : List Int16) :
    (samples.flatMap sampleBytes).length = samples.length * 2 :=
  Blocks.length_flatMap fun sample _ => length_sampleBytes sample

theorem samplesOf_flatMap (samples : List Int16) :
    samplesOf (samples.flatMap sampleBytes) = samples := by
  induction samples with
  | nil => rfl
  | cons sample samples ih =>
      have hvalue : ofLe (leBytes 2 sample.toUInt16.toNat) = sample.toUInt16.toNat :=
        ofLe_leBytes 2 _ sample.toUInt16.toNat_lt
      have hsample : (UInt16.ofNat (ofLe (sampleBytes sample))).toInt16 = sample := by
        rw [sampleBytes, hvalue, UInt16.ofNat_toNat, Int16.toInt16_toUInt16]
      show (UInt16.ofNat (ofLe (sampleBytes sample))).toInt16
        :: samplesOf (samples.flatMap sampleBytes) = _
      rw [hsample, ih]

/-! ## The header -/

/-- The frame id, channels and samples for each channel in the header. -/
def headerFrameId (encoded : List UInt8) : UInt32 := UInt32.ofNat (leAt encoded 4 4)

def headerChannels (encoded : List UInt8) : UInt16 := UInt16.ofNat (leAt encoded 12 2)

def headerSamples (encoded : List UInt8) : UInt16 := UInt16.ofNat (leAt encoded 14 2)

/-- The samples of all channels that the header announces. -/
def headerTotal (encoded : List UInt8) : Nat :=
  (headerSamples encoded).toNat * (headerChannels encoded).toNat

/-- The bytes start with a header that the decoder goes on behind. -/
structure AcceptedHeader (encoded : List UInt8) : Prop where
  length : 24 ≤ encoded.length
  magic : encoded.take 4 = syntheticOpusMagic
  rate : UInt32.ofNat (leAt encoded 8 4) ≠ 0
  channels : headerChannels encoded ≠ 0
  samples : headerSamples encoded ≠ 0

/-- A field that others come before. -/
theorem leAt_append {front : List UInt8} {offset : Nat} (hfront : front.length ≤ offset)
    (rest : List UInt8) (n : Nat) :
    leAt (front ++ rest) offset n = leAt rest (offset - front.length) n := by
  rw [leAt, leAt, List.drop_append, List.drop_eq_nil_of_le hfront, List.nil_append]

/-- The fields of a header that an encoder wrote. -/
theorem leAt_audioHeader (frame_id sample_rate_hz : UInt32) (channel_count sample_count : UInt16)
    (capture_time_micros : UInt64) (tail : List UInt8) :
    let encoded := audioHeader frame_id sample_rate_hz channel_count sample_count
      capture_time_micros ++ tail
    leAt encoded 4 4 = frame_id.toNat ∧ leAt encoded 8 4 = sample_rate_hz.toNat ∧
      leAt encoded 12 2 = channel_count.toNat ∧ leAt encoded 14 2 = sample_count.toNat ∧
      leAt encoded 16 8 = capture_time_micros.toNat := by
  have hmagic : syntheticOpusMagic.length = 4 := rfl
  simp only [audioHeader, List.append_assoc]
  refine ⟨?_, ?_, ?_, ?_, ?_⟩
  · exact leAt_of_append rfl frame_id.toNat_lt _
  · rw [leAt_append (by decide)]
    exact leAt_of_append (leBytes_length 4 _) sample_rate_hz.toNat_lt _
  · rw [leAt_append (by decide), leAt_append (by simp [hmagic])]
    exact leAt_of_append (leBytes_length 4 _) channel_count.toNat_lt _
  · rw [leAt_append (by decide), leAt_append (by simp [hmagic]), leAt_append (by simp [hmagic])]
    exact leAt_of_append (leBytes_length 2 _) sample_count.toNat_lt _
  · rw [leAt_append (by decide), leAt_append (by simp [hmagic]), leAt_append (by simp [hmagic]),
      leAt_append (by simp [hmagic])]
    exact leAt_of_append (leBytes_length 2 _) capture_time_micros.toNat_lt _

namespace SyntheticOpusDecoder

theorem decode_of_accepted (build : Build) {encoded : List UInt8} (h : AcceptedHeader encoded) :
    decode build encoded =
      (embeddedPcm build (encoded.drop 24) (headerSamples encoded) (headerChannels encoded)).bind
        fun
        | .error error => some (.error error)
        | .ok embedded =>
            (match embedded with
              | some pcm => some pcm
              | none => syntheticPcm build (headerFrameId encoded) (headerSamples encoded)
                  (headerChannels encoded)).bind fun pcm =>
            some (.ok (some ⟨headerFrameId encoded, UInt32.ofNat (leAt encoded 8 4),
              headerChannels encoded, headerSamples encoded,
              UInt64.ofNat (leAt encoded 16 8), pcm⟩)) := by
  unfold decode
  rw [if_neg (Nat.not_lt.mpr h.length), if_neg (not_not.mpr h.magic)]
  dsimp only
  have hfields : ¬ (UInt32.ofNat (leAt encoded 8 4) = 0 ∨ UInt16.ofNat (leAt encoded 12 2) = 0 ∨
      UInt16.ofNat (leAt encoded 14 2) = 0) :=
    not_or.mpr ⟨h.rate, not_or.mpr ⟨h.channels, h.samples⟩⟩
  rw [if_neg hfields]
  show (embeddedPcm build (encoded.drop 24) (headerSamples encoded) (headerChannels encoded)).bind
    _ = _
  refine congrArg _ (funext fun result => ?_)
  cases result with
  | error error => rfl
  | ok embedded => cases embedded <;> rfl

/-- The decoder reads the fields of the header and goes on behind it. -/
theorem decode_audioHeader (build : Build) {frame_id sample_rate_hz : UInt32}
    {channel_count sample_count : UInt16} (capture_time_micros : UInt64)
    (hrate : sample_rate_hz ≠ 0) (hchannels : channel_count ≠ 0) (hcount : sample_count ≠ 0)
    (tail : List UInt8) :
    decode build (audioHeader frame_id sample_rate_hz channel_count sample_count
        capture_time_micros ++ tail) =
      (embeddedPcm build tail sample_count channel_count).bind fun
        | .error error => some (.error error)
        | .ok embedded =>
            (match embedded with
              | some pcm => some pcm
              | none => syntheticPcm build frame_id sample_count channel_count).bind fun pcm =>
            some (.ok (some ⟨frame_id, sample_rate_hz, channel_count, sample_count,
              capture_time_micros, pcm⟩)) := by
  obtain ⟨hid, hrateAt, hchannelsAt, hcountAt, hcaptureAt⟩ := leAt_audioHeader frame_id
    sample_rate_hz channel_count sample_count capture_time_micros tail
  generalize hencoded : audioHeader frame_id sample_rate_hz channel_count sample_count
    capture_time_micros ++ tail = encoded at *
  have htail : encoded.drop 24 = tail := by
    rw [← hencoded]
    exact List.drop_left' (length_audioHeader _ _ _ _ _)
  have hheader : headerFrameId encoded = frame_id ∧ headerChannels encoded = channel_count ∧
      headerSamples encoded = sample_count := by
    unfold headerFrameId headerChannels headerSamples
    rw [hid, hchannelsAt, hcountAt]
    exact ⟨UInt32.ofNat_toNat, UInt16.ofNat_toNat, UInt16.ofNat_toNat⟩
  have haccepted : AcceptedHeader encoded := by
    refine ⟨?_, ?_, ?_, ?_, ?_⟩
    · rw [← hencoded, List.length_append, length_audioHeader]
      omega
    · rw [← hencoded, audioHeader, List.append_assoc]
      exact List.take_left' rfl
    · rw [hrateAt, UInt32.ofNat_toNat]
      exact hrate
    · rw [hheader.2.1]
      exact hchannels
    · rw [hheader.2.2]
      exact hcount
  rw [decode_of_accepted build haccepted]
  simp only [hheader, hrateAt, hcaptureAt, htail, UInt32.ofNat_toNat, UInt64.ofNat_toNat]

end SyntheticOpusDecoder

/-! ## The samples -/

/-- What an encoder accepts: whole samples of every channel, as many as the field holds. -/
structure AcceptedPcm (sample_rate_hz : UInt32) (channel_count : UInt16) (samples : List Int16) :
    Prop where
  rate : sample_rate_hz ≠ 0
  channels : channel_count ≠ 0
  whole : samples.length % channel_count.toNat = 0
  some_samples : samples.length / channel_count.toNat ≠ 0
  field : samples.length / channel_count.toNat ≤ u16Max

/-- The bytes of accepted samples, padding and all. -/
def pcmFrameBytes (config : SyntheticOpusEncoderConfig) (frame_id : UInt32)
    (capture_time_micros : UInt64) (sample_rate_hz : UInt32) (channel_count : UInt16)
    (samples : List Int16) : List UInt8 :=
  let bytes := audioHeader frame_id sample_rate_hz channel_count
      (UInt16.ofNat (samples.length / channel_count.toNat)) capture_time_micros ++
    (pcmPayloadMagic ++ (leBytes 4 (samples.length * 2) ++ samples.flatMap sampleBytes))
  bytes ++ audioPaddingFrom (frame_id * 17) bytes.length
    (config.synthetic_payload_bytes - bytes.length)

/-- An accepted number of samples has 33 bits at most. -/
theorem AcceptedPcm.length_le {sample_rate_hz : UInt32} {channel_count : UInt16}
    {samples : List Int16} (h : AcceptedPcm sample_rate_hz channel_count samples) :
    samples.length ≤ 65535 * 65535 := by
  have hfield : samples.length / channel_count.toNat ≤ 65535 := h.field
  have hchannels : channel_count.toNat ≤ 65535 := Nat.le_of_lt_succ channel_count.toNat_lt
  have hlength := Nat.div_add_mod samples.length channel_count.toNat
  rw [h.whole, Nat.add_zero] at hlength
  rw [← hlength]
  exact Nat.mul_le_mul hchannels hfield

namespace SyntheticOpusEncoder

variable {config : SyntheticOpusEncoderConfig} {frame_id : UInt32} {capture_time_micros : UInt64}
  {sample_rate_hz : UInt32} {channel_count : UInt16} {samples : List Int16} {stream_id : UInt32}

theorem encodePcmI16_eq_ok {encoded : EncodedFrame}
    (h : encodePcmI16 config frame_id capture_time_micros sample_rate_hz channel_count samples
      stream_id = .ok encoded) :
    AcceptedPcm sample_rate_hz channel_count samples ∧ samples.length * 2 ≤ u32Max ∧
      encoded.bytes = pcmFrameBytes config frame_id capture_time_micros sample_rate_hz
        channel_count samples := by
  unfold encodePcmI16 at h
  split at h
  · exact nomatch h
  · next hrate =>
      split at h
      · exact nomatch h
      · next hchannels =>
          split at h
          · exact nomatch h
          · next hwhole =>
              dsimp only at h
              split at h
              · exact nomatch h
              · next hsome =>
                  split at h
                  · exact nomatch h
                  · next hfield =>
                      split at h
                      · exact nomatch h
                      · next pcm_bytes hbytes =>
                          have hproduct := eq_of_checkedMul hbytes
                          split at h
                          · exact nomatch h
                          · next hlimit =>
                              cases h
                              subst hproduct
                              exact ⟨⟨hrate, hchannels, not_not.mp hwhole, hsome,
                                Nat.not_lt.mp hfield⟩, Nat.not_lt.mp hlimit, rfl⟩

/-- Accepted samples are encoded when their bytes fit the length field. -/
theorem encodePcmI16_ok (h : AcceptedPcm sample_rate_hz channel_count samples)
    (hlimit : samples.length * 2 ≤ u32Max) :
    encodePcmI16 config frame_id capture_time_micros sample_rate_hz channel_count samples
        stream_id =
      .ok (audioFrame frame_id capture_time_micros
        (UInt16.ofNat (samples.length / channel_count.toNat)) stream_id
        (pcmFrameBytes config frame_id capture_time_micros sample_rate_hz channel_count
          samples)) := by
  have htop : u32Max ≤ u64Max := by decide
  have hproduct : checkedMul u64Max samples.length 2 = some (samples.length * 2) :=
    if_pos (by omega)
  unfold encodePcmI16
  rw [if_neg h.rate, if_neg h.channels, if_neg (not_not.mpr h.whole)]
  dsimp only
  rw [if_neg h.some_samples, if_neg (Nat.not_lt.mpr h.field), hproduct]
  exact if_neg (Nat.not_lt.mpr hlimit)

end SyntheticOpusEncoder

namespace SyntheticOpusDecoder

variable {config : SyntheticOpusEncoderConfig} {frame_id : UInt32} {capture_time_micros : UInt64}
  {sample_rate_hz : UInt32} {channel_count : UInt16} {samples : List Int16}

theorem embeddedPcm_samples (build : Build)
    (h : AcceptedPcm sample_rate_hz channel_count samples) (hlimit : samples.length * 2 ≤ u32Max)
    (padding : List UInt8) :
    embeddedPcm build (pcmPayloadMagic ++ (leBytes 4 (samples.length * 2) ++
        (samples.flatMap sampleBytes ++ padding)))
      (UInt16.ofNat (samples.length / channel_count.toNat)) channel_count
      = some (.ok (some samples)) := by
  -- the fields of the header give the number of samples back
  have hcount : (UInt16.ofNat (samples.length / channel_count.toNat)).toNat
      = samples.length / channel_count.toNat :=
    UInt16.toNat_ofNat_of_lt' (Nat.lt_succ_of_le h.field)
  have htotal : samples.length / channel_count.toNat * channel_count.toNat = samples.length :=
    Nat.div_mul_cancel (Nat.dvd_of_mod_eq_zero h.whole)
  have htop : u32Max = 4294967295 := rfl
  have htop64 : u64Max = 18446744073709551615 := rfl
  generalize hpayload : pcmPayloadMagic ++ (leBytes 4 (samples.length * 2) ++
    (samples.flatMap sampleBytes ++ padding)) = payload
  have hlength : payload.length = 8 + samples.length * 2 + padding.length := by
    rw [← hpayload]
    simp only [pcmPayloadMagic, List.length_append, List.length_cons, List.length_nil,
      leBytes_length, length_flatMap_sampleBytes]
    omega
  -- the payload is where the decoder looks for it, whatever follows
  have hmagic : payload.take 4 = pcmPayloadMagic := by
    rw [← hpayload]
    exact List.take_left' rfl
  have hlen : leAt payload 4 4 = samples.length * 2 := by
    rw [← hpayload]
    refine leAt_of_append rfl ?_ _
    have hpow : 256 ^ 4 = 4294967296 := rfl
    omega
  have hpcm : (payload.take (8 + samples.length * 2)).drop 8 = samples.flatMap sampleBytes := by
    have hfront : (pcmPayloadMagic ++ leBytes 4 (samples.length * 2)).length = 8 := by
      simp [pcmPayloadMagic]
    rw [List.drop_take, ← hpayload, ← List.append_assoc, List.drop_left' hfront,
      Nat.add_sub_cancel_left, List.take_left' (length_flatMap_sampleBytes samples)]
  unfold embeddedPcm
  rw [if_neg (by omega), if_neg (not_not.mpr hmagic), hcount, htotal]
  simp only [Build.usize_of_le build (show samples.length ≤ u64Max by omega),
    Build.usize_of_le build (show samples.length * 2 ≤ u64Max by omega), hlen, Option.bind_eq_bind,
    Option.bind_some, ne_eq, not_true_eq_false, if_false,
    Build.usize_of_le build (show 8 + samples.length * 2 ≤ u64Max by omega), hpcm,
    samplesOf_flatMap]
  exact if_neg (by omega)

/-- Encoded samples are decoded to themselves. -/
theorem decode_pcmFrameBytes (build : Build)
    (h : AcceptedPcm sample_rate_hz channel_count samples)
    (hlimit : samples.length * 2 ≤ u32Max) :
    decode build (pcmFrameBytes config frame_id capture_time_micros sample_rate_hz channel_count
        samples) =
      some (.ok (some ⟨frame_id, sample_rate_hz, channel_count,
        UInt16.ofNat (samples.length / channel_count.toNat), capture_time_micros, samples⟩)) := by
  have hcount : UInt16.ofNat (samples.length / channel_count.toNat) ≠ 0 := by
    intro hzero
    have hnat := congrArg UInt16.toNat hzero
    rw [UInt16.toNat_ofNat_of_lt' (Nat.lt_succ_of_le h.field)] at hnat
    exact h.some_samples hnat
  unfold pcmFrameBytes
  simp only [List.append_assoc]
  rw [decode_audioHeader build capture_time_micros h.rate h.channels hcount,
    embeddedPcm_samples build h hlimit]
  rfl

end SyntheticOpusDecoder

/-! ## Playback -/

/-- A playback takes a frame whose samples fit sixteen bits and are all there. -/
theorem play_eq_ok_iff (playback : LatestAudioPlayback) (frame : DecodedAudioFrame) :
    (∃ playback', playback.play frame = .ok playback') ↔
      frame.sample_count.toNat * frame.channel_count.toNat ≤ u16Max ∧
        frame.pcm.length = frame.sample_count.toNat * frame.channel_count.toNat := by
  unfold LatestAudioPlayback.play validateDecodedAudioFrame checkedMul
  by_cases hfits : frame.sample_count.toNat * frame.channel_count.toNat ≤ u16Max
  · rw [if_pos hfits]
    dsimp only
    by_cases hlength :
        frame.pcm.length ≠ frame.sample_count.toNat * frame.channel_count.toNat
    · rw [if_pos hlength]
      refine iff_of_false ?_ (fun h => hlength h.2)
      rintro ⟨playback', hplay⟩
      exact nomatch hplay
    · rw [if_neg hlength]
      exact iff_of_true ⟨_, rfl⟩ ⟨hfits, not_not.mp hlength⟩
  · rw [if_neg hfits]
    refine iff_of_false ?_ (fun h => hfits h.1)
    rintro ⟨playback', hplay⟩
    exact nomatch hplay

/-- The samples that an encoder takes come back and are played exactly when there are no more than
sixteen bits count. -/
theorem pcm_round_trip_iff {config : SyntheticOpusEncoderConfig} {frame_id : UInt32}
    {capture_time_micros : UInt64} {sample_rate_hz : UInt32} {channel_count : UInt16}
    {samples : List Int16} {stream_id : UInt32} {encoded : EncodedFrame}
    (h : SyntheticOpusEncoder.encodePcmI16 config frame_id capture_time_micros sample_rate_hz
      channel_count samples stream_id = .ok encoded)
    (build : Build) (playback : LatestAudioPlayback) :
    (∃ frame playback', SyntheticOpusDecoder.decode build encoded.bytes = some (.ok (some frame)) ∧
        frame.frame_id = frame_id ∧ frame.capture_time_micros = capture_time_micros ∧
        frame.sample_rate_hz = sample_rate_hz ∧ frame.channel_count = channel_count ∧
        frame.sample_count.toNat = samples.length / channel_count.toNat ∧ frame.pcm = samples ∧
        playback.play frame = .ok playback') ↔
      samples.length ≤ u16Max := by
  obtain ⟨haccepted, hlimit, hbytes⟩ := SyntheticOpusEncoder.encodePcmI16_eq_ok h
  have hdecode : SyntheticOpusDecoder.decode build (pcmFrameBytes config frame_id
      capture_time_micros sample_rate_hz channel_count samples) = _ :=
    SyntheticOpusDecoder.decode_pcmFrameBytes build haccepted hlimit
  have hcount : (UInt16.ofNat (samples.length / channel_count.toNat)).toNat
      = samples.length / channel_count.toNat :=
    UInt16.toNat_ofNat_of_lt' (Nat.lt_succ_of_le haccepted.field)
  have htotal : samples.length / channel_count.toNat * channel_count.toNat = samples.length :=
    Nat.div_mul_cancel (Nat.dvd_of_mod_eq_zero haccepted.whole)
  rw [hbytes, hdecode]
  constructor
  · -- the playback takes no more samples than its field can count
    rintro ⟨frame, playback', hframe, _, _, _, _, _, _, hplay⟩
    cases hframe
    have hfits := ((play_eq_ok_iff playback _).mp ⟨playback', hplay⟩).1
    rw [hcount, htotal] at hfits
    exact hfits
  · intro hfits
    obtain ⟨playback', hplay⟩ := (play_eq_ok_iff playback ⟨frame_id, sample_rate_hz, channel_count,
      UInt16.ofNat (samples.length / channel_count.toNat), capture_time_micros, samples⟩).mpr (by
        rw [hcount, htotal]
        exact ⟨hfits, rfl⟩)
    exact ⟨_, playback', rfl, rfl, rfl, rfl, rfl, hcount, rfl, hplay⟩

theorem pcm_round_trip_short :
    ∃ frame playback', SyntheticOpusDecoder.decode .debug
        (pcmFrameBytes .default 3 42 48000 2 [-100, 0, 100, 200]) = some (.ok (some frame)) ∧
      frame.frame_id = 3 ∧ frame.capture_time_micros = 42 ∧ frame.sample_rate_hz = 48000 ∧
      frame.channel_count = 2 ∧ frame.sample_count.toNat = 2 ∧
      frame.pcm = [-100, 0, 100, 200] ∧ LatestAudioPlayback.default.play frame = .ok playback' :=
  (pcm_round_trip_iff
    (SyntheticOpusEncoder.encodePcmI16_ok
      (⟨by decide, by decide, by decide, by decide, by decide⟩ : AcceptedPcm _ _ _) (by decide) :
      SyntheticOpusEncoder.encodePcmI16 .default 3 42 48000 2 [-100, 0, 100, 200] 7 = _)
    .debug .default).mpr (by decide)

/-- 40000 samples of each of two channels are encoded and decoded, but no playback takes them. -/
theorem long_stereo_refused :
    ¬ ∀ (config : SyntheticOpusEncoderConfig) (frame_id : UInt32) (capture_time_micros : UInt64)
      (sample_rate_hz : UInt32) (channel_count : UInt16) (samples : List Int16)
      (stream_id : UInt32) (encoded : EncodedFrame) (build : Build)
      (playback : LatestAudioPlayback),
      SyntheticOpusEncoder.encodePcmI16 config frame_id capture_time_micros sample_rate_hz
        channel_count samples stream_id = .ok encoded →
      ∃ frame playback', SyntheticOpusDecoder.decode build encoded.bytes
          = some (.ok (some frame)) ∧
        frame.frame_id = frame_id ∧ frame.capture_time_micros = capture_time_micros ∧
        frame.sample_rate_hz = sample_rate_hz ∧ frame.channel_count = channel_count ∧
        frame.sample_count.toNat = samples.length / channel_count.toNat ∧ frame.pcm = samples ∧
        playback.play frame = .ok playback' := by
  intro hclaim
  have hlength : (List.replicate 80000 (0 : Int16)).length = 80000 := List.length_replicate
  have haccepted : AcceptedPcm 48000 2 (List.replicate 80000 0) := by
    have htwo : (2 : UInt16).toNat = 2 := rfl
    refine ⟨by decide, by decide, ?_, ?_, ?_⟩
    · rw [hlength, htwo]
    · rw [hlength, htwo]
      decide
    · rw [hlength, htwo]
      decide
  have hlimit : (List.replicate 80000 (0 : Int16)).length * 2 ≤ u32Max := by
    rw [hlength]
    decide
  obtain ⟨frame, playback', hframe, _, _, _, hchannels, hcount, _, hplay⟩ :=
    hclaim .default 1 1 48000 2 (List.replicate 80000 0) 7 _ .debug .default
      (SyntheticOpusEncoder.encodePcmI16_ok haccepted hlimit)
  have hfits := ((play_eq_ok_iff _ frame).mp ⟨playback', hplay⟩).1
  rw [hcount, hchannels, hlength] at hfits
  exact absurd hfits (by decide)

end TeamView.Client
