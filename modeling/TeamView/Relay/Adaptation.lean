import TeamView.Relay.Targets

set_option autoImplicit false

/-! # The descent of the targets

What `adaptive_publisher_feedback` and `reduce_resolution` do to a target in range
(`crates/relay-server/src/control.rs`). A target is the bitrate, the frame rate and the
resolution of a stream. One step lowers the first of them that is not at its floor
(`reducedTarget_lowered`), so a stream that stays degraded reaches the floor of all three.
-/

namespace TeamView.Relay

open TeamView.Protocol BTree MachineInt

namespace ControlState

/-! ## Values that the clamps leave alone -/

theorem clampFrames_eq_iff (frames_per_second : Nat) :
    clamp minTargetFramesPerSecond maxTargetFramesPerSecond frames_per_second
        = frames_per_second ↔
      FramesInRange frames_per_second :=
  clamp_eq_iff (by decide) frames_per_second

theorem clampBitrate_eq {bitrate_bps : Nat}
    (h : minTargetBitrateBps ≤ bitrate_bps ∧ bitrate_bps ≤ maxTargetBitrateBps) :
    clamp minTargetBitrateBps maxTargetBitrateBps bitrate_bps = bitrate_bps :=
  (clamp_eq_iff (by decide) bitrate_bps).mpr h

theorem clampTargetResolution_eq_iff (width height : Nat) :
    clampTargetResolution width height = (width, height) ↔ ResolutionInRange width height := by
  have hwidth := @clamp_eq_iff minTargetWidth maxTargetWidth (by decide) width
  have hheight := @clamp_eq_iff minTargetHeight maxTargetHeight (by decide) height
  have hmin : 0 < minTargetWidth ∧ 0 < minTargetHeight := by decide
  unfold clampTargetResolution ResolutionInRange
  split
  · next hzero =>
      rw [Prod.mk.injEq]
      constructor
      · rintro ⟨hw, hh⟩
        exact .inl ⟨hw.symm, hh.symm⟩
      · rintro (⟨hw, hh⟩ | ⟨hw, hh⟩) <;> omega
  · next hzero =>
      rw [Prod.mk.injEq, hwidth, hheight]
      constructor
      · exact .inr
      · rintro (⟨hw, hh⟩ | h)
        · exact absurd (.inl hw) hzero
        · exact h

/-- The relay stores a configuration as it was sent exactly when it is in range. -/
theorem clampedConfig_eq_iff (config : StreamConfig) :
    clampedConfig config = config ↔
      FramesInRange config.frames_per_second ∧ ResolutionInRange config.width config.height := by
  rw [← clampFrames_eq_iff, ← clampTargetResolution_eq_iff]
  obtain ⟨room_id, stream_id, codec, width, height, frames_per_second, timebase_hz⟩ := config
  unfold clampedConfig
  rw [StreamConfig.mk.injEq, Prod.mk.injEq]
  constructor
  · rintro ⟨-, -, -, hwidth, hheight, hframes, -⟩
    exact ⟨hframes, hwidth, hheight⟩
  · rintro ⟨hframes, hresolution⟩
    simp [hframes, hresolution]

/-! ## One reduction of the resolution -/

/-- The percentage of a degraded target is below the target, saturated or not. -/
theorem percent_lt {top a : Nat} (h : 0 < a) :
    satMul top a degradedBitratePercent / 100 < a := by
  have hle : satMul top a degradedBitratePercent ≤ a * degradedBitratePercent :=
    Nat.min_le_left _ _
  have hpercent : degradedBitratePercent = 80 := rfl
  rw [hpercent] at hle ⊢
  omega

/-- The resolution is unknown, or one of its sides cannot shrink. -/
def AtFloorResolution (width height : Nat) : Prop :=
  (width = 0 ∧ height = 0) ∨ width = minTargetWidth ∨ height = minTargetHeight

instance (width height : Nat) : Decidable (AtFloorResolution width height) :=
  inferInstanceAs (Decidable (_ ∨ _))

theorem reduceResolution_of_floor {width height : Nat} (hrange : ResolutionInRange width height)
    (hfloor : AtFloorResolution width height) :
    reduceResolution width height = (width, height) := by
  rcases hrange with ⟨rfl, rfl⟩ | ⟨⟨hwmin, hwmax⟩, ⟨hhmin, hhmax⟩⟩
  · rfl
  have hw : 0 < width := lt_of_lt_of_le (by decide) hwmin
  have hh : 0 < height := lt_of_lt_of_le (by decide) hhmin
  have hrange : ResolutionInRange width height := .inr ⟨⟨hwmin, hwmax⟩, ⟨hhmin, hhmax⟩⟩
  have hmaxw : max width 1 = width := by omega
  have hmaxh : max height 1 = height := by omega
  have hnonzero : ¬ (width = 0 ∨ height = 0) := by omega
  unfold reduceResolution
  rw [if_neg hnonzero, hmaxw, hmaxh]
  simp only
  generalize hnew : min (max (satMul u32Max width degradedBitratePercent / 100) minTargetWidth)
    width = new_width
  rcases hfloor with ⟨hzero, -⟩ | heq | heq
  · omega
  · -- the narrowest width stays, and so does the height that the aspect ratio gives it
    have hkeep : new_width = width := by omega
    have hratio : width * height / width = height := Nat.mul_div_cancel_left height hw
    have hheight : min (max height minTargetHeight) height = height := by omega
    rw [hkeep, hratio, hheight, if_pos ⟨rfl, rfl⟩]
  · -- the lowest height stays, and the width is computed back from it
    have hheight : min (max (new_width * height / width) minTargetHeight) height = height := by
      omega
    have hratio : height * width / height = width := Nat.mul_div_cancel_left width hh
    have hwidth : min (max width minTargetWidth) width = width := by omega
    rw [hheight]
    by_cases hsame : new_width = width
    · rw [if_pos ⟨rfl, hsame⟩]
    · rw [if_neg (fun hboth => hsame hboth.2), if_pos rfl, hratio, hwidth]
      exact (clampTargetResolution_eq_iff width height).mpr hrange

theorem reduceResolution_lt {width height : Nat} (hrange : ResolutionInRange width height)
    (hfloor : ¬ AtFloorResolution width height) :
    (minTargetWidth ≤ (reduceResolution width height).1 ∧
        (reduceResolution width height).1 < width) ∧
      (minTargetHeight ≤ (reduceResolution width height).2 ∧
        (reduceResolution width height).2 < height) := by
  rcases hrange with hzero | ⟨⟨hwmin, hwmax⟩, ⟨hhmin, hhmax⟩⟩
  · exact absurd (.inl hzero) hfloor
  have hwne : width ≠ minTargetWidth := fun heq => hfloor (.inr (.inl heq))
  have hhne : height ≠ minTargetHeight := fun heq => hfloor (.inr (.inr heq))
  have hw : 0 < width := lt_of_lt_of_le (by decide) hwmin
  have hmaxw : max width 1 = width := by omega
  have hh : 0 < height := lt_of_lt_of_le (by decide) hhmin
  have hnonzero : ¬ (width = 0 ∨ height = 0) := by omega
  have hreduced := @percent_lt u32Max width hw
  unfold reduceResolution
  rw [if_neg hnonzero, hmaxw]
  simp only
  generalize hnew : min (max (satMul u32Max width degradedBitratePercent / 100) minTargetWidth)
    width = new_width
  have hnewlt : new_width < width := by omega
  have hnewmin : minTargetWidth ≤ new_width := by omega
  -- the height follows the aspect ratio, so it shrinks with the width
  have hratio : new_width * height / width < height := by
    rw [Nat.div_lt_iff_lt_mul hw, Nat.mul_comm height width]
    exact Nat.mul_lt_mul_of_pos_right hnewlt hh
  generalize hheight : min (max (new_width * height / width) minTargetHeight) height = new_height
  have hheightlt : new_height < height := by omega
  have hheightmin : minTargetHeight ≤ new_height := by omega
  have hin : ResolutionInRange new_width new_height :=
    .inr ⟨⟨hnewmin, by omega⟩, ⟨hheightmin, by omega⟩⟩
  rw [if_neg (fun hboth => absurd hboth.1 hheightlt.ne), if_neg hheightlt.ne,
    (clampTargetResolution_eq_iff new_width new_height).mpr hin]
  exact ⟨⟨hnewmin, hnewlt⟩, ⟨hheightmin, hheightlt⟩⟩

end ControlState

/-! ## One adaptation step -/

namespace StreamTarget

open ControlState

structure InRange (target : StreamTarget) : Prop where
  bitrate : minTargetBitrateBps ≤ target.bitrate_bps ∧ target.bitrate_bps ≤ maxTargetBitrateBps
  frames : FramesInRange target.frames_per_second
  resolution : ResolutionInRange target.width target.height

/-- Nothing of the target can be lowered any further. -/
def AtFloor (target : StreamTarget) : Prop :=
  target.bitrate_bps = minTargetBitrateBps ∧
    target.frames_per_second = minTargetFramesPerSecond ∧
      AtFloorResolution target.width target.height

instance (target : StreamTarget) : Decidable target.AtFloor :=
  inferInstanceAs (Decidable (_ ∧ _ ∧ _))

/-- What one step makes of a target: it lowers the bitrate, or the frame rate of a target with
the lowest bitrate, or the resolution of a target with both at their floor, or nothing. -/
inductive Lowered (target : StreamTarget) : StreamTarget → Prop
  | bitrate (bitrate_bps : Nat) (hold : minTargetBitrateBps < target.bitrate_bps)
      (hmin : minTargetBitrateBps ≤ bitrate_bps) (hlt : bitrate_bps < target.bitrate_bps) :
      Lowered target { target with bitrate_bps := bitrate_bps }
  | frames (frames_per_second : Nat) (hbitrate : target.bitrate_bps = minTargetBitrateBps)
      (hmin : minTargetFramesPerSecond ≤ frames_per_second)
      (hlt : frames_per_second < target.frames_per_second) :
      Lowered target { target with frames_per_second := frames_per_second }
  | resolution (width height : Nat) (hbitrate : target.bitrate_bps = minTargetBitrateBps)
      (hframes : target.frames_per_second = minTargetFramesPerSecond)
      (hwidth : minTargetWidth ≤ width ∧ width < target.width)
      (hheight : minTargetHeight ≤ height ∧ height < target.height) :
      Lowered target { target with width := width, height := height }
  | floor (hfloor : target.AtFloor) : Lowered target target

variable {target target' : StreamTarget}

theorem Lowered.inRange (h : target.InRange) (hlowered : Lowered target target') :
    target'.InRange := by
  cases hlowered with
  | bitrate b hold hmin hlt =>
      have hmax : b ≤ maxTargetBitrateBps := le_trans hlt.le h.bitrate.2
      exact ⟨⟨hmin, hmax⟩, h.frames, h.resolution⟩
  | frames f hbitrate hmin hlt =>
      have hmax : f ≤ maxTargetFramesPerSecond := le_trans hlt.le h.frames.2
      exact ⟨h.bitrate, ⟨hmin, hmax⟩, h.resolution⟩
  | resolution w ht hbitrate hframes hwidth hheight =>
      have hrange : ResolutionInRange w ht := by
        rcases h.resolution with hzero | ⟨⟨-, hwmax⟩, ⟨-, hhmax⟩⟩
        · omega
        · exact .inr ⟨⟨hwidth.1, by omega⟩, ⟨hheight.1, by omega⟩⟩
      exact ⟨h.bitrate, h.frames, hrange⟩
  | floor hfloor => exact h

theorem reducedTarget_lowered (h : target.InRange) : Lowered target (reducedTarget target) := by
  have hbpos : 0 < target.bitrate_bps := lt_of_lt_of_le (by decide) h.bitrate.1
  have hfpos : 0 < target.frames_per_second := lt_of_lt_of_le (by decide) h.frames.1
  have hbitrate := @percent_lt u32Max target.bitrate_bps hbpos
  have hframes := @percent_lt u16Max target.frames_per_second hfpos
  unfold reducedTarget
  simp only
  generalize hb : max (satMul u32Max target.bitrate_bps degradedBitratePercent / 100)
    minTargetBitrateBps = new_bitrate
  generalize hf : max (satMul u16Max target.frames_per_second degradedBitratePercent / 100)
    minTargetFramesPerSecond = new_fps
  by_cases hatb : new_bitrate = target.bitrate_bps
  · have hmin : target.bitrate_bps = minTargetBitrateBps := by omega
    by_cases hgt : minTargetFramesPerSecond < target.frames_per_second
    · have hlt : new_fps < target.frames_per_second := by omega
      have hne : ¬ (new_bitrate = target.bitrate_bps ∧ new_fps = target.frames_per_second) := by
        omega
      rw [if_pos ⟨hatb, hgt⟩, if_neg hne, hatb]
      exact .frames new_fps hmin (by omega) hlt
    · have hfmin : target.frames_per_second = minTargetFramesPerSecond := by
        have hge := h.frames.1
        omega
      rw [if_neg (fun hboth => hgt hboth.2), if_pos ⟨hatb, rfl⟩, hatb]
      by_cases hfloor : AtFloorResolution target.width target.height
      · rw [reduceResolution_of_floor h.resolution hfloor]
        exact .floor ⟨hmin, hfmin, hfloor⟩
      · obtain ⟨hwidth, hheight⟩ := reduceResolution_lt h.resolution hfloor
        exact .resolution _ _ hmin hfmin hwidth hheight
  · have hge := h.bitrate.1
    rw [if_neg (fun hboth => hatb hboth.1), if_neg (fun hboth => hatb hboth.1)]
    exact .bitrate new_bitrate (by omega) (by omega) (by omega)

/-- The measure of the descent. -/
def total (target : StreamTarget) : Nat :=
  target.bitrate_bps + target.frames_per_second + target.width + target.height

/-- A step of the descent, as an observer of the target sees it. -/
structure Descends (before after : StreamTarget) : Prop where
  bitrate_le : after.bitrate_bps ≤ before.bitrate_bps
  frames_le : after.frames_per_second ≤ before.frames_per_second
  width_le : after.width ≤ before.width
  height_le : after.height ≤ before.height
  bitrate_lt : minTargetBitrateBps < before.bitrate_bps → after.bitrate_bps < before.bitrate_bps
  frames_last : after.frames_per_second ≠ before.frames_per_second →
    before.bitrate_bps = minTargetBitrateBps
  resolution_last : (after.width, after.height) ≠ (before.width, before.height) →
    before.bitrate_bps = minTargetBitrateBps ∧
      before.frames_per_second = minTargetFramesPerSecond
  strict : ¬ before.AtFloor →
    after.bitrate_bps < before.bitrate_bps ∨
      after.frames_per_second < before.frames_per_second ∨
        after.width < before.width ∨ after.height < before.height
  floor : before.AtFloor → after = before

theorem Lowered.descends (hlowered : Lowered target target') : target.Descends target' := by
  cases hlowered with
  | bitrate b hold hmin hlt =>
      constructor
      case strict => exact fun _ => .inl hlt
      case bitrate_lt => exact fun _ => hlt
      case floor => exact fun hfloor => absurd hfloor.1 hold.ne'
      all_goals simp [hlt.le]
  | frames f hbitrate hmin hlt =>
      constructor
      case strict => exact fun _ => .inr (.inl hlt)
      case bitrate_lt => exact fun hold => absurd hbitrate hold.ne'
      case frames_last => exact fun _ => hbitrate
      case floor => exact fun hfloor => absurd hfloor.2.1 (lt_of_le_of_lt hmin hlt).ne'
      all_goals simp [hlt.le]
  | resolution w ht hbitrate hframes hwidth hheight =>
      constructor
      case strict => exact fun _ => .inr (.inr (.inl hwidth.2))
      case bitrate_lt => exact fun hold => absurd hbitrate hold.ne'
      case resolution_last => exact fun _ => ⟨hbitrate, hframes⟩
      case floor =>
        -- a resolution at its floor has no smaller one in range
        intro hfloor
        rcases hfloor.2.2 with hzero | heq | heq <;> omega
      all_goals simp [hwidth.2.le, hheight.2.le]
  | floor hfloor =>
      constructor
      case strict => exact fun hnot => absurd hfloor hnot
      case bitrate_lt => exact fun hold => absurd hfloor.1 hold.ne'
      all_goals simp

theorem Descends.total_lt (h : target.Descends target') (hfloor : ¬ target.AtFloor) :
    target'.total < target.total := by
  have hb := h.bitrate_le
  have hf := h.frames_le
  have hw := h.width_le
  have hh := h.height_le
  have hstrict := h.strict hfloor
  unfold total
  omega

end StreamTarget

end TeamView.Relay
