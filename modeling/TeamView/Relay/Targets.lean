import TeamView.Relay.Control
import TeamView.Relay.Lookups

set_option autoImplicit false

/-! # The stored targets

Whatever a publisher asks for and however far a stream is degraded, the targets and the
configuration that the relay stores for a published stream stay in the range of its constants
(`InRange`). An update leaves a stream as it was, publishes a fresh one, or rewrites it with
values it has clamped (`update_streams`).
-/

namespace TeamView.Relay

open TeamView.Protocol BTree MachineInt Runs Relation

namespace ControlState

variable {state state' : ControlState} {request : Option ClientControl} {u : UserId}

/-! ## Values in range -/

def FramesInRange (frames_per_second : Nat) : Prop :=
  minTargetFramesPerSecond ≤ frames_per_second ∧ frames_per_second ≤ maxTargetFramesPerSecond

/-- A resolution in range, or the unknown one. -/
def ResolutionInRange (width height : Nat) : Prop :=
  (width = 0 ∧ height = 0) ∨
    ((minTargetWidth ≤ width ∧ width ≤ maxTargetWidth) ∧
      (minTargetHeight ≤ height ∧ height ≤ maxTargetHeight))

instance (frames_per_second : Nat) : Decidable (FramesInRange frames_per_second) :=
  inferInstanceAs (Decidable (_ ∧ _))

instance (width height : Nat) : Decidable (ResolutionInRange width height) :=
  inferInstanceAs (Decidable (_ ∨ _))

structure InRange (stream : PublishedStream) : Prop where
  bitrate : minTargetBitrateBps ≤ stream.target_bitrate_bps ∧
    stream.target_bitrate_bps ≤ maxTargetBitrateBps
  frames : FramesInRange stream.target_frames_per_second
  resolution : ResolutionInRange stream.target_width stream.target_height
  config_frames : ∀ config, stream.config = some config → FramesInRange config.frames_per_second
  config_resolution : ∀ config, stream.config = some config →
    ResolutionInRange config.width config.height

theorem clamp_framesInRange (frames_per_second : Nat) :
    FramesInRange (clamp minTargetFramesPerSecond maxTargetFramesPerSecond frames_per_second) :=
  ⟨clamp_ge _ _ _, clamp_le (by decide) _⟩

theorem clampTargetResolution_inRange (width height : Nat) :
    ResolutionInRange (clampTargetResolution width height).1
      (clampTargetResolution width height).2 := by
  unfold clampTargetResolution
  split
  · exact .inl ⟨rfl, rfl⟩
  · exact .inr ⟨⟨clamp_ge _ _ _, clamp_le (by decide) _⟩,
      ⟨clamp_ge _ _ _, clamp_le (by decide) _⟩⟩

theorem freshStream_inRange (publish : PublishStream) (u : UserId) :
    InRange (freshStream publish u) where
  bitrate := by
    show minTargetBitrateBps ≤ defaultTargetBitrateBps ∧
      defaultTargetBitrateBps ≤ maxTargetBitrateBps
    decide
  frames := by
    show minTargetFramesPerSecond ≤ defaultTargetFramesPerSecond ∧
      defaultTargetFramesPerSecond ≤ maxTargetFramesPerSecond
    decide
  resolution := .inl ⟨rfl, rfl⟩
  config_frames config h := by cases h
  config_resolution config h := by cases h

theorem InRange.withConfig {stream : PublishedStream} (h : InRange stream)
    (config : StreamConfig) : InRange (withConfig stream (clampedConfig config)) where
  bitrate := h.bitrate
  frames := clamp_framesInRange _
  resolution := clampTargetResolution_inRange _ _
  config_frames config' h' := by
    obtain rfl := Option.some.inj h'
    exact clamp_framesInRange _
  config_resolution config' h' := by
    obtain rfl := Option.some.inj h'
    exact clampTargetResolution_inRange _ _

theorem withTarget_inRange (stream : PublishedStream) (b f w ht : Nat) :
    InRange (withTarget stream b f w ht) where
  bitrate := ⟨clamp_ge _ _ _, clamp_le (by decide) _⟩
  frames := clamp_framesInRange _
  resolution := clampTargetResolution_inRange _ _
  config_frames config h := by
    obtain ⟨config', -, rfl⟩ := Option.map_eq_some_iff.mp h
    exact clamp_framesInRange _
  config_resolution config h := by
    obtain ⟨config', -, rfl⟩ := Option.map_eq_some_iff.mp h
    exact clampTargetResolution_inRange _ _

/-! ## Where a stream comes from -/

/-- How a stream can look after an update: as before, configured, or retargeted. -/
inductive Rewritten (stream : PublishedStream) : PublishedStream → Prop
  | kept : Rewritten stream stream
  | configured (config : StreamConfig) : Rewritten stream (withConfig stream (clampedConfig config))
  | retargeted (bitrate_bps frames_per_second width height : Nat) :
      Rewritten stream (withTarget stream bitrate_bps frames_per_second width height)

/-- `Rewritten`, with the room and the id of the stream: only a configuration that names both,
and the stream's codec, is stored. -/
inductive RewrittenAt (r : RoomId) (s : StreamId) (stream : PublishedStream) :
    PublishedStream → Prop
  | kept : RewrittenAt r s stream stream
  | configured (config : StreamConfig) (hroom : config.room_id = r) (hstream : config.stream_id = s)
      (hcodec : stream.codec = config.codec) :
      RewrittenAt r s stream (withConfig stream (clampedConfig config))
  | retargeted (bitrate_bps frames_per_second width height : Nat) :
      RewrittenAt r s stream (withTarget stream bitrate_bps frames_per_second width height)

/-- A stream after an update was there before, possibly rewritten, or is fresh. -/
def DescendsAt (state : ControlState) (r : RoomId) (s : StreamId) (stream' : PublishedStream) :
    Prop :=
  (∃ stream, state.PublishedIn r s stream ∧ RewrittenAt r s stream stream') ∨
    ∃ (publish : PublishStream) (u : UserId),
      publish.room_id = r ∧ publish.stream_id = s ∧ stream' = freshStream publish u

theorem RewrittenAt.rewritten {r : RoomId} {s : StreamId} {stream stream' : PublishedStream}
    (h : RewrittenAt r s stream stream') : Rewritten stream stream' := by
  cases h with
  | kept => exact .kept
  | configured config hroom hstream hcodec => exact .configured config
  | retargeted b f w ht => exact .retargeted b f w ht

theorem descendsAt_of_published {r : RoomId} {s : StreamId} {stream : PublishedStream}
    (hin : state.PublishedIn r s stream) : DescendsAt state r s stream :=
  .inl ⟨stream, hin, .kept⟩

/-- The streams after a room is stored, when those of that room descend from before. -/
theorem descendsAt_setRoom (r : RoomId) (room' : Room)
    (hroom' : ∀ (s : StreamId) (stream' : PublishedStream),
      room'.published_streams[s]? = some stream' → DescendsAt state r s stream')
    {a : RoomId} {s : StreamId} {stream' : PublishedStream}
    (hin : (state.setRoom r room').PublishedIn a s stream') : DescendsAt state a s stream' := by
  obtain ⟨room, hroom, hstream⟩ := hin
  rw [get_setRoom] at hroom
  split at hroom
  · next heq =>
      subst heq
      obtain rfl := Option.some.inj hroom
      exact hroom' s stream' hstream
  · exact descendsAt_of_published ⟨room, hroom, hstream⟩

theorem descendsAt_setStream {r : RoomId} {room : Room} {t : StreamId}
    {stream new : PublishedStream} (hroom : state.rooms[r]? = some room)
    (hstream : room.published_streams[t]? = some stream) (hnew : RewrittenAt r t stream new)
    {a : RoomId} {s : StreamId} {stream' : PublishedStream}
    (hin : (state.setRoom r (setStream room t new)).PublishedIn a s stream') :
    DescendsAt state a s stream' := by
  refine descendsAt_setRoom _ _ ?_ hin
  intro s stream' hget
  rw [setStream, get_insert] at hget
  split at hget
  · next heq =>
      subst heq
      obtain rfl := Option.some.inj hget
      exact .inl ⟨stream, ⟨room, hroom, hstream⟩, hnew⟩
  · exact descendsAt_of_published ⟨room, hroom, hget⟩

theorem update_streamsAt (hrooms : RoomsOk state) (hupdate : Update request u state state')
    {r : RoomId} {s : StreamId} {stream' : PublishedStream}
    (hin : state'.PublishedIn r s stream') : DescendsAt state r s stream' := by
  cases hupdate with
  | created name create hlimit hrequest =>
      refine descendsAt_setRoom state.next_room_id
        ((Room.new state.next_room_id name).join u) ?_ hin
      intro s stream hget
      -- a new room has no streams
      exact absurd hget (by simp [Room.new])
  | joined a room hroom hlimit hrequest =>
      refine descendsAt_setRoom a (room.join u) ?_ hin
      intro s stream hget
      exact descendsAt_of_published ⟨room, hroom, hget⟩
  | left a =>
      cases hroom : state.rooms[a]? with
      | none =>
          rw [leaveRoom_of_none hroom] at hin
          exact descendsAt_of_published hin
      | some room =>
          obtain ⟨room', hroom', hstream⟩ := hin
          rw [leaveRoom_rooms hroom] at hroom'
          split at hroom'
          · next heq =>
              subst heq
              split at hroom'
              · cases hroom'
              · obtain rfl := Option.some.inj hroom'
                -- what is left after a departure was there before
                have hold := ((Room.get_depart_published _ _ _ _).mp hstream).1
                exact descendsAt_of_published ⟨room, hroom, hold⟩
          · exact descendsAt_of_published ⟨room', hroom', hstream⟩
  | published room publish hroom hmember hnew hlimit =>
      refine descendsAt_setRoom _ _ ?_ hin
      intro s stream hget
      rw [Room.publishStream, get_insert] at hget
      split at hget
      · -- the only stream without a forebear is the one just published
        next heq => exact .inr ⟨publish, u, rfl, heq.symm, (Option.some.inj hget).symm⟩
      · exact descendsAt_of_published ⟨room, hroom, hget⟩
  | unpublished a room t stream hroom hstream hpublisher =>
      rw [unpublish_eq hrooms hroom] at hin
      refine descendsAt_setRoom a (room.removePublishedStream t) ?_ hin
      intro s stream hget
      rw [Room.removePublishedStream, get_erase] at hget
      split at hget
      · cases hget
      · exact descendsAt_of_published ⟨room, hroom, hget⟩
  | subscribed a room room' t hroom hmember hsub hrequest =>
      refine descendsAt_setRoom _ _ ?_ hin
      intro s stream hget
      rw [(Room.subscribe_fixed hsub).1] at hget
      exact descendsAt_of_published ⟨room, hroom, hget⟩
  | unsubscribed a room t hroom =>
      refine descendsAt_setRoom a (room.unsubscribe t u) ?_ hin
      intro s stream hget
      rw [(Room.unsubscribe_fixed room t u).1] at hget
      exact descendsAt_of_published ⟨room, hroom, hget⟩
  | configured room stream config hroom hstream hpublisher hcodec =>
      exact descendsAt_setStream hroom hstream (.configured config rfl rfl hcodec) hin
  | retargeted t b f w ht hpublisher =>
      rcases state.updateStreamTarget_cases t b f w ht with
        ⟨-, heq⟩ | ⟨a, room, stream, hroom, hstream, heq⟩
      · rw [heq] at hin
        exact descendsAt_of_published hin
      · rw [heq] at hin
        exact descendsAt_setStream hroom hstream (.retargeted b f w ht) hin
  | inputPolled a room t stream n hroom hstream hpublisher =>
      unfold PublishedIn at hin
      rw [drainRemoteInput_fixed ControlState.rooms (fun _ _ => rfl)] at hin
      exact descendsAt_of_published hin
  -- the remaining updates leave the rooms alone
  | _ => exact descendsAt_of_published hin

/-! ## The invariant -/

/-- Every published stream has the property `P`. -/
def EveryStream (P : PublishedStream → Prop) (state : ControlState) : Prop :=
  ∀ (r : RoomId) (s : StreamId) (stream : PublishedStream), state.PublishedIn r s stream → P stream

/-- Every stored target is in range. -/
def TargetsOk (state : ControlState) : Prop :=
  ∀ (r : RoomId) (s : StreamId) (stream : PublishedStream),
    state.PublishedIn r s stream → InRange stream

/-- Every published stream has the property `P` of its room, its id and its record. -/
def EveryStreamAt (P : RoomId → StreamId → PublishedStream → Prop) (state : ControlState) : Prop :=
  ∀ (r : RoomId) (s : StreamId) (stream : PublishedStream),
    state.PublishedIn r s stream → P r s stream

theorem update_everyStreamAt {P : RoomId → StreamId → PublishedStream → Prop}
    (hfresh : ∀ (publish : PublishStream) (v : UserId),
      P publish.room_id publish.stream_id (freshStream publish v))
    (hrewritten : ∀ (r : RoomId) (s : StreamId) (stream stream' : PublishedStream),
      RewrittenAt r s stream stream' → P r s stream → P r s stream')
    (hrooms : RoomsOk state) (h : EveryStreamAt P state)
    (hupdate : Update request u state state') : EveryStreamAt P state' := by
  intro r s stream' hin
  rcases update_streamsAt hrooms hupdate hin with
    ⟨stream, hold, hstep⟩ | ⟨publish, v, rfl, rfl, rfl⟩
  · exact hrewritten r s stream stream' hstep (h r s stream hold)
  · exact hfresh publish v

theorem InRange.rewritten {stream stream' : PublishedStream} (h : InRange stream)
    (hrewritten : Rewritten stream stream') : InRange stream' := by
  cases hrewritten with
  | kept => exact h
  | configured config => exact h.withConfig config
  | retargeted b f w ht => exact withTarget_inRange stream b f w ht

/-- The stored configuration tells the viewers the targets. -/
def ConfigFollows (stream : PublishedStream) : Prop :=
  ∀ config, stream.config = some config →
    config.frames_per_second = stream.target_frames_per_second ∧
      config.width = stream.target_width ∧ config.height = stream.target_height

theorem ConfigFollows.rewritten {stream stream' : PublishedStream} (h : ConfigFollows stream)
    (hrewritten : Rewritten stream stream') : ConfigFollows stream' := by
  cases hrewritten with
  | kept => exact h
  | configured config =>
      intro config' hconfig
      obtain rfl := Option.some.inj hconfig
      exact ⟨rfl, rfl, rfl⟩
  | retargeted b f w ht =>
      intro config' hconfig
      obtain ⟨config, -, rfl⟩ := Option.map_eq_some_iff.mp hconfig
      exact ⟨rfl, rfl, rfl⟩

/-- A stream and its configuration name the room `r`, the id `s` and one codec. -/
structure NamedAt (r : RoomId) (s : StreamId) (stream : PublishedStream) : Prop where
  stream_id : stream.stream_id = s
  config_room : ∀ config, stream.config = some config → config.room_id = r
  config_stream : ∀ config, stream.config = some config → config.stream_id = s
  config_codec : ∀ config, stream.config = some config → config.codec = stream.codec

theorem freshStream_namedAt (publish : PublishStream) (v : UserId) :
    NamedAt publish.room_id publish.stream_id (freshStream publish v) where
  stream_id := rfl
  config_room config h := by cases h
  config_stream config h := by cases h
  config_codec config h := by cases h

/-- Retargeting rewrites the rate and the size in the configuration and keeps its names. -/
theorem NamedAt.withTarget {r : RoomId} {s : StreamId} {stream : PublishedStream}
    (h : NamedAt r s stream) (b f w ht : Nat) : NamedAt r s (withTarget stream b f w ht) where
  stream_id := h.stream_id
  config_room config' hconfig := by
    obtain ⟨config, hold, rfl⟩ := Option.map_eq_some_iff.mp hconfig
    exact h.config_room config hold
  config_stream config' hconfig := by
    obtain ⟨config, hold, rfl⟩ := Option.map_eq_some_iff.mp hconfig
    exact h.config_stream config hold
  config_codec config' hconfig := by
    obtain ⟨config, hold, rfl⟩ := Option.map_eq_some_iff.mp hconfig
    exact h.config_codec config hold

theorem NamedAt.rewritten {r : RoomId} {s : StreamId} {stream stream' : PublishedStream}
    (hrewritten : RewrittenAt r s stream stream') (h : NamedAt r s stream) :
    NamedAt r s stream' := by
  cases hrewritten with
  | kept => exact h
  | configured config hroom hstream hcodec =>
      -- the configuration is stored clamped; clamping keeps the two ids and the codec
      have hstored : ∀ config', (withConfig stream (clampedConfig config)).config = some config' →
          config' = clampedConfig config := fun config' hconfig => (Option.some.inj hconfig).symm
      refine ⟨h.stream_id, ?_, ?_, ?_⟩
      · intro config' hconfig
        rw [hstored config' hconfig]
        exact hroom
      · intro config' hconfig
        rw [hstored config' hconfig]
        exact hstream
      · intro config' hconfig
        rw [hstored config' hconfig]
        exact hcodec.symm
  | retargeted b f w ht => exact h.withTarget b f w ht

end ControlState

namespace ControlSystem

open ControlState

/-- The rule for invariants of the published streams: a fresh stream has the property, and
whatever rewrites a stream keeps it. -/
theorem reachable_everyStreamAt {P : RoomId → StreamId → PublishedStream → Prop}
    (hfresh : ∀ (publish : PublishStream) (v : UserId),
      P publish.room_id publish.stream_id (freshStream publish v))
    (hrewritten : ∀ (r : RoomId) (s : StreamId) (stream stream' : PublishedStream),
      RewrittenAt r s stream stream' → P r s stream → P r s stream')
    {system : ControlSystem} (h : system.Reachable) : EveryStreamAt P system.control := by
  have hboth : RoomInvariant system.control ∧ EveryStreamAt P system.control := by
    refine Runs.Reachable.induction
      (P := fun system => RoomInvariant system.control ∧ EveryStreamAt P system.control) ?_ ?_ h
    · rintro _ ⟨control, hinitial, rfl⟩
      refine ⟨initial_roomInvariant hinitial, ?_⟩
      rintro r s stream ⟨room, hroom, -⟩
      have hempty : control.rooms = ∅ := by cases hinitial <;> rfl
      have hnone : (start control).control.rooms[r]? = none := by
        show control.rooms[r]? = none
        rw [hempty]
        exact Std.ExtTreeMap.getElem?_empty
      rw [hnone] at hroom
      cases hroom
    · intro system event hsystem
      refine step_induction
        (P := fun st => RoomInvariant st ∧ EveryStreamAt P st) ?_ ?_ system event hsystem
      · rintro request u st st' hupdate ⟨hinv, hstreams⟩
        exact ⟨update_roomInvariant hinv hupdate,
          update_everyStreamAt hfresh hrewritten hinv.toRoomsOk hstreams hupdate⟩
      · rintro st packet summary bytes received route ⟨hinv, hstreams⟩
        refine ⟨recordMediaForwardSummary_roomInvariant hinv packet summary bytes received route,
          ?_⟩
        unfold recordMediaForwardSummary
        simp only
        split
        · exact hstreams
        · exact fun r s stream hin => hstreams r s stream hin
  exact hboth.2

/-- The rule for properties of the record alone. -/
theorem reachable_everyStream {P : PublishedStream → Prop}
    (hfresh : ∀ (publish : PublishStream) (v : UserId), P (freshStream publish v))
    (hrewritten : ∀ stream stream' : PublishedStream, Rewritten stream stream' → P stream →
      P stream')
    {system : ControlSystem} (h : system.Reachable) : EveryStream P system.control :=
  reachable_everyStreamAt (P := fun _ _ => P) hfresh
    (fun _ _ stream stream' hstep => hrewritten stream stream' hstep.rewritten) h

theorem reachable_targetsOk {system : ControlSystem} (h : system.Reachable) :
    TargetsOk system.control :=
  reachable_everyStream freshStream_inRange (fun _ _ hstep hstream => hstream.rewritten hstep) h

theorem reachable_configFollows {system : ControlSystem} (h : system.Reachable) :
    EveryStream ConfigFollows system.control := by
  refine reachable_everyStream ?_ (fun _ _ hstep hstream => hstream.rewritten hstep) h
  intro publish v config hconfig
  cases hconfig

theorem reachable_namedAt {system : ControlSystem} (h : system.Reachable) :
    EveryStreamAt NamedAt system.control :=
  reachable_everyStreamAt freshStream_namedAt (fun _ _ _ _ hstep => NamedAt.rewritten hstep) h

/-- The opening run, and a publisher that configures its screen. The configuration asks for more
frames than the relay allows. -/
def configuringRun : List ControlEvent :=
  openingRun ++ [.ask 0 (.setStreamConfig
    { room_id := 1, stream_id := 7, codec := .h264, width := 1920, height := 1080,
      frames_per_second := 240, timebase_hz := 90000 })]

theorem configuring_reachable :
    (run step (start .new) configuringRun).control.Reachable :=
  ⟨_, ⟨start .new, configuringRun, ⟨.new, .new, rfl⟩, rfl⟩, rfl⟩

end ControlSystem

theorem ControlState.Reachable.targetsOk {state : ControlState} (h : state.Reachable) :
    ControlState.TargetsOk state := by
  obtain ⟨system, hsystem, rfl⟩ := h
  exact ControlSystem.reachable_targetsOk hsystem

/-- The targets of a published stream are in the relay's ranges, and its configuration, once it
has one, names the room, the id and the codec of the stream and repeats the targets. -/
theorem ControlState.targets_and_config_in_step {state : ControlState} (h : state.Reachable)
    {r : RoomId} {s : StreamId} {room : Room} {stream : PublishedStream}
    (hroom : state.rooms[r]? = some room) (hstream : room.published_streams[s]? = some stream) :
    (16000 ≤ stream.target_bitrate_bps ∧ stream.target_bitrate_bps ≤ 16000000) ∧
    (5 ≤ stream.target_frames_per_second ∧ stream.target_frames_per_second ≤ 120) ∧
    ((stream.target_width = 0 ∧ stream.target_height = 0) ∨
      ((320 ≤ stream.target_width ∧ stream.target_width ≤ 7680) ∧
        (180 ≤ stream.target_height ∧ stream.target_height ≤ 4320))) ∧
    stream.stream_id = s ∧
    ∀ config, stream.config = some config →
      (config.room_id = r ∧ config.stream_id = stream.stream_id ∧ config.codec = stream.codec) ∧
      (config.frames_per_second = stream.target_frames_per_second ∧
        config.width = stream.target_width ∧ config.height = stream.target_height) := by
  obtain ⟨system, hsystem, rfl⟩ := h
  have hin : system.control.PublishedIn r s stream := ⟨room, hroom, hstream⟩
  have hrange := ControlSystem.reachable_targetsOk hsystem r s stream hin
  have hfollows := ControlSystem.reachable_configFollows hsystem r s stream hin
  have hnamed := ControlSystem.reachable_namedAt hsystem r s stream hin
  refine ⟨hrange.bitrate, hrange.frames, hrange.resolution, hnamed.stream_id, ?_⟩
  intro config hconfig
  have hstream_id : config.stream_id = stream.stream_id :=
    (hnamed.config_stream config hconfig).trans hnamed.stream_id.symm
  exact ⟨⟨hnamed.config_room config hconfig, hstream_id, hnamed.config_codec config hconfig⟩,
    hfollows config hconfig⟩

/-- After the configuring run the stored rate is the largest one allowed, in the configuration as
in the target. -/
theorem ControlState.targets_and_config_in_step_configuring :
    ∃ (room : Room) (stream : PublishedStream) (config : StreamConfig),
      stream.config = some config ∧ config.room_id = 1 ∧
        stream.target_frames_per_second = 120 ∧ config.frames_per_second = 120 ∧
        room.published_streams[(7 : StreamId)]? = some stream := by
  have hrun : ((run ControlSystem.step (ControlSystem.start .new)
      ControlSystem.configuringRun).control.rooms[(1 : RoomId)]?).any (fun room =>
        (room.published_streams[(7 : StreamId)]?).any fun stream =>
          stream.target_frames_per_second == 120 && stream.config.isSome) = true := by
    decide +kernel
  obtain ⟨room, hroom, hroom'⟩ := (Option.any_eq_true _ _).mp hrun
  obtain ⟨stream, hstream, hstream'⟩ := (Option.any_eq_true _ _).mp hroom'
  obtain ⟨hrate, hsome⟩ := Bool.and_eq_true_iff.mp hstream'
  have hrate : stream.target_frames_per_second = 120 := beq_iff_eq.mp hrate
  obtain ⟨config, hconfig⟩ := Option.isSome_iff_exists.mp hsome
  have hstep := (targets_and_config_in_step ControlSystem.configuring_reachable hroom
    hstream).2.2.2.2 config hconfig
  exact ⟨room, stream, config, hconfig, hstep.1.1, hrate, hstep.2.1.trans hrate, hstream⟩

end TeamView.Relay
