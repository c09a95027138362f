import TeamView.Client.AudioSafety
import TeamView.Client.DualViewer
import TeamView.Client.VoiceMedia

set_option autoImplicit false

/-! # What is spoken is heard

From the microphone of one client to the loudspeaker of another
(`run_voice_broadcaster_media_loop` and `run_synthetic_voice_viewer_media` in
`crates/desktop-client/src/main.rs`). The network between them may lose packets, hold them back and
bring them twice, and the relay stamps them; the buffer of the viewer drops what it has no room for.
-/

namespace TeamView.Client

open TeamView.Protocol MachineInt Runs

/-! ## The packets that arrive -/

theorem restamped_trans {fragment taken arrived : MediaPacket} (htaken : fragment.Restamped taken)
    (harrived : taken.Restamped arrived) : fragment.Restamped arrived := by
  obtain ⟨_, rfl⟩ := htaken
  obtain ⟨stamps, rfl⟩ := harrived
  exact ⟨stamps, rfl⟩

/-- The packet of a turn is that of a delivery. -/
structure Brings (turn : Turn) (d : Delivery) : Prop where
  packet : d.packet = turn.packet
  received : d.received_at_micros = turn.packet_receive_time_micros

/-- What a turn brings, as the turn shows it. -/
def Turn.fragmentKey (turn : Turn) : UInt32 × Nat :=
  (turn.packet.header.frame_id, turn.packet.header.fragment_index.toNat)

theorem Brings.fragmentKey {turn : Turn} {d : Delivery} (h : Brings turn d) :
    turn.fragmentKey = (d.sent.id, d.fragment.val) := by
  unfold Turn.fragmentKey
  rw [← h.packet, d.packet_frame_id, d.packet_fragment_index]

section Arrivals

variable {stream : MediaStream} {max_datagram_payload : Nat} {log : List MediaEvent}
  {rest : List MediaPacket}

theorem exists_delivery (h : Broadcasts stream max_datagram_payload log rest) {turn : Turn}
    (harrives : ∃ taken ∈ MediaLog.packets log, taken.Restamped turn.packet) :
    ∃ d, Brings turn d ∧ d.sent ∈ MediaLog.frames log := by
  obtain ⟨taken, htaken, hrestamped⟩ := harrives
  obtain ⟨done, hcut, hdone⟩ := h.sent_packets
  obtain ⟨fragment, hfragment, hstamped⟩ := exists_of_forall₂ hdone taken htaken
  have hmem : fragment ∈ MediaLog.cut log := by
    rw [hcut]
    exact List.mem_append_left rest hfragment
  obtain ⟨sent, hsent, hin⟩ := List.mem_flatMap.mp hmem
  obtain ⟨i, rfl⟩ := List.get_of_mem hin
  obtain ⟨stamps, hpacket⟩ := restamped_trans hstamped hrestamped
  exact ⟨⟨sent, i, stamps, turn.packet_receive_time_micros⟩, ⟨hpacket.symm, rfl⟩, hsent⟩

theorem exists_deliveries (h : Broadcasts stream max_datagram_payload log rest)
    {turns : List Turn}
    (harrive : ∀ turn ∈ turns, ∃ taken ∈ MediaLog.packets log, taken.Restamped turn.packet) :
    ∃ delivered, List.Forall₂ Brings turns delivered ∧
      ∀ d ∈ delivered, d.sent ∈ MediaLog.frames log := by
  induction turns with
  | nil => exact ⟨[], .nil, fun d hd => absurd hd List.not_mem_nil⟩
  | cons turn turns ih =>
      rw [List.forall_mem_cons] at harrive
      obtain ⟨d, hbrings, hsent⟩ := exists_delivery h harrive.1
      obtain ⟨delivered, hall, hframes⟩ := ih harrive.2
      exact ⟨d :: delivered, .cons hbrings hall, List.forall_mem_cons.mpr ⟨hsent, hframes⟩⟩

end Arrivals

/-! ## The frames of a voice -/

/-- Among no more frames than there are ids, every frame has its own. -/
theorem voice_frame_ids {max_datagram_payload : Nat} {log : List MediaEvent}
    {rest : List MediaPacket} (h : Broadcasts voiceStream max_datagram_payload log rest)
    (hids : (MediaLog.frames log).length ≤ u32Max) :
    (MediaLog.frames log).map SentFrame.id
      = (List.range (MediaLog.frames log).length).map fun k => UInt32.ofNat (k + 1) := by
  rw [h.frame_ids]
  refine List.map_congr_left fun k hk => ?_
  have hlt := List.mem_range.mp hk
  show UInt32.ofNat (min (k + 1) u32Max) = UInt32.ofNat (k + 1)
  rw [Nat.min_eq_left (by omega)]

theorem nodup_voice_frame_ids {count : Nat} (hcount : count ≤ u32Max) :
    ((List.range count).map fun k => UInt32.ofNat (k + 1)).Nodup := by
  have hwidth : u32Max < 2 ^ 32 := by decide
  refine List.Nodup.map_on ?_ List.nodup_range
  intro a ha b hb hsame
  have hlta := List.mem_range.mp ha
  have hltb := List.mem_range.mp hb
  have hnat := congrArg UInt32.toNat hsame
  rw [UInt32.toNat_ofNat', UInt32.toNat_ofNat', Nat.mod_eq_of_lt (by omega),
    Nat.mod_eq_of_lt (by omega)] at hnat
  omega

/-- A frame of the voice decodes to what was spoken, and a playback takes it. -/
theorem Carries.audible {spoken : UInt64 × List Int16} {sent : SentFrame}
    (h : Carries spoken sent) :
    ∃ played, validateDecodedAudioFrame
      ⟨sent.id, 48000, 1, UInt16.ofNat spoken.2.length, spoken.1, spoken.2⟩ = .ok played := by
  have hlength := SyntheticOpusDecoder.length_decode (h .release)
  have hone : (UInt16.ofNat spoken.2.length).toNat * (1 : UInt16).toNat
      = (UInt16.ofNat spoken.2.length).toNat := Nat.mul_one _
  have hfits : (UInt16.ofNat spoken.2.length).toNat ≤ u16Max :=
    Nat.le_of_lt_succ (UInt16.toNat_lt _)
  dsimp only at hlength
  rw [hone] at hlength
  unfold validateDecodedAudioFrame checkedMul
  dsimp only
  rw [hone, if_pos hfits]
  dsimp only
  rw [if_neg (not_not.mpr hlength)]
  exact ⟨_, rfl⟩

/-- A viewer that decodes the frame hears this. -/
def Plays (build : Build) (frame : EncodedFrame) (heard : DecodedAudioFrame) : Prop :=
  SyntheticOpusDecoder.decode build frame.bytes = some (.ok (some heard)) ∧
    ∃ played, validateDecodedAudioFrame heard = .ok played

theorem Carries.plays {spoken : UInt64 × List Int16} {sent : SentFrame} (h : Carries spoken sent)
    (build : Build) {delivered : List Delivery} {frame : EncodedFrame}
    (hframe : FrameReassemblyBuffer.HandedOut delivered sent frame) :
    Plays build frame
      ⟨sent.id, 48000, 1, UInt16.ofNat spoken.2.length, spoken.1, spoken.2⟩ := by
  obtain ⟨got, -, rfl⟩ := hframe.intact
  exact ⟨h build, h.audible⟩

theorem Plays.unique {build : Build} {frame : EncodedFrame} {heard heard' : DecodedAudioFrame}
    (h : Plays build frame heard) (h' : Plays build frame heard') : heard = heard' := by
  have hsame := h.1.symm.trans h'.1
  exact Option.some.inj (Except.ok.inj (Option.some.inj hsame))

/-! ## The turns of the viewer -/

namespace VoiceViewer

variable {args : ViewerArgs} {build : Build} {viewer viewer' start : VoiceViewer} {turn : Turn}

theorem takePacket_ok {frame : Option EncodedFrame}
    (h : viewer.takePacket args turn = .ok (viewer', frame)) :
    ∃ outcome, (viewer.buffer.pushWithStatsAt turn.packet turn.packet_receive_time_micros).2
        = .ok outcome ∧ outcome.frame = frame ∧
      viewer'.buffer
        = (viewer.buffer.pushWithStatsAt turn.packet turn.packet_receive_time_micros).1 ∧
      viewer'.playback = viewer.playback ∧ viewer'.played = viewer.played := by
  obtain ⟨outcome, houtcome, hok⟩ := bind_eq_ok.mp h
  obtain ⟨rfl, rfl⟩ := Prod.mk.inj (Except.ok.inj hok)
  exact ⟨outcome, mapError_eq_ok.mp houtcome, rfl, rfl, rfl, rfl⟩

theorem takePacket_error {failure : ViewerError}
    (h : viewer.takePacket args turn = .error failure) :
    ∃ error, (viewer.buffer.pushWithStatsAt turn.packet turn.packet_receive_time_micros).2
      = .error error := by
  rcases bind_eq_error.mp h with hpush | ⟨outcome, -, hok⟩
  · obtain ⟨error, herror, -⟩ := mapError_eq_error.mp hpush
    exact ⟨error, herror⟩
  · cases hok

/-- A failure that says nothing about the frames: of the connection, or of the loudspeaker. -/
def Outside (output : AudioOutputArg) : ViewerError → Prop
  | .control _ => True
  | .render _ => output = .speaker
  | .push _ => False
  | .decode _ => False

theorem play_cases (playback : AudioOutputPlayback) {heard : DecodedAudioFrame}
    {played : PlayedAudioFrame} (hplayed : validateDecodedAudioFrame heard = .ok played)
    (device : Except String Unit) :
    (∃ message, playback.play heard device = .error message ∧ playback.output = .speaker) ∨
      ∃ playback', playback.play heard device = .ok playback' ∧
        playback'.output = playback.output := by
  unfold AudioOutputPlayback.play LatestAudioPlayback.play
  rw [hplayed]
  cases houtput : playback.output with
  | sink => exact .inr ⟨_, rfl, rfl⟩
  | speaker =>
      cases device with
      | error message => exact .inl ⟨message, rfl, rfl⟩
      | ok _ => exact .inr ⟨_, rfl, rfl⟩

variable (viewer turn) in
/-- What can be heard is played, unless the loudspeaker fails. -/
theorem decodeFrame_cases {frame : EncodedFrame} {heard : DecodedAudioFrame}
    (h : Plays build frame heard) :
    (∃ failure, viewer.decodeFrame build frame turn = .error failure ∧
      Outside viewer.playback.output failure) ∨
    ∃ viewer', viewer.decodeFrame build frame turn = .ok viewer' ∧
      viewer'.buffer = viewer.buffer ∧ viewer'.playback.output = viewer.playback.output ∧
      viewer'.played = viewer.played ++ [heard] := by
  obtain ⟨hdecode, played, hplayed⟩ := h
  have hplay : viewer.decodeFrame build frame turn = viewer.playFrame heard turn := by
    unfold decodeFrame
    rw [hdecode]
    rfl
  rw [hplay]
  unfold playFrame
  rcases play_cases viewer.playback hplayed turn.render with
    ⟨message, herror, houtput⟩ | ⟨playback', hok, houtput⟩
  · rw [herror]
    exact .inl ⟨.render message, rfl, houtput⟩
  · rw [hok]
    exact .inr ⟨_, rfl, rfl, houtput, rfl⟩

variable (viewer turn) in
/-- The part of a turn behind a frame that can be heard. -/
theorem takeFrame_cases {frame : EncodedFrame} {heard : DecodedAudioFrame}
    (h : Plays build frame heard) :
    (∃ failure, viewer.takeFrame args build frame turn = .error failure ∧
      Outside viewer.playback.output failure) ∨
    ∃ viewer', viewer.takeFrame args build frame turn = .ok viewer' ∧
      viewer'.buffer = viewer.buffer ∧ viewer'.playback.output = viewer.playback.output ∧
      viewer'.played = viewer.played ++ [heard] := by
  unfold takeFrame
  rcases decodeFrame_cases viewer turn h with
    ⟨failure, herror, houtside⟩ | ⟨decoded, hok, hbuffer, houtput, hplayed⟩
  · rw [herror]
    exact .inl ⟨failure, rfl, houtside⟩
  · rw [hok]
    simp only [bind, Except.bind]
    cases hreport : reportStats args
        { decoded with reassembled_frames := decoded.reassembled_frames + 1 } turn with
    | error failure =>
        refine .inl ⟨failure, rfl, ?_⟩
        unfold reportStats at hreport
        split at hreport
        · obtain ⟨message, -, rfl⟩ := mapError_eq_error.mp hreport
          exact True.intro
        · cases hreport
    | ok _ => exact .inr ⟨_, rfl, hbuffer, houtput, hplayed⟩

/-! ## The run of the viewer -/

/-- The viewer has taken these packets: its buffer has what is left of them, and what the buffer has
handed out has been played. -/
structure Follows (build : Build) (start : VoiceViewer) (taken : List Delivery)
    (viewer : VoiceViewer) : Prop where
  buffer : viewer.buffer = run FrameReassemblyBuffer.deliver start.buffer taken
  output : viewer.playback.output = start.playback.output
  played : List.Forall₂ (Plays build) (start.buffer.outputs taken) viewer.played

section Run

variable {frames : List SentFrame} {taken : List Delivery} {d : Delivery}
  (hstart : start.buffer.Genuine []) (hdistinct : (frames.map SentFrame.id).Nodup)
  (hvoice : ∀ sent ∈ frames, sent.packet_type = .audio ∧ ∃ spoken, Carries spoken sent)

include hstart hdistinct hvoice

/-- A turn leaves the packet, takes it, or fails from outside or because the packet came before. -/
theorem Follows.step_cases (h : Follows build start taken viewer) (hbrings : Brings turn d)
    (hframes : ∀ e ∈ taken ++ [d], e.sent ∈ frames) :
    (∃ viewer', viewer.step args build turn = .ok viewer' ∧
      (Follows build start taken viewer' ∨ Follows build start (taken ++ [d]) viewer')) ∨
    ∃ failure, viewer.step args build turn = .error failure ∧
      (Outside start.playback.output failure ∨
        ∃ e ∈ taken, e.sent = d.sent ∧ e.fragment.val = d.fragment.val) := by
  have hmedia : ∀ sent ∈ frames, sent.packet_type ≠ .probe := by
    intro sent hsent
    rw [(hvoice sent hsent).1]
    decide
  have hgenuine : viewer.buffer.Genuine taken := by
    rw [h.buffer]
    exact FrameReassemblyBuffer.genuine_run hstart taken
  by_cases hbelow : viewer.reassembled_frames < args.target_frames
  · cases hrefresh : turn.refresh_if_due with
    | error message =>
        refine .inr ⟨.control message, ?_, .inl True.intro⟩
        unfold step receive
        rw [if_pos hbelow, hrefresh]
        rfl
    | ok _ =>
        rw [step_of_refreshed hbelow hrefresh]
        unfold receivePacket
        cases htake : viewer.takePacket args turn with
        | error failure =>
            obtain ⟨error, herror⟩ := takePacket_error htake
            rw [← hbrings.packet, ← hbrings.received] at herror
            exact .inr ⟨failure, rfl, .inr (hgenuine.fails hdistinct hmedia hframes herror)⟩
        | ok stored =>
            obtain ⟨stored, frame⟩ := stored
            obtain ⟨outcome, hpush, hframe, hbuffer, hplayback, hplayed⟩ := takePacket_ok htake
            rw [← hbrings.packet, ← hbrings.received] at hpush hbuffer
            have hbuffer' : stored.buffer
                = run FrameReassemblyBuffer.deliver start.buffer (taken ++ [d]) := by
              rw [run_snoc, ← h.buffer]
              exact hbuffer
            have houtputs : start.buffer.outputs (taken ++ [d])
                = start.buffer.outputs taken ++ frame.toList := by
              rw [FrameReassemblyBuffer.outputs_snoc, ← h.buffer, hpush, ← hframe]
              rfl
            have houtput : stored.playback.output = start.playback.output := by
              rw [hplayback]
              exact h.output
            simp only [bind, Except.bind]
            cases frame with
            | none =>
                refine .inl ⟨stored, rfl, .inr ⟨hbuffer', houtput, ?_⟩⟩
                rw [houtputs, hplayed]
                exact (List.append_nil (start.buffer.outputs taken)).symm ▸ h.played
            | some frame =>
                have hout := hgenuine.handsOut hdistinct hmedia hframes hpush hframe
                have hd : d.sent ∈ frames := hframes d (List.mem_append_right _ List.mem_cons_self)
                obtain ⟨-, spoken, hcarries⟩ := hvoice d.sent hd
                have hplays := hcarries.plays build hout
                rcases takeFrame_cases stored turn hplays with
                  ⟨failure, herror, houtside⟩ | ⟨viewer', hok, hsame, hsame', hheard⟩
                · exact .inr ⟨failure, herror, .inl (houtput ▸ houtside)⟩
                · refine .inl ⟨viewer', hok, .inr
                    ⟨hsame.trans hbuffer', hsame'.trans houtput, ?_⟩⟩
                  rw [houtputs, hheard, hplayed]
                  exact List.rel_append h.played (.cons hplays .nil)
  · exact .inl ⟨viewer, step_of_done hbelow, .inl h⟩

variable (args) in
/-- A run takes some of the packets, in their order, and fails from outside or for a packet that
came before. -/
theorem Follows.run_cases {turns : List Turn} {coming : List Delivery}
    (hbring : List.Forall₂ Brings turns coming) (h : Follows build start taken viewer)
    (hframes : ∀ e ∈ taken ++ coming, e.sent ∈ frames) :
    (∀ viewer', tryRun (step args build) viewer turns = .ok viewer' →
      ∃ more, more.Sublist coming ∧ Follows build start (taken ++ more) viewer') ∧
    ∀ failure, tryRun (step args build) viewer turns = .error failure →
      Outside start.playback.output failure ∨
        ¬ ((taken ++ coming).map fun e => (e.sent.id, e.fragment.val)).Nodup := by
  induction hbring generalizing taken viewer with
  | nil =>
      refine ⟨fun viewer' hrun => ⟨[], List.nil_sublist _, ?_⟩, fun failure hrun => by cases hrun⟩
      rw [List.append_nil, ← Except.ok.inj hrun]
      exact h
  | @cons turn d turns coming hbrings _ ih =>
      have hframes' : ∀ e ∈ taken ++ [d], e.sent ∈ frames := by
        intro e he
        refine hframes e ?_
        rw [List.append_cons]
        exact List.mem_append_left coming he
      have hbefore : (taken ++ coming).Sublist (taken ++ d :: coming) :=
        (List.sublist_cons_self d coming).append_left taken
      rcases Follows.step_cases hstart hdistinct hvoice h hbrings hframes' with
        ⟨next, hstep, hnext⟩ | ⟨failure, hstep, hwhy⟩
      · rcases hnext with hnext | hnext
        · obtain ⟨hok, herror⟩ := ih hnext fun e he => hframes e (hbefore.subset he)
          refine ⟨fun viewer' hrun => ?_, fun failure hrun => ?_⟩
          · obtain ⟨_, hfirst, hrest⟩ := tryRun_cons_eq_ok.mp hrun
            cases hfirst.symm.trans hstep
            obtain ⟨more, hmore, hfollows⟩ := hok viewer' hrest
            exact ⟨more, hmore.cons d, hfollows⟩
          · rcases tryRun_cons_eq_error.mp hrun with hfirst | ⟨_, hfirst, hrest⟩
            · cases hfirst.symm.trans hstep
            · cases hfirst.symm.trans hstep
              exact (herror failure hrest).imp_right fun htwice honce =>
                htwice (honce.sublist (hbefore.map _))
        · have hsame : taken ++ [d] ++ coming = taken ++ d :: coming :=
            (List.append_cons taken d coming).symm
          obtain ⟨hok, herror⟩ := ih hnext (by rw [hsame]; exact hframes)
          refine ⟨fun viewer' hrun => ?_, fun failure hrun => ?_⟩
          · obtain ⟨_, hfirst, hrest⟩ := tryRun_cons_eq_ok.mp hrun
            cases hfirst.symm.trans hstep
            obtain ⟨more, hmore, hfollows⟩ := hok viewer' hrest
            rw [← List.append_cons] at hfollows
            exact ⟨d :: more, hmore.cons_cons d, hfollows⟩
          · rcases tryRun_cons_eq_error.mp hrun with hfirst | ⟨_, hfirst, hrest⟩
            · cases hfirst.symm.trans hstep
            · cases hfirst.symm.trans hstep
              rw [← hsame]
              exact herror failure hrest
      · refine ⟨fun viewer' hrun => ?_, fun failure' hrun => ?_⟩
        · obtain ⟨_, hfirst, -⟩ := tryRun_cons_eq_ok.mp hrun
          cases hfirst.symm.trans hstep
        · rcases tryRun_cons_eq_error.mp hrun with hfirst | ⟨_, hfirst, -⟩
          · cases hfirst.symm.trans hstep
            refine hwhy.imp_right ?_
            rintro ⟨e, he, hsent, hfragment⟩ honce
            rw [List.map_append, List.nodup_append] at honce
            exact honce.2.2 _ (List.mem_map_of_mem he) _ (List.mem_map_of_mem List.mem_cons_self)
              (Prod.ext (congrArg SentFrame.id hsent) hfragment)
          · cases hfirst.symm.trans hstep

end Run

end VoiceViewer

/-! ## From the microphone to the loudspeaker -/

/-- The frames of the voice carry what was spoken, in order. -/
theorem carried_at {said : List (UInt64 × List Int16)} {frames : List SentFrame}
    (h : List.Forall₂ Carries said frames) {sent : SentFrame} (hsent : sent ∈ frames) :
    ∃ (k : Nat) (spoken : UInt64 × List Int16), said[k]? = some spoken ∧
      frames[k]? = some sent ∧ Carries spoken sent := by
  obtain ⟨k, hk, rfl⟩ := List.mem_iff_getElem.mp hsent
  have hk' : k < said.length := h.length_eq ▸ hk
  exact ⟨k, said[k], List.getElem?_eq_getElem hk', List.getElem?_eq_getElem hk, h.get hk' hk⟩

/-- What one client speaks is heard by another. Packets may be lost, delayed, brought twice and
stamped on the way: whatever is played is what the microphone gave at one time, with the place that
it had as its id, and nothing is played twice unless a packet comes twice. As long as none does, the
viewer fails only when its connection or its loudspeaker does. The voice has at most as many frames
as there are ids (`hids`). -/
theorem voice_heard_as_spoken {args : VoiceArgs} (hinput : args.voice_input = .microphone)
    {is_windows : Bool} {microphone : Except String Unit} {options : VoiceMediaRunOptions}
    {speaking : List VoiceMediaTurn} {last : VoiceMediaTurn}
    {poll_stream_metrics : Except String Unit} {outcome : Except String Unit}
    {log : List MediaEvent}
    (hrun : runVoiceBroadcasterMediaLoop args is_windows microphone options speaking last
      poll_stream_metrics = (outcome, log))
    (hids : (MediaLog.frames log).length ≤ u32Max)
    (viewer_args : ViewerArgs) (build : Build) (output : AudioOutputArg) {turns : List Turn}
    (harrive : ∀ turn ∈ turns, ∃ taken ∈ MediaLog.packets log, taken.Restamped turn.packet) :
    (∀ viewer, tryRun (VoiceViewer.step viewer_args build) (.start viewer_args output) turns
        = .ok viewer →
      (∃ said, said <+: speaking.flatMap VoiceMediaTurn.heard ∧
        ∀ heard ∈ viewer.played, ∃ (k : Nat) (spoken : UInt64 × List Int16),
          said[k]? = some spoken ∧
          heard = ⟨UInt32.ofNat (k + 1), 48000, 1, UInt16.ofNat spoken.2.length, spoken.1,
            spoken.2⟩) ∧
      ((turns.map Turn.fragmentKey).Nodup →
        (viewer.played.map DecodedAudioFrame.frame_id).Nodup)) ∧
    ((turns.map Turn.fragmentKey).Nodup → ∀ failure,
      tryRun (VoiceViewer.step viewer_args build) (.start viewer_args output) turns
        = .error failure → VoiceViewer.Outside output failure) := by
  obtain ⟨⟨rest, hlog, -⟩, said, hsaid, hcarries⟩ := runVoiceBroadcasterMediaLoop_broadcasts args
    is_windows microphone options speaking last poll_stream_metrics hrun
  have hcarries := hcarries hinput
  have hnames := voice_frame_ids hlog hids
  have hdistinct : ((MediaLog.frames log).map SentFrame.id).Nodup := by
    rw [hnames]
    exact nodup_voice_frame_ids hids
  have hvoice : ∀ sent ∈ MediaLog.frames log,
      sent.packet_type = .audio ∧ ∃ spoken, Carries spoken sent := by
    intro sent hsent
    obtain ⟨_, spoken, -, -, hcarried⟩ := carried_at hcarries hsent
    exact ⟨(hlog.frame_shape sent hsent).1, spoken, hcarried⟩
  have hmedia : ∀ sent ∈ MediaLog.frames log, sent.packet_type ≠ .probe := by
    intro sent hsent
    rw [(hvoice sent hsent).1]
    decide
  have hgenuine : (VoiceViewer.start viewer_args output).buffer.Genuine [] :=
    (FrameReassemblyBuffer.Constructed.withJitterBudget _ _ _ _).genuine
  obtain ⟨coming, hbring, hframes⟩ := exists_deliveries hlog harrive
  have hkeys : turns.map Turn.fragmentKey
      = coming.map fun d => (d.sent.id, d.fragment.val) :=
    map_eq_map_of_forall₂ hbring fun _ _ _ hbrings => hbrings.fragmentKey
  have hfollows : VoiceViewer.Follows build (.start viewer_args output) []
      (.start viewer_args output) := ⟨rfl, rfl, .nil⟩
  obtain ⟨hok, herror⟩ :=
    hfollows.run_cases viewer_args hgenuine hdistinct hvoice hbring hframes
  rw [hkeys]
  refine ⟨fun viewer hviewer => ?_, fun honce failure hfailure => ?_⟩
  · obtain ⟨taken, hsub, hplayed⟩ := hok viewer hviewer
    rw [List.nil_append] at hplayed
    have htaken : ∀ d ∈ taken, d.sent ∈ MediaLog.frames log :=
      fun d hd => hframes d (hsub.subset hd)
    have hout := FrameReassemblyBuffer.outputs_handedOut hgenuine hdistinct hmedia htaken
    have hheard : ∀ frame ∈ (VoiceViewer.start viewer_args output).buffer.outputs taken,
        ∀ heard, Plays build frame heard → heard.frame_id = frame.frame_id ∧
          ∃ (k : Nat) (spoken : UInt64 × List Int16), said[k]? = some spoken ∧
            heard = ⟨UInt32.ofNat (k + 1), 48000, 1, UInt16.ofNat spoken.2.length, spoken.1,
              spoken.2⟩ := by
      intro frame hframe heard hplays
      obtain ⟨sent, hsent, hhanded⟩ := hout frame hframe
      obtain ⟨k, spoken, hspoken, hplace, hcarried⟩ := carried_at hcarries hsent
      obtain rfl := hplays.unique (hcarried.plays build hhanded)
      refine ⟨hhanded.frame_id.symm, k, spoken, hspoken, ?_⟩
      have hid : some sent.id = some (UInt32.ofNat (k + 1)) := by
        have hlt : k < (MediaLog.frames log).length := (List.getElem?_eq_some_iff.mp hplace).1
        calc some sent.id = ((MediaLog.frames log).map SentFrame.id)[k]? := by
              rw [List.getElem?_map, hplace]
              rfl
          _ = some (UInt32.ofNat (k + 1)) := by
              rw [hnames, List.getElem?_map, List.getElem?_range hlt]
              rfl
      rw [Option.some.inj hid]
    refine ⟨⟨said, hsaid, fun heard hmem => ?_⟩, fun honce => ?_⟩
    · obtain ⟨frame, hframe, hplays⟩ := exists_of_forall₂ hplayed.played heard hmem
      exact (hheard frame hframe heard hplays).2
    · have hsame : ((VoiceViewer.start viewer_args output).buffer.outputs taken).map
            EncodedFrame.frame_id = viewer.played.map DecodedAudioFrame.frame_id :=
        map_eq_map_of_forall₂ hplayed.played
          fun frame hframe heard hplays => (hheard frame hframe heard hplays).1.symm
      rw [← hsame]
      exact FrameReassemblyBuffer.nodup_outputs hgenuine hdistinct hmedia htaken
        (honce.sublist (hsub.map _))
  · exact (herror failure hfailure).resolve_right (not_not.mpr honce)

/-- A client that sends the microphone as the stream 1. -/
def speakingArgs : VoiceArgs where
  toUiArgs := { DualViewer.sharedUi with mode := .broadcaster, media_kind := .voice }
  video_encoder := .synthetic
  max_datagram_payload := 200
  feedback_interval_frames := 0
  voice_input := .microphone

/-- The microphone gives this. -/
def spokenTurn (capture_time_micros : UInt64) (samples : List Int16) : VoiceMediaTurn where
  stop_before_tick := false
  stop_after_tick := false
  microphone := .ok (some (capture_time_micros, samples))
  capture_time_micros := capture_time_micros
  refresh_if_due := .ok 0
  encode_done_time_micros := 0
  send_datagram _ := (0, .ok ())
  poll_publisher_feedback := .error "no feedback"

def spokenTurns : List VoiceMediaTurn :=
  [spokenTurn 100 [7, -7], spokenTurn 200 [8], spokenTurn 300 [9]]

def spokenRun : Except String Unit × List MediaEvent :=
  runVoiceBroadcasterMediaLoop speakingArgs true (.ok ()) ⟨none, false⟩ spokenTurns
    (spokenTurn 400 []) (.ok ())

/-- The packets come in the opposite order, the first one not at all. -/
def heardTurns : List Turn :=
  ((MediaLog.packets spokenRun.2).drop 1).reverse.map ScreenViewer.received

def heardRun : Except ViewerError VoiceViewer :=
  tryRun (VoiceViewer.step ScreenViewer.sharedArgs .release) (.start ScreenViewer.sharedArgs .sink)
    heardTurns

theorem voice_heard_as_spoken_reversed :
    ∃ viewer, heardRun = .ok viewer ∧ viewer.played.map (fun heard => heard.pcm) = [[9], [8]] ∧
      ∃ said, said <+: spokenTurns.flatMap VoiceMediaTurn.heard ∧
        ∀ heard ∈ viewer.played, ∃ (k : Nat) (spoken : UInt64 × List Int16),
          said[k]? = some spoken ∧
          heard = ⟨UInt32.ofNat (k + 1), 48000, 1, UInt16.ofNat spoken.2.length, spoken.1,
            spoken.2⟩ := by
  have hids : (MediaLog.frames spokenRun.2).length ≤ u32Max := by
    decide +kernel
  have harrive : ∀ turn ∈ heardTurns, ∃ taken ∈ MediaLog.packets spokenRun.2,
      taken.Restamped turn.packet := by
    intro turn hturn
    obtain ⟨packet, hpacket, rfl⟩ := List.mem_map.mp hturn
    exact ⟨packet, List.mem_of_mem_drop (List.mem_reverse.mp hpacket),
      ⟨packet.header.sender_send_time_micros, packet.header.server_receive_time_micros,
        packet.header.server_send_time_micros⟩, rfl⟩
  have hpcm : heardRun.map (fun viewer => viewer.played.map fun heard => heard.pcm)
      = .ok [[9], [8]] := by
    decide +kernel
  cases hrun : heardRun with
  | error failure =>
      rw [hrun] at hpcm
      cases hpcm
  | ok viewer =>
      rw [hrun] at hpcm
      have hspoken : runVoiceBroadcasterMediaLoop speakingArgs true (.ok ()) ⟨none, false⟩
          spokenTurns (spokenTurn 400 []) (.ok ()) = spokenRun := rfl
      have hheard := (voice_heard_as_spoken rfl (hspoken.trans (Prod.eta spokenRun).symm) hids
        ScreenViewer.sharedArgs .release .sink harrive).1 viewer hrun
      exact ⟨viewer, rfl, Except.ok.inj hpcm, hheard.1⟩

end TeamView.Client
