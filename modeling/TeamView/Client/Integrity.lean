import TeamView.Client.Eviction
import TeamView.Client.FrameDelivery

set_option autoImplicit false

/-! # What a viewer gets is what was sent

Packets of the frames of a stream reach a reassembly buffer
(`crates/desktop-client/src/decode/mod.rs`) in any order; some are lost and some come twice, and
the buffer drops frames on its own account. Every fragment in the buffer is one that was sent
(`Genuine`), so whatever the buffer hands out is a frame as it was sent, and handing it out takes
all of its packets.
-/

namespace TeamView.Client

open TeamView.Protocol BTree MachineInt Runs

namespace FrameReassemblyBuffer

variable {buffer : FrameReassemblyBuffer} {frames : List SentFrame} {delivered : List Delivery}

/-! ## The result of a push -/

/-- What the last fragment of a frame hands out. -/
theorem push_of_completes {packet : MediaPacket} {received : UInt64}
    (h : buffer.Completes packet) {frame : EncodedFrame}
    (hframe : reassembleFrame (buffer.packetsOf packet.header.frame_id ++ [packet]) = .ok frame) :
    ∃ outcome, (buffer.pushWithStatsAt packet received).2 = .ok outcome ∧
      outcome.frame = some frame := by
  have hpackets : (buffer.entryFor packet received).packets
      = buffer.packetsOf packet.header.frame_id := entryFor_packets
  have hany := mt (@repeats_iff buffer packet received).mp h.1
  have hlength : ((buffer.entryFor packet received).packets ++ [packet]).length
      = packet.header.fragment_count.toNat := by
    rw [List.length_append, List.length_singleton, hpackets]
    exact h.2
  have hpush : buffer.pushWithStatsAt packet received = _ :=
    (if_neg hany).trans (if_neg (not_not.mpr hlength))
  have hjoined : reassembleFrame ((buffer.entryFor packet received).packets ++ [packet])
      = .ok frame := by
    rw [hpackets]
    exact hframe
  rw [hpush]
  dsimp only
  split
  · next error herror => cases herror.symm.trans hjoined
  · next joined hok =>
      cases hok.symm.trans hjoined
      exact ⟨_, rfl, rfl⟩

/-! ## Where the fragments in the buffer come from -/

theorem mem_packetsOf {frame_id : UInt32} {packet : MediaPacket} :
    packet ∈ buffer.packetsOf frame_id ↔
      ∃ entry, buffer.pending[frame_id]? = some entry ∧ packet ∈ entry.packets := by
  unfold packetsOf
  cases hentry : buffer.pending[frame_id]? with
  | none => exact iff_of_false List.not_mem_nil fun ⟨_, h, _⟩ => by cases h
  | some entry => exact ⟨fun h => ⟨entry, rfl, h⟩, fun ⟨_, hsome, h⟩ => Option.some.inj hsome ▸ h⟩

/-- A fragment that is stored is the pushed one, with its own frame, or was there before. -/
theorem packets_of_stored {packet earlier : MediaPacket} {received : UInt64} {frame_id : UInt32}
    {entry : PendingFrame} (hentry : (buffer.stored packet received)[frame_id]? = some entry)
    (hmem : earlier ∈ entry.packets) :
    earlier ∈ buffer.packetsOf frame_id ∨
      (frame_id = packet.header.frame_id ∧ earlier = packet) := by
  rw [stored, get_insert] at hentry
  split at hentry
  · next hown =>
      have hpackets := congrArg PendingFrame.packets (Option.some.inj hentry)
      rw [entryFor_packets] at hpackets
      rw [← hpackets, List.mem_append, List.mem_singleton] at hmem
      subst hown
      exact hmem.imp_right fun hsame => ⟨rfl, hsame⟩
  · exact .inl (mem_packetsOf.mpr ⟨entry, get_of_roomFor hentry, hmem⟩)

theorem mem_packetsOf_push {packet earlier : MediaPacket} {received : UInt64} {frame_id : UInt32}
    (hmem : earlier ∈ (buffer.pushWithStatsAt packet received).1.packetsOf frame_id) :
    earlier ∈ buffer.packetsOf frame_id ∨
      (frame_id = packet.header.frame_id ∧ earlier = packet) := by
  obtain ⟨entry, hentry, hin⟩ := mem_packetsOf.mp hmem
  rcases buffer.pushWithStatsAt_cases packet received with
    ⟨-, hpush⟩ | ⟨-, hpush⟩ | ⟨-, _, hpush, -⟩
  · rw [hpush, get_insert] at hentry
    split at hentry
    · next hown =>
        rw [← Option.some.inj hentry, entryFor_packets] at hin
        exact .inl (hown ▸ hin)
    · exact .inl (mem_packetsOf.mpr ⟨entry, get_of_roomFor hentry, hin⟩)
  · rw [hpush] at hentry
    have hloop := dropsOldest_dropOldestWhile buffer.overBudget (buffer.stored packet received)
    exact packets_of_stored ((hloop.get (mem_of_get hentry)).symm.trans hentry) hin
  · rw [hpush, get_erase] at hentry
    split at hentry
    · cases hentry
    · exact packets_of_stored hentry hin

/-- Every fragment in the buffer has been delivered, and each is there once. -/
structure Genuine (delivered : List Delivery) (buffer : FrameReassemblyBuffer) : Prop where
  bounded : buffer.Bounded
  delivered : ∀ frame_id, ∀ packet ∈ buffer.packetsOf frame_id,
    ∃ d ∈ delivered, d.sent.id = frame_id ∧ d.packet = packet

theorem Genuine.push (h : buffer.Genuine delivered) (d : Delivery) :
    (buffer.deliver d).Genuine (delivered ++ [d]) where
  bounded := h.bounded.push (d.packet, d.received_at_micros)
  delivered := by
    intro frame_id packet hpacket
    rcases mem_packetsOf_push hpacket with hearlier | ⟨hown, rfl⟩
    · obtain ⟨e, he, hsame⟩ := h.delivered frame_id packet hearlier
      exact ⟨e, List.mem_append_left _ he, hsame⟩
    · exact ⟨d, List.mem_append_right _ List.mem_cons_self,
        d.packet_frame_id.symm.trans hown.symm, rfl⟩

theorem genuine_run (hstart : buffer.Genuine []) (delivered : List Delivery) :
    (run deliver buffer delivered).Genuine delivered := by
  induction delivered using List.reverseRecOn with
  | nil => exact hstart
  | append_singleton delivered d ih =>
      rw [run_snoc]
      exact ih.push d

/-! ## What the buffer hands out -/

/-- A frame as its packets have arrived, all of them among the delivered ones. -/
structure HandedOut (delivered : List Delivery) (sent : SentFrame) (frame : EncodedFrame) :
    Prop where
  complete : sent.Complete delivered
  intact : ∃ got, Arrived sent.packets got ∧ frame = sent.frame.arrived got

/-- The fragments of a frame with the last one are the packets of one frame, each once. -/
theorem Genuine.arrived (h : buffer.Genuine delivered)
    (hdistinct : (frames.map SentFrame.id).Nodup) {d : Delivery}
    (hframes : ∀ e ∈ delivered ++ [d], e.sent ∈ frames) (hcompletes : buffer.Completes d.packet) :
    Arrived d.sent.packets (buffer.packetsOf d.sent.id ++ [d.packet]) ∧
      ∀ packet ∈ buffer.packetsOf d.sent.id ++ [d.packet],
        ∃ e ∈ delivered ++ [d], e.sent = d.sent ∧ e.packet = packet := by
  obtain ⟨hnew, hcount⟩ := hcompletes
  rw [d.packet_frame_id, d.packet_fragment_count] at hcount
  have hdelivered : ∀ packet ∈ buffer.packetsOf d.sent.id ++ [d.packet],
      ∃ e ∈ delivered ++ [d], e.sent = d.sent ∧ e.packet = packet := by
    intro packet hpacket
    rcases List.mem_append.mp hpacket with hearlier | hown
    · obtain ⟨e, he, hid, hsame⟩ := h.delivered d.sent.id packet hearlier
      have he' : e ∈ delivered ++ [d] := List.mem_append_left _ he
      have hd : d ∈ delivered ++ [d] := List.mem_append_right _ List.mem_cons_self
      exact ⟨e, he', eq_of_id hdistinct (hframes e he') (hframes d hd) hid, hsame⟩
    · exact ⟨d, List.mem_append_right _ List.mem_cons_self, rfl, (List.mem_singleton.mp hown).symm⟩
  refine ⟨⟨?_, ?_, ?_⟩, hdelivered⟩
  · intro packet hpacket
    obtain ⟨e, -, hsent, rfl⟩ := hdelivered packet hpacket
    exact ⟨_, hsent ▸ List.get_mem e.sent.packets e.fragment, e.stamps, rfl⟩
  · rw [List.map_append, List.map_singleton, List.nodup_append]
    refine ⟨h.bounded.packetsOf_once d.sent.id, List.nodup_singleton _, ?_⟩
    intro index hindex other hother hsame
    obtain ⟨earlier, hearlier, rfl⟩ := List.mem_map.mp hindex
    refine hnew ⟨earlier, ?_, hsame.trans (List.mem_singleton.mp hother)⟩
    rw [d.packet_frame_id]
    exact hearlier
  · rw [List.length_append, List.length_singleton]
    exact hcount

/-- What a push hands out is the frame that its packet belongs to, as it was sent. -/
theorem Genuine.handsOut (h : buffer.Genuine delivered)
    (hdistinct : (frames.map SentFrame.id).Nodup)
    (hmedia : ∀ sent ∈ frames, sent.packet_type ≠ .probe) {d : Delivery}
    (hframes : ∀ e ∈ delivered ++ [d], e.sent ∈ frames) {outcome : ReassemblyOutcome}
    (hpush : (buffer.pushWithStatsAt d.packet d.received_at_micros).2 = .ok outcome)
    {frame : EncodedFrame} (hframe : outcome.frame = some frame) :
    HandedOut (delivered ++ [d]) d.sent frame := by
  rcases buffer.pushWithStatsAt_cases d.packet d.received_at_micros with
    ⟨-, hrepeats⟩ | ⟨-, hwaits⟩ | ⟨hcompletes, -, -, -⟩
  · rw [hrepeats] at hpush
    cases hpush
  · rw [hwaits] at hpush
    cases hpush
    cases hframe
  · obtain ⟨harrived, hdelivered⟩ := h.arrived hdistinct hframes hcompletes
    have hd : d.sent ∈ frames := hframes d (List.mem_append_right _ List.mem_cons_self)
    have hjoined := reassembleFrame_of_fragments d.sent.packetized' (hmedia d.sent hd) harrived
    obtain ⟨outcome', hok, hout⟩ :=
      push_of_completes hcompletes (by rw [d.packet_frame_id]; exact hjoined)
    cases hpush.symm.trans hok
    refine ⟨fun i hi => ?_, _, harrived, Option.some.inj (hframe.symm.trans hout)⟩
    have hperm := d.sent.packetized'.perm_index harrived
    have hmem := hperm.mem_iff.mpr (List.mem_range.mpr (d.length_packets ▸ hi))
    obtain ⟨packet, hpacket, rfl⟩ := List.mem_map.mp hmem
    obtain ⟨e, he, hsent, rfl⟩ := hdelivered packet hpacket
    exact ⟨e, he, hsent, e.packet_fragment_index.symm⟩

/-- A push fails for a fragment that has been delivered before, and for nothing else. -/
theorem Genuine.fails (h : buffer.Genuine delivered)
    (hdistinct : (frames.map SentFrame.id).Nodup)
    (hmedia : ∀ sent ∈ frames, sent.packet_type ≠ .probe) {d : Delivery}
    (hframes : ∀ e ∈ delivered ++ [d], e.sent ∈ frames) {error : PushError}
    (hpush : (buffer.pushWithStatsAt d.packet d.received_at_micros).2 = .error error) :
    ∃ e ∈ delivered, e.sent = d.sent ∧ e.fragment.val = d.fragment.val := by
  rcases buffer.pushWithStatsAt_cases d.packet d.received_at_micros with
    ⟨hrepeats, -⟩ | ⟨-, hwaits⟩ | ⟨hcompletes, -, -, -⟩
  · obtain ⟨earlier, hearlier, hindex⟩ := hrepeats
    obtain ⟨e, he, hid, rfl⟩ := h.delivered d.packet.header.frame_id earlier hearlier
    have hd : d ∈ delivered ++ [d] := List.mem_append_right _ List.mem_cons_self
    refine ⟨e, he, eq_of_id hdistinct (hframes e (List.mem_append_left _ he)) (hframes d hd)
      (hid.trans d.packet_frame_id), ?_⟩
    rw [← e.packet_fragment_index, ← d.packet_fragment_index, hindex]
  · rw [hwaits] at hpush
    cases hpush
  · obtain ⟨harrived, -⟩ := h.arrived hdistinct hframes hcompletes
    have hd : d.sent ∈ frames := hframes d (List.mem_append_right _ List.mem_cons_self)
    have hjoined := reassembleFrame_of_fragments d.sent.packetized' (hmedia d.sent hd) harrived
    obtain ⟨outcome, hok, -⟩ :=
      push_of_completes hcompletes (by rw [d.packet_frame_id]; exact hjoined)
    cases hpush.symm.trans hok

theorem HandedOut.later {sent : SentFrame} {frame : EncodedFrame}
    (h : HandedOut delivered sent frame) (after : List Delivery) :
    HandedOut (delivered ++ after) sent frame where
  complete i hi := by
    obtain ⟨d, hd, hsame⟩ := h.complete i hi
    exact ⟨d, List.mem_append_left _ hd, hsame⟩
  intact := h.intact

theorem HandedOut.frame_id {sent : SentFrame} {frame : EncodedFrame}
    (h : HandedOut delivered sent frame) : frame.frame_id = sent.id := by
  obtain ⟨got, -, rfl⟩ := h.intact
  rfl

/-- The frame that the result of a push hands out. -/
def handedFrame : Except PushError ReassemblyOutcome → List EncodedFrame
  | .ok outcome => outcome.frame.toList
  | .error _ => []

theorem mem_handedFrame {result : Except PushError ReassemblyOutcome} {frame : EncodedFrame} :
    frame ∈ handedFrame result ↔
      ∃ outcome, result = .ok outcome ∧ outcome.frame = some frame := by
  cases result with
  | error error => exact iff_of_false List.not_mem_nil fun ⟨_, h, _⟩ => by cases h
  | ok outcome =>
      refine Option.mem_toList.trans ⟨fun h => ⟨outcome, rfl, h⟩, fun ⟨_, hok, h⟩ => ?_⟩
      cases hok
      exact h

theorem outputs_snoc (buffer : FrameReassemblyBuffer) (delivered : List Delivery) (d : Delivery) :
    buffer.outputs (delivered ++ [d])
      = buffer.outputs delivered ++
        handedFrame
          ((run deliver buffer delivered).pushWithStatsAt d.packet d.received_at_micros).2 := by
  rw [outputs_append, outputs, outputs, List.append_nil]
  rfl

section Run

variable (hstart : buffer.Genuine []) (hdistinct : (frames.map SentFrame.id).Nodup)
  (hmedia : ∀ sent ∈ frames, sent.packet_type ≠ .probe)

include hstart hdistinct hmedia

theorem outputs_handedOut (hframes : ∀ d ∈ delivered, d.sent ∈ frames) :
    ∀ frame ∈ buffer.outputs delivered,
      ∃ sent ∈ frames, HandedOut delivered sent frame := by
  induction delivered using List.reverseRecOn with
  | nil => exact fun frame hframe => absurd hframe List.not_mem_nil
  | append_singleton delivered d ih =>
      intro frame hframe
      rw [outputs_snoc, List.mem_append] at hframe
      rcases hframe with hearlier | hlast
      · obtain ⟨sent, hsent, hout⟩ :=
          ih (fun e he => hframes e (List.mem_append_left _ he)) frame hearlier
        exact ⟨sent, hsent, hout.later [d]⟩
      · obtain ⟨outcome, hpush, hout⟩ := mem_handedFrame.mp hlast
        have hd : d ∈ delivered ++ [d] := List.mem_append_right _ List.mem_cons_self
        exact ⟨d.sent, hframes d hd,
          (genuine_run hstart delivered).handsOut hdistinct hmedia hframes hpush hout⟩

/-- When no fragment comes twice, no frame is handed out twice. -/
theorem nodup_outputs (hframes : ∀ d ∈ delivered, d.sent ∈ frames)
    (honce : (delivered.map fun d => (d.sent.id, d.fragment.val)).Nodup) :
    ((buffer.outputs delivered).map EncodedFrame.frame_id).Nodup := by
  induction delivered using List.reverseRecOn with
  | nil => exact List.nodup_nil
  | append_singleton delivered d ih =>
      have hframes' : ∀ e ∈ delivered, e.sent ∈ frames :=
        fun e he => hframes e (List.mem_append_left _ he)
      rw [List.map_append, List.nodup_append] at honce
      obtain ⟨hbefore, -, hnew⟩ := honce
      rw [outputs_snoc, List.map_append, List.nodup_append]
      refine ⟨ih hframes' hbefore, ?_, ?_⟩
      · rcases ((run deliver buffer delivered).pushWithStatsAt d.packet d.received_at_micros).2
          with error | ⟨_ | frame, _, _⟩
        · exact List.nodup_nil
        · exact List.nodup_nil
        · exact List.nodup_singleton _
      · intro frame_id hearlier other hlast hsame
        obtain ⟨frame, hframe, rfl⟩ := List.mem_map.mp hearlier
        obtain ⟨last, hmem, rfl⟩ := List.mem_map.mp hlast
        obtain ⟨outcome, hpush, hnow⟩ := mem_handedFrame.mp hmem
        -- a frame that came out before has had all of its fragments delivered
        obtain ⟨sent, hsent, hout⟩ :=
          outputs_handedOut hstart hdistinct hmedia hframes' frame hframe
        have hd : d ∈ delivered ++ [d] := List.mem_append_right _ List.mem_cons_self
        have hagain := (genuine_run hstart delivered).handsOut hdistinct hmedia hframes hpush hnow
        have hown : sent = d.sent := eq_of_id hdistinct hsent (hframes d hd)
          (hout.frame_id.symm.trans (hsame.trans hagain.frame_id))
        subst hown
        obtain ⟨e, he, hesent, hfragment⟩ := hout.complete d.fragment.val d.fragment.isLt
        exact hnew _ (List.mem_map_of_mem he) _ List.mem_cons_self
          (Prod.ext (congrArg SentFrame.id hesent) hfragment)

end Run

theorem Constructed.genuine (h : buffer.Constructed) : buffer.Genuine [] where
  bounded := bounded_of_empty h.pending_eq h.max_pos
  delivered := by
    intro frame_id packet hpacket
    obtain ⟨entry, hentry, -⟩ := mem_packetsOf.mp hpacket
    rw [h.pending_eq] at hentry
    cases hentry

/-- Whatever is lost, comes late or comes twice on the way, and whatever the buffer drops: every
frame that it hands out is one that was sent, with all the fragments that it takes delivered by
then, and a push fails only for a fragment that comes again. A frame is handed out once when no
fragment comes twice. The frames are video or audio (`hmedia`), as all frames of a broadcaster. -/
theorem reassembly_intact (hbuilt : buffer.Constructed)
    (hdistinct : (frames.map SentFrame.id).Nodup)
    (hmedia : ∀ sent ∈ frames, sent.packet_type ≠ .probe)
    (hframes : ∀ d ∈ delivered, d.sent ∈ frames) :
    (∀ frame ∈ buffer.outputs delivered, ∃ sent ∈ frames, sent.Complete delivered ∧
      ∃ got, Arrived sent.packets got ∧ frame = sent.frame.arrived got) ∧
    (∀ before d after error, delivered = before ++ d :: after →
      ((run deliver buffer before).pushWithStatsAt d.packet d.received_at_micros).2 = .error error →
      ∃ e ∈ before, e.sent = d.sent ∧ e.fragment.val = d.fragment.val) ∧
    ((delivered.map fun d => (d.sent.id, d.fragment.val)).Nodup →
      ((buffer.outputs delivered).map EncodedFrame.frame_id).Nodup) := by
  refine ⟨?_, ?_, nodup_outputs hbuilt.genuine hdistinct hmedia hframes⟩
  · intro frame hframe
    obtain ⟨sent, hsent, hout⟩ :=
      outputs_handedOut hbuilt.genuine hdistinct hmedia hframes frame hframe
    exact ⟨sent, hsent, hout.complete, hout.intact⟩
  · rintro before d after error rfl hpush
    refine (genuine_run hbuilt.genuine before).fails hdistinct hmedia ?_ hpush
    intro e he
    refine hframes e ?_
    rw [List.append_cons]
    exact List.mem_append_left after he

theorem wrappedSent_fragments : 0 < wrappedSent.packets.length := by decide

theorem lastSent_fragments : 1 < lastSent.packets.length := by decide

/-- The first fragment of a frame is lost and the second one comes twice, around another frame. -/
def damaged : List Delivery :=
  [⟨lastSent, ⟨1, lastSent_fragments⟩, ⟨11, 0, 31⟩, 41⟩,
    ⟨wrappedSent, ⟨0, wrappedSent_fragments⟩, ⟨10, 20, 30⟩, 42⟩,
    ⟨lastSent, ⟨1, lastSent_fragments⟩, ⟨11, 0, 31⟩, 43⟩]

theorem reassembly_intact_damaged :
    ((withJitterBudget 4 4 100 10).outputs damaged).length = 1 ∧
      ∀ frame ∈ (withJitterBudget 4 4 100 10).outputs damaged,
        ∃ sent ∈ [lastSent, wrappedSent], sent.Complete damaged ∧
          ∃ got, Arrived sent.packets got ∧ frame = sent.frame.arrived got := by
  refine ⟨by decide +kernel, (reassembly_intact (.withJitterBudget 4 4 100 10) ?_ ?_ ?_).1⟩
  · decide
  · simp [lastSent, wrappedSent]
  · simp [damaged]

end FrameReassemblyBuffer

end TeamView.Client
