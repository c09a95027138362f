import TeamView.Client.FrameDelivery
import TeamView.Lib.Flows

set_option autoImplicit false

/-! # Sending the frames of a stream

What the loops of the screen and of the voice broadcaster share
(`crates/desktop-client/src/main.rs`, `send_media_packet` of `transport/quic.rs`): an encoded frame
is cut into packets, and these are stamped and sent one after another. The log of what was done
follows a contract (`Broadcasts`), from which the order of the packets on the wire is read off.
-/

namespace TeamView.Client

open TeamView.Protocol MachineInt Flows

/-! ## The texts of the packet errors -/

def PacketType.debug : PacketType → String
  | .video => "Video"
  | .audio => "Audio"
  | .probe => "Probe"

def CodecId.debug : CodecId → String
  | .h264 => "H264"
  | .av1 => "Av1"
  | .hevc => "Hevc"
  | .opus => "Opus"

def PacketDecodeError.text : PacketDecodeError → String
  | .tooShort expected actual =>
      s!"packet header too short: expected at least {expected} bytes, got {actual}"
  | .payloadTooShort expected actual =>
      s!"packet payload too short: expected at least {expected} bytes, got {actual}"
  | .trailingBytes expected actual =>
      s!"packet has trailing bytes: expected exactly {expected} bytes, got {actual}"
  | .unsupportedVersion version => s!"unsupported protocol version {version}"
  | .unsupportedHeaderLength length => s!"unsupported header length {length}"
  | .unknownPacketType value => s!"unknown packet type {value}"
  | .unknownCodec value => s!"unknown codec id {value}"
  | .invalidFragment fragment_index fragment_count =>
      s!"invalid fragment {fragment_index}/{fragment_count}"
  | .unsupportedLayer layer => s!"unsupported layer {layer}"
  | .invalidPacketCodec packet_type codec =>
      s!"packet type {PacketType.debug packet_type} cannot use codec {CodecId.debug codec}"

def PacketEncodeError.text : PacketEncodeError → String
  | .payloadTooLarge length => s!"payload too large for u16 length field: {length} bytes"
  | .payloadLengthMismatch header actual =>
      s!"payload length mismatch: header says {header} bytes, actual payload is {actual} bytes"
  | .invalidHeader error => PacketDecodeError.text error

def FramePacketizeError.text : FramePacketizeError → String
  | .zeroMaxPayload => "max payload must be greater than zero"
  | .payloadTooLarge max_payload =>
      s!"max payload exceeds media packet payload field: {max_payload}"
  | .datagramTooSmall => "max datagram payload must be larger than media header"
  | .tooManyFragments fragment_count => s!"frame requires too many fragments: {fragment_count}"
  | .packetEncode error => s!"packet encode error: {PacketEncodeError.text error}"

/-! ## Sending a frame -/

/-- What a broadcaster does that others can tell: it has cut a frame into packets, has sent one of
them, or has been asked for a keyframe. -/
inductive MediaEvent where
  | frame (sent : SentFrame)
  | packet (packet : MediaPacket)
  | keyframeDemanded

/-- The variables of a broadcaster's loop that its sending changes. The log is not in the source. -/
structure MediaSender where
  next_sequence_number : UInt32
  sent_frames : UInt32
  sent_packets : Nat
  log : List MediaEvent

namespace MediaSender

def new : MediaSender := ⟨1, 0, 0, []⟩

def demandKeyframe (sender : MediaSender) : MediaSender :=
  { sender with log := sender.log ++ [.keyframeDemanded] }

end MediaSender

abbrev SendFlow (α : Type) : Type := Flow MediaSender String α

/-- `saturating_add` of one to a `u32`. -/
def satSucc (n : UInt32) : UInt32 := UInt32.ofNat (satAdd u32Max n.toNat 1)

theorem satSucc_counted (count : Nat) :
    satSucc (UInt32.ofNat (min count u32Max)) = UInt32.ofNat (min (count + 1) u32Max) := by
  have hbound : min count u32Max < 2 ^ 32 :=
    Nat.lt_of_le_of_lt (Nat.min_le_right _ _) (by decide)
  unfold satSucc satAdd
  rw [UInt32.toNat_ofNat', Nat.mod_eq_of_lt hbound]
  refine congrArg UInt32.ofNat ?_
  generalize u32Max = top
  omega

/-- When the packet of this index is sent, and whether the connection takes it. -/
abbrev SendDatagram : Type := Nat → UInt64 × Except String Unit

namespace MediaSender

/-- `packetize_frame_with_type_for_datagram_target`; its result is kept as a frame that was cut. -/
def packetize (frame : EncodedFrame) (packet_type : PacketType) (first_sequence_number : UInt32)
    (max_datagram_payload : Nat) : Except FramePacketizeError SentFrame :=
  match hpackets : packetizeFrameWithTypeForDatagramTarget frame packet_type first_sequence_number
      max_datagram_payload with
  | .error error => .error error
  | .ok packets =>
      .ok
        { frame := frame
          packet_type := packet_type
          first_sequence_number := first_sequence_number
          max_payload := max_datagram_payload - mediaPacketHeaderLen
          packets := packets
          packetized := by
            unfold packetizeFrameWithTypeForDatagramTarget at hpackets
            split at hpackets
            · cases hpackets
            · exact hpackets }

/-- The packet as it is sent at this time. -/
def stampSend (packet : MediaPacket) (sender_send_time_micros : UInt64) : MediaPacket :=
  { packet with header := { packet.header with sender_send_time_micros } }

/-- `send_media_packet`. -/
def sendMediaPacket (sending : UInt64 × Except String Unit) (packet : MediaPacket) :
    SendFlow Unit := do
  let packet := stampSend packet sending.1
  match packet.encode with
  | .error _ => throw "failed to encode media packet"
  | .ok _ =>
      liftExcept sending.2
      modify fun sender =>
        { sender with
          sent_packets := sender.sent_packets + 1
          log := sender.log ++ [MediaEvent.packet packet] }

/-- The loop over the packets of a frame, from the packet of this index on. -/
def sendPackets (send_datagram : SendDatagram) : Nat → List MediaPacket → SendFlow Unit
  | _, [] => return ()
  | index, packet :: packets => do
      sendMediaPacket (send_datagram index) packet
      sendPackets send_datagram (index + 1) packets

def sendFrame (packet_type : PacketType) (max_datagram_payload : Nat)
    (send_datagram : SendDatagram) (frame : EncodedFrame) : SendFlow Unit := do
  let sender ← get
  let sent ← liftExcept
    ((packetize frame packet_type sender.next_sequence_number max_datagram_payload).mapError
      FramePacketizeError.text)
  set { sender with
    next_sequence_number := sender.next_sequence_number + UInt32.ofNat sent.packets.length
    log := sender.log ++ [MediaEvent.frame sent] }
  sendPackets send_datagram 0 sent.packets
  modify fun sender => { sender with sent_frames := satSucc sender.sent_frames }

end MediaSender

/-! ## The contract of the log -/

def MediaEvent.frame? : MediaEvent → Option SentFrame
  | .frame sent => some sent
  | .packet _ => none
  | .keyframeDemanded => none

def MediaEvent.packet? : MediaEvent → Option MediaPacket
  | .frame _ => none
  | .packet taken => some taken
  | .keyframeDemanded => none

/-- An entry of a list that has been appended to is the new one or was there before. -/
theorem split_concat {α : Type} {before after l : List α} {x a : α}
    (h : l ++ [a] = before ++ x :: after) :
    (before = l ∧ x = a) ∨ ∃ after', after = after' ++ [a] ∧ l = before ++ x :: after' := by
  rcases List.eq_nil_or_concat after with rfl | ⟨after', b, rfl⟩
  · obtain ⟨hl, ha⟩ := List.append_inj' h rfl
    exact .inl ⟨hl.symm, (List.singleton_inj.mp ha).symm⟩
  · rw [List.concat_eq_append, ← List.cons_append, ← List.append_assoc] at h
    obtain ⟨hl, ha⟩ := List.append_inj' h rfl
    rw [List.concat_eq_append, List.singleton_inj.mp ha]
    exact .inr ⟨after', rfl, hl⟩

namespace MediaLog

def frames (log : List MediaEvent) : List SentFrame := log.filterMap MediaEvent.frame?

def packets (log : List MediaEvent) : List MediaPacket := log.filterMap MediaEvent.packet?

/-- The packets of the frames, as they were cut. -/
def cut (log : List MediaEvent) : List MediaPacket := (frames log).flatMap SentFrame.packets

/-- Whether a video frame is to be a keyframe next: the first one is, and the next one after a
demand. -/
def due (log : List MediaEvent) : Bool :=
  log.foldl
    (fun due event =>
      match event with
      | .frame _ => false
      | .packet _ => due
      | .keyframeDemanded => true)
    true

section Append

variable (log : List MediaEvent) (sent : SentFrame) (packet : MediaPacket)

@[simp] theorem frames_frame : frames (log ++ [.frame sent]) = frames log ++ [sent] :=
  List.filterMap_append

@[simp] theorem frames_packet : frames (log ++ [.packet packet]) = frames log :=
  List.filterMap_append.trans (List.append_nil _)

@[simp] theorem frames_demanded : frames (log ++ [.keyframeDemanded]) = frames log :=
  List.filterMap_append.trans (List.append_nil _)

@[simp] theorem packets_frame : packets (log ++ [.frame sent]) = packets log :=
  List.filterMap_append.trans (List.append_nil _)

@[simp] theorem packets_packet : packets (log ++ [.packet packet]) = packets log ++ [packet] :=
  List.filterMap_append

@[simp] theorem packets_demanded : packets (log ++ [.keyframeDemanded]) = packets log :=
  List.filterMap_append.trans (List.append_nil _)

@[simp] theorem cut_frame : cut (log ++ [.frame sent]) = cut log ++ sent.packets := by
  unfold cut
  rw [frames_frame, List.flatMap_append, List.flatMap_singleton]

@[simp] theorem cut_packet : cut (log ++ [.packet packet]) = cut log :=
  congrArg (List.flatMap SentFrame.packets) (frames_packet log packet)

@[simp] theorem cut_demanded : cut (log ++ [.keyframeDemanded]) = cut log :=
  congrArg (List.flatMap SentFrame.packets) (frames_demanded log)

@[simp] theorem due_frame : due (log ++ [.frame sent]) = false := by
  unfold due
  rw [List.foldl_append]
  rfl

@[simp] theorem due_packet : due (log ++ [.packet packet]) = due log := by
  unfold due
  rw [List.foldl_append]
  rfl

@[simp] theorem due_demanded : due (log ++ [.keyframeDemanded]) = true := by
  unfold due
  rw [List.foldl_append]
  rfl

end Append

theorem due_of_frames_eq_nil {log : List MediaEvent} (h : frames log = []) : due log = true := by
  induction log using List.reverseRecOn with
  | nil => rfl
  | append_singleton log event ih =>
      cases event with
      | frame sent => exact absurd h (by simp)
      | packet packet =>
          rw [due_packet]
          exact ih ((frames_packet log packet).symm.trans h)
      | keyframeDemanded => exact due_demanded log

theorem due_iff (log : List MediaEvent) :
    due log = true ↔
      frames log = [] ∨
        ∃ earlier later, log = earlier ++ .keyframeDemanded :: later ∧ frames later = [] := by
  induction log using List.reverseRecOn with
  | nil => exact iff_of_true rfl (.inl rfl)
  | append_singleton log event ih =>
      cases event with
      | frame sent =>
          rw [due_frame, frames_frame]
          refine iff_of_false Bool.false_ne_true (not_or.mpr ⟨by simp, ?_⟩)
          rintro ⟨earlier, later, hsplit, hlater⟩
          rcases split_concat hsplit with ⟨-, hsame⟩ | ⟨later, rfl, -⟩
          · cases hsame
          · rw [frames_frame] at hlater
            exact absurd hlater (by simp)
      | packet packet =>
          rw [due_packet, frames_packet, ih]
          refine or_congr Iff.rfl ⟨?_, ?_⟩
          · rintro ⟨earlier, later, rfl, hlater⟩
            refine ⟨earlier, later ++ [.packet packet], by simp, ?_⟩
            rw [frames_packet, hlater]
          · rintro ⟨earlier, later, hsplit, hlater⟩
            rcases split_concat hsplit with ⟨-, hsame⟩ | ⟨later, rfl, hlog⟩
            · cases hsame
            · rw [frames_packet] at hlater
              exact ⟨earlier, later, hlog, hlater⟩
      | keyframeDemanded =>
          rw [due_demanded]
          exact iff_of_true rfl (.inr ⟨log, [], rfl, rfl⟩)

/-- The log of the packets that were sent behind an earlier log. -/
def sentBehind (log : List MediaEvent) (taken : List MediaPacket) : List MediaEvent :=
  log ++ taken.map MediaEvent.packet

@[simp] theorem frames_sentBehind (log : List MediaEvent) (taken : List MediaPacket) :
    frames (sentBehind log taken) = frames log := by
  induction taken using List.reverseRecOn with
  | nil => rw [sentBehind, List.map_nil, List.append_nil]
  | append_singleton taken packet ih =>
      rw [sentBehind, List.map_append, ← List.append_assoc, List.map_singleton, frames_packet]
      exact ih

@[simp] theorem due_sentBehind (log : List MediaEvent) (taken : List MediaPacket) :
    due (sentBehind log taken) = due log := by
  induction taken using List.reverseRecOn with
  | nil => rw [sentBehind, List.map_nil, List.append_nil]
  | append_singleton taken packet ih =>
      rw [sentBehind, List.map_append, ← List.append_assoc, List.map_singleton, due_packet]
      exact ih

end MediaLog

/-- What kind of stream a broadcaster sends: the type of its packets, the ids of its frames in
order, and which frames are keyframes, by what was done before. -/
structure MediaStream where
  packet_type : PacketType
  frameId : Nat → UInt32
  keyframe : List MediaEvent → Bool

/-- What a broadcaster may do, and the packets of its frame that it has not sent yet. -/
inductive Broadcasts (stream : MediaStream) (max_datagram_payload : Nat) :
    List MediaEvent → List MediaPacket → Prop
  | nil : Broadcasts stream max_datagram_payload [] []
  | frame {log : List MediaEvent} {sent : SentFrame}
      (before : Broadcasts stream max_datagram_payload log [])
      (kind : sent.packet_type = stream.packet_type)
      (number : sent.first_sequence_number = 1 + UInt32.ofNat (MediaLog.cut log).length)
      (header : mediaPacketHeaderLen < max_datagram_payload)
      (payload : sent.max_payload = max_datagram_payload - mediaPacketHeaderLen)
      (id : sent.frame.frame_id = stream.frameId (MediaLog.frames log).length)
      (keyframe : sent.frame.is_keyframe = stream.keyframe log) :
      Broadcasts stream max_datagram_payload (log ++ [.frame sent]) sent.packets
  | packet {log : List MediaEvent} {fragment packet : MediaPacket} {rest : List MediaPacket}
      (before : Broadcasts stream max_datagram_payload log (fragment :: rest))
      (restamped : fragment.Restamped packet) :
      Broadcasts stream max_datagram_payload (log ++ [.packet packet]) rest
  | keyframeDemanded {log : List MediaEvent}
      (before : Broadcasts stream max_datagram_payload log []) :
      Broadcasts stream max_datagram_payload (log ++ [.keyframeDemanded]) []

/-- A packet of a frame fits into a datagram, whatever stamps it has. -/
theorem SentFrame.datagram_fits (sent : SentFrame) {fragment packet : MediaPacket}
    (hfragment : fragment ∈ sent.packets) (hrestamped : fragment.Restamped packet) :
    ∃ bytes, packet.encode = .ok bytes ∧
      bytes.length ≤ mediaPacketHeaderLen + sent.max_payload := by
  obtain ⟨bytes, hencode⟩ := encode_of_packetized sent.packetized fragment hfragment
  obtain ⟨hvalid, -⟩ := encode_ok_iff.mp hencode
  have hpayload : fragment.payload.length ≤ sent.max_payload := by
    rw [sent.packetized'.packets_eq, List.mem_map] at hfragment
    obtain ⟨i, -, rfl⟩ := hfragment
    exact sent.frame.length_fragmentPayload_le sent.max_payload i
  obtain ⟨stamps, rfl⟩ := hrestamped
  refine ⟨_, encode_ok_iff.mpr ⟨⟨?_, hvalid.payload_length⟩, rfl⟩, ?_⟩
  · exact ⟨hvalid.header.fragment, hvalid.header.layer, hvalid.header.probe⟩
  · rw [List.length_append, length_encode]
    exact Nat.add_le_add_left hpayload _

theorem exists_of_forall₂ {α β : Type} {R : α → β → Prop} {as : List α} {bs : List β}
    (h : List.Forall₂ R as bs) : ∀ b ∈ bs, ∃ a ∈ as, R a b := by
  induction h with
  | nil => exact fun b hb => absurd hb List.not_mem_nil
  | @cons a b as bs hab _ ih =>
      rw [List.forall_mem_cons]
      refine ⟨⟨a, List.mem_cons_self, hab⟩, fun b' hb' => ?_⟩
      obtain ⟨a', ha', hrel⟩ := ih b' hb'
      exact ⟨a', List.mem_cons_of_mem a ha', hrel⟩

theorem map_eq_map_of_forall₂ {α β γ : Type} {R : α → β → Prop} {as : List α} {bs : List β}
    (h : List.Forall₂ R as bs) {f : α → γ} {g : β → γ}
    (hsame : ∀ a ∈ as, ∀ b, R a b → f a = g b) : as.map f = bs.map g := by
  induction h with
  | nil => rfl
  | @cons a b as bs hab _ ih =>
      rw [List.forall_mem_cons] at hsame
      rw [List.map_cons, List.map_cons, hsame.1 b hab, ih hsame.2]

/-- The numbers of so many packets in a row. -/
def numbersFrom (first : UInt32) (count : Nat) : List UInt32 :=
  (List.range count).map fun i => first + UInt32.ofNat i

theorem numbersFrom_add (first : UInt32) (count more : Nat) :
    numbersFrom first (count + more)
      = numbersFrom first count ++ numbersFrom (first + UInt32.ofNat count) more := by
  unfold numbersFrom
  rw [List.range_add, List.map_append, List.map_map]
  refine congrArg _ (List.map_congr_left fun i _ => ?_)
  show first + UInt32.ofNat (count + i) = first + UInt32.ofNat count + UInt32.ofNat i
  rw [UInt32.ofNat_add, UInt32.add_assoc]

theorem SentFrame.numbers (sent : SentFrame) :
    sent.packets.map (fun packet => packet.header.sequence_number)
      = numbersFrom sent.first_sequence_number sent.packets.length := by
  rw [sent.packetized'.length_eq, sent.packetized'.packets_eq, List.map_map]
  rfl

namespace Broadcasts

open MediaLog

variable {stream : MediaStream} {max_datagram_payload : Nat} {log : List MediaEvent}
  {rest : List MediaPacket}

/-- What is on the wire are the packets of the frames up to the rest, with new stamps. -/
theorem sent_packets (h : Broadcasts stream max_datagram_payload log rest) :
    ∃ done, cut log = done ++ rest ∧ List.Forall₂ MediaPacket.Restamped done (packets log) := by
  induction h with
  | nil => exact ⟨[], rfl, .nil⟩
  | @frame log sent _ _ _ _ _ _ _ ih =>
      obtain ⟨done, hcut, hdone⟩ := ih
      rw [cut_frame, packets_frame, hcut, List.append_nil]
      exact ⟨done, rfl, hdone⟩
  | @packet log fragment packet rest _ hrestamped ih =>
      obtain ⟨done, hcut, hdone⟩ := ih
      rw [cut_packet, packets_packet, hcut, List.append_cons]
      exact ⟨done ++ [fragment], rfl, List.rel_append hdone (.cons hrestamped .nil)⟩
  | keyframeDemanded _ ih =>
      rw [cut_demanded, packets_demanded]
      exact ih

/-- What is still to be sent is the end of the last frame. -/
theorem rest_of_last (h : Broadcasts stream max_datagram_payload log rest) :
    rest = [] ∨ ∃ sent, (frames log).getLast? = some sent ∧ rest <:+ sent.packets := by
  induction h with
  | nil => exact .inl rfl
  | @frame log sent _ _ _ _ _ _ _ _ =>
      refine .inr ⟨sent, ?_, List.suffix_rfl⟩
      rw [frames_frame]
      exact List.getLast?_concat
  | @packet log fragment packet rest _ _ ih =>
      rw [frames_packet]
      obtain ⟨sent, hlast, hspan⟩ := ih.resolve_left (List.cons_ne_nil fragment rest)
      exact .inr ⟨sent, hlast, (List.suffix_cons fragment rest).trans hspan⟩
  | keyframeDemanded _ _ => exact .inl rfl

/-- The packets are numbered without a gap, also from one frame to the next. -/
theorem numbered (h : Broadcasts stream max_datagram_payload log rest) :
    (cut log).map (fun packet => packet.header.sequence_number)
      = numbersFrom 1 (cut log).length := by
  induction h with
  | nil => rfl
  | @frame log sent _ _ hnumber _ _ _ _ ih =>
      rw [cut_frame, List.map_append, ih, sent.numbers, hnumber, List.length_append,
        numbersFrom_add]
  | packet _ _ ih =>
      rw [cut_packet]
      exact ih
  | keyframeDemanded _ ih =>
      rw [cut_demanded]
      exact ih

/-- The numbers of the packets on the wire. -/
theorem packet_numbers (h : Broadcasts stream max_datagram_payload log rest) :
    (packets log).map (fun packet => packet.header.sequence_number)
      = numbersFrom 1 (packets log).length := by
  obtain ⟨done, hcut, hdone⟩ := h.sent_packets
  have hnumbers := h.numbered
  rw [hcut, List.map_append, List.length_append, numbersFrom_add] at hnumbers
  have hlength : (numbersFrom 1 done.length).length = done.length := by
    unfold numbersFrom
    rw [List.length_map, List.length_range]
  have hfirst := List.append_inj_left hnumbers (by rw [List.length_map, hlength])
  rw [← hdone.length_eq, ← hfirst]
  refine (map_eq_map_of_forall₂ hdone fun fragment _ packet hrestamped => ?_).symm
  obtain ⟨_, rfl⟩ := hrestamped
  rfl

theorem frame_shape (h : Broadcasts stream max_datagram_payload log rest) :
    ∀ sent ∈ frames log, sent.packet_type = stream.packet_type ∧
      mediaPacketHeaderLen + sent.max_payload = max_datagram_payload := by
  induction h with
  | nil => exact fun sent hsent => absurd hsent List.not_mem_nil
  | @frame log sent _ hkind _ hheader hpayload _ _ ih =>
      rw [frames_frame, List.forall_mem_append, List.forall_mem_singleton]
      exact ⟨ih, hkind, by omega⟩
  | packet _ _ ih =>
      rw [frames_packet]
      exact ih
  | keyframeDemanded _ ih =>
      rw [frames_demanded]
      exact ih

/-- No datagram is longer than the limit. -/
theorem datagrams_fit (h : Broadcasts stream max_datagram_payload log rest) :
    ∀ packet ∈ packets log, ∃ bytes, packet.encode = .ok bytes ∧
      bytes.length ≤ max_datagram_payload := by
  intro packet hpacket
  obtain ⟨done, hcut, hdone⟩ := h.sent_packets
  obtain ⟨fragment, hfragment, hrestamped⟩ := exists_of_forall₂ hdone packet hpacket
  have hmem : fragment ∈ cut log := by
    rw [hcut]
    exact List.mem_append_left rest hfragment
  obtain ⟨sent, hsent, hin⟩ := List.mem_flatMap.mp hmem
  obtain ⟨bytes, hencode, hlength⟩ := sent.datagram_fits hin hrestamped
  rw [(h.frame_shape sent hsent).2] at hlength
  exact ⟨bytes, hencode, hlength⟩

/-- The frames are the first, the second and so on that were captured. -/
theorem frame_ids (h : Broadcasts stream max_datagram_payload log rest) :
    (frames log).map SentFrame.id
      = (List.range (frames log).length).map fun count => stream.frameId count := by
  induction h with
  | nil => rfl
  | @frame log sent _ _ _ _ _ hid _ ih =>
      have hid : sent.id = stream.frameId (frames log).length := hid
      rw [frames_frame, List.map_append, ih, List.length_append, List.length_singleton,
        List.range_succ, List.map_append, List.map_singleton, List.map_singleton, hid]
  | packet _ _ ih =>
      rw [frames_packet]
      exact ih
  | keyframeDemanded _ ih =>
      rw [frames_demanded]
      exact ih

/-- Which frames are keyframes. -/
theorem keyframes (h : Broadcasts stream max_datagram_payload log rest) :
    ∀ before sent after, log = before ++ .frame sent :: after →
      sent.frame.is_keyframe = stream.keyframe before := by
  intro before sent after heq
  induction h generalizing after with
  | nil => exact absurd heq.symm (by simp)
  | frame _ _ _ _ _ _ hkeyframe ih =>
      rcases split_concat heq with ⟨rfl, hsame⟩ | ⟨after', -, hlog⟩
      · cases hsame
        exact hkeyframe
      · exact ih after' hlog
  | packet _ _ ih =>
      rcases split_concat heq with ⟨-, hsame⟩ | ⟨after', -, hlog⟩
      · cases hsame
      · exact ih after' hlog
  | keyframeDemanded _ ih =>
      rcases split_concat heq with ⟨-, hsame⟩ | ⟨after', -, hlog⟩
      · cases hsame
      · exact ih after' hlog

end Broadcasts

/-! ## Sending keeps the contract -/

namespace MediaSender

open MediaLog

/-- The sender between two of its calls, with the packets that are still to be sent. -/
structure Sends (stream : MediaStream) (max_datagram_payload : Nat) (rest : List MediaPacket)
    (sender : MediaSender) : Prop where
  log : Broadcasts stream max_datagram_payload sender.log rest
  number : sender.next_sequence_number = 1 + UInt32.ofNat (cut sender.log).length

/-- What holds wherever the loop ends. -/
def Stopped (stream : MediaStream) (max_datagram_payload : Nat) (_ : String)
    (sender : MediaSender) : Prop :=
  ∃ rest, Broadcasts stream max_datagram_payload sender.log rest

section Sending

variable {stream : MediaStream} {max_datagram_payload : Nat} {rest : List MediaPacket}
  {log : List MediaEvent} {sent_frames : UInt32}

theorem sendMediaPacket_triple (sending : UInt64 × Except String Unit) (packet : MediaPacket) :
    Triple
      (fun sender => Sends stream max_datagram_payload (packet :: rest) sender ∧
        sender.log = log ∧ sender.sent_frames = sent_frames)
      (sendMediaPacket sending packet)
      (fun _ sender => Sends stream max_datagram_payload rest sender ∧
        (∃ stamped, sender.log = log ++ [.packet stamped]) ∧ sender.sent_frames = sent_frames)
      (fun error sender => Stopped stream max_datagram_payload error sender ∧
        sender.log = log) := by
  rintro sender ⟨hsender, rfl, rfl⟩
  have hrestamped : packet.Restamped (stampSend packet sending.1) :=
    ⟨⟨sending.1, packet.header.server_receive_time_micros,
      packet.header.server_send_time_micros⟩, rfl⟩
  unfold sendMediaPacket
  generalize stampSend packet sending.1 = stamped at hrestamped ⊢
  dsimp only
  cases stamped.encode with
  | error error => exact ⟨⟨_, hsender.log⟩, rfl⟩
  | ok bytes =>
      rcases sending.2 with error | _
      · exact ⟨⟨_, hsender.log⟩, rfl⟩
      · have hlog := Broadcasts.packet hsender.log hrestamped
        refine ⟨⟨hlog, ?_⟩, ⟨stamped, rfl⟩, rfl⟩
        rw [cut_packet]
        exact hsender.number

theorem sendPackets_triple (send_datagram : SendDatagram) (packets : List MediaPacket)
    (index : Nat) :
    Triple
      (fun sender => Sends stream max_datagram_payload packets sender ∧
        sender.log = log ∧ sender.sent_frames = sent_frames)
      (sendPackets send_datagram index packets)
      (fun _ sender => Sends stream max_datagram_payload [] sender ∧
        (∃ taken, sender.log = sentBehind log taken) ∧ sender.sent_frames = sent_frames)
      (fun error sender => Stopped stream max_datagram_payload error sender ∧
        ∃ taken, sender.log = sentBehind log taken) := by
  induction packets generalizing index log with
  | nil =>
      rintro sender ⟨hsender, hlog, hframes⟩
      exact ⟨hsender, ⟨[], hlog.trans (List.append_nil log).symm⟩, hframes⟩
  | cons packet packets ih =>
      have hbehind : ∀ stamped taken, sentBehind (log ++ [.packet stamped]) taken
          = sentBehind log (stamped :: taken) := by
        intro stamped taken
        rw [sentBehind, List.append_assoc]
        rfl
      unfold sendPackets
      refine Triple.bind ((sendMediaPacket_triple _ packet).consequence (fun _ h => h)
        (fun _ _ h => h) ?_) fun _ => ?_
      · rintro error sender ⟨hstopped, hlog⟩
        exact ⟨hstopped, [], hlog.trans (List.append_nil log).symm⟩
      · rintro sender ⟨hsender, ⟨stamped, hlog⟩, hframes⟩
        refine (ih (index + 1)).consequence (fun _ h => h) ?_ ?_ sender ⟨hsender, hlog, hframes⟩
        · rintro _ after ⟨hafter, ⟨taken, htaken⟩, hframes⟩
          exact ⟨hafter, ⟨stamped :: taken, htaken.trans (hbehind stamped taken)⟩, hframes⟩
        · rintro error after ⟨hstopped, taken, htaken⟩
          exact ⟨hstopped, stamped :: taken, htaken.trans (hbehind stamped taken)⟩

theorem packetize_spec {frame : EncodedFrame} {packet_type : PacketType}
    {first_sequence_number : UInt32} {max_datagram_payload : Nat} {sent : SentFrame}
    (h : packetize frame packet_type first_sequence_number max_datagram_payload = .ok sent) :
    sent.frame = frame ∧ sent.packet_type = packet_type ∧
      sent.first_sequence_number = first_sequence_number ∧
      mediaPacketHeaderLen < max_datagram_payload ∧
      sent.max_payload = max_datagram_payload - mediaPacketHeaderLen := by
  unfold packetize at h
  split at h
  · cases h
  · next hpackets =>
      cases h
      refine ⟨rfl, rfl, rfl, ?_, rfl⟩
      unfold packetizeFrameWithTypeForDatagramTarget at hpackets
      split at hpackets
      · cases hpackets
      · next hheader => exact Nat.lt_of_not_le hheader

variable (stream log sent_frames) in
/-- A frame goes out whole, or the loop ends. -/
theorem sendFrame_triple (send_datagram : SendDatagram) (frame : EncodedFrame) :
    Triple
      (fun sender => Sends stream max_datagram_payload [] sender ∧
        frame.frame_id = stream.frameId (frames sender.log).length ∧
        frame.is_keyframe = stream.keyframe sender.log ∧
        sender.log = log ∧ sender.sent_frames = sent_frames)
      (sendFrame stream.packet_type max_datagram_payload send_datagram frame)
      (fun _ sender => Sends stream max_datagram_payload [] sender ∧
        (∃ sent taken, sent.frame = frame ∧
          sender.log = sentBehind (log ++ [.frame sent]) taken) ∧
        sender.sent_frames = satSucc sent_frames)
      (fun error sender => Stopped stream max_datagram_payload error sender ∧
        (sender.log = log ∨ ∃ sent taken, sent.frame = frame ∧
          sender.log = sentBehind (log ++ [.frame sent]) taken)) := by
  unfold sendFrame
  refine Triple.get_bind fun sender hsender => ?_
  obtain ⟨hsends, hid, hkeyframe, rfl, rfl⟩ := hsender
  rintro _ rfl
  rcases hcut : packetize frame stream.packet_type sender.next_sequence_number max_datagram_payload
    with error | sent
  · exact ⟨⟨[], hsends.log⟩, .inl rfl⟩
  · obtain ⟨rfl, hkind, hnumber, hheader, hpayload⟩ := packetize_spec hcut
    have hlog : Broadcasts stream max_datagram_payload (sender.log ++ [.frame sent])
        sent.packets :=
      hsends.log.frame hkind (hnumber.trans hsends.number) hheader hpayload hid hkeyframe
    rw [exec_bind_ok (by rw [exec_liftExcept]; rfl), exec_bind_ok (exec_set _ _)]
    refine Triple.bind ((sendPackets_triple send_datagram sent.packets 0).consequence
      (fun _ h => h) (fun _ _ h => h) ?_) (fun _ => ?_) _ ⟨⟨hlog, ?_⟩, rfl, rfl⟩
    · rintro error after ⟨hstopped, taken, htaken⟩
      exact ⟨hstopped, .inr ⟨sent, taken, rfl, htaken⟩⟩
    · refine Triple.modify ?_
      rintro after ⟨hafter, ⟨taken, htaken⟩, hframes⟩
      exact ⟨⟨hafter.log, hafter.number⟩, ⟨sent, taken, rfl, htaken⟩, congrArg satSucc hframes⟩
    · rw [hsends.number, cut_frame, List.length_append, UInt32.ofNat_add, UInt32.add_assoc]

end Sending

end MediaSender

end TeamView.Client
