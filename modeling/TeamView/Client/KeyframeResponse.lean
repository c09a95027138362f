import TeamView.Client.ScreenMedia
import TeamView.Relay.KeyframeRequests

set_option autoImplicit false

/-! # A demanded keyframe comes in time

The loop of the screen broadcaster (`run_screen_broadcaster_media_loop` in
`crates/desktop-client/src/main.rs`) with the relay at the other end of its connection. The sessions
of others go on between its turns. A keyframe that one of them demands waits at the relay for the
next poll of the loop, and the loop polls every `feedback_interval_frames` frames.
-/

namespace TeamView.Client

open TeamView.Protocol TeamView.Relay MachineInt Runs Flows

/-! ## The loop and its relay -/

/-- `poll_publisher_feedback`. -/
def ControlLink.pollPublisherFeedback (link : ControlLink) (room_id : RoomId)
    (stream_id : StreamId) : ControlLink × Except String PublisherFeedback :=
  let (link, response) := link.send (.pollPublisherFeedback ⟨room_id, stream_id⟩)
  (link,
    match response with
    | .publisherFeedback feedback => .ok feedback
    | .error error => .error s!"poll publisher feedback failed: {error.message}"
    | _ => .error "unexpected publisher feedback response")

/-- A loop with the connection to its relay. -/
structure ScreenCast where
  link : ControlLink
  loop : ScreenMediaLoop

/-- A turn of the loop, and what the relay handles before it. The requests of the loop other than
its polls for feedback are among that. -/
structure CastTurn extends ScreenMediaTurn where
  meanwhile : List ControlEvent

abbrev CastFlow (α : Type) : Type := Flow ScreenCast String α

namespace ScreenCast

variable (args : MediaArgs) (room_id : RoomId)

/-- A flow over the loop. -/
def onLoop {α : Type} (x : ScreenMediaFlow α) : CastFlow α :=
  within ScreenCast.loop (fun cast loop => { cast with loop }) x

/-- The relay handles what has come. -/
def handle (events : List ControlEvent) (cast : ScreenCast) : ScreenCast :=
  { cast with link := { cast.link with system := run ControlSystem.step cast.link.system events } }

/-- The loop asks the relay, which answers. -/
def askRelay (turn : CastTurn) : CastFlow Unit := do
  let cast ← get
  let (link, poll_publisher_feedback) :=
    cast.link.pollPublisherFeedback room_id args.stream_id
  set { cast with link }
  onLoop (ScreenMedia.askRelay { turn.toScreenMediaTurn with poll_publisher_feedback })

def captureAndSend (turn : CastTurn) : CastFlow Unit := do
  if ← onLoop (ScreenMedia.captureAndSendFrame args turn.toScreenMediaTurn) then
    askRelay args room_id turn
  onLoop ScreenMedia.nextTurn

def takeTurn (options : ScreenMediaRunOptions) (turn : CastTurn) : CastFlow Bool := do
  modify (handle turn.meanwhile)
  let cast ← get
  if ScreenMedia.goesOn options turn.toScreenMediaTurn cast.loop then
    captureAndSend args room_id turn
    return true
  else return false

def takeTurns (options : ScreenMediaRunOptions) : List CastTurn → CastFlow Bool
  | [] => return true
  | turn :: turns => do
      if ← takeTurn args room_id options turn then takeTurns options turns else return false

end ScreenCast

/-! ## The loop does what it does with these answers -/

namespace ScreenCast

variable {args : MediaArgs} {room_id : RoomId} {options : ScreenMediaRunOptions}

theorem mirrors_onLoop {α : Type} (x : ScreenMediaFlow α) (cast : ScreenCast) :
    Mirrors ScreenCast.loop x (onLoop x) cast :=
  Mirrors.within (fun _ _ => rfl) x cast

/-- What a turn sends does not depend on what the relay will answer. -/
theorem captureAndSendFrame_answer (turn : ScreenMediaTurn)
    (answer : Except String PublisherFeedback) :
    ScreenMedia.captureAndSendFrame args { turn with poll_publisher_feedback := answer }
      = ScreenMedia.captureAndSendFrame args turn := rfl

/-- The turn with the answer that the relay has for it. -/
def answered (args : MediaArgs) (room_id : RoomId) (turn : CastTurn) (link : ControlLink) :
    ScreenMediaTurn :=
  { turn.toScreenMediaTurn with
    poll_publisher_feedback := (link.pollPublisherFeedback room_id args.stream_id).2 }

theorem askRelay_mirrors (turn : CastTurn) (cast : ScreenCast) :
    Mirrors ScreenCast.loop (ScreenMedia.askRelay (answered args room_id turn cast.link))
      (askRelay args room_id turn) cast :=
  mirrors_onLoop (ScreenMedia.askRelay (answered args room_id turn cast.link))
    { cast with link := (cast.link.pollPublisherFeedback room_id args.stream_id).1 }

theorem captureAndSend_mirrors (turn : CastTurn) (cast : ScreenCast) :
    Mirrors ScreenCast.loop (ScreenMedia.captureAndSend args (answered args room_id turn cast.link))
      (captureAndSend args room_id turn) cast := by
  unfold captureAndSend ScreenMedia.captureAndSend
  rw [answered, captureAndSendFrame_answer, ← answered]
  refine Mirrors.bind (mirrors_onLoop _ _) fun asks cast' hsent => ?_
  have hlink : cast'.link = cast.link := by
    have hcast' := congrArg Prod.snd hsent
    rw [onLoop, exec_within] at hcast'
    exact (congrArg ScreenCast.link hcast').symm
  cases asks with
  | true =>
      rw [← hlink]
      exact Mirrors.bind (askRelay_mirrors turn cast') fun _ cast'' _ => mirrors_onLoop _ cast''
  | false => exact mirrors_onLoop _ cast'

/-- With the answer of the relay the loop takes its turn as it does anyway. -/
theorem takeTurn_mirrors (turn : CastTurn) (cast : ScreenCast) :
    Mirrors ScreenCast.loop
      (ScreenMedia.takeTurn args options
        (answered args room_id turn (handle turn.meanwhile cast).link))
      (takeTurn args room_id options turn) cast := by
  unfold takeTurn ScreenMedia.takeTurn Mirrors
  rw [exec_bind_ok (exec_modify _ _), exec_bind_ok (exec_get _), exec_bind_ok (exec_get _)]
  have hgoes : ScreenMedia.goesOn options
      (answered args room_id turn (handle turn.meanwhile cast).link) cast.loop
        = ScreenMedia.goesOn options turn.toScreenMediaTurn (handle turn.meanwhile cast).loop :=
    rfl
  rw [hgoes]
  split
  · exact Mirrors.bind (captureAndSend_mirrors turn (handle turn.meanwhile cast))
      fun _ cast' _ => Mirrors.pure true cast'
  · rfl

/-- The loop at its relay is the loop with some answers. -/
theorem takeTurns_mirrors (turns : List CastTurn) (cast : ScreenCast) :
    ∃ turns', Mirrors ScreenCast.loop (ScreenMedia.takeTurns args options turns')
      (takeTurns args room_id options turns) cast := by
  induction turns generalizing cast with
  | nil => exact ⟨[], rfl⟩
  | cons turn turns ih =>
      obtain ⟨turns', hrest⟩ := ih (exec (takeTurn args room_id options turn) cast).2
      refine ⟨answered args room_id turn (handle turn.meanwhile cast).link :: turns',
        Mirrors.bind (takeTurn_mirrors turn cast) fun more cast' hmore => ?_⟩
      cases more with
      | true =>
          rw [hmore] at hrest
          exact hrest
      | false => exact Mirrors.pure false cast'

/-! ## A demand waits for the next poll -/

open MediaLog

/-- The loop between two turns, with its relay. When something `waits`, it is a demand for a
keyframe of the stream. -/
structure Stands (args : MediaArgs) (log : List MediaEvent) (id : UInt32) (waits : Prop)
    (cast : ScreenCast) : Prop where
  reachable : cast.link.system.Reachable
  loop : ScreenMedia.Standing args log id cast.loop
  pending : waits → args.stream_id ∈ cast.link.system.control.pending_keyframe_requests

theorem Stands.weaken {log : List MediaEvent} {id : UInt32} {waits waits' : Prop}
    {cast : ScreenCast} (h : Stands args log id waits cast) (hwaits : waits' → waits) :
    Stands args log id waits' cast :=
  ⟨h.reachable, h.loop, fun hw => h.pending (hwaits hw)⟩

theorem Stands.idle {log : List MediaEvent} {id : UInt32} {waits : Prop} {cast : ScreenCast}
    (h : Stands args log id waits cast) : Stands args log id False cast :=
  h.weaken fun hnone => hnone.elim

/-- What happens to the loop leaves its relay alone. -/
theorem Stands.beside {log log' : List MediaEvent} {id id' : UInt32} {waits : Prop}
    {cast after : ScreenCast} (h : Stands args log id waits cast) (hlink : after.link = cast.link)
    (hloop : ScreenMedia.Standing args log' id' after.loop) : Stands args log' id' waits after := by
  refine ⟨?_, hloop, ?_⟩
  · rw [hlink]
    exact h.reachable
  · rw [hlink]
    exact h.pending

/-- What a pending demand makes of the answer to a poll. -/
theorem pollPublisherFeedback_pending {link : ControlLink} {r : RoomId} {s : StreamId}
    (hpending : s ∈ link.system.control.pending_keyframe_requests) {feedback : PublisherFeedback}
    (h : (link.pollPublisherFeedback r s).2 = .ok feedback) :
    feedback.keyframe_requested = true := by
  have hfeedback : link.system.feedbackFor
      (.envelope link.session link.clock
        (.new link.next_request_id (.pollPublisherFeedback ⟨r, s⟩)))
      s = some feedback := by
    unfold ControlLink.pollPublisherFeedback ControlLink.send at h
    dsimp only at h
    unfold ControlSystem.feedbackFor
    dsimp only
    split at h
    · next answer hanswer =>
        obtain rfl := Except.ok.inj h
        rw [hanswer]
        exact if_pos rfl
    · cases h
    · cases h
  obtain ⟨⟨_, rfl⟩, -⟩ := ControlSystem.step_of_feedbackFor hfeedback
  have hcontains := Std.ExtTreeMap.contains_iff_mem.mpr hpending
  show (ControlState.demandsKeyframe _ s || ControlState.changesResolution _ s) = true
  unfold ControlState.demandsKeyframe
  rw [hcontains]
  rfl

/-- What the relay does meanwhile leaves the stream published, and nobody else polls for it. -/
def Calm (s : StreamId) (cast : ScreenCast) (turn : CastTurn) : Prop :=
  Meets ControlSystem.step (ControlSystem.Undisturbed s) cast.link.system turn.meanwhile

/-- What a flow over the loop does, with the connection beside it. -/
theorem onLoop_triple {α : Type} {x : ScreenMediaFlow α} {pre : ScreenMediaLoop → Prop}
    {post : α → ScreenMediaLoop → Prop} {fault : String → ScreenMediaLoop → Prop}
    (hx : Triple pre x post fault) (link : ControlLink) :
    Triple (fun cast => cast.link = link ∧ pre cast.loop) (onLoop x)
      (fun a cast => cast.link = link ∧ post a cast.loop) (fun _ _ => True) := by
  refine Triple.within fun cast hcast => ?_
  obtain ⟨hlink, hpre⟩ := hcast
  refine hx.consequence ?_ (fun _ _ h => ⟨hlink, h⟩) (fun _ _ _ => True.intro)
  rintro _ rfl
  exact hpre

section Turns

variable {log : List MediaEvent} {id : UInt32} {waits : Prop} {turn : CastTurn}

theorem Stands.handle {cast : ScreenCast} (h : Stands args log id waits cast)
    (hcalm : waits → Calm args.stream_id cast turn) :
    Stands args log id waits (handle turn.meanwhile cast) := by
  refine ⟨?_, h.loop, fun hwaits => ?_⟩
  · exact run_induction ControlSystem.step (P := ControlSystem.Reachable)
      (fun _ event hsystem => Runs.Reachable.after hsystem event) h.reachable turn.meanwhile
  · exact (Meets.induction
      (P := fun system => system.Reachable ∧
        args.stream_id ∈ system.control.pending_keyframe_requests)
      (fun system event hevent hsystem => ⟨Runs.Reachable.after hsystem.1 event,
        ControlSystem.step_keeps_request
          (ControlSystem.reachable_roomInvariant hsystem.1).toRoomsOk hevent hsystem.2⟩)
      ⟨h.reachable, h.pending hwaits⟩ (hcalm hwaits)).2

/-- A demand that waited is due after a poll. -/
theorem askRelay_triple :
    Triple (Stands args log id waits) (askRelay args room_id turn)
      (fun _ cast => ∃ log', Stands args log' id False cast ∧ frames log' = frames log ∧
        (waits → due log' = true)) (fun _ _ => True) := by
  unfold askRelay
  refine Triple.get_bind fun cast hcast => ?_
  rintro _ rfl
  dsimp only
  rw [exec_bind_ok (exec_set _ _)]
  generalize hpoll : cast.link.pollPublisherFeedback room_id args.stream_id = polled
  obtain ⟨link, answer⟩ := polled
  have hlink : link.system.Reachable := by
    have hreach := ControlLink.send_reachable hcast.reachable
      (.pollPublisherFeedback ⟨room_id, args.stream_id⟩)
    exact congrArg (fun polled => polled.1.system) hpoll ▸ hreach
  have hasks : Triple (ScreenMedia.Standing args log id)
      (ScreenMedia.askRelay
        { turn.toScreenMediaTurn with poll_publisher_feedback := answer })
      (fun _ loop => ∃ log', ScreenMedia.Standing args log' id loop ∧ frames log' = frames log ∧
        (waits → due log' = true)) (ScreenMedia.Stopped args) := by
    cases answer with
    | error message => exact fun loop hloop => hloop.stopped message
    | ok feedback =>
        refine ScreenMedia.askRelay_triple.consequence (fun _ h => h) ?_ (fun _ _ h => h)
        rintro _ loop ⟨log', hloop, hframes, hdue⟩
        refine ⟨log', hloop, hframes, fun hwaits => hdue (.inr ⟨feedback, rfl, ?_⟩)⟩
        exact pollPublisherFeedback_pending (hcast.pending hwaits) (congrArg Prod.snd hpoll)
  refine (onLoop_triple hasks link).consequence (fun _ h => h) ?_ (fun _ _ h => h) _
    ⟨rfl, hcast.loop⟩
  rintro _ after ⟨hafter, log', hloop, hframes, hdue⟩
  refine ⟨log', ⟨?_, hloop, fun h => h.elim⟩, hframes, hdue⟩
  rw [hafter]
  exact hlink

/-- One more frame has been sent, a keyframe when one was due, and a demand that waited is due
unless the relay was not asked. -/
def Turned (args : MediaArgs) (log : List MediaEvent) (id : UInt32) (waits : Prop)
    (cast : ScreenCast) : Prop :=
  ∃ log' sent,
    Stands args log' (satSucc id) (waits ∧ args.feedbackDue id = false) cast ∧
      frames log' = frames log ++ [sent] ∧ sent.frame.is_keyframe = due log ∧
      (waits → args.feedbackDue id = true → due log' = true)

theorem nextTurn_triple :
    Triple (Stands args log id waits) (onLoop ScreenMedia.nextTurn)
      (fun _ => Stands args log (satSucc id) waits) (fun _ _ => True) := by
  refine Triple.from_each fun cast hcast => ?_
  have hnext : Triple (ScreenMedia.Standing args log id) ScreenMedia.nextTurn
      (fun _ => ScreenMedia.Standing args log (satSucc id)) (ScreenMedia.Stopped args) :=
    ScreenMedia.nextTurn_triple
  refine (onLoop_triple hnext cast.link).consequence ?_ ?_ (fun _ _ _ => True.intro)
  · rintro _ rfl
    exact ⟨rfl, hcast.loop⟩
  · rintro _ after ⟨hlink, hloop⟩
    exact hcast.beside hlink hloop

theorem captureAndSendFrame_triple :
    Triple (Stands args log id waits)
      (onLoop (ScreenMedia.captureAndSendFrame args turn.toScreenMediaTurn))
      (fun asks cast => asks = args.feedbackDue id ∧ ∃ log' sent, Stands args log' id waits cast ∧
        frames log' = frames log ++ [sent] ∧ sent.frame.is_keyframe = due log)
      (fun _ _ => True) := by
  refine Triple.from_each fun cast hcast => ?_
  have hsends : Triple (ScreenMedia.Standing args log id)
      (ScreenMedia.captureAndSendFrame args turn.toScreenMediaTurn)
      (fun asks loop => asks = args.feedbackDue id ∧ ScreenMedia.Sent args log id loop)
      (ScreenMedia.Stopped args) := ScreenMedia.captureAndSendFrame_triple
  refine (onLoop_triple hsends cast.link).consequence ?_ ?_ (fun _ _ _ => True.intro)
  · rintro _ rfl
    exact ⟨rfl, hcast.loop⟩
  · rintro asks after ⟨hlink, hasks, log', sent, hloop, hsent⟩
    exact ⟨hasks, log', sent, hcast.beside hlink hloop, hsent⟩

theorem captureAndSend_triple :
    Triple (Stands args log id waits) (captureAndSend args room_id turn)
      (fun _ => Turned args log id waits) (fun _ _ => True) := by
  unfold captureAndSend
  refine Triple.bind captureAndSendFrame_triple fun asks => ?_
  refine Triple.from_each fun sending hsending => ?_
  obtain ⟨hasks, log', sent, hsending, hframes, hkeyframe⟩ := hsending
  rintro _ rfl
  cases asks with
  | true =>
      refine Triple.bind askRelay_triple (fun _ => ?_) sending hsending
      refine Triple.from_each fun asked hasked => ?_
      obtain ⟨log'', hasked, hsame, hdue⟩ := hasked
      refine nextTurn_triple.consequence (fun _ h => h ▸ hasked) ?_ (fun _ _ h => h)
      rintro _ after hafter
      refine ⟨log'', sent, hafter.weaken ?_, hsame.trans hframes, hkeyframe, fun h _ => hdue h⟩
      rintro ⟨-, hnot⟩
      rw [← hasks] at hnot
      cases hnot
  | false =>
      have hnext : Triple (Stands args log' id waits) (onLoop ScreenMedia.nextTurn)
          (fun _ => Turned args log id waits) (fun _ _ => True) := by
        refine nextTurn_triple.consequence (fun _ h => h) ?_ (fun _ _ h => h)
        rintro _ after hafter
        refine ⟨log', sent, hafter.weaken fun h => h.1, hframes, hkeyframe, fun _ hasked => ?_⟩
        rw [← hasks] at hasked
        cases hasked
      exact hnext sending hsending

theorem takeTurn_triple (options : ScreenMediaRunOptions) :
    Triple (fun cast => Stands args log id waits cast ∧ (waits → Calm args.stream_id cast turn))
      (takeTurn args room_id options turn)
      (fun more cast => more = true → Turned args log id waits cast) (fun _ _ => True) := by
  unfold takeTurn
  have hmeanwhile : Triple
      (fun cast => Stands args log id waits cast ∧ (waits → Calm args.stream_id cast turn))
      (modify (handle turn.meanwhile) : CastFlow PUnit) (fun _ => Stands args log id waits)
      (fun _ _ => True) :=
    Triple.modify fun _ h => h.1.handle h.2
  refine Triple.bind hmeanwhile fun _ => ?_
  refine Triple.get_bind fun cast hcast => ?_
  split
  · have hgoes : Triple (Stands args log id waits)
        (do captureAndSend args room_id turn; return true)
        (fun more cast => more = true → Turned args log id waits cast) (fun _ _ => True) :=
      Triple.bind captureAndSend_triple fun _ _ hafter _ => hafter
    rintro _ rfl
    exact hgoes cast hcast
  · exact fun _ _ h => by cases h

end Turns

/-! ## The answer to a demand -/

/-- The id of the turn behind so many frames. -/
def turnAfter (count : Nat) : UInt32 := UInt32.ofNat (min (count + 1) u32Max)

/-- The loop stands where its frames say, with its relay. -/
def StandsAfter (args : MediaArgs) (sent : List SentFrame) (cast : ScreenCast) : Prop :=
  ∃ log, Stands args log (turnAfter (frames log).length) False cast ∧ frames log = sent

section Run

variable {cast after : ScreenCast} {turn : CastTurn} {turns : List CastTurn}

/-- What a turn does that the loop goes on after. -/
theorem turned_of_exec {log : List MediaEvent} {waits : Prop}
    (hcast : Stands args log (turnAfter (frames log).length) waits cast)
    (hcalm : waits → Calm args.stream_id cast turn)
    (hrun : exec (takeTurn args room_id options turn) cast = (.ok true, after)) :
    ∃ log' sent,
      Stands args log' (turnAfter (frames log').length)
        (waits ∧ args.feedbackDue (turnAfter (frames log).length) = false) after ∧
      frames log' = frames log ++ [sent] ∧ sent.frame.is_keyframe = due log ∧
      (waits → args.feedbackDue (turnAfter (frames log).length) = true → due log' = true) := by
  obtain ⟨log', sent, hafter, hframes, hsent⟩ :=
    (takeTurn_triple options).of_exec ⟨hcast, hcalm⟩ hrun rfl
  refine ⟨log', sent, ?_, hframes, hsent⟩
  have hid : satSucc (turnAfter (frames log).length) = turnAfter (frames log').length := by
    rw [hframes, List.length_append]
    exact satSucc_counted ((frames log).length + 1)
  rw [← hid]
  exact hafter

/-- Every turn that the loop goes on after sends a frame. -/
theorem frames_of_exec {sent : List SentFrame} (hcast : StandsAfter args sent cast)
    (hrun : exec (takeTurns args room_id options turns) cast = (.ok true, after)) :
    ∃ new, StandsAfter args (sent ++ new) after ∧ new.length = turns.length := by
  induction turns generalizing cast sent with
  | nil =>
      cases hrun
      exact ⟨[], (List.append_nil sent).symm ▸ hcast, rfl⟩
  | cons turn turns ih =>
      obtain ⟨more, next, hfirst, hrest⟩ := exec_bind_eq_ok_iff.mp hrun
      cases more with
      | false => cases hrest
      | true =>
          obtain ⟨log, hstands, rfl⟩ := hcast
          obtain ⟨log', first, hnext, hframes, -⟩ :=
            turned_of_exec hstands (fun h => h.elim) hfirst
          obtain ⟨new, hafter, hlength⟩ := ih ⟨log', hnext.idle, rfl⟩ hrest
          refine ⟨first :: new, ?_, congrArg (· + 1) hlength⟩
          rw [List.append_cons, ← hframes]
          exact hafter

variable (options) in
/-- The state after a turn. -/
def castStep (args : MediaArgs) (room_id : RoomId) (cast : ScreenCast) (turn : CastTurn) :
    ScreenCast :=
  (exec (takeTurn args room_id options turn) cast).2

/-- The demand that waits is answered one frame after the next poll. -/
theorem answered_after {log : List MediaEvent} {wait : Nat}
    (hcast : Stands args log (turnAfter (frames log).length) True cast)
    (hpoll : args.feedbackDue (turnAfter ((frames log).length + wait)) = true)
    (hmany : wait + 2 ≤ turns.length)
    (hcalm : Meets (castStep options args room_id) (Calm args.stream_id) cast turns)
    (hrun : exec (takeTurns args room_id options turns) cast = (.ok true, after)) :
    ∃ new, StandsAfter args (frames log ++ new) after ∧
      ∃ sent ∈ new.take (wait + 2), sent.frame.is_keyframe = true := by
  induction turns generalizing cast log wait with
  | nil => exact absurd hmany (by simp)
  | cons turn turns ih =>
      obtain ⟨more, next, hfirst, hrest⟩ := exec_bind_eq_ok_iff.mp hrun
      cases more with
      | false => cases hrest
      | true =>
          obtain ⟨log', first, hnext, hframes, -, hdue⟩ :=
            turned_of_exec hcast (fun _ => hcalm.1) hfirst
          cases hasked : args.feedbackDue (turnAfter (frames log).length) with
          | true =>
              -- the keyframe is the frame of the next turn
              cases turns with
              | nil => exact absurd hmany (by simp)
              | cons second turns =>
                  obtain ⟨more, third, hsecond, hrest⟩ := exec_bind_eq_ok_iff.mp hrest
                  cases more with
                  | false => cases hrest
                  | true =>
                      obtain ⟨log'', answer, hthird, hframes', hkeyframe, -⟩ :=
                        turned_of_exec hnext.idle (fun h => h.elim) hsecond
                      obtain ⟨new, hafter, -⟩ :=
                        frames_of_exec ⟨log'', hthird.idle, rfl⟩ hrest
                      refine ⟨first :: answer :: new, ?_, answer, ?_, ?_⟩
                      · rw [List.append_cons, ← hframes, List.append_cons, ← hframes']
                        exact hafter
                      · simp
                      · rw [hkeyframe]
                        exact hdue True.intro hasked
          | false =>
              cases wait with
              | zero =>
                  rw [Nat.add_zero, hasked] at hpoll
                  cases hpoll
              | succ wait =>
                  have hstep : castStep options args room_id cast turn = next :=
                    congrArg Prod.snd hfirst
                  have hlength : (frames log').length + wait
                      = (frames log).length + (wait + 1) := by
                    rw [hframes, List.length_append, List.length_singleton]
                    omega
                  obtain ⟨new, hafter, sent, hsent, hkeyframe⟩ :=
                    ih (hnext.weaken fun _ => ⟨True.intro, hasked⟩) (hlength ▸ hpoll)
                      (Nat.le_of_succ_le_succ hmany) (hstep ▸ hcalm.2) hrest
                  refine ⟨first :: new, ?_, sent, List.mem_cons_of_mem first hsent, hkeyframe⟩
                  rw [List.append_cons, ← hframes]
                  exact hafter

/-- The loop polls before it has sent another `feedback_interval_frames` frames. -/
theorem exists_poll {interval : Nat} (hinterval : 0 < interval) (count : Nat) :
    ∃ wait < interval, (count + wait + 1) % interval = 0 := by
  have hrest := Nat.mod_lt count hinterval
  have hsplit := Nat.div_add_mod count interval
  have hnext : count + (interval - 1 - count % interval) + 1
      = interval * (count / interval + 1) := by
    rw [Nat.mul_add, Nat.mul_one]
    omega
  refine ⟨interval - 1 - count % interval, by omega, ?_⟩
  rw [hnext, Nat.mul_mod_right]

theorem feedbackDue_turnAfter {count : Nat} (hcount : count + 1 ≤ u32Max)
    (hinterval : 0 < args.feedback_interval_frames)
    (hpoll : (count + 1) % args.feedback_interval_frames.toNat = 0) :
    args.feedbackDue (turnAfter count) = true := by
  have hid : (turnAfter count).toNat = count + 1 := by
    unfold turnAfter
    rw [Nat.min_eq_left hcount, UInt32.toNat_ofNat']
    exact Nat.mod_eq_of_lt (Nat.lt_of_le_of_lt hcount (by decide))
  unfold MediaArgs.feedbackDue
  rw [hid, hpoll, decide_eq_true hinterval]
  rfl

theorem StandsAfter.frames {sent : List SentFrame} (h : StandsAfter args sent cast) :
    MediaLog.frames cast.loop.sender.log = sent := by
  obtain ⟨log, hstands, hframes⟩ := h
  rw [hstands.loop.log, hframes]

/-- When a session demands a keyframe while a screen is broadcast, a keyframe is among the next
`feedback_interval_frames + 1` frames that the broadcaster sends, whatever the other sessions do in
between, unless they take the stream away or poll in the place of its publisher. The loop polls at
all (`hinterval`), and the 32-bit count of its turns has not run out before the poll that is due
(`hcount`). -/
theorem keyframe_demand_answered {platform : Platform} {loop : ScreenMediaLoop}
    (hstart : ScreenMediaLoop.start args platform = .ok loop) {link : ControlLink}
    (hlink : link.system.Reachable) (hinterval : 0 < args.feedback_interval_frames)
    {earlier later : List CastTurn}
    (hearlier : exec (takeTurns args room_id options earlier) ⟨link, loop⟩ = (.ok true, cast))
    {demand : ControlEvent}
    (hdemand : ControlSystem.Demand cast.link.system args.stream_id demand)
    (hcalm : Meets (castStep options args room_id) (Calm args.stream_id) (handle [demand] cast)
      later)
    (hlater : exec (takeTurns args room_id options later) (handle [demand] cast)
      = (.ok true, after))
    (hmany : args.feedback_interval_frames.toNat < later.length)
    (hcount : earlier.length + args.feedback_interval_frames.toNat ≤ u32Max) :
    ∃ new,
      MediaLog.frames after.loop.sender.log = MediaLog.frames cast.loop.sender.log ++ new ∧
      ∃ sent ∈ new.take (args.feedback_interval_frames.toNat + 1),
        sent.frame.is_keyframe = true := by
  have hfirst : StandsAfter args [] ⟨link, loop⟩ :=
    ⟨[], ⟨hlink, ScreenMedia.standing_start hstart, fun h => h.elim⟩, rfl⟩
  obtain ⟨sent, hcast, hlength⟩ := frames_of_exec hfirst hearlier
  rw [List.nil_append] at hcast
  have hframes := hcast.frames
  obtain ⟨log, hstands, rfl⟩ := hcast
  have hdemanded : Stands args log (turnAfter (MediaLog.frames log).length) True
      (handle [demand] cast) := by
    refine ⟨Runs.Reachable.after hstands.reachable demand, hstands.loop, fun _ => ?_⟩
    exact ControlSystem.demand_fills
      (ControlSystem.reachable_roomInvariant hstands.reachable).toRoomsOk hdemand
  obtain ⟨wait, hwait, hpoll⟩ := exists_poll (UInt32.lt_iff_toNat_lt.mp hinterval)
    (MediaLog.frames log).length
  rw [← hlength] at hcount
  obtain ⟨new, hafter, answer, hanswer, hkeyframe⟩ :=
    answered_after hdemanded (feedbackDue_turnAfter (by omega) hinterval hpoll) (by omega) hcalm
      hlater
  refine ⟨new, ?_, answer, ?_, hkeyframe⟩
  · rw [hafter.frames, hframes]
  · exact (List.take_sublist_take_left (by omega)).subset hanswer

end Run

/-- A small screen that is broadcast as the stream 7, with a poll after every frame. -/
def castArgs : MediaArgs where
  toUiArgs :=
    { syntheticArgs 30 with
      room_id := none
      channel_id := none
      room_name := defaultChannelName
      channel_name := none
      mode := .broadcaster
      screen_input := .live
      voice_stream_id := none
      media_frame_bytes := 64
      voice_frame_bytes := 64
      muted := false
      deafened := false
      push_to_talk := false
      ptt_active := false }
  video_encoder := .synthetic
  max_datagram_payload := 1200
  feedback_interval_frames := 1

def castPlatform : Platform := ⟨true, fun _ => .ok (1, 1), .ok 0⟩

/-- A turn in which everything answers. -/
def castTurn (meanwhile : List ControlEvent) : CastTurn where
  stop_before_tick := false
  stop_after_tick := false
  screen := .ok ⟨1, 1, 0, [0, 0, 0, 0]⟩
  capture_time_micros := 0
  refresh_if_due := .ok 0
  encode_done_time_micros := 0
  send_datagram _ := (0, .ok ())
  poll_publisher_feedback := .error "not asked"
  set_screen_stream_config := .ok ()
  poll_remote_input := .ok ()
  meanwhile := meanwhile

/-- The publisher of the watched screen wants few bits. -/
def fewBits : ControlEvent := .ask 0 (.setTargetBitrate ⟨1, 7, 16000⟩)

/-- The relay behind the connection of the publisher. -/
def watchedLink : ControlLink where
  system := ControlSystem.watchingSystem.step fewBits
  session := 0
  clock := ⟨0, 0⟩
  next_request_id := 9

def castOptions : ScreenMediaRunOptions := ⟨none, false⟩

/-- The start of the loop. -/
def castLoop : ScreenMediaLoop where
  capture := ⟨.primaryMonitor, ⟨1⟩, .new 1, 1⟩
  broadcaster := ⟨.synthetic ⟨⟨1, 1, 30, 15360, 64⟩, true⟩, 30, 1, 1, 33333⟩
  frame_id := 1
  sender := .new

/-- Three frames before the demand: the first of the broadcast, the one that answers the viewer's
subscription, and one that is no keyframe. -/
def castBefore : Except String Bool × ScreenCast :=
  exec (takeTurns castArgs 1 castOptions [castTurn [], castTurn [], castTurn []])
    ⟨watchedLink, castLoop⟩

/-- The loop when the viewer of the watched screen has asked for a keyframe. -/
def castDemanded : ScreenCast := handle [ControlSystem.viewerDemand] castBefore.2

/-- The viewer leaves after its demand. -/
def castLater : List CastTurn := [castTurn [.ask 1 (.leaveRoom ⟨1⟩)], castTurn []]

def castAfter : Except String Bool × ScreenCast :=
  exec (takeTurns castArgs 1 castOptions castLater) castDemanded

/-- The frame after the demand is sent before the poll, and the one after the poll is a keyframe. -/
theorem keyframe_demand_answered_leaving :
    (MediaLog.frames castAfter.2.loop.sender.log).map (·.frame.is_keyframe)
        = [true, true, false, false, true] ∧
      ∃ new,
        MediaLog.frames castAfter.2.loop.sender.log
            = MediaLog.frames castBefore.2.loop.sender.log ++ new ∧
          ∃ sent ∈ new.take 2, sent.frame.is_keyframe = true := by
  refine ⟨by decide +kernel, ?_⟩
  have hstart : ScreenMediaLoop.start castArgs castPlatform = .ok castLoop := rfl
  have hearlier : castBefore.1 = .ok true := by decide +kernel
  have hruns : castAfter.1 = .ok true := by decide +kernel
  have hdemand : ControlSystem.Demand castBefore.2.link.system 7 ControlSystem.viewerDemand :=
    .requested 1 ⟨0, 0⟩ _ ⟨1, 7, .packetLoss⟩ rfl rfl (by decide +kernel)
  have hstays : ((castDemanded.link.system.step (.ask 1 (.leaveRoom ⟨1⟩))).control.publishedStream
      7).isSome = true := by decide +kernel
  have hcalm : Meets (castStep castOptions castArgs 1) (Calm 7) castDemanded castLater := by
    obtain ⟨stream, hstream⟩ := Option.isSome_iff_exists.mp hstays
    obtain ⟨r, room, hroom, hget⟩ := ControlState.get_of_publishedStream hstream
    exact ⟨⟨⟨rfl, r, stream, room, hroom, hget⟩, True.intro⟩, True.intro, True.intro⟩
  have hlink : watchedLink.system.Reachable :=
    Runs.Reachable.after ControlSystem.watchingSystem_reachable fewBits
  have hbefore : castBefore = (castBefore.1, castBefore.2) := (Prod.eta _).symm
  rw [hearlier] at hbefore
  have hlater : castAfter = (castAfter.1, castAfter.2) := (Prod.eta _).symm
  rw [hruns] at hlater
  exact keyframe_demand_answered hstart hlink (by decide) hbefore hdemand hcalm hlater (by decide)
    (by decide)

end ScreenCast

end TeamView.Client
