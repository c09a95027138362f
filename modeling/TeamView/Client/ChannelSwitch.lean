import TeamView.Client.UiFlows

set_option autoImplicit false

/-! # Switching channels

A switch gives up the old channel before it enters the new one, and does not go back. So it is
atomic (`Atomic`) except where the old channel is left and the relay does not let the client into
the new one, or an answer on the way is lost (`Strands`). Meanwhile the others may do anything
at the relay but act for this client.
-/

namespace TeamView.Client

open TeamView.Protocol TeamView.Relay TeamView.Relay.ControlState BTree Runs Flows

namespace UiServer

variable {w w' : UiWorld} {i : Nat} {u : UserId} {channel_id p : RoomId}

/-! ## The switch -/

/-- What a switch promises: after a failure the selection stands and the client is where it was,
and after a success it is in the new channel, which is selected. -/
def Atomic (u : UserId) (channel_id : RoomId) (w : UiWorld) :
    Except String Unit × UiWorld → Prop
  | (.error _, w') =>
      w'.state.selected_channel_id = w.state.selected_channel_id ∧
        ∀ previous, w.state.selected_channel_id = some previous →
          w.link.system.control.Participates previous u →
            w'.link.system.control.Participates previous u
  | (.ok (), w') =>
      w'.state.selected_channel_id = some channel_id ∧
        w'.link.system.control.Participates channel_id u

/-- Both requests that enter the channel will be answered, and there will be a place. -/
def Admits (u : UserId) (channel_id : RoomId) (link : ControlLink) (rounds : List Round) : Prop :=
  ∃ join voice rest, rounds = join :: voice :: rest ∧ join.fate = .answered ∧
    voice.fate = .answered ∧ (link.waited join.others).system.control.HasPlace channel_id u

/-- The relay after the channels were listed. -/
def afterList (link : ControlLink) (list : Round) : ControlLink :=
  ((link.waited list.others).send .listRooms).1

/-- The relay after the previous channel was left. -/
def afterLeave (link : ControlLink) (leave : Round) (previous : RoomId) : ControlLink :=
  ((link.waited leave.others).send (.leaveRoom ⟨previous⟩)).1

/-- No task holds the client back, the new channel is listed, the request to leave the old one
gets through, and then the client is not let into the new one. -/
def Strands (u : UserId) (channel_id : RoomId) (w : UiWorld) : Prop :=
  ∃ previous list leave rest,
    (w.state.screenMediaActive || w.state.voiceMediaActive) = false ∧
    w.state.selected_channel_id = some previous ∧ previous ≠ channel_id ∧
    w.link.system.control.Participates previous u ∧
    w.rounds = list :: leave :: rest ∧ list.fate = .answered ∧ leave.fate ≠ .requestLost ∧
    channel_id ∈ (w.link.waited list.others).system.control.rooms ∧
    ¬ Admits u channel_id (afterLeave (afterList w.link list) leave previous) rest

/-! ## What the moves keep -/

/-- The client is past the gate and in the room. -/
def In (u : UserId) (p : RoomId) (link : ControlLink) : Prop :=
  link.Authorized u ∧ link.system.control.Participates p u

/-- The client is past the gate and not in the room. -/
def Out (u : UserId) (p : RoomId) (link : ControlLink) : Prop :=
  link.Authorized u ∧ ¬ link.system.control.Participates p u

theorem keptByOthers_authorized {E : ControlEvent → Prop} :
    KeptByOthers E i u (ControlLink.Authorized · u) :=
  fun _ _ hauth event _ => hauth.step event

theorem keptByOthers_in : KeptByOthers (ControlSystem.Foreign i u) i u (In u p) := by
  rintro link h ⟨hauth, hin⟩ event hforeign
  exact ⟨hauth.step event, ControlSystem.step_participates h.reachable h.user hforeign hin⟩

theorem keptByOthers_out : KeptByOthers (ControlSystem.Foreign i u) i u (Out u p) := by
  rintro link h ⟨hauth, hout⟩ event hforeign
  exact ⟨hauth.step event, ControlSystem.step_not_participates h.reachable h.user hforeign hout⟩

theorem join_keeps_in : KeptByRequest i u (In u p) (.joinRoom ⟨channel_id⟩) := by
  rintro link h ⟨hauth, hin⟩
  refine ⟨hauth.send _, ?_⟩
  by_cases hplace : link.system.control.HasPlace channel_id u
  · obtain ⟨hjoined, -, hothers⟩ := h.join_of_place hauth hplace
    by_cases hp : p = channel_id
    · rw [hp]
      exact hjoined
    · exact (hothers p hp).mpr hin
  · rw [(h.join_of_no_place hplace).1]
    exact hin

theorem join_keeps_out (hne : p ≠ channel_id) :
    KeptByRequest i u (Out u p) (.joinRoom ⟨channel_id⟩) := by
  rintro link h ⟨hauth, hout⟩
  refine ⟨hauth.send _, ?_⟩
  by_cases hplace : link.system.control.HasPlace channel_id u
  · obtain ⟨-, -, hothers⟩ := h.join_of_place hauth hplace
    rw [hothers p hne]
    exact hout
  · rw [(h.join_of_no_place hplace).1]
    exact hout

theorem participates_congr {state state' : ControlState} (h : state'.rooms = state.rooms)
    (r : RoomId) (v : UserId) : state'.Participates r v ↔ state.Participates r v := by
  unfold Participates
  rw [h]

theorem setVoiceState_keeps_in (voice : SetVoiceState) :
    KeptByRequest i u (In u p) (.setVoiceState voice) := by
  rintro link h ⟨hauth, hin⟩
  exact ⟨hauth.send _, (participates_congr (h.setVoiceState_rooms voice) p u).mpr hin⟩

theorem setVoiceState_keeps_out (voice : SetVoiceState) :
    KeptByRequest i u (Out u p) (.setVoiceState voice) := by
  rintro link h ⟨hauth, hout⟩
  exact ⟨hauth.send _, (participates_congr (h.setVoiceState_rooms voice) p u).not.mpr hout⟩

theorem listRooms_keeps_in : KeptByRequest i u (In u p) .listRooms := by
  rintro link h ⟨hauth, hin⟩
  exact ⟨hauth.send _, hauth.listRooms.1.symm ▸ hin⟩

/-! ## Entering the new channel -/

/-- The end of a switch. -/
def enterChannel (channel_id : RoomId) : UiFlow Unit := do
  joinRoom channel_id
  setVoiceState channel_id (← get).state.local_voice
  setSelectedChannelId (some channel_id)

variable {round : Round} {rest : List Round}

theorem exec_joinRoom_of_place (h : Connected i u w.link) (hauth : w.link.Authorized u)
    (hrounds : w.rounds = round :: rest) (hfate : round.fate = .answered)
    (hplace : (w.link.waited round.others).system.control.HasPlace channel_id u) :
    exec (joinRoom channel_id) w = (.ok (),
      { w with link := ((w.link.waited round.others).send (.joinRoom ⟨channel_id⟩)).1
               rounds := rest }) := by
  have hwaiting : (w.link.waited round.others).Authorized u :=
    (keptByOthers_authorized (E := fun _ => True)).waited h hauth fun _ _ => True.intro
  obtain ⟨-, ⟨joined, hanswer⟩, -⟩ := (h.waited round.others).join_of_place hwaiting hplace
  unfold joinRoom
  rw [exec_bind_ok (exec_send_answered hrounds hfate _), hanswer]
  rfl

theorem exec_joinRoom_ok (h : Connected i u w.link)
    (hok : exec (joinRoom channel_id) w = (.ok (), w')) :
    ∃ round rest, w.rounds = round :: rest ∧ round.fate = .answered ∧
      (w.link.waited round.others).system.control.HasPlace channel_id u ∧
      In u channel_id w'.link ∧
      w' = { w with link := ((w.link.waited round.others).send (.joinRoom ⟨channel_id⟩)).1
                    rounds := rest } := by
  obtain ⟨answer, w₁, hsend, hmatch⟩ := exec_bind_eq_ok_iff.mp hok
  obtain ⟨round, rest, hrounds, hfate, hanswer, rfl⟩ := exec_send_ok hsend
  have hwaited := h.waited round.others
  have hjoined : ∀ error, answer ≠ .error error := by
    rintro error rfl
    cases hmatch
  have hplace : (w.link.waited round.others).system.control.HasPlace channel_id u := by
    by_contra hplace
    obtain ⟨-, error, hrefused⟩ := hwaited.join_of_no_place hplace
    exact hjoined error (hanswer.trans hrefused)
  have hauth : (w.link.waited round.others).Authorized u :=
    hwaited.authorized_of_answer (show ungated (.joinRoom ⟨channel_id⟩) = false from rfl)
      (hanswer ▸ hjoined)
  have hw' : { w with
      link := ((w.link.waited round.others).send (.joinRoom ⟨channel_id⟩)).1, rounds := rest }
        = w' := by
    cases answer <;> first | exact absurd rfl (hjoined _) | exact (Prod.mk.inj hmatch).2
  refine ⟨round, rest, hrounds, hfate, hplace, ?_, hw'.symm⟩
  rw [← hw']
  exact ⟨hauth.send _, (hwaited.join_of_place hauth hplace).1⟩

theorem exec_setVoiceState_of_in (h : Connected i u w.link) (hin : In u channel_id w.link)
    (hrounds : w.rounds = round :: rest) (hfate : round.fate = .answered)
    (hfair : ∀ event ∈ round.others, ControlSystem.Foreign i u event)
    (voice : VoiceControlState) :
    ∃ w', exec (setVoiceState channel_id voice) w = (.ok (), w') ∧ w'.state = w.state ∧
      In u channel_id w'.link := by
  have hwaiting := keptByOthers_in.waited h hin hfair
  have hwaited := h.waited round.others
  let request : SetVoiceState :=
    ⟨channel_id, voice.muted, voice.deafened, voice.push_to_talk, voice.speaking⟩
  obtain ⟨voice_state, hanswer⟩ :=
    @Connected.setVoiceState_answer _ i u hwaited hwaiting.1 request hwaiting.2
  refine ⟨{ w with link := ((w.link.waited round.others).send (.setVoiceState request)).1
                   rounds := rest }, ?_, rfl, setVoiceState_keeps_in request _ hwaited hwaiting⟩
  unfold setVoiceState
  rw [exec_bind_ok (exec_send_answered hrounds hfate _), hanswer]
  rfl

theorem exec_setVoiceState_ok {voice : VoiceControlState}
    (hok : exec (setVoiceState channel_id voice) w = (.ok (), w')) :
    ∃ round rest, w.rounds = round :: rest ∧ round.fate = .answered := by
  obtain ⟨answer, w₁, hsend, -⟩ := exec_bind_eq_ok_iff.mp hok
  obtain ⟨round, rest, hrounds, hfate, -⟩ := exec_send_ok hsend
  exact ⟨round, rest, hrounds, hfate⟩

theorem exec_enterChannel (channel_id : RoomId) (w : UiWorld) :
    exec (enterChannel channel_id) w =
      match exec (joinRoom channel_id) w with
      | (.error error, w₁) => (.error error, w₁)
      | (.ok (), w₁) =>
          match exec (setVoiceState channel_id w₁.state.local_voice) w₁ with
          | (.error error, w₂) => (.error error, w₂)
          | (.ok (), w₂) =>
              (.ok (), { w₂ with state :=
                { w₂.state with selected_channel_id := some channel_id } }) := by
  unfold enterChannel
  rw [exec_bind]
  rcases exec (joinRoom channel_id) w with ⟨_ | _, w₁⟩
  · rfl
  · simp only
    rw [exec_bind_ok (exec_get w₁), exec_bind]
    rcases exec (setVoiceState channel_id w₁.state.local_voice) w₁ with ⟨_ | _, w₂⟩ <;> rfl

/-- The client gets in exactly when the relay admits it. -/
theorem enterChannel_ok_iff (h : Connected i u w.link) (hauth : w.link.Authorized u)
    (hfair : ∀ round ∈ w.rounds, ∀ event ∈ round.others, ControlSystem.Foreign i u event) :
    (exec (enterChannel channel_id) w).1 = .ok () ↔ Admits u channel_id w.link w.rounds := by
  constructor
  · intro hok
    rw [exec_enterChannel] at hok
    rcases hjoin : exec (joinRoom channel_id) w with ⟨_ | _, w₁⟩
    · rw [hjoin] at hok
      cases hok
    · rw [hjoin] at hok
      simp only at hok
      rcases hvoice : exec (setVoiceState channel_id w₁.state.local_voice) w₁ with ⟨_ | _, w₂⟩
      · rw [hvoice] at hok
        cases hok
      · obtain ⟨join, rest, hrounds, hfate, hplace, -, rfl⟩ := exec_joinRoom_ok h hjoin
        obtain ⟨voice, rest', hrounds', hfate'⟩ := exec_setVoiceState_ok hvoice
        exact ⟨join, voice, rest', hrounds.trans (congrArg _ hrounds'), hfate, hfate', hplace⟩
  · rintro ⟨join, voice, rest, hrounds, hfate, hfate', hplace⟩
    have hjoin := exec_joinRoom_of_place h hauth hrounds hfate hplace
    obtain ⟨-, -, -, -, -, hin, -⟩ := exec_joinRoom_ok h hjoin
    have hnext := (h.waited join.others).send (.joinRoom ⟨channel_id⟩)
    obtain ⟨w₂, hvoice, -⟩ := @exec_setVoiceState_of_in _ _ _ _ _ rest hnext hin rfl hfate'
      (hfair voice (hrounds ▸ List.mem_cons_of_mem join List.mem_cons_self)) w.state.local_voice
    rw [exec_enterChannel, hjoin]
    simp only
    rw [hvoice]

variable {R : ControlLink → Prop} {state : UiServerState}

/-- A failure on the way in keeps what the others and the two requests keep. -/
theorem enterChannel_cases
    (h : Standing (ControlSystem.Foreign i u) i u R (· = state) w)
    (hothers : KeptByOthers (ControlSystem.Foreign i u) i u R)
    (hjoin : KeptByRequest i u R (.joinRoom ⟨channel_id⟩))
    (hvoice : ∀ request, KeptByRequest i u R (.setVoiceState request)) :
    (∃ error w', exec (enterChannel channel_id) w = (.error error, w') ∧
        Standing (ControlSystem.Foreign i u) i u R (· = state) w') ∨
      ∃ w', exec (enterChannel channel_id) w = (.ok (), w') ∧
        w'.state.selected_channel_id = some channel_id ∧
        w'.link.system.control.Participates channel_id u := by
  have hjoined := keeps_joinRoom hothers hjoin w h
  rw [exec_enterChannel]
  rcases hfirst : exec (joinRoom channel_id) w with ⟨_ | _, w₁⟩
  · rw [hfirst] at hjoined
    exact .inl ⟨_, w₁, rfl, hjoined⟩
  · rw [hfirst] at hjoined
    obtain ⟨-, -, -, -, -, hin, -⟩ := exec_joinRoom_ok h.connected hfirst
    have hvoiced : Standing (ControlSystem.Foreign i u) i u R (· = state)
        (exec (setVoiceState channel_id w₁.state.local_voice) w₁).2 :=
      keeps_setVoiceState hothers hvoice w₁ hjoined
    have hstays : Standing (ControlSystem.Foreign i u) i u (In u channel_id) (fun _ => True)
        (exec (setVoiceState channel_id w₁.state.local_voice) w₁).2 :=
      keeps_setVoiceState keptByOthers_in setVoiceState_keeps_in w₁
        ⟨hjoined.connected, hjoined.fair, hin, True.intro⟩
    simp only
    rcases hsecond : exec (setVoiceState channel_id w₁.state.local_voice) w₁ with ⟨_ | _, w₂⟩
    · rw [hsecond] at hvoiced
      exact .inl ⟨_, w₂, rfl, hvoiced⟩
    · rw [hsecond] at hstays
      exact .inr ⟨_, rfl, rfl, hstays.relay.2⟩

/-- The end of a switch is atomic for a client that is still where it was. -/
theorem atomic_enterChannel {w₁ : UiWorld}
    (h : Standing (ControlSystem.Foreign i u) i u (ControlLink.Authorized · u) (· = w.state) w₁)
    (hstill : ∀ previous, w.state.selected_channel_id = some previous →
      w.link.system.control.Participates previous u → In u previous w₁.link) :
    Atomic u channel_id w (exec (enterChannel channel_id) w₁) := by
  have hcases := @enterChannel_cases _ _ _ channel_id _ _ h keptByOthers_authorized
    (fun _ _ hauth => hauth.send _) (fun _ _ _ hauth => hauth.send _)
  rcases hcases with
    ⟨error, w', hexec, hfailed⟩ | ⟨w', hexec, hentered⟩
  · rw [hexec]
    refine ⟨congrArg _ hfailed.server, ?_⟩
    intro previous hprevious hbefore
    have hkept := @enterChannel_cases _ _ _ channel_id _ _
      ⟨h.connected, h.fair, hstill previous hprevious hbefore, h.server⟩
      keptByOthers_in join_keeps_in setVoiceState_keeps_in
    rw [hexec] at hkept
    rcases hkept with ⟨_, _, hsame, hin⟩ | ⟨_, hother, -⟩
    · rw [(Prod.mk.inj hsame).2]
      exact hin.relay.2
    · cases hother
  · rw [hexec]
    exact hentered

/-! ## The whole switch -/

/-- The world after the previous channel was left, if there is another one. -/
def leavePrevious (channel_id : RoomId) (w : UiWorld) : UiWorld :=
  match w.state.selected_channel_id with
  | none => w
  | some previous =>
      if previous ≠ channel_id then (exec (leaveRoom previous) w).2 else w

theorem exec_applyUiChannelSelection (channel_id : RoomId) (w : UiWorld) :
    exec (applyUiChannelSelection channel_id) w =
      if (w.state.screenMediaActive || w.state.voiceMediaActive) = true then
        (.error "stop screen sharing and voice before switching channels", w)
      else
        match exec listRooms w with
        | (.error error, w₁) => (.error error, w₁)
        | (.ok rooms, w₁) =>
            if !rooms.any (·.room_id = channel_id) then
              (.error (channelNotFound channel_id rooms), w₁)
            else exec (enterChannel channel_id) (leavePrevious channel_id w₁) := by
  unfold applyUiChannelSelection
  rw [exec_bind_ok (exec_get w)]
  simp only
  split
  · rfl
  · rw [exec_bind]
    rcases exec listRooms w with ⟨_ | rooms, w₁⟩
    · rfl
    · simp only
      split
      · rfl
      · rw [exec_bind_ok (exec_get w₁)]
        unfold leavePrevious enterChannel
        cases w₁.state.selected_channel_id with
        | none => rfl
        | some previous =>
            simp only
            split <;> rfl

/-- The channels of the list are the rooms of the relay. -/
theorem any_listRooms_iff {state : ControlState} (h : RoomInvariant state) (r : RoomId) :
    (state.listRooms.rooms.any (·.room_id = r)) = true ↔ r ∈ state.rooms := by
  rw [List.any_eq_true, mem_iff_get]
  constructor
  · rintro ⟨summary, hsummary, hid⟩
    obtain ⟨room, hroom, -⟩ := mem_listRooms h hsummary
    exact ⟨room, of_decide_eq_true hid ▸ hroom⟩
  · rintro ⟨room, hroom⟩
    refine ⟨_, List.mem_map.mpr ⟨room, (mem_values _ _).mpr ⟨r, hroom⟩, rfl⟩, ?_⟩
    exact decide_eq_true (h.room_ok r room hroom).own_id

/-- A participant is past the gate. -/
theorem in_of_participates (h : Connected i u w.link)
    (hin : w.link.system.control.Participates p u) : In u p w.link :=
  ⟨h.authorized_of_participates hin, hin⟩

/-- The list of the channels, when it is answered. -/
theorem exec_listRooms_listed (h : Connected i u w.link) {rooms : List RoomSummary} {w₁ : UiWorld}
    (hlist : exec listRooms w = (.ok rooms, w₁)) :
    ∃ list rest, w.rounds = list :: rest ∧ list.fate = .answered ∧
      rooms = (w.link.waited list.others).system.control.listRooms.rooms ∧
      (w.link.waited list.others).Authorized u ∧
      w₁ = { w with link := afterList w.link list, rounds := rest } := by
  obtain ⟨answer, hsend, rfl⟩ := exec_listRooms_ok hlist
  obtain ⟨list, rest, hrounds, hfate, hanswer, hw₁⟩ := exec_send_ok hsend
  have hauth := (h.waited list.others).authorized_of_answer
    (show ungated .listRooms = false from rfl) (by rw [← hanswer]; exact nofun)
  rw [hauth.listRooms.2] at hanswer
  exact ⟨list, rest, hrounds, hfate, congrArg RoomList.rooms (ServerControl.roomList.inj hanswer),
    hauth, hw₁⟩

/-- A participant that asks for the list and is answered gets it. -/
theorem exec_listRooms_answered (h : Connected i u w.link) (hauth : w.link.Authorized u)
    (hrounds : w.rounds = round :: rest) (hfate : round.fate = .answered) :
    exec listRooms w = (.ok (w.link.waited round.others).system.control.listRooms.rooms,
      { w with link := afterList w.link round, rounds := rest }) := by
  have hwaiting : (w.link.waited round.others).Authorized u :=
    (keptByOthers_authorized (E := fun _ => True)).waited h hauth fun _ _ => True.intro
  unfold listRooms
  rw [exec_bind_ok (exec_send_answered hrounds hfate _), hwaiting.listRooms.2]
  rfl

/-- A stranded client has seen the new channel in the list. -/
theorem Strands.listed (h : Connected i u w.link) (hstrands : Strands u channel_id w) :
    ∃ rooms w₁, exec listRooms w = (.ok rooms, w₁) ∧
      (rooms.any (·.room_id = channel_id)) = true := by
  obtain ⟨previous, list, leave, rest, -, -, -, hin, hrounds, hfate, -, hmem, -⟩ := hstrands
  refine ⟨_, _, exec_listRooms_answered h (in_of_participates h hin).1 hrounds hfate, ?_⟩
  rw [any_listRooms_iff (ControlSystem.reachable_roomInvariant (h.waited list.others).reachable)]
  exact hmem

/-- Giving up the previous channel. -/
theorem leaveRoom_reaches (h : Connected i u w.link) (hin : In u p w.link)
    (hfair : ∀ event ∈ round.others, ControlSystem.Foreign i u event)
    (hrounds : w.rounds = round :: rest) (hfate : round.fate ≠ .requestLost) :
    (exec (leaveRoom p) w).2 = { w with link := afterLeave w.link round p, rounds := rest } ∧
      Out u p (afterLeave w.link round p) := by
  have hwaiting := keptByOthers_in.waited h hin hfair
  refine ⟨?_, hwaiting.1.send _, ?_⟩
  · unfold leaveRoom
    cases hround : round.fate with
    | requestLost => exact absurd hround hfate
    | answerLost =>
        rw [exec_bind_error (exec_send_answerLost hrounds hround _)]
        rfl
    | answered =>
        rw [exec_bind_ok (exec_send_answered hrounds hround _)]
        split <;> rfl
  · unfold afterLeave
    rw [(h.waited round.others).leave_participates hwaiting.1]
    exact fun hstill => hstill.2 rfl

/-- A client whose request to leave gets lost is still where it was. -/
theorem leaveRoom_lost (hrounds : ∀ round rest, w.rounds = round :: rest →
      round.fate = .requestLost)
    (h : Standing (ControlSystem.Foreign i u) i u R (· = state) w)
    (hothers : KeptByOthers (ControlSystem.Foreign i u) i u R) :
    Standing (ControlSystem.Foreign i u) i u R (· = state) (exec (leaveRoom p) w).2 := by
  unfold leaveRoom
  cases hrest : w.rounds with
  | nil =>
      rw [exec_bind_error (exec_send_gone hrest _)]
      exact h
  | cons round rest =>
      rw [exec_bind_error (exec_send_requestLost hrest (hrounds round rest hrest) _)]
      exact h.waited hothers hrest

theorem keeps_leavePrevious
    (h : Standing (ControlSystem.Foreign i u) i u R (· = state) w)
    (hothers : KeptByOthers (ControlSystem.Foreign i u) i u R)
    (hleave : ∀ r, KeptByRequest i u R (.leaveRoom ⟨r⟩)) :
    Standing (ControlSystem.Foreign i u) i u R (· = state) (leavePrevious channel_id w) := by
  unfold leavePrevious
  split
  · exact h
  · next previous hprevious =>
      split
      · exact keeps_leaveRoom hothers (hleave previous) w h
      · exact h

/-- The client is let in after it has left, or it is stranded. -/
theorem atomic_of_left {w₁ : UiWorld}
    (h : Standing (ControlSystem.Foreign i u) i u (Out u p) (· = w.state) w₁)
    (hne : p ≠ channel_id) (hprevious : w.state.selected_channel_id = some p)
    (hbefore : w.link.system.control.Participates p u) :
    Atomic u channel_id w (exec (enterChannel channel_id) w₁) ↔
      Admits u channel_id w₁.link w₁.rounds := by
  rw [← enterChannel_ok_iff h.connected h.relay.1 h.fair]
  rcases enterChannel_cases h keptByOthers_out (join_keeps_out hne) setVoiceState_keeps_out with
    ⟨error, w', hexec, hfailed⟩ | ⟨w', hexec, hentered⟩
  · rw [hexec]
    refine iff_of_false ?_ nofun
    rintro ⟨-, hkept⟩
    exact hfailed.relay.2 (hkept p hprevious hbefore)
  · rw [hexec]
    exact iff_of_true hentered rfl

/-- The two ends of a switch to a channel that is listed. -/
theorem atomic_listed_iff (h : Connected i u w.link)
    (hfair : ∀ round ∈ w.rounds, ∀ event ∈ round.others, ControlSystem.Foreign i u event)
    (hidle : (w.state.screenMediaActive || w.state.voiceMediaActive) = false)
    {rooms : List RoomSummary} {w₁ : UiWorld} (hlist : exec listRooms w = (.ok rooms, w₁))
    (hlisted : (rooms.any (·.room_id = channel_id)) = true) :
    Atomic u channel_id w (exec (enterChannel channel_id) (leavePrevious channel_id w₁)) ↔
      ¬ Strands u channel_id w := by
  -- the listing takes the first round, and its list is what the relay holds then
  obtain ⟨list, rest, hrounds, hfate, rfl, hauth, rfl⟩ := exec_listRooms_listed h hlist
  have hfairlist := hfair list (hrounds ▸ List.mem_cons_self)
  have hfairrest : ∀ round ∈ rest, ∀ event ∈ round.others, ControlSystem.Foreign i u event :=
    fun round hround => hfair round (hrounds ▸ List.mem_cons_of_mem list hround)
  have hconnected : Connected i u (afterList w.link list) :=
    (h.waited list.others).send .listRooms
  rw [any_listRooms_iff (ControlSystem.reachable_roomInvariant
    (h.waited list.others).reachable)] at hlisted
  -- others cannot remove the user while it waits for the list
  have hstill : ∀ previous, w.link.system.control.Participates previous u →
      In u previous (afterList w.link list) := by
    intro previous hin
    have hwaiting := keptByOthers_in.waited h (in_of_participates h hin) hfairlist
    exact listRooms_keeps_in _ (h.waited list.others) hwaiting
  have hstanding : ∀ R : ControlLink → Prop, R (afterList w.link list) →
      Standing (ControlSystem.Foreign i u) i u R (· = w.state)
        { w with link := afterList w.link list, rounds := rest } :=
    fun R hrelay => ⟨hconnected, hfairrest, hrelay, rfl⟩
  by_cases hmoves : ∃ previous, w.state.selected_channel_id = some previous ∧
      previous ≠ channel_id ∧ w.link.system.control.Participates previous u
  · obtain ⟨previous, hprevious, hne, hbefore⟩ := hmoves
    have hin := hstill previous hbefore
    -- a previous channel is left first
    unfold leavePrevious
    simp only
    rw [hprevious]
    simp only
    rw [if_pos hne]
    by_cases hreaches : ∃ leave rest', rest = leave :: rest' ∧ leave.fate ≠ .requestLost
    · obtain ⟨leave, rest', rfl, hleave⟩ := hreaches
      obtain ⟨hworld, hout⟩ := @leaveRoom_reaches
        { w with link := afterList w.link list, rounds := leave :: rest' } i u previous leave
        rest' hconnected hin (hfairrest leave List.mem_cons_self) rfl hleave
      have hleft : Standing (ControlSystem.Foreign i u) i u (Out u previous) (· = w.state)
          { w with link := afterLeave (afterList w.link list) leave previous, rounds := rest' } :=
        ⟨(hconnected.waited _).send _,
          fun round hround => hfairrest round (List.mem_cons_of_mem leave hround), hout, rfl⟩
      rw [hworld]
      refine (atomic_of_left hleft hne hprevious hbefore).trans (iff_not_comm.mp ?_)
      constructor
      · rintro ⟨p, list', leave', rest'', -, hp, -, -, hrounds', -, -, -, hshut⟩
        -- the rounds of `Strands` are these two
        obtain rfl := Option.some.inj (hp.symm.trans hprevious)
        rw [hrounds] at hrounds'
        obtain ⟨rfl, hrest⟩ := List.cons.inj hrounds'
        obtain ⟨rfl, rfl⟩ := List.cons.inj hrest
        exact hshut
      · intro hshut
        exact ⟨previous, list, leave, rest', hidle, hprevious, hne, hbefore, hrounds, hfate,
          hleave, hlisted, hshut⟩
    · have hlost : ∀ round rest', rest = round :: rest' → round.fate = .requestLost := by
        intro round rest' hrest
        by_contra hfate'
        exact hreaches ⟨round, rest', hrest, hfate'⟩
      -- the request to leave is lost: the user is still in the previous channel
      refine iff_of_true (atomic_enterChannel (i := i) ?_ ?_) ?_
      · exact leaveRoom_lost hlost (hstanding _ (hauth.send _)) keptByOthers_authorized
      · intro p hp _
        obtain rfl := Option.some.inj (hp.symm.trans hprevious)
        exact (leaveRoom_lost hlost (hstanding _ hin) keptByOthers_in).relay
      · rintro ⟨-, list', leave, rest', -, -, -, -, hrounds', -, hleave, -, -⟩
        rw [hrounds] at hrounds'
        exact hreaches ⟨leave, rest', (List.cons.inj hrounds').2, hleave⟩
  · -- no channel is left, so none can be lost
    refine iff_of_true (atomic_enterChannel (i := i) ?_ ?_) ?_
    · exact keeps_leavePrevious (hstanding _ (hauth.send _)) keptByOthers_authorized
        fun _ _ _ hauth => hauth.send _
    · intro previous hprevious hbefore
      have hsame : previous = channel_id := by
        by_contra hne
        exact hmoves ⟨previous, hprevious, hne, hbefore⟩
      unfold leavePrevious
      simp only
      rw [hprevious]
      simp only
      rw [if_neg (fun hne => hne hsame)]
      exact hstill previous hbefore
    · rintro ⟨previous, -, -, -, -, hprevious, hne, hbefore, -⟩
      exact hmoves ⟨previous, hprevious, hne, hbefore⟩

/-- A switch is atomic exactly when it does not strand the client. -/
theorem channel_switch_atomic_iff (h : Connected i u w.link)
    (hfair : ∀ round ∈ w.rounds, ∀ event ∈ round.others, ControlSystem.Foreign i u event)
    (channel_id : RoomId) :
    Atomic u channel_id w (exec (applyUiChannelSelection channel_id) w) ↔
      ¬ Strands u channel_id w := by
  rw [exec_applyUiChannelSelection]
  split
  · next hbusy =>
      refine iff_of_true ⟨rfl, fun _ _ hin => hin⟩ ?_
      rintro ⟨-, -, -, -, hidle, -⟩
      rw [hidle] at hbusy
      cases hbusy
  · next hidle =>
      -- the list keeps the client where it is
      have hlisting : ∀ previous, w.link.system.control.Participates previous u →
          In u previous (exec listRooms w).2.link := by
        intro previous hin
        have hkept := keeps_listRooms (S := fun _ => True) keptByOthers_in listRooms_keeps_in w
          ⟨h, hfair, in_of_participates h hin, True.intro⟩
        exact hkept.relay
      have hstate : (exec listRooms w).2.state = w.state := by
        have hkept := keeps_listRooms (E := fun _ => True) (R := fun _ => True)
          (S := (· = w.state)) (fun _ _ _ _ _ => True.intro) (fun _ _ _ => True.intro) w
          ⟨h, fun _ _ _ _ => True.intro, True.intro, rfl⟩
        exact hkept.server
      rcases hlist : exec listRooms w with ⟨_ | rooms, w₁⟩
      · rw [hlist] at hlisting hstate
        refine iff_of_true ⟨congrArg _ hstate, fun p _ hin => (hlisting p hin).2⟩ ?_
        intro hstrands
        obtain ⟨_, _, hok, -⟩ := hstrands.listed h
        rw [hlist] at hok
        cases hok
      · rw [hlist] at hlisting hstate
        simp only
        split
        · next hunlisted =>
            refine iff_of_true ⟨congrArg _ hstate, fun p _ hin => (hlisting p hin).2⟩ ?_
            intro hstrands
            obtain ⟨_, _, hok, hany⟩ := hstrands.listed h
            rw [hlist] at hok
            obtain rfl := Except.ok.inj (Prod.mk.inj hok).1
            rw [hany] at hunlisted
            cases hunlisted
        · next hlisted =>
            rw [Bool.not_eq_true, Bool.not_eq_false'] at hlisted
            exact atomic_listed_iff h hfair (Bool.not_eq_true _ ▸ hidle) hlist hlisted

/-- A client in the channel 1 beside a channel 2 of somebody else, with these rounds to come. -/
def twoChannelWorld (rounds : List Round) : UiWorld where
  link :=
    { system := run ControlSystem.step (.start .new)
        [.ask 0 (.hello ⟨protocolVersion, "host"⟩), .ask 0 (.createRoom ⟨"stage"⟩),
          .ask 1 (.hello ⟨protocolVersion, "guest"⟩), .ask 1 (.createRoom ⟨"lobby"⟩)]
      session := 0
      clock := ⟨0, 0⟩
      next_request_id := 1 }
  rounds := rounds
  screen_outcome := .finished
  voice_outcome := .finished
  state := ⟨some 1, ⟨false, false, false, false⟩, ⟨false, 1⟩, none, none⟩

theorem twoChannelWorld_connected (rounds : List Round) :
    Connected 0 1 (twoChannelWorld rounds).link where
  session := rfl
  reachable := ⟨.start .new, _, ⟨.new, .new, rfl⟩, rfl⟩
  user := by
    show ((twoChannelWorld []).link.system.sessions 0).user_id = some 1
    decide +kernel

/-- The rounds of a switch to channel 2 while two others move: the guest leaves the channel, and
someone who has been in channel 1 takes its place. -/
def crossingRounds (join : Fate) : List Round :=
  [⟨[.ask 2 (.hello ⟨protocolVersion, "third"⟩)], .answered⟩,
    ⟨[.ask 2 (.joinRoom ⟨1⟩)], .answerLost⟩,
    ⟨[.ask 2 (.joinRoom ⟨2⟩), .ask 1 (.leaveRoom ⟨2⟩)], join⟩, ⟨[], .answered⟩]

theorem crossingRounds_foreign {join : Fate} :
    ∀ round ∈ (twoChannelWorld (crossingRounds join)).rounds, ∀ event ∈ round.others,
      ControlSystem.Foreign 0 1 event := by
  intro round hround event hevent
  simp only [twoChannelWorld, crossingRounds, List.mem_cons, List.not_mem_nil, or_false] at hround
  rcases hround with rfl | rfl | rfl | rfl
  · rw [List.mem_singleton.mp hevent]
    exact two_ne_zero
  · rw [List.mem_singleton.mp hevent]
    exact two_ne_zero
  · simp only [List.mem_cons, List.not_mem_nil, or_false] at hevent
    rcases hevent with rfl | rfl
    · exact two_ne_zero
    · exact one_ne_zero
  · cases hevent

/-- The others cross, the answer to the request to leave is lost, and the client gets through; but
it is stranded if the answer to the request to join is lost too. -/
theorem channel_switch_atomic_iff_crossing :
    ¬ Strands 1 2 (twoChannelWorld (crossingRounds .answered)) ∧
      ¬ Atomic 1 2 (twoChannelWorld (crossingRounds .answerLost))
        (exec (applyUiChannelSelection 2) (twoChannelWorld (crossingRounds .answerLost))) := by
  constructor
  · -- the switch succeeds
    refine (channel_switch_atomic_iff (twoChannelWorld_connected _) crossingRounds_foreign 2).mp ?_
    obtain ⟨w, hw⟩ : ∃ w, w = twoChannelWorld (crossingRounds .answered) := ⟨_, rfl⟩
    have hsucceeds : (exec (applyUiChannelSelection 2) w).1.toBool = true := by
      rw [hw]
      decide +kernel
    have hselected : (exec (applyUiChannelSelection 2) w).2.state.selected_channel_id = some 2 := by
      rw [hw]
      decide +kernel
    have hentered :
        (exec (applyUiChannelSelection 2) w).2.link.system.control.Participates 2 1 := by
      rw [hw]
      decide +kernel
    rw [← hw]
    rcases hexec : exec (applyUiChannelSelection 2) w with ⟨_ | _, w'⟩
    · rw [hexec] at hsucceeds
      cases hsucceeds
    · rw [hexec] at hselected hentered
      exact ⟨hselected, hentered⟩
  · -- the old channel is left, and nothing confirms the new one
    rw [channel_switch_atomic_iff (twoChannelWorld_connected _) crossingRounds_foreign 2, not_not]
    refine ⟨1, _, _, _, rfl, rfl, by decide, by decide +kernel, rfl, rfl, by decide,
      by decide +kernel, ?_⟩
    rintro ⟨join, voice, rest, hrounds, hjoin, -⟩
    rw [← (List.cons.inj hrounds).1] at hjoin
    cases hjoin

/-- The new channel disappears with its last participant, after the old one was left. -/
theorem vanished_channel_strands :
    ¬ ∀ (i : Nat) (u : UserId) (w : UiWorld) (channel_id : RoomId), Connected i u w.link →
      (∀ round ∈ w.rounds, ∀ event ∈ round.others, ControlSystem.Foreign i u event) →
      Atomic u channel_id w (exec (applyUiChannelSelection channel_id) w) := by
  intro hclaim
  -- the world stays a variable, so that no step but the evaluations runs the flow
  obtain ⟨w, hw⟩ : ∃ w, w = twoChannelWorld
      [⟨[], .answered⟩, ⟨[], .answered⟩, ⟨[.ask 1 (.leaveRoom ⟨2⟩)], .answered⟩] := ⟨_, rfl⟩
  have hconnected : Connected 0 1 w.link := by
    rw [hw]
    exact twoChannelWorld_connected _
  have hfair : ∀ round ∈ w.rounds, ∀ event ∈ round.others,
      ControlSystem.Foreign 0 1 event := by
    intro round hround event hevent
    simp only [hw, twoChannelWorld, List.mem_cons, List.not_mem_nil, or_false] at hround
    rcases hround with rfl | rfl | rfl
    · cases hevent
    · cases hevent
    · rw [List.mem_singleton.mp hevent]
      exact one_ne_zero
  have hatomic := hclaim 0 1 w 2 hconnected hfair
  have hfails : (exec (applyUiChannelSelection 2) w).1.toBool = false := by
    rw [hw]
    decide +kernel
  have hselected : w.state.selected_channel_id = some 1 := by
    rw [hw]
    rfl
  have hbefore : w.link.system.control.Participates 1 1 := by
    rw [hw]
    decide +kernel
  have hafter : ¬ (exec (applyUiChannelSelection 2) w).2.link.system.control.Participates 1 1 := by
    rw [hw]
    decide +kernel
  rcases hexec : exec (applyUiChannelSelection 2) w with ⟨_ | _, w'⟩
  · rw [hexec] at hatomic hafter
    exact hafter (hatomic.2 1 hselected hbefore)
  · rw [hexec] at hfails
    cases hfails

end UiServer

end TeamView.Client
