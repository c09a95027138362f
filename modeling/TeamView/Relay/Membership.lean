import TeamView.Relay.RoomChanges

set_option autoImplicit false

/-! # The place of one user

Who is in a room stays there through everything that other users do (`step_participates`), and
enters only by its own requests. A session keeps its user and its access whatever happens. The
requests that a client uses to move between rooms are taken apart here: when the relay lets it in
(`HasPlace`), and what it answers.
-/

namespace TeamView.Relay

open TeamView.Protocol BTree Runs Relation

namespace ControlState

variable {state state' : ControlState} {request : Option ClientControl} {u v : UserId}
  {r : RoomId}

def Participates (state : ControlState) (r : RoomId) (u : UserId) : Prop :=
  ∃ room : Room, state.rooms[r]? = some room ∧ u ∈ room.participants

instance (state : ControlState) (r : RoomId) (u : UserId) : Decidable (state.Participates r u) :=
  decidable_of_iff (state.rooms[r]?.any (·.participants.contains u) = true) (by
    unfold Participates
    cases state.rooms[r]? with
    | none => simp
    | some room => simp [Std.ExtTreeSet.contains_iff_mem])

/-- The room exists and would let the user in. -/
def HasPlace (state : ControlState) (r : RoomId) (u : UserId) : Prop :=
  ∃ room : Room, state.rooms[r]? = some room ∧
    (u ∈ room.participants ∨ room.participants.size < state.limits.max_participants_per_room)

/-! ## What the others do -/

theorem update_participates (hrooms : RoomsOk state) (hupdate : Update request u state state')
    (hne : v ≠ u) (h : state.Participates r v) : state'.Participates r v := by
  obtain ⟨room, hroom, hin⟩ := h
  have hchange := update_room hrooms hupdate r
  unfold Participates
  rw [hroom] at hchange
  generalize state'.rooms[r]? = place at hchange
  cases hchange with
  | kept hkept => exact ⟨_, rfl, (hkept.participants v hne).mpr hin⟩
  | removed halone => exact absurd (halone v hin) hne

theorem updates_participates (hrooms : RoomInvariant state)
    (hchain : Updates request u state state') (hne : v ≠ u) (h : state.Participates r v) :
    state'.Participates r v := by
  induction hchain with
  | refl => exact h
  | tail hbefore hlast ih =>
      exact update_participates (updates_roomInvariant hrooms hbefore).toRoomsOk hlast hne ih

/-! ## What the user asks for -/

theorem joinRoom_of_place (h : state.HasPlace r u) {session : Session}
    (hu : session.user_id = some u) :
    (state.joinRoom session ⟨r⟩).1.Participates r u ∧
      (∃ joined, (state.joinRoom session ⟨r⟩).2 = .roomJoined joined) ∧
      ∀ a, a ≠ r → ((state.joinRoom session ⟨r⟩).1.Participates a u ↔ state.Participates a u) := by
  obtain ⟨room, hroom, hplace⟩ := h
  have hadmitted : ¬ (!room.participants.contains u &&
      decide (state.limits.max_participants_per_room ≤ room.participants.size)) = true := by
    rw [Bool.and_eq_true, Bool.not_eq_true', decide_eq_true_eq, ← Bool.not_eq_true,
      Std.ExtTreeSet.contains_iff_mem]
    rintro ⟨hout, hfull⟩
    rcases hplace with hin | hspace
    · exact hout hin
    · omega
  have hjoin : state.joinRoom session ⟨r⟩ =
      ((state.setRoom r (room.join u)).ensureVoiceState r u,
        .roomJoined ⟨r, (room.join u).participants.size⟩) := by
    unfold joinRoom
    rw [hroom, hu]
    simp only
    rw [if_neg hadmitted]
  rw [hjoin]
  refine ⟨⟨room.join u, ?_, (Room.mem_join _ _ _).mpr (.inl rfl)⟩, ⟨_, rfl⟩, fun a ha => ?_⟩
  · exact (get_setRoom _ _ _ _).trans (if_pos rfl)
  · have hsame : ((state.setRoom r (room.join u)).ensureVoiceState r u).rooms[a]?
        = state.rooms[a]? := (get_setRoom _ _ _ _).trans (if_neg ha)
    unfold Participates
    rw [hsame]

theorem joinRoom_of_no_place (h : ¬ state.HasPlace r u) {session : Session}
    (hu : session.user_id = some u) :
    ∃ error, state.joinRoom session ⟨r⟩ = (state, .error error) := by
  unfold joinRoom
  cases hroom : state.rooms[r]? with
  | none => exact ⟨_, rfl⟩
  | some room =>
      rw [hu]
      simp only
      have hfull : (!room.participants.contains u &&
          decide (state.limits.max_participants_per_room ≤ room.participants.size)) = true := by
        rw [Bool.and_eq_true, Bool.not_eq_true', decide_eq_true_eq, ← Bool.not_eq_true,
          Std.ExtTreeSet.contains_iff_mem]
        constructor
        · exact fun hin => h ⟨room, hroom, .inl hin⟩
        · by_contra hspace
          exact h ⟨room, hroom, .inr (by omega)⟩
      rw [if_pos hfull]
      exact ⟨_, rfl⟩

/-- Leaving takes one user out of one room. -/
theorem leaveRoom_participates (state : ControlState) (u v : UserId) (r a : RoomId) :
    (state.leaveRoom u r).Participates a v ↔ state.Participates a v ∧ ¬ (a = r ∧ v = u) := by
  unfold Participates
  cases hroom : state.rooms[r]? with
  | none =>
      rw [leaveRoom_of_none hroom]
      refine (and_iff_left_of_imp ?_).symm
      rintro ⟨room, hget, -⟩ ⟨rfl, -⟩
      rw [hroom] at hget
      cases hget
  | some room =>
      rw [leaveRoom_rooms hroom]
      by_cases ha : a = r
      · subst ha
        rw [if_pos rfl, hroom]
        have hdeparted : v ∈ (room.depart u).participants ↔ v ∈ room.participants ∧ ¬ v = u := by
          rw [Room.mem_depart, and_comm]
        split
        · next hempty =>
            rw [Room.isEmpty, Bool.and_eq_true, set_isEmpty_iff] at hempty
            refine iff_of_false ?_ ?_
            · rintro ⟨_, hnone, _⟩
              cases hnone
            · rintro ⟨⟨room', hroom', hin⟩, hother⟩
              obtain rfl := Option.some.inj hroom'
              exact hempty.1 v (hdeparted.mpr ⟨hin, fun hvu => hother ⟨rfl, hvu⟩⟩)
        · simp [hdeparted]
      · rw [if_neg ha]
        refine (and_iff_left_of_imp ?_).symm
        rintro - ⟨heq, -⟩
        exact ha heq

theorem setVoiceState_rooms (state : ControlState) (session : Session) (voice : SetVoiceState) :
    (state.setVoiceState session voice).1.rooms = state.rooms := by
  unfold setVoiceState
  split <;> rfl

theorem setVoiceState_answer (h : state.Participates r u) {session : Session}
    (hu : session.user_id = some u) {voice : SetVoiceState} (hroom : voice.room_id = r) :
    ∃ voice_state, (state.setVoiceState session voice).2 = .voiceStateUpdated voice_state := by
  obtain ⟨room, hget, hin⟩ := h
  unfold setVoiceState
  rw [hroom, participantRoom_ok_iff.mpr ⟨hu, hget, hin⟩]
  exact ⟨_, rfl⟩

end ControlState

namespace ControlSystem

open ControlState

variable {system : ControlSystem} {i : Nat} {u : UserId} {r : RoomId}

/-- Not an event of session `i`, nor the end of user `u`. -/
def Foreign (i : Nat) (u : UserId) : ControlEvent → Prop
  | .envelope j _ _ => j ≠ i
  | .disconnect v => v ≠ u
  | .recordForward .. => True

/-! ## The session -/

theorem step_user (event : ControlEvent) (h : (system.sessions i).user_id = some u) :
    ((system.step event).sessions i).user_id = some u := by
  cases event with
  | envelope j clock envelope =>
      show (Function.update system.sessions j (system.reply j clock envelope).session i).user_id
        = some u
      by_cases hij : i = j
      · subst hij
        rw [Function.update_self]
        rcases sessionUpdate_user (handleClientEnvelope_session system.control
          (system.sessions i) clock envelope) with hsame | ⟨hnone, -⟩
        · exact hsame.trans h
        · rw [h] at hnone
          cases hnone
      · rw [Function.update_of_ne hij]
        exact h
  | disconnect v => exact h
  | recordForward packet summary bytes received route => exact h

theorem step_authorized (event : ControlEvent)
    (h : system.control.Authorized (system.sessions i) u) :
    (system.step event).control.Authorized ((system.step event).sessions i) u := by
  have htoken := (system.step_settings event).2
  have hkept : (system.step event).control.Authorized (system.sessions i) u :=
    sessionUpdate_authorized (.kept .listRooms) htoken h
  cases event with
  | envelope j clock envelope =>
      by_cases hij : i = j
      · subst hij
        show (system.step (.envelope i clock envelope)).control.Authorized
          (Function.update system.sessions i (system.reply i clock envelope).session i) u
        rw [Function.update_self]
        exact sessionUpdate_authorized (handleClientEnvelope_session system.control
          (system.sessions i) clock envelope) htoken h
      · show (system.step (.envelope j clock envelope)).control.Authorized
          (Function.update system.sessions j (system.reply j clock envelope).session i) u
        rw [Function.update_of_ne hij]
        exact hkept
  | disconnect v => exact hkept
  | recordForward packet summary bytes received route => exact hkept

/-- A participant's session may use the relay. -/
theorem authorized_of_participates (h : system.Reachable)
    (hu : (system.sessions i).user_id = some u) (hin : system.control.Participates r u) :
    system.control.Authorized (system.sessions i) u := by
  have hidentity := reachable_identityInvariant h
  obtain ⟨room, hroom, hmember⟩ := hin
  obtain ⟨j, hj⟩ := hidentity.participant_backed r room u hroom hmember
  rw [hidentity.user_unique i j u hu hj.1]
  exact hj

/-! ## Others come and go -/

theorem handleClientEnvelope_user_ne (h : system.Reachable) {j : Nat} (hj : j ≠ i)
    (hu : (system.sessions i).user_id = some u) (clock : Clock) (envelope : ClientEnvelope) :
    (system.reply j clock envelope).session.user_id ≠ some u := by
  have hidentity := reachable_identityInvariant (h.after (.envelope j clock envelope))
  intro hsame
  refine hj (hidentity.user_unique j i u ?_ (step_user (.envelope j clock envelope) hu))
  show (Function.update system.sessions j (system.reply j clock envelope).session j).user_id
    = some u
  rw [Function.update_self]
  exact hsame

/-- Nobody else puts a user out of a room. -/
theorem step_participates (h : system.Reachable) (hu : (system.sessions i).user_id = some u)
    {event : ControlEvent} (hforeign : Foreign i u event)
    (hin : system.control.Participates r u) :
    (system.step event).control.Participates r u := by
  have hrooms := reachable_roomInvariant h
  cases event with
  | envelope j clock envelope =>
      have hne := handleClientEnvelope_user_ne h hforeign hu clock envelope
      obtain ⟨hsome, hnone⟩ := handleClientEnvelope_updates system.control (system.sessions j)
        clock envelope
      show (system.control.handleClientEnvelope (system.sessions j) clock
        envelope).state.Participates r u
      cases huser : (system.control.handleClientEnvelope (system.sessions j) clock
          envelope).session.user_id with
      | none =>
          rw [hnone huser]
          exact hin
      | some v =>
          refine updates_participates hrooms (hsome v huser) ?_ hin
          rintro rfl
          exact hne huser
  | disconnect v =>
      exact updates_participates hrooms (disconnectUser_updates system.control v)
        (Ne.symm hforeign) hin
  | recordForward packet summary bytes received route =>
      obtain ⟨room, hroom, hmember⟩ := hin
      refine ⟨room, ?_, hmember⟩
      rw [← hroom]
      exact congrArg (·[r]?) (recordMediaForwardSummary_fixed ControlState.rooms
        (fun _ _ => rfl) _ _ _ _ _ _)

/-- Nobody else brings a user into a room. -/
theorem step_not_participates (h : system.Reachable) (hu : (system.sessions i).user_id = some u)
    {event : ControlEvent} (hforeign : Foreign i u event)
    (hout : ¬ system.control.Participates r u) :
    ¬ (system.step event).control.Participates r u := by
  have hrooms := reachable_roomInvariant h
  rintro ⟨room', hroom', hin⟩
  refine hout ?_
  cases event with
  | envelope j clock envelope =>
      rcases handleClientEnvelope_participants hrooms hroom' hin with hold | ⟨hauth, -⟩
      · exact hold
      · exact absurd ((reachable_identityInvariant h).user_unique j i u hauth.1 hu) hforeign
  | disconnect v => exact leaveRooms_participants hroom' hin
  | recordForward packet summary bytes received route =>
      refine ⟨room', ?_, hin⟩
      rw [← hroom']
      exact (congrArg (·[r]?) (recordMediaForwardSummary_fixed ControlState.rooms
        (fun _ _ => rfl) _ _ _ _ _ _)).symm

end ControlSystem

end TeamView.Relay
