import TeamView.Relay.Control

set_option autoImplicit false

/-! # What a session can become

Only two requests change a session: `Hello` gives it a user, or a new display name when it has
one, and `Authenticate` grants it access. `SessionUpdate` lists the ways, with the checks made.
User ids are handed out once, so no two sessions have the same user.
-/

namespace TeamView.Relay

open TeamView.Protocol Runs

/-- A session after a message. -/
inductive SessionUpdate (state : ControlState) (session : Session) :
    ClientControl → Session → Prop
  | kept (message : ClientControl) : SessionUpdate state session message session
  | identified (hello : Hello) (display_name : String)
      (hversion : hello.protocol_version = protocolVersion) (huser : session.user_id = none) :
      SessionUpdate state session (.hello hello)
        (session.establishIdentity state.next_user_id (!state.requiresAccessToken) display_name)
  | renamed (hello : Hello) (display_name : String)
      (hversion : hello.protocol_version = protocolVersion) (huser : session.user_id ≠ none) :
      SessionUpdate state session (.hello hello) (session.updateDisplayName display_name)
  | granted (authenticate : Authenticate) (huser : session.user_id ≠ none)
      (htoken : ∀ token, state.access_token = some token → authenticate.token = token) :
      SessionUpdate state session (.authenticate authenticate) session.grantAccess

namespace ControlState

theorem hello_session (state : ControlState) (session : Session) (request : Hello) :
    SessionUpdate state session (.hello request) (state.hello session request).2.1 := by
  unfold hello
  split
  · exact .kept _
  · next hversion =>
      cases huser : session.user_id with
      | none =>
          simp only [Option.isNone_none, Option.getD_none, if_true]
          exact .identified request _ (not_not.mp hversion) huser
      | some u =>
          simp only [Option.isNone_some, Bool.false_eq_true, if_false]
          exact .renamed request _ (not_not.mp hversion) (by rw [huser]; simp)

theorem authenticate_session (state : ControlState) (session : Session)
    (request : Authenticate) :
    SessionUpdate state session (.authenticate request)
      (state.authenticate session request).1 := by
  unfold authenticate
  split
  · exact .kept _
  · next u huser =>
      have hsome : session.user_id ≠ none := by rw [huser]; simp
      split
      · next expected htoken =>
          split
          · exact .kept _
          · next hequal =>
              refine .granted request hsome fun token h => ?_
              rw [htoken] at h
              cases h
              exact not_not.mp hequal
      · next hopen =>
          refine .granted request hsome fun token h => ?_
          rw [hopen] at h
          cases h

theorem handleClientEnvelope_session (state : ControlState) (session : Session) (clock : Clock)
    (envelope : ClientEnvelope) :
    SessionUpdate state session envelope.message
      (state.handleClientEnvelope session clock envelope).session := by
  unfold handleClientEnvelope
  split
  · exact .kept _
  · cases hgate : ungated envelope.message with
    | false =>
        simp only [handleMessage_user_of_gated hgate]
        exact .kept _
    | true =>
        cases hmessage : envelope.message with
        | hello request => exact hello_session state session request
        | ping request => exact .kept _
        | timeSync request => exact .kept _
        | authenticate request => exact authenticate_session state session request
        | _ =>
            rw [hmessage] at hgate
            cases hgate

/-! ## User ids -/

theorem update_next_user_id {request : Option ClientControl} {state state' : ControlState}
    {u : UserId} (hupdate : Update request u state state') :
    state.next_user_id ≤ state'.next_user_id := by
  cases hupdate with
  | named n name hello hnext hrequest =>
      rcases hnext with h | ⟨-, h⟩
      · exact le_of_eq h.symm
      · exact le_of_le_of_eq (Nat.le_succ _) h.symm
  | left r =>
      obtain ⟨-, -, -, -, hnext⟩ := leaveRoom_fixed state u r
      exact le_of_eq hnext.symm
  | unpublished r room s stream hroom hstream hpublisher =>
      refine le_of_eq (Eq.symm ?_)
      exact removeRoomIfEmpty_fixed ControlState.next_user_id (fun _ _ _ => rfl) _ _
  | retargeted s b f w ht hpublisher =>
      exact le_of_eq
        (updateStreamTarget_fixed ControlState.next_user_id (fun _ _ => rfl) _ _ _ _ _ _).symm
  | inputPolled r room s stream n hroom hstream hpublisher =>
      exact le_of_eq
        (drainRemoteInput_fixed ControlState.next_user_id (fun _ _ => rfl) _ _ _).symm
  | _ => exact le_refl _

/-- The requests that let their user into a room. -/
def admits : Option ClientControl → Bool
  | some (.createRoom _) | some (.joinRoom _) => true
  | _ => false

/-- A user enters a room only by an update of its own, for one of these requests. -/
theorem update_participants {request : Option ClientControl} {state state' : ControlState}
    (h : RoomsOk state) {u : UserId} (hupdate : Update request u state state') {r : RoomId}
    {room' : Room} {v : UserId} (hroom' : state'.rooms[r]? = some room')
    (hv : v ∈ room'.participants) :
    (v = u ∧ admits request = true) ∨
      ∃ room : Room, state.rooms[r]? = some room ∧ v ∈ room.participants := by
  -- most updates replace one room by a room with the same participants
  have hset : ∀ (a : RoomId) (old new : Room), state.rooms[a]? = some old →
      (∀ w, w ∈ new.participants → (w = u ∧ admits request = true) ∨ w ∈ old.participants) →
        (state.setRoom a new).rooms[r]? = some room' →
          (v = u ∧ admits request = true) ∨
            ∃ room : Room, state.rooms[r]? = some room ∧ v ∈ room.participants := by
    intro a old new hold hsame hget
    rw [get_setRoom] at hget
    split at hget
    · next heq =>
        subst heq
        obtain rfl := Option.some.inj hget
        rcases hsame v hv with hvu | hin
        · exact .inl hvu
        · exact .inr ⟨old, hold, hin⟩
    · exact .inr ⟨room', hget, hv⟩
  cases hupdate with
  | created name create hlimit hrequest =>
      have hget : (state.rooms.insert state.next_room_id
          ((Room.new state.next_room_id name).join u))[r]? = some room' := hroom'
      rw [BTree.get_insert] at hget
      split at hget
      · obtain rfl := Option.some.inj hget
        -- a new room has its creator alone
        rcases (Room.mem_join _ _ _).mp hv with hvu | hin
        · exact .inl ⟨hvu, by rw [hrequest]; rfl⟩
        · exact absurd hin Std.ExtTreeSet.not_mem_empty
      · exact .inr ⟨room', hget, hv⟩
  | joined a room hroom hlimit hrequest =>
      refine hset a room (room.join u) hroom (fun w hw => ?_) hroom'
      rcases (Room.mem_join _ _ _).mp hw with hwu | hin
      · exact .inl ⟨hwu, by rw [hrequest]; rfl⟩
      · exact .inr hin
  | left a => exact .inr (leaveRoom_participants hroom' hv)
  | published room publish hroom hmember hnew hlimit =>
      exact hset _ room (room.publishStream (freshStream publish u)) hroom
        (fun w hw => .inr hw) hroom'
  | unpublished a room s stream hroom hstream hpublisher =>
      rw [unpublish_eq h hroom] at hroom'
      exact hset a room (room.removePublishedStream s) hroom (fun w hw => .inr hw) hroom'
  | subscribed a room new s hroom hmember hsub hrequest =>
      refine hset a room new hroom (fun w hw => .inr ?_) hroom'
      rw [(Room.subscribe_fixed hsub).2] at hw
      exact hw
  | unsubscribed a room s hroom =>
      refine hset a room (room.unsubscribe s u) hroom (fun w hw => .inr ?_) hroom'
      rw [(Room.unsubscribe_fixed room s u).2] at hw
      exact hw
  | configured room stream config hroom hstream hpublisher hcodec =>
      exact hset _ room
        (setStream room config.stream_id (withConfig stream (clampedConfig config))) hroom
        (fun w hw => .inr hw) hroom'
  | retargeted s b f w ht hpublisher =>
      rcases state.updateStreamTarget_cases s b f w ht with
        ⟨-, heq⟩ | ⟨a, room, stream, hroom, hstream, heq⟩
      · rw [heq] at hroom'
        exact .inr ⟨room', hroom', hv⟩
      · rw [heq] at hroom'
        exact hset a room (setStream room s (withTarget stream b f w ht)) hroom
          (fun w hw => .inr hw) hroom'
  | inputPolled a room s stream n hroom hstream hpublisher =>
      rw [drainRemoteInput_fixed ControlState.rooms (fun _ _ => rfl)] at hroom'
      exact .inr ⟨room', hroom', hv⟩
  | _ => exact .inr ⟨room', hroom', hv⟩

/-- A session that gets its user from an envelope gets the next free id. -/
theorem handleClientEnvelope_new_user {state : ControlState} {session : Session} {clock : Clock}
    {envelope : ClientEnvelope} {u : UserId} (hnone : session.user_id = none)
    (hu : (state.handleClientEnvelope session clock envelope).session.user_id = some u) :
    u = state.next_user_id ∧
      (state.handleClientEnvelope session clock envelope).state.next_user_id = u + 1 ∧
      (state.handleClientEnvelope session clock envelope).state.rooms = state.rooms := by
  unfold handleClientEnvelope at hu ⊢
  cases hauth : state.authorizationError session envelope.message with
  | some error =>
      rw [hauth] at hu
      simp only [hnone] at hu
      cases hu
  | none =>
      rw [hauth] at hu
      simp only at hu ⊢
      cases hgate : ungated envelope.message with
      | false =>
          -- a gated message leaves the user of its session alone
          rw [handleMessage_user_of_gated hgate, hnone] at hu
          cases hu
      | true =>
          cases hmessage : envelope.message with
          | hello request =>
              rw [hmessage] at hu
              simp only [handleMessage, hello] at hu ⊢
              split at hu
              · rw [hnone] at hu
                cases hu
              · next hversion =>
                  -- the accepted `Hello` is the one message that hands out the next id
                  simp only [hnone, Option.isNone_none, Option.getD_none, if_true,
                    Session.establishIdentity] at hu
                  obtain rfl := Option.some.inj hu
                  simp [hversion, hnone]
          | ping request =>
              rw [hmessage] at hu
              exact absurd (hnone.symm.trans hu) (by simp)
          | timeSync request =>
              rw [hmessage] at hu
              exact absurd (hnone.symm.trans hu) (by simp)
          | authenticate request =>
              rw [hmessage] at hu
              simp [handleMessage, authenticate, hnone] at hu
          | _ =>
              rw [hmessage] at hgate
              cases hgate

theorem updates_participants {request : Option ClientControl} {state state' : ControlState}
    (h : RoomInvariant state) {u : UserId} (hupdates : Updates request u state state')
    {r : RoomId} {room' : Room} {v : UserId} (hroom' : state'.rooms[r]? = some room')
    (hv : v ∈ room'.participants) :
    (v = u ∧ admits request = true) ∨
      ∃ room : Room, state.rooms[r]? = some room ∧ v ∈ room.participants := by
  induction hupdates generalizing room' with
  | refl => exact .inr ⟨room', hroom', hv⟩
  | tail hbefore hlast ih =>
      rcases update_participants (updates_roomInvariant h hbefore).toRoomsOk hlast hroom' hv with
        hvu | ⟨room, hroom, hin⟩
      · exact .inl hvu
      · exact ih hroom hin

/-- The session may use the gated requests as user `u`. -/
def Authorized (state : ControlState) (session : Session) (u : UserId) : Prop :=
  session.user_id = some u ∧ (state.requiresAccessToken = true → session.access_granted = true)

theorem authorized_of_gated {state : ControlState} {session : Session} {message : ClientControl}
    (hgate : ungated message = false)
    (hauth : state.authorizationError session message = none) :
    ∃ u, state.Authorized session u := by
  rw [authorizationError_gated hgate] at hauth
  cases huser : session.user_id with
  | none =>
      rw [huser] at hauth
      cases hauth
  | some u =>
      refine ⟨u, huser, fun hrequires => ?_⟩
      rw [huser, hrequires] at hauth
      cases hgranted : session.access_granted with
      | true => rfl
      | false =>
          rw [hgranted] at hauth
          cases hauth

theorem authorizationError_of_authorized {state : ControlState} {session : Session} {u : UserId}
    (h : state.Authorized session u) (message : ClientControl) :
    state.authorizationError session message = none := by
  cases hgate : ungated message with
  | true => exact authorizationError_ungated hgate state session
  | false =>
      rw [authorizationError_gated hgate, h.1]
      cases hrequires : state.requiresAccessToken with
      | true => simp [h.2 hrequires]
      | false => simp

/-- The four requests that need no access leave the rooms alone. -/
theorem handleMessage_rooms_of_ungated {message : ClientControl} (hgate : ungated message = true)
    (state : ControlState) (session : Session) (clock : Clock) :
    (state.handleMessage session clock message).state.rooms = state.rooms := by
  cases message with
  | hello request =>
      simp only [handleMessage, hello]
      split <;> rfl
  | ping request => rfl
  | timeSync request => rfl
  | authenticate request => rfl
  | _ => cases hgate

/-- Whoever is a participant after an envelope was one before, or is the authorized user of the
session. -/
theorem handleClientEnvelope_participants {state : ControlState} (h : RoomInvariant state)
    {session : Session} {clock : Clock} {envelope : ClientEnvelope} {r : RoomId} {room' : Room}
    {v : UserId}
    (hroom' : (state.handleClientEnvelope session clock envelope).state.rooms[r]? = some room')
    (hv : v ∈ room'.participants) :
    (∃ room : Room, state.rooms[r]? = some room ∧ v ∈ room.participants) ∨
      (state.Authorized session v ∧
        (state.handleClientEnvelope session clock envelope).session = session) := by
  unfold handleClientEnvelope at hroom' ⊢
  cases hauth : state.authorizationError session envelope.message with
  | some error =>
      rw [hauth] at hroom'
      exact .inl ⟨room', hroom', hv⟩
  | none =>
      rw [hauth] at hroom'
      simp only at hroom' ⊢
      cases hgate : ungated envelope.message with
      | true =>
          rw [handleMessage_rooms_of_ungated hgate] at hroom'
          exact .inl ⟨room', hroom', hv⟩
      | false =>
          have hsession := handleMessage_user_of_gated hgate state session clock
          obtain ⟨u, hu⟩ := authorized_of_gated hgate hauth
          have huser : (state.handleMessage session clock
              envelope.message).session.user_id = some u := by
            rw [hsession]
            exact hu.1
          have hchain := handleMessage_updates huser
          rcases updates_participants h hchain hroom' hv with ⟨rfl, -⟩ | hold
          · exact .inr ⟨hu, hsession⟩
          · exact .inl hold

end ControlState

namespace ControlSystem

open ControlState

/-! ## The invariant of users and participants -/

structure IdentityInvariant (system : ControlSystem) : Prop where
  user_fresh : ∀ i u, (system.sessions i).user_id = some u → u < system.control.next_user_id
  user_unique : ∀ i j u, (system.sessions i).user_id = some u →
    (system.sessions j).user_id = some u → i = j
  participant_backed : ∀ (r : RoomId) (room : Room) (u : UserId),
    system.control.rooms[r]? = some room → u ∈ room.participants →
      ∃ i, system.control.Authorized (system.sessions i) u

/-- A session keeps its user, and gets its first one with the next free id. -/
theorem sessionUpdate_user {state : ControlState} {session session' : Session}
    {message : ClientControl} (h : SessionUpdate state session message session') :
    session'.user_id = session.user_id ∨
      (session.user_id = none ∧ session'.user_id = some state.next_user_id) := by
  cases h with
  | kept => exact .inl rfl
  | identified hello name hversion huser => exact .inr ⟨huser, rfl⟩
  | renamed hello name hversion huser => exact .inl rfl
  | granted authenticate huser htoken => exact .inl rfl

/-- A grant is never taken back from a session that has a user. -/
theorem sessionUpdate_authorized {state state' : ControlState} {session session' : Session}
    {message : ClientControl} (h : SessionUpdate state session message session')
    (htoken : state'.access_token = state.access_token) {u : UserId}
    (hu : state.Authorized session u) : state'.Authorized session' u := by
  have hrequires : state'.requiresAccessToken = state.requiresAccessToken := by
    rw [requiresAccessToken, requiresAccessToken, htoken]
  cases h with
  | kept => exact ⟨hu.1, fun hreq => hu.2 (hrequires ▸ hreq)⟩
  | identified hello name hversion huser =>
      rw [hu.1] at huser
      cases huser
  | renamed hello name hversion huser => exact ⟨hu.1, fun hreq => hu.2 (hrequires ▸ hreq)⟩
  | granted authenticate huser htoken => exact ⟨hu.1, fun _ => rfl⟩

theorem envelope_identityInvariant {system : ControlSystem} (hrooms : RoomInvariant system.control)
    (h : IdentityInvariant system) (i : Nat) (clock : Clock) (envelope : ClientEnvelope) :
    IdentityInvariant (system.step (.envelope i clock envelope)) := by
  have hsession := handleClientEnvelope_session system.control (system.sessions i) clock envelope
  have htoken := (system.step_settings (.envelope i clock envelope)).2
  have hself : (system.step (.envelope i clock envelope)).sessions i
      = (system.reply i clock envelope).session := Function.update_self _ _ _
  have hother : ∀ j, j ≠ i → (system.step (.envelope i clock envelope)).sessions j
      = system.sessions j := fun j hj => Function.update_of_ne hj _ _
  have hnext : system.control.next_user_id
      ≤ (system.step (.envelope i clock envelope)).control.next_user_id :=
    handleClientEnvelope_induction
      (P := fun st => system.control.next_user_id ≤ st.next_user_id) (le_refl _)
      (system.sessions i) clock envelope
      (fun u st st' hupdate hle => le_trans hle (update_next_user_id hupdate))
  -- a user of the acting session is its old one, or the id that was free before
  have hactor : ∀ u, (system.reply i clock envelope).session.user_id = some u →
      (system.sessions i).user_id = some u ∨
        (u = system.control.next_user_id ∧
          u < (system.step (.envelope i clock envelope)).control.next_user_id) := by
    intro u hu
    rcases sessionUpdate_user hsession with hsame | ⟨hnone, hfirst⟩
    · exact .inl (hsame.symm.trans hu)
    · obtain ⟨hid, hbump, -⟩ := handleClientEnvelope_new_user hnone hu
      refine .inr ⟨hid, ?_⟩
      exact lt_of_lt_of_eq (Nat.lt_succ_self u) hbump.symm
  refine ⟨?_, ?_, ?_⟩
  · -- every user is below the counter
    intro j u hu
    by_cases hj : j = i
    · subst hj
      rw [hself] at hu
      rcases hactor u hu with hold | ⟨-, hlt⟩
      · exact lt_of_lt_of_le (h.user_fresh j u hold) hnext
      · exact hlt
    · rw [hother j hj] at hu
      exact lt_of_lt_of_le (h.user_fresh j u hu) hnext
  · -- the free id belongs to no other session
    have hdistinct : ∀ j u, j ≠ i → (system.reply i clock envelope).session.user_id = some u →
        (system.sessions j).user_id = some u → False := by
      intro j u hj hu hold
      rcases hactor u hu with hsame | ⟨hid, -⟩
      · exact hj (h.user_unique j i u hold hsame)
      · exact absurd (h.user_fresh j u hold) (by rw [hid]; exact Nat.lt_irrefl _)
    intro j k u hju hku
    by_cases hj : j = i
    · by_cases hk : k = i
      · rw [hj, hk]
      · rw [hj, hself] at hju
        rw [hother k hk] at hku
        exact (hdistinct k u hk hju hku).elim
    · rw [hother j hj] at hju
      by_cases hk : k = i
      · rw [hk, hself] at hku
        exact (hdistinct j u hj hku hju).elim
      · rw [hother k hk] at hku
        exact h.user_unique j k u hju hku
  · -- a participant is backed by the session it had, or by the acting one
    intro r room' u hroom' hu
    rcases handleClientEnvelope_participants hrooms hroom' hu with ⟨room, hroom, hin⟩ | ⟨hau, hsame⟩
    · obtain ⟨j, hj⟩ := h.participant_backed r room u hroom hin
      refine ⟨j, ?_⟩
      by_cases hji : j = i
      · subst hji
        rw [hself]
        exact sessionUpdate_authorized hsession htoken hj
      · rw [hother j hji]
        exact sessionUpdate_authorized (.kept envelope.message) htoken hj
    · refine ⟨i, ?_⟩
      rw [hself, show (system.reply i clock envelope).session = _ from hsame]
      exact sessionUpdate_authorized (.kept envelope.message) htoken hau

/-- Events that neither change a session nor let a user enter a room. -/
theorem IdentityInvariant.of_shrink {system system' : ControlSystem}
    (h : IdentityInvariant system) (hsessions : system'.sessions = system.sessions)
    (hnext : system.control.next_user_id ≤ system'.control.next_user_id)
    (htoken : system'.control.access_token = system.control.access_token)
    (hparticipants : ∀ (r : RoomId) (room' : Room) (u : UserId),
      system'.control.rooms[r]? = some room' → u ∈ room'.participants →
        ∃ room : Room, system.control.rooms[r]? = some room ∧ u ∈ room.participants) :
    IdentityInvariant system' where
  user_fresh i u hu := by
    rw [hsessions] at hu
    exact lt_of_lt_of_le (h.user_fresh i u hu) hnext
  user_unique i j u hi hj := by
    rw [hsessions] at hi hj
    exact h.user_unique i j u hi hj
  participant_backed r room' u hroom' hu := by
    obtain ⟨room, hroom, hin⟩ := hparticipants r room' u hroom' hu
    obtain ⟨i, hi⟩ := h.participant_backed r room u hroom hin
    refine ⟨i, ?_⟩
    rw [hsessions]
    exact sessionUpdate_authorized (.kept .listRooms) htoken hi

theorem step_identityInvariant {system : ControlSystem} (hrooms : RoomInvariant system.control)
    (h : IdentityInvariant system) (event : ControlEvent) :
    IdentityInvariant (system.step event) := by
  have hsettings := system.step_settings event
  cases event with
  | envelope i clock envelope => exact envelope_identityInvariant hrooms h i clock envelope
  | disconnect u =>
      refine h.of_shrink rfl ?_ hsettings.2 ?_
      · exact disconnectUser_induction
          (P := fun st => system.control.next_user_id ≤ st.next_user_id) (le_refl _) u
          (fun st st' hupdate hle => le_trans hle (update_next_user_id hupdate))
      · exact fun r room' v hroom' hv => leaveRooms_participants hroom' hv
  | recordForward packet summary bytes received route =>
      have hrooms : (system.step (.recordForward packet summary bytes received
          route)).control.rooms = system.control.rooms :=
        recordMediaForwardSummary_fixed ControlState.rooms (fun _ _ => rfl) _ _ _ _ _ _
      have hnext : (system.step (.recordForward packet summary bytes received
          route)).control.next_user_id = system.control.next_user_id :=
        recordMediaForwardSummary_fixed ControlState.next_user_id (fun _ _ => rfl) _ _ _ _ _ _
      refine h.of_shrink rfl (le_of_eq hnext.symm) hsettings.2 ?_
      intro r room' u hroom' hu
      rw [hrooms] at hroom'
      exact ⟨room', hroom', hu⟩

theorem initial_identityInvariant {control : ControlState} (h : control.Initial) :
    IdentityInvariant (start control) where
  user_fresh i u hu := by cases hu
  user_unique i j u hi := by cases hi
  participant_backed r room u hroom := by
    have hempty : control.rooms = ∅ := by cases h <;> rfl
    simp only [start, hempty, Std.ExtTreeMap.getElem?_empty] at hroom
    cases hroom

theorem reachable_identityInvariant {system : ControlSystem} (h : system.Reachable) :
    IdentityInvariant system := by
  have hboth : RoomInvariant system.control ∧ IdentityInvariant system := by
    refine Runs.Reachable.induction
      (P := fun sys => RoomInvariant sys.control ∧ IdentityInvariant sys) ?_ ?_ h
    · rintro _ ⟨control, hinitial, rfl⟩
      exact ⟨initial_roomInvariant hinitial, initial_identityInvariant hinitial⟩
    · rintro sys event ⟨hrooms, hidentity⟩
      exact ⟨step_roomInvariant sys event hrooms, step_identityInvariant hrooms hidentity event⟩
  exact hboth.2

end ControlSystem

end TeamView.Relay
