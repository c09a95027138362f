import TeamView.Relay.Identity

set_option autoImplicit false

/-! # Users that are away

A user is away when it is in no room and has no display name (`Away`); then it publishes and
subscribes to nothing either. `disconnect_user` leaves its user away, and a user stays away until
it says `Hello` again or enters a room (`handleClientEnvelope_away`).
-/

namespace TeamView.Relay

open TeamView.Protocol BTree Runs Relation

namespace ControlState

variable {state state' : ControlState} {request : Option ClientControl} {u v : UserId}

structure Away (state : ControlState) (v : UserId) : Prop where
  participant : ∀ (r : RoomId) (room : Room), state.rooms[r]? = some room →
    v ∉ room.participants
  display_name : state.display_names[v]? = none

theorem Away.publishes (h : Away state v) (hrooms : RoomsOk state) (s : StreamId) :
    ¬ state.Publishes v s := by
  rintro ⟨r, stream, ⟨room, hroom, hstream⟩, rfl⟩
  exact h.participant r room hroom ((hrooms.room_ok r room hroom).publisher_inside s stream hstream)

theorem Away.subscribes (h : Away state v) (hrooms : RoomsOk state) (s : StreamId) :
    ¬ state.Subscribes v s := by
  rintro ⟨r, room, hroom, -, hin⟩
  exact h.participant r room hroom ((hrooms.room_ok r room hroom).subscriber_mem hin)

/-! ## Staying away -/

theorem leaveRooms_display_names (state : ControlState) (u : UserId) (rooms : List RoomId) :
    (state.leaveRooms u rooms).display_names = state.display_names :=
  run_fixed (fun (state : ControlState) r => state.leaveRoom u r) ControlState.display_names
    (fun state r => (leaveRoom_fixed state u r).1) state rooms

/-- A display name is written by `Hello`, for the user of the session. -/
theorem update_display_names (hupdate : Update request u state state') :
    state'.display_names = state.display_names ∨
      state'.display_names = state.display_names.erase u ∨
        ∃ hello name, request = some (.hello hello) ∧
          state'.display_names = state.display_names.insert u name := by
  cases hupdate with
  | named n name hello hnext hrequest => exact .inr (.inr ⟨hello, name, hrequest, rfl⟩)
  | left r => exact .inl (leaveRoom_fixed state u r).1
  | unpublished r room s stream hroom hstream hpublisher =>
      exact .inl (removeRoomIfEmpty_fixed ControlState.display_names (fun _ _ _ => rfl) _ _)
  | retargeted s b f w ht hpublisher =>
      exact .inl
        (updateStreamTarget_fixed ControlState.display_names (fun _ _ => rfl) _ _ _ _ _ _)
  | inputPolled r room s stream n hroom hstream hpublisher =>
      exact .inl (drainRemoteInput_fixed ControlState.display_names (fun _ _ => rfl) _ _ _)
  | forgotten hrequest => exact .inr (.inl rfl)
  | _ => exact .inl rfl

/-- A user stays away through the updates of others, and through its own unless they serve one
of the requests that bring a user in. -/
theorem update_away (hrooms : RoomsOk state) (h : Away state v)
    (hrequest : v = u → admits request = false ∧ ∀ hello, request ≠ some (.hello hello))
    (hupdate : Update request u state state') : Away state' v where
  participant r room' hroom' hin := by
    rcases update_participants hrooms hupdate hroom' hin with ⟨hvu, hadmits⟩ | ⟨room, hroom, hold⟩
    · rw [(hrequest hvu).1] at hadmits
      cases hadmits
    · exact h.participant r room hroom hold
  display_name := by
    rcases update_display_names hupdate with hsame | herased | ⟨hello, name, hhello, hinsert⟩
    · rw [hsame]
      exact h.display_name
    · rw [herased, get_erase, h.display_name]
      split <;> rfl
    · have hne : v ≠ u := fun hvu => (hrequest hvu).2 hello hhello
      rw [hinsert, get_insert, if_neg hne]
      exact h.display_name

theorem updates_away (hinv : RoomInvariant state) (h : Away state v)
    (hrequest : v = u → admits request = false ∧ ∀ hello, request ≠ some (.hello hello))
    (hchain : Updates request u state state') : Away state' v := by
  induction hchain with
  | refl => exact h
  | tail hbefore hlast ih =>
      exact update_away (updates_roomInvariant hinv hbefore).toRoomsOk ih hrequest hlast

/-! ## What brings a user in -/

/-- The relay would let the session in with this request: it passes the authorization check and
is a `Hello` of the right version, or a request for a room that has space. -/
def Enters (state : ControlState) (session : Session) (message : ClientControl) : Prop :=
  state.authorizationError session message = none ∧
    match message with
    | .hello hello => hello.protocol_version = protocolVersion
    | .createRoom _ => state.rooms.size < state.limits.max_rooms
    | .joinRoom join => ∃ (room : Room) (u : UserId), state.rooms[join.room_id]? = some room ∧
        session.user_id = some u ∧
          (u ∈ room.participants ∨ room.participants.size < state.limits.max_participants_per_room)
    | _ => False

/-- A request that would bring a user in, but is refused, changes nothing. -/
theorem handleMessage_refused {session : Session} {clock : Clock} {message : ClientControl}
    (hauth : state.authorizationError session message = none)
    (hnot : ¬ state.Enters session message)
    (hkind : admits (some message) = true ∨ ∃ hello, message = .hello hello) :
    (state.handleMessage session clock message).state = state := by
  rcases hkind with hadmits | ⟨hello, rfl⟩
  · cases message with
    | createRoom create =>
        have hfull : ¬ state.rooms.size < state.limits.max_rooms := fun hlt => hnot ⟨hauth, hlt⟩
        simp only [handleMessage, Handled.of, createRoom]
        split
        · rfl
        · rw [if_pos (Nat.le_of_not_lt hfull)]
    | joinRoom join =>
        simp only [handleMessage, Handled.of, joinRoom]
        split
        · rfl
        · next room hroom =>
            split
            · rfl
            · next u huser =>
                split
                · rfl
                · next hspace =>
                    refine absurd ⟨hauth, room, u, hroom, huser, ?_⟩ hnot
                    rw [← Std.ExtTreeSet.contains_iff_mem]
                    simp only [Bool.and_eq_true, Bool.not_eq_true', decide_eq_true_eq,
                      not_and] at hspace
                    by_cases hin : room.participants.contains u = true
                    · exact .inl hin
                    · exact .inr (Nat.lt_of_not_le (hspace (Bool.eq_false_iff.mpr hin)))
    | _ => cases hadmits
  · have hversion : hello.protocol_version ≠ protocolVersion := fun heq => hnot ⟨hauth, heq⟩
    simp only [handleMessage, ControlState.hello, if_pos hversion]

/-- A user stays away through every envelope of the other sessions, and through those of its own
session that do not let it in. -/
theorem handleClientEnvelope_away (hinv : RoomInvariant state) {session : Session} {clock : Clock}
    {envelope : ClientEnvelope} (h : Away state v)
    (hown : (state.handleClientEnvelope session clock envelope).session.user_id = some v →
      ¬ state.Enters session envelope.message) :
    Away (state.handleClientEnvelope session clock envelope).state v := by
  obtain ⟨hsome, hnone⟩ := handleClientEnvelope_updates state session clock envelope
  cases huser : (state.handleClientEnvelope session clock envelope).session.user_id with
  | none =>
      rw [hnone huser]
      exact h
  | some u =>
      by_cases hkind : v = u ∧
          (admits (some envelope.message) = true ∨ ∃ hello, envelope.message = .hello hello)
      · -- the request is one that could let the user in, so it was refused
        obtain ⟨rfl, hkind⟩ := hkind
        have hnot := hown huser
        unfold handleClientEnvelope
        cases hauth : state.authorizationError session envelope.message with
        | some error => exact h
        | none =>
            simp only
            rw [handleMessage_refused hauth hnot hkind]
            exact h
      · refine updates_away hinv h (fun hvu => ?_) (hsome u huser)
        obtain ⟨hstays, hsilent⟩ := not_or.mp fun hk => hkind ⟨hvu, hk⟩
        refine ⟨Bool.eq_false_iff.mpr hstays, fun hello heq => ?_⟩
        exact hsilent ⟨hello, Option.some.inj heq⟩

/-! ## Disconnecting -/

/-- A room that the user has left does not have it back. -/
theorem leaveRooms_not_mem {rooms : List RoomId} {a : RoomId} {room' : Room}
    (ha : a ∈ rooms) (hroom' : (state.leaveRooms u rooms).rooms[a]? = some room') :
    u ∉ room'.participants := by
  intro hin
  obtain ⟨before, after, rfl⟩ := List.append_of_mem ha
  have hsplit : state.leaveRooms u (before ++ a :: after)
      = ((state.leaveRooms u before).leaveRoom u a).leaveRooms u after := by
    unfold leaveRooms
    rw [run_append, run_cons]
  rw [hsplit] at hroom'
  obtain ⟨room, hroom, hold⟩ := leaveRooms_participants hroom' hin
  cases hget : (state.leaveRooms u before).rooms[a]? with
  | none =>
      rw [leaveRoom_of_none hget, hget] at hroom
      cases hroom
  | some room₀ =>
      rw [leaveRoom_rooms hget, if_pos rfl] at hroom
      split at hroom
      · cases hroom
      · obtain rfl := Option.some.inj hroom
        exact ((Room.mem_depart _ _ _).mp hold).1 rfl

theorem mem_affectedRooms {r : RoomId} {room : Room} (hroom : state.rooms[r]? = some room)
    (hin : u ∈ room.participants) : r ∈ state.affectedRooms u := by
  unfold affectedRooms
  rw [List.mem_map]
  refine ⟨(r, room), List.mem_filter.mpr ⟨?_, ?_⟩, rfl⟩
  · exact Std.ExtTreeMap.mem_toList_iff_getElem?_eq_some.mpr hroom
  · rw [Bool.or_eq_true]
    exact .inl (Std.ExtTreeSet.contains_iff_mem.mpr hin)

theorem disconnectUser_away (state : ControlState) (u : UserId) :
    Away (state.disconnectUser u) u where
  participant r room' hroom' hin := by
    rw [disconnectUser_eq] at hroom'
    obtain ⟨room, hroom, hold⟩ := leaveRooms_participants hroom' hin
    exact leaveRooms_not_mem (mem_affectedRooms hroom hold) hroom' hin
  display_name := by
    rw [disconnectUser_eq, forgetUser, get_erase, if_pos rfl]

/-- Another user's disconnect brings nobody back. -/
theorem Away.disconnectUser (h : Away state v) (u : UserId) : Away (state.disconnectUser u) v where
  participant r room' hroom' hin := by
    rw [disconnectUser_eq] at hroom'
    obtain ⟨room, hroom, hold⟩ := leaveRooms_participants hroom' hin
    exact h.participant r room hroom hold
  display_name := by
    rw [disconnectUser_eq, forgetUser, get_erase, leaveRooms_display_names, h.display_name]
    split <;> rfl

end ControlState

end TeamView.Relay
