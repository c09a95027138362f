import TeamView.Relay.PlainNames
import TeamView.Relay.RoomChanges

set_option autoImplicit false

/-! # Where the names of rooms come from

The requests that created rooms are kept beside a run (`CreationLog`). Every room of a reachable
relay has its request there, and its name is the sanitised name of that request
(`Reachable.namesKept`): no other request and no departure renames a room.
-/

namespace TeamView.Relay

open TeamView.Protocol BTree Runs Relation

/-- A relay with the rooms that were created so far: the id, and the name that was asked for. -/
structure CreationLog where
  system : ControlSystem
  created : List (RoomId × String)

namespace CreationLog

/-- The room that an answer to a request announces. -/
def creationOf : ClientControl → ServerControl → Option (RoomId × String)
  | .createRoom create, .roomCreated created => some (created.room_id, create.name)
  | _, _ => none

/-- The room that an event creates. -/
def creation (system : ControlSystem) : ControlEvent → Option (RoomId × String)
  | .envelope i clock envelope =>
      creationOf envelope.message (system.reply i clock envelope).response.message
  | _ => none

def step (log : CreationLog) (event : ControlEvent) : CreationLog where
  system := log.system.step event
  created := log.created ++ (creation log.system event).toList

def start (control : ControlState) : CreationLog where
  system := .start control
  created := []

/-- A relay that some run reaches, with the log of that run. -/
def Reachable : CreationLog → Prop :=
  Runs.Reachable step fun log => ∃ control : ControlState, control.Initial ∧ log = start control

end CreationLog

namespace ControlState

/-- The log names every room there is, and as the relay does. -/
structure NamesKept (state : ControlState) (created : List (RoomId × String)) : Prop where
  fresh : ∀ r name, (r, name) ∈ created → r < state.next_room_id
  named : ∀ (r : RoomId) (room : Room), state.rooms[r]? = some room →
    ∃ name, (r, name) ∈ created
  kept : ∀ r name, (r, name) ∈ created → ∀ room : Room, state.rooms[r]? = some room →
    room.name = sanitizeRoomName name r

/-- No room is new and none has a new name. -/
structure SameNames (state state' : ControlState) : Prop where
  next : state'.next_room_id = state.next_room_id
  rooms : ∀ (r : RoomId) (room' : Room), state'.rooms[r]? = some room' →
    ∃ room : Room, state.rooms[r]? = some room ∧ room'.name = room.name

variable {state state' : ControlState} {request : Option ClientControl} {u : UserId}
  {created : List (RoomId × String)}

theorem SameNames.refl (state : ControlState) : SameNames state state where
  next := rfl
  rooms _ room hroom := ⟨room, hroom, rfl⟩

theorem SameNames.trans {state'' : ControlState} (h : SameNames state state')
    (h' : SameNames state' state'') : SameNames state state'' where
  next := h'.next.trans h.next
  rooms r room'' hroom'' := by
    obtain ⟨room', hroom', hname'⟩ := h'.rooms r room'' hroom''
    obtain ⟨room, hroom, hname⟩ := h.rooms r room' hroom'
    exact ⟨room, hroom, hname'.trans hname⟩

theorem NamesKept.of_sameNames (h : NamesKept state created) (hsame : SameNames state state') :
    NamesKept state' created where
  fresh r name hmem := by
    rw [hsame.next]
    exact h.fresh r name hmem
  named r room' hroom' := by
    obtain ⟨room, hroom, -⟩ := hsame.rooms r room' hroom'
    exact h.named r room hroom
  kept r name hmem room' hroom' := by
    obtain ⟨room, hroom, hname⟩ := hsame.rooms r room' hroom'
    exact hname.trans (h.kept r name hmem room hroom)

/-- Only a `CreateRoom` hands out a room id. -/
theorem update_next_room_id (hrequest : ∀ create, request ≠ some (.createRoom create))
    (hupdate : Update request u state state') : state'.next_room_id = state.next_room_id := by
  cases hupdate with
  | created name create hlimit hcreate => exact absurd hcreate (hrequest create)
  | left r => exact (leaveRoom_fixed state u r).2.2.2.1
  | unpublished r room s stream hroom hstream hpublisher =>
      exact removeRoomIfEmpty_fixed ControlState.next_room_id (fun _ _ _ => rfl) _ _
  | retargeted s b f w ht hpublisher =>
      exact updateStreamTarget_fixed ControlState.next_room_id (fun _ _ => rfl) _ _ _ _ _ _
  | inputPolled r room s stream n hroom hstream hpublisher =>
      exact drainRemoteInput_fixed ControlState.next_room_id (fun _ _ => rfl) _ _ _
  | _ => rfl

theorem update_sameNames (hrooms : RoomsOk state)
    (hrequest : ∀ create, request ≠ some (.createRoom create))
    (hupdate : Update request u state state') : SameNames state state' where
  next := update_next_room_id hrequest hupdate
  rooms r room' hroom' := by
    have hchange := update_room hrooms hupdate r
    rw [hroom'] at hchange
    generalize state.rooms[r]? = place at hchange
    cases hchange with
    | created hcreate => exact absurd hcreate (hrequest _)
    | kept hkept => exact ⟨_, rfl, hkept.name⟩

theorem updates_sameNames (h : RoomInvariant state)
    (hrequest : ∀ create, request ≠ some (.createRoom create))
    (hchain : Updates request u state state') : SameNames state state' := by
  induction hchain with
  | refl => exact .refl state
  | tail hbefore hlast ih =>
      exact ih.trans
        (update_sameNames (updates_roomInvariant h hbefore).toRoomsOk hrequest hlast)

/-- A room that is created has its request at the end of the log. -/
theorem NamesKept.insert (h : NamesKept state created) {room : Room} {name : String}
    (hname : room.name = sanitizeRoomName name state.next_room_id)
    (hnext : state'.next_room_id = state.next_room_id + 1)
    (hrooms : state'.rooms = state.rooms.insert state.next_room_id room) :
    NamesKept state' (created ++ [(state.next_room_id, name)]) where
  fresh r name' hmem := by
    rw [hnext]
    rcases List.mem_append.mp hmem with hold | hnew
    · exact Nat.lt_succ_of_lt (h.fresh r name' hold)
    · cases List.mem_singleton.mp hnew
      exact Nat.lt_succ_self _
  named r room' hroom' := by
    rw [hrooms, BTree.get_insert] at hroom'
    split at hroom'
    · next heq =>
        refine ⟨name, List.mem_append_right _ ?_⟩
        rw [heq]
        exact List.mem_singleton_self _
    · obtain ⟨name', hmem⟩ := h.named r room' hroom'
      exact ⟨name', List.mem_append_left _ hmem⟩
  kept r name' hmem room' hroom' := by
    rw [hrooms, BTree.get_insert] at hroom'
    rcases List.mem_append.mp hmem with hold | hnew
    · have hlt := h.fresh r name' hold
      rw [if_neg (Nat.ne_of_lt hlt)] at hroom'
      exact h.kept r name' hold room' hroom'
    · cases List.mem_singleton.mp hnew
      rw [if_pos rfl, Option.some.injEq] at hroom'
      rw [← hroom']
      exact hname

/-- `CreateRoom` is refused, or opens the next room under its sanitised name. -/
theorem createRoom_cases (state : ControlState) (session : Session) (create : CreateRoom) :
    (∃ error, state.createRoom session create = (state, .error error)) ∨
      ∃ room : Room, room.name = sanitizeRoomName create.name state.next_room_id ∧
        (state.createRoom session create).2 = .roomCreated ⟨state.next_room_id, room.name⟩ ∧
        (state.createRoom session create).1.next_room_id = state.next_room_id + 1 ∧
        (state.createRoom session create).1.rooms
          = state.rooms.insert state.next_room_id room := by
  unfold createRoom
  simp only
  generalize sanitizeRoomName create.name state.next_room_id = name
  split
  · exact .inl ⟨_, rfl⟩
  · next u huser =>
      split
      · exact .inl ⟨_, rfl⟩
      · exact .inr ⟨(Room.new state.next_room_id name).join u, rfl, rfl, rfl, rfl⟩

end ControlState

namespace CreationLog

open ControlState

theorem creationOf_of_not_create {message : ClientControl}
    (h : ∀ create, message ≠ .createRoom create) (answer : ServerControl) :
    creationOf message answer = none := by
  cases message with
  | createRoom create => exact absurd rfl (h create)
  | _ => rfl

theorem envelope_namesKept {log : CreationLog} (hrooms : RoomInvariant log.system.control)
    (h : NamesKept log.system.control log.created) (i : Nat) (clock : Clock)
    (envelope : ClientEnvelope) :
    NamesKept (log.step (.envelope i clock envelope)).system.control
      (log.step (.envelope i clock envelope)).created := by
  show NamesKept (log.system.reply i clock envelope).state (log.created ++
    (creationOf envelope.message (log.system.reply i clock envelope).response.message).toList)
  by_cases hcreate : ∃ create, envelope.message = .createRoom create
  · obtain ⟨create, hmessage⟩ := hcreate
    cases hauth : log.system.control.authorizationError (log.system.sessions i)
        envelope.message with
    | some error =>
        rw [ControlSystem.reply_of_unauthorized hauth, hmessage]
        show NamesKept log.system.control (log.created ++ [])
        rw [List.append_nil]
        exact h
    | none =>
        rw [ControlSystem.reply_of_authorized hauth, hmessage]
        show NamesKept (log.system.control.createRoom (log.system.sessions i) create).1
          (log.created ++ (creationOf (.createRoom create)
            (log.system.control.createRoom (log.system.sessions i) create).2).toList)
        rcases createRoom_cases log.system.control (log.system.sessions i) create with
          ⟨error, hrefused⟩ | ⟨room, hname, hanswer, hnext, hinsert⟩
        · rw [hrefused]
          show NamesKept log.system.control (log.created ++ [])
          rw [List.append_nil]
          exact h
        · -- the new name joins the log with the room that carries it
          rw [hanswer]
          exact h.insert hname hnext hinsert
  · -- any other message logs nothing and renames nothing
    have hother : ∀ create, envelope.message ≠ .createRoom create :=
      fun create heq => hcreate ⟨create, heq⟩
    rw [creationOf_of_not_create hother, Option.toList_none, List.append_nil]
    refine h.of_sameNames ?_
    obtain ⟨hsome, hsilent⟩ := handleClientEnvelope_updates log.system.control
      (log.system.sessions i) clock envelope
    show SameNames log.system.control (log.system.control.handleClientEnvelope
      (log.system.sessions i) clock envelope).state
    cases huser : (log.system.control.handleClientEnvelope (log.system.sessions i) clock
        envelope).session.user_id with
    | none =>
        rw [hsilent huser]
        exact .refl _
    | some u =>
        refine updates_sameNames hrooms (fun create heq => ?_) (hsome u huser)
        exact hother create (Option.some.inj heq)

theorem step_namesKept {log : CreationLog} (hrooms : RoomInvariant log.system.control)
    (h : NamesKept log.system.control log.created) (event : ControlEvent) :
    NamesKept (log.step event).system.control (log.step event).created := by
  cases event with
  | envelope i clock envelope => exact envelope_namesKept hrooms h i clock envelope
  | disconnect u =>
      show NamesKept (log.system.control.disconnectUser u) (log.created ++ [])
      rw [List.append_nil]
      exact h.of_sameNames (updates_sameNames hrooms (fun _ heq => by cases heq)
        (disconnectUser_updates log.system.control u))
  | recordForward packet summary bytes received route =>
      show NamesKept (log.system.control.recordMediaForwardSummary packet summary bytes received
        route) (log.created ++ [])
      rw [List.append_nil]
      refine h.of_sameNames ⟨?_, fun r room hroom => ⟨room, ?_, rfl⟩⟩
      · exact recordMediaForwardSummary_fixed ControlState.next_room_id (fun _ _ => rfl) _ _ _ _ _ _
      · rw [← hroom]
        exact congrArg (·[r]?) (recordMediaForwardSummary_fixed ControlState.rooms
          (fun _ _ => rfl) _ _ _ _ _ _).symm

/-- Every room of a reachable relay is known under the name of the request that created it. -/
theorem Reachable.namesKept {log : CreationLog} (h : log.Reachable) :
    RoomInvariant log.system.control ∧ NamesKept log.system.control log.created := by
  refine Runs.Reachable.induction (P := fun log => RoomInvariant log.system.control ∧
    NamesKept log.system.control log.created) ?_ ?_ h
  · rintro _ ⟨control, hinitial, rfl⟩
    refine ⟨ControlSystem.initial_roomInvariant hinitial, nofun, fun r room hroom => ?_, nofun⟩
    have hnone : control.rooms = ∅ := by cases hinitial <;> rfl
    have hroom' : control.rooms[r]? = some room := hroom
    rw [hnone] at hroom'
    exact absurd hroom' nofun
  · rintro log event ⟨hrooms, hnames⟩
    exact ⟨ControlSystem.step_roomInvariant log.system event hrooms,
      step_namesKept hrooms hnames event⟩

end CreationLog

end TeamView.Relay
