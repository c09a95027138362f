import TeamView.Relay.RoomCreation

set_option autoImplicit false

/-! # Finding a channel by its name

How a client picks a channel of the relay's room list (`select_viewer_room` in
`crates/desktop-client/src/main.rs`). It looks for the name exactly as it was given, while the
relay lists the sanitised names, so among several rooms the name of a channel finds it exactly
when it is plain.
-/

namespace TeamView.Client

open TeamView.Protocol TeamView.Relay TeamView.Relay.ControlState BTree Runs

/-! ## Arguments -/

/-- The arguments that name a channel. -/
structure ChannelArgs where
  room_id : Option RoomId
  channel_id : Option RoomId
  room_name : String
  channel_name : Option String
  deriving DecidableEq

/-- `DEFAULT_CHANNEL_NAME`. -/
def defaultChannelName : String := "stage1"

namespace ChannelArgs

def selectedRoomId (args : ChannelArgs) : Except String (Option RoomId) :=
  match args.room_id, args.channel_id with
  | some room_id, some channel_id =>
      if room_id ≠ channel_id then .error "--room-id and --channel-id must match when both are set"
      else .ok (some room_id)
  | some room_id, none => .ok (some room_id)
  | none, some channel_id => .ok (some channel_id)
  | none, none => .ok none

def selectedChannelName (args : ChannelArgs) : Except String String :=
  match args.channel_name with
  | some channel_name =>
      if args.room_name ≠ defaultChannelName ∧ args.room_name ≠ channel_name then
        .error "--room-name and --channel-name must match when both are set"
      else .ok channel_name
  | none => .ok args.room_name

end ChannelArgs

/-! ## The choice -/

/-- `Iterator::max_by_key`: the last of the elements with the largest key. -/
def maxByKey {α κ : Type} [LE κ] [DecidableLE κ] (key : α → κ) : List α → Option α
  | [] => none
  | first :: rest =>
      some (rest.foldl (fun best next => if key best ≤ key next then next else best) first)

/-- Rooms with streams come first, then rooms with participants, then later rooms. -/
def viewerRoomKey (room : RoomSummary) : Bool ×ₗ Bool ×ₗ Nat :=
  toLex (decide (0 < room.published_stream_count),
    toLex (decide (0 < room.participant_count), room.room_id))

def selectViewerRoom (rooms : List RoomSummary) (room_name : String) : Option RoomSummary :=
  let candidates := rooms.filter fun room => room.name = room_name
  let candidates :=
    match candidates, rooms with
    -- the only room there is serves for every name
    | [], [room] => [room]
    | candidates, _ => candidates
  maxByKey viewerRoomKey candidates

section MaxByKey

variable {α κ : Type} [LE κ] [DecidableLE κ] {key : α → κ}

theorem foldl_best_mem (first : α) (rest : List α) :
    rest.foldl (fun best next => if key best ≤ key next then next else best) first
      ∈ first :: rest := by
  induction rest generalizing first with
  | nil => exact List.mem_singleton_self first
  | cons next rest ih =>
      rw [List.foldl_cons]
      split
      · exact List.mem_cons_of_mem first (ih next)
      · rcases List.mem_cons.mp (ih first) with hfirst | hrest
        · rw [hfirst]
          exact List.mem_cons_self
        · exact List.mem_cons_of_mem first (List.mem_cons_of_mem next hrest)

theorem maxByKey_mem {as : List α} {a : α} (h : maxByKey key as = some a) : a ∈ as := by
  cases as with
  | nil => cases h
  | cons first rest => exact Option.some.inj h ▸ foldl_best_mem first rest

theorem maxByKey_isSome {as : List α} (h : as ≠ []) : ∃ a, maxByKey key as = some a := by
  cases as with
  | nil => exact absurd rfl h
  | cons first rest => exact ⟨_, rfl⟩

end MaxByKey

/-- Among several rooms the choice is made by name. -/
theorem selectViewerRoom_of_many {rooms : List RoomSummary} (hmany : 2 ≤ rooms.length)
    (room_name : String) :
    selectViewerRoom rooms room_name
      = maxByKey viewerRoomKey (rooms.filter fun room => room.name = room_name) := by
  unfold selectViewerRoom
  simp only
  split
  · simp at hmany
  · rfl

/-! ## The channel that was created -/

theorem mem_listRooms {state : ControlState} (h : RoomInvariant state) {summary : RoomSummary} :
    summary ∈ state.listRooms.rooms →
      ∃ room : Room, state.rooms[summary.room_id]? = some room ∧ summary.name = room.name := by
  intro hmem
  obtain ⟨room, hroom, rfl⟩ := List.mem_map.mp hmem
  obtain ⟨r, hget⟩ := (mem_values _ _).mp hroom
  have hid := (h.room_ok r room hget).own_id
  exact ⟨room, by rw [hid]; exact hget, rfl⟩

theorem listRooms_mem {state : ControlState} {r : RoomId} {room : Room}
    (hroom : state.rooms[r]? = some room) :
    ∃ summary ∈ state.listRooms.rooms, summary.name = room.name :=
  ⟨_, List.mem_map.mpr ⟨room, (mem_values _ _).mpr ⟨r, hroom⟩, rfl⟩, rfl⟩

theorem length_listRooms (state : ControlState) :
    state.listRooms.rooms.length = state.rooms.size := by
  unfold listRooms
  rw [List.length_map, length_values]

/-- The choice by name finds a room that was asked for under a name like this one. -/
def FindsChannel (log : CreationLog) (rooms : List RoomSummary) (channel_name : String) : Prop :=
  ∃ (room : RoomSummary) (name : String), selectViewerRoom rooms channel_name = some room ∧
    (room.room_id, name) ∈ log.created ∧
      sanitizeRoomName name room.room_id = sanitizeRoomName channel_name room.room_id

/-- A plain name is listed as it was given, and whatever is listed under it was asked for so. -/
theorem findsChannel_of_plain {log : CreationLog} (hlog : log.Reachable) {r : RoomId}
    {channel_name : String} (hcreated : (r, channel_name) ∈ log.created)
    (hexists : r ∈ log.system.control.rooms) (hmany : 2 ≤ log.system.control.rooms.size)
    (hplain : PlainName channel_name) :
    FindsChannel log log.system.control.listRooms.rooms channel_name := by
  obtain ⟨hrooms, hnames⟩ := hlog.namesKept
  obtain ⟨room, hroom⟩ := (mem_iff_get _ _).mp hexists
  have hkept := hnames.kept r channel_name hcreated room hroom
  rw [(sanitizeRoomName_eq_self_iff channel_name r).mpr hplain] at hkept
  obtain ⟨listed, hlisted, hname⟩ := listRooms_mem hroom
  have hcandidate : listed ∈ log.system.control.listRooms.rooms.filter
      fun room => room.name = channel_name :=
    List.mem_filter.mpr ⟨hlisted, decide_eq_true_eq.mpr (hname.trans hkept)⟩
  obtain ⟨summary, hselected⟩ : ∃ summary, maxByKey viewerRoomKey _ = some summary :=
    maxByKey_isSome (List.ne_nil_of_mem hcandidate)
  obtain ⟨hsummary, hsame⟩ := List.mem_filter.mp (maxByKey_mem hselected)
  obtain ⟨chosen, hchosen, hstored⟩ := mem_listRooms hrooms hsummary
  obtain ⟨name, hasked⟩ := hnames.named summary.room_id chosen hchosen
  refine ⟨summary, name, ?_, hasked, ?_⟩
  · rw [selectViewerRoom_of_many (by rw [length_listRooms]; exact hmany)]
    exact hselected
  · rw [← hnames.kept summary.room_id name hasked chosen hchosen, ← hstored,
      (sanitizeRoomName_eq_self_iff channel_name summary.room_id).mpr hplain]
    exact decide_eq_true_eq.mp hsame

/-- What is found under a name is stored under it, so the relay has kept the name. -/
theorem plain_of_findsChannel {log : CreationLog} (hlog : log.Reachable) {channel_name : String}
    (hmany : 2 ≤ log.system.control.rooms.size)
    (hfinds : FindsChannel log log.system.control.listRooms.rooms channel_name) :
    PlainName channel_name := by
  obtain ⟨hrooms, hnames⟩ := hlog.namesKept
  obtain ⟨summary, name, hselected, hasked, hsame⟩ := hfinds
  rw [selectViewerRoom_of_many (by rw [length_listRooms]; exact hmany)] at hselected
  obtain ⟨hsummary, hname⟩ := List.mem_filter.mp (maxByKey_mem hselected)
  obtain ⟨chosen, hchosen, hstored⟩ := mem_listRooms hrooms hsummary
  have hkept := hnames.kept summary.room_id name hasked chosen hchosen
  rw [← sanitizeRoomName_eq_self_iff channel_name summary.room_id, ← hsame, ← hkept, ← hstored]
  exact decide_eq_true_eq.mp hname

/-- The relay's answer to `ListRooms`, when it is not an error. -/
theorem roomList_eq {system : ControlSystem} {i : Nat} {clock : Clock} {request_id : RequestId}
    {list : RoomList}
    (hlist : (system.reply i clock (.new request_id .listRooms)).response.message
      = .roomList list) : list = system.control.listRooms := by
  cases hauth : system.control.authorizationError (system.sessions i) .listRooms with
  | some error =>
      rw [@ControlSystem.reply_of_unauthorized system i (.new request_id .listRooms) error hauth]
        at hlist
      cases hlist
  | none =>
      rw [@ControlSystem.reply_of_authorized system i (.new request_id .listRooms) hauth] at hlist
      exact (ServerControl.roomList.inj hlist).symm

/-- A channel that exists beside others is found under the name it was created with exactly when
that name is plain. -/
theorem channel_found_iff {log : CreationLog} (hlog : log.Reachable) {r : RoomId}
    {channel_name : String} (hcreated : (r, channel_name) ∈ log.created)
    (hexists : r ∈ log.system.control.rooms) (hmany : 2 ≤ log.system.control.rooms.size)
    {i : Nat} {clock : Clock} {request_id : RequestId} {list : RoomList}
    (hlist : (log.system.reply i clock (.new request_id .listRooms)).response.message
      = .roomList list) :
    FindsChannel log list.rooms channel_name ↔ PlainName channel_name := by
  rw [roomList_eq hlist]
  exact ⟨plain_of_findsChannel hlog hmany, findsChannel_of_plain hlog hcreated hexists hmany⟩

/-- A relay with a channel of this name and another one. -/
def twoChannels (channel_name : String) : CreationLog :=
  run CreationLog.step (.start .new)
    [.ask 0 (.hello ⟨protocolVersion, "host"⟩), .ask 0 (.createRoom ⟨channel_name⟩),
      .ask 0 (.createRoom ⟨"lobby"⟩)]

theorem twoChannels_reachable (channel_name : String) : (twoChannels channel_name).Reachable :=
  ⟨.start .new, _, ⟨.new, .new, rfl⟩, rfl⟩

theorem channel_found_iff_daily :
    FindsChannel (twoChannels "daily standup") [⟨1, "daily standup", 1, 0⟩, ⟨2, "lobby", 1, 0⟩]
      "daily standup" ↔ PlainName "daily standup" :=
  @channel_found_iff (twoChannels "daily standup") (twoChannels_reachable "daily standup") 1
    "daily standup" (by decide +kernel) (by decide +kernel) (by decide +kernel) 0 ⟨0, 0⟩ 0
    ⟨[⟨1, "daily standup", 1, 0⟩, ⟨2, "lobby", 1, 0⟩]⟩ (by decide +kernel)

/-- Two spaces become one, and the name is not found again. -/
theorem spaced_channel_not_found :
    ¬ ∀ (log : CreationLog), log.Reachable → ∀ (r : RoomId) (channel_name : String),
      ¬ channel_name.toList.all isWhitespace →
      (r, channel_name) ∈ log.created → r ∈ log.system.control.rooms →
      2 ≤ log.system.control.rooms.size →
      ∀ (i : Nat) (clock : Clock) (request_id : RequestId) (list : RoomList),
        (log.system.reply i clock (.new request_id .listRooms)).response.message
          = .roomList list → FindsChannel log list.rooms channel_name := by
  intro hclaim
  obtain ⟨room, name, hselected, -⟩ := hclaim (twoChannels "daily  standup")
    (twoChannels_reachable "daily  standup") 1 "daily  standup" (by decide +kernel)
    (by decide +kernel) (by decide +kernel) (by decide +kernel) 0 ⟨0, 0⟩ 0
    ⟨[⟨1, "daily standup", 1, 0⟩, ⟨2, "lobby", 1, 0⟩]⟩ (by decide +kernel)
  have hnone : selectViewerRoom [⟨1, "daily standup", 1, 0⟩, ⟨2, "lobby", 1, 0⟩]
      "daily  standup" = none := by decide +kernel
  rw [hnone] at hselected
  cases hselected

end TeamView.Client
