import TeamView.Lib.BTree
import TeamView.Protocol.Control

set_option autoImplicit false

/-! # Rooms

Participants, published streams and subscriptions of one room
(`crates/relay-server/src/room.rs`). -/

namespace TeamView.Relay

open TeamView.Protocol BTree

structure PublishedStream where
  stream_id : StreamId
  publisher_id : UserId
  codec : CodecId
  media_kind : MediaKind
  config : Option StreamConfig
  target_bitrate_bps : Nat
  target_frames_per_second : Nat
  target_width : Nat
  target_height : Nat
  deriving DecidableEq

structure Room where
  id : RoomId
  name : String
  participants : BTreeSet UserId
  published_streams : BTreeMap StreamId PublishedStream
  subscriptions : BTreeMap StreamId (BTreeSet UserId)

namespace Room

def new (id : RoomId) (name : String) : Room where
  id := id
  name := name
  participants := ∅
  published_streams := ∅
  subscriptions := ∅

/-- `join`; the caller reads the new number of participants off the room. -/
def join (room : Room) (user_id : UserId) : Room :=
  { room with participants := room.participants.insert user_id }

def leave (room : Room) (user_id : UserId) : Room :=
  { room with
    participants := room.participants.erase user_id
    subscriptions := retain (fun _ subscribers => !subscribers.isEmpty)
      (mapValues (fun subscribers : BTreeSet UserId => subscribers.erase user_id)
        room.subscriptions) }

def publishStream (room : Room) (stream : PublishedStream) : Room :=
  { room with published_streams := room.published_streams.insert stream.stream_id stream }

def streamsPublishedBy (room : Room) (user_id : UserId) : List StreamId :=
  (room.published_streams.toList.filter fun e => e.2.publisher_id == user_id).map Prod.fst

/-- `remove_published_stream`; the removed stream it returns is the one `room` held. -/
def removePublishedStream (room : Room) (stream_id : StreamId) : Room :=
  { room with
    published_streams := room.published_streams.erase stream_id
    subscriptions := room.subscriptions.erase stream_id }

/-- What `leave_room` does to the room: the user leaves, then the user's streams go. -/
def depart (room : Room) (user_id : UserId) : Room :=
  (room.streamsPublishedBy user_id).foldl removePublishedStream (room.leave user_id)

/-- The subscribers of a stream; no entry means none. -/
def subscribers (room : Room) (stream_id : StreamId) : BTreeSet UserId :=
  (room.subscriptions[stream_id]?).getD ∅

/-- `subscribe`: `none` when the stream is not published in the room. -/
def subscribe (room : Room) (stream_id : StreamId) (user_id : UserId) : Option Room :=
  if room.published_streams.contains stream_id then
    some { room with
      subscriptions := room.subscriptions.insert stream_id
        ((room.subscribers stream_id).insert user_id) }
  else none

def unsubscribe (room : Room) (stream_id : StreamId) (user_id : UserId) : Room :=
  match room.subscriptions[stream_id]? with
  | none => room
  | some subscribers =>
      if (subscribers.erase user_id).isEmpty then
        { room with subscriptions := room.subscriptions.erase stream_id }
      else
        { room with
          subscriptions := room.subscriptions.insert stream_id (subscribers.erase user_id) }

def isEmpty (room : Room) : Bool :=
  room.participants.isEmpty && room.published_streams.isEmpty

/-! ## Fields after an update -/

@[simp] theorem join_id (room : Room) (u : UserId) : (room.join u).id = room.id := rfl
@[simp] theorem join_published (room : Room) (u : UserId) :
    (room.join u).published_streams = room.published_streams := rfl
@[simp] theorem join_subscriptions (room : Room) (u : UserId) :
    (room.join u).subscriptions = room.subscriptions := rfl
@[simp] theorem leave_id (room : Room) (u : UserId) : (room.leave u).id = room.id := rfl
@[simp] theorem leave_published (room : Room) (u : UserId) :
    (room.leave u).published_streams = room.published_streams := rfl
@[simp] theorem publishStream_participants (room : Room) (stream : PublishedStream) :
    (room.publishStream stream).participants = room.participants := rfl
@[simp] theorem publishStream_subscriptions (room : Room) (stream : PublishedStream) :
    (room.publishStream stream).subscriptions = room.subscriptions := rfl
@[simp] theorem removePublishedStream_participants (room : Room) (s : StreamId) :
    (room.removePublishedStream s).participants = room.participants := rfl
@[simp] theorem removePublishedStream_id (room : Room) (s : StreamId) :
    (room.removePublishedStream s).id = room.id := rfl

/-- Subscribing touches neither the participants nor the streams. -/
theorem subscribe_fixed {room room' : Room} {s : StreamId} {u : UserId}
    (hsub : room.subscribe s u = some room') :
    room'.published_streams = room.published_streams ∧
      room'.participants = room.participants := by
  unfold subscribe at hsub
  split at hsub
  · cases hsub
    exact ⟨rfl, rfl⟩
  · cases hsub

theorem subscribe_name {room room' : Room} {s : StreamId} {u : UserId}
    (hsub : room.subscribe s u = some room') : room'.name = room.name := by
  unfold subscribe at hsub
  split at hsub
  · cases hsub
    rfl
  · cases hsub

theorem unsubscribe_name (room : Room) (s : StreamId) (u : UserId) :
    (room.unsubscribe s u).name = room.name := by
  unfold unsubscribe
  split
  · rfl
  · split <;> rfl

theorem unsubscribe_fixed (room : Room) (s : StreamId) (u : UserId) :
    (room.unsubscribe s u).published_streams = room.published_streams ∧
      (room.unsubscribe s u).participants = room.participants := by
  unfold unsubscribe
  split
  · exact ⟨rfl, rfl⟩
  · split <;> exact ⟨rfl, rfl⟩

theorem mem_join (room : Room) (u v : UserId) :
    v ∈ (room.join u).participants ↔ v = u ∨ v ∈ room.participants :=
  set_mem_insert _ _ _

theorem mem_leave (room : Room) (u v : UserId) :
    v ∈ (room.leave u).participants ↔ v ≠ u ∧ v ∈ room.participants :=
  set_mem_erase _ _ _

/-- A subscription set survives a `leave` exactly when someone else is in it. -/
theorem leave_subscription (room : Room) (u : UserId) (s : StreamId) (subs : BTreeSet UserId) :
    (room.leave u).subscriptions[s]? = some subs ↔
      (∃ old : BTreeSet UserId, room.subscriptions[s]? = some old ∧ subs = old.erase u) ∧
        subs.isEmpty = false := by
  rw [leave, get_retain_eq_some, get_mapValues, Option.map_eq_some_iff, Bool.not_eq_true']
  constructor
  · rintro ⟨⟨old, hold, rfl⟩, hne⟩
    exact ⟨⟨old, hold, rfl⟩, hne⟩
  · rintro ⟨⟨old, hold, rfl⟩, hne⟩
    exact ⟨⟨old, hold, rfl⟩, hne⟩

/-! ## Subscribers after an update -/

theorem subscribe_subscribers {room room' : Room} {t : StreamId} {u : UserId}
    (hsub : room.subscribe t u = some room') (s : StreamId) (v : UserId) :
    v ∈ room'.subscribers s ↔ (s = t ∧ v = u) ∨ v ∈ room.subscribers s := by
  unfold subscribe at hsub
  split at hsub
  · obtain rfl := Option.some.inj hsub
    unfold subscribers
    rw [get_insert]
    by_cases hs : s = t
    · subst hs
      rw [if_pos rfl, Option.getD_some, set_mem_insert, eq_self_iff_true, true_and]
    · rw [if_neg hs]
      simp only [hs, false_and, false_or]
  · cases hsub

theorem unsubscribe_subscriptions {t s : StreamId} (hs : s ≠ t) (room : Room) (u : UserId) :
    (room.unsubscribe t u).subscriptions[s]? = room.subscriptions[s]? := by
  unfold unsubscribe
  split
  · rfl
  · split
    · exact (get_erase _ _ _).trans (if_neg hs)
    · exact (get_insert _ _ _ _).trans (if_neg hs)

theorem unsubscribe_subscribers (room : Room) (t : StreamId) (u : UserId) (s : StreamId)
    (v : UserId) :
    v ∈ (room.unsubscribe t u).subscribers s ↔ ¬ (s = t ∧ v = u) ∧ v ∈ room.subscribers s := by
  by_cases hs : s = t
  · subst hs
    rw [and_iff_right rfl]
    unfold unsubscribe subscribers
    cases hsubs : room.subscriptions[s]? with
    | none =>
        rw [hsubs]
        exact iff_of_false Std.ExtTreeSet.not_mem_empty
          (fun h => Std.ExtTreeSet.not_mem_empty h.2)
    | some subs =>
        simp only
        split
        · next hempty =>
            -- an emptied set is dropped, and nobody was left in it
            have hnone := (set_isEmpty_iff _).mp hempty v
            rw [set_mem_erase] at hnone
            rw [get_erase, if_pos rfl]
            exact iff_of_false Std.ExtTreeSet.not_mem_empty hnone
        · rw [get_insert, if_pos rfl]
          exact set_mem_erase _ _ _
  · unfold subscribers
    rw [unsubscribe_subscriptions hs]
    exact ⟨fun h => ⟨fun heq => hs heq.1, h⟩, And.right⟩

theorem removePublishedStream_subscribers {room : Room} {t s : StreamId} (hs : s ≠ t) :
    (room.removePublishedStream t).subscribers s = room.subscribers s := by
  unfold subscribers removePublishedStream
  rw [get_erase, if_neg hs]

end Room

end TeamView.Relay
