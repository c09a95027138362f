import Mathlib.Tactic

set_option autoImplicit false

/-! # A bounded first-in first-out channel

One queue of at most `capacity` items, written without waiting and read in order. A channel
carries the proof that its bound holds, so no operation can exceed it. A closed channel refuses
before a full one does.
-/

@[ext] structure Channel (α : Type) where
  queue : List α
  capacity : Nat
  closed : Bool
  bounded : queue.length ≤ capacity

namespace Channel

variable {α : Type}

inductive TrySendError where
  | full
  | closed
  deriving DecidableEq

def empty (capacity : Nat) : Channel α where
  queue := []
  capacity := capacity
  closed := false
  bounded := Nat.zero_le _

def trySend (channel : Channel α) (item : α) : Except TrySendError (Channel α) :=
  if channel.closed then .error .closed
  else if h : channel.queue.length < channel.capacity then
    .ok
      { channel with
        queue := channel.queue ++ [item]
        bounded := by
          rw [List.length_append, List.length_singleton]
          exact h }
  else .error .full

/-- The receiver takes the oldest item. -/
def recv (channel : Channel α) : Option (α × Channel α) :=
  match h : channel.queue with
  | [] => none
  | item :: rest =>
      some (item,
        { channel with
          queue := rest
          bounded := by
            have hle := channel.bounded
            rw [h, List.length_cons] at hle
            omega })

/-- Whether a send would succeed now. -/
def HasRoom (channel : Channel α) : Prop :=
  channel.closed = false ∧ channel.queue.length < channel.capacity

instance (channel : Channel α) : Decidable channel.HasRoom := inferInstanceAs (Decidable (_ ∧ _))

/-- A send that succeeds appends its item and changes nothing else. -/
theorem trySend_ok_iff (channel channel' : Channel α) (item : α) :
    channel.trySend item = .ok channel' ↔
      channel.HasRoom ∧ channel'.queue = channel.queue ++ [item] ∧
        channel'.capacity = channel.capacity ∧ channel'.closed = channel.closed := by
  unfold trySend HasRoom
  by_cases hclosed : channel.closed = true
  · rw [if_pos hclosed]
    simp [hclosed]
  · rw [if_neg hclosed]
    by_cases hroom : channel.queue.length < channel.capacity
    · rw [dif_pos hroom, Except.ok.injEq]
      constructor
      · rintro rfl
        exact ⟨⟨Bool.eq_false_iff.mpr hclosed, hroom⟩, rfl, rfl, rfl⟩
      · rintro ⟨-, hqueue, hcapacity, hclosed'⟩
        exact Channel.ext hqueue.symm hcapacity.symm hclosed'.symm
    · rw [dif_neg hroom]
      simp [hroom]

theorem trySend_isOk_iff (channel : Channel α) (item : α) :
    (∃ channel', channel.trySend item = .ok channel') ↔ channel.HasRoom := by
  constructor
  · rintro ⟨channel', h⟩
    exact ((trySend_ok_iff _ _ _).mp h).1
  · intro hroom
    unfold trySend
    rw [if_neg (by rw [hroom.1]; decide), dif_pos hroom.2]
    exact ⟨_, rfl⟩

theorem recv_eq_some_iff (channel channel' : Channel α) (item : α) :
    channel.recv = some (item, channel') ↔
      channel.queue = item :: channel'.queue ∧ channel'.capacity = channel.capacity ∧
        channel'.closed = channel.closed := by
  unfold recv
  split
  · next hnil => simp [hnil]
  · next head rest hcons =>
      rw [Option.some.injEq, Prod.mk.injEq]
      constructor
      · rintro ⟨rfl, rfl⟩
        exact ⟨hcons, rfl, rfl⟩
      · rintro ⟨hqueue, hcapacity, hclosed⟩
        obtain ⟨rfl, hrest⟩ := List.cons.inj (hcons.symm.trans hqueue)
        exact ⟨rfl, Channel.ext hrest hcapacity.symm hclosed.symm⟩

end Channel
