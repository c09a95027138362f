import TeamView.Lib.Runs

set_option autoImplicit false

/-! # A bounded queue that drops its oldest entries

Producers append entries and a consumer takes batches from the front. An append to a full queue
drops the oldest entry and says so. `Step` is that contract for one operation, stated on what the
operation shows to its caller (`Shown`), and `Trace` strings operations together. Whatever their
order, the entries taken and those still queued are the appended ones in order, less the dropped
ones, and the drops are the reported ones (`Trace.account`).
-/

namespace DropQueue

variable {α : Type} {capacity : Nat}

/-- What an operation shows: the entry it appended and how many it dropped, or the batch it
took. -/
inductive Shown (α : Type) where
  | pushed (a : α) (dropped : Nat)
  | taken (batch : List α)
  | idle
  deriving DecidableEq

/-- One operation, between the queue before and the queue after. -/
inductive Step (capacity : Nat) : List α → Shown α → List α → Prop
  | pushed (queue : List α) (a : α) (hroom : queue.length < capacity) :
      Step capacity queue (.pushed a 0) (queue ++ [a])
  | displaced (oldest : α) (queue : List α) (a : α) (hfull : queue.length + 1 = capacity) :
      Step capacity (oldest :: queue) (.pushed a 1) (queue ++ [a])
  | taken (batch rest : List α) (hempty : batch = [] → rest = []) :
      Step capacity (batch ++ rest) (.taken batch) rest
  | idle (queue : List α) : Step capacity queue .idle queue

/-- Operations one after another. -/
inductive Trace (capacity : Nat) : List α → List (Shown α) → List α → Prop
  | nil (queue : List α) : Trace capacity queue [] queue
  | cons {queue queue' queue'' : List α} {shown : Shown α} {rest : List (Shown α)}
      (hfirst : Step capacity queue shown queue') (hrest : Trace capacity queue' rest queue'') :
      Trace capacity queue (shown :: rest) queue''

/-! ## What a trace shows altogether -/

def Shown.pushedEntries : Shown α → List α
  | .pushed a _ => [a]
  | _ => []

def Shown.takenEntries : Shown α → List α
  | .taken batch => batch
  | _ => []

def Shown.droppedCount : Shown α → Nat
  | .pushed _ dropped => dropped
  | _ => 0

/-- The appended entries, in the order of their appends. -/
def pushedAll (trace : List (Shown α)) : List α := trace.flatMap Shown.pushedEntries

/-- The batches taken, one after another. -/
def takenAll (trace : List (Shown α)) : List α := trace.flatMap Shown.takenEntries

/-- The reported drops. -/
def droppedAll (trace : List (Shown α)) : Nat := (trace.map Shown.droppedCount).sum

/-- The entries of a list with fates that were kept, in order. -/
def kept (fates : List (α × Bool)) : List α := (fates.filter fun fate => fate.2).map Prod.fst

/-- The entries of a list with fates that were dropped, in order. -/
def dropped (fates : List (α × Bool)) : List α := (fates.filter fun fate => !fate.2).map Prod.fst

/-- Only an append puts an entry into an empty queue. -/
theorem Step.eq_nil {queue queue' : List α} {shown : Shown α}
    (h : Step capacity queue shown queue') (hqueue : queue = [])
    (hshown : shown.pushedEntries = []) : queue' = [] := by
  cases h with
  | pushed queue a hroom => cases hshown
  | displaced oldest queue a hfull => cases hshown
  | taken batch rest hempty => exact (List.append_eq_nil_iff.mp hqueue).2
  | idle queue => exact hqueue

theorem kept_append (fates more : List (α × Bool)) :
    kept (fates ++ more) = kept fates ++ kept more := by
  unfold kept
  rw [List.filter_append, List.map_append]

theorem dropped_append (fates more : List (α × Bool)) :
    dropped (fates ++ more) = dropped fates ++ dropped more := by
  unfold dropped
  rw [List.filter_append, List.map_append]

theorem kept_batch (batch : List α) : kept (batch.map fun a => (a, true)) = batch := by
  induction batch with
  | nil => rfl
  | cons a batch ih =>
      show a :: kept (batch.map fun a => (a, true)) = a :: batch
      rw [ih]

theorem dropped_batch (batch : List α) : dropped (batch.map fun a => (a, true)) = [] := by
  induction batch with
  | nil => rfl
  | cons a batch ih => exact ih

/-- Every entry ever in the queue has one fate: it was taken or is still queued, in the order of
the appends, or it was dropped, and as many were dropped as were reported. -/
theorem Trace.account {queue queue' : List α} {trace : List (Shown α)}
    (h : Trace capacity queue trace queue') :
    ∃ fates : List (α × Bool),
      fates.map Prod.fst = queue ++ pushedAll trace ∧
        kept fates = takenAll trace ++ queue' ∧
        (dropped fates).length = droppedAll trace := by
  induction h with
  | nil queue =>
      refine ⟨queue.map fun a => (a, true), ?_, kept_batch queue, ?_⟩
      · show _ = queue ++ []
        rw [List.map_map, List.append_nil]
        exact List.map_id queue
      · rw [dropped_batch]
        rfl
  | cons hfirst hrest ih =>
      obtain ⟨fates, hfates, hkept, hdropped⟩ := ih
      cases hfirst with
      | pushed queue a hroom =>
          refine ⟨fates, ?_, hkept, ?_⟩
          · rw [hfates, List.append_assoc]
            rfl
          · rw [hdropped]
            exact (Nat.zero_add _).symm
      | displaced oldest queue a hfull =>
          -- the oldest entry leaves the queue unseen
          refine ⟨(oldest, false) :: fates, ?_, hkept, ?_⟩
          · rw [List.map_cons, hfates, List.append_assoc]
            rfl
          · show (dropped fates).length + 1 = 1 + droppedAll _
            omega
      | taken batch rest hempty =>
          refine ⟨(batch.map fun a => (a, true)) ++ fates, ?_, ?_, ?_⟩
          · rw [List.map_append, hfates, List.map_map, List.append_assoc]
            exact congrArg (· ++ _) (List.map_id batch)
          · rw [kept_append, kept_batch, hkept, ← List.append_assoc]
            rfl
          · rw [dropped_append, dropped_batch, List.nil_append, hdropped]
            exact (Nat.zero_add _).symm
      | idle queue =>
          refine ⟨fates, hfates, hkept, ?_⟩
          rw [hdropped]
          exact (Nat.zero_add _).symm

/-! ## A loop that makes room -/

/-- How many entries a loop drops that runs until one more fits. -/
def excess (capacity : Nat) (queue : List α) : Nat := queue.length - (capacity - 1)

/-- Making room and appending is a step of the contract, for a queue within its capacity. -/
theorem step_of_push {queue : List α} (hcapacity : 0 < capacity) (hfits : queue.length ≤ capacity)
    (a : α) :
    Step capacity queue (.pushed a (excess capacity queue))
      (queue.drop (excess capacity queue) ++ [a]) := by
  unfold excess
  by_cases hroom : queue.length < capacity
  · have hnone : queue.length - (capacity - 1) = 0 := by omega
    rw [hnone]
    exact .pushed queue a hroom
  · have hone : queue.length - (capacity - 1) = 1 := by omega
    rw [hone]
    cases queue with
    | nil => exact absurd hcapacity hroom
    | cons oldest queue =>
        have hfull : queue.length + 1 = capacity := by
          have hlength : (oldest :: queue).length = queue.length + 1 := rfl
          omega
        exact .displaced oldest queue a hfull

/-- Taking up to `n` entries from the front is a step of the contract. -/
theorem step_of_take (queue : List α) {n : Nat} (hn : 0 < n) :
    Step capacity queue (.taken (queue.take n)) (queue.drop n) := by
  have hempty : queue.take n = [] → queue.drop n = [] := by
    intro h
    rcases List.take_eq_nil_iff.mp h with hzero | hnil
    · omega
    · rw [hnil, List.drop_nil]
  have hsplit : Step capacity (queue.take n ++ queue.drop n) (.taken (queue.take n))
      (queue.drop n) := .taken _ _ hempty
  rwa [List.take_append_drop] at hsplit

end DropQueue
