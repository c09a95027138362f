import Mathlib.Algebra.Order.Floor.Div
import Mathlib.Data.List.DropRight
import Mathlib.Data.List.GetD
import Mathlib.Tactic

set_option autoImplicit false

/-! # Rings of the last values

A ring keeps the last values of a stream in an array of fixed capacity: it writes them at a cursor
that goes round, and counts the cells written until they are all used. The written cells hold the
last values of the stream, in an order that the cursor has turned (`RingBuffer.cells_perm`). A
percentile of a list is the element at a rank of the sorted list; it depends on the elements only
and grows with the percentage.
-/

structure RingBuffer (α : Type) (capacity : Nat) where
  values : Vector α capacity
  len : Nat
  next : Fin capacity

namespace RingBuffer

variable {α : Type} {capacity : Nat} [NeZero capacity]

/-- A ring with no value written yet. -/
def empty (fill : α) : RingBuffer α capacity where
  values := Vector.replicate capacity fill
  len := 0
  next := 0

def push (ring : RingBuffer α capacity) (value : α) : RingBuffer α capacity where
  values := ring.values.set ring.next value
  len := min (ring.len + 1) capacity
  next := ring.next + 1

/-- The cells written so far. -/
def cells (ring : RingBuffer α capacity) : List α := ring.values.toList.take ring.len

/-! ## What the cells hold -/

/-- The ring after the values of a list: either they fill it from the front, or the cells in front
of the cursor are the newer ones of its last values. -/
inductive Holds : List α → RingBuffer α capacity → Prop
  | filling {pushed unused ring} : pushed.length < capacity →
      ring.values.toList = pushed ++ unused → ring.len = pushed.length →
      ring.next.val = pushed.length → Holds pushed ring
  | full {pushed ring} (older newer : List α) : ring.values.toList = newer ++ older →
      ring.len = capacity → ring.next.val = newer.length → older ++ newer <:+ pushed →
      Holds pushed ring

theorem holds_empty (fill : α) : Holds [] (empty fill : RingBuffer α capacity) :=
  .filling (Nat.pos_of_ne_zero (NeZero.ne capacity)) rfl rfl rfl

/-- Writing in front of a list's rest. -/
theorem set_length_append (front rest : List α) (old value : α) :
    (front ++ old :: rest).set front.length value = front ++ value :: rest := by
  rw [List.set_append_right _ _ (Nat.le_refl _), Nat.sub_self, List.set_cons_zero]

/-- The cursor goes on by one, and from the last cell back to the first. -/
theorem val_next_push (ring : RingBuffer α capacity) (value : α) :
    (ring.push value).next.val = (ring.next.val + 1) % capacity := by
  rw [push, Fin.val_add]
  exact Nat.add_mod_mod _ _ _

/-- The cells around the cursor, before and after a write. -/
theorem split_at_next (ring : RingBuffer α capacity) {front rest : List α}
    (hcells : ring.values.toList = front ++ rest) (hnext : ring.next.val = front.length)
    (value : α) :
    ∃ old rest', rest = old :: rest' ∧
      (ring.push value).values.toList = front ++ value :: rest' := by
  have hlength : (front ++ rest).length = capacity := by
    rw [← hcells, Vector.length_toList]
  have hbound : front.length < capacity := hnext ▸ ring.next.isLt
  cases rest with
  | nil =>
      rw [List.append_nil] at hlength
      omega
  | cons old rest' =>
      refine ⟨old, rest', rfl, ?_⟩
      rw [push, Vector.toList_set, hcells, hnext, set_length_append]

/-- One push. A ring that is not full writes behind its values, a full one over the oldest. -/
theorem Holds.push {pushed : List α} {ring : RingBuffer α capacity} (h : Holds pushed ring)
    (value : α) : Holds (pushed ++ [value]) (ring.push value) := by
  have hnext := val_next_push ring value
  cases h with
  | filling hshort hcells hlen hcursor =>
      obtain ⟨old, rest, -, hwritten⟩ := ring.split_at_next hcells hcursor value
      have hlen' : (ring.push value).len = min (pushed.length + 1) capacity := by
        rw [← hlen]
        rfl
      have hcells' : (ring.push value).values.toList = (pushed ++ [value]) ++ rest := by
        rw [hwritten, List.append_assoc, List.singleton_append]
      by_cases hlast : pushed.length + 1 = capacity
      · -- this push fills the ring, so the cursor stands on the first cell again
        rw [hcursor, hlast, Nat.mod_self] at hnext
        rw [hlast, Nat.min_self] at hlen'
        have hrest : rest = [] := by
          have hcount := congrArg List.length hcells'
          rw [Vector.length_toList, List.length_append, List.length_append,
            List.length_singleton] at hcount
          exact List.eq_nil_of_length_eq_zero (by omega)
        rw [hrest, List.append_nil] at hcells'
        refine .full (pushed ++ [value]) [] hcells' hlen' hnext ?_
        rw [List.append_nil]
      · -- room is left behind this value too
        have hroom : pushed.length + 1 < capacity := by omega
        rw [hcursor, Nat.mod_eq_of_lt hroom] at hnext
        rw [Nat.min_eq_left (Nat.le_of_lt hroom)] at hlen'
        refine .filling ?_ hcells' ?_ ?_
        · rwa [List.length_append]
        · rw [hlen', List.length_append, List.length_singleton]
        · rw [hnext, List.length_append, List.length_singleton]
  | full older newer hcells hlen hcursor hsuffix =>
      obtain ⟨oldest, rest, rfl, hwritten⟩ := ring.split_at_next hcells hcursor value
      have hlen' : (ring.push value).len = capacity := by
        show min (ring.len + 1) capacity = capacity
        omega
      have hcount : newer.length + (rest.length + 1) = capacity := by
        rw [← List.length_cons, ← List.length_append, ← hcells, Vector.length_toList]
      -- the ring forgets its oldest value and keeps the ones after it
      have hkept : rest ++ (newer ++ [value]) <:+ pushed ++ [value] := by
        obtain ⟨before, hpushed⟩ := hsuffix
        refine ⟨before ++ [oldest], ?_⟩
        rw [← hpushed]
        simp
      by_cases hlast : rest = []
      · -- the last cell is written, so all the cells lie before the cursor again
        have hwrap : newer.length + 1 = capacity := by
          rw [hlast, List.length_nil] at hcount
          exact hcount
        rw [hcursor, hwrap, Nat.mod_self] at hnext
        rw [hlast] at hwritten hkept
        refine .full (newer ++ [value]) [] hwritten hlen' hnext ?_
        rw [List.append_nil]
        exact hkept
      · -- older values are left after the cursor
        have hmore : 0 < rest.length := List.length_pos_of_ne_nil hlast
        have hroom : newer.length + 1 < capacity := by omega
        rw [hcursor, Nat.mod_eq_of_lt hroom] at hnext
        refine .full rest (newer ++ [value]) ?_ hlen' ?_ hkept
        · rw [hwritten, List.append_assoc, List.singleton_append]
        · rw [hnext, List.length_append, List.length_singleton]

theorem holds_foldl (fill : α) (pushed : List α) :
    Holds pushed (pushed.foldl push (empty fill : RingBuffer α capacity)) := by
  induction pushed using List.reverseRecOn with
  | nil => exact holds_empty fill
  | append_singleton pushed value ih =>
      rw [List.foldl_append]
      exact ih.push value

omit [NeZero capacity] in
/-- The written cells are the last values, turned by the cursor. -/
theorem Holds.cells_perm {pushed : List α} {ring : RingBuffer α capacity}
    (h : Holds pushed ring) : ring.cells.Perm (pushed.rtake capacity) := by
  cases h with
  | filling hshort hcells hlen hcursor =>
      have hwindow : pushed.rtake capacity = pushed := by
        rw [List.rtake, Nat.sub_eq_zero_of_le (Nat.le_of_lt hshort), List.drop_zero]
      rw [cells, hcells, hlen, List.take_left, hwindow]
  | full older newer hcells hlen hcursor hsuffix =>
      have hlength : (older ++ newer).length = capacity := by
        rw [List.length_append, Nat.add_comm, ← List.length_append, ← hcells,
          Vector.length_toList]
      have hwindow : pushed.rtake capacity = older ++ newer := by
        rw [List.rtake, ← hlength]
        exact (List.suffix_iff_eq_drop.mp hsuffix).symm
      have hall : ring.cells = newer ++ older := by
        rw [cells, hlen, List.take_of_length_le (Nat.le_of_eq Vector.length_toList), hcells]
      rw [hall, hwindow]
      exact List.perm_append_comm

omit [NeZero capacity] in
theorem Holds.length_cells {pushed : List α} {ring : RingBuffer α capacity}
    (h : Holds pushed ring) : ring.cells.length = ring.len ∧ ring.len ≤ capacity := by
  have hle : ring.len ≤ capacity := by
    cases h with
    | filling hshort _ hlen _ => omega
    | full _ _ _ hlen _ _ => omega
  rw [cells, List.length_take, Vector.length_toList]
  exact ⟨Nat.min_eq_left hle, hle⟩

/-- After any pushes the written cells are the last of the values pushed. -/
theorem cells_perm (fill : α) (pushed : List α) :
    (pushed.foldl push (empty fill : RingBuffer α capacity)).cells.Perm (pushed.rtake capacity) :=
  (holds_foldl fill pushed).cells_perm

end RingBuffer

/-! ## Percentiles -/

namespace Percentile

/-- The element at the rank of a percentage of a list, and 0 for an empty one. -/
def percentile (samples : List Nat) (percent : Nat) : Nat :=
  (samples.mergeSort (· ≤ ·)).getD ((samples.length - 1) * min percent 100 ⌈/⌉ 100) 0

/-- The rank of a percentage is one of the places. -/
theorem rank_le (last percent : Nat) : last * min percent 100 ⌈/⌉ 100 ≤ last := by
  rw [Nat.ceilDiv_eq_add_pred_div]
  have hle : last * min percent 100 ≤ last * 100 :=
    Nat.mul_le_mul_left last (Nat.min_le_right percent 100)
  omega

theorem rank_mono {last percent percent' : Nat} (h : percent ≤ percent') :
    last * min percent 100 ⌈/⌉ 100 ≤ last * min percent' 100 ⌈/⌉ 100 := by
  rw [Nat.ceilDiv_eq_add_pred_div, Nat.ceilDiv_eq_add_pred_div]
  have hle : last * min percent 100 ≤ last * min percent' 100 :=
    Nat.mul_le_mul_left last (min_le_min_right 100 h)
  omega

theorem pairwise_mergeSort (samples : List Nat) :
    (samples.mergeSort (· ≤ ·)).Pairwise (· ≤ ·) := by
  have htrans : ∀ a b c : Nat, decide (a ≤ b) = true → decide (b ≤ c) = true →
      decide (a ≤ c) = true := by
    intro a b c hab hbc
    rw [decide_eq_true_eq] at *
    exact hab.trans hbc
  have htotal : ∀ a b : Nat, (decide (a ≤ b) || decide (b ≤ a)) = true := by
    intro a b
    rw [Bool.or_eq_true, decide_eq_true_eq, decide_eq_true_eq]
    exact Nat.le_total a b
  have hsorted := List.pairwise_mergeSort htrans htotal samples
  exact hsorted.imp of_decide_eq_true

/-- Sorting forgets the order. -/
theorem mergeSort_congr {samples samples' : List Nat} (h : samples.Perm samples') :
    samples.mergeSort (· ≤ ·) = samples'.mergeSort (· ≤ ·) := by
  refine List.Perm.eq_of_pairwise ?_ (pairwise_mergeSort samples) (pairwise_mergeSort samples') ?_
  · intro a b _ _ hab hba
    exact Nat.le_antisymm hab hba
  · exact (List.mergeSort_perm samples _).trans (h.trans (List.mergeSort_perm samples' _).symm)

theorem percentile_congr {samples samples' : List Nat} (h : samples.Perm samples')
    (percent : Nat) : percentile samples percent = percentile samples' percent := by
  rw [percentile, percentile, mergeSort_congr h, h.length_eq]

/-- A higher percentage does not give a smaller element. -/
theorem percentile_mono (samples : List Nat) {percent percent' : Nat} (h : percent ≤ percent') :
    percentile samples percent ≤ percentile samples percent' := by
  unfold percentile
  generalize hlast : samples.length - 1 = last
  have hrank := @rank_mono last percent percent' h
  have hbound := rank_le last percent'
  rcases Nat.eq_zero_or_pos samples.length with hnone | hsome
  · rw [List.eq_nil_of_length_eq_zero hnone, List.mergeSort_nil, List.getD_nil, List.getD_nil]
  · have hlength : (samples.mergeSort (· ≤ ·)).length = last + 1 := by
      rw [List.length_mergeSort]
      omega
    rw [List.getD_eq_getElem _ _ (by omega), List.getD_eq_getElem _ _ (by omega)]
    exact (pairwise_mergeSort samples).rel_get_of_le (Fin.mk_le_mk.mpr hrank)

end Percentile
