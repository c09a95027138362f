import Mathlib.Algebra.BigOperators.Group.Finset.Basic
import TeamView.Lib.BTree

set_option autoImplicit false

/-! # Counting in two ways

The pairs of a relation between two lists can be counted from either side
(`sum_filter_comm`). If the relation is a function into the other list, there are as many pairs as
elements (`sum_filter_eq_length`). Counts kept in a map add up to the same over its keys and over
any more keys (`sum_keys_getD`).
-/

namespace Counting

variable {α β : Type}

/-- How many elements of one list each element of the other is related to, added up from either
side. -/
theorem sum_filter_comm (related : α → β → Bool) (xs : List α) (ys : List β) :
    (xs.map fun x => (ys.filter (related x)).length).sum
      = (ys.map fun y => (xs.filter (related · y)).length).sum := by
  induction xs with
  | nil =>
      induction ys with
      | nil => rfl
      | cons y ys ih => exact ih.trans (Nat.zero_add _).symm
  | cons x xs ih =>
      have hrow : ∀ ys : List β, (ys.map fun y => ((x :: xs).filter (related · y)).length).sum
          = (ys.filter (related x)).length
            + (ys.map fun y => (xs.filter (related · y)).length).sum := by
        intro ys
        induction ys with
        | nil => rfl
        | cons y ys ihy =>
            rw [List.map_cons, List.sum_cons, ihy, List.map_cons, List.sum_cons, List.filter_cons,
              List.filter_cons]
            split
            · rw [List.length_cons, List.length_cons]
              omega
            · omega
      rw [List.map_cons, List.sum_cons, ih, hrow]

/-- Each element belongs to one class, so the classes have as many elements as there are. -/
theorem sum_filter_eq_length [DecidableEq α] (classOf : β → α) {xs : List α} (hnodup : xs.Nodup)
    {ys : List β} (hmem : ∀ y ∈ ys, classOf y ∈ xs) :
    (xs.map fun x => (ys.filter fun y => classOf y == x).length).sum = ys.length := by
  rw [sum_filter_comm fun x y => classOf y == x]
  have hone : ∀ y ∈ ys, (xs.filter fun x => classOf y == x).length = 1 := by
    intro y hy
    have hcount := List.count_eq_one_of_mem hnodup (hmem y hy)
    rw [List.count_eq_length_filter] at hcount
    rw [← hcount]
    congr 2
    funext x
    exact BEq.comm
  rw [List.map_congr_left hone, List.map_const', List.sum_replicate_nat, Nat.mul_one]

/-- Elements that count for nothing may be left out of a sum. -/
theorem sum_map_of_subset [DecidableEq α] {xs ys : List α} (hxs : xs.Nodup) (hys : ys.Nodup)
    (hsub : ∀ x ∈ xs, x ∈ ys) {f : α → Nat} (hzero : ∀ y ∈ ys, y ∉ xs → f y = 0) :
    (xs.map f).sum = (ys.map f).sum := by
  rw [← List.sum_toFinset f hxs, ← List.sum_toFinset f hys]
  refine Finset.sum_subset ?_ ?_
  · intro x hx
    exact List.mem_toFinset.mpr (hsub x (List.mem_toFinset.mp hx))
  · intro y hy hnot
    exact hzero y (List.mem_toFinset.mp hy) fun hmem => hnot (List.mem_toFinset.mpr hmem)

section Maps

open BTree Std

variable {κ ν : Type} [Ord κ] [TransOrd κ] [LawfulEqOrd κ] [DecidableEq κ]

/-- The values of a map, added up over the keys of a map with more of them. -/
theorem sum_keys_getD (f : ν → Nat) (m : BTreeMap κ ν) {keys : List κ} (hkeys : keys.Nodup)
    (hsub : ∀ k, k ∈ m → k ∈ keys) :
    (keys.map fun k => (m[k]?.map f).getD 0).sum = ((values m).map f).sum := by
  have hvalues : (values m).map f = m.keys.map fun k => (m[k]?.map f).getD 0 := by
    rw [← ExtTreeMap.map_fst_toList_eq_keys, values, List.map_map, List.map_map]
    refine List.map_congr_left fun entry hentry => ?_
    have hget : m[entry.1]? = some entry.2 := ExtTreeMap.mem_toList_iff_getElem?_eq_some.mp hentry
    show f entry.2 = (m[entry.1]?.map f).getD 0
    rw [hget]
    rfl
  rw [hvalues]
  refine (sum_map_of_subset ExtTreeMap.nodup_keys hkeys ?_ ?_).symm
  · intro k hk
    exact hsub k (ExtTreeMap.mem_keys.mp hk)
  · intro k _ hnot
    have hnone : m[k]? = none :=
      (not_mem_iff_get m k).mp fun hmem => hnot (ExtTreeMap.mem_keys.mpr hmem)
    rw [hnone]
    rfl

end Maps

end Counting
