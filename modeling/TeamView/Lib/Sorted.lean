import Mathlib.Tactic

set_option autoImplicit false

/-! # Extremes and sorted lists

The largest and the smallest element of a list depend on its elements only, and a fold that keeps
the larger of two computes the largest. A sorted list of distinct numbers below its length is an
initial segment.
-/

namespace Sorted

open List

variable {α : Type} [LE α] [Std.IsLinearOrder α]

theorem max?_congr [Max α] [Std.LawfulOrderMax α] {l l' : List α} (h : ∀ a, a ∈ l ↔ a ∈ l') :
    l.max? = l'.max? := by
  refine Option.ext fun a => ?_
  rw [max?_eq_some_iff, max?_eq_some_iff, h a]
  simp only [h]

theorem min?_congr [Min α] [Std.LawfulOrderMin α] {l l' : List α} (h : ∀ a, a ∈ l ↔ a ∈ l') :
    l.min? = l'.min? := by
  refine Option.ext fun a => ?_
  rw [min?_eq_some_iff, min?_eq_some_iff, h a]
  simp only [h]

/-- Folding `max` over a list from one of its elements finds the largest. -/
theorem max?_eq_foldl [Max α] [Std.LawfulOrderMax α] {l : List α} {a : α} (ha : a ∈ l) :
    l.max? = some (l.foldl max a) := by
  have hcons : (a :: l).max? = some (l.foldl max a) := max?_cons'
  rw [← hcons]
  refine max?_congr fun b => ?_
  rw [mem_cons]
  constructor
  · exact .inr
  · rintro (rfl | hb)
    · exact ha
    · exact hb

/-- Distinct numbers in order, all below their count, are the first ones. -/
theorem eq_range_of_pairwise_lt {l : List Nat} (hsorted : l.Pairwise (· < ·))
    (hbound : ∀ i ∈ l, i < l.length) : l = List.range l.length := by
  have hnodup : l.Nodup := hsorted.imp Nat.ne_of_lt
  have hsub : l ⊆ List.range l.length := fun i hi => List.mem_range.mpr (hbound i hi)
  have hperm : l.Perm (List.range l.length) :=
    (hnodup.subperm hsub).perm_of_length_le (by rw [List.length_range])
  refine hperm.eq_of_pairwise ?_ hsorted List.pairwise_lt_range
  intro i j _ _ hij hji
  exact absurd hij (Nat.lt_asymm hji)

/-- Distinct numbers below `n` are at most `n`, and `n` only if none is missing. -/
theorem length_le_of_bound {l : List Nat} {n : Nat} (hnodup : l.Nodup) (hbound : ∀ i ∈ l, i < n) :
    l.length ≤ n := by
  have hsub : l ⊆ List.range n := fun i hi => List.mem_range.mpr (hbound i hi)
  have hle := (hnodup.subperm hsub).length_le
  rwa [List.length_range] at hle

theorem length_eq_iff_forall_mem {l : List Nat} {n : Nat} (hnodup : l.Nodup)
    (hbound : ∀ i ∈ l, i < n) : l.length = n ↔ ∀ i < n, i ∈ l := by
  have hsub : l ⊆ List.range n := fun i hi => List.mem_range.mpr (hbound i hi)
  constructor
  · intro hlength i hi
    have hperm : l.Perm (List.range n) :=
      (hnodup.subperm hsub).perm_of_length_le (by rw [List.length_range, hlength])
    exact hperm.mem_iff.mpr (List.mem_range.mpr hi)
  · intro hall
    have hsub' : List.range n ⊆ l := fun i hi => hall i (List.mem_range.mp hi)
    have hge := (List.nodup_range.subperm hsub').length_le
    rw [List.length_range] at hge
    exact Nat.le_antisymm (length_le_of_bound hnodup hbound) hge

/-- Sorting by a key that tells the elements apart and fills `0, .., n - 1` puts the element with
key `i` in place `i`. -/
theorem map_insertionSort_eq_range {β : Type} (r : β → β → Prop) [DecidableRel r] [Std.Total r]
    [IsTrans β r] (key : β → Nat) (hkey : ∀ a b, r a b → key a ≤ key b) {l : List β}
    (hnodup : (l.map key).Nodup) (hbound : ∀ b ∈ l, key b < l.length) :
    (l.insertionSort r).map key = List.range l.length := by
  have hperm : (l.insertionSort r).Perm l := perm_insertionSort r l
  have hnodup' : ((l.insertionSort r).map key).Nodup := (hperm.map key).nodup_iff.mpr hnodup
  have hle : ((l.insertionSort r).map key).Pairwise (· ≤ ·) :=
    List.pairwise_map.mpr ((List.pairwise_insertionSort r l).imp (hkey _ _))
  have hlt : ((l.insertionSort r).map key).Pairwise (· < ·) :=
    (hle.and hnodup').imp fun h => Nat.lt_of_le_of_ne h.1 h.2
  have hlength : ((l.insertionSort r).map key).length = l.length := by
    rw [List.length_map, hperm.length_eq]
  rw [← hlength]
  refine eq_range_of_pairwise_lt hlt fun i hi => ?_
  obtain ⟨b, hb, rfl⟩ := List.mem_map.mp hi
  rw [hlength]
  exact hbound b (hperm.mem_iff.mp hb)

/-- Two orders of the same elements, by a key that tells them apart, are one. -/
theorem eq_of_map_eq {β γ : Type} {key : β → γ} {l l' : List β} (hperm : l.Perm l')
    (hnodup : (l.map key).Nodup) (h : l.map key = l'.map key) : l = l' := by
  have hinj : ∀ a ∈ l, ∀ b ∈ l', key a = key b → a = b := fun a ha b hb hab =>
    List.inj_on_of_nodup_map hnodup ha (hperm.mem_iff.mpr hb) hab
  clear hperm hnodup
  induction l generalizing l' with
  | nil => exact (List.map_eq_nil_iff.mp h.symm).symm
  | cons a l ih =>
      cases l' with
      | nil => cases h
      | cons b l' =>
          rw [List.map_cons, List.map_cons, List.cons.injEq] at h
          rw [hinj a mem_cons_self b mem_cons_self h.1]
          refine congrArg (b :: ·) (ih h.2 fun c hc d hd => ?_)
          exact hinj c (mem_cons_of_mem _ hc) d (mem_cons_of_mem _ hd)

end Sorted
