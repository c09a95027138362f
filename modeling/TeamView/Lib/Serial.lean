import Mathlib.Tactic

set_option autoImplicit false

/-! # Numbers that wrap around

Serial numbers below a modulus `m` come back to `0` after `m - 1`. How far one is ahead of another
is always defined (`ahead`); which of two is the older one is only meaningful while they lie close
to each other. Seen from a common start, numbers are ordered by how far they are ahead of it, and
the distance of two of them is the difference (`ahead_eq_sub`), or what that leaves of the modulus
when it is taken the wrong way round (`ahead_eq_wrap`).

Numbers that arrive one after the other leave gaps. Counting those in front of each new highest
one (`skipped`) counts what never arrives and what arrives late (`skipped_add_length`).
-/

namespace Serial

variable {m a b start : Nat}

/-- How far `b` is ahead of `a`. -/
def ahead (m a b : Nat) : Nat := (m - a + b) % m

theorem ahead_self (ha : a ≤ m) : ahead m a a = 0 := by
  unfold ahead
  rw [Nat.sub_add_cancel ha]
  exact Nat.mod_self m

theorem ahead_lt (hm : 0 < m) (a b : Nat) : ahead m a b < m := Nat.mod_lt _ hm

theorem ahead_of_le (hab : a ≤ b) (hb : b < m) : ahead m a b = b - a := by
  have hsum : m - a + b = (b - a) + m := by omega
  unfold ahead
  rw [hsum, Nat.add_mod_right]
  exact Nat.mod_eq_of_lt (by omega)

theorem ahead_of_lt (hba : b < a) (ha : a < m) : ahead m a b = m - (a - b) := by
  have hsum : m - a + b = m - (a - b) := by omega
  unfold ahead
  rw [hsum]
  exact Nat.mod_eq_of_lt (by omega)

/-- The two distances of different numbers go once around. -/
theorem ahead_add_ahead (hne : a ≠ b) (ha : a < m) (hb : b < m) :
    ahead m a b + ahead m b a = m := by
  rcases Nat.lt_or_gt_of_ne hne with hlt | hgt
  · rw [ahead_of_le (Nat.le_of_lt hlt) hb, ahead_of_lt hlt hb]
    omega
  · rw [ahead_of_lt hgt ha, ahead_of_le (Nat.le_of_lt hgt) ha]
    omega

/-! ## Seen from a common start -/

theorem ahead_eq_sub (hs : start < m) (ha : a < m) (hb : b < m)
    (h : ahead m start a ≤ ahead m start b) :
    ahead m a b = ahead m start b - ahead m start a := by
  -- the wrap lies before both, between them or behind both
  rcases Nat.lt_or_ge a start with has | hsa
  · rw [ahead_of_lt has hs] at h ⊢
    rcases Nat.lt_or_ge b start with hbs | hsb
    · rw [ahead_of_lt hbs hs] at h ⊢
      rw [ahead_of_le (by omega) hb]
      omega
    · rw [ahead_of_le hsb hb] at h
      omega
  · rw [ahead_of_le hsa ha] at h ⊢
    rcases Nat.lt_or_ge b start with hbs | hsb
    · rw [ahead_of_lt hbs hs, ahead_of_lt (by omega) ha]
      omega
    · rw [ahead_of_le hsb hb] at h ⊢
      rw [ahead_of_le (by omega) hb]
      omega

/-- Different numbers are at different distances. -/
theorem ahead_inj (hs : start < m) (ha : a < m) (hb : b < m) :
    ahead m start a = ahead m start b ↔ a = b := by
  constructor
  · intro h
    have hzero : ahead m a b = 0 := by
      rw [ahead_eq_sub hs ha hb (le_of_eq h), h, Nat.sub_self]
    by_contra hne
    have haround := ahead_add_ahead hne ha hb
    have hlt : ahead m b a < m := ahead_lt (by omega) b a
    omega
  · rintro rfl
    rfl

theorem ahead_eq_wrap (hs : start < m) (ha : a < m) (hb : b < m)
    (h : ahead m start b < ahead m start a) :
    ahead m a b = m - (ahead m start a - ahead m start b) := by
  have hne : a ≠ b := by
    rintro rfl
    exact absurd h (Nat.lt_irrefl _)
  have hback := ahead_eq_sub hs hb ha (Nat.le_of_lt h)
  have haround := ahead_add_ahead hne ha hb
  omega

/-! ## Arrivals -/

/-- The highest number, from `top` on. -/
def highest (top : Nat) (numbers : List Nat) : Nat := numbers.foldl max top

/-- The numbers left out in front of each new highest one. -/
def skipped (top : Nat) : List Nat → Nat
  | [] => 0
  | n :: later => if top < n then (n - top - 1) + skipped n later else skipped top later

/-- The numbers that arrive after a higher one. -/
def late (earlier : List Nat) : List Nat → List Nat
  | [] => []
  | n :: later =>
      if ∃ e ∈ earlier, n < e then n :: late (earlier ++ [n]) later
      else late (earlier ++ [n]) later

theorem late_sublist (earlier numbers : List Nat) : (late earlier numbers).Sublist numbers := by
  induction numbers generalizing earlier with
  | nil => exact List.Sublist.refl []
  | cons n later ih =>
      unfold late
      split
      · exact (ih (earlier ++ [n])).cons_cons n
      · exact (ih (earlier ++ [n])).cons n

theorem le_highest (top : Nat) (numbers : List Nat) : top ≤ highest top numbers := by
  induction numbers generalizing top with
  | nil => exact le_refl top
  | cons n later ih => exact le_trans (Nat.le_max_left top n) (ih (max top n))

theorem le_highest_of_mem {top n : Nat} {numbers : List Nat} (hn : n ∈ numbers) :
    n ≤ highest top numbers := by
  induction numbers generalizing top with
  | nil => exact absurd hn List.not_mem_nil
  | cons m later ih =>
      rcases List.mem_cons.mp hn with rfl | hlater
      · exact le_trans (Nat.le_max_right top n) (le_highest (max top n) later)
      · exact ih hlater

theorem highest_le {top bound : Nat} {numbers : List Nat} (htop : top ≤ bound)
    (h : ∀ n ∈ numbers, n ≤ bound) : highest top numbers ≤ bound := by
  induction numbers generalizing top with
  | nil => exact htop
  | cons n later ih =>
      refine ih (Nat.max_le.mpr ⟨htop, h n List.mem_cons_self⟩) ?_
      intro m hm
      exact h m (List.mem_cons_of_mem n hm)

/-- Counting gaps, every number behind the first is a new highest one or late. -/
theorem skipped_add_length {top : Nat} {earlier numbers : List Nat} (htop : top ∈ earlier)
    (hmax : ∀ e ∈ earlier, e ≤ top) (hnodup : (earlier ++ numbers).Nodup) :
    skipped top numbers + numbers.length + top
      = highest top numbers + (late earlier numbers).length := by
  induction numbers generalizing top earlier with
  | nil =>
      show 0 + 0 + top = top + 0
      omega
  | cons n later ih =>
      have hnodup' : ((earlier ++ [n]) ++ later).Nodup := by
        rw [List.append_assoc]
        exact hnodup
      have hne : n ≠ top := by
        rintro rfl
        exact List.disjoint_of_nodup_append hnodup htop List.mem_cons_self
      unfold skipped late
      rw [List.length_cons]
      by_cases hnew : top < n
      · -- a new top: the numbers between it and the old one are skipped
        have hnone : ¬ ∃ e ∈ earlier, n < e := by
          rintro ⟨e, he, hlt⟩
          have hle := hmax e he
          omega
        have hmax' : ∀ e ∈ earlier ++ [n], e ≤ n := by
          intro e he
          rcases List.mem_append.mp he with hearlier | hself
          · exact le_trans (hmax e hearlier) (Nat.le_of_lt hnew)
          · exact le_of_eq (List.mem_singleton.mp hself)
        have hrest := ih (List.mem_append_right earlier (List.mem_singleton_self n)) hmax' hnodup'
        have hhighest : highest top (n :: later) = highest n later :=
          congrArg (fun top => highest top later) (Nat.max_eq_right (Nat.le_of_lt hnew))
        rw [if_pos hnew, if_neg hnone, hhighest]
        omega
      · -- below the top: the number comes late
        have hlate : ∃ e ∈ earlier, n < e := ⟨top, htop, by omega⟩
        have hmax' : ∀ e ∈ earlier ++ [n], e ≤ top := by
          intro e he
          rcases List.mem_append.mp he with hearlier | hself
          · exact hmax e hearlier
          · rw [List.mem_singleton.mp hself]
            omega
        have hrest := ih (List.mem_append_left [n] htop) hmax' hnodup'
        have hhighest : highest top (n :: later) = highest top later :=
          congrArg (fun top => highest top later) (Nat.max_eq_left (Nat.not_lt.mp hnew))
        rw [if_neg hnew, if_pos hlate, hhighest, List.length_cons]
        omega

/-- Nothing is late exactly when every number is at least as high as those before it. -/
theorem late_eq_nil_iff (earlier numbers : List Nat) :
    late earlier numbers = [] ↔
      (∀ e ∈ earlier, ∀ n ∈ numbers, e ≤ n) ∧ numbers.Pairwise (· ≤ ·) := by
  induction numbers generalizing earlier with
  | nil => simp [late]
  | cons n later ih =>
      unfold late
      by_cases hlate : ∃ e ∈ earlier, n < e
      · rw [if_pos hlate]
        refine iff_of_false (List.cons_ne_nil _ _) ?_
        rintro ⟨hall, _⟩
        obtain ⟨e, he, hlt⟩ := hlate
        have hle := hall e he n List.mem_cons_self
        omega
      · rw [if_neg hlate, ih, List.pairwise_cons]
        have hself : ∀ e ∈ earlier, e ≤ n :=
          fun e he => Nat.not_lt.mp fun hlt => hlate ⟨e, he, hlt⟩
        simp only [List.forall_mem_append, List.forall_mem_singleton, List.forall_mem_cons]
        constructor
        · rintro ⟨⟨hearlier, hn⟩, hlater⟩
          exact ⟨fun e he => ⟨hself e he, hearlier e he⟩, hn, hlater⟩
        · rintro ⟨hearlier, hn, hlater⟩
          exact ⟨⟨fun e he => (hearlier e he).2, hn⟩, hlater⟩

/-- Different numbers below `bound` leave the others out. -/
theorem length_left_out {bound : Nat} {numbers : List Nat} (hnodup : numbers.Nodup)
    (hlt : ∀ n ∈ numbers, n < bound) :
    ((List.range bound).filter (· ∉ numbers)).length + numbers.length = bound := by
  have hperm : ((List.range bound).filter (· ∈ numbers)).Perm numbers := by
    rw [List.perm_ext_iff_of_nodup (List.nodup_range.filter _) hnodup]
    intro n
    rw [List.mem_filter, List.mem_range, decide_eq_true_eq]
    exact and_iff_right_of_imp (hlt n)
  have hsplit := List.length_eq_length_filter_add (l := List.range bound) (· ∈ numbers)
  rw [List.length_range, hperm.length_eq] at hsplit
  simp only [← decide_not] at hsplit
  omega

/-! ## Machine words -/

theorem toNat_sub_eq_ahead (a b : UInt32) :
    (b - a).toNat = ahead (2 ^ 32) a.toNat b.toNat := UInt32.toNat_sub b a

end Serial
