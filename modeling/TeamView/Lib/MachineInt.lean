import Mathlib.Tactic

set_option autoImplicit false

/-! # Saturating arithmetic on bounded counters

A counter of a fixed width is a natural number here; the operations that a program performs
with saturation state their bound. Nothing below the bound is affected (`satAdd_eq`,
`clamp_eq_iff`), and a checked product that there is is the exact one (`eq_of_checkedMul`).
-/

namespace MachineInt

def u16Max : Nat := 65535
def u32Max : Nat := 4294967295
def u64Max : Nat := 18446744073709551615

/-- `saturating_add` on a counter with maximum `top`. -/
def satAdd (top a b : Nat) : Nat := min (a + b) top

/-- `saturating_mul` on a counter with maximum `top`. -/
def satMul (top a b : Nat) : Nat := min (a * b) top

/-- `checked_mul` on a counter with maximum `top`. -/
def checkedMul (top a b : Nat) : Option Nat := if a * b ≤ top then some (a * b) else none

/-- `clamp` to the interval from `lo` to `hi`. -/
def clamp (lo hi a : Nat) : Nat := max lo (min a hi)

/-- `div_ceil`. -/
def divCeil (a b : Nat) : Nat := (a + b - 1) / b

theorem satAdd_eq {top a b : Nat} (h : a + b ≤ top) : satAdd top a b = a + b :=
  Nat.min_eq_left h

/-- A product that fits is the exact one. -/
theorem eq_of_checkedMul {top a b c : Nat} (h : checkedMul top a b = some c) : c = a * b := by
  unfold checkedMul at h
  split at h
  · exact (Option.some.inj h).symm
  · exact nomatch h

theorem satAdd_le_add (top a b : Nat) : satAdd top a b ≤ a + b := Nat.min_le_left _ _

theorem clamp_ge (lo hi a : Nat) : lo ≤ clamp lo hi a := Nat.le_max_left _ _

theorem clamp_le {lo hi : Nat} (h : lo ≤ hi) (a : Nat) : clamp lo hi a ≤ hi :=
  Nat.max_le.mpr ⟨h, Nat.min_le_right _ _⟩

/-- Exactly the values in the interval are left alone. -/
theorem clamp_eq_iff {lo hi : Nat} (h : lo ≤ hi) (a : Nat) :
    clamp lo hi a = a ↔ lo ≤ a ∧ a ≤ hi := by
  unfold clamp
  omega

end MachineInt
