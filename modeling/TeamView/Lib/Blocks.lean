import Mathlib.Data.List.Basic
import Mathlib.Algebra.BigOperators.Group.List.Basic

set_option autoImplicit false

/-! # Blocks of one width

A list of blocks of `k` elements each, one behind the other, is read by the number of the block.
A table is stored row by row in the same way: the cell in column `x` of row `y` of a table of width
`w` is number `y * w + x`.
-/

namespace Blocks

variable {α β : Type}

/-- Block number `i` of a list of blocks of width `k`. -/
def block (k : Nat) (l : List α) (i : Nat) : List α := (l.drop (i * k)).take k

/-- Blocks of one width take the width of all of them. -/
theorem length_flatMap {f : α → List β} {k : Nat} {l : List α}
    (hwidth : ∀ a ∈ l, (f a).length = k) : (l.flatMap f).length = l.length * k := by
  induction l with
  | nil => exact (Nat.zero_mul k).symm
  | cons a l ih =>
      rw [List.forall_mem_cons] at hwidth
      rw [List.flatMap_cons, List.length_append, hwidth.1, ih hwidth.2, List.length_cons,
        Nat.succ_mul, Nat.add_comm]

/-- Block number `i` is what was written for entry number `i`. -/
theorem block_flatMap {f : α → List β} {k : Nat} {l : List α}
    (hwidth : ∀ a ∈ l, (f a).length = k) {i : Nat} (hi : i < l.length) :
    block k (l.flatMap f) i = f l[i] := by
  unfold block
  induction l generalizing i with
  | nil => exact absurd hi (Nat.not_lt_zero i)
  | cons a l ih =>
      rw [List.forall_mem_cons] at hwidth
      cases i with
      | zero =>
          rw [Nat.zero_mul, List.drop_zero, List.flatMap_cons]
          exact List.take_left' hwidth.1
      | succ i =>
          have hskip : (i + 1) * k = (f a).length + i * k := by
            rw [hwidth.1, Nat.succ_mul, Nat.add_comm]
          rw [List.flatMap_cons, hskip, ← List.drop_drop, List.drop_left]
          exact ih hwidth.2 (Nat.lt_of_succ_lt_succ hi)

/-! ## Tables -/

/-- The cells of a table, row by row, as row and column. -/
def cells (width height : Nat) : List (Nat × Nat) :=
  (List.range height).flatMap fun y => (List.range width).map fun x => (y, x)

theorem mem_cells {width height : Nat} {cell : Nat × Nat} :
    cell ∈ cells width height ↔ cell.1 < height ∧ cell.2 < width := by
  cases cell with
  | mk y x => simp [cells]

theorem length_row (width y : Nat) : ((List.range width).map fun x => (y, x)).length = width := by
  rw [List.length_map, List.length_range]

theorem length_cells (width height : Nat) : (cells width height).length = width * height := by
  rw [cells, length_flatMap fun y _ => length_row width y, List.length_range, Nat.mul_comm]

/-- A cell of the table has its number below the number of cells. -/
theorem cell_lt {width height x y : Nat} (hx : x < width) (hy : y < height) :
    y * width + x < width * height := by
  have hrows : (y + 1) * width ≤ height * width := Nat.mul_le_mul_right width hy
  have hnext : (y + 1) * width = y * width + width := Nat.succ_mul y width
  rw [Nat.mul_comm width height]
  omega

/-- The cell with a number. -/
theorem getElem?_cells {width height x y : Nat} (hx : x < width) (hy : y < height) :
    (cells width height)[y * width + x]? = some (y, x) := by
  have hrow : block width (cells width height) y = (List.range width).map fun x => (y, x) := by
    rw [cells, block_flatMap (fun y _ => length_row width y) (by rwa [List.length_range]),
      List.getElem_range]
  have hcell : (block width (cells width height) y)[x]? = some (y, x) := by
    rw [hrow, List.getElem?_map, List.getElem?_range hx, Option.map_some]
  rw [block, List.getElem?_take_of_lt hx, List.getElem?_drop] at hcell
  exact hcell

/-- What is written for every cell, row by row, is read by the number of the cell. -/
theorem block_cells {f : Nat × Nat → List β} {k width height : Nat}
    (hwidth : ∀ cell ∈ cells width height, (f cell).length = k) {x y : Nat} (hx : x < width)
    (hy : y < height) : block k ((cells width height).flatMap f) (y * width + x) = f (y, x) := by
  have hlt : y * width + x < (cells width height).length := by
    rw [length_cells]
    exact cell_lt hx hy
  have hcell : (cells width height)[y * width + x] = (y, x) := by
    have hopt := getElem?_cells hx hy
    rw [List.getElem?_eq_getElem hlt] at hopt
    exact Option.some.inj hopt
  rw [block_flatMap hwidth hlt, hcell]

end Blocks
