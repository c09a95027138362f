import Mathlib.Tactic

set_option autoImplicit false

/-! # Fixed-width integers as bytes

Little-endian and big-endian byte strings of natural numbers, and reading a fixed number of
bytes off the front of a buffer. Reading more bytes than there are is `none`.
-/

namespace Bytes

/-- The `n` low bytes of `v`, least significant first. -/
def leBytes : Nat → Nat → List UInt8
  | 0, _ => []
  | n + 1, v => UInt8.ofNat v :: leBytes n (v / 256)

/-- The number whose bytes, least significant first, are `bytes`. -/
def ofLe : List UInt8 → Nat
  | [] => 0
  | b :: rest => b.toNat + 256 * ofLe rest

/-- The `n` low bytes of `v`, most significant first. -/
def beBytes (n v : Nat) : List UInt8 := (leBytes n v).reverse

/-- The number whose bytes, most significant first, are `bytes`. -/
def ofBe (bytes : List UInt8) : Nat := ofLe bytes.reverse

/-- Split `n` bytes off the front of a buffer. -/
def getBytes (n : Nat) (buf : List UInt8) : Option (List UInt8 × List UInt8) :=
  if n ≤ buf.length then some (buf.take n, buf.drop n) else none

/-- Read big-endian numbers of the given widths off the front of a buffer. -/
def getBeInts : List Nat → List UInt8 → Option (List Nat × List UInt8)
  | [], buf => some ([], buf)
  | n :: widths, buf =>
      match getBytes n buf with
      | none => none
      | some (bytes, buf) =>
          match getBeInts widths buf with
          | none => none
          | some (values, buf) => some (ofBe bytes :: values, buf)

@[simp] theorem leBytes_length (n v : Nat) : (leBytes n v).length = n := by
  induction n generalizing v with
  | zero => rfl
  | succ n ih => simp [leBytes, ih]

@[simp] theorem beBytes_length (n v : Nat) : (beBytes n v).length = n := by
  simp [beBytes]

theorem ofLe_leBytes (n v : Nat) (h : v < 256 ^ n) : ofLe (leBytes n v) = v := by
  induction n generalizing v with
  | zero =>
      rw [pow_zero] at h
      simp only [leBytes, ofLe]
      omega
  | succ n ih =>
      have hdiv : v / 256 < 256 ^ n := by
        rw [Nat.div_lt_iff_lt_mul (by decide), ← pow_succ]
        exact h
      have hmod : (UInt8.ofNat v).toNat = v % 256 := by simp
      simp only [leBytes, ofLe]
      rw [ih _ hdiv, hmod]
      omega

theorem ofBe_beBytes (n v : Nat) (h : v < 256 ^ n) : ofBe (beBytes n v) = v := by
  rw [ofBe, beBytes, List.reverse_reverse, ofLe_leBytes n v h]

theorem leBytes_ofLe (bytes : List UInt8) : leBytes bytes.length (ofLe bytes) = bytes := by
  induction bytes with
  | nil => rfl
  | cons byte bytes ih =>
      have hbyte : byte.toNat < 256 := byte.toNat_lt
      have hdiv : (byte.toNat + 256 * ofLe bytes) / 256 = ofLe bytes := by omega
      have hmod : UInt8.ofNat (byte.toNat + 256 * ofLe bytes) = byte := by
        rw [← UInt8.toNat_inj, UInt8.toNat_ofNat']
        omega
      rw [List.length_cons, ofLe, leBytes, hdiv, ih, hmod]

theorem ofLe_lt (bytes : List UInt8) : ofLe bytes < 256 ^ bytes.length := by
  induction bytes with
  | nil => exact Nat.one_pos
  | cons byte bytes ih =>
      have hbyte : byte.toNat < 256 := byte.toNat_lt
      rw [List.length_cons, ofLe, pow_succ]
      omega

/-! ## Numbers at an offset -/

/-- The number in the `n` bytes at an offset, most significant first. -/
def beAt (buf : List UInt8) (offset n : Nat) : Nat := ofBe ((buf.drop offset).take n)

/-- The numbers of the given widths that stand one behind the other from an offset on. -/
def beFields : List Nat → Nat → List UInt8 → List Nat
  | [], _, _ => []
  | n :: widths, offset, buf => beAt buf offset n :: beFields widths (offset + n) buf

/-- Numbers of the given widths, one behind the other. -/
def putBeInts : List Nat → List Nat → List UInt8
  | n :: widths, v :: values => beBytes n v ++ putBeInts widths values
  | _, _ => []

theorem beAt_lt (buf : List UInt8) (offset n : Nat) : beAt buf offset n < 256 ^ n := by
  have hlt := ofLe_lt ((buf.drop offset).take n).reverse
  have hlen : ((buf.drop offset).take n).reverse.length ≤ n := by
    rw [List.length_reverse, List.length_take]
    omega
  calc beAt buf offset n < 256 ^ ((buf.drop offset).take n).reverse.length := hlt
    _ ≤ 256 ^ n := Nat.pow_le_pow_right (by decide) hlen

theorem beBytes_beAt {buf : List UInt8} {offset n : Nat} (h : offset + n ≤ buf.length) :
    beBytes n (beAt buf offset n) = (buf.drop offset).take n := by
  have hlen : ((buf.drop offset).take n).reverse.length = n := by
    rw [List.length_reverse, List.length_take, List.length_drop]
    omega
  have hbytes := leBytes_ofLe ((buf.drop offset).take n).reverse
  rw [hlen] at hbytes
  rw [beBytes, beAt, ofBe, hbytes, List.reverse_reverse]

theorem beAt_beBytes {front : List UInt8} {offset : Nat} (hfront : front.length = offset)
    {n v : Nat} (hv : v < 256 ^ n) (rest : List UInt8) :
    beAt (front ++ (beBytes n v ++ rest)) offset n = v := by
  rw [beAt, ← hfront, List.drop_left, List.take_left' (beBytes_length n v), ofBe_beBytes n v hv]

/-- Reading numbers that are all there. -/
theorem getBeInts_eq {widths : List Nat} {offset : Nat} {buf : List UInt8}
    (h : offset + widths.sum ≤ buf.length) :
    getBeInts widths (buf.drop offset)
      = some (beFields widths offset buf, buf.drop (offset + widths.sum)) := by
  induction widths generalizing offset with
  | nil => rfl
  | cons n widths ih =>
      rw [List.sum_cons] at h
      have hnext := @ih (offset + n) (by omega)
      have hlen : n ≤ (buf.drop offset).length := by
        rw [List.length_drop]
        omega
      rw [getBeInts, getBytes, if_pos hlen]
      simp only
      rw [List.drop_drop, hnext, List.sum_cons, Nat.add_assoc]
      rfl

/-- What was read, written again. -/
theorem putBeInts_beFields {widths : List Nat} {offset : Nat} {buf : List UInt8}
    (h : offset + widths.sum ≤ buf.length) :
    putBeInts widths (beFields widths offset buf) = (buf.drop offset).take widths.sum := by
  induction widths generalizing offset with
  | nil => rfl
  | cons n widths ih =>
      rw [List.sum_cons] at h ⊢
      have hnext := @ih (offset + n) (by omega)
      rw [beFields, putBeInts, beBytes_beAt (by omega), hnext, List.take_add, List.drop_drop]

/-- What was written, read again: every number fits its width. -/
theorem beFields_putBeInts {widths values : List Nat}
    (hfit : List.Forall₂ (fun n v => v < 256 ^ n) widths values) {front : List UInt8}
    {offset : Nat} (hfront : front.length = offset) (rest : List UInt8) :
    beFields widths offset (front ++ (putBeInts widths values ++ rest)) = values := by
  induction hfit generalizing front offset with
  | nil => rfl
  | @cons n v widths values hv _ ih =>
      have hbehind : (front ++ beBytes n v).length = offset + n := by
        rw [List.length_append, beBytes_length, hfront]
      have hnext := ih hbehind
      rw [List.append_assoc, ← List.append_assoc (beBytes n v)] at hnext
      rw [beFields, putBeInts, hnext, List.append_assoc, beAt_beBytes hfront hv]

end Bytes
