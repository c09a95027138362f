import Mathlib.Data.List.Basic

set_option autoImplicit false

/-! # UTF-16

A character is one code unit or a pair of surrogates. A reader that takes the units of a text one
by one has the text when it has taken them all (`read_encode`).
-/

namespace Utf16

def unitsOf (c : Char) : List UInt16 :=
  if c.toNat < 0x10000 then [UInt16.ofNat c.toNat]
  else
    let rest := c.toNat - 0x10000
    [UInt16.ofNat (0xD800 + rest / 0x400), UInt16.ofNat (0xDC00 + rest % 0x400)]

def encode (text : List Char) : List UInt16 := text.flatMap unitsOf

def isHigh (unit : UInt16) : Bool := decide (0xD800 ≤ unit.toNat ∧ unit.toNat < 0xDC00)

def isLow (unit : UInt16) : Bool := decide (0xDC00 ≤ unit.toNat ∧ unit.toNat < 0xE000)

/-- The character that a pair of surrogates stands for. -/
def pair (high low : UInt16) : Char :=
  Char.ofNat (0x10000 + (high.toNat - 0xD800) * 0x400 + (low.toNat - 0xDC00))

/-! ## A reader -/

/-- What has been read: the text, and a high surrogate that waits for its low one. A surrogate
without its other half is left out. -/
structure Reader where
  text : List Char
  high : Option UInt16

/-- A reader between two characters. -/
def Reader.having (text : List Char) : Reader := ⟨text, none⟩

def Reader.read (reader : Reader) (unit : UInt16) : Reader :=
  if isHigh unit then ⟨reader.text, some unit⟩
  else if isLow unit then
    match reader.high with
    | some high => .having (reader.text ++ [pair high unit])
    | none => .having reader.text
  else .having (reader.text ++ [Char.ofNat unit.toNat])

theorem read_single {unit : UInt16} (hhigh : isHigh unit = false) (hlow : isLow unit = false)
    (text : List Char) :
    Reader.read (.having text) unit = .having (text ++ [Char.ofNat unit.toNat]) := by
  unfold Reader.read
  rw [hhigh, hlow]
  rfl

theorem read_pair {high low : UInt16} (hhigh : isHigh high = true) (hnot : isHigh low = false)
    (hlow : isLow low = true) (text : List Char) :
    Reader.read (Reader.read (.having text) high) low = .having (text ++ [pair high low]) := by
  unfold Reader.read
  rw [hhigh, hnot, hlow]
  rfl

/-- The reader has a character when it has taken its units. -/
theorem read_unitsOf (text : List Char) (c : Char) :
    (unitsOf c).foldl Reader.read (.having text) = .having (text ++ [c]) := by
  have hvalid : c.toNat < 0xD800 ∨ 0xDFFF < c.toNat ∧ c.toNat < 0x110000 := c.valid
  unfold unitsOf
  split
  · next hsmall =>
      have hunit : (UInt16.ofNat c.toNat).toNat = c.toNat := by
        rw [UInt16.toNat_ofNat']
        omega
      have hhigh : isHigh (UInt16.ofNat c.toNat) = false := by
        rw [isHigh, hunit, decide_eq_false_iff_not]
        omega
      have hlow : isLow (UInt16.ofNat c.toNat) = false := by
        rw [isLow, hunit, decide_eq_false_iff_not]
        omega
      rw [List.foldl_cons, List.foldl_nil, read_single hhigh hlow, hunit, Char.ofNat_toNat]
  · next hlarge =>
      generalize hrest : c.toNat - 0x10000 = rest
      have hhigh : (UInt16.ofNat (0xD800 + rest / 0x400)).toNat = 0xD800 + rest / 0x400 := by
        rw [UInt16.toNat_ofNat']
        omega
      have hlow : (UInt16.ofNat (0xDC00 + rest % 0x400)).toNat = 0xDC00 + rest % 0x400 := by
        rw [UInt16.toNat_ofNat']
        omega
      have hcode : 0x10000 + (0xD800 + rest / 0x400 - 0xD800) * 0x400
          + (0xDC00 + rest % 0x400 - 0xDC00) = c.toNat := by omega
      have hpair : pair (UInt16.ofNat (0xD800 + rest / 0x400))
          (UInt16.ofNat (0xDC00 + rest % 0x400)) = c := by
        rw [pair, hhigh, hlow, hcode, Char.ofNat_toNat]
      dsimp only
      rw [List.foldl_cons, List.foldl_cons, List.foldl_nil, read_pair ?_ ?_ ?_, hpair]
      · rw [isHigh, hhigh, decide_eq_true_iff]
        omega
      · rw [isHigh, hlow, decide_eq_false_iff_not]
        omega
      · rw [isLow, hlow, decide_eq_true_iff]
        omega

/-- What is read of the units of a text is the text. -/
theorem read_encode (text more : List Char) :
    (encode more).foldl Reader.read (.having text) = .having (text ++ more) := by
  induction more generalizing text with
  | nil => exact congrArg Reader.having (List.append_nil text).symm
  | cons c more ih =>
      have hsplit : encode (c :: more) = unitsOf c ++ encode more := List.flatMap_cons
      rw [hsplit, List.foldl_append, read_unitsOf, ih, List.append_assoc]
      rfl

theorem length_unitsOf_le (c : Char) : (unitsOf c).length ≤ 2 := by
  unfold unitsOf
  split
  · exact Nat.le_succ 1
  · exact Nat.le_refl 2

theorem length_encode_le (text : List Char) : (encode text).length ≤ 2 * text.length := by
  induction text with
  | nil => exact Nat.le_refl 0
  | cons c text ih =>
      have hsplit : encode (c :: text) = unitsOf c ++ encode text := List.flatMap_cons
      have hunits := length_unitsOf_le c
      rw [hsplit, List.length_append, List.length_cons]
      omega

end Utf16
