import TeamView.Lib.MachineInt

set_option autoImplicit false

/-! # Annex B byte streams

NAL units between start codes, and the escaping that keeps start codes out of their payloads
(`crates/desktop-client/src/encode/h264.rs`, `decode/h264.rs`). The iterator over the NAL units is
a function of the bytes from its offset on. Where it cuts is a matter of the run of zeros before
each byte (`firstCode`); an escaped payload never lets it cut (`firstCode_escape`).
-/

namespace TeamView.Client

open MachineInt

/-! ## The encoder's side -/

/-- `ANNEX_B_START_CODE`. -/
def annexBStartCode : List UInt8 := [0, 0, 0, 1]

/-- The loop of `annex_b_escape_payload`, after `consecutive_zeros` zeros. -/
def escapeFrom : Nat → List UInt8 → List UInt8
  | _, [] => []
  | consecutive_zeros, byte :: payload =>
      if 2 ≤ consecutive_zeros ∧ byte ≤ 3 then
        3 :: byte :: escapeFrom (if byte = 0 then 1 else 0) payload
      else
        byte :: escapeFrom (if byte = 0 then satAdd 255 consecutive_zeros 1 else 0) payload

def annexBEscapePayload (payload : List UInt8) : List UInt8 := escapeFrom 0 payload

/-- `append_nal`: what it appends. -/
def nalBytes (nal_header : UInt8) (payload : List UInt8) : List UInt8 :=
  annexBStartCode ++ nal_header :: annexBEscapePayload payload

/-! ## The decoder's side -/

def startCodeLen (bytes : List UInt8) : Option Nat :=
  if [0, 0, 0, 1].isPrefixOf bytes then some 4
  else if [0, 0, 1].isPrefixOf bytes then some 3
  else none

/-- `find_start_code` from the front of the given bytes. -/
def findStartCode : List UInt8 → Option Nat
  | [] => none
  | byte :: bytes =>
      if [0, 0, 1].isPrefixOf (byte :: bytes) || [0, 0, 0, 1].isPrefixOf (byte :: bytes) then some 0
      else (findStartCode bytes).map (· + 1)

/-- `AnnexBNals::next`: the next NAL unit, and the bytes from the next offset on. -/
def nextNal (bytes : List UInt8) : Option (List UInt8 × List UInt8) :=
  match findStartCode bytes with
  | none => none
  | some start =>
      match startCodeLen (bytes.drop start) with
      | none => none
      | some len =>
          let body := bytes.drop (start + len)
          let stop := (findStartCode body).getD body.length
          some (body.take stop, body.drop stop)

/-- All the NAL units. Each takes a start code off the bytes, so as many turns as there are bytes
are enough. -/
def nalsWithin : Nat → List UInt8 → List (List UInt8)
  | 0, _ => []
  | turns + 1, bytes =>
      match nextNal bytes with
      | none => []
      | some (nal, rest) => nal :: nalsWithin turns rest

def annexBNals (bytes : List UInt8) : List (List UInt8) := nalsWithin bytes.length bytes

/-- The loop of `annex_b_unescape_payload`, after `consecutive_zeros` zeros. -/
def unescapeFrom : Nat → List UInt8 → List UInt8
  | _, [] => []
  | consecutive_zeros, byte :: payload =>
      if 2 ≤ consecutive_zeros ∧ byte = 3 then unescapeFrom 0 payload
      else
        byte :: unescapeFrom (if byte = 0 then satAdd 255 consecutive_zeros 1 else 0) payload

def annexBUnescapePayload (payload : List UInt8) : List UInt8 := unescapeFrom 0 payload

/-! ## Where the iterator cuts -/

/-- The position of the first start code, found by counting the zeros before each byte: a one after
two zeros ends a start code, of which the zeros before it, at most three, are a part. -/
def firstCode : Nat → Nat → List UInt8 → Option Nat
  | _, _, [] => none
  | zeros, position, byte :: bytes =>
      if byte = 1 ∧ 2 ≤ zeros then some (position - min zeros 3)
      else firstCode (if byte = 0 then zeros + 1 else 0) (position + 1) bytes

/-- Whether a start code begins at some zeros before another byte. -/
theorem startsWith_zeros (zeros : Nat) {byte : UInt8} (hbyte : byte ≠ 0) (bytes : List UInt8) :
    ([0, 0, 1].isPrefixOf (List.replicate zeros 0 ++ byte :: bytes) ||
        [0, 0, 0, 1].isPrefixOf (List.replicate zeros 0 ++ byte :: bytes))
      = decide (byte = 1 ∧ (zeros = 2 ∨ zeros = 3)) := by
  rcases zeros with _ | _ | _ | _ | zeros
  · simp [List.isPrefixOf, Ne.symm hbyte]
  · simp [List.isPrefixOf, Ne.symm hbyte]
  · simp [List.replicate_succ, List.isPrefixOf, Ne.symm hbyte, beq_eq_decide, @eq_comm _ 1 byte]
  · simp [List.replicate_succ, List.isPrefixOf, beq_eq_decide, @eq_comm _ 1 byte]
  · simp [List.replicate_succ, List.isPrefixOf]

/-- No start code lies within zeros alone. -/
theorem findStartCode_replicate (zeros : Nat) : findStartCode (List.replicate zeros 0) = none := by
  induction zeros with
  | zero => rfl
  | succ zeros ih =>
      rw [List.replicate_succ, findStartCode, ih, if_neg]
      · rfl
      · rcases zeros with _ | _ | _ | zeros <;> simp [List.replicate_succ]

/-- The first start code at or after some zeros before another byte. -/
theorem findStartCode_zeros (zeros : Nat) {byte : UInt8} (hbyte : byte ≠ 0) (bytes : List UInt8) :
    findStartCode (List.replicate zeros 0 ++ byte :: bytes) =
      if byte = 1 ∧ 2 ≤ zeros then some (zeros - min zeros 3)
      else (findStartCode bytes).map (· + (zeros + 1)) := by
  induction zeros with
  | zero =>
      have hstarts := startsWith_zeros 0 hbyte bytes
      rw [List.replicate_zero, List.nil_append] at hstarts ⊢
      rw [findStartCode, hstarts, if_neg (by simp), if_neg fun h => absurd h.2 (by omega)]
  | succ zeros ih =>
      have hstarts := startsWith_zeros (zeros + 1) hbyte bytes
      rw [List.replicate_succ, List.cons_append] at hstarts ⊢
      rw [findStartCode, hstarts, ih]
      by_cases hone : byte = 1
      · by_cases hhere : zeros + 1 = 2 ∨ zeros + 1 = 3
        · rw [if_pos (decide_eq_true ⟨hone, hhere⟩), if_pos ⟨hone, by omega⟩]
          congr 1
          omega
        · rw [if_neg fun h => hhere (decide_eq_true_eq.mp h).2]
          by_cases htwo : 2 ≤ zeros
          · rw [if_pos ⟨hone, htwo⟩, if_pos ⟨hone, by omega⟩, Option.map_some]
            congr 1
            omega
          · rw [if_neg fun h => htwo h.2, if_neg fun h => absurd h.2 (by omega), Option.map_map]
            rfl
      · rw [if_neg fun h => hone (decide_eq_true_eq.mp h).1, if_neg fun h => hone h.1,
          if_neg fun h => hone h.1, Option.map_map]
        rfl

/-- `find_start_code` looks for the first one after two zeros. -/
theorem findStartCode_eq_firstCode (bytes : List UInt8) (zeros extra : Nat) :
    (findStartCode (List.replicate zeros 0 ++ bytes)).map (· + extra)
      = firstCode zeros (zeros + extra) bytes := by
  induction bytes generalizing zeros extra with
  | nil =>
      rw [List.append_nil, findStartCode_replicate]
      rfl
  | cons byte bytes ih =>
      rw [firstCode]
      by_cases hzero : byte = 0
      · have hmore : List.replicate zeros 0 ++ byte :: bytes
            = List.replicate (zeros + 1) 0 ++ bytes := by
          rw [hzero, List.replicate_succ', List.append_assoc, List.singleton_append]
        have hnot : ¬ (byte = 1 ∧ 2 ≤ zeros) := by
          rintro ⟨hone, -⟩
          rw [hzero] at hone
          cases hone
        rw [hmore, ih, if_neg hnot, if_pos hzero]
        congr 1
        omega
      · rw [findStartCode_zeros zeros hzero]
        by_cases hcode : byte = 1 ∧ 2 ≤ zeros
        · rw [if_pos hcode, if_pos hcode, Option.map_some]
          congr 1
          omega
        · rw [if_neg hcode, if_neg hcode]
          have hih := ih 0 (zeros + 1 + extra)
          rw [List.replicate_zero, List.nil_append, Nat.zero_add] at hih
          have hposition : zeros + extra + 1 = zeros + 1 + extra := by omega
          rw [if_neg hzero, Option.map_map]
          rw [hposition, ← hih]
          congr 1
          funext position
          exact Nat.add_assoc position (zeros + 1) extra

theorem findStartCode_eq (bytes : List UInt8) : findStartCode bytes = firstCode 0 0 bytes := by
  have h := findStartCode_eq_firstCode bytes 0 0
  rw [List.replicate_zero, List.nil_append] at h
  rw [← h]
  cases findStartCode bytes <;> rfl

/-- The search finds a start code at the front. -/
theorem startCode_front {code : List UInt8} (hcode : code = [0, 0, 0, 1] ∨ code = [0, 0, 1])
    (bytes : List UInt8) :
    findStartCode (code ++ bytes) = some 0 ∧ startCodeLen (code ++ bytes) = some code.length := by
  rcases hcode with rfl | rfl
  · simp [findStartCode, startCodeLen, List.isPrefixOf]
  · simp [findStartCode, startCodeLen, List.isPrefixOf]

/-- A NAL unit ends where the next start code begins, or with the bytes. -/
theorem nextNal_eq {code : List UInt8} (hcode : code = [0, 0, 0, 1] ∨ code = [0, 0, 1])
    {nal rest : List UInt8}
    (hstop : (firstCode 0 0 (nal ++ rest)).getD (nal ++ rest).length = nal.length) :
    nextNal (code ++ (nal ++ rest)) = some (nal, rest) := by
  obtain ⟨hfind, hlen⟩ := startCode_front hcode (nal ++ rest)
  have hbody : (code ++ (nal ++ rest)).drop (0 + code.length) = nal ++ rest := by
    rw [Nat.zero_add, List.drop_left]
  rw [← findStartCode_eq] at hstop
  unfold nextNal
  rw [hfind]
  simp only [List.drop_zero]
  rw [hlen]
  simp only [hbody, hstop, List.take_left, List.drop_left]

/-- With no start code left, the NAL unit takes all the bytes. -/
theorem nextNal_whole {code : List UInt8} (hcode : code = [0, 0, 0, 1] ∨ code = [0, 0, 1])
    {nal : List UInt8} (hnone : firstCode 0 0 nal = none) :
    nextNal (code ++ nal) = some (nal, []) := by
  have hstop : (firstCode 0 0 (nal ++ [])).getD (nal ++ []).length = nal.length := by
    rw [List.append_nil, hnone]
    rfl
  have hnext := nextNal_eq hcode hstop
  rwa [List.append_nil] at hnext

/-! ## Escaped payloads -/

/-- The zeros at the end of an escaped payload, after `zeros` zeros. -/
def zerosAfter : Nat → List UInt8 → Nat
  | zeros, [] => zeros
  | zeros, byte :: payload =>
      zerosAfter (if byte = 0 then (if 2 ≤ zeros then 1 else zeros + 1) else 0) payload

theorem zerosAfter_le {zeros : Nat} (hzeros : zeros ≤ 2) (payload : List UInt8) :
    zerosAfter zeros payload ≤ 2 := by
  induction payload generalizing zeros with
  | nil => exact hzeros
  | cons byte payload ih =>
      rw [zerosAfter]
      refine ih ?_
      split
      · split <;> omega
      · omega

theorem zerosAfter_append (zeros : Nat) (payload payload' : List UInt8) :
    zerosAfter zeros (payload ++ payload') = zerosAfter (zerosAfter zeros payload) payload' := by
  induction payload generalizing zeros with
  | nil => rfl
  | cons byte payload ih => exact ih _

/-- The escaped form of one byte. -/
theorem escapeFrom_cons {zeros : Nat} (hzeros : zeros ≤ 2) (byte : UInt8) (payload : List UInt8) :
    escapeFrom zeros (byte :: payload) =
      (if 2 ≤ zeros ∧ byte ≤ 3 then [3, byte] else [byte]) ++
        escapeFrom (zerosAfter zeros [byte]) payload := by
  rw [escapeFrom, zerosAfter, zerosAfter]
  by_cases hescape : 2 ≤ zeros ∧ byte ≤ 3
  · rw [if_pos hescape, if_pos hescape, if_pos hescape.1]
    rfl
  · rw [if_neg hescape, if_neg hescape]
    by_cases hzero : byte = 0
    · have hfew : ¬ 2 ≤ zeros := fun h => hescape ⟨h, by rw [hzero]; decide⟩
      have hsat : satAdd 255 zeros 1 = zeros + 1 := satAdd_eq (by omega)
      rw [if_pos hzero, if_pos hzero, if_neg hfew, hsat]
      rfl
    · rw [if_neg hzero, if_neg hzero]
      rfl

theorem escapeFrom_append {zeros : Nat} (hzeros : zeros ≤ 2) (payload payload' : List UInt8) :
    escapeFrom zeros (payload ++ payload')
      = escapeFrom zeros payload ++ escapeFrom (zerosAfter zeros payload) payload' := by
  induction payload generalizing zeros with
  | nil => rfl
  | cons byte payload ih =>
      have hnext := zerosAfter_le hzeros [byte]
      rw [List.cons_append, escapeFrom_cons hzeros, escapeFrom_cons hzeros, ih hnext,
        List.append_assoc]
      rfl

/-- The escaped form of a byte holds no start code. -/
theorem firstCode_escape_cons (zeros position : Nat) (byte : UInt8)
    (tail : List UInt8) :
    firstCode zeros position ((if 2 ≤ zeros ∧ byte ≤ 3 then [3, byte] else [byte]) ++ tail)
      = firstCode (zerosAfter zeros [byte])
          (position + (if 2 ≤ zeros ∧ byte ≤ 3 then [3, byte] else [byte]).length) tail := by
  rw [zerosAfter, zerosAfter]
  by_cases hescape : 2 ≤ zeros ∧ byte ≤ 3
  · -- the inserted byte ends the run of zeros
    have hthree : ¬ ((3 : UInt8) = 1 ∧ 2 ≤ zeros) := fun h => absurd h.1 (by decide)
    have hfew : ¬ (byte = 1 ∧ 2 ≤ 0) := fun h => absurd h.2 (by decide)
    rw [if_pos hescape, if_pos hescape.1]
    show firstCode zeros position (3 :: byte :: tail) = firstCode _ (position + 2) tail
    rw [firstCode, if_neg hthree, if_neg (by decide), firstCode, if_neg hfew]
  · have hcode : ¬ (byte = 1 ∧ 2 ≤ zeros) := by
      rintro ⟨rfl, htwo⟩
      exact hescape ⟨htwo, by decide⟩
    rw [if_neg hescape]
    show firstCode zeros position (byte :: tail) = firstCode _ (position + 1) tail
    rw [firstCode, if_neg hcode]
    by_cases hzero : byte = 0
    · have hfew : ¬ 2 ≤ zeros := fun h => hescape ⟨h, by rw [hzero]; decide⟩
      rw [if_pos hzero, if_pos hzero, if_neg hfew]
    · rw [if_neg hzero, if_neg hzero]

/-- An escaped payload holds no start code, so the search goes on behind it with the zeros at its
end. -/
theorem firstCode_escape {zeros : Nat} (hzeros : zeros ≤ 2) (position : Nat)
    (payload tail : List UInt8) :
    firstCode zeros position (escapeFrom zeros payload ++ tail)
      = firstCode (zerosAfter zeros payload) (position + (escapeFrom zeros payload).length)
          tail := by
  induction payload generalizing zeros position with
  | nil => rfl
  | cons byte payload ih =>
      have hnext := zerosAfter_le hzeros [byte]
      rw [escapeFrom_cons hzeros, List.append_assoc, firstCode_escape_cons, ih hnext,
        List.length_append, Nat.add_assoc]
      rfl

/-- Unescaping undoes the escaping and goes on behind it. -/
theorem unescape_escape {zeros : Nat} (hzeros : zeros ≤ 2) (payload tail : List UInt8) :
    unescapeFrom zeros (escapeFrom zeros payload ++ tail)
      = payload ++ unescapeFrom (zerosAfter zeros payload) tail := by
  induction payload generalizing zeros with
  | nil => rfl
  | cons byte payload ih =>
      have hnext := zerosAfter_le hzeros [byte]
      have hrest := ih hnext
      rw [escapeFrom_cons hzeros, List.append_assoc]
      show _ = byte :: (payload ++ unescapeFrom (zerosAfter (zerosAfter zeros [byte]) payload) tail)
      rw [← hrest, zerosAfter, zerosAfter]
      by_cases hescape : 2 ≤ zeros ∧ byte ≤ 3
      · have hfew : ¬ (2 ≤ 0 ∧ byte = 3) := fun h => absurd h.1 (by decide)
        rw [if_pos hescape, if_pos hescape.1]
        simp only [List.cons_append, List.nil_append]
        rw [unescapeFrom, if_pos ⟨hescape.1, rfl⟩, unescapeFrom, if_neg hfew]
        rfl
      · have hkept : ¬ (2 ≤ zeros ∧ byte = 3) := by
          rintro ⟨htwo, rfl⟩
          exact hescape ⟨htwo, by decide⟩
        rw [if_neg hescape]
        simp only [List.cons_append, List.nil_append]
        rw [unescapeFrom, if_neg hkept]
        by_cases hzero : byte = 0
        · have hfew : ¬ 2 ≤ zeros := fun h => hescape ⟨h, by rw [hzero]; decide⟩
          have hsat : satAdd 255 zeros 1 = zeros + 1 := satAdd_eq (by omega)
          rw [if_pos hzero, if_pos hzero, if_neg hfew, hsat]
        · rw [if_neg hzero, if_neg hzero]

theorem unescape_escape_self (payload : List UInt8) :
    annexBUnescapePayload (annexBEscapePayload payload) = payload := by
  have h := unescape_escape (Nat.zero_le 2) payload []
  rw [List.append_nil] at h
  rw [annexBUnescapePayload, annexBEscapePayload, h]
  exact List.append_nil payload

/-- Cut off the zeros at the end of an escaped payload, and its payload loses as many. -/
theorem escape_trailing (payload : List UInt8) :
    ∃ cut shorter, annexBEscapePayload payload
        = cut ++ List.replicate (zerosAfter 0 payload) 0 ∧
      payload = shorter ++ List.replicate (zerosAfter 0 payload) 0 ∧
      annexBUnescapePayload cut = shorter := by
  induction payload using List.reverseRecOn with
  | nil => exact ⟨[], [], rfl, rfl, rfl⟩
  | append_singleton payload byte ih =>
      have hle := zerosAfter_le (Nat.zero_le 2) payload
      obtain ⟨cut, shorter, hescaped, hpayload, hunescaped⟩ := ih
      have hsplit : annexBEscapePayload (payload ++ [byte])
          = annexBEscapePayload payload ++ escapeFrom (zerosAfter 0 payload) [byte] :=
        escapeFrom_append (Nat.zero_le 2) payload [byte]
      rw [zerosAfter_append, zerosAfter, zerosAfter]
      by_cases hzero : byte = 0
      · subst hzero
        by_cases htwo : 2 ≤ zerosAfter 0 payload
        · -- the zero is kept apart from the two before it by an inserted byte
          have hz : zerosAfter 0 payload = 2 := by omega
          have hcut := unescape_escape (Nat.zero_le 2) payload [3]
          rw [hz] at hsplit hcut
          refine ⟨annexBEscapePayload payload ++ [3], payload, ?_, ?_, ?_⟩
          · rw [hsplit, if_pos rfl, if_pos htwo, List.append_assoc]
            rfl
          · rw [if_pos rfl, if_pos htwo]
            rfl
          · rw [annexBUnescapePayload, annexBEscapePayload, hcut]
            exact List.append_nil payload
        · have hlast : escapeFrom (zerosAfter 0 payload) [0] = [0] := by
            rw [escapeFrom, if_neg fun h => htwo h.1]
            rfl
          refine ⟨cut, shorter, ?_, ?_, hunescaped⟩
          · rw [hsplit, if_pos rfl, if_neg htwo, hlast, hescaped, List.append_assoc,
              List.replicate_succ']
          · rw [if_pos rfl, if_neg htwo, List.replicate_succ', ← List.append_assoc, ← hpayload]
      · refine ⟨annexBEscapePayload (payload ++ [byte]), payload ++ [byte], ?_, ?_,
          unescape_escape_self _⟩
        · rw [if_neg hzero, List.replicate_zero, List.append_nil]
        · rw [if_neg hzero, List.replicate_zero, List.append_nil]

/-! ## Ascending bytes -/

/-- Bytes that count up from the first one. -/
def ascending (first : UInt8) : Nat → List UInt8
  | 0 => []
  | count + 1 => first :: ascending (first + 1) count

@[simp] theorem length_ascending (first : UInt8) (count : Nat) :
    (ascending first count).length = count := by
  induction count generalizing first with
  | zero => rfl
  | succ count ih => rw [ascending, List.length_cons, ih]

/-- Ascending bytes after some zeros form a start code with them. -/
def Clash (zeros : Nat) (first : UInt8) (count : Nat) : Prop :=
  (zeros = 2 ∧ first = 1 ∧ 1 ≤ count) ∨ (1 ≤ zeros ∧ first = 0 ∧ 2 ≤ count)

instance (zeros : Nat) (first : UInt8) (count : Nat) : Decidable (Clash zeros first count) :=
  inferInstanceAs (Decidable (_ ∨ _))

/-- Ascending bytes have a zero before a one at most, and no start code. -/
theorem firstCode_ascending_none {zeros : Nat} {first : UInt8}
    (h : zeros = 0 ∨ (zeros = 1 ∧ first ≠ 0)) (position count : Nat) :
    firstCode zeros position (ascending first count) = none := by
  induction count generalizing zeros first position with
  | zero => rfl
  | succ count ih =>
      have hfew : ¬ (first = 1 ∧ 2 ≤ zeros) := fun hcode => by omega
      rw [ascending, firstCode, if_neg hfew]
      by_cases hzero : first = 0
      · have hnone : zeros = 0 := h.resolve_right fun hone => hone.2 hzero
        rw [if_pos hzero, hnone, hzero]
        exact ih (.inr ⟨rfl, by decide⟩) _
      · rw [if_neg hzero]
        exact ih (.inl rfl) _

theorem firstCode_ascending {zeros : Nat} (hzeros : zeros ≤ 2) {first : UInt8} {count : Nat}
    (position : Nat) :
    firstCode zeros position (ascending first count) =
      if Clash zeros first count then some (position - zeros) else none := by
  by_cases hclash : Clash zeros first count
  · rw [if_pos hclash]
    rcases hclash with ⟨rfl, rfl, hcount⟩ | ⟨hone, rfl, hcount⟩
    · obtain ⟨count, rfl⟩ := Nat.exists_eq_add_of_le hcount
      rw [Nat.add_comm, ascending, firstCode, if_pos ⟨rfl, Nat.le_refl 2⟩]
      rfl
    · obtain ⟨count, rfl⟩ := Nat.exists_eq_add_of_le hcount
      rw [Nat.add_comm, ascending, ascending, firstCode, if_neg fun h => absurd h.1 (by decide),
        if_pos rfl, firstCode, if_pos ⟨by decide, by omega⟩]
      congr 1
      omega
  · rw [if_neg hclash]
    cases count with
    | zero => rfl
    | succ count =>
        by_cases hzero : first = 0
        · by_cases hnone : zeros = 0
          · exact firstCode_ascending_none (.inl hnone) position (count + 1)
          · have hlast : count = 0 := by
              by_contra hmore
              exact hclash (.inr ⟨by omega, hzero, by omega⟩)
            rw [hlast, hzero, ascending, firstCode, if_neg fun h => absurd h.1 (by decide)]
            rfl
        · have hnot : ¬ (first = 1 ∧ 2 ≤ zeros) :=
            fun h => hclash (.inl ⟨by omega, h.1, by omega⟩)
          rw [ascending, firstCode, if_neg hnot, if_neg hzero]
          exact firstCode_ascending_none (.inl rfl) _ count

/-- Unescaping takes at most the first of some ascending bytes. -/
theorem unescape_ascending (zeros : Nat) (first : UInt8) (count : Nat) :
    ∃ first' count', unescapeFrom zeros (ascending first count) = ascending first' count' := by
  have hkept : ∀ (count zeros : Nat) (first : UInt8), (zeros < 2 ∨ first ≠ 3) →
      unescapeFrom zeros (ascending first count) = ascending first count := by
    intro count
    induction count with
    | zero => exact fun _ _ _ => rfl
    | succ count ih =>
        intro zeros first h
        have hnot : ¬ (2 ≤ zeros ∧ first = 3) := by
          rintro ⟨htwo, hthree⟩
          rcases h with h | h
          · omega
          · exact h hthree
        rw [ascending, unescapeFrom, if_neg hnot]
        congr 1
        by_cases hzero : first = 0
        · refine ih _ _ (.inr ?_)
          rw [hzero]
          decide
        · rw [if_neg hzero]
          exact ih _ _ (.inl (by decide))
  by_cases hdropped : 2 ≤ zeros ∧ first = 3
  · cases count with
    | zero => exact ⟨first, 0, rfl⟩
    | succ count =>
        refine ⟨first + 1, count, ?_⟩
        rw [ascending, unescapeFrom, if_pos hdropped]
        exact hkept count 0 (first + 1) (.inl (by decide))
  · refine ⟨first, count, hkept count zeros first ?_⟩
    rcases not_and_or.mp hdropped with h | h
    · exact .inl (Nat.lt_of_not_le h)
    · exact .inr h

/-! ## The last NAL unit of a frame -/

/-- A start code of four bytes is found whatever the zeros before it. -/
theorem firstCode_startCode (zeros position : Nat) (more : List UInt8) :
    firstCode zeros position (annexBStartCode ++ more) = some position := by
  show firstCode zeros position (0 :: 0 :: 0 :: 1 :: more) = some position
  have hzeros : 2 ≤ zeros + 1 + 1 + 1 := by omega
  simp [firstCode, hzeros]

/-- A NAL unit that another one follows. -/
theorem nextNal_nalBytes {nal_header : UInt8} (hheader : nal_header ≠ 0)
    (payload : List UInt8) {rest : List UInt8} (hrest : ∃ more, rest = annexBStartCode ++ more) :
    nextNal (nalBytes nal_header payload ++ rest)
      = some (nal_header :: annexBEscapePayload payload, rest) := by
  obtain ⟨more, rfl⟩ := hrest
  have hbytes : nalBytes nal_header payload ++ (annexBStartCode ++ more)
      = [0, 0, 0, 1] ++ ((nal_header :: annexBEscapePayload payload)
        ++ (annexBStartCode ++ more)) := by
    simp only [nalBytes, annexBStartCode, List.cons_append, List.nil_append]
  have hsearch : firstCode 0 0 ((nal_header :: annexBEscapePayload payload)
      ++ (annexBStartCode ++ more)) = some (nal_header :: annexBEscapePayload payload).length := by
    rw [List.cons_append, firstCode, if_neg fun h => absurd h.2 (by decide), if_neg hheader,
      annexBEscapePayload, firstCode_escape (Nat.zero_le 2)]
    rw [firstCode_startCode, List.length_cons, Nat.zero_add, Nat.add_comm]
  rw [hbytes]
  refine nextNal_eq (.inl rfl) ?_
  rw [hsearch]
  rfl

theorem nalsWithin_succ {bytes nal rest : List UInt8} (h : nextNal bytes = some (nal, rest))
    (turns : Nat) : nalsWithin (turns + 1) bytes = nal :: nalsWithin turns rest := by
  rw [nalsWithin, h]

theorem nalsWithin_nil (turns : Nat) : nalsWithin turns [] = [] := by
  cases turns with
  | zero => rfl
  | succ turns => rfl

/-- The search behind a NAL unit's payload, in ascending bytes. -/
theorem firstCode_last {nal_header : UInt8} (hheader : nal_header ≠ 0)
    (payload : List UInt8) (first : UInt8) (count : Nat) :
    firstCode 0 0 ((nal_header :: annexBEscapePayload payload) ++ ascending first count)
      = if Clash (zerosAfter 0 payload) first count then
          some (1 + (annexBEscapePayload payload).length - zerosAfter 0 payload)
        else none := by
  rw [List.cons_append, firstCode, if_neg fun h => absurd h.2 (by decide), if_neg hheader,
    annexBEscapePayload, firstCode_escape (Nat.zero_le 2),
    firstCode_ascending (zerosAfter_le (Nat.zero_le 2) payload), Nat.zero_add]

theorem nalBytes_append (nal_header : UInt8) (payload rest : List UInt8) :
    nalBytes nal_header payload ++ rest
      = [0, 0, 0, 1] ++ ((nal_header :: annexBEscapePayload payload) ++ rest) := by
  simp only [nalBytes, annexBStartCode, List.cons_append, List.nil_append]

/-- The last NAL unit takes the ascending bytes behind it along. -/
theorem nals_last_kept {nal_header : UInt8} (hheader : nal_header ≠ 0)
    {payload : List UInt8} {first : UInt8} {count : Nat}
    (hclash : ¬ Clash (zerosAfter 0 payload) first count) (turns : Nat) :
    nalsWithin (turns + 1) (nalBytes nal_header payload ++ ascending first count)
      = [nal_header :: annexBEscapePayload payload ++ ascending first count] := by
  have hnext : nextNal (nalBytes nal_header payload ++ ascending first count)
      = some ((nal_header :: annexBEscapePayload payload) ++ ascending first count, []) := by
    have hsearch := firstCode_last hheader payload first count
    rw [if_neg hclash] at hsearch
    rw [nalBytes_append]
    exact nextNal_whole (.inl rfl) hsearch
  rw [nalsWithin_succ hnext, nalsWithin_nil]

/-- A start code made of the zeros at the end of the payload and the ascending bytes behind it
cuts the last NAL unit: it loses these zeros, and the rest of the bytes is a NAL unit too. -/
theorem nals_last_cut {nal_header : UInt8} (hheader : nal_header ≠ 0)
    {payload : List UInt8} {first : UInt8} {count : Nat}
    (hclash : Clash (zerosAfter 0 payload) first count) (turns : Nat) :
    ∃ cut more, annexBUnescapePayload cut
        = payload.take (payload.length - zerosAfter 0 payload) ∧
      nalsWithin (turns + 2) (nalBytes nal_header payload ++ ascending first count)
        = [nal_header :: cut, ascending 2 more] := by
  have hle := zerosAfter_le (Nat.zero_le 2) payload
  have hsearch := firstCode_last hheader payload first count
  rw [if_pos hclash] at hsearch
  obtain ⟨cut, shorter, hescaped, hpayload, hunescaped⟩ := escape_trailing payload
  have hshorter : payload.take (payload.length - zerosAfter 0 payload) = shorter := by
    have hlength := congrArg List.length hpayload
    rw [List.length_append, List.length_replicate] at hlength
    have hcount : payload.length - zerosAfter 0 payload = shorter.length := by omega
    rw [hcount]
    conv_lhs => rw [hpayload]
    exact List.take_left
  -- the unit ends where its trailing zeros begin
  generalize zerosAfter 0 payload = zeros at *
  have hnext : nextNal (nalBytes nal_header payload ++ ascending first count)
      = some (nal_header :: cut, List.replicate zeros 0 ++ ascending first count) := by
    have hbytes : nalBytes nal_header payload ++ ascending first count
        = [0, 0, 0, 1] ++ ((nal_header :: cut) ++ (List.replicate zeros 0
          ++ ascending first count)) := by
      rw [nalBytes_append, hescaped]
      simp only [List.cons_append, List.append_assoc]
    rw [hescaped, List.cons_append, List.append_assoc, ← List.cons_append] at hsearch
    rw [hbytes]
    refine nextNal_eq (.inl rfl) ?_
    rw [hsearch, Option.getD_some, List.length_append, List.length_replicate, List.length_cons]
    omega
  -- what remains begins with the start code that the zeros have become part of
  obtain ⟨code, more, hcode, hrest⟩ : ∃ code more, (code = [0, 0, 0, 1] ∨ code = [0, 0, 1]) ∧
      List.replicate zeros 0 ++ ascending first count = code ++ ascending 2 more := by
    -- the bytes 0 and 1 complete it, or the byte 1 after one or two zeros
    rcases hclash with ⟨rfl, rfl, hcount⟩ | ⟨hone, rfl, hcount⟩
    · obtain ⟨count, rfl⟩ := Nat.exists_eq_add_of_le hcount
      rw [Nat.add_comm]
      exact ⟨[0, 0, 1], count, .inr rfl, rfl⟩
    · obtain ⟨count, rfl⟩ := Nat.exists_eq_add_of_le hcount
      rw [Nat.add_comm]
      rcases Nat.lt_or_ge zeros 2 with hlt | hge
      · obtain rfl : zeros = 1 := by omega
        exact ⟨[0, 0, 1], count, .inr rfl, rfl⟩
      · obtain rfl : zeros = 2 := by omega
        exact ⟨[0, 0, 0, 1], count, .inl rfl, rfl⟩
  have hlast : nextNal (List.replicate zeros 0 ++ ascending first count)
      = some (ascending 2 more, []) := by
    rw [hrest]
    exact nextNal_whole hcode (firstCode_ascending_none (.inl rfl) 0 more)
  refine ⟨cut, more, by rw [hunescaped, hshorter], ?_⟩
  rw [nalsWithin_succ hnext, nalsWithin_succ hlast, nalsWithin_nil]

end TeamView.Client
