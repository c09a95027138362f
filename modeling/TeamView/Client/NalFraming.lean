import TeamView.Client.AnnexB

set_option autoImplicit false

/-! # NAL units, framed and found

The iterator of the decoder walks over the bytes with an offset and takes slices of them
(`crates/desktop-client/src/decode/h264.rs`). Here it is modelled with its offset, so that a slice
out of bounds is visible. It refines the search on the remaining bytes, `nextNal`: each turn takes
a start code, so it ends on every byte string, and on what the encoder frames it finds exactly the
units framed.
-/

namespace TeamView.Client

/-! ## The iterator with its offset -/

/-- The slice from `start` to `stop`; `none` where the source panics. -/
def sliceBetween (bytes : List UInt8) (start stop : Nat) : Option (List UInt8) :=
  if start ≤ stop ∧ stop ≤ bytes.length then some ((bytes.take stop).drop start) else none

/-- `find_start_code`. -/
def findStartCodeAt (bytes : List UInt8) (index : Nat) : Option Nat :=
  if index + 3 ≤ bytes.length then
    if [0, 0, 1].isPrefixOf (bytes.drop index) ||
        (decide (index + 4 ≤ bytes.length) && [0, 0, 0, 1].isPrefixOf (bytes.drop index)) then
      some index
    else findStartCodeAt bytes (index + 1)
  else none
termination_by bytes.length - index

structure AnnexBNals where
  bytes : List UInt8
  offset : Nat

/-- `AnnexBNals::next`: the item returned and the iterator after it, `none` where a slice is out
of bounds. -/
def AnnexBNals.next (nals : AnnexBNals) : Option (Option (List UInt8) × AnnexBNals) :=
  match findStartCodeAt nals.bytes nals.offset with
  | none => some (none, nals)
  | some start => do
      match startCodeLen (← sliceBetween nals.bytes start nals.bytes.length) with
      | none => some (none, nals)
      | some len =>
          let nal_start := start + len
          let next_start := (findStartCodeAt nals.bytes nal_start).getD nals.bytes.length
          let nal ← sliceBetween nals.bytes nal_start next_start
          some (some nal, { nals with offset := next_start })

/-- The iterator returns these items and then ends. -/
inductive AnnexBNals.Yields : AnnexBNals → List (List UInt8) → Prop
  | ends {nals nals'} : nals.next = some (none, nals') → Yields nals []
  | item {nals nals' nal rest} : nals.next = some (some nal, nals') → Yields nals' rest →
      Yields nals (nal :: rest)

/-! ## What one turn does -/

theorem findStartCode_short {bytes : List UInt8} (hshort : bytes.length < 3) :
    findStartCode bytes = none := by
  match bytes, hshort with
  | [], _ => rfl
  | [a], _ => simp [findStartCode, List.isPrefixOf]
  | [a, b], _ => simp [findStartCode, List.isPrefixOf]

/-- The search in the bytes is the search in those from the offset on. -/
theorem findStartCodeAt_eq (bytes : List UInt8) (index : Nat) :
    findStartCodeAt bytes index = (findStartCode (bytes.drop index)).map (· + index) := by
  have hfour : ∀ index, (decide (index + 4 ≤ bytes.length) &&
      [0, 0, 0, 1].isPrefixOf (bytes.drop index)) = [0, 0, 0, 1].isPrefixOf (bytes.drop index) := by
    intro index
    rw [Bool.and_eq_right_iff_imp, List.isPrefixOf_iff_prefix, decide_eq_true_eq]
    intro hstarts
    have hlength := hstarts.length_le
    rw [List.length_drop, List.length_cons, List.length_cons, List.length_cons,
      List.length_singleton] at hlength
    omega
  fun_induction findStartCodeAt bytes index with
  | case1 index hfits hcode =>
      rw [hfour] at hcode
      rw [List.drop_eq_getElem_cons (by omega)] at hcode ⊢
      rw [findStartCode, if_pos hcode, Option.map_some, Nat.zero_add]
  | case2 index hfits hcode ih =>
      rw [hfour] at hcode
      rw [List.drop_eq_getElem_cons (by omega)] at hcode
      rw [ih, @List.drop_eq_getElem_cons _ index bytes (by omega), findStartCode, if_neg hcode,
        Option.map_map]
      congr 1
      funext position
      show position + (index + 1) = position + 1 + index
      omega
  | case3 index hshort =>
      rw [findStartCode_short (by rw [List.length_drop]; omega)]
      rfl

theorem findStartCode_lt {bytes : List UInt8} {start : Nat}
    (h : findStartCode bytes = some start) : start < bytes.length := by
  induction bytes generalizing start with
  | nil => exact nomatch h
  | cons byte bytes ih =>
      rw [findStartCode] at h
      split at h
      · cases h
        exact Nat.zero_lt_succ _
      · obtain ⟨start', hstart, rfl⟩ := Option.map_eq_some_iff.mp h
        exact Nat.succ_lt_succ (ih hstart)

/-- A start code is at least one byte, and lies within the bytes. -/
theorem startCodeLen_bounds {bytes : List UInt8} {len : Nat} (h : startCodeLen bytes = some len) :
    0 < len ∧ len ≤ bytes.length := by
  unfold startCodeLen at h
  split at h
  · next hlong =>
      cases h
      exact ⟨by decide, (List.isPrefixOf_iff_prefix.mp hlong).length_le⟩
  · split at h
    · next hshort =>
        cases h
        exact ⟨by decide, (List.isPrefixOf_iff_prefix.mp hshort).length_le⟩
    · exact nomatch h

/-- A turn of the iterator takes what `nextNal` takes from the bytes behind the offset: no slice is
out of bounds, and the offset grows. -/
theorem next_eq {bytes : List UInt8} {offset : Nat} (hoffset : offset ≤ bytes.length) :
    (nextNal (bytes.drop offset) = none ∧
      (AnnexBNals.mk bytes offset).next = some (none, ⟨bytes, offset⟩)) ∨
    ∃ nal next_start, offset < next_start ∧ next_start ≤ bytes.length ∧ nal <:+: bytes ∧
      nextNal (bytes.drop offset) = some (nal, bytes.drop next_start) ∧
      (AnnexBNals.mk bytes offset).next = some (some nal, ⟨bytes, next_start⟩) := by
  rw [AnnexBNals.next, findStartCodeAt_eq, nextNal]
  cases hstart : findStartCode (bytes.drop offset) with
  | none => exact .inl ⟨rfl, rfl⟩
  | some start =>
      have hlt := findStartCode_lt hstart
      rw [List.length_drop] at hlt
      -- the slice from the start code on exists, so the code can be measured
      have hsuffix : sliceBetween bytes (start + offset) bytes.length
          = some ((bytes.drop offset).drop start) := by
        rw [sliceBetween, if_pos ⟨by omega, Nat.le_refl _⟩, List.take_length, List.drop_drop,
          Nat.add_comm]
      simp only [Option.map_some, hsuffix, Option.bind_eq_bind, Option.bind_some]
      cases hlen : startCodeLen ((bytes.drop offset).drop start) with
      | none => exact .inl ⟨rfl, rfl⟩
      | some len =>
          obtain ⟨hpos, hle⟩ := startCodeLen_bounds hlen
          rw [List.drop_drop, List.length_drop] at hle
          -- the unit begins behind its start code
          have hbody : (bytes.drop offset).drop (start + len)
              = bytes.drop (start + offset + len) := by
            rw [List.drop_drop]
            congr 1
            omega
          simp only [hbody, findStartCodeAt_eq]
          generalize hnal_start : start + offset + len = nal_start at *
          generalize hstop : ((findStartCode (bytes.drop nal_start)).getD
            (bytes.drop nal_start).length) = stop
          -- and stops before the next start code, or at the end of the bytes
          have hnext : ((findStartCode (bytes.drop nal_start)).map (· + nal_start)).getD
              bytes.length = nal_start + stop := by
            rw [← hstop]
            cases findStartCode (bytes.drop nal_start) with
            | none =>
                rw [Option.map_none, Option.getD_none, Option.getD_none, List.length_drop]
                omega
            | some stop => exact Nat.add_comm _ _
          have hstop_le : stop ≤ (bytes.drop nal_start).length := by
            rw [← hstop]
            cases hfind : findStartCode (bytes.drop nal_start) with
            | none => exact Nat.le_refl _
            | some stop => exact Nat.le_of_lt (findStartCode_lt hfind)
          rw [List.length_drop] at hstop_le
          have hslice : sliceBetween bytes nal_start (nal_start + stop)
              = some ((bytes.drop nal_start).take stop) := by
            rw [sliceBetween, if_pos ⟨by omega, by omega⟩, List.drop_take, Nat.add_sub_cancel_left]
          refine .inr ⟨(bytes.drop nal_start).take stop, nal_start + stop, by omega, by omega, ?_,
            ?_, ?_⟩
          · exact (List.take_prefix _ _).isInfix.trans (List.drop_suffix _ _).isInfix
          · rw [List.drop_drop]
          · rw [hnext, hslice]
            rfl

/-! ## What a run of turns yields -/

theorem AnnexBNals.Yields.unique {nals : AnnexBNals} {items items' : List (List UInt8)}
    (h : nals.Yields items) (h' : nals.Yields items') : items = items' := by
  induction h generalizing items' with
  | ends hnext =>
      cases h' with
      | ends _ => rfl
      | item hnext' _ => exact nomatch hnext.symm.trans hnext'
  | item hnext _ ih =>
      cases h' with
      | ends hnext' => exact nomatch hnext.symm.trans hnext'
      | item hnext' hrest =>
          cases hnext.symm.trans hnext'
          rw [ih hrest]

/-- The iterator ends, with slices of the bytes only: each turn leaves fewer bytes behind the
offset, and so many turns are enough for the bounded search too. -/
theorem yields_nalsWithin {bytes : List UInt8} {offset : Nat} (hoffset : offset ≤ bytes.length)
    {turns : Nat} (hturns : bytes.length - offset ≤ turns) :
    (AnnexBNals.mk bytes offset).Yields (nalsWithin turns (bytes.drop offset)) ∧
      ∀ nal ∈ nalsWithin turns (bytes.drop offset), nal <:+: bytes := by
  induction turns generalizing offset with
  | zero =>
      have hnone : nextNal (bytes.drop offset) = none := by
        rw [List.drop_eq_nil_of_le (by omega)]
        rfl
      rcases next_eq hoffset with ⟨_, hnext⟩ | ⟨_, _, _, _, _, hsome, _⟩
      · exact ⟨.ends hnext, fun _ hnil => absurd hnil List.not_mem_nil⟩
      · rw [hnone] at hsome
        cases hsome
  | succ turns ih =>
      rcases next_eq hoffset with ⟨hnone, hnext⟩ | ⟨nal, next_start, hlt, hle, hslice, hsome, hnext⟩
      · rw [nalsWithin, hnone]
        exact ⟨.ends hnext, fun _ hnil => absurd hnil List.not_mem_nil⟩
      · rw [nalsWithin_succ hsome]
        obtain ⟨hyields, hslices⟩ := ih hle (by omega)
        refine ⟨.item hnext hyields, ?_⟩
        intro other hother
        rcases List.mem_cons.mp hother with rfl | hmem
        · exact hslice
        · exact hslices other hmem

/-- The bounded search is the whole run of the iterator. -/
theorem yields_annexBNals (bytes : List UInt8) :
    (AnnexBNals.mk bytes 0).Yields (annexBNals bytes) ∧ ∀ nal ∈ annexBNals bytes, nal <:+: bytes :=
  yields_nalsWithin (Nat.zero_le _) (Nat.le_refl _)

theorem yields_iff {bytes : List UInt8} {items : List (List UInt8)} :
    (AnnexBNals.mk bytes 0).Yields items ↔ items = annexBNals bytes := by
  constructor
  · intro h
    exact h.unique (yields_annexBNals bytes).1
  · rintro rfl
    exact (yields_annexBNals bytes).1

/-! ## What the encoder frames -/

/-- The bytes of some units, each appended by `append_nal`. -/
def framed (units : List (UInt8 × List UInt8)) : List UInt8 :=
  units.foldl (fun bytes unit => bytes ++ nalBytes unit.1 unit.2) []

theorem framed_eq (units : List (UInt8 × List UInt8)) :
    framed units = units.flatMap fun unit => nalBytes unit.1 unit.2 := by
  have hfold : ∀ bytes : List UInt8,
      units.foldl (fun bytes unit => bytes ++ nalBytes unit.1 unit.2) bytes
        = bytes ++ units.flatMap fun unit => nalBytes unit.1 unit.2 := by
    induction units with
    | nil => exact fun bytes => (List.append_nil bytes).symm
    | cons unit units ih =>
        intro bytes
        rw [List.foldl_cons, ih, List.flatMap_cons, List.append_assoc]
  exact hfold []

/-- The first unit is found as it was framed, whether or not another one follows. -/
theorem nextNal_flatMap {nal_header : UInt8} (hheader : nal_header ≠ 0) (payload : List UInt8)
    (units : List (UInt8 × List UInt8)) :
    nextNal (nalBytes nal_header payload ++ units.flatMap fun unit => nalBytes unit.1 unit.2)
      = some (nal_header :: annexBEscapePayload payload,
          units.flatMap fun unit => nalBytes unit.1 unit.2) := by
  cases units with
  | nil =>
      have hsearch := firstCode_last hheader payload 0 0
      rw [ascending, List.append_nil, if_neg (by simp [Clash])] at hsearch
      rw [List.flatMap_nil, nalBytes_append, List.append_nil]
      exact nextNal_whole (.inl rfl) hsearch
  | cons unit units =>
      refine nextNal_nalBytes hheader payload ⟨?_, ?_⟩
      · exact unit.1 :: annexBEscapePayload unit.2 ++ units.flatMap fun unit =>
          nalBytes unit.1 unit.2
      · rw [List.flatMap_cons, nalBytes, List.append_assoc]

theorem nalsWithin_flatMap {units : List (UInt8 × List UInt8)}
    (hheaders : ∀ unit ∈ units, unit.1 ≠ 0) {turns : Nat} (hturns : units.length ≤ turns) :
    nalsWithin turns (units.flatMap fun unit => nalBytes unit.1 unit.2)
      = units.map fun unit => unit.1 :: annexBEscapePayload unit.2 := by
  induction units generalizing turns with
  | nil => exact nalsWithin_nil turns
  | cons unit units ih =>
      obtain ⟨turns, rfl⟩ : ∃ fewer, turns = fewer + 1 :=
        Nat.exists_eq_succ_of_ne_zero (by rw [List.length_cons] at hturns; omega)
      have hfirst := nextNal_flatMap (hheaders unit List.mem_cons_self) unit.2 units
      rw [List.flatMap_cons, nalsWithin_succ hfirst, List.map_cons]
      rw [ih (fun other hmem => hheaders other (List.mem_cons_of_mem _ hmem))
        (Nat.le_of_succ_le_succ hturns)]

theorem length_le_flatMap (units : List (UInt8 × List UInt8)) :
    units.length ≤ (units.flatMap fun unit => nalBytes unit.1 unit.2).length := by
  induction units with
  | nil => exact Nat.le_refl 0
  | cons unit units ih =>
      rw [List.flatMap_cons, List.length_append, List.length_cons, nalBytes, List.length_append,
        List.length_cons]
      omega

theorem annexBNals_framed {units : List (UInt8 × List UInt8)}
    (hheaders : ∀ unit ∈ units, unit.1 ≠ 0) :
    annexBNals (framed units) = units.map fun unit => unit.1 :: annexBEscapePayload unit.2 := by
  rw [annexBNals, framed_eq]
  exact nalsWithin_flatMap hheaders (length_le_flatMap units)

/-- The iterator finds the units that were framed and no others, each payload comes back from its
escaped form, and on any bytes the iterator ends with slices of them. -/
theorem nal_framing (units : List (UInt8 × List UInt8)) (hheaders : ∀ unit ∈ units, unit.1 ≠ 0)
    (bytes : List UInt8) :
    (∀ items, (AnnexBNals.mk (framed units) 0).Yields items ↔
        items = units.map fun unit => unit.1 :: annexBEscapePayload unit.2) ∧
      (∀ payload, annexBUnescapePayload (annexBEscapePayload payload) = payload) ∧
      ∃ items, (AnnexBNals.mk bytes 0).Yields items ∧ ∀ nal ∈ items, nal <:+: bytes := by
  refine ⟨?_, unescape_escape_self, annexBNals bytes, yields_annexBNals bytes⟩
  intro items
  rw [yields_iff, annexBNals_framed hheaders]

/-- Two units, the first with zeros at the end of its payload. -/
theorem nal_framing_zeros :
    (AnnexBNals.mk (framed [(103, [0, 0, 3, 0, 0]), (1, [0, 0, 0, 1])]) 0).Yields
      [[103, 0, 0, 3, 3, 0, 0], [1, 0, 0, 3, 0, 1]] :=
  ((nal_framing [(103, [0, 0, 3, 0, 0]), (1, [0, 0, 0, 1])] (by decide) []).1 _).mpr rfl

end TeamView.Client
