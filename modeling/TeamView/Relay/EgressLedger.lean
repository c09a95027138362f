import TeamView.Relay.EgressBudget

set_option autoImplicit false

/-! # The ledger of a viewer's egress

What a map of recorded depths should say when some datagrams are on their way: one entry for each
stream that has one, with their number and the sum of their durations (`Ledger`). A reservation
adds a datagram to the ledger and a release takes one off it, as long as the counters are wide
enough for what is on its way.
-/

namespace TeamView.Relay

open TeamView.Protocol BTree MachineInt

/-- The datagrams of one stream. -/
def ofStream (s : StreamId) (datagrams : List EgressDatagram) : List EgressDatagram :=
  datagrams.filter fun datagram => datagram.stream_id = s

/-- The media time of some datagrams. -/
def mediaMs (datagrams : List EgressDatagram) : Nat :=
  (datagrams.map fun datagram => datagram.media_duration_ms).sum

/-- The entry of a stream whose datagrams are on their way. -/
def ledgerEntry : List EgressDatagram → Option EgressQueueDepth
  | [] => none
  | datagram :: datagrams =>
      some ⟨(datagram :: datagrams).length, mediaMs (datagram :: datagrams)⟩

/-- The recorded depths are those of the datagrams that are on their way. -/
def Ledger (depths : StreamDepths) (datagrams : List EgressDatagram) : Prop :=
  ∀ s, depths[s]? = ledgerEntry (ofStream s datagrams)

/-! ## The datagrams of a stream -/

@[simp] theorem mediaMs_nil : mediaMs [] = 0 := rfl

@[simp] theorem mediaMs_cons (datagram : EgressDatagram) (datagrams : List EgressDatagram) :
    mediaMs (datagram :: datagrams) = datagram.media_duration_ms + mediaMs datagrams := by
  simp [mediaMs]

theorem ofStream_cons_self (datagram : EgressDatagram) (datagrams : List EgressDatagram) :
    ofStream datagram.stream_id (datagram :: datagrams)
      = datagram :: ofStream datagram.stream_id datagrams := by
  simp [ofStream]

theorem ofStream_cons_ne {datagram : EgressDatagram} {s : StreamId} (hs : s ≠ datagram.stream_id)
    (datagrams : List EgressDatagram) :
    ofStream s (datagram :: datagrams) = ofStream s datagrams := by
  simp [ofStream, Ne.symm hs]

theorem ledgerEntry_isSome_iff (datagrams : List EgressDatagram) :
    (ledgerEntry datagrams).isSome = true ↔ datagrams.length ≠ 0 := by
  cases datagrams with
  | nil => simp [ledgerEntry]
  | cons datagram datagrams => simp [ledgerEntry]

theorem ledgerEntry_getD (datagrams : List EgressDatagram) :
    (ledgerEntry datagrams).getD .zero = ⟨datagrams.length, mediaMs datagrams⟩ := by
  cases datagrams with
  | nil => rfl
  | cons datagram datagrams => rfl

theorem ledgerEntry_perm {datagrams datagrams' : List EgressDatagram}
    (h : datagrams.Perm datagrams') : ledgerEntry datagrams = ledgerEntry datagrams' := by
  have hms : mediaMs datagrams = mediaMs datagrams' := (h.map _).sum_eq
  cases datagrams with
  | nil => rw [List.nil_perm.mp h]
  | cons datagram datagrams =>
      cases datagrams' with
      | nil => cases h.eq_nil
      | cons datagram' datagrams' => rw [ledgerEntry, ledgerEntry, h.length_eq, hms]

theorem mediaMs_le {datagrams : List EgressDatagram} {longest count : Nat}
    (hlongest : ∀ datagram ∈ datagrams, datagram.media_duration_ms ≤ longest)
    (hcount : datagrams.length ≤ count) : mediaMs datagrams ≤ count * longest := by
  have hsum : mediaMs datagrams ≤ datagrams.length * longest := by
    induction datagrams with
    | nil => exact Nat.zero_le _
    | cons datagram datagrams ih =>
        have hfirst := hlongest datagram List.mem_cons_self
        have hrest := ih (fun d hd => hlongest d (List.mem_cons_of_mem _ hd))
          (Nat.le_of_succ_le hcount)
        rw [mediaMs_cons, List.length_cons, Nat.succ_mul]
        omega
  calc mediaMs datagrams ≤ datagrams.length * longest := hsum
    _ ≤ count * longest := Nat.mul_le_mul_right _ hcount

/-! ## Entries and releases -/

namespace Ledger

variable {depths : StreamDepths} {datagrams : List EgressDatagram} {datagram : EgressDatagram}

theorem empty : Ledger ∅ [] := fun _ => Std.ExtTreeMap.getElem?_empty

theorem perm {datagrams' : List EgressDatagram} (h : Ledger depths datagrams)
    (hperm : datagrams.Perm datagrams') : Ledger depths datagrams' := by
  intro s
  rw [h s]
  exact ledgerEntry_perm (hperm.filter _)

theorem depthOf_eq (h : Ledger depths datagrams) (s : StreamId) :
    depthOf depths s = ⟨(ofStream s datagrams).length, mediaMs (ofStream s datagrams)⟩ := by
  rw [depthOf, h s, ledgerEntry_getD]

/-- A reservation, when no counter saturates. -/
theorem reserve (h : Ledger depths datagrams)
    (hms : mediaMs (ofStream datagram.stream_id datagrams) + datagram.media_duration_ms ≤ u16Max)
    (hcount : (ofStream datagram.stream_id datagrams).length + 1 ≤ u32Max) {budget : Nat}
    {depths' : StreamDepths}
    (hreserve : tryReserveStreamDepth depths datagram.stream_id datagram.media_duration_ms budget
      = some depths') :
    Ledger depths' (datagram :: datagrams) ∧
      mediaMs (ofStream datagram.stream_id (datagram :: datagrams)) ≤ budget := by
  unfold tryReserveStreamDepth at hreserve
  simp only at hreserve
  rw [h.depthOf_eq, Nat.min_eq_left (by omega), satAdd_eq hms, satAdd_eq hcount] at hreserve
  split at hreserve
  · cases hreserve
  · next hfits =>
      obtain rfl := Option.some.inj hreserve
      constructor
      · intro s
        rw [get_insert]
        split
        · next hs =>
            rw [hs, ofStream_cons_self, ledgerEntry, List.length_cons, mediaMs_cons, Nat.add_comm
              datagram.media_duration_ms]
        · next hs =>
            rw [ofStream_cons_ne hs]
            exact h s
      · rw [ofStream_cons_self, mediaMs_cons]
        omega

/-- The release of a datagram that is on its way: nothing saturates, and the last datagram of a
stream takes the entry with it. -/
theorem release (h : Ledger depths (datagram :: datagrams)) :
    Ledger (releaseStreamDepth depths datagram.stream_id datagram.media_duration_ms) datagrams := by
  intro s
  have hentry := h datagram.stream_id
  rw [ofStream_cons_self, ledgerEntry, List.length_cons, mediaMs_cons] at hentry
  unfold releaseStreamDepth
  rw [hentry]
  simp only [Nat.add_sub_cancel, Nat.add_sub_cancel_left]
  by_cases hs : s = datagram.stream_id
  · subst hs
    cases hothers : ofStream datagram.stream_id datagrams with
    | nil =>
        rw [if_pos ⟨rfl, rfl⟩, get_erase, if_pos rfl]
        rfl
    | cons other others =>
        rw [if_neg fun hzero => absurd hzero.1 (Nat.succ_ne_zero _), get_insert, if_pos rfl]
        rfl
  · have hother := h s
    rw [ofStream_cons_ne hs] at hother
    split
    · rw [get_erase, if_neg hs]
      exact hother
    · rw [get_insert, if_neg hs]
      exact hother

/-- What a release subtracts was added before. -/
theorem release_le (h : Ledger depths datagrams) (hmem : datagram ∈ datagrams) :
    1 ≤ (depthOf depths datagram.stream_id).queued_packets ∧
      datagram.media_duration_ms ≤ (depthOf depths datagram.stream_id).queued_media_ms := by
  have hstream : datagram ∈ ofStream datagram.stream_id datagrams :=
    List.mem_filter.mpr ⟨hmem, decide_eq_true rfl⟩
  rw [h.depthOf_eq]
  constructor
  · exact List.length_pos_of_mem hstream
  · exact List.single_le_sum (fun _ _ => Nat.zero_le _) _ (List.mem_map_of_mem hstream)

end Ledger

end TeamView.Relay
