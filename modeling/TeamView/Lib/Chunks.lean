import Mathlib.Tactic

set_option autoImplicit false

/-! # Streams read in chunks

A stream arrives in chunks whose boundaries the reader does not choose (`Splits`). The first
occurrence of a pattern is found as soon as it has arrived, and more input does not move it
(`position_append`). A reader that takes whole chunks until it has so many elements gets all of a
short stream (`collected_of_short`), and for a longer one some splitting hands it an element too
many (`exists_overrun`).
-/

namespace Chunks

variable {α : Type}

/-- The chunks are not empty, at most so long, and make up the stream. -/
structure Splits (limit : Nat) (stream : List α) (chunks : List (List α)) : Prop where
  flatten_eq : chunks.flatten = stream
  nonempty : ∀ chunk ∈ chunks, chunk ≠ []
  bounded : ∀ chunk ∈ chunks, chunk.length ≤ limit

/-! ## The first occurrence of a pattern -/

section Position

variable [BEq α] [LawfulBEq α]

def position (pattern : List α) : List α → Option Nat
  | [] => none
  | a :: rest =>
      if pattern.isPrefixOf (a :: rest) then some 0 else (position pattern rest).map (· + 1)

/-- The occurrence lies within the list. -/
theorem position_le {pattern xs : List α} {i : Nat} (h : position pattern xs = some i) :
    i + pattern.length ≤ xs.length := by
  induction xs generalizing i with
  | nil => exact nomatch h
  | cons a rest ih =>
      rw [position] at h
      split at h
      · next hstarts =>
          cases h
          rw [Nat.zero_add]
          exact (List.isPrefixOf_iff_prefix.mp hstarts).length_le
      · obtain ⟨j, hj, rfl⟩ := Option.map_eq_some_iff.mp h
        have hle := ih hj
        rw [List.length_cons]
        omega

/-- What follows does not move the first occurrence. -/
theorem position_append {pattern xs : List α} {i : Nat} (h : position pattern xs = some i)
    (more : List α) : position pattern (xs ++ more) = some i := by
  induction xs generalizing i with
  | nil => exact nomatch h
  | cons a rest ih =>
      rw [position] at h
      rw [List.cons_append, position]
      split at h
      · next hstarts =>
          have hlonger : pattern.isPrefixOf (a :: (rest ++ more)) = true := by
            rw [List.isPrefixOf_iff_prefix] at hstarts ⊢
            exact hstarts.trans (List.prefix_append (a :: rest) more)
          rw [if_pos hlonger]
          exact h
      · next hnot =>
          obtain ⟨j, hj, rfl⟩ := Option.map_eq_some_iff.mp h
          have hle := position_le hj
          have hnot' : ¬ pattern.isPrefixOf (a :: (rest ++ more)) = true := by
            rw [List.isPrefixOf_iff_prefix] at hnot ⊢
            intro hstarts
            refine hnot (List.prefix_of_prefix_length_le hstarts
              (List.prefix_append (a :: rest) more) ?_)
            rw [List.length_cons]
            omega
          rw [if_neg hnot', ih hj]
          rfl

/-- An occurrence within the front of a list is found in the front alone. -/
theorem position_of_append {pattern xs more : List α} {i : Nat} (hpattern : pattern ≠ [])
    (h : position pattern (xs ++ more) = some i) (hle : i + pattern.length ≤ xs.length) :
    position pattern xs = some i := by
  induction xs generalizing i with
  | nil =>
      have hpos := List.length_pos_of_ne_nil hpattern
      rw [List.length_nil] at hle
      omega
  | cons a rest ih =>
      rw [List.cons_append, position] at h
      rw [position]
      split at h
      · next hstarts =>
          cases h
          rw [List.isPrefixOf_iff_prefix] at hstarts
          have hshorter : pattern <+: a :: rest := by
            refine List.prefix_of_prefix_length_le hstarts (List.prefix_append (a :: rest) more) ?_
            omega
          rw [if_pos (List.isPrefixOf_iff_prefix.mpr hshorter)]
      · next hnot =>
          obtain ⟨j, hj, rfl⟩ := Option.map_eq_some_iff.mp h
          rw [List.length_cons] at hle
          have hnot' : ¬ pattern.isPrefixOf (a :: rest) = true := by
            rw [List.isPrefixOf_iff_prefix] at hnot ⊢
            exact fun hstarts => hnot (hstarts.trans (List.prefix_append (a :: rest) more))
          rw [if_neg hnot', ih hj (by omega)]
          rfl

/-- As long as the pattern is not there, the list is too short for its first occurrence. -/
theorem length_lt_of_none {pattern xs more : List α} {i : Nat} (hpattern : pattern ≠ [])
    (hnone : position pattern xs = none) (h : position pattern (xs ++ more) = some i) :
    xs.length < i + pattern.length := by
  by_contra hlong
  have hfound := position_of_append hpattern h (by omega)
  exact nomatch hnone.symm.trans hfound

/-- The occurrence in the front is the one in the whole. -/
theorem position_eq_of_append {pattern xs more : List α} {i j : Nat}
    (hi : position pattern xs = some i) (hj : position pattern (xs ++ more) = some j) : i = j :=
  Option.some.inj ((position_append hi more).symm.trans hj)

end Position

/-! ## Taking whole chunks -/

/-- The elements of the chunks taken, one chunk after another, until there are so many. -/
def collected (len : Nat) : List α → List (List α) → List α
  | taken, [] => taken
  | taken, chunk :: chunks =>
      if len ≤ taken.length then taken else collected len (taken ++ chunk) chunks

/-- Enough is enough. -/
theorem collected_of_le {len : Nat} {taken : List α} (h : len ≤ taken.length)
    (chunks : List (List α)) : collected len taken chunks = taken := by
  cases chunks with
  | nil => rfl
  | cons chunk chunks => rw [collected, if_pos h]

/-- So many as are there already need not be asked for. -/
theorem collected_max {least len : Nat} {taken : List α} (h : least ≤ taken.length)
    (chunks : List (List α)) :
    collected (max least len) taken chunks = collected len taken chunks := by
  induction chunks generalizing taken with
  | nil => rfl
  | cons chunk chunks ih =>
      have hlonger : least ≤ (taken ++ chunk).length := by
        rw [List.length_append]
        omega
      rw [collected, collected, ih hlonger]
      by_cases hle : len ≤ taken.length
      · rw [if_pos hle, if_pos (Nat.max_le.mpr ⟨h, hle⟩)]
      · rw [if_neg hle, if_neg fun hmax => hle (Nat.max_le.mp hmax).2]

/-- A stream that is not longer is taken as a whole. -/
theorem collected_of_short {len : Nat} {taken : List α} {chunks : List (List α)}
    (hnonempty : ∀ chunk ∈ chunks, chunk ≠ [])
    (hshort : taken.length + chunks.flatten.length ≤ len) :
    collected len taken chunks = taken ++ chunks.flatten := by
  induction chunks generalizing taken with
  | nil => exact (List.append_nil taken).symm
  | cons chunk chunks ih =>
      have hpos := List.length_pos_of_ne_nil (hnonempty chunk List.mem_cons_self)
      rw [List.flatten_cons, List.length_append] at hshort
      have hmore : ¬ len ≤ taken.length := by omega
      rw [collected, if_neg hmore, List.flatten_cons, ← List.append_assoc]
      refine ih (fun other hmem => hnonempty other (List.mem_cons_of_mem _ hmem)) ?_
      rw [List.length_append]
      omega

/-- Chunks of one element are taken one after another. -/
theorem collected_singletons {len : Nat} {taken xs : List α} {chunks : List (List α)}
    (hroom : taken.length + xs.length ≤ len) :
    collected len taken (xs.map ([·]) ++ chunks) = collected len (taken ++ xs) chunks := by
  induction xs generalizing taken with
  | nil => rw [List.map_nil, List.nil_append, List.append_nil]
  | cons a xs ih =>
      rw [List.length_cons] at hroom
      have hmore : ¬ len ≤ taken.length := by omega
      rw [List.map_cons, List.cons_append, collected, if_neg hmore, ih ?_, List.append_assoc]
      · rfl
      · rw [List.length_append, List.length_singleton]
        omega

theorem flatten_singletons (xs : List α) : (xs.map ([·])).flatten = xs := by
  rw [← List.flatMap_def]
  exact List.flatMap_singleton' xs

/-- A longer stream can be split so that one element too many is taken: the chunk that brings the
last one brings the next one too. -/
theorem exists_overrun {limit len : Nat} (hlimit : 2 ≤ limit) (hpos : 0 < len) {stream : List α}
    (hlong : len < stream.length) :
    ∃ chunks, Splits limit stream chunks ∧ collected len [] chunks = stream.take (len + 1) := by
  obtain ⟨front, rfl⟩ : ∃ front, len = front + 1 := ⟨len - 1, by omega⟩
  -- single elements but for the pair that straddles the limit
  let pair := (stream.drop front).take 2
  have hpair : pair.length = 2 := by
    rw [List.length_take, List.length_drop]
    omega
  have hsplit : stream.take front ++ pair = stream.take (front + 2) :=
    (List.take_add).symm
  have hchunk : ∀ chunk ∈ (stream.take front).map ([·]) ++
      (pair :: (stream.drop (front + 2)).map ([·])), chunk.length = 1 ∨ chunk.length = 2 := by
    intro chunk hmem
    rcases List.mem_append.mp hmem with hfront | hrest
    · obtain ⟨a, -, rfl⟩ := List.mem_map.mp hfront
      exact .inl rfl
    · rcases List.mem_cons.mp hrest with rfl | hlater
      · exact .inr hpair
      · obtain ⟨a, -, rfl⟩ := List.mem_map.mp hlater
        exact .inl rfl
  refine ⟨(stream.take front).map ([·]) ++ (pair :: (stream.drop (front + 2)).map ([·])),
    ⟨?_, ?_, ?_⟩, ?_⟩
  · rw [List.flatten_append, List.flatten_cons, flatten_singletons, flatten_singletons,
      ← List.append_assoc, hsplit, List.take_append_drop]
  · intro chunk hmem hnil
    have hlength := hchunk chunk hmem
    rw [hnil, List.length_nil] at hlength
    omega
  · intro chunk hmem
    have hlength := hchunk chunk hmem
    omega
  · -- one element is missing before the pair, and the pair brings two
    have hfront : (stream.take front).length = front := by
      rw [List.length_take]
      omega
    have hmore : ¬ front + 1 ≤ (stream.take front).length := by omega
    have hroom : ([] : List α).length + (stream.take front).length ≤ front + 1 := by
      rw [List.length_nil]
      omega
    rw [collected_singletons hroom, List.nil_append, collected, if_neg hmore, hsplit]
    refine collected_of_le ?_ _
    rw [List.length_take]
    omega

end Chunks
