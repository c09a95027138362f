import Mathlib.Tactic
import Std.Data.ExtTreeMap
import Std.Data.ExtTreeSet

set_option autoImplicit false

/-! # Ordered maps and sets

Key-ordered finite maps and sets are the extensional tree maps and sets of the standard
library. This file adds what a verification of code over such collections needs on top of
it: lookup after an update stated with plain equality of keys, iteration over the values in
key order, and the search for the first value that satisfies a partial predicate. The last
one does not depend on the order when at most one key can answer (`findSome_eq_some_iff`).
-/

namespace BTree

open Std

/-- A map iterated in the order of its keys. -/
abbrev BTreeMap (κ ν : Type) [Ord κ] := ExtTreeMap κ ν compare

/-- A set iterated in the order of its elements. -/
abbrev BTreeSet (κ : Type) [Ord κ] := ExtTreeSet κ compare

variable {κ ν μ : Type} [Ord κ] [TransOrd κ]

/-! ## Lookup -/

theorem mem_iff_get (m : BTreeMap κ ν) (k : κ) : k ∈ m ↔ ∃ v, m[k]? = some v := by
  rw [← Option.isSome_iff_exists, ExtTreeMap.mem_iff_isSome_getElem?]

theorem not_mem_iff_get (m : BTreeMap κ ν) (k : κ) : k ∉ m ↔ m[k]? = none := by
  rw [mem_iff_get, Option.eq_none_iff_forall_ne_some]
  simp

theorem mem_of_get {m : BTreeMap κ ν} {k : κ} {v : ν} (h : m[k]? = some v) : k ∈ m :=
  (mem_iff_get m k).mpr ⟨v, h⟩

theorem size_pos_of_mem {m : BTreeMap κ ν} {k : κ} (h : k ∈ m) : 0 < m.size := by
  rw [Nat.pos_iff_ne_zero, ne_eq, ← beq_iff_eq, ← ExtTreeMap.isEmpty_eq_size_beq_zero,
    ExtTreeMap.isEmpty_iff]
  rintro rfl
  exact ExtTreeMap.not_mem_empty h

/-- Overwriting a key that is present does not change the size. -/
theorem size_insert_of_mem (m : BTreeMap κ ν) (k : κ) (v : ν) (h : k ∈ m) :
    (m.insert k v).size = m.size := by
  rw [ExtTreeMap.size_insert, if_pos (ExtTreeMap.contains_iff_mem.mpr h)]

theorem map_isEmpty_iff (m : BTreeMap κ ν) : m.isEmpty = true ↔ ∀ a : κ, m[a]? = none := by
  rw [ExtTreeMap.isEmpty_iff, ExtTreeMap.eq_empty_iff_forall_not_mem]
  simp only [not_mem_iff_get]

theorem set_isEmpty_iff (s : BTreeSet κ) : s.isEmpty = true ↔ ∀ a, a ∉ s := by
  rw [ExtTreeSet.isEmpty_iff, ExtTreeSet.eq_empty_iff_forall_not_mem]

theorem set_isEmpty_eq_false_iff (s : BTreeSet κ) : s.isEmpty = false ↔ ∃ a, a ∈ s := by
  rw [Bool.eq_false_iff, ne_eq, set_isEmpty_iff, not_forall]
  simp only [not_not]

theorem set_nodup_toList (s : BTreeSet κ) : s.toList.Nodup :=
  ExtTreeSet.distinct_toList.imp Std.ReflCmp.ne_of_cmp_ne_eq

theorem set_size_insert_of_mem (s : BTreeSet κ) (k : κ) (h : k ∈ s) :
    (s.insert k).size = s.size := by
  rw [ExtTreeSet.size_insert, if_pos (ExtTreeSet.contains_iff_mem.mpr h)]

/-- The values, in the order of their keys. -/
def values (m : BTreeMap κ ν) : List ν := m.toList.map Prod.snd

@[simp] theorem length_values (m : BTreeMap κ ν) : (values m).length = m.size := by
  simp [values]

/-- The first answer of `f` along the entries of a map. -/
def findSome (f : κ → ν → Option μ) (m : BTreeMap κ ν) : Option μ :=
  m.toList.findSome? (fun e => f e.1 e.2)

/-- At most one key of `m` holds a value on which `f` answers. -/
def AtMostOne (f : κ → ν → Option μ) (m : BTreeMap κ ν) : Prop :=
  ∀ (k k' : κ) (v v' : ν), m[k]? = some v → m[k']? = some v' →
    (f k v).isSome → (f k' v').isSome → k = k'

/-- Keep the entries on which `p` holds. -/
def retain (p : κ → ν → Bool) (m : BTreeMap κ ν) : BTreeMap κ ν := m.filter p

/-- Apply `f` to every value. -/
def mapValues (f : ν → μ) (m : BTreeMap κ ν) : BTreeMap κ μ := m.map (fun _ => f)

theorem map_values (f : ν → μ) (m : BTreeMap κ ν) :
    (values m).map f = values (mapValues f m) := by
  rw [values, values, mapValues, ExtTreeMap.toList_map, List.map_map, List.map_map]
  rfl

@[simp] theorem size_mapValues (f : ν → μ) (m : BTreeMap κ ν) : (mapValues f m).size = m.size :=
  ExtTreeMap.size_map

/-! ## Maps of maps -/

variable {κ' : Type} [Ord κ'] [TransOrd κ']

def getNested (m : BTreeMap κ (BTreeMap κ' ν)) (k : κ) (k' : κ') : Option ν :=
  match m[k]? with
  | none => none
  | some inner => inner[k']?

theorem getNested_eq_bind (m : BTreeMap κ (BTreeMap κ' ν)) (k : κ) (k' : κ') :
    getNested m k k' = m[k]?.bind fun inner => inner[k']? := by
  unfold getNested
  cases m[k]? <;> rfl

/-- `entry(k).or_default().insert(k', v)`. -/
def insertNested (m : BTreeMap κ (BTreeMap κ' ν)) (k : κ) (k' : κ') (v : ν) :
    BTreeMap κ (BTreeMap κ' ν) :=
  m.insert k ((m[k]?.getD ∅).insert k' v)

/-- Remove an inner entry, and the inner map with it when that was its last. -/
def eraseNested (m : BTreeMap κ (BTreeMap κ' ν)) (k : κ) (k' : κ') : BTreeMap κ (BTreeMap κ' ν) :=
  match m[k]? with
  | none => m
  | some inner =>
      if (inner.erase k').isEmpty then m.erase k else m.insert k (inner.erase k')

/-- Remove `k'` from every inner map, and the inner maps that this empties. -/
def eraseEverywhere (m : BTreeMap κ (BTreeMap κ' ν)) (k' : κ') : BTreeMap κ (BTreeMap κ' ν) :=
  retain (fun _ inner => !inner.isEmpty) (mapValues (fun inner => inner.erase k') m)

variable [LawfulEqOrd κ]

theorem set_mem_insert (s : BTreeSet κ) (k a : κ) : a ∈ s.insert k ↔ a = k ∨ a ∈ s := by
  rw [ExtTreeSet.mem_insert, Std.compare_eq_iff_eq, eq_comm]

theorem set_mem_erase (s : BTreeSet κ) (k a : κ) : a ∈ s.erase k ↔ a ≠ k ∧ a ∈ s := by
  rw [ExtTreeSet.mem_erase, ne_eq, Std.compare_eq_iff_eq, eq_comm]

/-- Leaving one element out of the list of a set. -/
theorem set_length_filter_ne [DecidableEq κ] (s : BTreeSet κ) (k : κ) :
    (s.toList.filter (· ≠ k)).length = (s.erase k).size := by
  rw [← ExtTreeSet.length_toList]
  refine List.Perm.length_eq ((List.perm_ext_iff_of_nodup ?_ ?_).mpr ?_)
  · exact (set_nodup_toList s).filter _
  · exact set_nodup_toList _
  · intro a
    rw [List.mem_filter, ExtTreeSet.mem_toList, ExtTreeSet.mem_toList, set_mem_erase,
      decide_eq_true_eq, and_comm]

theorem get_retain_eq_some (p : κ → ν → Bool) (m : BTreeMap κ ν) (k : κ) (v : ν) :
    (retain p m)[k]? = some v ↔ m[k]? = some v ∧ p k v = true := by
  simp [retain, Option.filter_eq_some_iff]

theorem get_mapValues (f : ν → μ) (m : BTreeMap κ ν) (k : κ) :
    (mapValues f m)[k]? = m[k]?.map f := by
  simp [mapValues]

theorem mapValues_congr {f : ν → μ} {m m' : BTreeMap κ ν}
    (h : ∀ k : κ, m[k]?.map f = m'[k]?.map f) : mapValues f m = mapValues f m' := by
  refine ExtTreeMap.ext_getElem? fun k => ?_
  rw [get_mapValues, get_mapValues, h]

theorem mem_values (m : BTreeMap κ ν) (v : ν) : v ∈ values m ↔ ∃ k : κ, m[k]? = some v := by
  simp [values, ExtTreeMap.mem_toList_iff_getElem?_eq_some]

/-! ## Searching the entries -/

theorem findSome_none_iff (f : κ → ν → Option μ) (m : BTreeMap κ ν) :
    findSome f m = none ↔ ∀ (k : κ) (v : ν), m[k]? = some v → f k v = none := by
  rw [findSome, List.findSome?_eq_none_iff]
  constructor
  · intro h k v hv
    exact h (k, v) (ExtTreeMap.mem_toList_iff_getElem?_eq_some.mpr hv)
  · rintro h ⟨k, v⟩ hv
    exact h k v (ExtTreeMap.mem_toList_iff_getElem?_eq_some.mp hv)

theorem exists_of_findSome (f : κ → ν → Option μ) (m : BTreeMap κ ν) {b : μ}
    (h : findSome f m = some b) : ∃ (k : κ) (v : ν), m[k]? = some v ∧ f k v = some b := by
  obtain ⟨⟨k, v⟩, hv, hb⟩ := List.exists_of_findSome?_eq_some h
  exact ⟨k, v, ExtTreeMap.mem_toList_iff_getElem?_eq_some.mp hv, hb⟩

/-- When at most one key can answer, the search finds exactly that answer. -/
theorem findSome_eq_some_iff (f : κ → ν → Option μ) (m : BTreeMap κ ν) (hone : AtMostOne f m)
    (b : μ) : findSome f m = some b ↔ ∃ (k : κ) (v : ν), m[k]? = some v ∧ f k v = some b := by
  constructor
  · exact exists_of_findSome f m
  · rintro ⟨k, v, hk, hb⟩
    cases hfind : findSome f m with
    | none =>
        have := (findSome_none_iff f m).mp hfind k v hk
        rw [hb] at this
        cases this
    | some c =>
        obtain ⟨k', v', hk', hc⟩ := exists_of_findSome f m hfind
        have hkk : k = k' := hone k k' v v' hk hk' (by simp [hb]) (by simp [hc])
        subst hkk
        have hvv : v = v' := Option.some.inj (hk.symm.trans hk')
        subst hvv
        exact hc.symm.trans hb

/-- When `p` holds at one entry only, filtering the entries leaves that entry alone. -/
theorem filter_toList_of_unique (p : κ × ν → Bool) (m : BTreeMap κ ν) {k : κ} {v : ν}
    (hk : m[k]? = some v) (hp : p (k, v) = true)
    (huniq : ∀ (k' : κ) (v' : ν), m[k']? = some v' → p (k', v') = true → k' = k) :
    m.toList.filter p = [(k, v)] := by
  have hmem : ∀ e ∈ m.toList.filter p, e = (k, v) := by
    rintro ⟨k', v'⟩ he
    rw [List.mem_filter, ExtTreeMap.mem_toList_iff_getElem?_eq_some] at he
    have hkk := huniq k' v' he.1 he.2
    subst hkk
    rw [Option.some.inj (hk.symm.trans he.1)]
  have hin : (k, v) ∈ m.toList.filter p := by
    rw [List.mem_filter, ExtTreeMap.mem_toList_iff_getElem?_eq_some]
    exact ⟨hk, hp⟩
  have hnodup : (m.toList.filter p).Nodup := by
    refine List.Nodup.filter _ (List.Nodup.of_map Prod.fst ?_)
    rw [ExtTreeMap.map_fst_toList_eq_keys]
    exact ExtTreeMap.nodup_keys
  have hlen : (m.toList.filter p).length = 1 := by
    have hle : (m.toList.filter p).length ≤ [(k, v)].length :=
      (hnodup.subperm (fun e he => List.mem_singleton.mpr (hmem e he))).length_le
    have hpos := List.length_pos_of_mem hin
    simp only [List.length_singleton] at hle
    omega
  obtain ⟨e, he⟩ := List.length_eq_one_iff.mp hlen
  rw [he, hmem e (by rw [he]; exact List.mem_singleton_self e)]

theorem filter_toList_eq_nil (p : κ × ν → Bool) (m : BTreeMap κ ν)
    (hnone : ∀ (k : κ) (v : ν), m[k]? = some v → p (k, v) = false) :
    m.toList.filter p = [] := by
  rw [List.filter_eq_nil_iff]
  rintro ⟨k, v⟩ he
  rw [ExtTreeMap.mem_toList_iff_getElem?_eq_some] at he
  simp [hnone k v he]

/-! ## Lookup after an update -/

variable [DecidableEq κ]

theorem get_insert (m : BTreeMap κ ν) (k a : κ) (v : ν) :
    (m.insert k v)[a]? = if a = k then some v else m[a]? := by
  rw [ExtTreeMap.getElem?_insert]
  by_cases h : a = k
  · subst h; simp
  · simp [h, Ne.symm h]

theorem get_erase (m : BTreeMap κ ν) (k a : κ) :
    (m.erase k)[a]? = if a = k then none else m[a]? := by
  rw [ExtTreeMap.getElem?_erase]
  by_cases h : a = k
  · subst h; simp
  · simp [h, Ne.symm h]

/-- Of two entries for one key the later one counts. -/
theorem insert_insert (m : BTreeMap κ ν) (k : κ) (v v' : ν) :
    (m.insert k v).insert k v' = m.insert k v' := by
  refine ExtTreeMap.ext_getElem? fun {a} => ?_
  rw [get_insert, get_insert, get_insert]
  split <;> rfl

/-- An entry that is erased leaves nothing behind. -/
theorem erase_insert (m : BTreeMap κ ν) (k : κ) (v : ν) : (m.insert k v).erase k = m.erase k := by
  refine ExtTreeMap.ext_getElem? fun {a} => ?_
  rw [get_erase, get_erase, get_insert]
  split <;> rfl

/-- An entry that is there already. -/
theorem insert_of_get {m : BTreeMap κ ν} {k : κ} {v : ν} (h : m[k]? = some v) :
    m.insert k v = m := by
  refine ExtTreeMap.ext_getElem? fun {a} => ?_
  rw [get_insert]
  split
  · next ha => rw [ha, h]
  · rfl

theorem mem_insert (m : BTreeMap κ ν) (k a : κ) (v : ν) : a ∈ m.insert k v ↔ a = k ∨ a ∈ m := by
  rw [mem_iff_get, get_insert, mem_iff_get]
  by_cases h : a = k <;> simp [h]

theorem mem_erase (m : BTreeMap κ ν) (k a : κ) : a ∈ m.erase k ↔ a ≠ k ∧ a ∈ m := by
  rw [mem_iff_get, get_erase, mem_iff_get]
  by_cases h : a = k <;> simp [h]

/-- Erasing the keys of a list. -/
theorem get_foldl_erase (keys : List κ) (m : BTreeMap κ ν) (a : κ) :
    (keys.foldl (fun m k => m.erase k) m)[a]? = if a ∈ keys then none else m[a]? := by
  induction keys generalizing m with
  | nil => simp
  | cons k keys ih =>
      rw [List.foldl_cons, ih, get_erase]
      by_cases hk : a = k <;> by_cases hkeys : a ∈ keys <;> simp [hk, hkeys]

theorem mem_foldl_erase (keys : List κ) (m : BTreeMap κ ν) (a : κ) :
    a ∈ keys.foldl (fun m k => m.erase k) m ↔ a ∉ keys ∧ a ∈ m := by
  rw [mem_iff_get, get_foldl_erase, mem_iff_get]
  by_cases h : a ∈ keys <;> simp [h]

/-- Erasing different keys of a map takes one entry for each. -/
theorem size_foldl_erase {keys : List κ} (hnodup : keys.Nodup) {m : BTreeMap κ ν}
    (hkeys : ∀ k ∈ keys, k ∈ m) :
    (keys.foldl (fun m k => m.erase k) m).size + keys.length = m.size := by
  induction keys generalizing m with
  | nil => rfl
  | cons k keys ih =>
      rw [List.nodup_cons] at hnodup
      have hmem : k ∈ m := hkeys k List.mem_cons_self
      have hrest : ∀ a ∈ keys, a ∈ m.erase k := by
        intro a ha
        rw [mem_erase]
        exact ⟨fun heq => hnodup.1 (heq ▸ ha), hkeys a (List.mem_cons_of_mem k ha)⟩
      have hpos : 0 < m.size := size_pos_of_mem hmem
      have hsize := ih hnodup.2 hrest
      rw [ExtTreeMap.size_erase, if_pos (ExtTreeMap.contains_iff_mem.mpr hmem)] at hsize
      rw [List.foldl_cons, List.length_cons]
      omega

/-! ## The keys in order -/

omit [DecidableEq κ] in
/-- The keys are the only ordered list of them. -/
theorem keys_eq_of_ordered {m : BTreeMap κ ν} {l : List κ}
    (hl : l.Pairwise (fun a b => compare a b = .lt)) (hmem : ∀ a, a ∈ l ↔ a ∈ m) : m.keys = l := by
  have hnodup : l.Nodup := by
    refine hl.imp ?_
    rintro a b hlt rfl
    exact absurd (hlt.symm.trans ReflCmp.compare_self) (by decide)
  have hperm : m.keys.Perm l := by
    rw [List.perm_ext_iff_of_nodup ExtTreeMap.nodup_keys hnodup]
    intro a
    rw [ExtTreeMap.mem_keys, hmem a]
  refine hperm.eq_of_pairwise ?_ ExtTreeMap.ordered_keys hl
  intro a b _ _ hab hba
  have hswap : compare a b = (compare b a).swap := OrientedCmp.eq_swap
  rw [hswap, hba] at hab
  exact absurd hab (by decide)

theorem keys_foldl_erase (keys : List κ) (m : BTreeMap κ ν) :
    (keys.foldl (fun m k => m.erase k) m).keys = m.keys.filter (· ∉ keys) := by
  refine keys_eq_of_ordered (ExtTreeMap.ordered_keys.filter _) ?_
  intro a
  rw [List.mem_filter, ExtTreeMap.mem_keys, mem_foldl_erase, decide_eq_true_eq, and_comm]

/-- The smallest key is the first one, and the others stay when it is erased. -/
theorem keys_erase_minKey {m : BTreeMap κ ν} {k : κ} (h : m.minKey? = some k) :
    m.keys = k :: (m.erase k).keys := by
  obtain ⟨hmem, hleast⟩ := ExtTreeMap.minKey?_eq_some_iff_mem_and_forall.mp h
  refine keys_eq_of_ordered ?_ ?_
  · rw [List.pairwise_cons]
    refine ⟨?_, ExtTreeMap.ordered_keys⟩
    intro a ha
    rw [ExtTreeMap.mem_keys, mem_erase] at ha
    have hle := hleast a ha.2
    cases hcmp : compare k a with
    | lt => rfl
    | eq => exact absurd (compare_eq_iff_eq.mp hcmp).symm ha.1
    | gt =>
        rw [hcmp] at hle
        exact absurd hle (by decide)
  · intro a
    rw [List.mem_cons, ExtTreeMap.mem_keys, mem_erase]
    by_cases ha : a = k
    · subst ha
      exact iff_of_true (.inl rfl) hmem
    · simp [ha]

omit [DecidableEq κ] in
theorem size_le_of_subset {m : BTreeMap κ ν} {m' : BTreeMap κ μ} (h : ∀ a, a ∈ m → a ∈ m') :
    m.size ≤ m'.size := by
  rw [← ExtTreeMap.length_keys, ← ExtTreeMap.length_keys]
  refine (ExtTreeMap.nodup_keys.subperm ?_).length_le
  intro a ha
  rw [ExtTreeMap.mem_keys] at ha ⊢
  exact h a ha

/-! ## Lookup in maps of maps -/

theorem get_eraseNested (m : BTreeMap κ (BTreeMap κ' ν)) (k a : κ) (k' : κ') :
    (eraseNested m k k')[a]? =
      if a = k then (m[k]?.map fun inner => inner.erase k').filter fun inner => !inner.isEmpty
      else m[a]? := by
  unfold eraseNested
  cases hk : m[k]? with
  | none =>
      by_cases ha : a = k
      · subst ha; simp [hk]
      · simp [ha]
  | some inner =>
      simp only [Option.map_some, Option.filter_some]
      generalize inner.erase k' = rest
      cases hempty : rest.isEmpty with
      | true => simp [get_erase]
      | false => simp [get_insert]

variable [LawfulEqOrd κ'] [DecidableEq κ']

theorem getNested_insertNested (m : BTreeMap κ (BTreeMap κ' ν)) (k a : κ) (k' a' : κ') (v : ν) :
    getNested (insertNested m k k' v) a a' =
      if a = k ∧ a' = k' then some v else getNested m a a' := by
  unfold getNested insertNested
  rw [get_insert]
  by_cases ha : a = k
  · subst ha
    simp only [if_true, get_insert, true_and]
    cases m[a]? with
    | none => simp
    | some inner => simp
  · simp [ha]

/-- An inner map that lost `k'` answers for the others, also when it is dropped as empty. -/
theorem getNested_erased (inner : Option (BTreeMap κ' ν)) (k' a' : κ') :
    (((inner.map fun i => i.erase k').filter fun i => !i.isEmpty).bind fun i => i[a']?) =
      if a' = k' then none else inner.bind fun i => i[a']? := by
  cases inner with
  | none => simp
  | some i =>
      simp only [Option.map_some, Option.filter_some, Option.bind_some]
      rw [← get_erase]
      cases hempty : (i.erase k').isEmpty with
      | true => exact ((map_isEmpty_iff _).mp hempty a').symm
      | false => rfl

theorem getNested_eraseNested (m : BTreeMap κ (BTreeMap κ' ν)) (k a : κ) (k' a' : κ') :
    getNested (eraseNested m k k') a a' =
      if a = k ∧ a' = k' then none else getNested m a a' := by
  rw [getNested_eq_bind, getNested_eq_bind, get_eraseNested]
  by_cases ha : a = k
  · subst ha
    simp only [if_true, true_and]
    exact getNested_erased _ _ _
  · simp [ha]

omit [DecidableEq κ] in
theorem getNested_eraseEverywhere (m : BTreeMap κ (BTreeMap κ' ν)) (a : κ) (k' a' : κ') :
    getNested (eraseEverywhere m k') a a' = if a' = k' then none else getNested m a a' := by
  have hlook : (eraseEverywhere m k')[a]? =
      (m[a]?.map fun inner => inner.erase k').filter fun inner => !inner.isEmpty := by
    ext inner
    rw [eraseEverywhere, get_retain_eq_some, get_mapValues, Option.filter_eq_some_iff]
  rw [getNested_eq_bind, getNested_eq_bind, hlook]
  exact getNested_erased _ _ _

end BTree
