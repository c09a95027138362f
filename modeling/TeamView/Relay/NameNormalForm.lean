import TeamView.Relay.PlainNames

set_option autoImplicit false

/-! # Sanitised names are a normal form

What `sanitize_display_name` and `sanitize_room_name` (`crates/relay-server/src/control.rs`) return
is a name that both of them keep: the loop passes on no control character and no two spaces in a
row, and trimming its result at both ends undoes neither. The name made from the id stands in
exactly when nothing in the requested name can be seen.
-/

namespace TeamView.Relay

/-! ## Trimming -/

theorem trim_isInfix (chars : List Char) : trim chars <:+: chars := by
  rw [trim_eq]
  exact (List.rdropWhile_prefix _ _).isInfix.trans (List.dropWhile_suffix _).isInfix

theorem isWhitespace_head_trim {chars rest : List Char} {ch : Char} (h : trim chars = ch :: rest) :
    isWhitespace ch = false := by
  cases hdrop : chars.dropWhile isWhitespace with
  | nil =>
      rw [trim_eq, hdrop, List.rdropWhile_nil] at h
      exact nomatch h
  | cons first tail =>
      have hfirst : isWhitespace first = false := by
        have hnot := List.head?_dropWhile_not isWhitespace chars
        rw [hdrop] at hnot
        simpa using hnot
      obtain ⟨tail', htail⟩ := trim_cons hfirst tail
      rw [trim_eq, List.dropWhile_cons_of_neg (by rw [hfirst]; exact Bool.false_ne_true)] at htail
      rw [trim_eq, hdrop, htail] at h
      rw [← (List.cons.inj h).1]
      exact hfirst

theorem isWhitespace_getLast_trim {chars : List Char} (h : trim chars ≠ []) :
    isWhitespace ((trim chars).getLast h) = false :=
  Bool.eq_false_iff.mpr (List.rdropWhile_last_not isWhitespace _ h)

/-- A text that ends in visible characters on both sides is trimmed. -/
theorem trim_eq_self {chars : List Char}
    (hfirst : ∀ ch rest, chars = ch :: rest → isWhitespace ch = false)
    (hlast : ∀ h : chars ≠ [], isWhitespace (chars.getLast h) = false) : trim chars = chars := by
  have hfront : chars.dropWhile isWhitespace = chars := by
    cases chars with
    | nil => rfl
    | cons ch rest =>
        exact List.dropWhile_cons_of_neg
          (by rw [hfirst ch rest rfl]; exact Bool.false_ne_true)
  rw [trim_eq, hfront, List.rdropWhile_eq_self_iff]
  intro hsome
  rw [hlast hsome]
  exact Bool.false_ne_true

theorem trim_trim (chars : List Char) : trim (trim chars) = trim chars :=
  trim_eq_self (fun _ _ h => isWhitespace_head_trim h) isWhitespace_getLast_trim

theorem mem_dropWhile_of_not {p : Char → Bool} {chars : List Char} {ch : Char} (hmem : ch ∈ chars)
    (hch : p ch = false) : ch ∈ chars.dropWhile p := by
  rw [← List.takeWhile_append_dropWhile (p := p) (l := chars), List.mem_append] at hmem
  refine hmem.resolve_left fun htaken => ?_
  rw [List.mem_takeWhile_imp htaken] at hch
  exact nomatch hch

/-- Trimming keeps what can be seen. -/
theorem mem_trim {chars : List Char} {ch : Char} (hmem : ch ∈ chars)
    (hch : isWhitespace ch = false) : ch ∈ trim chars := by
  unfold trim
  rw [List.mem_reverse]
  refine mem_dropWhile_of_not ?_ hch
  rw [List.mem_reverse]
  exact mem_dropWhile_of_not hmem hch

/-! ## Texts without runs of spaces -/

theorem Unspaced.of_append {front rest : List Char} {previous_was_space : Bool}
    (h : Unspaced (front ++ rest) previous_was_space) :
    Unspaced front previous_was_space ∧ ∃ space, Unspaced rest space := by
  induction front generalizing previous_was_space with
  | nil => exact ⟨trivial, previous_was_space, h⟩
  | cons ch front ih =>
      obtain ⟨hch, htail⟩ := h
      obtain ⟨hfront, hrest⟩ := ih htail
      exact ⟨⟨hch, hfront⟩, hrest⟩

theorem Unspaced.of_infix {chars part : List Char} {previous_was_space : Bool}
    (h : Unspaced chars previous_was_space) (hpart : part <:+: chars) :
    ∃ space, Unspaced part space := by
  obtain ⟨front, rest, rfl⟩ := hpart
  exact h.of_append.1.of_append.2

/-- Trimming leaves no runs of spaces where there were none. -/
theorem Unspaced.trim {chars : List Char} {previous_was_space : Bool}
    (h : Unspaced chars previous_was_space) : Unspaced (trim chars) false := by
  obtain ⟨space, hpart⟩ := h.of_infix (trim_isInfix chars)
  cases hname : Relay.trim chars with
  | nil => trivial
  | cons ch rest =>
      rw [hname] at hpart
      have hch := isWhitespace_head_trim hname
      refine ⟨.inl ⟨?_, hch⟩, hpart.2⟩
      rcases hpart.1 with ⟨hcontrol, _⟩ | ⟨rfl, _⟩
      · exact hcontrol
      · rw [isWhitespace_space] at hch
        exact nomatch hch

theorem Unspaced.mem {chars : List Char} {previous_was_space : Bool}
    (h : Unspaced chars previous_was_space) {ch : Char} (hmem : ch ∈ chars) :
    isControl ch = false ∧ (isWhitespace ch = true → ch = ' ') := by
  obtain ⟨front, rest, rfl⟩ := List.append_of_mem hmem
  obtain ⟨space, hkind, _⟩ := h.of_append.2
  rcases hkind with ⟨hcontrol, hvisible⟩ | ⟨rfl, _⟩
  · refine ⟨hcontrol, fun hspace => ?_⟩
    rw [hvisible] at hspace
    exact nomatch hspace
  · exact ⟨by decide, fun _ => rfl⟩

theorem Unspaced.no_double_space {chars : List Char} {previous_was_space : Bool}
    (h : Unspaced chars previous_was_space) : ¬ [' ', ' '] <:+: chars := by
  intro hpart
  obtain ⟨space, _, hsecond, _⟩ := h.of_infix hpart
  revert hsecond
  decide

theorem unspaced_of_visible {chars : List Char}
    (h : ∀ ch ∈ chars, isWhitespace ch = false ∧ isControl ch = false)
    (previous_was_space : Bool) : Unspaced chars previous_was_space := by
  induction chars generalizing previous_was_space with
  | nil => trivial
  | cons ch rest ih =>
      rw [List.forall_mem_cons] at h
      exact ⟨.inl ⟨h.1.2, h.1.1⟩, ih h.2 _⟩

/-! ## What the loop passes on -/

theorem unspaced_sanitizeLoop (max_chars : Nat) (chars : List Char) (previous_was_space : Bool)
    (char_count : Nat) :
    Unspaced (sanitizeLoop max_chars chars previous_was_space char_count) previous_was_space := by
  induction chars generalizing previous_was_space char_count with
  | nil => trivial
  | cons ch rest ih =>
      rw [sanitizeLoop_cons]
      split
      · trivial
      · cases hspace : isWhitespace ch with
        | true =>
            rw [if_pos rfl]
            cases previous_was_space with
            | true => exact ih true _
            | false => exact ⟨.inr ⟨rfl, rfl⟩, ih true _⟩
        | false =>
            rw [if_neg Bool.false_ne_true]
            cases hcontrol : isControl ch with
            | true => exact ih _ _
            | false =>
                refine ⟨.inl ⟨hcontrol, hspace⟩, ?_⟩
                rw [visible_ne_space hspace]
                exact ih false _

theorem length_sanitizeLoop_le (max_chars : Nat) (chars : List Char) (previous_was_space : Bool)
    (char_count : Nat) :
    (sanitizeLoop max_chars chars previous_was_space char_count).length
      ≤ max_chars - char_count := by
  induction chars generalizing previous_was_space char_count with
  | nil => exact Nat.zero_le _
  | cons ch rest ih =>
      have hkept := ih false (char_count + 1)
      have hspaced := ih true (char_count + 1)
      have hskipped := ih previous_was_space char_count
      rw [sanitizeLoop_cons]
      split_ifs
      · exact Nat.zero_le _
      · exact hskipped
      · rw [List.length_cons]
        omega
      · exact hskipped
      · rw [List.length_cons]
        omega

/-- Whatever can be seen in the result was in the text. -/
theorem mem_of_mem_sanitizeLoop {max_chars : Nat} {chars : List Char} {previous_was_space : Bool}
    {char_count : Nat} {ch : Char}
    (h : ch ∈ sanitizeLoop max_chars chars previous_was_space char_count)
    (hch : isWhitespace ch = false) : ch ∈ chars := by
  induction chars generalizing previous_was_space char_count with
  | nil => exact h
  | cons first rest ih =>
      rw [sanitizeLoop_cons] at h
      split_ifs at h
      · exact nomatch h
      · exact List.mem_cons_of_mem _ (ih h)
      · rcases List.mem_cons.mp h with rfl | hrest
        · rw [isWhitespace_space] at hch
          exact nomatch hch
        · exact List.mem_cons_of_mem _ (ih hrest)
      · exact List.mem_cons_of_mem _ (ih h)
      · rcases List.mem_cons.mp h with rfl | hrest
        · exact List.mem_cons_self
        · exact List.mem_cons_of_mem _ (ih hrest)

/-- A character that can be seen is passed on while there is room for it and for the one space that
may come first. -/
theorem exists_visible_sanitizeLoop {max_chars : Nat} {chars : List Char}
    {previous_was_space : Bool} {char_count : Nat}
    (hroom : char_count + (if previous_was_space then 0 else 1) < max_chars)
    (h : ∃ ch ∈ chars, isWhitespace ch = false ∧ isControl ch = false) :
    ∃ ch ∈ sanitizeLoop max_chars chars previous_was_space char_count,
      isWhitespace ch = false := by
  induction chars generalizing previous_was_space char_count with
  | nil =>
      obtain ⟨ch, hmem, _⟩ := h
      exact nomatch hmem
  | cons first rest ih =>
      have hcount : ¬ max_chars ≤ char_count := by split at hroom <;> omega
      rw [sanitizeLoop_cons, if_neg hcount]
      rw [List.exists_mem_cons_iff] at h
      cases hspace : isWhitespace first with
      | true =>
          have hrest := h.resolve_left fun hfirst => by
            rw [hspace] at hfirst
            exact nomatch hfirst.1
          rw [if_pos rfl]
          cases previous_was_space with
          -- a space after a space is dropped and takes no room
          | true => exact ih hroom hrest
          | false =>
              obtain ⟨ch, hmem, hch⟩ := @ih true (char_count + 1) hroom hrest
              exact ⟨ch, List.mem_cons_of_mem _ hmem, hch⟩
      | false =>
          rw [if_neg Bool.false_ne_true]
          cases hcontrol : isControl first with
          | true =>
              -- a control character is not the visible one
              have hrest := h.resolve_left fun hfirst => by
                rw [hcontrol] at hfirst
                exact nomatch hfirst.2
              exact ih hroom hrest
          | false => exact ⟨first, List.mem_cons_self, hspace⟩

/-! ## Names made from an id -/

theorem isDigit_visible {ch : Char} (h : ch.isDigit = true) :
    isWhitespace ch = false ∧ isControl ch = false := by
  rw [Char.isDigit_iff_toNat] at h
  obtain ⟨hlow, hhigh⟩ := h
  have hlow' : 48 ≤ ch.toNat := hlow
  have hhigh' : ch.toNat ≤ 57 := hhigh
  constructor
  · simp only [isWhitespace, Bool.or_eq_false_iff, Bool.and_eq_false_iff, decide_eq_false_iff_not,
      beq_eq_false_iff_ne]
    omega
  · simp only [isControl, Bool.or_eq_false_iff, Bool.and_eq_false_iff, decide_eq_false_iff_not]
    omega

theorem plainName_of_visible {name : String} (hsome : name.toList ≠ [])
    (hshort : name.toList.length ≤ maxRoomNameChars)
    (hvisible : ∀ ch ∈ name.toList, isWhitespace ch = false ∧ isControl ch = false) :
    PlainName name where
  nonempty := hsome
  short := hshort
  trimmed := by
    refine trim_eq_self (fun ch rest hname => ?_) fun h => (hvisible _ (List.getLast_mem h)).1
    refine (hvisible ch ?_).1
    rw [hname]
    exact List.mem_cons_self
  unspaced := unspaced_of_visible hvisible false

/-- A short visible text with a number of 64 bits behind it is kept. -/
theorem plainName_numbered {front : String} (hshort : front.toList.length ≤ 40)
    (hvisible : front.toList.any (fun ch => isWhitespace ch || isControl ch) = false) {n : Nat}
    (hn : n < 2 ^ 64) : PlainName (front ++ toString n) := by
  have hdigits : (toString n).toList = Nat.toDigits 10 n := Nat.toList_repr
  have hlength : (Nat.toDigits 10 n).length ≤ 20 := by
    rw [Nat.length_toDigits_le_iff (by decide) (by decide)]
    exact hn.trans (by decide)
  apply plainName_of_visible
  · rw [String.toList_append, hdigits]
    exact List.append_ne_nil_of_right_ne_nil _ Nat.toDigits_ne_nil
  · rw [String.toList_append, hdigits, List.length_append]
    unfold maxRoomNameChars
    omega
  · rw [String.toList_append, hdigits]
    intro ch hmem
    rcases List.mem_append.mp hmem with hfront | hdigit
    · have hch := List.any_eq_false.mp hvisible ch hfront
      rwa [Bool.not_eq_true, Bool.or_eq_false_iff] at hch
    · exact isDigit_visible (Nat.isDigit_of_mem_toDigits (by decide) (by decide) hdigit)

/-! ## The normal form -/

/-- The guarantees of a name, for those who show it. -/
structure NormalName (name : String) : Prop where
  nonempty : name ≠ ""
  short : name.toList.length ≤ 64
  no_control : ∀ ch ∈ name.toList, isControl ch = false
  no_leading : ∀ ch rest, name.toList = ch :: rest → isWhitespace ch = false
  no_trailing : ∀ ch front, name.toList = front ++ [ch] → isWhitespace ch = false
  only_spaces : ∀ ch ∈ name.toList, isWhitespace ch = true → ch = ' '
  single_spaces : ¬ [' ', ' '] <:+: name.toList

/-- Something in the text is neither whitespace nor a control character. -/
def HasVisible (raw_name : String) : Prop :=
  ∃ ch ∈ raw_name.toList, isWhitespace ch = false ∧ isControl ch = false

theorem PlainName.normalName {name : String} (h : PlainName name) : NormalName name where
  nonempty := by
    rintro rfl
    exact h.nonempty rfl
  short := h.short
  no_control := fun _ hmem => (h.unspaced.mem hmem).1
  no_leading := fun ch rest hname => isWhitespace_head_trim (h.trimmed.trans hname)
  no_trailing := fun ch front hname => by
    have htrim : trim name.toList = front ++ [ch] := h.trimmed.trans hname
    have hsome : trim name.toList ≠ [] := by
      rw [htrim]
      exact List.concat_ne_nil ch front
    have hget : (trim name.toList).getLast hsome = ch := by
      simp only [htrim, List.getLast_concat]
    rw [← hget]
    exact isWhitespace_getLast_trim hsome
  only_spaces := fun _ hmem => (h.unspaced.mem hmem).2
  single_spaces := h.unspaced.no_double_space

/-- What the sanitiser keeps of a text. -/
def keptName (raw_name : String) : List Char :=
  trim (sanitizeLoop 64 (trim raw_name.toList) false 0)

theorem keptName_ne_nil_iff (raw_name : String) : keptName raw_name ≠ [] ↔ HasVisible raw_name := by
  constructor
  · intro hsome
    have hlast := isWhitespace_getLast_trim hsome
    have hmem := List.getLast_mem hsome
    have hloop := (trim_isInfix _).subset hmem
    refine ⟨_, (trim_isInfix _).subset (mem_of_mem_sanitizeLoop hloop hlast), hlast, ?_⟩
    exact ((unspaced_sanitizeLoop 64 _ false 0).mem hloop).1
  · rintro ⟨ch, hmem, hspace, hcontrol⟩
    obtain ⟨kept, hkept, hvisible⟩ := exists_visible_sanitizeLoop
      (show 0 + (if false then 0 else 1) < 64 by decide)
      ⟨ch, mem_trim hmem hspace, hspace, hcontrol⟩
    exact List.ne_nil_of_mem (mem_trim hkept hvisible)

theorem plainName_keptName {raw_name : String} (h : keptName raw_name ≠ []) :
    PlainName (String.ofList (keptName raw_name)) where
  nonempty := by rwa [String.toList_ofList]
  short := by
    rw [String.toList_ofList]
    calc (keptName raw_name).length
        ≤ (sanitizeLoop 64 (trim raw_name.toList) false 0).length := (trim_isInfix _).length_le
      _ ≤ 64 - 0 := length_sanitizeLoop_le _ _ _ _
  trimmed := by
    rw [String.toList_ofList]
    exact trim_trim _
  unspaced := by
    rw [String.toList_ofList]
    exact (unspaced_sanitizeLoop _ _ _ _).trim

theorem sanitizeHumanName_eq (raw_name fallback : String) :
    sanitizeHumanName raw_name 64 fallback =
      if keptName raw_name = [] then fallback else String.ofList (keptName raw_name) := by
  unfold sanitizeHumanName keptName
  simp only [List.isEmpty_iff]

/-- A plain name is kept by both sanitisers. -/
theorem PlainName.sanitizeHumanName_eq {name : String} (h : PlainName name) (fallback : String) :
    sanitizeHumanName name 64 fallback = name := by
  have hkept : keptName name = name.toList := (plainName_iff.mp h).2
  rw [Relay.sanitizeHumanName_eq, hkept, if_neg h.nonempty, String.ofList_toList]

/-- What a sanitiser makes of a text, for every id of 64 bits. -/
structure NormalForm (sanitize : String → Nat → String) (fallback : Nat → String)
    (raw_name : String) : Prop where
  normal : ∀ id : UInt64, NormalName (sanitize raw_name id.toNat)
  idempotent : ∀ id : UInt64,
    sanitize (sanitize raw_name id.toNat) id.toNat = sanitize raw_name id.toNat
  fallback_iff : (∀ id : UInt64, sanitize raw_name id.toNat = fallback id.toNat) ↔
    ¬ HasVisible raw_name
  kept_iff : (∃ name, ∀ id : UInt64, sanitize raw_name id.toNat = name) ↔ HasVisible raw_name

theorem normalForm_of_fallback {fallback : Nat → String}
    (hplain : ∀ n < 2 ^ 64, PlainName (fallback n)) (hdistinct : fallback 0 ≠ fallback 1)
    (raw_name : String) :
    NormalForm (fun raw_name id => sanitizeHumanName raw_name 64 (fallback id)) fallback
      raw_name := by
  have hname : ∀ id : UInt64, PlainName (sanitizeHumanName raw_name 64 (fallback id.toNat)) := by
    intro id
    rw [sanitizeHumanName_eq]
    split
    · exact hplain _ id.toNat_lt
    · next hsome => exact plainName_keptName hsome
  have hempty : ¬ HasVisible raw_name → ∀ id : UInt64,
      sanitizeHumanName raw_name 64 (fallback id.toNat) = fallback id.toNat := by
    intro hnone id
    rw [sanitizeHumanName_eq, if_pos]
    by_contra hsome
    exact hnone ((keptName_ne_nil_iff raw_name).mp hsome)
  have hkept : HasVisible raw_name → ∀ id : UInt64,
      sanitizeHumanName raw_name 64 (fallback id.toNat) = String.ofList (keptName raw_name) := by
    intro hsome id
    rw [sanitizeHumanName_eq, if_neg ((keptName_ne_nil_iff raw_name).mpr hsome)]
  refine ⟨fun id => (hname id).normalName, fun id => (hname id).sanitizeHumanName_eq _, ?_, ?_⟩
  · -- the two fallbacks tell a kept name from one that is made up
    refine ⟨fun hall hsome => hdistinct ?_, hempty⟩
    calc fallback 0 = String.ofList (keptName raw_name) := (hall 0).symm.trans (hkept hsome 0)
      _ = fallback 1 := (hkept hsome 1).symm.trans (hall 1)
  · refine ⟨?_, fun hsome => ⟨_, hkept hsome⟩⟩
    rintro ⟨name, hall⟩
    by_contra hnone
    apply hdistinct
    calc fallback 0 = name := (hempty hnone 0).symm.trans (hall 0)
      _ = fallback 1 := (hall 1).symm.trans (hempty hnone 1)

/-- Both sanitisers give a normal form, and the name made from the id exactly for the texts without
a visible character. -/
theorem sanitized_names_normal (raw_name : String) :
    NormalForm sanitizeDisplayName (fun user_id => s!"user-{user_id}") raw_name ∧
      NormalForm sanitizeRoomName (fun room_id => s!"room-{room_id}") raw_name := by
  have huser : s!"user-{0}" ≠ s!"user-{1}" := by decide
  have hroom : s!"room-{0}" ≠ s!"room-{1}" := by decide
  constructor
  · exact normalForm_of_fallback (fun _ => plainName_numbered (by decide) (by decide)) huser
      raw_name
  · exact normalForm_of_fallback (fun _ => plainName_numbered (by decide) (by decide)) hroom
      raw_name

end TeamView.Relay
