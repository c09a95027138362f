import Mathlib.Data.List.DropRight
import Mathlib.Tactic
import TeamView.Relay.Names

set_option autoImplicit false

/-! # Names that the relay keeps as they are

The relay stores a room under its sanitised name. `sanitize_room_name` returns the requested name
itself exactly when that name is plain: not too long, without control characters, and with no
whitespace but single spaces between other characters (`sanitizeRoomName_eq_self_iff`).
-/

namespace TeamView.Relay

open TeamView.Protocol

/-- The characters that the loop of `sanitize_human_name` passes on one by one, after a space or
after another character. -/
def Unspaced : List Char → Bool → Prop
  | [], _ => True
  | ch :: rest, previous_was_space =>
      (isControl ch = false ∧ isWhitespace ch = false ∨ ch = ' ' ∧ previous_was_space = false) ∧
        Unspaced rest (ch == ' ')

/-- A name that can be shown as it is. -/
structure PlainName (name : String) : Prop where
  nonempty : name.toList ≠ []
  short : name.toList.length ≤ maxRoomNameChars
  trimmed : trim name.toList = name.toList
  unspaced : Unspaced name.toList false

/-! ## Trimming -/

theorem trim_eq (chars : List Char) :
    trim chars = (chars.dropWhile isWhitespace).rdropWhile isWhitespace := rfl

theorem trim_sublist (chars : List Char) : (trim chars).Sublist chars := by
  rw [trim_eq]
  exact (List.rdropWhile_prefix _ _).sublist.trans (List.dropWhile_suffix _).sublist

/-- A character that can be seen stays where it is. -/
theorem trim_cons {ch : Char} (hch : isWhitespace ch = false) (rest : List Char) :
    ∃ rest', trim (ch :: rest) = ch :: rest' := by
  rw [trim_eq, List.dropWhile_cons, if_neg (by rw [hch]; exact Bool.false_ne_true),
    List.rdropWhile, List.reverse_cons, List.dropWhile_append]
  split
  · rw [List.dropWhile_cons, if_neg (by rw [hch]; exact Bool.false_ne_true)]
    exact ⟨[], rfl⟩
  · rw [List.reverse_append]
    exact ⟨_, rfl⟩

/-! ## The loop -/

theorem isWhitespace_space : isWhitespace ' ' = true := by decide

theorem visible_ne_space {ch : Char} (hch : isWhitespace ch = false) : (ch == ' ') = false := by
  rw [beq_eq_false_iff_ne]
  rintro rfl
  rw [isWhitespace_space] at hch
  cases hch

/-- One turn of the loop: a character is cut off, dropped, replaced by a space or kept. -/
theorem sanitizeLoop_cons (max_chars : Nat) (ch : Char) (rest : List Char)
    (previous_was_space : Bool) (char_count : Nat) :
    sanitizeLoop max_chars (ch :: rest) previous_was_space char_count =
      if max_chars ≤ char_count then []
      else if isWhitespace ch then
        if previous_was_space then sanitizeLoop max_chars rest previous_was_space char_count
        else ' ' :: sanitizeLoop max_chars rest true (char_count + 1)
      else if isControl ch then sanitizeLoop max_chars rest previous_was_space char_count
      else ch :: sanitizeLoop max_chars rest false (char_count + 1) := by
  rw [sanitizeLoop]
  cases hspace : isWhitespace ch with
  | true => simp
  | false =>
      simp [visible_ne_space hspace]

theorem sanitizeLoop_length_le (max_chars : Nat) (chars : List Char) (previous_was_space : Bool)
    (char_count : Nat) :
    (sanitizeLoop max_chars chars previous_was_space char_count).length ≤ chars.length := by
  induction chars generalizing previous_was_space char_count with
  | nil => exact le_refl 0
  | cons ch rest ih =>
      rw [sanitizeLoop_cons]
      split
      · exact Nat.zero_le _
      · split
        · split
          · exact Nat.le_succ_of_le (ih _ _)
          · exact Nat.succ_le_succ (ih _ _)
        · split
          · exact Nat.le_succ_of_le (ih _ _)
          · exact Nat.succ_le_succ (ih _ _)

/-- The loop passes a text on unchanged when no character is dropped or replaced and the text is
not cut. -/
theorem sanitizeLoop_eq_self_iff {max_chars : Nat} {chars : List Char} {previous_was_space : Bool}
    {char_count : Nat} :
    sanitizeLoop max_chars chars previous_was_space char_count = chars ↔
      Unspaced chars previous_was_space ∧ (chars ≠ [] → char_count + chars.length ≤ max_chars) := by
  induction chars generalizing previous_was_space char_count with
  | nil => simp [sanitizeLoop, Unspaced]
  | cons ch rest ih =>
      -- a dropped character leaves fewer than there were
      have hdropped : ∀ (space : Bool) (count : Nat),
          sanitizeLoop max_chars rest space count ≠ ch :: rest := by
        intro space count heq
        have hlength := sanitizeLoop_length_le max_chars rest space count
        rw [heq, List.length_cons] at hlength
        omega
      -- the lengths on both sides, after one character
      have hcount : char_count < max_chars →
          ((rest ≠ [] → char_count + 1 + rest.length ≤ max_chars) ↔
            (ch :: rest ≠ [] → char_count + (ch :: rest).length ≤ max_chars)) := by
        intro hlt
        cases rest with
        | nil => simp; omega
        | cons next rest => simp; omega
      rw [sanitizeLoop_cons, Unspaced]
      by_cases hfull : max_chars ≤ char_count
      · rw [if_pos hfull]
        -- the loop has cut the text
        refine iff_of_false nofun fun h => ?_
        have hlength := h.2 (List.cons_ne_nil ch rest)
        rw [List.length_cons] at hlength
        omega
      · rw [if_neg hfull]
        have hroom := hcount (Nat.lt_of_not_le hfull)
        cases hspace : isWhitespace ch with
        | true =>
            rw [if_pos rfl]
            cases previous_was_space with
            | true =>
                rw [if_pos rfl]
                exact iff_of_false (hdropped _ _) fun h => by simp at h
            | false =>
                rw [if_neg Bool.false_ne_true, List.cons_eq_cons, ih, hroom]
                constructor
                · -- a space character is written as a blank
                  rintro ⟨rfl, hrest, hshort⟩
                  exact ⟨⟨.inr ⟨rfl, rfl⟩, hrest⟩, hshort⟩
                · rintro ⟨⟨hkind, hrest⟩, hshort⟩
                  obtain rfl : ch = ' ' := by simpa using hkind
                  exact ⟨rfl, hrest, hshort⟩
        | false =>
            have hne := visible_ne_space hspace
            rw [if_neg Bool.false_ne_true, hne]
            cases hcontrol : isControl ch with
            | true =>
                rw [if_pos rfl]
                -- a control character is dropped
                refine iff_of_false (hdropped _ _) fun h => ?_
                rw [beq_eq_false_iff_ne] at hne
                simp [hne] at h
            | false =>
                rw [if_neg Bool.false_ne_true, List.cons_eq_cons, ih, hroom]
                simp

/-! ## The name that is stored -/

/-- A text that begins with a visible character does not vanish. -/
theorem sanitized_ne_nil {max_chars : Nat} (hmax : 0 < max_chars) {ch : Char}
    (hspace : isWhitespace ch = false) (hcontrol : isControl ch = false) (rest : List Char) :
    trim (sanitizeLoop max_chars (trim (ch :: rest)) false 0) ≠ [] := by
  obtain ⟨trimmed, htrimmed⟩ := trim_cons hspace rest
  rw [htrimmed, sanitizeLoop_cons, if_neg (Nat.not_le.mpr hmax), hspace,
    if_neg Bool.false_ne_true, hcontrol, if_neg Bool.false_ne_true]
  obtain ⟨name, hname⟩ := trim_cons hspace (sanitizeLoop max_chars trimmed false (0 + 1))
  rw [hname]
  exact List.cons_ne_nil ch name

/-- No stage of the sanitiser can make up for what another takes away. -/
theorem sanitized_eq_self_iff {max_chars : Nat} {chars : List Char} :
    trim (sanitizeLoop max_chars (trim chars) false 0) = chars ↔
      trim chars = chars ∧ sanitizeLoop max_chars chars false 0 = chars := by
  constructor
  · intro hself
    have hinner := trim_sublist chars
    have hloop := sanitizeLoop_length_le max_chars (trim chars) false 0
    have houter := trim_sublist (sanitizeLoop max_chars (trim chars) false 0)
    rw [hself] at houter
    have hinner_le := hinner.length_le
    have houter_le := houter.length_le
    have htrimmed : trim chars = chars := hinner.eq_of_length (by omega)
    rw [htrimmed] at hloop houter houter_le
    exact ⟨htrimmed, (houter.eq_of_length (by omega)).symm⟩
  · rintro ⟨htrimmed, hloop⟩
    rw [htrimmed, hloop, htrimmed]

theorem plainName_iff {name : String} :
    PlainName name ↔ name.toList ≠ [] ∧
      trim (sanitizeLoop maxRoomNameChars (trim name.toList) false 0) = name.toList := by
  rw [sanitized_eq_self_iff, sanitizeLoop_eq_self_iff, Nat.zero_add]
  constructor
  · rintro ⟨hnonempty, hshort, htrimmed, hunspaced⟩
    exact ⟨hnonempty, htrimmed, hunspaced, fun _ => hshort⟩
  · rintro ⟨hnonempty, htrimmed, hunspaced, hshort⟩
    exact ⟨hnonempty, hshort hnonempty, htrimmed, hunspaced⟩

/-- `sanitize_room_name` keeps the plain names, and no others. -/
theorem sanitizeRoomName_eq_self_iff (name : String) (room_id : RoomId) :
    sanitizeRoomName name room_id = name ↔ PlainName name := by
  rw [plainName_iff]
  unfold sanitizeRoomName sanitizeHumanName
  simp only
  split
  · next hempty =>
      rw [List.isEmpty_iff] at hempty
      constructor
      · -- a name that vanishes is replaced by one that does not
        intro hself
        have hroom : name.toList = 'r' :: ("oom-".toList ++ (toString room_id).toList) := by
          rw [← hself]
          exact String.toList_append
        rw [hroom] at hempty
        exact absurd hempty (sanitized_ne_nil (by decide) (by decide) (by decide) _)
      · rintro ⟨hnonempty, hself⟩
        exact absurd (hself.symm.trans hempty) hnonempty
  · next hsome =>
      rw [List.isEmpty_iff] at hsome
      constructor
      · intro hself
        have hlist := congrArg String.toList hself
        rw [String.toList_ofList] at hlist
        exact ⟨hlist ▸ hsome, hlist⟩
      · rintro ⟨-, hself⟩
        rw [hself]
        exact String.ofList_toList

end TeamView.Relay
