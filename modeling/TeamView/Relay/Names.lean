import TeamView.Protocol.Control

set_option autoImplicit false

/-! # Sanitised names and text input

`sanitize_human_name` with its two callers, and `sanitize_remote_input_kind`
(`crates/relay-server/src/control.rs`). Strings are handled as their lists of characters.
`isWhitespace` and `isControl` are the Unicode properties `White_Space` and `Cc` that
`char::is_whitespace` and `char::is_control` test.
-/

namespace TeamView.Relay

open TeamView.Protocol

/-- `char::is_whitespace`. -/
def isWhitespace (c : Char) : Bool :=
  let n := c.toNat
  (9 ≤ n && n ≤ 13) || n == 0x20 || n == 0x85 || n == 0xA0 || n == 0x1680 ||
    (0x2000 ≤ n && n ≤ 0x200A) || n == 0x2028 || n == 0x2029 || n == 0x202F ||
    n == 0x205F || n == 0x3000

/-- `char::is_control`. -/
def isControl (c : Char) : Bool :=
  let n := c.toNat
  n < 0x20 || (0x7F ≤ n && n < 0xA0)

/-- `str::trim`. -/
def trim (chars : List Char) : List Char :=
  ((chars.dropWhile isWhitespace).reverse.dropWhile isWhitespace).reverse

/-- The loop of `sanitize_human_name`, with its variables `previous_was_space` and
`char_count`; the result is what the loop pushes from here on. -/
def sanitizeLoop (max_chars : Nat) : List Char → Bool → Nat → List Char
  | [], _, _ => []
  | ch :: rest, previous_was_space, char_count =>
      if max_chars ≤ char_count then []
      else if !isWhitespace ch && isControl ch then
        sanitizeLoop max_chars rest previous_was_space char_count
      else
        let next := if isWhitespace ch then ' ' else ch
        if next == ' ' && previous_was_space then
          sanitizeLoop max_chars rest previous_was_space char_count
        else next :: sanitizeLoop max_chars rest (next == ' ') (char_count + 1)

def sanitizeHumanName (raw_name : String) (max_chars : Nat) (fallback : String) : String :=
  let name := trim (sanitizeLoop max_chars (trim raw_name.toList) false 0)
  if name.isEmpty then fallback else String.ofList name

/-- `MAX_DISPLAY_NAME_CHARS`. -/
def maxDisplayNameChars : Nat := 64

/-- `MAX_ROOM_NAME_CHARS`. -/
def maxRoomNameChars : Nat := 64

def sanitizeDisplayName (raw_name : String) (user_id : UserId) : String :=
  sanitizeHumanName raw_name maxDisplayNameChars s!"user-{user_id}"

def sanitizeRoomName (raw_name : String) (room_id : RoomId) : String :=
  sanitizeHumanName raw_name maxRoomNameChars s!"room-{room_id}"

/-- `MAX_REMOTE_INPUT_TEXT_CHARS`. -/
def maxRemoteInputTextChars : Nat := 256

def sanitizeRemoteInputKind : RemoteInputKind → Except ControlError RemoteInputKind
  | .text text =>
      let sanitized := (text.toList.take maxRemoteInputTextChars).filter fun ch =>
        !isControl ch || ch == '\n' || ch == '\r' || ch == '\t'
      if sanitized.isEmpty then
        .error ⟨"invalid_remote_input", "remote text input must not be empty"⟩
      else .ok (.text (String.ofList sanitized))
  | other => .ok other

end TeamView.Relay
