import TeamView.Client.Audio
import TeamView.Lib.Chunks
import TeamView.Relay.Names

set_option autoImplicit false

/-! # Requests of the local UI

The UI server reads a request from its TCP stream: chunk after chunk until the blank line that
ends the headers, then until the body that `Content-Length` announces is there
(`read_ui_http_request` in `crates/desktop-client/src/main.rs`). The text functions of the standard
library that it uses are written out on lists of characters. A stream is the list of what its reads
return, followed by its end.
-/

namespace TeamView.Client

open MachineInt Chunks

/-! ## Text -/

/-- A line without the carriage return at its end. -/
def stripReturn (line : List Char) : List Char :=
  if line.getLast? = some '\r' then line.dropLast else line

/-- `str::lines`, behind the characters `line` of the current one. -/
def linesFrom (line : List Char) : List Char → List (List Char)
  | [] => if line.isEmpty then [] else [line]
  | ch :: rest =>
      if ch = '\n' then stripReturn line :: linesFrom [] rest else linesFrom (line ++ [ch]) rest

def lines (text : List Char) : List (List Char) := linesFrom [] text

/-- `str::split_once` at a character. -/
def splitOnce (separator : Char) : List Char → Option (List Char × List Char)
  | [] => none
  | ch :: rest =>
      if ch = separator then some ([], rest)
      else (splitOnce separator rest).map fun halves => (ch :: halves.1, halves.2)

/-- `str::eq_ignore_ascii_case`. -/
def eqIgnoreAsciiCase (text text' : List Char) : Bool :=
  text.map Char.toLower == text'.map Char.toLower

inductive ParseIntError
  | empty
  | invalidDigit
  | posOverflow
  deriving DecidableEq

/-- The loop of `usize::from_str`, behind digits of the value `result`. -/
def parseDigits (result : Nat) : List Char → Except ParseIntError Nat
  | [] => .ok result
  | ch :: rest =>
      if ch.isDigit then
        if result * 10 + (ch.toNat - '0'.toNat) ≤ u64Max then
          parseDigits (result * 10 + (ch.toNat - '0'.toNat)) rest
        else .error .posOverflow
      else .error .invalidDigit

/-- `usize::from_str`. -/
def parseUsize : List Char → Except ParseIntError Nat
  | [] => .error .empty
  | ['+'] => .error .invalidDigit
  | '+' :: digits => parseDigits 0 digits
  | digits => parseDigits 0 digits

/-! ## UTF-8 -/

def isContinuation (byte : UInt8) : Bool := 0x80 ≤ byte && byte ≤ 0xBF

/-- The number of bytes that a first byte announces, 0 for a byte that begins no character. -/
def sequenceWidth (first : UInt8) : Nat :=
  if first < 0x80 then 1
  else if 0xC2 ≤ first && first ≤ 0xDF then 2
  else if 0xE0 ≤ first && first ≤ 0xEF then 3
  else if 0xF0 ≤ first && first ≤ 0xF4 then 4
  else 0

/-- The second byte of a character must not make it too long for its number, a surrogate or too
large. -/
def secondByteFits (first second : UInt8) : Bool :=
  if first = 0xE0 then 0xA0 ≤ second && second ≤ 0xBF
  else if first = 0xED then 0x80 ≤ second && second ≤ 0x9F
  else if first = 0xF0 then 0x90 ≤ second && second ≤ 0xBF
  else if first = 0xF4 then 0x80 ≤ second && second ≤ 0x8F
  else isContinuation second

/-- The bytes behind the first one that belong to its sequence. -/
def followers (first : UInt8) (rest : List UInt8) : List UInt8 :=
  match rest.take (sequenceWidth first - 1) with
  | [] => []
  | second :: more =>
      if secondByteFits first second then second :: more.takeWhile isContinuation else []

/-- The character of a complete sequence, and the replacement character for any other. -/
def sequenceChar (first : UInt8) (following : List UInt8) : Char :=
  if following.length + 1 = sequenceWidth first then
    let bits :=
      match sequenceWidth first with
      | 1 => first.toNat
      | 2 => first.toNat % 32
      | 3 => first.toNat % 16
      | _ => first.toNat % 8
    Char.ofNat (following.foldl (fun value byte => value * 64 + byte.toNat % 64) bits)
  else '\uFFFD'

/-- `String::from_utf8_lossy`; each turn takes a byte at least. -/
def fromUtf8LossyWithin : Nat → List UInt8 → List Char
  | turns + 1, first :: rest =>
      let following := followers first rest
      sequenceChar first following :: fromUtf8LossyWithin turns (rest.drop following.length)
  | _, _ => []

def fromUtf8Lossy (bytes : List UInt8) : List Char := fromUtf8LossyWithin bytes.length bytes

/-! ## Reading a request -/

inductive UiRequestError (ε : Type)
  /-- failed to read UI HTTP request -/
  | read (error : ε)
  /-- failed to read UI HTTP request body -/
  | readBody (error : ε)
  /-- invalid UI HTTP content-length -/
  | contentLength (error : ParseIntError)
  /-- UI HTTP request was not valid UTF-8 -/
  | notUtf8 (bytes : List UInt8)

def uiContentLength (headers : List Char) : Except ParseIntError Nat :=
  let found := (lines headers).findSome? fun line =>
    match splitOnce ':' line with
    | none => none
    | some (name, value) =>
        if eqIgnoreAsciiCase name "content-length".toList then
          some (parseUsize (Relay.trim value))
        else none
  found.getD (.ok 0)

/-- The blank line that ends the headers. -/
def headersEnd : List UInt8 := [13, 10, 13, 10]

variable {ε : Type}

/-- `String::from_utf8` of the request; its error keeps the bytes. -/
def requestText (request : List UInt8) : Except (UiRequestError ε) String :=
  match String.fromUTF8? ⟨request.toArray⟩ with
  | some text => .ok text
  | none => .error (.notUtf8 request)

/-- The inner loop. -/
def readBody (expected_len : Nat) (request : List UInt8) :
    List (Except ε (List UInt8)) → Except (UiRequestError ε) (List UInt8)
  | [] => .ok request
  | read :: reads =>
      if request.length < expected_len then
        match read with
        | .error error => .error (.readBody error)
        | .ok [] => .ok request
        | .ok bytes => readBody expected_len (request ++ bytes) reads
      else .ok request

/-- `read_ui_http_request`, behind the bytes already read; `none` is the overflow that stops a
debug build. -/
def readUiHttpRequest (build : Build) (request : List UInt8) :
    List (Except ε (List UInt8)) → Option (Except (UiRequestError ε) String)
  | [] => some (requestText request)
  | .error error :: _ => some (.error (.read error))
  | .ok [] :: _ => some (requestText request)
  | .ok (byte :: bytes) :: reads =>
      let request := request ++ byte :: bytes
      match position headersEnd request with
      | none => readUiHttpRequest build request reads
      | some header_end =>
          match uiContentLength (fromUtf8Lossy (request.take header_end)) with
          | .error error => some (.error (.contentLength error))
          | .ok content_length => do
              let body_start ← build.usize (header_end + 4)
              let expected_len ← build.usize (body_start + content_length)
              some (readBody expected_len request reads >>= requestText)

/-! ## What is read, whatever the chunks -/

/-- The text or the error tells the bytes. -/
theorem requestText_inj {request request' : List UInt8}
    (h : (requestText request : Except (UiRequestError ε) String) = requestText request') :
    request = request' := by
  have hbytes : ∀ {bytes : List UInt8} {text : String},
      String.fromUTF8? ⟨bytes.toArray⟩ = some text → text.toByteArray = ⟨bytes.toArray⟩ := by
    intro bytes text htext
    unfold String.fromUTF8? at htext
    split at htext
    · cases htext
      rfl
    · exact nomatch htext
  unfold requestText at h
  cases htext : String.fromUTF8? ⟨request.toArray⟩ with
  | none =>
      cases htext' : String.fromUTF8? ⟨request'.toArray⟩ with
      | none =>
          rw [htext, htext'] at h
          cases h
          rfl
      | some text' =>
          rw [htext, htext'] at h
          exact nomatch h
  | some text =>
      cases htext' : String.fromUTF8? ⟨request'.toArray⟩ with
      | none =>
          rw [htext, htext'] at h
          exact nomatch h
      | some text' =>
          rw [htext, htext'] at h
          cases h
          have hsame := (hbytes htext).symm.trans (hbytes htext')
          simpa using hsame

/-- The length that the source computes: where the headers end, and behind it the body. -/
def expectedLen (build : Build) (header_end content_length : Nat) : Option Nat := do
  let body_start ← build.usize (header_end + 4)
  build.usize (body_start + content_length)

theorem expectedLen_of_fits {header_end content_length : Nat}
    (hfits : header_end + 4 + content_length ≤ u64Max) (build : Build) :
    expectedLen build header_end content_length = some (header_end + 4 + content_length) := by
  rw [expectedLen, Build.usize_of_le build (by omega), Option.bind_eq_bind, Option.bind_some,
    Build.usize_of_le build hfits]

/-- The inner loop takes whole chunks until the request is long enough. -/
theorem readBody_eq (expected_len : Nat) {request : List UInt8} {chunks : List (List UInt8)}
    (hnonempty : ∀ chunk ∈ chunks, chunk ≠ []) :
    (readBody expected_len request (chunks.map .ok) : Except (UiRequestError ε) (List UInt8))
      = .ok (collected expected_len request chunks) := by
  induction chunks generalizing request with
  | nil => rfl
  | cons chunk chunks ih =>
      have hrest := fun other hmem => hnonempty other (List.mem_cons_of_mem chunk hmem)
      cases chunk with
      | nil => exact absurd rfl (hnonempty [] List.mem_cons_self)
      | cons byte bytes =>
          rw [List.map_cons, readBody, collected]
          · by_cases hmore : request.length < expected_len
            · rw [if_pos hmore, if_neg (Nat.not_le.mpr hmore)]
              exact ih hrest
            · rw [if_neg hmore, if_pos (Nat.not_lt.mp hmore)]
          · intro hempty
            cases hempty

/-- The outer loop finds the end of the headers where the stream has it, in a request of whole
chunks that is at least as long as them. -/
theorem readUiHttpRequest_eq (build : Build) {stream request : List UInt8}
    {chunks : List (List UInt8)} {header_end content_length : Nat}
    (hend : position headersEnd stream = some header_end)
    (hlength : uiContentLength (fromUtf8Lossy (stream.take header_end)) = .ok content_length)
    (hnonempty : ∀ chunk ∈ chunks, chunk ≠ []) (hstream : request ++ chunks.flatten = stream)
    (hnone : position headersEnd request = none) :
    (readUiHttpRequest build request (chunks.map .ok) :
      Option (Except (UiRequestError ε) String))
      = (expectedLen build header_end content_length).map fun expected_len =>
          requestText (collected (max (header_end + 4) expected_len) request chunks) := by
  induction chunks generalizing request with
  | nil =>
      rw [List.flatten_nil, List.append_nil] at hstream
      rw [hstream, hend] at hnone
      exact nomatch hnone
  | cons chunk chunks ih =>
      have hrest := fun other hmem => hnonempty other (List.mem_cons_of_mem chunk hmem)
      have hstream' : (request ++ chunk) ++ chunks.flatten = stream := by
        rw [List.append_assoc, ← List.flatten_cons, hstream]
      -- the end of the headers is not in what was read, so a chunk is still needed
      have hshort : request.length < header_end + 4 := by
        rw [← hstream] at hend
        exact length_lt_of_none (by decide) hnone hend
      have hmore : ∀ expected_len, ¬ max (header_end + 4) expected_len ≤ request.length := by
        intro expected_len
        omega
      cases chunk with
      | nil => exact absurd rfl (hnonempty [] List.mem_cons_self)
      | cons byte bytes =>
          rw [List.map_cons, readUiHttpRequest]
          simp only [collected, hmore, if_false]
          cases hposition : position headersEnd (request ++ byte :: bytes) with
          | none => exact ih hrest hstream' hposition
          | some found =>
              -- the end is found here, and it is that of the whole stream
              have hfound : found = header_end := by
                rw [← hstream'] at hend
                exact position_eq_of_append hposition hend
              subst hfound
              have hle : found + 4 ≤ (request ++ byte :: bytes).length := position_le hposition
              have hheaders : (request ++ byte :: bytes).take found = stream.take found := by
                rw [← hstream', List.take_append_of_le_length (Nat.le_of_add_right_le hle)]
              simp only [hheaders, hlength, readBody_eq _ hrest]
              simp only [collected_max hle]
              unfold expectedLen
              cases build.usize (found + 4) with
              | none => rfl
              | some body_start =>
                  simp only [Option.bind_eq_bind, Option.bind_some]
                  cases build.usize (body_start + content_length) <;> rfl

/-- A body length that does not fit stops a debug build, however the stream arrives. -/
theorem overflow_stops_debug {stream : List UInt8} {header_end content_length : Nat}
    (hend : position headersEnd stream = some header_end)
    (hlength : uiContentLength (fromUtf8Lossy (stream.take header_end)) = .ok content_length)
    (hover : u64Max < header_end + 4 + content_length) {chunks : List (List UInt8)}
    (hsplits : Splits 4096 stream chunks) :
    (readUiHttpRequest .debug [] (chunks.map .ok) :
      Option (Except (UiRequestError ε) String)) = none := by
  have hnone : expectedLen .debug header_end content_length = none := by
    rw [expectedLen, Build.usize]
    split
    · exact if_neg (Nat.not_le.mpr hover)
    · rfl
  rw [readUiHttpRequest_eq .debug hend hlength hsplits.nonempty hsplits.flatten_eq rfl, hnone]
  rfl

/-- However the stream is split, the header block and the bytes of the body are read, or the rest
of the stream if it is shorter. -/
structure ReadExactly (stream : List UInt8) (header_end content_length : Nat) : Prop where
  fits : header_end + 4 + content_length ≤ u64Max
  same : ∀ (ε : Type) (build : Build) (chunks : List (List UInt8)), Splits 4096 stream chunks →
    (readUiHttpRequest build [] (chunks.map .ok) : Option (Except (UiRequestError ε) String))
      = some (requestText (stream.take (header_end + 4 + content_length)))

/-- A request is read exactly, whatever the chunks, exactly when its length fits and the stream
ends with it. -/
theorem ui_request_exact_iff {stream : List UInt8} {header_end content_length : Nat}
    (hend : position headersEnd stream = some header_end)
    (hlength : uiContentLength (fromUtf8Lossy (stream.take header_end)) = .ok content_length) :
    ReadExactly stream header_end content_length ↔
      header_end + 4 + content_length ≤ u64Max ∧
        stream.length ≤ header_end + 4 + content_length := by
  have hread : ∀ (ε : Type) (build : Build) (chunks : List (List UInt8)),
      Splits 4096 stream chunks → header_end + 4 + content_length ≤ u64Max →
      (readUiHttpRequest build [] (chunks.map .ok) : Option (Except (UiRequestError ε) String))
        = some (requestText (collected (header_end + 4 + content_length) [] chunks)) := by
    intro ε build chunks hsplits hfits
    rw [readUiHttpRequest_eq build hend hlength hsplits.nonempty hsplits.flatten_eq rfl,
      expectedLen_of_fits hfits, Option.map_some, Nat.max_eq_right (Nat.le_add_right _ _)]
  constructor
  · intro hexact
    refine ⟨hexact.fits, ?_⟩
    by_contra hlong
    have hpos : 0 < header_end + 4 + content_length := by omega
    have hlimit : 2 ≤ 4096 := by decide
    obtain ⟨chunks, hsplits, hoverrun⟩ := exists_overrun hlimit hpos (Nat.not_le.mp hlong)
    have hsame := hexact.same Unit .release chunks hsplits
    rw [hread Unit .release chunks hsplits hexact.fits, hoverrun] at hsame
    have hbytes := congrArg List.length (requestText_inj (Option.some.inj hsame))
    rw [List.length_take, List.length_take] at hbytes
    omega
  · rintro ⟨hfits, hshort⟩
    refine ⟨hfits, ?_⟩
    intro ε build chunks hsplits
    have hall : ([] : List UInt8).length + chunks.flatten.length
        ≤ header_end + 4 + content_length := by
      rw [hsplits.flatten_eq, List.length_nil, Nat.zero_add]
      exact hshort
    rw [hread ε build chunks hsplits hfits, collected_of_short hsplits.nonempty hall,
      List.nil_append, hsplits.flatten_eq, List.take_of_length_le hshort]

theorem ui_request_exact_post :
    ReadExactly "POST / HTTP/1.1\r\ncontent-length: 2\r\n\r\nok".toUTF8.data.toList 34 2 :=
  (ui_request_exact_iff (by rfl) (by rfl)).mpr ⟨by decide, by decide⟩

/-- A byte behind a request without a body is read along when it arrives with the request. -/
theorem pipelined_byte_read :
    ¬ ∀ (stream : List UInt8) (header_end content_length : Nat),
      position headersEnd stream = some header_end →
      uiContentLength (fromUtf8Lossy (stream.take header_end)) = .ok content_length →
      ReadExactly stream header_end content_length := by
  intro hclaim
  let stream := "GET / HTTP/1.1\r\n\r\nX".toUTF8.data.toList
  have hend : position headersEnd stream = some 14 := by rfl
  have hlength : uiContentLength (fromUtf8Lossy (stream.take 14)) = .ok 0 := by rfl
  have hsplits : Splits 4096 stream [stream] := ⟨by decide, by decide, by decide⟩
  have hexact := (hclaim stream 14 0 hend hlength).same Unit .release [stream] hsplits
  rw [readUiHttpRequest_eq .release hend hlength hsplits.nonempty hsplits.flatten_eq rfl] at hexact
  have hbytes := requestText_inj (Option.some.inj hexact)
  exact absurd hbytes (by decide)

end TeamView.Client
