import TeamView.Client.Publishing
import TeamView.Lib.Flows
import TeamView.Lib.Utf16
import TeamView.Relay.RemoteInput

set_option autoImplicit false

/-! # Remote control

The publisher of a screen polls the relay for the input of its viewers (`poll_remote_input` in
`crates/desktop-client/src/main.rs`) and applies it (`crates/desktop-client/src/remote_input.rs`).
The account that the relay keeps of the input (`Relay/RemoteInput.lean`) goes on to the desktop of
the publisher: what is applied is what was accepted, in order, and if the operating system does what
is documented of its inputs (`Documented`), the desktop does what the events say (`Desktop.follow`).
-/

namespace TeamView.Client

open TeamView.Protocol TeamView.Relay MachineInt Runs Flows

/-! ## Native inputs -/

/-- The `MOUSEEVENTF_` flags that the program uses. -/
inductive MouseFlag where
  | move
  | absolute
  | virtualDesk
  | leftDown
  | leftUp
  | rightDown
  | rightUp
  | middleDown
  | middleUp
  | xDown
  | xUp
  | wheel
  | hWheel
  deriving DecidableEq

/-- The `KEYEVENTF_` flags that the program uses. -/
inductive KeyFlag where
  | keyUp
  | unicode
  deriving DecidableEq

/-- An `INPUT` of the operating system. -/
inductive NativeInput where
  | mouse (dx dy : Int) (mouse_data : UInt32) (flags : List MouseFlag)
  | keyboard (virtual_key : Nat) (scan : UInt16) (flags : List KeyFlag)
  deriving DecidableEq

namespace NativeInput

def xButton1 : UInt32 := 1

def xButton2 : UInt32 := 2

def pointerButtonFlags : PointerButton → Bool → MouseFlag × UInt32
  | .left, true => (.leftDown, 0)
  | .left, false => (.leftUp, 0)
  | .right, true => (.rightDown, 0)
  | .right, false => (.rightUp, 0)
  | .middle, true => (.middleDown, 0)
  | .middle, false => (.middleUp, 0)
  | .x1, true => (.xDown, xButton1)
  | .x1, false => (.xUp, xButton1)
  | .x2, true => (.xDown, xButton2)
  | .x2, false => (.xUp, xButton2)

def absoluteMoveInput (normalized_x normalized_y : Nat) : NativeInput :=
  .mouse normalized_x normalized_y 0 [.move, .absolute, .virtualDesk]

def pointerButtonInput (button : PointerButton) (pressed : Bool) : NativeInput :=
  let (flags, mouse_data) := pointerButtonFlags button pressed
  .mouse 0 0 mouse_data [flags]

/-- A turn of a wheel, unless it is none. -/
def wheelInput (delta : Int) (flag : MouseFlag) : List NativeInput :=
  if delta ≠ 0 then [.mouse 0 0 (Int32.ofInt delta).toUInt32 [flag]] else []

def keyboardInput (key_code : Nat) (pressed : Bool) : NativeInput :=
  .keyboard key_code 0 (if pressed then [] else [.keyUp])

def unicodeInput (code_unit : UInt16) (pressed : Bool) : NativeInput :=
  .keyboard 0 code_unit (if pressed then [.unicode] else [.unicode, .keyUp])

def inputsForKind : RemoteInputKind → Except String (List NativeInput)
  | .pointerMove normalized_x normalized_y => .ok [absoluteMoveInput normalized_x normalized_y]
  | .pointerButton button pressed normalized_x normalized_y =>
      .ok [absoluteMoveInput normalized_x normalized_y, pointerButtonInput button pressed]
  | .pointerWheel delta_x delta_y normalized_x normalized_y =>
      .ok ([absoluteMoveInput normalized_x normalized_y] ++ wheelInput delta_y .wheel ++
        wheelInput delta_x .hWheel)
  | .key key_code pressed =>
      if key_code = 0 then .error "remote input key_code must be non-zero"
      else .ok [keyboardInput key_code pressed]
  | .text text =>
      .ok ((Utf16.encode text.toList).flatMap fun code_unit =>
        [unicodeInput code_unit true, unicodeInput code_unit false])

end NativeInput

/-! ## The desktop -/

/-- What a desktop shows of its input devices. -/
structure Desktop where
  pointer : Int × Int
  /-- the buttons that are held -/
  buttons : PointerButton → Bool
  wheel : Int × Int
  /-- the keys that are held -/
  keys : Nat → Bool
  typed : Utf16.Reader

namespace Desktop

def hold (desktop : Desktop) (button : PointerButton) (pressed : Bool) : Desktop :=
  { desktop with buttons := Function.update desktop.buttons button pressed }

/-- A number of clicks as a wheel reports it. -/
def clicks (delta : Int) : Int := (Int32.ofInt delta).toInt

def turn (desktop : Desktop) (delta_x delta_y : Int) : Desktop :=
  { desktop with wheel := (desktop.wheel.1 + delta_x, desktop.wheel.2 + delta_y) }

/-- What an event of a viewer means. -/
def follow (desktop : Desktop) : RemoteInputKind → Desktop
  | .pointerMove x y => { desktop with pointer := (x, y) }
  | .pointerButton button pressed x y =>
      { desktop with pointer := (x, y) }.hold button pressed
  | .pointerWheel delta_x delta_y x y =>
      { desktop with pointer := (x, y) }.turn (clicks delta_x) (clicks delta_y)
  | .key key_code pressed =>
      { desktop with keys := Function.update desktop.keys key_code pressed }
  | .text text => { desktop with typed := .having (desktop.typed.text ++ text.toList) }

/-- Between two events no character is half typed. -/
def Settled (desktop : Desktop) : Prop := desktop.typed = .having desktop.typed.text

end Desktop

/-! ## The operating system -/

/-- What the operating system promises of the inputs that the program makes: `take` is what an input
does to it, and `view` what it then shows. A coordinate is at most 65535, and a key has a code from
1 to 254. -/
structure Documented {δ : Type} (take : δ → NativeInput → δ) (view : δ → Desktop) : Prop where
  move : ∀ d (x y : Nat), x ≤ 65535 → y ≤ 65535 →
    view (take d (.mouse x y 0 [.move, .absolute, .virtualDesk]))
      = { view d with pointer := (x, y) }
  left_down : ∀ d, view (take d (.mouse 0 0 0 [.leftDown])) = (view d).hold .left true
  left_up : ∀ d, view (take d (.mouse 0 0 0 [.leftUp])) = (view d).hold .left false
  right_down : ∀ d, view (take d (.mouse 0 0 0 [.rightDown])) = (view d).hold .right true
  right_up : ∀ d, view (take d (.mouse 0 0 0 [.rightUp])) = (view d).hold .right false
  middle_down : ∀ d, view (take d (.mouse 0 0 0 [.middleDown])) = (view d).hold .middle true
  middle_up : ∀ d, view (take d (.mouse 0 0 0 [.middleUp])) = (view d).hold .middle false
  x1_down : ∀ d, view (take d (.mouse 0 0 1 [.xDown])) = (view d).hold .x1 true
  x1_up : ∀ d, view (take d (.mouse 0 0 1 [.xUp])) = (view d).hold .x1 false
  x2_down : ∀ d, view (take d (.mouse 0 0 2 [.xDown])) = (view d).hold .x2 true
  x2_up : ∀ d, view (take d (.mouse 0 0 2 [.xUp])) = (view d).hold .x2 false
  wheel : ∀ d data, view (take d (.mouse 0 0 data [.wheel])) = (view d).turn 0 data.toInt32.toInt
  h_wheel : ∀ d data,
    view (take d (.mouse 0 0 data [.hWheel])) = (view d).turn data.toInt32.toInt 0
  key_down : ∀ d key, 1 ≤ key → key ≤ 254 → view (take d (.keyboard key 0 []))
    = { view d with keys := Function.update (view d).keys key true }
  key_up : ∀ d key, 1 ≤ key → key ≤ 254 → view (take d (.keyboard key 0 [.keyUp]))
    = { view d with keys := Function.update (view d).keys key false }
  unit_down : ∀ d unit, view (take d (.keyboard 0 unit [.unicode]))
    = { view d with typed := (view d).typed.read unit }
  unit_up : ∀ d unit, view (take d (.keyboard 0 unit [.unicode, .keyUp])) = view d

/-- The coordinates are 16 bits wide, as on the wire, and a key is one of the operating system's. -/
def Known : RemoteInputKind → Prop
  | .pointerMove x y => x ≤ 65535 ∧ y ≤ 65535
  | .pointerButton _ _ x y => x ≤ 65535 ∧ y ≤ 65535
  | .pointerWheel _ _ x y => x ≤ 65535 ∧ y ≤ 65535
  | .key key_code _ => key_code ≤ 254
  | .text _ => True

/-! ## The inputs of an event do what it means -/

namespace Desktop

variable {desktop : Desktop}

theorem turn_zero (desktop : Desktop) : desktop.turn 0 0 = desktop := by
  unfold turn
  rw [Int.add_zero, Int.add_zero]

theorem turn_turn (a b c d : Int) :
    (desktop.turn a b).turn c d = desktop.turn (a + c) (b + d) := by
  unfold turn
  dsimp only
  rw [Int.add_assoc, Int.add_assoc]

theorem clicks_zero : clicks 0 = 0 := rfl

theorem clicks_data (delta : Int) :
    (Int32.ofInt delta).toUInt32.toInt32.toInt = clicks delta := rfl

theorem Settled.follow (h : desktop.Settled) (kind : RemoteInputKind) :
    (desktop.follow kind).Settled := by
  cases kind with
  | text text => rfl
  | _ => exact h

end Desktop

namespace Documented

open NativeInput Desktop

variable {δ : Type} {take : δ → NativeInput → δ} {view : δ → Desktop} (h : Documented take view)
  (d : δ)

include h

theorem absoluteMove {x y : Nat} (hknown : x ≤ 65535 ∧ y ≤ 65535) :
    view (take d (absoluteMoveInput x y)) = { view d with pointer := (x, y) } :=
  h.move d x y hknown.1 hknown.2

theorem pointerButton (button : PointerButton) (pressed : Bool) :
    view (take d (pointerButtonInput button pressed)) = (view d).hold button pressed := by
  cases button with
  | left => cases pressed with
    | true => exact h.left_down d
    | false => exact h.left_up d
  | right => cases pressed with
    | true => exact h.right_down d
    | false => exact h.right_up d
  | middle => cases pressed with
    | true => exact h.middle_down d
    | false => exact h.middle_up d
  | x1 => cases pressed with
    | true => exact h.x1_down d
    | false => exact h.x1_up d
  | x2 => cases pressed with
    | true => exact h.x2_down d
    | false => exact h.x2_up d

/-- A turn of no clicks is left out. -/
theorem wheelTurn (delta : Int) :
    view ((wheelInput delta .wheel).foldl take d) = (view d).turn 0 (clicks delta) := by
  unfold wheelInput
  split
  · rw [List.foldl_cons, List.foldl_nil, h.wheel, clicks_data]
  · next hzero =>
      rw [not_not.mp hzero, clicks_zero, turn_zero]
      rfl

theorem hWheelTurn (delta : Int) :
    view ((wheelInput delta .hWheel).foldl take d) = (view d).turn (clicks delta) 0 := by
  unfold wheelInput
  split
  · rw [List.foldl_cons, List.foldl_nil, h.h_wheel, clicks_data]
  · next hzero =>
      rw [not_not.mp hzero, clicks_zero, turn_zero]
      rfl

theorem keyboard {key_code : Nat} (hpositive : key_code ≠ 0) (hknown : key_code ≤ 254)
    (pressed : Bool) :
    view (take d (keyboardInput key_code pressed))
      = { view d with keys := Function.update (view d).keys key_code pressed } := by
  have hfirst : 1 ≤ key_code := Nat.pos_of_ne_zero hpositive
  cases pressed with
  | true => exact h.key_down d key_code hfirst hknown
  | false => exact h.key_up d key_code hfirst hknown

/-- Units are typed by pressing and releasing each. -/
theorem units (units : List UInt16) :
    view ((units.flatMap fun unit => [unicodeInput unit true, unicodeInput unit false]).foldl
        take d)
      = { view d with typed := units.foldl Utf16.Reader.read (view d).typed } := by
  induction units generalizing d with
  | nil => rfl
  | cons unit units ih =>
      have hdown : view (take d (unicodeInput unit true))
          = { view d with typed := (view d).typed.read unit } := h.unit_down d unit
      have hup : view (take (take d (unicodeInput unit true)) (unicodeInput unit false))
          = view (take d (unicodeInput unit true)) := h.unit_up _ unit
      rw [List.flatMap_cons, List.foldl_append, ih]
      show _ = { view d with typed := units.foldl Utf16.Reader.read ((view d).typed.read unit) }
      rw [List.foldl_cons, List.foldl_cons, List.foldl_nil, hup, hdown]

/-- The inputs of an event do what it means. -/
theorem inputs (hsettled : (view d).Settled) {kind : RemoteInputKind} (hknown : Known kind)
    {inputs : List NativeInput} (hinputs : inputsForKind kind = .ok inputs) :
    view (inputs.foldl take d) = (view d).follow kind := by
  cases kind with
  | pointerMove x y =>
      obtain rfl := Except.ok.inj hinputs
      exact h.absoluteMove d hknown
  | pointerButton button pressed x y =>
      obtain rfl := Except.ok.inj hinputs
      show view (take (take d (absoluteMoveInput x y)) (pointerButtonInput button pressed)) = _
      rw [h.pointerButton, h.absoluteMove d hknown]
      rfl
  | pointerWheel delta_x delta_y x y =>
      obtain rfl := Except.ok.inj hinputs
      rw [List.foldl_append, List.foldl_append, h.hWheelTurn, h.wheelTurn, turn_turn, Int.zero_add,
        Int.add_zero, List.foldl_cons, List.foldl_nil, h.absoluteMove d hknown]
      rfl
  | key key_code pressed =>
      rw [inputsForKind] at hinputs
      split at hinputs
      · cases hinputs
      · next hpositive =>
          obtain rfl := Except.ok.inj hinputs
          exact h.keyboard d hpositive hknown pressed
  | text text =>
      obtain rfl := Except.ok.inj hinputs
      rw [h.units, hsettled, Utf16.read_encode]
      rfl

end Documented

/-! ## The applier -/

inductive RemoteInputOutputArg where
  | log
  | native
  deriving DecidableEq

/-- How many of the inputs the operating system takes, from the first one on. -/
abbrev SendInput : Type := List NativeInput → UInt32

/-- The operating system takes no more inputs than it is given. -/
def Counts (send_input : SendInput) : Prop :=
  ∀ inputs, (send_input inputs).toNat ≤ inputs.length

/-- The appliers of the program differ in whether the operating system gets the inputs. -/
structure RemoteInputApplier where
  output : RemoteInputOutputArg
  applied_events : Nat
  /-- the events that have been applied -/
  applied : List RemoteInputEvent
  /-- what the operating system has taken -/
  injected : List NativeInput

abbrev ApplierFlow (α : Type) : Type := Flow RemoteInputApplier String α

namespace RemoteInputApplier

def new (output : RemoteInputOutputArg) (is_windows : Bool) : Except String RemoteInputApplier :=
  if output = .native ∧ is_windows = false then .error "failed to create native input applier"
  else .ok ⟨output, 0, [], []⟩

def sendInputs (send_input : SendInput) (inputs : List NativeInput) : ApplierFlow Unit := do
  if inputs.isEmpty then return ()
  else
    let sent := send_input inputs
    modify fun applier =>
      { applier with injected := applier.injected ++ inputs.take sent.toNat }
    if sent ≠ UInt32.ofNat inputs.length then
      throw s!"SendInput injected {sent}/{inputs.length} input events"

def sendNativeInput (send_input : SendInput) (kind : RemoteInputKind) : ApplierFlow Unit := do
  let inputs ← liftExcept (NativeInput.inputsForKind kind)
  sendInputs send_input inputs

def countApplied (applier : RemoteInputApplier) (event : RemoteInputEvent) : RemoteInputApplier :=
  { applier with
    applied_events := satAdd u64Max applier.applied_events 1
    applied := applier.applied ++ [event] }

def apply (send_input : SendInput) (event : RemoteInputEvent) : ApplierFlow Unit := do
  let applier ← get
  if applier.output = .native then sendNativeInput send_input event.kind
  modify (countApplied · event)

/-- The events of a batch, until one fails. -/
def applyAll (send_input : SendInput) : List RemoteInputEvent → ApplierFlow Unit
  | [] => return ()
  | event :: events => do
      apply send_input event
      applyAll send_input events

end RemoteInputApplier

/-! ## The polls of the publisher -/

/-- A publisher that polls for the input to its stream, with the relay at the other end of its
connection. -/
structure RemoteDesk where
  link : ControlLink
  applier : RemoteInputApplier
  /-- what the relay has handled -/
  handled : List ControlEvent

/-- What the relay handles before a poll, and how the operating system takes the inputs of its
events. -/
structure PollTurn where
  meanwhile : List ControlEvent
  send_input : SendInput

abbrev DeskFlow (α : Type) : Type := Flow RemoteDesk String α

/-- The request that `ControlLink.send` makes of a message. -/
def ControlLink.envelope (link : ControlLink) (message : ClientControl) : ControlEvent :=
  .envelope link.session link.clock (.new link.next_request_id message)

namespace RemoteDesk

variable (room_id : RoomId) (stream_id : StreamId)

def pollRequest : ClientControl := .pollRemoteInput ⟨room_id, stream_id, 64⟩

/-- A flow over the applier. -/
def onApplier {α : Type} (x : ApplierFlow α) : DeskFlow α :=
  within RemoteDesk.applier (fun desk applier => { desk with applier }) x

def handle (events : List ControlEvent) (desk : RemoteDesk) : RemoteDesk :=
  { desk with
    link := { desk.link with system := run ControlSystem.step desk.link.system events }
    handled := desk.handled ++ events }

/-- The poll has been answered. -/
def polled (desk : RemoteDesk) : RemoteDesk :=
  { desk with
    link := (desk.link.send (pollRequest room_id stream_id)).1
    handled := desk.handled ++ [desk.link.envelope (pollRequest room_id stream_id)] }

def pollRemoteInput (send_input : SendInput) : DeskFlow Unit := do
  let desk ← get
  set (desk.polled room_id stream_id)
  match (desk.link.send (pollRequest room_id stream_id)).2 with
  | .remoteInputBatch batch => onApplier (RemoteInputApplier.applyAll send_input batch.events)
  | .error error => throw s!"poll remote input failed: {error.message}"
  | _ => throw "unexpected remote input poll response"

def takeTurn (turn : PollTurn) : DeskFlow Unit := do
  modify (handle turn.meanwhile)
  pollRemoteInput room_id stream_id turn.send_input

/-- The polls of the publisher, until one fails. -/
def takeTurns : List PollTurn → DeskFlow Unit
  | [] => return ()
  | turn :: turns => do
      takeTurn room_id stream_id turn
      takeTurns turns

end RemoteDesk

/-! ## What has been applied -/

namespace RemoteInputApplier

open NativeInput

variable {mode : RemoteInputOutputArg} {done : List RemoteInputEvent}
  {send_input : SendInput} {event : RemoteInputEvent}

/-- What the operating system has taken when it has taken all of the inputs of the event. -/
def Injects (event : RemoteInputEvent) (inputs : List NativeInput) : Prop :=
  ∃ all, inputsForKind event.kind = .ok all ∧
    inputs = all.take (UInt32.ofNat all.length).toNat

/-- It has begun with the inputs of the event, and has not taken them all. Of an event that has none
to send it has taken nothing. -/
def Begins (event : RemoteInputEvent) (inputs : List NativeInput) : Prop :=
  match inputsForKind event.kind with
  | .error _ => inputs = []
  | .ok all => inputs <+: all ∧ inputs ≠ all

/-- The events have been applied, and a part of another one. -/
structure Holds (mode : RemoteInputOutputArg) (done : List RemoteInputEvent)
    (part : List NativeInput) (applier : RemoteInputApplier) : Prop where
  output : applier.output = mode
  applied : applier.applied = done
  counted : applier.applied_events = min done.length u64Max
  injected : mode = .native → ∃ whole, List.Forall₂ Injects done whole ∧
    applier.injected = whole.flatten ++ part

theorem holds_new {is_windows : Bool} {applier : RemoteInputApplier}
    (h : new mode is_windows = .ok applier) : Holds mode [] [] applier := by
  unfold new at h
  split at h
  · cases h
  · obtain rfl := Except.ok.inj h
    exact ⟨rfl, rfl, rfl, fun _ => ⟨[], .nil, rfl⟩⟩

theorem Holds.self {part : List NativeInput} {applier : RemoteInputApplier}
    (h : Holds mode done part applier) : Holds mode applier.applied part applier := by
  rw [h.applied]
  exact h

theorem Holds.count {part : List NativeInput} {applier : RemoteInputApplier}
    (h : Holds mode done part applier)
    (hpart : mode = .native → Injects event part) :
    Holds mode (done ++ [event]) [] (applier.countApplied event) := by
  refine ⟨h.output, congrArg (· ++ [event]) h.applied, ?_, fun hnative => ?_⟩
  · show satAdd u64Max applier.applied_events 1 = _
    rw [h.counted, List.length_append, List.length_singleton, satAdd]
    omega
  · obtain ⟨whole, hwhole, hinjected⟩ := h.injected hnative
    refine ⟨whole ++ [part], List.rel_append hwhole (.cons (hpart hnative) .nil), ?_⟩
    show applier.injected = _
    rw [hinjected, List.flatten_append, List.append_nil, List.flatten_singleton]

theorem Holds.inject {applier : RemoteInputApplier} (h : Holds mode done [] applier)
    (part : List NativeInput) :
    Holds mode done part { applier with injected := applier.injected ++ part } := by
  refine ⟨h.output, h.applied, h.counted, fun hnative => ?_⟩
  obtain ⟨whole, hwhole, hinjected⟩ := h.injected hnative
  refine ⟨whole, hwhole, ?_⟩
  show applier.injected ++ part = _
  rw [hinjected, List.append_nil]

theorem begins_of_ne {inputs : List NativeInput} (hcounts : Counts send_input)
    (hinputs : inputsForKind event.kind = .ok inputs)
    (hless : send_input inputs ≠ UInt32.ofNat inputs.length) :
    Begins event (inputs.take (send_input inputs).toNat) := by
  unfold Begins
  rw [hinputs]
  refine ⟨List.take_prefix _ _, fun hwhole => hless ?_⟩
  have hlength : inputs.length ≤ (send_input inputs).toNat := List.take_eq_self_iff _ |>.mp hwhole
  have hsame : (send_input inputs).toNat = inputs.length :=
    Nat.le_antisymm (hcounts inputs) hlength
  rw [← hsame, UInt32.ofNat_toNat]

theorem sendNativeInput_triple (hcounts : Counts send_input) :
    Triple (Holds mode done []) (sendNativeInput send_input event.kind)
      (fun _ applier => ∃ part, Holds mode done part applier ∧ Injects event part)
      (fun _ applier => ∃ part, Holds mode done part applier ∧ Begins event part) := by
  unfold sendNativeInput
  cases hinputs : inputsForKind event.kind with
  | error error =>
      refine fun applier h => ⟨[], h, ?_⟩
      unfold Begins
      rw [hinputs]
  | ok inputs =>
      rintro applier h
      rw [exec_bind_ok (by rw [exec_liftExcept])]
      unfold sendInputs
      by_cases hempty : inputs.isEmpty = true
      · rw [if_pos hempty]
        obtain rfl := List.isEmpty_iff.mp hempty
        exact ⟨[], h, [], hinputs, rfl⟩
      · rw [if_neg hempty]
        dsimp only
        rw [exec_bind_ok (exec_modify _ _)]
        by_cases hall : send_input inputs ≠ UInt32.ofNat inputs.length
        · rw [if_pos hall]
          exact ⟨_, h.inject _, begins_of_ne hcounts hinputs hall⟩
        · rw [if_neg hall]
          refine ⟨_, h.inject _, inputs, hinputs, ?_⟩
          rw [not_not.mp hall]

theorem apply_triple (hcounts : Counts send_input) :
    Triple (Holds mode done []) (apply send_input event)
      (fun _ => Holds mode (done ++ [event]) [])
      (fun _ applier => ∃ part, Holds mode done part applier ∧ Begins event part) := by
  unfold apply
  refine Triple.get_bind fun applier h => ?_
  split
  · have hsent : Triple (Holds mode done [])
        (do sendNativeInput send_input event.kind; modify (countApplied · event))
        (fun _ => Holds mode (done ++ [event]) [])
        (fun _ applier => ∃ part, Holds mode done part applier ∧ Begins event part) := by
      refine Triple.bind (sendNativeInput_triple hcounts) fun _ => Triple.modify fun _ hsent => ?_
      obtain ⟨part, hpart, hinjects⟩ := hsent
      exact hpart.count fun _ => hinjects
    rintro _ rfl
    exact hsent applier h
  · next hlog =>
      rintro _ rfl
      exact h.count fun hnative => absurd (h.output.trans hnative) hlog

/-- A batch is applied, or begun with. -/
theorem applyAll_triple (hcounts : Counts send_input) (events : List RemoteInputEvent) :
    Triple (Holds mode done []) (applyAll send_input events)
      (fun _ => Holds mode (done ++ events) [])
      (fun _ applier => ∃ before event after part, events = before ++ event :: after ∧
        Holds mode (done ++ before) part applier ∧ Begins event part) := by
  induction events generalizing done with
  | nil =>
      intro applier h
      exact (List.append_nil done).symm ▸ h
  | cons event events ih =>
      unfold applyAll
      have hfirst : Triple (Holds mode done []) (apply send_input event)
          (fun _ => Holds mode (done ++ [event]) [])
          (fun _ applier => ∃ before event' after part,
            event :: events = before ++ event' :: after ∧
              Holds mode (done ++ before) part applier ∧ Begins event' part) := by
        refine (apply_triple hcounts).consequence (fun _ h => h) (fun _ _ h => h) ?_
        rintro _ applier ⟨part, hpart, hbegins⟩
        exact ⟨[], event, events, part, rfl, (List.append_nil done).symm ▸ hpart, hbegins⟩
      refine Triple.bind hfirst fun _ => ih.consequence (fun _ h => h) ?_ ?_
      · intro _ applier h
        exact List.append_cons done event events ▸ h
      · rintro _ applier ⟨before, event', after, part, rfl, hpart, hbegins⟩
        refine ⟨event :: before, event', after, part, rfl, ?_, hbegins⟩
        exact List.append_cons done event before ▸ hpart

/-! ### The events on the desktop -/

/-- The inputs of an event that the relay lets through fit into one call. -/
theorem length_inputs_lt {kind : RemoteInputKind} (hclean : CleanKind kind)
    {inputs : List NativeInput} (h : inputsForKind kind = .ok inputs) : inputs.length < 2 ^ 32 := by
  have hwheel (delta : Int) (flag : MouseFlag) : (wheelInput delta flag).length ≤ 1 := by
    unfold wheelInput
    split <;> simp
  cases kind with
  | pointerMove x y =>
      cases h
      exact Nat.lt_of_le_of_lt (Nat.le_refl 1) (by decide)
  | pointerButton button pressed x y =>
      cases h
      exact Nat.lt_of_le_of_lt (Nat.le_refl 2) (by decide)
  | pointerWheel delta_x delta_y x y =>
      cases h
      have hfirst := hwheel delta_y .wheel
      have hsecond := hwheel delta_x .hWheel
      rw [List.length_append, List.length_append, List.length_singleton]
      omega
  | key key_code pressed =>
      rw [inputsForKind] at h
      split at h
      · cases h
      · cases h
        exact Nat.lt_of_le_of_lt (Nat.le_refl 1) (by decide)
  | text text =>
      cases h
      have hunits := Utf16.length_encode_le text.toList
      have htext : text.toList.length ≤ 256 := hclean.2.1
      rw [List.length_flatMap]
      simp only [List.length_cons, List.length_nil, List.map_const', List.sum_replicate,
        smul_eq_mul]
      omega

theorem Injects.all {inputs : List NativeInput} (h : Injects event inputs)
    (hclean : CleanKind event.kind) : inputsForKind event.kind = .ok inputs := by
  obtain ⟨all, hall, rfl⟩ := h
  have hlength := length_inputs_lt hclean hall
  rw [hall, UInt32.toNat_ofNat', Nat.mod_eq_of_lt hlength, List.take_length]

theorem injects_all {whole : List (List NativeInput)} (h : List.Forall₂ Injects done whole)
    (hclean : ∀ event ∈ done, CleanKind event.kind) :
    List.Forall₂ (fun event inputs => inputsForKind event.kind = .ok inputs) done whole := by
  induction h with
  | nil => exact .nil
  | @cons event inputs done whole hinjects _ ih =>
      rw [List.forall_mem_cons] at hclean
      exact .cons (hinjects.all hclean.1) (ih hclean.2)

/-- The operating system does what the events mean. -/
theorem view_whole {δ : Type} {take : δ → NativeInput → δ} {view : δ → Desktop}
    (hdocumented : Documented take view) {whole : List (List NativeInput)}
    (h : List.Forall₂ (fun event inputs => inputsForKind event.kind = .ok inputs) done whole)
    (hknown : ∀ event ∈ done, Known event.kind) {d : δ} (hsettled : (view d).Settled) :
    view (whole.flatten.foldl take d)
      = (done.map RemoteInputEvent.kind).foldl Desktop.follow (view d) := by
  induction h generalizing d with
  | nil => rfl
  | @cons event inputs done whole hinputs _ ih =>
      rw [List.forall_mem_cons] at hknown
      have hfirst := hdocumented.inputs d hsettled hknown.1 hinputs
      rw [List.flatten_cons, List.foldl_append, List.map_cons, List.foldl_cons, ← hfirst]
      refine ih hknown.2 ?_
      rw [hfirst]
      exact hsettled.follow event.kind

end RemoteInputApplier

/-! ## The account of the input, up to the desktop -/

namespace RemoteDesk

open DropQueue ControlSystem RemoteInputApplier

variable {room_id : RoomId} {s : StreamId} {start : ControlSystem} {mode : RemoteInputOutputArg}
  {desk after : RemoteDesk} {turn : PollTurn}

theorem inputTrace_append (system : ControlSystem) (events more : List ControlEvent) :
    inputTrace s system (events ++ more)
      = inputTrace s system events ++ inputTrace s (run step system events) more := by
  induction events generalizing system with
  | nil => rfl
  | cons event events ih => exact congrArg (_ :: ·) (ih (system.step event))

/-- The event takes no input out of the queue of `s`. -/
def Unpolled (s : StreamId) (system : ControlSystem) (event : ControlEvent) : Prop :=
  (inputShown s system event).takenEntries = []

instance (s : StreamId) (system : ControlSystem) (event : ControlEvent) :
    Decidable (Unpolled s system event) :=
  inferInstanceAs (Decidable ((inputShown s system event).takenEntries = []))

theorem takenAll_of_unpolled {system : ControlSystem} {events : List ControlEvent}
    (h : Meets step (Unpolled s) system events) : takenAll (inputTrace s system events) = [] := by
  induction events generalizing system with
  | nil => rfl
  | cons event events ih =>
      have hfirst : (inputShown s system event).takenEntries = [] := h.1
      show (inputShown s system event).takenEntries ++ takenAll (inputTrace s _ events) = []
      rw [hfirst, ih h.2]
      rfl

/-- A poll that is answered with a batch has taken it. -/
theorem taken_of_poll {link : ControlLink} {batch : RemoteInputBatch}
    (h : (link.send (pollRequest room_id s)).2 = .remoteInputBatch batch) :
    inputShown s link.system (link.envelope (pollRequest room_id s)) = .taken batch.events := by
  have hbatch := answer_of_reply h nofun
  have hhandler : (link.system.control.pollRemoteInput (link.system.sessions link.session)
      ⟨room_id, s, 64⟩).2 = .remoteInputBatch batch := hbatch
  have hstream : batch.stream_id = s := by
    rcases ControlState.pollRemoteInput_cases link.system.control
      (link.system.sessions link.session) ⟨room_id, s, 64⟩ with ⟨error, heq⟩ | ⟨-, heq⟩
    · rw [heq] at hhandler
      cases hhandler
    · rw [heq] at hhandler
      cases hhandler
      rfl
  have hanswer : (link.system.reply link.session link.clock
      (.new link.next_request_id (pollRequest room_id s))).response.message
        = .remoteInputBatch batch := h
  show shownBy s _ _ (pollRequest room_id s) _ = _
  rw [hanswer]
  exact if_pos hstream

/-- Any other answer takes nothing. -/
theorem unpolled_of_poll {link : ControlLink}
    (h : ∀ batch, (link.send (pollRequest room_id s)).2 ≠ .remoteInputBatch batch) :
    Unpolled s link.system (link.envelope (pollRequest room_id s)) := by
  unfold Unpolled
  cases hshown : inputShown s link.system (link.envelope (pollRequest room_id s)) with
  | taken events =>
      obtain ⟨poll, batch, -, hanswer, -⟩ := shownBy_eq_taken hshown
      exact absurd hanswer (h batch)
  | pushed input dropped => rfl
  | idle => rfl

/-- What the polls have taken has been applied, but for the events `lost` after a failure. -/
structure Accounts (s : StreamId) (start : ControlSystem) (mode : RemoteInputOutputArg)
    (lost : List RemoteInputEvent) (desk : RemoteDesk) : Prop where
  system : desk.link.system = run step start desk.handled
  taken : takenAll (inputTrace s start desk.handled) = desk.applier.applied ++ lost
  applier : ∃ part, Holds mode desk.applier.applied part desk.applier ∧ (lost = [] → part = []) ∧
    ∀ event rest, lost = event :: rest → Begins event part

/-- More is handled, and the applier stays as it is. -/
theorem Accounts.more (h : Accounts s start mode [] desk) {events : List ControlEvent}
    {link : ControlLink} (hsystem : link.system = run step desk.link.system events)
    (hnone : takenAll (inputTrace s desk.link.system events) = []) :
    Accounts s start mode [] { desk with link, handled := desk.handled ++ events } := by
  refine ⟨?_, ?_, h.applier⟩
  · show link.system = run step start (desk.handled ++ events)
    rw [hsystem, h.system, run_append]
  · show takenAll (inputTrace s start (desk.handled ++ events)) = _
    rw [inputTrace_append, ← h.system, takenAll, List.flatMap_append, ← takenAll, ← takenAll,
      h.taken, hnone, List.append_nil]

/-- A batch has been taken, and applied until an event failed. -/
theorem Accounts.applied (h : Accounts s start mode [] desk) {batch : RemoteInputBatch}
    (hanswer : (desk.link.send (pollRequest room_id s)).2 = .remoteInputBatch batch)
    {before lost : List RemoteInputEvent} (hbatch : batch.events = before ++ lost)
    {part : List NativeInput} {applier : RemoteInputApplier}
    (happlier : Holds mode (desk.applier.applied ++ before) part applier)
    (hpart : lost = [] → part = [])
    (hlost : ∀ event rest, lost = event :: rest → Begins event part) :
    Accounts s start mode lost { desk.polled room_id s with applier } := by
  refine ⟨?_, ?_, part, happlier.self, hpart, hlost⟩
  · show _ = run step start (desk.handled ++ [_])
    rw [run_append, ← h.system]
    rfl
  · have hpoll : takenAll (inputTrace s desk.link.system
        [desk.link.envelope (pollRequest room_id s)]) = batch.events := by
      show Shown.takenEntries _ ++ [] = _
      rw [taken_of_poll hanswer, List.append_nil]
      rfl
    show takenAll (inputTrace s start (desk.handled ++ [_])) = applier.applied ++ lost
    rw [inputTrace_append, ← h.system, takenAll, List.flatMap_append, ← takenAll, ← takenAll,
      h.taken, hpoll, hbatch, happlier.applied, List.append_nil, List.append_assoc]

theorem pollRemoteInput_triple {send_input : SendInput} (hcounts : Counts send_input) :
    Triple (Accounts s start mode []) (pollRemoteInput room_id s send_input)
      (fun _ => Accounts s start mode [])
      (fun _ desk => ∃ lost, Accounts s start mode lost desk) := by
  unfold pollRemoteInput
  refine Triple.get_bind fun desk hdesk => ?_
  rintro _ rfl
  rw [exec_bind_ok (exec_set _ _)]
  have hrefused (hnot : ∀ batch,
      (desk.link.send (pollRequest room_id s)).2 ≠ .remoteInputBatch batch) :
      Accounts s start mode [] (desk.polled room_id s) :=
    hdesk.more rfl (takenAll_of_unpolled ⟨unpolled_of_poll hnot, True.intro⟩)
  cases hanswer : (desk.link.send (pollRequest room_id s)).2 with
  | remoteInputBatch batch =>
      obtain ⟨part, hholds, hpart, -⟩ := hdesk.applier
      obtain rfl := hpart rfl
      have happly := applyAll_triple hcounts batch.events desk.applier hholds
      dsimp only
      rw [onApplier, exec_within]
      have happlier : (desk.polled room_id s).applier = desk.applier := rfl
      rw [happlier]
      rcases hexec : exec (applyAll send_input batch.events) desk.applier with ⟨outcome, applier⟩
      rw [hexec] at happly
      cases outcome with
      | ok _ =>
          exact hdesk.applied hanswer (List.append_nil _).symm happly (fun _ => rfl)
            (fun _ _ h => by cases h)
      | error error =>
          obtain ⟨before, event, rest, part, hbatch, happlier, hbegins⟩ := happly
          refine ⟨event :: rest, hdesk.applied hanswer hbatch happlier (fun h => by cases h) ?_⟩
          rintro _ _ ⟨⟩
          exact hbegins
  | _ => exact ⟨[], hrefused fun batch h => by rw [hanswer] at h; cases h⟩

variable (room_id) in
theorem takeTurn_triple {turn : PollTurn} (hcounts : Counts turn.send_input) :
    Triple (fun desk => Accounts s start mode [] desk ∧
        Meets step (Unpolled s) desk.link.system turn.meanwhile)
      (takeTurn room_id s turn) (fun _ => Accounts s start mode [])
      (fun _ desk => ∃ lost, Accounts s start mode lost desk) := by
  unfold takeTurn
  refine Triple.bind (Triple.modify fun desk hdesk => ?_)
    fun _ => pollRemoteInput_triple hcounts
  exact hdesk.1.more rfl (takenAll_of_unpolled hdesk.2)

/-- The state after a turn. -/
def deskStep (room_id : RoomId) (s : StreamId) (desk : RemoteDesk) (turn : PollTurn) : RemoteDesk :=
  (exec (takeTurn room_id s turn) desk).2

/-- Nobody else takes the input of the stream before the poll. -/
def Calm (s : StreamId) (desk : RemoteDesk) (turn : PollTurn) : Prop :=
  Meets step (Unpolled s) desk.link.system turn.meanwhile

theorem accounts_of_exec (hdesk : Accounts s start mode [] desk) {turns : List PollTurn}
    (hcounts : ∀ turn ∈ turns, Counts turn.send_input)
    (hcalm : Meets (deskStep room_id s) (Calm s) desk turns) {outcome : Except String Unit}
    (hrun : exec (takeTurns room_id s turns) desk = (outcome, after)) :
    ∃ lost, Accounts s start mode lost after ∧ (outcome = .ok () → lost = []) := by
  induction turns generalizing desk with
  | nil =>
      cases hrun
      exact ⟨[], hdesk, fun _ => rfl⟩
  | cons turn turns ih =>
      rw [List.forall_mem_cons] at hcounts
      have hturn := takeTurn_triple room_id hcounts.1 desk ⟨hdesk, hcalm.1⟩
      unfold takeTurns at hrun
      rw [exec_bind] at hrun
      rcases hfirst : exec (takeTurn room_id s turn) desk with ⟨first, next⟩
      rw [hfirst] at hturn hrun
      cases first with
      | ok _ =>
          have hnext : deskStep room_id s desk turn = next := congrArg Prod.snd hfirst
          exact ih hturn hcounts.2 (hnext ▸ hcalm.2) hrun
      | error error =>
          obtain ⟨lost, hlost⟩ := hturn
          cases hrun
          exact ⟨lost, hlost, fun h => by cases h⟩

/-- The publisher of the meeting shares its screen. -/
def sharing : ControlEvent := .ask 0 (.publishStream ⟨1, 7, .h264, .screen⟩)

def sharedDesk : RemoteDesk where
  link := ⟨(run step (.start .new) meetingRun).step sharing, 0, ⟨0, 0⟩, 4⟩
  applier := ⟨.native, 0, [], []⟩
  handled := []

/-- The viewer types a letter after its subscription, and then presses a button; the operating
system takes all inputs. -/
def typingTurns : List PollTurn :=
  [{ meanwhile :=
      [.ask 1 (.subscribeStream ⟨1, 7⟩), .ask 1 (.sendRemoteInput ⟨1, 7, 1, 5, .text "é"⟩)]
     send_input := fun inputs => UInt32.ofNat inputs.length },
   { meanwhile := [.ask 1 (.sendRemoteInput ⟨1, 7, 2, 6, .pointerButton .left true 3 4⟩)]
     send_input := fun inputs => UInt32.ofNat inputs.length }]

def typedDesk : Except String Unit × RemoteDesk := exec (takeTurns 1 7 typingTurns) sharedDesk

/-- A desktop that does with its inputs what is documented. -/
def obey (desktop : Desktop) : NativeInput → Desktop
  | .mouse dx dy _ [.move, .absolute, .virtualDesk] => { desktop with pointer := (dx, dy) }
  | .mouse _ _ _ [.leftDown] => desktop.hold .left true
  | .mouse _ _ _ [.leftUp] => desktop.hold .left false
  | .mouse _ _ _ [.rightDown] => desktop.hold .right true
  | .mouse _ _ _ [.rightUp] => desktop.hold .right false
  | .mouse _ _ _ [.middleDown] => desktop.hold .middle true
  | .mouse _ _ _ [.middleUp] => desktop.hold .middle false
  | .mouse _ _ mouse_data [.xDown] => desktop.hold (if mouse_data = 1 then .x1 else .x2) true
  | .mouse _ _ mouse_data [.xUp] => desktop.hold (if mouse_data = 1 then .x1 else .x2) false
  | .mouse _ _ mouse_data [.wheel] => desktop.turn 0 mouse_data.toInt32.toInt
  | .mouse _ _ mouse_data [.hWheel] => desktop.turn mouse_data.toInt32.toInt 0
  | .keyboard key _ [] => { desktop with keys := Function.update desktop.keys key true }
  | .keyboard key _ [.keyUp] => { desktop with keys := Function.update desktop.keys key false }
  | .keyboard _ unit [.unicode] => { desktop with typed := desktop.typed.read unit }
  | _ => desktop

theorem documented_obey : Documented obey id where
  move _ _ _ _ _ := rfl
  left_down _ := rfl
  left_up _ := rfl
  right_down _ := rfl
  right_up _ := rfl
  middle_down _ := rfl
  middle_up _ := rfl
  x1_down _ := rfl
  x1_up _ := rfl
  x2_down _ := rfl
  x2_up _ := rfl
  wheel _ _ := rfl
  h_wheel _ _ := rfl
  key_down _ _ _ _ := rfl
  key_up _ _ _ _ := rfl
  unit_down _ _ := rfl
  unit_up _ _ := rfl

end RemoteDesk

end TeamView.Client
