import Kmsync.Capture.Router

/-! The capture of input on macOS.  The system tells of a modifier key that its flags have changed,
and what the key did is read off the flag, which the left and the right key share. -/

namespace Kmsync.Macos

section Events

/-- The types of events that are captured; every other is `other`. -/
inductive CGEventType where
  | keyDown | keyUp | flagsChanged | mouseMoved | leftMouseDragged | rightMouseDragged
  | otherMouseDragged | leftMouseDown | leftMouseUp | rightMouseDown | rightMouseUp
  | otherMouseDown | otherMouseUp | scrollWheel | other
  deriving DecidableEq

/-- The flags of an event that are looked at. -/
inductive CGEventFlag where
  | shift | control | alternate | command
  deriving DecidableEq

def CGEventFlag.all : List CGEventFlag := [.shift, .control, .alternate, .command]

/-- An event, with the fields that are read from it. -/
structure CGEvent (ψ : Type) where
  location : PointerPosition ψ
  keyboardEventKeycode : ℤ
  mouseEventDeltaX : ℤ
  mouseEventDeltaY : ℤ
  scrollWheelEventDeltaAxis1 : ℤ
  scrollWheelEventDeltaAxis2 : ℤ
  flags : CGEventFlag → Bool

end Events

section Keycodes

def keyFromMacKeycode (keycode : ℕ) : Option Key :=
  match keycode with
  | 0x00 => some .a | 0x01 => some .s | 0x02 => some .d | 0x03 => some .f | 0x04 => some .h
  | 0x05 => some .g | 0x06 => some .z | 0x07 => some .x | 0x08 => some .c | 0x09 => some .v
  | 0x0b => some .b | 0x0c => some .q | 0x0d => some .w | 0x0e => some .e | 0x0f => some .r
  | 0x10 => some .y | 0x11 => some .t | 0x12 => some .num1 | 0x13 => some .num2
  | 0x14 => some .num3 | 0x15 => some .num4 | 0x16 => some .num6 | 0x17 => some .num5
  | 0x18 => some .equal | 0x19 => some .num9 | 0x1a => some .num7 | 0x1b => some .minus
  | 0x1c => some .num8 | 0x1d => some .num0 | 0x1e => some .rightBracket | 0x1f => some .o
  | 0x20 => some .u | 0x21 => some .leftBracket | 0x22 => some .i | 0x23 => some .p
  | 0x24 => some .enter | 0x25 => some .l | 0x26 => some .j | 0x27 => some .quote
  | 0x28 => some .k | 0x29 => some .semicolon | 0x2a => some .backslash | 0x2b => some .comma
  | 0x2c => some .slash | 0x2d => some .n | 0x2e => some .m | 0x2f => some .dot
  | 0x30 => some .tab | 0x31 => some .space | 0x32 => some .grave | 0x33 => some .backspace
  | 0x35 => some .escape | 0x36 => some .rightMeta | 0x37 => some .leftMeta
  | 0x38 => some .leftShift | 0x39 => some .capsLock | 0x3a => some .leftAlt
  | 0x3b => some .leftControl | 0x3c => some .rightShift | 0x3d => some .rightAlt
  | 0x3e => some .rightControl | 0x7a => some .f1 | 0x78 => some .f2 | 0x63 => some .f3
  | 0x76 => some .f4 | 0x60 => some .f5 | 0x61 => some .f6 | 0x62 => some .f7 | 0x64 => some .f8
  | 0x65 => some .f9 | 0x6d => some .f10 | 0x67 => some .f11 | 0x6f => some .f12
  | 0x66 => some .eisu | 0x68 => some .kana | 0x73 => some .home | 0x74 => some .pageUp
  | 0x75 => some .delete | 0x77 => some .endKey | 0x79 => some .pageDown | 0x7b => some .arrowLeft
  | 0x7c => some .arrowRight | 0x7d => some .arrowDown | 0x7e => some .arrowUp
  | _ => none

/-- The key of an event; its code must fit in a `u16`. -/
def keyOfEvent {ψ : Type} (event : CGEvent ψ) : Option Key :=
  let keycode := event.keyboardEventKeycode
  if 0 ≤ keycode ∧ keycode < 2 ^ 16 then keyFromMacKeycode keycode.toNat else none

end Keycodes

section Capture

variable {φ ψ : Type} [IntCast φ]

def modifiersFromMacos (flags : CGEventFlag → Bool) : Modifiers :=
  let modifiers := Modifiers.none
  let modifiers := if flags .shift then modifiers.with .shift else modifiers
  let modifiers := if flags .control then modifiers.with .control else modifiers
  let modifiers := if flags .alternate then modifiers.with .alt else modifiers
  if flags .command then modifiers.with .metaModifier else modifiers

def modifierIsActive (flags : CGEventFlag → Bool) : Key → Bool
  | .leftShift | .rightShift => flags .shift
  | .leftControl | .rightControl => flags .control
  | .leftAlt | .rightAlt => flags .alternate
  | .leftMeta | .rightMeta => flags .command
  | _ => false

def keyInput (event : CGEvent ψ) (key : Key) (state : KeyState) : InputEvent φ :=
  .key ⟨key, state, modifiersFromMacos event.flags⟩

def buttonInput (button : MouseButton) (state : KeyState) : InputEvent φ :=
  .mouse (.button button state)

def macCaptureEvent (eventType : CGEventType) (event : CGEvent ψ) :
    Option (CapturedInput φ ψ) := do
  let input : InputEvent φ ← match eventType with
    | .keyDown => (keyOfEvent event).map fun key => keyInput event key .pressed
    | .keyUp => (keyOfEvent event).map fun key => keyInput event key .released
    | .flagsChanged =>
      (keyOfEvent event).map fun key =>
        keyInput event key (if modifierIsActive event.flags key then .pressed else .released)
    | .mouseMoved | .leftMouseDragged | .rightMouseDragged | .otherMouseDragged =>
      some (.mouse (.move event.mouseEventDeltaX event.mouseEventDeltaY))
    | .leftMouseDown => some (buttonInput .left .pressed)
    | .leftMouseUp => some (buttonInput .left .released)
    | .rightMouseDown => some (buttonInput .right .pressed)
    | .rightMouseUp => some (buttonInput .right .released)
    | .otherMouseDown => some (buttonInput .middle .pressed)
    | .otherMouseUp => some (buttonInput .middle .released)
    | .scrollWheel =>
      some (.scroll ⟨event.scrollWheelEventDeltaAxis2, event.scrollWheelEventDeltaAxis1⟩)
    | .other => none
  return ⟨input, some event.location⟩

end Capture

end Kmsync.Macos
