import Kmsync.Capture.Router

/-! The capture of input on X11.  The server sends the raw presses and releases, and the modifiers
that are held are tracked from event to event. -/

namespace Kmsync

/-- `Modifiers::without` -/
def Modifiers.without (modifiers modifier : Modifiers) : Modifiers :=
  .fromBits (modifiers.bits &&& ~~~modifier.bits)

namespace X11

section Keys

def x11KeyFromEvdevKeycode (keycode : ℕ) : Option Key :=
  match keycode with
  | 9 => some .escape | 10 => some .num1 | 11 => some .num2 | 12 => some .num3 | 13 => some .num4
  | 14 => some .num5 | 15 => some .num6 | 16 => some .num7 | 17 => some .num8 | 18 => some .num9
  | 19 => some .num0 | 20 => some .minus | 21 => some .equal | 22 => some .backspace
  | 23 => some .tab | 24 => some .q | 25 => some .w | 26 => some .e | 27 => some .r
  | 28 => some .t | 29 => some .y | 30 => some .u | 31 => some .i | 32 => some .o | 33 => some .p
  | 34 => some .leftBracket | 35 => some .rightBracket | 36 => some .enter
  | 37 => some .leftControl | 38 => some .a | 39 => some .s | 40 => some .d | 41 => some .f
  | 42 => some .g | 43 => some .h | 44 => some .j | 45 => some .k | 46 => some .l
  | 47 => some .semicolon | 48 => some .quote | 49 => some .grave | 50 => some .leftShift
  | 51 => some .backslash | 52 => some .z | 53 => some .x | 54 => some .c | 55 => some .v
  | 56 => some .b | 57 => some .n | 58 => some .m | 59 => some .comma | 60 => some .dot
  | 61 => some .slash | 62 => some .rightShift | 63 => some .numpadMultiply | 64 => some .leftAlt
  | 65 => some .space | 66 => some .capsLock | 67 => some .f1 | 68 => some .f2 | 69 => some .f3
  | 70 => some .f4 | 71 => some .f5 | 72 => some .f6 | 73 => some .f7 | 74 => some .f8
  | 75 => some .f9 | 76 => some .f10 | 77 => some .numLock | 78 => some .scrollLock
  | 79 => some .numpad7 | 80 => some .numpad8 | 81 => some .numpad9 | 82 => some .numpadSubtract
  | 83 => some .numpad4 | 84 => some .numpad5 | 85 => some .numpad6 | 86 => some .numpadAdd
  | 87 => some .numpad1 | 88 => some .numpad2 | 89 => some .numpad3 | 90 => some .numpad0
  | 91 => some .numpadDecimal | 95 => some .f11 | 96 => some .f12 | 104 => some .numpadEnter
  | 105 => some .rightControl | 106 => some .numpadDivide | 107 => some .printScreen
  | 108 => some .rightAlt | 110 => some .home | 111 => some .arrowUp | 112 => some .pageUp
  | 113 => some .arrowLeft | 114 => some .arrowRight | 115 => some .endKey
  | 116 => some .arrowDown | 117 => some .pageDown | 118 => some .insert | 119 => some .delete
  | 125 => some .numpadEqual | 127 => some .pause | 133 => some .leftMeta | 134 => some .rightMeta
  | 191 => some .f13 | 192 => some .f14 | 193 => some .f15 | 194 => some .f16 | 195 => some .f17
  | 196 => some .f18 | 197 => some .f19 | 198 => some .f20 | 199 => some .f21 | 200 => some .f22
  | 201 => some .f23 | 202 => some .f24
  | _ => none

def x11ModifierForKey : Key → Option Modifiers
  | .leftControl | .rightControl => some .control
  | .leftShift | .rightShift => some .shift
  | .leftAlt | .rightAlt => some .alt
  | .leftMeta | .rightMeta => some .metaModifier
  | _ => none

/-- The key of an event; its code must fit in a `u8`. -/
def keyOfDetail (detail : UInt32) : Option Key :=
  if detail.toNat < 2 ^ 8 then x11KeyFromEvdevKeycode detail.toNat else none

end Keys

section Events

/-- `xinput::Fp3232` -/
structure Fp3232 where
  integral : ℤ
  frac : UInt32

/-- The events of the server; every type that is not captured is `other`. -/
inductive X11Event where
  | xinputRawKeyPress (detail : UInt32)
  | xinputRawKeyRelease (detail : UInt32)
  | xinputRawButtonPress (detail : UInt32)
  | xinputRawButtonRelease (detail : UInt32)
  | xinputRawMotion (valuatorMask : List UInt32) (axisvaluesRaw : List Fp3232)
  | other

variable {φ ψ : Type} [Zero φ] [One φ] [Neg φ] [BEq φ]

def x11ButtonEvent (detail : ℕ) (state : KeyState) : Option (InputEvent φ) :=
  match detail, state with
  | 1, state => some (.mouse (.button .left state))
  | 2, state => some (.mouse (.button .middle state))
  | 3, state => some (.mouse (.button .right state))
  | 8, state => some (.mouse (.button .back state))
  | 9, state => some (.mouse (.button .forward state))
  | 4, .pressed => some (.scroll ⟨0, 1⟩)
  | 5, .pressed => some (.scroll ⟨0, -1⟩)
  | 6, .pressed => some (.scroll ⟨-1, 0⟩)
  | 7, .pressed => some (.scroll ⟨1, 0⟩)
  | _, _ => none

/-- The button of an event; its number must fit in a `u8`. -/
def buttonOfDetail (detail : UInt32) (state : KeyState) : Option (InputEvent φ) :=
  if detail.toNat < 2 ^ 8 then x11ButtonEvent detail.toNat state else none

/-- The axes whose bits are set, in order. -/
def maskedAxes (valuatorMask : List UInt32) : List ℕ :=
  valuatorMask.zipIdx.flatMap fun (word, wordIndex) =>
    ((List.range 32).filter fun bit => word.toNat.testBit bit).map (wordIndex * 32 + ·)

/-- The values of the first two axes; there must be a value for every axis. -/
def readAxes (toF32 : Fp3232 → φ) :
    List ℕ → List Fp3232 → Option φ × Option φ → Option (Option φ × Option φ)
  | [], _, deltas => some deltas
  | _ :: _, [], _ => none
  | 0 :: axes, value :: values, (_, dy) => readAxes toF32 axes values (some (toF32 value), dy)
  | 1 :: axes, value :: values, (dx, _) => readAxes toF32 axes values (dx, some (toF32 value))
  | _ :: axes, _ :: values, deltas => readAxes toF32 axes values deltas

/-- The arithmetic of `xinput_fp3232_to_f32` is the parameter `toF32`. -/
def x11RawMotionDeltaFromFp (toF32 : Fp3232 → φ) (valuatorMask : List UInt32)
    (axisvalues : List Fp3232) : Option (φ × φ) :=
  match readAxes toF32 (maskedAxes valuatorMask) axisvalues (none, none) with
  | some (some dx, some dy) => if dx != 0 || dy != 0 then some (dx, dy) else none
  | _ => none

end Events

section Capture

variable {φ ψ : Type} [Zero φ] [One φ] [Neg φ] [BEq φ] (toF32 : Fp3232 → φ)

/-- The default has no modifiers. -/
structure X11CaptureState where
  modifiers : Modifiers := .none
  deriving DecidableEq

def keyEvent (capture : X11CaptureState) (detail : UInt32) (state : KeyState) :
    Option (InputEvent φ) × X11CaptureState :=
  match keyOfDetail detail with
  | none => (none, capture)
  | some key =>
    let capture : X11CaptureState :=
      match x11ModifierForKey key with
      | some modifier =>
        match state with
        | .pressed => ⟨capture.modifiers.with modifier⟩
        | .released => ⟨capture.modifiers.without modifier⟩
      | none => capture
    (some (.key ⟨key, state, capture.modifiers⟩), capture)

def capturedInput (capture : X11CaptureState) (event : X11Event) :
    Option (CapturedInput φ ψ) × X11CaptureState :=
  let input : Option (InputEvent φ) × X11CaptureState :=
    match event with
    | .xinputRawKeyPress detail => keyEvent capture detail .pressed
    | .xinputRawKeyRelease detail => keyEvent capture detail .released
    | .xinputRawButtonPress detail => (buttonOfDetail detail .pressed, capture)
    | .xinputRawButtonRelease detail => (buttonOfDetail detail .released, capture)
    | .xinputRawMotion valuatorMask axisvaluesRaw =>
      ((x11RawMotionDeltaFromFp toF32 valuatorMask axisvaluesRaw).map fun (dx, dy) =>
        .mouse (.move dx dy), capture)
    | .other => (none, capture)
  (input.1.map fun event => ⟨event, none⟩, input.2)

end Capture

end X11

end Kmsync
