import Mathlib.Data.Finset.Basic

/-! Input events: keys with their wire codes, modifier sets, and the key, mouse and scroll events
that carry them.  Coordinates have the type `φ`: a bit pattern on the wire, a number where the
desktop router computes with them. -/

namespace Kmsync

/-- A device id is a `u128`. -/
abbrev DeviceId := BitVec 128

/-- A reading of the monotonic clock, in nanoseconds. -/
abbrev Instant := ℕ

/-- `DESKTOP_STALE_MOUSE_MOVE_DROP_AFTER`: 120 ms -/
def desktopStaleMouseMoveDropAfter : ℕ := 120_000_000

/-- A key of the keyboard; its code is `toU16`.  `endKey` is the source's `Key::End`. -/
inductive Key where
  | a | b | c | d | e | f | g | h | i | j | k | l | m | n | o | p | q | r | s | t | u | v | w | x
  | y | z | num1 | num2 | num3 | num4 | num5 | num6 | num7 | num8 | num9 | num0 | enter | escape
  | backspace | tab | space | minus | equal | leftBracket | rightBracket | backslash | semicolon
  | quote | grave | comma | dot | slash | capsLock | f1 | f2 | f3 | f4 | f5 | f6 | f7 | f8 | f9
  | f10 | f11 | f12 | printScreen | scrollLock | pause | insert | home | pageUp | delete | endKey
  | pageDown | arrowRight | arrowLeft | arrowDown | arrowUp | numLock | numpadDivide
  | numpadMultiply | numpadSubtract | numpadAdd | numpadEnter | numpad1 | numpad2 | numpad3
  | numpad4 | numpad5 | numpad6 | numpad7 | numpad8 | numpad9 | numpad0 | numpadDecimal
  | numpadEqual | f13 | f14 | f15 | f16 | f17 | f18 | f19 | f20 | f21 | f22 | f23 | f24 | kana
  | eisu | imeOn | imeOff | leftControl | leftShift | leftAlt | leftMeta | rightControl
  | rightShift | rightAlt | rightMeta | brightnessDown | brightnessUp | mediaPlay | mediaPause
  | mediaRecord | mediaFastForward | mediaRewind | mediaNextTrack | mediaPreviousTrack | mediaStop
  | mediaPlayPause | volumeMute | volumeUp | volumeDown | fn | globe
  deriving DecidableEq, Repr

namespace Key

/-- The discriminant of the key, as in `key as u16`. -/
def toU16 : Key → UInt16
  | .a => 4 | .b => 5 | .c => 6 | .d => 7 | .e => 8 | .f => 9 | .g => 10 | .h => 11 | .i => 12
  | .j => 13 | .k => 14 | .l => 15 | .m => 16 | .n => 17 | .o => 18 | .p => 19 | .q => 20
  | .r => 21 | .s => 22 | .t => 23 | .u => 24 | .v => 25 | .w => 26 | .x => 27 | .y => 28
  | .z => 29 | .num1 => 30 | .num2 => 31 | .num3 => 32 | .num4 => 33 | .num5 => 34 | .num6 => 35
  | .num7 => 36 | .num8 => 37 | .num9 => 38 | .num0 => 39 | .enter => 40 | .escape => 41
  | .backspace => 42 | .tab => 43 | .space => 44 | .minus => 45 | .equal => 46 | .leftBracket => 47
  | .rightBracket => 48 | .backslash => 49 | .semicolon => 51 | .quote => 52 | .grave => 53
  | .comma => 54 | .dot => 55 | .slash => 56 | .capsLock => 57 | .f1 => 58 | .f2 => 59 | .f3 => 60
  | .f4 => 61 | .f5 => 62 | .f6 => 63 | .f7 => 64 | .f8 => 65 | .f9 => 66 | .f10 => 67 | .f11 => 68
  | .f12 => 69 | .printScreen => 70 | .scrollLock => 71 | .pause => 72 | .insert => 73
  | .home => 74 | .pageUp => 75 | .delete => 76 | .endKey => 77 | .pageDown => 78
  | .arrowRight => 79 | .arrowLeft => 80 | .arrowDown => 81 | .arrowUp => 82 | .numLock => 83
  | .numpadDivide => 84 | .numpadMultiply => 85 | .numpadSubtract => 86 | .numpadAdd => 87
  | .numpadEnter => 88 | .numpad1 => 89 | .numpad2 => 90 | .numpad3 => 91 | .numpad4 => 92
  | .numpad5 => 93 | .numpad6 => 94 | .numpad7 => 95 | .numpad8 => 96 | .numpad9 => 97
  | .numpad0 => 98 | .numpadDecimal => 99 | .numpadEqual => 103 | .f13 => 104 | .f14 => 105
  | .f15 => 106 | .f16 => 107 | .f17 => 108 | .f18 => 109 | .f19 => 110 | .f20 => 111 | .f21 => 112
  | .f22 => 113 | .f23 => 114 | .f24 => 115 | .kana => 0x0088 | .eisu => 0x0089 | .imeOn => 0x0090
  | .imeOff => 0x0091 | .leftControl => 224 | .leftShift => 225 | .leftAlt => 226
  | .leftMeta => 227 | .rightControl => 228 | .rightShift => 229 | .rightAlt => 230
  | .rightMeta => 231 | .brightnessDown => 0x106f | .brightnessUp => 0x1070 | .mediaPlay => 0x10b0
  | .mediaPause => 0x10b1 | .mediaRecord => 0x10b2 | .mediaFastForward => 0x10b3
  | .mediaRewind => 0x10b4 | .mediaNextTrack => 0x10b5 | .mediaPreviousTrack => 0x10b6
  | .mediaStop => 0x10b7 | .mediaPlayPause => 0x10cd | .volumeMute => 0x10e2 | .volumeUp => 0x10e9
  | .volumeDown => 0x10ea | .fn => 0x10f0 | .globe => 0x10f1

/-- `Key::from_u16` -/
def fromU16 (value : UInt16) : Option Key :=
  match value.toNat with
  | 4 => some .a | 5 => some .b | 6 => some .c | 7 => some .d | 8 => some .e | 9 => some .f
  | 10 => some .g | 11 => some .h | 12 => some .i | 13 => some .j | 14 => some .k | 15 => some .l
  | 16 => some .m | 17 => some .n | 18 => some .o | 19 => some .p | 20 => some .q | 21 => some .r
  | 22 => some .s | 23 => some .t | 24 => some .u | 25 => some .v | 26 => some .w | 27 => some .x
  | 28 => some .y | 29 => some .z | 30 => some .num1 | 31 => some .num2 | 32 => some .num3
  | 33 => some .num4 | 34 => some .num5 | 35 => some .num6 | 36 => some .num7 | 37 => some .num8
  | 38 => some .num9 | 39 => some .num0 | 40 => some .enter | 41 => some .escape
  | 42 => some .backspace | 43 => some .tab | 44 => some .space | 45 => some .minus
  | 46 => some .equal | 47 => some .leftBracket | 48 => some .rightBracket | 49 => some .backslash
  | 51 => some .semicolon | 52 => some .quote | 53 => some .grave | 54 => some .comma
  | 55 => some .dot | 56 => some .slash | 57 => some .capsLock | 58 => some .f1 | 59 => some .f2
  | 60 => some .f3 | 61 => some .f4 | 62 => some .f5 | 63 => some .f6 | 64 => some .f7
  | 65 => some .f8 | 66 => some .f9 | 67 => some .f10 | 68 => some .f11 | 69 => some .f12
  | 70 => some .printScreen | 71 => some .scrollLock | 72 => some .pause | 73 => some .insert
  | 74 => some .home | 75 => some .pageUp | 76 => some .delete | 77 => some .endKey
  | 78 => some .pageDown | 79 => some .arrowRight | 80 => some .arrowLeft | 81 => some .arrowDown
  | 82 => some .arrowUp | 83 => some .numLock | 84 => some .numpadDivide
  | 85 => some .numpadMultiply | 86 => some .numpadSubtract | 87 => some .numpadAdd
  | 88 => some .numpadEnter | 89 => some .numpad1 | 90 => some .numpad2 | 91 => some .numpad3
  | 92 => some .numpad4 | 93 => some .numpad5 | 94 => some .numpad6 | 95 => some .numpad7
  | 96 => some .numpad8 | 97 => some .numpad9 | 98 => some .numpad0 | 99 => some .numpadDecimal
  | 103 => some .numpadEqual | 104 => some .f13 | 105 => some .f14 | 106 => some .f15
  | 107 => some .f16 | 108 => some .f17 | 109 => some .f18 | 110 => some .f19 | 111 => some .f20
  | 112 => some .f21 | 113 => some .f22 | 114 => some .f23 | 115 => some .f24
  | 0x0088 => some .kana | 0x0089 => some .eisu | 0x0090 => some .imeOn | 0x0091 => some .imeOff
  | 224 => some .leftControl | 225 => some .leftShift | 226 => some .leftAlt
  | 227 => some .leftMeta | 228 => some .rightControl | 229 => some .rightShift
  | 230 => some .rightAlt | 231 => some .rightMeta | 0x106f => some .brightnessDown
  | 0x1070 => some .brightnessUp | 0x10b0 => some .mediaPlay | 0x10b1 => some .mediaPause
  | 0x10b2 => some .mediaRecord | 0x10b3 => some .mediaFastForward | 0x10b4 => some .mediaRewind
  | 0x10b5 => some .mediaNextTrack | 0x10b6 => some .mediaPreviousTrack | 0x10b7 => some .mediaStop
  | 0x10cd => some .mediaPlayPause | 0x10e2 => some .volumeMute | 0x10e9 => some .volumeUp
  | 0x10ea => some .volumeDown | 0x10f0 => some .fn | 0x10f1 => some .globe
  | _ => none

@[simp] theorem fromU16_toU16 (key : Key) : fromU16 key.toU16 = some key := by
  cases key <;> rfl

end Key

/-- A set of modifiers, as the bits of a byte.  The source's field is private and every value comes
from the constants, `with`, `without` and `from_bits`, none of which sets a high bit. -/
structure Modifiers where
  bits : UInt8
  bits_lt : bits < 16
  deriving DecidableEq

namespace Modifiers

def none : Modifiers := ⟨0, by decide⟩

def control : Modifiers := ⟨1, by decide⟩

def shift : Modifiers := ⟨2, by decide⟩

def alt : Modifiers := ⟨4, by decide⟩

def metaModifier : Modifiers := ⟨8, by decide⟩

/-- `Modifiers::from_bits`: the high bits are dropped. -/
def fromBits (bits : UInt8) : Modifiers :=
  ⟨bits &&& 0x0f, by
    rw [UInt8.lt_iff_toNat_lt, UInt8.toNat_and]
    exact Nat.lt_of_le_of_lt Nat.and_le_right (by decide)⟩

def contains (modifiers modifier : Modifiers) : Bool := modifiers.bits &&& modifier.bits != 0

@[simp] theorem fromBits_bits (modifiers : Modifiers) : fromBits modifiers.bits = modifiers := by
  obtain ⟨bits, h⟩ := modifiers
  have h16 : bits.toNat < 2 ^ 4 := by simpa using UInt8.lt_iff_toNat_lt.mp h
  simp only [fromBits, mk.injEq]
  apply UInt8.toNat_inj.mp
  rw [UInt8.toNat_and]
  exact (Nat.and_two_pow_sub_one_eq_mod bits.toNat 4).trans (Nat.mod_eq_of_lt h16)

end Modifiers

inductive KeyState where
  | pressed | released
  deriving DecidableEq, Repr

structure KeyEvent where
  key : Key
  state : KeyState
  modifiers : Modifiers
  deriving DecidableEq

inductive MouseButton where
  | left | right | middle | back | forward
  deriving DecidableEq, Repr

inductive MouseEvent (φ : Type) where
  | move (dx dy : φ)
  | position (xRatio yRatio : φ)
  | button (button : MouseButton) (state : KeyState)
  deriving DecidableEq

structure ScrollEvent (φ : Type) where
  dx : φ
  dy : φ
  deriving DecidableEq

inductive InputEvent (φ : Type) where
  | key (event : KeyEvent)
  | mouse (event : MouseEvent φ)
  | scroll (event : ScrollEvent φ)
  deriving DecidableEq

end Kmsync
