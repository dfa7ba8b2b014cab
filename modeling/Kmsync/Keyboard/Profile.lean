import Kmsync.Core.Event

/-! Profiles: how the keyboard, the wheel and the pointer of a source machine are mapped to those of
a target.  The multipliers have the type `φ` of the coordinates. -/

namespace Kmsync

inductive OsKind where
  | macOs | windows | linux
  deriving DecidableEq, Repr

inductive FunctionKeyMode where
  | standard | media
  deriving DecidableEq, Repr

inductive KeyboardMode where
  | physical | text
  deriving DecidableEq, Repr

inductive KeyboardLayout where
  | usAnsi | iso | jis | custom
  deriving DecidableEq, Repr

inductive NonEnglishInputStrategy where
  | physicalFallback | imePassthrough | unicodeText
  deriving DecidableEq, Repr

structure ScrollSettings (φ : Type) where
  verticalMultiplier : φ
  horizontalMultiplier : φ

structure PointerSettings (φ : Type) where
  speedMultiplier : φ

/-- `PointerSettings::default` -/
def PointerSettings.default {φ : Type} [One φ] : PointerSettings φ := ⟨1⟩

structure KeyMapping where
  fromKey : Key
  toKey : Key

structure Profile (φ : Type) where
  sourceOs : OsKind
  targetOs : OsKind
  keyMappings : List KeyMapping
  functionKeyMode : FunctionKeyMode
  keyboardMode : KeyboardMode
  sourceKeyboardLayout : KeyboardLayout
  targetKeyboardLayout : KeyboardLayout
  nonEnglishInputStrategy : NonEnglishInputStrategy
  scroll : ScrollSettings φ
  pointer : PointerSettings φ

namespace Profile

variable {φ : Type} [One φ] [Neg φ]

def macToWindowsDefault : Profile φ where
  sourceOs := .macOs
  targetOs := .windows
  keyMappings := [⟨.leftMeta, .leftControl⟩, ⟨.rightMeta, .rightControl⟩, ⟨.leftAlt, .leftAlt⟩,
    ⟨.rightAlt, .rightAlt⟩]
  functionKeyMode := .standard
  keyboardMode := .text
  sourceKeyboardLayout := .usAnsi
  targetKeyboardLayout := .usAnsi
  nonEnglishInputStrategy := .imePassthrough
  scroll := ⟨-1, -1⟩
  pointer := .default

def windowsToMacosDefault : Profile φ where
  sourceOs := .windows
  targetOs := .macOs
  keyMappings := [⟨.leftControl, .leftMeta⟩, ⟨.rightControl, .rightMeta⟩, ⟨.leftAlt, .leftAlt⟩,
    ⟨.rightAlt, .rightAlt⟩, ⟨.leftMeta, .leftMeta⟩, ⟨.rightMeta, .rightMeta⟩]
  functionKeyMode := .standard
  keyboardMode := .text
  sourceKeyboardLayout := .usAnsi
  targetKeyboardLayout := .usAnsi
  nonEnglishInputStrategy := .imePassthrough
  scroll := ⟨-1, -1⟩
  pointer := .default

end Profile

end Kmsync
