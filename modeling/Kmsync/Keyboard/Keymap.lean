import Kmsync.Keyboard.Profile
import Mathlib.Logic.Function.Basic

/-! Key mapping.  A compiled profile takes each event of the source keyboard to one of the target's.
In text mode a shortcut is translated by its meaning; every other key goes through the media row and
the key map. -/

namespace Kmsync

namespace Modifiers

/-- `Modifiers::with` -/
def withModifier (modifiers modifier : Modifiers) : Modifiers :=
  ⟨modifiers.bits ||| modifier.bits, by
    rw [UInt8.lt_iff_toNat_lt, UInt8.toNat_or]
    exact Nat.or_lt_two_pow (n := 4) (UInt8.lt_iff_toNat_lt.mp modifiers.bits_lt)
      (UInt8.lt_iff_toNat_lt.mp modifier.bits_lt)⟩

end Modifiers

inductive MappingError where
  | duplicateSourceKey (key : Key)
  deriving DecidableEq

inductive ShortcutAction where
  | copy | paste | cut | undo | redo | selectAll | find | switchApp
  deriving DecidableEq, Repr

def primaryShortcutModifier : OsKind → Modifiers
  | .macOs => .metaModifier
  | .windows | .linux => .control

def redoShortcut : OsKind → Key × Modifiers
  | .macOs => (.z, .withModifier .metaModifier .shift)
  | .windows | .linux => (.y, .control)

def switchAppShortcut : OsKind → Key × Modifiers
  | .macOs => (.tab, .metaModifier)
  | .windows | .linux => (.tab, .alt)

namespace ShortcutAction

def fromPrimaryShortcutKey : Key → Option ShortcutAction
  | .c => some .copy
  | .v => some .paste
  | .x => some .cut
  | .z => some .undo
  | .a => some .selectAll
  | .f => some .find
  | _ => none

def fromMacosKeyEvent (event : KeyEvent) : Option ShortcutAction :=
  if event.key = .tab ∧ event.modifiers = .metaModifier then
    some .switchApp
  else if event.key = .z ∧ event.modifiers = .withModifier .metaModifier .shift then
    some .redo
  else if event.modifiers ≠ .metaModifier then
    none
  else
    fromPrimaryShortcutKey event.key

def fromWindowsLikeKeyEvent (event : KeyEvent) : Option ShortcutAction :=
  if event.key = .tab ∧ event.modifiers = .alt then
    some .switchApp
  else if event.key = .y ∧ event.modifiers = .control then
    some .redo
  else if event.modifiers ≠ .control then
    none
  else
    fromPrimaryShortcutKey event.key

def fromKeyEvent (sourceOs : OsKind) (event : KeyEvent) : Option ShortcutAction :=
  match sourceOs with
  | .macOs => fromMacosKeyEvent event
  | .windows | .linux => fromWindowsLikeKeyEvent event

/-- The key and the modifiers of `key_event_for_os`. -/
def chordForOs (action : ShortcutAction) (targetOs : OsKind) : Key × Modifiers :=
  match action with
  | .copy => (.c, primaryShortcutModifier targetOs)
  | .paste => (.v, primaryShortcutModifier targetOs)
  | .cut => (.x, primaryShortcutModifier targetOs)
  | .undo => (.z, primaryShortcutModifier targetOs)
  | .redo => redoShortcut targetOs
  | .selectAll => (.a, primaryShortcutModifier targetOs)
  | .find => (.f, primaryShortcutModifier targetOs)
  | .switchApp => switchAppShortcut targetOs

def keyEventForOs (action : ShortcutAction) (targetOs : OsKind) (state : KeyState) : KeyEvent :=
  let (key, modifiers) := action.chordForOs targetOs
  ⟨key, state, modifiers⟩

end ShortcutAction

def functionRowMediaKey : Key → Option Key
  | .f1 => some .brightnessDown
  | .f2 => some .brightnessUp
  | .f7 => some .mediaPreviousTrack
  | .f8 => some .mediaPlayPause
  | .f9 => some .mediaNextTrack
  | .f10 => some .volumeMute
  | .f11 => some .volumeDown
  | .f12 => some .volumeUp
  | _ => none

/-- A profile ready for use.  Only codes of keys index the `key_map` of the source, so that it is a
function on keys here. -/
structure CompiledProfile (φ : Type) where
  sourceOs : OsKind
  targetOs : OsKind
  functionKeyMode : FunctionKeyMode
  keyboardMode : KeyboardMode
  sourceKeyboardLayout : KeyboardLayout
  targetKeyboardLayout : KeyboardLayout
  nonEnglishInputStrategy : NonEnglishInputStrategy
  keyMap : Key → Key
  scrollYMultiplier : φ
  scrollXMultiplier : φ
  pointerMultiplier : φ

/-- The loop of `compile` over the mappings that are left. -/
def compileMappings (seen : Key → Bool) (keyMap : Key → Key) :
    List KeyMapping → Except MappingError (Key → Key)
  | [] => .ok keyMap
  | mapping :: mappings =>
    if seen mapping.fromKey then
      .error (.duplicateSourceKey mapping.fromKey)
    else
      compileMappings (Function.update seen mapping.fromKey true)
        (Function.update keyMap mapping.fromKey mapping.toKey) mappings

namespace CompiledProfile

variable {φ : Type}

def compile (profile : Profile φ) : Except MappingError (CompiledProfile φ) := do
  let keyMap ← compileMappings (fun _ => false) id profile.keyMappings
  return {
    sourceOs := profile.sourceOs
    targetOs := profile.targetOs
    functionKeyMode := profile.functionKeyMode
    keyboardMode := profile.keyboardMode
    sourceKeyboardLayout := profile.sourceKeyboardLayout
    targetKeyboardLayout := profile.targetKeyboardLayout
    nonEnglishInputStrategy := profile.nonEnglishInputStrategy
    keyMap
    scrollYMultiplier := profile.scroll.verticalMultiplier
    scrollXMultiplier := profile.scroll.horizontalMultiplier
    pointerMultiplier := profile.pointer.speedMultiplier }

variable (profile : CompiledProfile φ)

def transformKey (key : Key) : Key :=
  match if profile.functionKeyMode = .media then functionRowMediaKey key else none with
  | some mediaKey => mediaKey
  | none => profile.keyMap key

def modifierForKey : Key → Modifiers
  | .leftControl | .rightControl => .control
  | .leftShift | .rightShift => .shift
  | .leftAlt | .rightAlt => .alt
  | .leftMeta | .rightMeta => .metaModifier
  | _ => .none

def transformModifiers (modifiers : Modifiers) : Modifiers :=
  let output := Modifiers.none
  let output := if modifiers.contains .shift then output.withModifier .shift else output
  let output :=
    if modifiers.contains .control then
      output.withModifier (modifierForKey (profile.transformKey .leftControl))
    else output
  let output :=
    if modifiers.contains .alt then
      output.withModifier (modifierForKey (profile.transformKey .leftAlt))
    else output
  if modifiers.contains .metaModifier then
    output.withModifier (modifierForKey (profile.transformKey .leftMeta))
  else output

def transformKeyEvent (event : KeyEvent) : KeyEvent :=
  match if profile.keyboardMode = .text then
    ShortcutAction.fromKeyEvent profile.sourceOs event else none with
  | some action => action.keyEventForOs profile.targetOs event.state
  | none =>
    match if event.modifiers = .none ∧ profile.functionKeyMode = .media then
      functionRowMediaKey event.key else none with
    | some key => { event with key }
    | none =>
      { key := profile.transformKey event.key
        state := event.state
        modifiers := profile.transformModifiers event.modifiers }

def transform [Mul φ] : InputEvent φ → InputEvent φ
  | .key keyEvent => .key (profile.transformKeyEvent keyEvent)
  | .scroll scrollEvent =>
    .scroll ⟨scrollEvent.dx * profile.scrollXMultiplier,
      scrollEvent.dy * profile.scrollYMultiplier⟩
  | .mouse (.move dx dy) =>
    .mouse (.move (dx * profile.pointerMultiplier) (dy * profile.pointerMultiplier))
  | other => other

end CompiledProfile

end Kmsync
