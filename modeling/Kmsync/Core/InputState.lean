import Kmsync.Core.Protocol

/-! What a receiving machine knows to be pressed.  The source keeps an array of flags for the key
codes and one for the buttons; only codes of keys are ever written, so that the first is a function
on keys here. -/

namespace Kmsync

/-- A key or a button: what can be held down. -/
inductive Item where
  | key (key : Key)
  | button (button : MouseButton)
  deriving DecidableEq

/-- The item that an event presses or releases, with the state it takes. -/
def InputEvent.change {φ : Type} : InputEvent φ → Option (Item × KeyState)
  | .key event => some (.key event.key, event.state)
  | .mouse (.button button state) => some (.button button, state)
  | .mouse (.move _ _) | .mouse (.position _ _) | .scroll _ => none

/-- All keys, in the order of their codes. -/
def Key.all : List Key :=
  [.a, .b, .c, .d, .e, .f, .g, .h, .i, .j, .k, .l, .m, .n, .o, .p, .q, .r, .s, .t, .u, .v, .w, .x,
   .y, .z, .num1, .num2, .num3, .num4, .num5, .num6, .num7, .num8, .num9, .num0, .enter, .escape,
   .backspace, .tab, .space, .minus, .equal, .leftBracket, .rightBracket, .backslash, .semicolon,
   .quote, .grave, .comma, .dot, .slash, .capsLock, .f1, .f2, .f3, .f4, .f5, .f6, .f7, .f8, .f9,
   .f10, .f11, .f12, .printScreen, .scrollLock, .pause, .insert, .home, .pageUp, .delete, .endKey,
   .pageDown, .arrowRight, .arrowLeft, .arrowDown, .arrowUp, .numLock, .numpadDivide,
   .numpadMultiply, .numpadSubtract, .numpadAdd, .numpadEnter, .numpad1, .numpad2, .numpad3,
   .numpad4, .numpad5, .numpad6, .numpad7, .numpad8, .numpad9, .numpad0, .numpadDecimal,
   .numpadEqual, .f13, .f14, .f15, .f16, .f17, .f18, .f19, .f20, .f21, .f22, .f23, .f24, .kana,
   .eisu, .imeOn, .imeOff, .leftControl, .leftShift, .leftAlt, .leftMeta, .rightControl,
   .rightShift, .rightAlt, .rightMeta, .brightnessDown, .brightnessUp, .mediaPlay, .mediaPause,
   .mediaRecord, .mediaFastForward, .mediaRewind, .mediaNextTrack, .mediaPreviousTrack, .mediaStop,
   .mediaPlayPause, .volumeMute, .volumeUp, .volumeDown, .fn, .globe]

theorem Key.mem_all (key : Key) : key ∈ Key.all := by
  cases key <;> decide

def MouseButton.all : List MouseButton := [.left, .right, .middle, .back, .forward]

theorem MouseButton.mem_all (button : MouseButton) : button ∈ MouseButton.all := by
  cases button <;> decide

/-- The items that are tracked as pressed. -/
structure RemoteInputState where
  pressedKeys : Key → Bool
  pressedButtons : MouseButton → Bool

namespace RemoteInputState

def default : RemoteInputState := ⟨fun _ => false, fun _ => false⟩

def apply (state : RemoteInputState) (event : InputEvent F32) : RemoteInputState :=
  match event with
  | .key event =>
    { state with
      pressedKeys := Function.update state.pressedKeys event.key (event.state = .pressed) }
  | .mouse (.button button buttonState) =>
    { state with
      pressedButtons := Function.update state.pressedButtons button (buttonState = .pressed) }
  | .mouse (.move _ _) | .mouse (.position _ _) | .scroll _ => state

/-- `release_all`: the releases of everything pressed, keys in the order of their codes, and the
state with nothing pressed. -/
def releaseAll (state : RemoteInputState) : List (InputEvent F32) × RemoteInputState :=
  ((Key.all.filter state.pressedKeys).map (fun key => .key ⟨key, .released, Modifiers.none⟩) ++
    (MouseButton.all.filter state.pressedButtons).map (fun button => .mouse (.button button .released)),
    default)

def isPressed (state : RemoteInputState) : Item → Bool
  | .key key => state.pressedKeys key
  | .button button => state.pressedButtons button

/-- An event changes the item it is about, and no other. -/
theorem isPressed_apply (state : RemoteInputState) (event : InputEvent F32) (item : Item) :
    (state.apply event).isPressed item =
      match event.change with
      | some (changed, keyState) =>
        if item = changed then decide (keyState = .pressed) else state.isPressed item
      | none => state.isPressed item := by
  match event with
  | .key event =>
    cases item with
    | key key => simp [apply, isPressed, InputEvent.change, Function.update_apply]
    | button button => rfl
  | .mouse (.button button keyState) =>
    cases item with
    | key key => rfl
    | button button => simp [apply, isPressed, InputEvent.change, Function.update_apply]
  | .mouse (.move _ _) => rfl
  | .mouse (.position _ _) => rfl
  | .scroll _ => rfl

/-- Everything that `release_all` returns releases an item. -/
theorem change_of_mem_releaseAll {state : RemoteInputState} {event : InputEvent F32}
    (h : event ∈ state.releaseAll.1) : ∃ item, event.change = some (item, .released) := by
  rcases List.mem_append.mp h with h | h
  · obtain ⟨key, -, rfl⟩ := List.mem_map.mp h
    exact ⟨.key key, rfl⟩
  · obtain ⟨button, -, rfl⟩ := List.mem_map.mp h
    exact ⟨.button button, rfl⟩

/-- Every pressed item is released. -/
theorem exists_mem_releaseAll {state : RemoteInputState} {item : Item} (h : state.isPressed item) :
    ∃ event ∈ state.releaseAll.1, event.change = some (item, .released) := by
  cases item with
  | key key =>
    refine ⟨.key ⟨key, .released, Modifiers.none⟩, List.mem_append_left _ ?_, rfl⟩
    exact List.mem_map_of_mem (List.mem_filter.mpr ⟨key.mem_all, h⟩)
  | button button =>
    refine ⟨.mouse (.button button .released), List.mem_append_right _ ?_, rfl⟩
    exact List.mem_map_of_mem (List.mem_filter.mpr ⟨button.mem_all, h⟩)

end RemoteInputState

end Kmsync
