import Kmsync.Core.Event
import Kmsync.ProofKit.Extended
import Mathlib.Data.List.ReduceOption

/-! The injection of moves and wheel events on X11.  The server takes whole pixels and clicks of a
button for each step, and every event is rounded on its own. -/

namespace Kmsync.X11

open ProofKit

section Inputs

/-- The types of the events that are injected, `xproto`'s constants. -/
inductive EventType where
  | buttonPress | buttonRelease | motionNotify
  deriving DecidableEq

/-- A call of `fake_input`. -/
structure FakeInput where
  eventType : EventType
  detail : UInt8
  root : UInt32
  rootX : ℤ
  rootY : ℤ
  deriving DecidableEq

def buttonEventType : KeyState → EventType
  | .pressed => .buttonPress
  | .released => .buttonRelease

def injectButton (detail : UInt8) (state : KeyState) : FakeInput :=
  ⟨buttonEventType state, detail, 0, 0, 0⟩

def roundedI16 : Extended → ℤ
  | .number q => max (-2 ^ 15) (min (roundAway q) (2 ^ 15 - 1))
  | .infinite _ | .nan => 0

/-- The button of an axis, and how often it is clicked. -/
def scrollAxisButton (value : Extended) (positiveButton negativeButton : UInt8) :
    Option (UInt8 × UInt8) :=
  let steps := roundedI16 value
  if 0 < steps then some (positiveButton, .ofNat (min steps.natAbs 255))
  else if steps < 0 then some (negativeButton, .ofNat (min steps.natAbs 255))
  else none

def x11ScrollButtonSequence (event : ScrollEvent Extended) : List (Option (UInt8 × UInt8)) :=
  [scrollAxisButton event.dy 4 5, scrollAxisButton event.dx 7 6]

/-- A button clicked a number of times. -/
def clicks (button : UInt8 × UInt8) : List FakeInput :=
  (List.replicate button.2.toNat
    [injectButton button.1 .pressed, injectButton button.1 .released]).flatten

def injectScroll (event : ScrollEvent Extended) : List FakeInput :=
  (x11ScrollButtonSequence event).reduceOption.flatMap clicks

def x11RelativeMotion (dx dy : Extended) : ℤ × ℤ := (roundedI16 dx, roundedI16 dy)

def injectRelativeMotion (dx dy : Extended) : List FakeInput :=
  let root := x11RelativeMotion dx dy
  if root.1 = 0 ∧ root.2 = 0 then [] else [⟨.motionNotify, 1, 0, root.1, root.2⟩]

/-- The events that move by an amount. -/
inductive MotionEvent (φ : Type) where
  | move (dx dy : φ)
  | scroll (event : ScrollEvent φ)

/-- The calls for an event, when none of them fails. -/
def inject : MotionEvent ℚ → List FakeInput
  | .move dx dy => injectRelativeMotion (.number dx) (.number dy)
  | .scroll event => injectScroll ⟨.number event.dx, .number event.dy⟩

end Inputs

section Axes

/-- What is added up.  The presses and the releases of a wheel's buttons are counted apart. -/
inductive Axis where
  | moveX | moveY
  | scrollX (state : KeyState)
  | scrollY (state : KeyState)

/-- What an event asks for on an axis. -/
def Axis.delta : Axis → MotionEvent ℚ → ℚ
  | .moveX, .move dx _ => dx
  | .moveY, .move _ dy => dy
  | .scrollX _, .scroll event => event.dx
  | .scrollY _, .scroll event => event.dy
  | _, _ => 0

/-- What the calls come to on an axis. -/
def Axis.injected (inputs : List FakeInput) : Axis → ℤ
  | .moveX => ((inputs.filter fun input => input.eventType = .motionNotify).map (·.rootX)).sum
  | .moveY => ((inputs.filter fun input => input.eventType = .motionNotify).map (·.rootY)).sum
  | .scrollX state => inputs.count (injectButton 7 state) - inputs.count (injectButton 6 state)
  | .scrollY state => inputs.count (injectButton 4 state) - inputs.count (injectButton 5 state)

/-- The deltas fit in an `i16`, or in the steps of a wheel that are counted. -/
def MotionEvent.InRange : MotionEvent ℚ → Prop
  | .move dx dy => (-2 ^ 15 ≤ dx ∧ dx ≤ 2 ^ 15 - 1) ∧ -2 ^ 15 ≤ dy ∧ dy ≤ 2 ^ 15 - 1
  | .scroll event => |event.dx| ≤ 255 ∧ |event.dy| ≤ 255

instance (event : MotionEvent ℚ) : Decidable event.InRange := by
  cases event <;> exact inferInstanceAs (Decidable (_ ∧ _))

end Axes

end Kmsync.X11
