import Kmsync.Capture.Geometry
import Kmsync.Core.Decode
import Kmsync.ProofKit.Extended

/-! The injection of pointer and wheel events on Windows.  The pointer is tracked from event to
event and sent as a place on the virtual screen; the numbers of an event may be any that the wire
has. -/

namespace Kmsync.Windows

open ProofKit

section Numbers

instance : FloatLike Extended where
  half := .number (1 / 2)
  beq := Extended.equal
  decidableLT := inferInstance
  decidableLE := inferInstance

/-- The value of a bit pattern. -/
def value (bits : F32) : Extended :=
  let sign : Bool := 2 ^ 31 ≤ bits.toNat
  let exponent : ℕ := bits.toNat / 2 ^ 23 % 2 ^ 8
  let mantissa : ℕ := bits.toNat % 2 ^ 23
  if exponent = 255 then
    if mantissa = 0 then .infinite sign else .nan
  else
    let magnitude : ℚ :=
      if exponent = 0 then mantissa * 2 ^ (-149 : ℤ)
      else (2 ^ 23 + mantissa) * 2 ^ ((exponent : ℤ) - 150)
    .number (if sign then -magnitude else magnitude)

/-- The events whose numbers are looked at. -/
inductive NumericEvent where
  | move (dx dy : Extended)
  | position (xRatio yRatio : Extended)
  | scroll (event : ScrollEvent Extended)
  deriving DecidableEq

/-- What an event on the wire is injected as, if it has numbers. -/
def numeric : InputEvent F32 → Option NumericEvent
  | .mouse (.move dx dy) => some (.move (value dx) (value dy))
  | .mouse (.position xRatio yRatio) => some (.position (value xRatio) (value yRatio))
  | .scroll event => some (.scroll ⟨value event.dx, value event.dy⟩)
  | .key _ | .mouse (.button _ _) => none

end Numbers

section Inputs

def mouseeventfMove : UInt32 := 0x0001
def mouseeventfWheel : UInt32 := 0x0800
def mouseeventfHwheel : UInt32 := 0x1000
def mouseeventfVirtualdesk : UInt32 := 0x4000
def mouseeventfAbsolute : UInt32 := 0x8000

/-- `MOUSEINPUT` -/
structure MouseInput where
  dx : ℤ
  dy : ℤ
  mouseData : UInt32
  dwFlags : UInt32
  deriving DecidableEq

def mouseInput (mouseData flags : UInt32) : MouseInput := ⟨0, 0, mouseData, flags⟩

def wheelDelta : ℤ := 120

/-- `event.dy.round() as i32 * WHEEL_DELTA`; an overflow panics, where it is checked. -/
def wheelAmount (delta : Extended) : Checked String ℤ :=
  let amount := delta.round.toI32 * wheelDelta
  if -2 ^ 31 ≤ amount ∧ amount < 2 ^ 31 then .ok amount else .error .panic

/-- The input for one axis, if it moves. -/
def wheelInput (delta : Extended) (flags : UInt32) : Checked String (List MouseInput) := do
  if delta == 0 then return []
  let amount ← wheelAmount delta
  return [mouseInput (UInt32.ofInt amount) flags]

def buildScrollInputs (event : ScrollEvent Extended) : Checked String (List MouseInput) := do
  let vertical ← wheelInput event.dy mouseeventfWheel
  let horizontal ← wheelInput event.dx mouseeventfHwheel
  return vertical ++ horizontal

end Inputs

section Pointers

/-- The virtual screen, and where the cursor is, as the system gives them. -/
structure Screen where
  x : ℤ
  y : ℤ
  width : ℤ
  height : ℤ

def windowsVirtualDisplayBounds (screen : Screen) : Option (DisplayBounds Extended) :=
  if screen.width ≤ 0 ∨ screen.height ≤ 0 then none
  else some ⟨.number screen.x, .number screen.y, .number screen.width, .number screen.height⟩

def boundsOrError (screen : Screen) : Checked String (DisplayBounds Extended) :=
  match windowsVirtualDisplayBounds screen with
  | some bounds => .ok bounds
  | none => .error (.error "failed to read Windows virtual display bounds")

def normalizedPointerPosition (bounds : DisplayBounds Extended) (xRatio yRatio : Extended) :
    PointerPosition Extended where
  x := bounds.x + max (bounds.width - 1) 0 * clamp xRatio 0 1
  y := bounds.y + max (bounds.height - 1) 0 * clamp yRatio 0 1

def clampPointerToBounds (position : PointerPosition Extended) (bounds : DisplayBounds Extended) :
    PointerPosition Extended where
  x := clamp position.x bounds.x (bounds.x + bounds.width - 1)
  y := clamp position.y bounds.y (bounds.y + bounds.height - 1)

def normalizedAbsoluteCoordinate (ratio : Extended) : ℤ :=
  (clamp ratio 0 1 * .number 65535).round.toI32

def normalizedAbsoluteCoordinateForAxis (value origin length : Extended) : ℤ :=
  if length ≤ 1 then 0 else normalizedAbsoluteCoordinate ((value - origin) / (length - 1))

def absoluteMousePositionInputForPosition (bounds : DisplayBounds Extended)
    (position : PointerPosition Extended) : MouseInput :=
  let position := clampPointerToBounds position bounds
  { dx := normalizedAbsoluteCoordinateForAxis position.x bounds.x bounds.width
    dy := normalizedAbsoluteCoordinateForAxis position.y bounds.y bounds.height
    mouseData := 0
    dwFlags := mouseeventfMove ||| mouseeventfAbsolute ||| mouseeventfVirtualdesk }

/-- The pointer that is tracked, if there is one. -/
structure RemotePointerState where
  current : Option (PointerPosition Extended)
  deriving DecidableEq

/-- What `GetCursorPos` reads is asked for when no pointer is tracked. -/
def ensureRemotePointer (cursor : ℤ × ℤ) (pointer : RemotePointerState) :
    PointerPosition Extended :=
  pointer.current.getD ⟨.number cursor.1, .number cursor.2⟩

variable (screen : Screen) (cursor : ℤ × ℤ) (pointer : RemotePointerState)

def injectMouseMove (dx dy : Extended) : Checked String (RemotePointerState × List MouseInput) := do
  if dx == 0 && dy == 0 then return (pointer, [])
  let bounds ← boundsOrError screen
  let current := ensureRemotePointer cursor pointer
  let position := clampPointerToBounds ⟨current.x + dx, current.y + dy⟩ bounds
  return (⟨some position⟩, [absoluteMousePositionInputForPosition bounds position])

def injectMousePosition (xRatio yRatio : Extended) :
    Checked String (RemotePointerState × List MouseInput) := do
  let bounds ← boundsOrError screen
  let position := normalizedPointerPosition bounds xRatio yRatio
  return (⟨some position⟩, [absoluteMousePositionInputForPosition bounds position])

/-- `inject`: the pointer afterwards, and the inputs that are sent. -/
def inject : NumericEvent → Checked String (RemotePointerState × List MouseInput)
  | .move dx dy => injectMouseMove screen cursor pointer dx dy
  | .position xRatio yRatio => injectMousePosition screen xRatio yRatio
  | .scroll event => do return (pointer, ← buildScrollInputs event)

end Pointers

end Kmsync.Windows
