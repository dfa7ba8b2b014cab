import Kmsync.Core.Event
import Mathlib.Algebra.Field.Rat
import Mathlib.Algebra.Order.Ring.Rat

/-! Where the pointer is, on the displays of a machine and on those of the machine next to it.  The
numbers are those of two floating-point types of which no law is assumed, so that what is proved of
the router holds for all of their values and for exact numbers alike. -/

namespace Kmsync

/-- The operations of a floating-point type. -/
class FloatLike (φ : Type) extends Zero φ, One φ, Add φ, Sub φ, Div φ, LT φ, LE φ, Min φ, Max φ,
    NatCast φ, BEq φ where
  half : φ
  decidableLT : DecidableLT φ
  decidableLE : DecidableLE φ

attribute [reducible, instance] FloatLike.decidableLT FloatLike.decidableLE

/-- The conversions between `f32` and `f64`. -/
class FloatPair (φ ψ : Type) where
  /-- `f64::from` -/
  widen : φ → ψ
  /-- `as f32` -/
  narrow : ψ → φ

/-- `clamp(min, max)` of the floating-point types -/
def clamp {φ : Type} [FloatLike φ] (x low high : φ) : φ :=
  if x < low then low else if x > high then high else x

namespace ExactNumbers

/-- Exact numbers, in place of both types. -/
scoped instance : FloatLike ℚ where
  min x y := if x ≤ y then x else y
  max x y := if x ≤ y then y else x
  half := 1 / 2
  decidableLT := inferInstance
  decidableLE := inferInstance

end ExactNumbers

instance : FloatPair ℚ ℚ := ⟨id, id⟩

inductive Edge where
  | left | right | top | bottom | topLeft | topRight | bottomLeft | bottomRight
  deriving DecidableEq

section Displays

variable {ψ : Type} [FloatLike ψ]

structure PointerPosition (ψ : Type) where
  x : ψ
  y : ψ
  deriving DecidableEq

structure DisplayBounds (ψ : Type) where
  x : ψ
  y : ψ
  width : ψ
  height : ψ

structure DisplayLayout (ψ : Type) where
  displays : List (DisplayBounds ψ)

namespace DisplayLayout

def fromPrimary (primary : Option (DisplayBounds ψ)) : DisplayLayout ψ := ⟨primary.toList⟩

/-- The sides of the smallest rectangle around the displays: left, top, right and bottom. -/
def sides (first : DisplayBounds ψ) (rest : List (DisplayBounds ψ)) : ψ × ψ × ψ × ψ :=
  rest.foldl
    (fun (left, top, right, bottom) display =>
      (min left display.x, min top display.y, max right (display.x + display.width),
        max bottom (display.y + display.height)))
    (first.x, first.y, first.x + first.width, first.y + first.height)

def virtualBounds (layout : DisplayLayout ψ) : Option (DisplayBounds ψ) :=
  match layout.displays with
  | [] => none
  | first :: rest =>
    let (left, top, right, bottom) := sides first rest
    some ⟨left, top, right - left, bottom - top⟩

end DisplayLayout

/-- `at_edge`, within a threshold of 8 -/
def atEdge (layout : DisplayLayout ψ) (pointer : Option (PointerPosition ψ)) (edge : Edge) : Bool :=
  match pointer, layout.virtualBounds with
  | some pointer, some bounds =>
    let threshold : ψ := ((8 : ℕ) : ψ)
    let left := decide (pointer.x ≤ bounds.x + threshold)
    let right := decide (pointer.x ≥ bounds.x + bounds.width - threshold)
    let top := decide (pointer.y ≤ bounds.y + threshold)
    let bottom := decide (pointer.y ≥ bounds.y + bounds.height - threshold)
    match edge with
    | .left => left
    | .right => right
    | .top => top
    | .bottom => bottom
    | .topLeft => left && top
    | .topRight => right && top
    | .bottomLeft => left && bottom
    | .bottomRight => right && bottom
  | _, _ => false

end Displays

section Ratios

variable {φ ψ : Type} [FloatLike φ] [FloatLike ψ] [FloatPair φ ψ]

structure PointerEntryPosition (φ : Type) where
  xRatio : φ
  yRatio : φ
  deriving DecidableEq

/-- The pointer comes in at the opposite side of the other machine. -/
def entryPosition (layout : DisplayLayout ψ) (pointer : Option (PointerPosition ψ)) (edge : Edge) :
    Option (PointerEntryPosition φ) :=
  match pointer, layout.virtualBounds with
  | some pointer, some bounds =>
    if bounds.width ≤ 0 ∨ bounds.height ≤ 0 then
      none
    else
      let xRatio : φ := FloatPair.narrow (clamp ((pointer.x - bounds.x) / bounds.width) 0 1)
      let yRatio : φ := FloatPair.narrow (clamp ((pointer.y - bounds.y) / bounds.height) 0 1)
      some <|
        match edge with
        | .left => ⟨1, yRatio⟩
        | .right => ⟨0, yRatio⟩
        | .top => ⟨xRatio, 1⟩
        | .bottom => ⟨xRatio, 0⟩
        | .topLeft => ⟨1, 1⟩
        | .topRight => ⟨0, 1⟩
        | .bottomLeft => ⟨1, 0⟩
        | .bottomRight => ⟨0, 0⟩
  | _, _ => none

/-- Control passes over an edge only by a move towards it. -/
def edgeActivationMotionMatches (event : InputEvent φ) (edge : Edge) : Bool :=
  match event with
  | .mouse (.move dx dy) =>
    match edge with
    | .left => decide (dx < 0)
    | .right => decide (dx > 0)
    | .top => decide (dy < 0)
    | .bottom => decide (dy > 0)
    | .topLeft => decide (dx < 0) || decide (dy < 0)
    | .topRight => decide (dx > 0) || decide (dy < 0)
    | .bottomLeft => decide (dx < 0) || decide (dy > 0)
    | .bottomRight => decide (dx > 0) || decide (dy > 0)
  | _ => false

def remotePointerCrossedReturnEdge (activeEdge : Edge) (xRatio yRatio dx dy : φ) : Bool :=
  let leavesRight := decide (xRatio ≥ 1) && decide (dx > 0)
  let leavesLeft := decide (xRatio ≤ 0) && decide (dx < 0)
  let leavesBottom := decide (yRatio ≥ 1) && decide (dy > 0)
  let leavesTop := decide (yRatio ≤ 0) && decide (dy < 0)
  match activeEdge with
  | .left => leavesRight
  | .right => leavesLeft
  | .top => leavesBottom
  | .bottom => leavesTop
  | .topLeft => leavesRight || leavesBottom
  | .topRight => leavesLeft || leavesBottom
  | .bottomLeft => leavesRight || leavesTop
  | .bottomRight => leavesLeft || leavesTop

end Ratios

end Kmsync
