import Kmsync.Capture.Coherence
import Kmsync.Capture.Pointer
import Kmsync.ProofKit.Progress
import Mathlib.Tactic.Linarith
import Mathlib.Tactic.FieldSimp

/-! The user is never trapped on another machine.  Each edge has the sides of the screen that it
lies on; control passes over it by a move towards one of them, and moves that make up the other
machine's width or height in the opposite direction give it back. -/

namespace Kmsync

open ProofKit
open scoped ExactNumbers

section Clamping

variable {x : ℚ}

theorem clamp_pos (h : 0 < x) : 0 < clamp x 0 1 := by
  unfold clamp
  split
  next hLow => exact absurd hLow h.le.not_gt
  next =>
    split
    next => exact zero_lt_one
    next => exact h

theorem clamp_lt_one (h : x < 1) : clamp x 0 1 < 1 := by
  unfold clamp
  split
  next => exact zero_lt_one
  next =>
    split
    next hHigh => exact absurd hHigh h.le.not_gt
    next => exact h

theorem clamp_le_self (h : 0 ≤ x) : clamp x 0 1 ≤ x := by
  unfold clamp
  split
  next => exact h
  next =>
    split
    next hHigh => exact le_of_lt hHigh
    next => exact le_refl x

theorem self_le_clamp (h : x ≤ 1) : x ≤ clamp x 0 1 := by
  unfold clamp
  split
  next hLow => exact le_of_lt hLow
  next =>
    split
    next => exact h
    next => exact le_refl x

end Clamping

/-- A side of a screen. -/
inductive Side where
  | left | right | top | bottom
  deriving DecidableEq

namespace Side

def opposite : Side → Side
  | .left => .right
  | .right => .left
  | .top => .bottom
  | .bottom => .top

/-- How far a move goes towards the side. -/
def component : Side → ℚ → ℚ → ℚ
  | .left, dx, _ => -dx
  | .right, dx, _ => dx
  | .top, _, dy => -dy
  | .bottom, _, dy => dy

/-- The size of a screen across the side. -/
def extent : Side → ℚ × ℚ → ℚ
  | .left, size | .right, size => size.1
  | .top, size | .bottom, size => size.2

/-- What is left of the way to the side, of a screen of size 1. -/
def gap : Side → PointerEntryPosition ℚ → ℚ
  | .left, position => position.xRatio
  | .right, position => 1 - position.xRatio
  | .top, position => position.yRatio
  | .bottom, position => 1 - position.yRatio

theorem gap_le_one (side : Side) {position : PointerEntryPosition ℚ} (h : position.OnScreen) :
    side.gap position ≤ 1 := by
  obtain ⟨⟨hx, hx'⟩, hy, hy'⟩ := h
  cases side with
  | left => exact hx'
  | right => exact sub_le_self 1 hx
  | top => exact hy'
  | bottom => exact sub_le_self 1 hy

theorem gap_clamp (side : Side) {position : PointerEntryPosition ℚ} (h : 0 < side.gap position) :
    0 < side.gap ⟨clamp position.xRatio 0 1, clamp position.yRatio 0 1⟩ ∧
      side.gap ⟨clamp position.xRatio 0 1, clamp position.yRatio 0 1⟩ ≤ side.gap position := by
  cases side with
  | left => exact ⟨clamp_pos h, clamp_le_self h.le⟩
  | right =>
    have hLt : position.xRatio < 1 := sub_pos.mp h
    exact ⟨sub_pos.mpr (clamp_lt_one hLt), sub_le_sub_left (self_le_clamp hLt.le) 1⟩
  | top => exact ⟨clamp_pos h, clamp_le_self h.le⟩
  | bottom =>
    have hLt : position.yRatio < 1 := sub_pos.mp h
    exact ⟨sub_pos.mpr (clamp_lt_one hLt), sub_le_sub_left (self_le_clamp hLt.le) 1⟩

theorem extent_pos (side : Side) {size : ℚ × ℚ} (h : 0 < size.1 ∧ 0 < size.2) :
    0 < side.extent size := by
  cases side with
  | left | right => exact h.1
  | top | bottom => exact h.2

end Side

/-- The sides that an edge, or a corner, lies on. -/
def Edge.sides : Edge → List Side
  | .left => [.left]
  | .right => [.right]
  | .top => [.top]
  | .bottom => [.bottom]
  | .topLeft => [.left, .top]
  | .topRight => [.right, .top]
  | .bottomLeft => [.left, .bottom]
  | .bottomRight => [.right, .bottom]

theorem edgeActivationMotionMatches_iff {event : InputEvent ℚ} {edge : Edge} :
    edgeActivationMotionMatches event edge = true ↔
      ∃ dx dy, event = .mouse (.move dx dy) ∧ ∃ side ∈ edge.sides, 0 < side.component dx dy := by
  unfold edgeActivationMotionMatches
  split
  next dx dy => cases edge <;> simp [Edge.sides, Side.component]
  next hOther => exact iff_of_false Bool.false_ne_true fun ⟨dx, dy, hMove, _⟩ => hOther dx dy hMove

theorem remotePointerCrossedReturnEdge_iff {edge : Edge} {x y dx dy : ℚ} :
    remotePointerCrossedReturnEdge edge x y dx dy = true ↔
      ∃ side ∈ edge.sides, side.opposite.gap ⟨x, y⟩ ≤ 0 ∧ 0 < side.opposite.component dx dy := by
  unfold remotePointerCrossedReturnEdge
  cases edge <;> simp [Edge.sides, Side.opposite, Side.gap, Side.component]

namespace DesktopCaptureRouter

variable {router : DesktopCaptureRouter ℚ ℚ} {captured : CapturedInput ℚ ℚ} {now : Instant}
  {target : DesktopCaptureTarget} {size : ℚ × ℚ}

section Entering

/-- No edge takes control before the deadline. -/
def CooldownOver (router : DesktopCaptureRouter ℚ ℚ) (now : Instant) : Prop :=
  ∀ deadline ∈ router.cooldownUntil, deadline ≤ now

theorem cooldownOver_of_cooldownActive (h : (router.cooldownActive now).1 = false) :
    router.CooldownOver now := by
  intro deadline hDeadline
  rw [cooldownActive, Option.mem_def.mp hDeadline] at h
  dsimp only at h
  split at h
  next => cases h
  next hLate => exact not_lt.mp hLate

theorem shouldActivate_of_activateAtEdge (hBefore : router.active = none)
    (h : (router.activateAtEdge captured).2.2.active = some target) :
    router.shouldActivateAtEdge captured target.edge = true := by
  unfold activateAtEdge at h
  split at h
  next =>
    rw [hBefore] at h
    cases h
  next found hFind =>
    cases h
    have hFound := List.find?_some hFind
    exact hFound

theorem shouldActivate_of_activate (hBefore : router.active = none)
    (h : (router.activate captured now).2.2.active = some target) :
    router.shouldActivateAtEdge captured target.edge = true ∧ router.CooldownOver now := by
  have hNone : ¬ router.active.isSome = true := by simp [hBefore]
  rw [activate, if_neg hNone] at h
  have hOver : (router.cooldownActive now).1 = false → router.CooldownOver now :=
    cooldownOver_of_cooldownActive
  rcases cooldownActive_cases router now with hCool | hCool | hCool <;> rw [hCool] at h hOver
  · rw [hBefore] at h
    cases h
  · exact ⟨shouldActivate_of_activateAtEdge hBefore h, hOver rfl⟩
  · dsimp only at h
    have hCooled : { router with cooldownUntil := none }.active = none := hBefore
    have hShould := shouldActivate_of_activateAtEdge hCooled h
    exact ⟨hShould, hOver rfl⟩

/-- The second half of a call keeps the active target or gives control back. -/
theorem activate_of_route (hBefore : router.active = none) {applicationId : Option String}
    (h : (router.routeAtWithApplication captured applicationId now).2.active = some target) :
    (router.activate captured now).2.2.active = some target := by
  unfold routeAtWithApplication at h
  split at h
  next =>
    rw [hBefore] at h
    cases h
  split at h
  next => cases h
  dsimp only at h
  split at h
  next active hActive =>
    rcases routeActive_cases (router.activate captured now).2.2 hActive captured now
        (router.activate captured now).1 (router.activate captured now).2.1 with
      ⟨_, _, router', hRoute, hAfter, -⟩ | ⟨hRoute, -⟩
    · rw [hRoute, hAfter] at h
      exact hActive.trans h
    · rw [hRoute] at h
      cases h
  next hNone => exact h

end Entering

section Returning

variable {dx dy : ℚ}

/-- Where a move takes the remote pointer, before it is kept on the screen. -/
def movedPointer (router : DesktopCaptureRouter ℚ ℚ) (size : ℚ × ℚ) (dx dy : ℚ) :
    PointerEntryPosition ℚ :=
  let position := router.remotePointer.getD ⟨1 / 2, 1 / 2⟩
  ⟨position.xRatio + dx / size.1, position.yRatio + dy / size.2⟩

theorem referenceSize_none_pos (h : router.remotePointerReferenceSize none = some size) :
    0 < size.1 ∧ 0 < size.2 := by
  unfold remotePointerReferenceSize at h
  dsimp only at h
  split at h
  next => cases h
  next bounds _ =>
    split at h
    next => cases h
    next hBounds =>
      cases h
      obtain ⟨hWidth, hHeight⟩ := not_or.mp hBounds
      exact ⟨not_le.mp hWidth, not_le.mp hHeight⟩

theorem referenceSize_pos {display : Option DesktopDisplayState}
    (h : router.remotePointerReferenceSize display = some size) : 0 < size.1 ∧ 0 < size.2 := by
  cases display with
  | none => exact referenceSize_none_pos h
  | some display =>
    by_cases hDisplay : display.widthPx > 0 ∧ display.heightPx > 0
    · rw [remotePointerReferenceSize, if_pos hDisplay] at h
      cases h
      exact ⟨Nat.cast_pos.mpr hDisplay.1, Nat.cast_pos.mpr hDisplay.2⟩
    · rw [remotePointerReferenceSize, if_neg hDisplay] at h
      exact referenceSize_none_pos h

theorem remotePointerActionForMove_eq
    (hSize : router.remotePointerReferenceSize target.display = some size)
    (hMove : dx ≠ 0 ∨ dy ≠ 0) :
    router.remotePointerActionForMove dx dy target.edge target.display =
      let moved := router.movedPointer size dx dy
      if remotePointerCrossedReturnEdge target.edge moved.xRatio moved.yRatio dx dy then
        (.release, router)
      else
        (.event (.mouse (.move dx dy)),
          { router with remotePointer := some ⟨clamp moved.xRatio 0 1, clamp moved.yRatio 0 1⟩ }) := by
  have hMove' : ¬ ((dx == 0 && dy == 0) = true) := by
    rw [Bool.and_eq_true, beq_iff_eq, beq_iff_eq, not_and_or]
    exact hMove
  unfold remotePointerActionForMove
  rw [if_neg hMove', hSize]
  rfl

/-- What a move takes off the way to a side. -/
theorem gap_movedPointer (side : Side) (hSize : 0 < size.1 ∧ 0 < size.2) :
    side.gap (router.movedPointer size dx dy) * side.extent size + side.component dx dy =
      side.gap (router.remotePointer.getD ⟨1 / 2, 1 / 2⟩) * side.extent size := by
  have hWidth := hSize.1.ne'
  have hHeight := hSize.2.ne'
  cases side with
  | left | right =>
    simp only [Side.gap, Side.extent, Side.component, movedPointer]
    field_simp
    ring
  | top | bottom =>
    simp only [Side.gap, Side.extent, Side.component, movedPointer]
    field_simp
    ring

end Returning

end DesktopCaptureRouter

/-- A relative move of the mouse as it is captured. -/
structure CapturedMove where
  dx : ℚ
  dy : ℚ
  pointer : Option (PointerPosition ℚ)
  applicationId : Option String
  now : Instant

namespace CapturedMove

def input (move : CapturedMove) : CapturedInput ℚ ℚ := ⟨.mouse (.move move.dx move.dy), move.pointer⟩

def step (move : CapturedMove) : CaptureStep ℚ ℚ :=
  .captured move.input move.applicationId move.now

def towards (move : CapturedMove) (side : Side) : ℚ := side.component move.dx move.dy

theorem ne_zero_of_towards {move : CapturedMove} {side : Side} (h : 0 < move.towards side) :
    move.dx ≠ 0 ∨ move.dy ≠ 0 := by
  rw [towards] at h
  cases side with
  | left => exact Or.inl (neg_pos.mp h).ne
  | right => exact Or.inl h.ne'
  | top => exact Or.inr (neg_pos.mp h).ne
  | bottom => exact Or.inr h.ne'

end CapturedMove

namespace DesktopCaptureRouter

variable {router : DesktopCaptureRouter ℚ ℚ} {target : DesktopCaptureTarget} {size : ℚ × ℚ}

/-- What a move does while a target is active. -/
theorem route_move (hActive : router.active = some target) (move : CapturedMove) :
    router.routeAtWithApplication move.input move.applicationId move.now =
      router.routeActive target move.input move.now none none := by
  have hHotkey : isReleaseHotkey move.input .defaultRelease = false := rfl
  have hReserved : isSystemReservedShortcut move.input.event = false := rfl
  rw [routeAtWithApplication, matches_default, hReserved, hHotkey,
    activate_of_active (by rw [hActive]; rfl)]
  dsimp only
  rw [hActive]
  rfl

theorem route_move_eq (hActive : router.active = some target)
    (hSize : router.remotePointerReferenceSize target.display = some size) {move : CapturedMove}
    (hMove : move.dx ≠ 0 ∨ move.dy ≠ 0) :
    let moved := router.movedPointer size move.dx move.dy
    let after := router.routeAtWithApplication move.input move.applicationId move.now
    if remotePointerCrossedReturnEdge target.edge moved.xRatio moved.yRatio move.dx move.dy then
      after = ((DesktopCaptureRouteResult.stayLocal .continueInput).withPointerAction
        (some (.restore router.localRestorePosition)), router.giveBack move.now)
    else
      after.2 =
        { router with remotePointer := some ⟨clamp moved.xRatio 0 1, clamp moved.yRatio 0 1⟩ } := by
  dsimp only
  have hEvent : router.remoteEventForActiveCapture move.input.event target.edge target.display =
      router.remotePointerActionForMove move.dx move.dy target.edge target.display := rfl
  rw [route_move hActive, routeActive, hEvent, remotePointerActionForMove_eq hSize hMove]
  dsimp only
  split <;> rfl

end DesktopCaptureRouter

namespace DesktopCapture

variable {s : DesktopCapture ℚ ℚ} {target : DesktopCaptureTarget} {size : ℚ × ℚ} {side : Side}

section Naming

/-- A result that goes to another machine names the target that is active after the call. -/
def NamesActive (result : DesktopCaptureRouteResult ℚ ℚ) (after : DesktopCaptureRouter ℚ ℚ) : Prop :=
  result.route.sendRemote = true → ∃ target, after.active = some target ∧
    result.edge = some target.edge ∧ result.targetDeviceId = some target.targetDeviceId ∧
    result.profileName = some target.profileName

theorem namesActive_routed {router router' : DesktopCaptureRouter ℚ ℚ}
    {captured : CapturedInput ℚ ℚ} {result : DesktopCaptureRouteResult ℚ ℚ}
    (h : DesktopCaptureRouter.Routed router captured result router') : NamesActive result router' := by
  intro hRemote
  cases h with
  | entered router' target entry remoteEvent hBefore hMove hTarget hAfter =>
    exact ⟨target, hAfter, rfl, rfl, rfl⟩
  | remote router' target entry remoteEvent hReserved hHotkey hBefore hAfter =>
    exact ⟨target, hAfter, rfl, rfl, rfl⟩
  | _ => cases hRemote

end Naming

section Passing

/-- The step is a move outwards at the edge of the target, with the pointer there, while no cooldown
is running. -/
def EntersOutwards (s : DesktopCapture ℚ ℚ) (target : DesktopCaptureTarget)
    (step : CaptureStep ℚ ℚ) : Prop :=
  ∃ move : CapturedMove, step = move.step ∧ (∃ side ∈ target.edge.sides, 0 < move.towards side) ∧
    atEdge s.router.displayLayout move.pointer target.edge = true ∧ s.router.CooldownOver move.now

theorem entersOutwards {step : CaptureStep ℚ ℚ} (hBefore : s.router.active ≠ some target)
    (hAfter : (s.next step).router.active = some target) : s.EntersOutwards target step := by
  cases step with
  | captured input applicationId now =>
    change (s.router.routeAtWithApplication input applicationId now).2.active = some target at hAfter
    have hNone : s.router.active = none := by
      have hRouted := s.router.routed input applicationId now
      generalize s.router.routeAtWithApplication input applicationId now = answer
        at hRouted hAfter
      obtain ⟨result, after⟩ := answer
      cases hRouted with
      | reserved => exact absurd hAfter hBefore
      | hotkey _ _ _ hIdle => exact absurd (hIdle.symm.trans hAfter) nofun
      | idle _ hIdle => exact hIdle
      | returned _ _ _ hIdle => exact absurd (hIdle.symm.trans hAfter) nofun
      | entered _ _ _ _ hIdle => exact hIdle
      | remote _ _ _ _ _ _ hSame hSame' =>
        exact absurd (hSame.trans (hSame'.symm.trans hAfter)) hBefore
    obtain ⟨hEdge, hOver⟩ :=
      DesktopCaptureRouter.shouldActivate_of_activate hNone
        (DesktopCaptureRouter.activate_of_route hNone hAfter)
    obtain ⟨hAt, hMotion⟩ := Bool.and_eq_true_iff.mp hEdge
    obtain ⟨dx, dy, hEvent, hSide⟩ := edgeActivationMotionMatches_iff.mp hMotion
    obtain ⟨event, pointer⟩ := input
    cases hEvent
    exact ⟨⟨dx, dy, pointer, applicationId, now⟩, rfl, hSide, hAt, hOver⟩
  | planUpdates pending =>
    have hActive := applyPending_active pending s.router s.runtimePlan
    split at hActive
    next => exact absurd (hActive.symm.trans hAfter) nofun
    next => exact absurd (hActive.symm.trans hAfter) hBefore
  | replacePlan plan =>
    have hActive := replacePlan_active s.router plan
    split at hActive
    next => exact absurd (hActive.symm.trans hAfter) hBefore
    next => exact absurd (hActive.symm.trans hAfter) nofun

end Passing

section Escaping

/-- One of the moves gives control back, with the last of them at the latest. -/
def ReturnsWithin (s : DesktopCapture ℚ ℚ) (target : DesktopCaptureTarget)
    (moves : List CapturedMove) : Prop :=
  ∃ before move, before ++ [move] <+: moves ∧
    let held := s.after (before.map CapturedMove.step)
    held.router.active = some target ∧
      (held.router.routeAtWithApplication move.input move.applicationId move.now).1 =
        (DesktopCaptureRouteResult.stayLocal .continueInput).withPointerAction
          (some (.restore held.router.localRestorePosition)) ∧
      (held.next move.step).router.active = none

/-- The target is active, its screen has the size, and the remote pointer is on it. -/
structure Controls (target : DesktopCaptureTarget) (size : ℚ × ℚ) (s : DesktopCapture ℚ ℚ) :
    Prop where
  active : s.router.active = some target
  size : s.router.remotePointerReferenceSize target.display = some size

/-- A move towards the return side that does not give control back takes as much off the way there
as it is long. -/
theorem progresses (hSide : side ∈ target.edge.sides) :
    Progresses (fun s (move : CapturedMove) => s.next move.step) (Controls target size)
      (fun s move => (s.router.routeAtWithApplication move.input move.applicationId move.now) =
        ((DesktopCaptureRouteResult.stayLocal .continueInput).withPointerAction
          (some (.restore s.router.localRestorePosition)), s.router.giveBack move.now))
      (fun move => 0 < move.towards side.opposite)
      (fun s => side.opposite.gap (s.router.remotePointer.getD ⟨1 / 2, 1 / 2⟩) *
        side.opposite.extent size)
      (fun move => move.towards side.opposite) where
  step s move hInside hTowards := by
    have hPos := DesktopCaptureRouter.referenceSize_pos hInside.size
    have hExtent := side.opposite.extent_pos hPos
    have hRoute := DesktopCaptureRouter.route_move_eq hInside.active hInside.size
      (CapturedMove.ne_zero_of_towards hTowards)
    have hMoved : side.opposite.gap (s.router.movedPointer size move.dx move.dy) *
          side.opposite.extent size + move.towards side.opposite =
        side.opposite.gap (s.router.remotePointer.getD ⟨1 / 2, 1 / 2⟩) *
          side.opposite.extent size :=
      DesktopCaptureRouter.gap_movedPointer side.opposite hPos
    dsimp only at hRoute
    split at hRoute
    next => exact Or.inl hRoute
    next hStays =>
      right
      have hGap : 0 < side.opposite.gap (s.router.movedPointer size move.dx move.dy) := by
        by_contra hGap
        exact hStays (remotePointerCrossedReturnEdge_iff.mpr
          ⟨side, hSide, not_lt.mp hGap, hTowards⟩)
      obtain ⟨hGapPos, hGapLe⟩ := side.opposite.gap_clamp hGap
      have hRouter : (s.next move.step).router = { s.router with
          remotePointer := some ⟨clamp (s.router.movedPointer size move.dx move.dy).xRatio 0 1,
            clamp (s.router.movedPointer size move.dx move.dy).yRatio 0 1⟩ } := hRoute
      refine ⟨⟨by rw [hRouter]; exact hInside.active, by rw [hRouter]; exact hInside.size⟩, ?_, ?_⟩
      · rw [hRouter]
        exact mul_pos hGapPos hExtent
      · rw [hRouter, ← hMoved]
        exact add_le_add_left (mul_le_mul_of_nonneg_right hGapLe hExtent.le) _

theorem returnsWithin (hCoherent : s.router.Coherent) (hInside : Controls target size s)
    (hSide : side ∈ target.edge.sides) {moves : List CapturedMove}
    (hTowards : ∀ move ∈ moves, 0 < move.towards side.opposite)
    (hSum : side.extent size ≤ (moves.map fun move => move.towards side.opposite).sum) :
    s.ReturnsWithin target moves := by
  have hExtent : 0 < side.extent size :=
    side.extent_pos (DesktopCaptureRouter.referenceSize_pos hInside.size)
  have hSame : side.opposite.extent size = side.extent size := by cases side <;> rfl
  have hOnScreen : (s.router.remotePointer.getD ⟨1 / 2, 1 / 2⟩).OnScreen := by
    cases hPointer : s.router.remotePointer with
    | none => exact ⟨by norm_num, by norm_num⟩
    | some position => exact hCoherent.onScreen position hPointer
  have hWay : side.opposite.gap (s.router.remotePointer.getD ⟨1 / 2, 1 / 2⟩) *
      side.opposite.extent size ≤ (moves.map fun move => move.towards side.opposite).sum := by
    rw [hSame]
    exact (mul_le_of_le_one_left hExtent.le (side.opposite.gap_le_one hOnScreen)).trans hSum
  have hNonempty : moves ≠ [] := by
    rintro rfl
    exact absurd hSum (not_le_of_gt hExtent)
  obtain ⟨before, move, hPrefix, hHeld, hEnds⟩ :=
    (progresses hSide).exists_end hInside hNonempty hTowards hWay
  have hAfter : before.foldl (fun s (move : CapturedMove) => s.next move.step) s =
      s.after (before.map CapturedMove.step) := List.foldl_map.symm
  rw [hAfter] at hHeld hEnds
  refine ⟨before, move, hPrefix, hHeld.active, by rw [hEnds], ?_⟩
  have hNext : ((s.after (before.map CapturedMove.step)).next move.step).router =
      (s.after (before.map CapturedMove.step)).router.giveBack move.now := congrArg Prod.snd hEnds
  rw [hNext]
  rfl

end Escaping

/-- In every state that the capture can get to, the fields of the router agree with each other, what
is sent names the active target, and control passes only by a move outwards.  While a target is
active whose screen has a size, moves away from a side that its edge lies on give control back, at
the latest with the one by which they make up that size. -/
theorem capture_returns (plan : DesktopCapturePlan) (displayLayout : DisplayLayout ℚ)
    (steps : List (CaptureStep ℚ ℚ)) :
    let s := (start plan displayLayout).after steps
    s.router.Coherent ∧
    (∀ captured applicationId now,
      let (result, after) := s.router.routeAtWithApplication captured applicationId now
      NamesActive result after) ∧
    (∀ step target, s.router.active ≠ some target → (s.next step).router.active = some target →
      s.EntersOutwards target step) ∧
    ∀ target size, s.router.active = some target →
      s.router.remotePointerReferenceSize target.display = some size →
      ∀ side ∈ target.edge.sides, ∀ moves : List CapturedMove,
        (∀ move ∈ moves, 0 < move.towards side.opposite) →
        side.extent size ≤ (moves.map fun move => move.towards side.opposite).sum →
        s.ReturnsWithin target moves := by
  have hCoherent := coherent_after plan displayLayout steps
  refine ⟨hCoherent, fun captured applicationId now => ?_, fun step target hBefore hAfter => ?_,
    fun target size hActive hSize side hSide moves hTowards hSum => ?_⟩
  · exact namesActive_routed (DesktopCaptureRouter.routed _ captured applicationId now)
  · exact entersOutwards hBefore hAfter
  · exact returnsWithin hCoherent ⟨hActive, hSize⟩ hSide hTowards hSum

/-- Behind the right edge of a display of 100 by 100, two moves to the left that make up 100. -/
theorem capture_returns_old :
    ((start (samplePlan "old") sampleLayout).after [moveOverEdge]).ReturnsWithin
      ⟨.right, "old", .macToWindows, none⟩
      [⟨-60, 5, none, none, 10⟩, ⟨-40, -70, none, some "app", 20⟩] := by
  have hReturns := (capture_returns (samplePlan "old") sampleLayout [moveOverEdge]).2.2.2
    ⟨.right, "old", .macToWindows, none⟩ (100, 100) (by decide +kernel) (by decide +kernel)
    .right (by decide)
  exact hReturns _ (by decide +kernel) (by decide +kernel)

end DesktopCapture

end Kmsync
