import Kmsync.Capture.Routing
import Mathlib.Data.List.Infix

/-! The capture loop around the router.  Each captured input first takes the plans that are waiting;
its result is queued for the target, and shows or hides the pointer of this machine. -/

namespace Kmsync

section Pointer

/-- The calls that the platform gets. -/
inductive PointerCall (ψ : Type) where
  | hideLocalPointer
  | restoreLocalPointer (position : Option (PointerPosition ψ))
  deriving DecidableEq

variable {ψ : Type}

/-- The call that is made, if any, and the flag after it. -/
def restoreLocalPointerIfHidden (hidden : Bool) (position : Option (PointerPosition ψ)) :
    Option (PointerCall ψ) × Bool :=
  if hidden then (some (.restoreLocalPointer position), false) else (none, false)

def applyLocalPointerAction (action : Option (LocalPointerAction ψ)) (hidden : Bool) :
    Option (PointerCall ψ) × Bool :=
  match action with
  | some .hide => if hidden then (none, true) else (some .hideLocalPointer, true)
  | some (.restore position) => restoreLocalPointerIfHidden hidden position
  | none => (none, hidden)

end Pointer

/-- What the capture callback keeps between its calls, with what it has asked of the platform and of
the queue so far. -/
structure DesktopCapture (φ ψ : Type) where
  router : DesktopCaptureRouter φ ψ
  runtimePlan : DesktopCapturePlan
  localPointerHidden : Bool
  pointerCalls : List (PointerCall ψ)
  queue : List (TargetedQueuedInputEvent φ)

inductive CaptureStep (φ ψ : Type) where
  | captured (input : CapturedInput φ ψ) (applicationId : Option String) (now : Instant)
  | planUpdates (pending : List DesktopCapturePlan)
  | replacePlan (plan : DesktopCapturePlan)

namespace DesktopCapture

variable {φ ψ : Type}

def start (plan : DesktopCapturePlan) (displayLayout : DisplayLayout ψ) : DesktopCapture φ ψ :=
  ⟨.withDisplayLayout plan displayLayout, plan, false, [], []⟩

variable [FloatLike φ] [FloatLike ψ] [FloatPair φ ψ]

def next (s : DesktopCapture φ ψ) : CaptureStep φ ψ → DesktopCapture φ ψ
  | .captured input applicationId now =>
    let (result, router) := s.router.routeAtWithApplication input applicationId now
    let (call, hidden) := applyLocalPointerAction result.route.localPointerAction s.localPointerHidden
    { s with
      router, localPointerHidden := hidden
      pointerCalls := s.pointerCalls ++ call.toList
      queue := s.queue ++ enqueueDesktopCapture result }
  | .planUpdates pending =>
    let (_, router, runtimePlan) :=
      applyPendingDesktopCapturePlanUpdates pending s.router s.runtimePlan
    { s with router, runtimePlan }
  | .replacePlan plan => { s with router := s.router.replacePlan plan }

/-- The capture after some steps. -/
def after (s : DesktopCapture φ ψ) (steps : List (CaptureStep φ ψ)) : DesktopCapture φ ψ :=
  steps.foldl next s

theorem after_append (s : DesktopCapture φ ψ) (steps steps' : List (CaptureStep φ ψ)) :
    s.after (steps ++ steps') = (s.after steps).after steps' :=
  List.foldl_append

theorem after_snoc (s : DesktopCapture φ ψ) (steps : List (CaptureStep φ ψ))
    (step : CaptureStep φ ψ) : s.after (steps ++ [step]) = (s.after steps).next step := by
  rw [after_append]
  rfl

end DesktopCapture

section PlanUpdates

variable {φ ψ : Type}

/-- One of the waiting plans changes the plan of the router. -/
def replacesPlan : List DesktopCapturePlan → DesktopCapturePlan → DesktopCapturePlan → Bool
  | [], _, _ => false
  | latestPlan :: pending, plan, runtimePlan =>
    if latestPlan ≠ runtimePlan then
      plan ≠ latestPlan || replacesPlan pending latestPlan latestPlan
    else
      replacesPlan pending plan runtimePlan

theorem replacePlan_active (router : DesktopCaptureRouter φ ψ) (plan : DesktopCapturePlan) :
    (router.replacePlan plan).active = if router.plan = plan then router.active else none := by
  unfold DesktopCaptureRouter.replacePlan
  split <;> rfl

@[simp] theorem replacePlan_plan (router : DesktopCaptureRouter φ ψ) (plan : DesktopCapturePlan) :
    (router.replacePlan plan).plan = plan := by
  unfold DesktopCaptureRouter.replacePlan
  split
  next hSame => exact hSame
  next => rfl

/-- Waiting plans leave the active target alone exactly if none of them changes the plan. -/
theorem applyPending_active (pending : List DesktopCapturePlan) (router : DesktopCaptureRouter φ ψ)
    (runtimePlan : DesktopCapturePlan) :
    (applyPendingDesktopCapturePlanUpdates pending router runtimePlan).2.1.active =
      if replacesPlan pending router.plan runtimePlan then none else router.active := by
  induction pending generalizing router runtimePlan with
  | nil => rfl
  | cons latestPlan pending ih =>
    unfold applyPendingDesktopCapturePlanUpdates replacesPlan
    by_cases hLatest : latestPlan ≠ runtimePlan
    · rw [if_pos hLatest, if_pos hLatest]
      dsimp only
      rw [ih, replacePlan_active, replacePlan_plan]
      by_cases hPlan : router.plan = latestPlan
      · simp [hPlan]
      · simp [hPlan]
    · rw [if_neg hLatest, if_neg hLatest]
      exact ih router runtimePlan

end PlanUpdates

/-- A new plan takes the active target away. -/
def DesktopCapture.dropsTarget {φ ψ : Type} (s : DesktopCapture φ ψ) : CaptureStep φ ψ → Bool
  | .captured _ _ _ => false
  | .planUpdates pending =>
    s.router.active.isSome && replacesPlan pending s.router.plan s.runtimePlan
  | .replacePlan plan => s.router.active.isSome && s.router.plan ≠ plan

end Kmsync
