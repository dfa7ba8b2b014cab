import Kmsync.Capture.Session

/-! What holds of the router in every state that it can get to, with exact numbers: without an
active target it remembers nothing of one, an active target is one of the plan's, and the remote
pointer stays on the other machine's screen. -/

namespace Kmsync

open scoped ExactNumbers

theorem clamp_mem (x : ℚ) : 0 ≤ clamp x 0 1 ∧ clamp x 0 1 ≤ 1 := by
  unfold clamp
  split
  next => exact ⟨le_refl 0, zero_le_one⟩
  next hLow =>
    split
    next => exact ⟨zero_le_one, le_refl 1⟩
    next hHigh => exact ⟨not_lt.mp hLow, not_lt.mp hHigh⟩

/-- Both ratios are between 0 and 1. -/
structure PointerEntryPosition.OnScreen (position : PointerEntryPosition ℚ) : Prop where
  x : 0 ≤ position.xRatio ∧ position.xRatio ≤ 1
  y : 0 ≤ position.yRatio ∧ position.yRatio ≤ 1

theorem onScreen_clamp (x y : ℚ) : PointerEntryPosition.OnScreen ⟨clamp x 0 1, clamp y 0 1⟩ :=
  ⟨clamp_mem x, clamp_mem y⟩

theorem onScreen_entryPosition {layout : DisplayLayout ℚ} {pointer : Option (PointerPosition ℚ)}
    {edge : Edge} {position : PointerEntryPosition ℚ}
    (h : entryPosition layout pointer edge = some position) : position.OnScreen := by
  have hZero : (0 : ℚ) ≤ 0 ∧ (0 : ℚ) ≤ 1 := ⟨le_refl 0, zero_le_one⟩
  have hOne : (0 : ℚ) ≤ 1 ∧ (1 : ℚ) ≤ 1 := ⟨zero_le_one, le_refl 1⟩
  unfold entryPosition at h
  split at h
  next pointer bounds _ =>
    split at h
    next => cases h
    next =>
      cases h
      cases edge with
      | left => exact ⟨hOne, clamp_mem _⟩
      | right => exact ⟨hZero, clamp_mem _⟩
      | top => exact ⟨clamp_mem _, hOne⟩
      | bottom => exact ⟨clamp_mem _, hZero⟩
      | topLeft => exact ⟨hOne, hOne⟩
      | topRight => exact ⟨hZero, hOne⟩
      | bottomLeft => exact ⟨hOne, hZero⟩
      | bottomRight => exact ⟨hZero, hZero⟩
  next => cases h

namespace DesktopCaptureRouter

variable {router router' : DesktopCaptureRouter ℚ ℚ} {captured : CapturedInput ℚ ℚ} {now : Instant}

/-- What the fields of a router say of each other. -/
structure Coherent (router : DesktopCaptureRouter ℚ ℚ) : Prop where
  forgets : router.active = none → router.remotePointer = none ∧ router.localRestorePosition = none
  planned : ∀ target ∈ router.active, target ∈ router.plan.targets
  onScreen : ∀ position ∈ router.remotePointer, position.OnScreen

/-- A router without an active target, and without what would belong to one. -/
theorem Coherent.of_idle (hActive : router.active = none) (hPointer : router.remotePointer = none)
    (hRestore : router.localRestorePosition = none) : router.Coherent where
  forgets _ := ⟨hPointer, hRestore⟩
  planned target hTarget := by rw [hActive] at hTarget; cases hTarget
  onScreen position hPosition := by rw [hPointer] at hPosition; cases hPosition

theorem Coherent.replacePlan (h : router.Coherent) (plan : DesktopCapturePlan) :
    (router.replacePlan plan).Coherent := by
  unfold DesktopCaptureRouter.replacePlan
  split
  next => exact h
  next => exact .of_idle rfl rfl rfl

theorem Coherent.applyPending (h : router.Coherent) (pending : List DesktopCapturePlan)
    (runtimePlan : DesktopCapturePlan) :
    (applyPendingDesktopCapturePlanUpdates pending router runtimePlan).2.1.Coherent := by
  induction pending generalizing router runtimePlan with
  | nil => exact h
  | cons latestPlan pending ih =>
    unfold applyPendingDesktopCapturePlanUpdates
    split
    next => exact ih (h.replacePlan latestPlan) latestPlan
    next => exact ih h runtimePlan

theorem Coherent.cooldown (h : router.Coherent) (cooldownUntil : Option Instant) :
    { router with cooldownUntil }.Coherent :=
  ⟨h.forgets, h.planned, h.onScreen⟩

theorem Coherent.activateAtEdge (h : router.Coherent) :
    (router.activateAtEdge captured).2.2.Coherent := by
  unfold DesktopCaptureRouter.activateAtEdge
  split
  next => exact h
  next target hFind =>
    refine ⟨nofun, fun other hOther => ?_, fun position hPosition =>
      onScreen_entryPosition hPosition⟩
    cases hOther
    exact List.mem_of_find?_eq_some hFind

theorem Coherent.activate (h : router.Coherent) : (router.activate captured now).2.2.Coherent := by
  unfold DesktopCaptureRouter.activate
  split
  next => exact h
  next =>
    rcases cooldownActive_cases router now with hCool | hCool | hCool <;> rw [hCool]
    · exact h
    · exact h.activateAtEdge
    · exact (h.cooldown none).activateAtEdge

/-- A move keeps the remote pointer on the screen, and nothing else changes. -/
theorem Coherent.remoteEvent (h : router.Coherent) (hActive : router.active.isSome = true)
    (event : InputEvent ℚ) (edge : Edge) (display : Option DesktopDisplayState) :
    (router.remoteEventForActiveCapture event edge display).2.Coherent := by
  unfold remoteEventForActiveCapture
  split
  next dx dy =>
    unfold remotePointerActionForMove
    split
    · exact h
    split
    · exact h
    dsimp only
    split
    · exact h
    · refine ⟨fun hNone => ?_, h.planned, fun position hPosition => ?_⟩
      · change router.active = none at hNone
        rw [hNone] at hActive
        cases hActive
      · cases hPosition
        exact onScreen_clamp _ _
  next => exact h

theorem Coherent.giveBack : (router.giveBack now).Coherent := .of_idle rfl rfl rfl

theorem Coherent.routeActive (h : router.Coherent) (hActive : router.active.isSome = true)
    (target : DesktopCaptureTarget) (entry : Option (PointerEntryPosition ℚ))
    (action : Option (LocalPointerAction ℚ)) :
    (router.routeActive target captured now entry action).2.Coherent := by
  have hEvent := h.remoteEvent hActive captured.event target.edge target.display
  unfold DesktopCaptureRouter.routeActive
  generalize router.remoteEventForActiveCapture captured.event target.edge target.display = answer
    at hEvent
  obtain ⟨answer, after⟩ := answer
  split
  next =>
    split
    next => cases answer <;> exact hEvent
    next => exact h
  next =>
    cases answer with
    | event event => exact hEvent
    | release => exact .giveBack
    | none => exact hEvent

theorem Coherent.route (h : router.Coherent) (applicationId : Option String) :
    (router.routeAtWithApplication captured applicationId now).2.Coherent := by
  unfold routeAtWithApplication
  split
  next => exact h
  split
  next => exact .giveBack
  dsimp only
  have hActivated : (router.activate captured now).2.2.Coherent := h.activate
  split
  next active hActive => exact hActivated.routeActive (by rw [hActive]; rfl) active _ _
  next => exact hActivated

end DesktopCaptureRouter

section Plans

namespace DesktopCaptureRouter

variable {router : DesktopCaptureRouter ℚ ℚ} {captured : CapturedInput ℚ ℚ} {now : Instant}

theorem activateAtEdge_plan : (router.activateAtEdge captured).2.2.plan = router.plan := by
  unfold activateAtEdge
  split <;> rfl

theorem activate_plan : (router.activate captured now).2.2.plan = router.plan := by
  unfold activate
  split
  next => rfl
  next =>
    rcases cooldownActive_cases router now with hCool | hCool | hCool <;> rw [hCool]
    · exact activateAtEdge_plan
    · exact activateAtEdge_plan

theorem routeActive_plan (target : DesktopCaptureTarget) (entry : Option (PointerEntryPosition ℚ))
    (action : Option (LocalPointerAction ℚ)) :
    (router.routeActive target captured now entry action).2.plan = router.plan := by
  unfold routeActive
  rcases remoteEvent_cases router captured.event target.edge target.display with
    ⟨remotePointer, hEvent⟩ | ⟨hEvent, -⟩ | ⟨hEvent, -⟩ <;> rw [hEvent]
  all_goals
    split
    · split <;> rfl
    · rfl

/-- Captured input leaves the plan as it is. -/
theorem route_plan (applicationId : Option String) :
    (router.routeAtWithApplication captured applicationId now).2.plan = router.plan := by
  unfold routeAtWithApplication
  split
  next => rfl
  split
  next => rfl
  dsimp only
  split
  next => exact (routeActive_plan _ _ _).trans activate_plan
  next => exact activate_plan

end DesktopCaptureRouter

variable {φ ψ : Type}

/-- Of the plans that are waiting the last one becomes the plan. -/
theorem applyPending_plan (pending : List DesktopCapturePlan) (router : DesktopCaptureRouter φ ψ) :
    (applyPendingDesktopCapturePlanUpdates pending router router.plan).2.1.plan =
      pending.getLast?.getD router.plan := by
  induction pending generalizing router with
  | nil => rfl
  | cons latestPlan pending ih =>
    unfold applyPendingDesktopCapturePlanUpdates
    rw [List.getLast?_cons, Option.getD_some]
    split
    next =>
      have hNext := ih (router.replacePlan latestPlan)
      rw [replacePlan_plan] at hNext
      exact hNext
    next hSame =>
      rw [ih, not_not.mp hSame]

/-- The plan behind a step. -/
def CaptureStep.handedOver (plan : DesktopCapturePlan) : CaptureStep φ ψ → DesktopCapturePlan
  | .captured _ _ _ => plan
  | .planUpdates pending => pending.getLast?.getD plan
  | .replacePlan latestPlan => latestPlan

end Plans

namespace DesktopCapture

/-- The plan is the one that was handed over last. -/
theorem plan_next (s : DesktopCapture ℚ ℚ) (step : CaptureStep ℚ ℚ)
    (hPending : ∀ pending, step = .planUpdates pending → s.runtimePlan = s.router.plan) :
    (s.next step).router.plan = step.handedOver s.router.plan := by
  cases step with
  | captured input applicationId now => exact DesktopCaptureRouter.route_plan applicationId
  | planUpdates pending =>
    rw [next, hPending pending rfl]
    exact applyPending_plan pending s.router
  | replacePlan plan => exact replacePlan_plan s.router plan

theorem plan_after (plan : DesktopCapturePlan) (displayLayout : DisplayLayout ℚ)
    {steps : List (CaptureStep ℚ ℚ)} (hCalls : ∀ pending, .planUpdates pending ∉ steps) :
    ((start plan displayLayout).after steps).router.plan =
      steps.foldl CaptureStep.handedOver plan := by
  induction steps using List.reverseRecOn with
  | nil => rfl
  | append_singleton steps step ih =>
    have hStep : ∀ pending, step ≠ .planUpdates pending := fun pending hEq =>
      hCalls pending (List.mem_append_right steps (hEq ▸ List.mem_cons_self))
    rw [after_snoc, plan_next _ _ fun pending hEq => absurd hEq (hStep pending), List.foldl_append,
      ih fun pending hMem => hCalls pending (List.mem_append_left [step] hMem)]
    rfl

theorem coherent_next {s : DesktopCapture ℚ ℚ} (h : s.router.Coherent) (step : CaptureStep ℚ ℚ) :
    (s.next step).router.Coherent := by
  cases step with
  | captured input applicationId now => exact h.route applicationId
  | planUpdates pending => exact h.applyPending pending s.runtimePlan
  | replacePlan plan => exact h.replacePlan plan

theorem coherent_after (plan : DesktopCapturePlan) (displayLayout : DisplayLayout ℚ)
    (steps : List (CaptureStep ℚ ℚ)) : ((start plan displayLayout).after steps).router.Coherent := by
  induction steps using List.reverseRecOn with
  | nil => exact .of_idle rfl rfl rfl
  | append_singleton steps step ih =>
    rw [after_snoc]
    exact coherent_next ih step

end DesktopCapture

end Kmsync
