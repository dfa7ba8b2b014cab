import Kmsync.Capture.Router

/-! What one call of the router can do. -/

namespace Kmsync

variable {φ ψ : Type}

/-- The event is a relative move of the mouse: the only kind that takes or gives back control at an
edge. -/
def InputEvent.isMove : InputEvent φ → Bool
  | .mouse (.move _ _) => true
  | _ => false

namespace DesktopCaptureRouter

variable {router router' : DesktopCaptureRouter φ ψ}

theorem cooldownActive_cases (router : DesktopCaptureRouter φ ψ) (now : Instant) :
    router.cooldownActive now = (true, router) ∨ router.cooldownActive now = (false, router) ∨
      router.cooldownActive now = (false, { router with cooldownUntil := none }) := by
  unfold cooldownActive
  cases router.cooldownUntil with
  | none => exact Or.inr (Or.inl rfl)
  | some deadline =>
    dsimp only
    split
    · exact Or.inl rfl
    · exact Or.inr (Or.inr rfl)

variable [FloatLike φ] [FloatLike ψ] {captured : CapturedInput φ ψ} {now : Instant}

theorem isMove_of_shouldActivateAtEdge {edge : Edge}
    (h : router.shouldActivateAtEdge captured edge = true) : captured.event.isMove = true := by
  obtain ⟨-, hMotion⟩ := Bool.and_eq_true_iff.mp h
  unfold edgeActivationMotionMatches at hMotion
  split at hMotion
  next hEvent => rw [hEvent, InputEvent.isMove]
  next => cases hMotion

variable [FloatPair φ ψ]

theorem activateAtEdge_cases :
    router.activateAtEdge captured = (none, none, router) ∨
      ∃ entry router', ∃ target ∈ router.plan.targets,
        router.activateAtEdge captured = (entry, some .hide, router') ∧
        router'.active = some target ∧ captured.event.isMove = true := by
  unfold activateAtEdge
  split
  next => exact Or.inl rfl
  next target hFind =>
    have hTarget := List.mem_of_find?_eq_some hFind
    have hFound := List.find?_some hFind
    have hMove := isMove_of_shouldActivateAtEdge hFound
    exact Or.inr ⟨_, _, target, hTarget, rfl, rfl, hMove⟩

theorem activate_of_active (h : router.active.isSome = true) :
    router.activate captured now = (none, none, router) := by
  rw [activate, if_pos h]

/-- Without an active target a call leaves it so, or a move makes a target of the plan active. -/
theorem activate_cases (h : router.active = none) (captured : CapturedInput φ ψ) (now : Instant) :
    (∃ router', router.activate captured now = (none, none, router') ∧ router'.active = none) ∨
      ∃ entry router', ∃ target ∈ router.plan.targets,
        router.activate captured now = (entry, some .hide, router') ∧
        router'.active = some target ∧ captured.event.isMove = true := by
  have hNone : ¬ router.active.isSome = true := by simp [h]
  rw [activate, if_neg hNone]
  rcases cooldownActive_cases router now with hCool | hCool | hCool
  · rw [hCool]
    exact Or.inl ⟨router, rfl, h⟩
  · rw [hCool]
    exact activateAtEdge_cases.imp_left fun hStays => ⟨router, hStays, h⟩
  · rw [hCool]
    dsimp only
    have hCooled : { router with cooldownUntil := none }.active = none := h
    exact activateAtEdge_cases.imp_left fun hStays => ⟨_, hStays, hCooled⟩

/-- The active target gets the event, or a move gives control back, or goes nowhere. -/
theorem remoteEvent_cases (router : DesktopCaptureRouter φ ψ) (event : InputEvent φ)
    (activeEdge : Edge) (activeDisplay : Option DesktopDisplayState) :
    (∃ remotePointer, router.remoteEventForActiveCapture event activeEdge activeDisplay =
        (.event event, { router with remotePointer })) ∨
      router.remoteEventForActiveCapture event activeEdge activeDisplay = (.release, router) ∧
        event.isMove = true ∨
      router.remoteEventForActiveCapture event activeEdge activeDisplay = (.none, router) ∧
        event.isMove = true := by
  unfold remoteEventForActiveCapture
  split
  next dx dy =>
    unfold remotePointerActionForMove
    split
    · exact Or.inr (Or.inr ⟨rfl, rfl⟩)
    split
    · exact Or.inr (Or.inr ⟨rfl, rfl⟩)
    dsimp only
    split
    · exact Or.inr (Or.inl ⟨rfl, rfl⟩)
    · exact Or.inl ⟨_, rfl⟩
  next => exact Or.inl ⟨router.remotePointer, rfl⟩

/-- A move of the captured pointer takes the remote one over the edge that it came in by. -/
def crossesReturnEdge (router : DesktopCaptureRouter φ ψ) (captured : CapturedInput φ ψ) : Bool :=
  match router.active with
  | none => false
  | some active =>
    match (router.remoteEventForActiveCapture captured.event active.edge active.display).1 with
    | .release => true
    | _ => false

/-- What a call does with the captured input: the result, and the router after it. -/
inductive Routed (router : DesktopCaptureRouter φ ψ) (captured : CapturedInput φ ψ) :
    DesktopCaptureRouteResult φ ψ → DesktopCaptureRouter φ ψ → Prop
  | reserved (hReserved : isSystemReservedShortcut captured.event = true) :
    Routed router captured (.stayLocal .continueInput) router
  | hotkey (router' : DesktopCaptureRouter φ ψ)
      (hReserved : isSystemReservedShortcut captured.event = false)
      (hHotkey : isReleaseHotkey captured .defaultRelease = true) (hAfter : router'.active = none) :
    Routed router captured
      ((DesktopCaptureRouteResult.stayLocal .continueInput).withPointerAction
        (if router.active.isSome then some (.restore router.localRestorePosition) else none)) router'
  | idle (router' : DesktopCaptureRouter φ ψ) (hBefore : router.active = none)
      (hAfter : router'.active = none) :
    Routed router captured (.stayLocal .continueInput) router'
  | returned (router' : DesktopCaptureRouter φ ψ) (position : Option (PointerPosition ψ))
      (hReserved : isSystemReservedShortcut captured.event = false) (hAfter : router'.active = none)
      (hCrosses : router.active.isSome = true → router.crossesReturnEdge captured = true) :
    Routed router captured
      ((DesktopCaptureRouteResult.stayLocal .continueInput).withPointerAction
        (some (.restore position))) router'
  | entered (router' : DesktopCaptureRouter φ ψ) (target : DesktopCaptureTarget)
      (entry : Option (PointerEntryPosition φ)) (remoteEvent : Option (InputEvent φ))
      (hBefore : router.active = none) (hMove : captured.event.isMove = true)
      (hTarget : target ∈ router.plan.targets) (hAfter : router'.active = some target)
      (hEvent : ∀ event ∈ remoteEvent, event = captured.event) :
    Routed router captured (.toRemote target .suppress entry (some .hide) remoteEvent) router'
  | remote (router' : DesktopCaptureRouter φ ψ) (target : DesktopCaptureTarget)
      (entry : Option (PointerEntryPosition φ)) (remoteEvent : Option (InputEvent φ))
      (hReserved : isSystemReservedShortcut captured.event = false)
      (hHotkey : isReleaseHotkey captured .defaultRelease = false)
      (hBefore : router.active = some target) (hAfter : router'.active = some target)
      (hEvent : ∀ event ∈ remoteEvent, event = captured.event)
      (hSent : captured.event.isMove = false → remoteEvent = some captured.event) :
    Routed router captured (.toRemote target .suppress entry none remoteEvent) router'

/-- With an active target a call sends the event to it, perhaps without an event, or gives control
back. -/
theorem routeActive_cases (router : DesktopCaptureRouter φ ψ) {target : DesktopCaptureTarget}
    (hActive : router.active = some target) (captured : CapturedInput φ ψ) (now : Instant)
    (entry : Option (PointerEntryPosition φ)) (action : Option (LocalPointerAction ψ)) :
    (∃ entry' remoteEvent router', router.routeActive target captured now entry action =
        (.toRemote target .suppress entry' action remoteEvent, router') ∧
      router'.active = some target ∧ (∀ event ∈ remoteEvent, event = captured.event) ∧
      (entry = none → captured.event.isMove = false → remoteEvent = some captured.event)) ∨
    (router.routeActive target captured now entry action =
        ((DesktopCaptureRouteResult.stayLocal .continueInput).withPointerAction
          (some (.restore router.localRestorePosition)), router.giveBack now) ∧
      router.crossesReturnEdge captured = true) := by
  have hCases := remoteEvent_cases router captured.event target.edge target.display
  unfold routeActive
  split
  next hEntry =>
    have hSome : entry ≠ none := fun hNone => by simp [hNone] at hEntry
    left
    split
    next =>
      rcases hCases with ⟨remotePointer, hEvent⟩ | ⟨hEvent, -⟩ | ⟨hEvent, -⟩ <;> rw [hEvent]
      · exact ⟨_, _, _, rfl, hActive, by simp, fun hNone => absurd hNone hSome⟩
      · exact ⟨_, _, _, rfl, hActive, by simp, fun hNone => absurd hNone hSome⟩
      · exact ⟨_, _, _, rfl, hActive, by simp, fun hNone => absurd hNone hSome⟩
    next => exact ⟨_, _, _, rfl, hActive, by simp, fun hNone => absurd hNone hSome⟩
  next =>
    rcases hCases with ⟨remotePointer, hEvent⟩ | ⟨hEvent, -⟩ | ⟨hEvent, hMove⟩
    · rw [hEvent]
      exact Or.inl ⟨_, _, _, rfl, hActive, by simp, fun _ _ => rfl⟩
    · right
      rw [crossesReturnEdge, hActive]
      dsimp only
      rw [hEvent]
      exact ⟨rfl, rfl⟩
    · rw [hEvent]
      refine Or.inl ⟨_, _, _, rfl, hActive, by simp, fun _ hNot => ?_⟩
      rw [hMove] at hNot
      cases hNot

theorem routed (router : DesktopCaptureRouter φ ψ) (captured : CapturedInput φ ψ)
    (applicationId : Option String) (now : Instant) :
    Routed router captured (router.routeAtWithApplication captured applicationId now).1
      (router.routeAtWithApplication captured applicationId now).2 := by
  rw [routeAtWithApplication, matches_default, Bool.or_false]
  split
  next hReserved => exact .reserved hReserved
  next hReserved =>
  have hReserved := Bool.eq_false_iff.mpr hReserved
  split
  next hHotkey => exact .hotkey _ hReserved hHotkey rfl
  next hHotkey =>
  have hHotkey := Bool.eq_false_iff.mpr hHotkey
  cases hActive : router.active with
  | some target =>
    rw [activate_of_active (by rw [hActive]; rfl)]
    dsimp only
    rw [hActive]
    dsimp only
    rcases routeActive_cases router hActive captured now none none with
      ⟨entry, remoteEvent, router', hRoute, hAfter, hEvent, hSent⟩ | ⟨hRoute, hCrosses⟩
    · rw [hRoute]
      exact .remote router' target entry remoteEvent hReserved hHotkey hActive hAfter hEvent (hSent rfl)
    · rw [hRoute]
      exact .returned _ _ hReserved rfl fun _ => hCrosses
  | none =>
    rcases activate_cases hActive captured now with
      ⟨router', hActivate, hAfter⟩ | ⟨entry, router', target, hTarget, hActivate, hAfter, hMove⟩
    · rw [hActivate]
      dsimp only
      rw [hAfter]
      exact .idle router' hActive hAfter
    rw [hActivate]
    dsimp only
    rw [hAfter]
    dsimp only
    rcases routeActive_cases router' hAfter captured now entry (some .hide) with
      ⟨entry', remoteEvent, router'', hRoute, hAfter', hEvent, -⟩ | ⟨hRoute, -⟩
    · rw [hRoute]
      exact .entered router'' target entry' remoteEvent hActive hMove hTarget hAfter' hEvent
    · rw [hRoute]
      exact .returned _ _ hReserved rfl fun hSome => absurd hSome (by simp [hActive])

end DesktopCaptureRouter

end Kmsync
