import Kmsync.Capture.Session

/-! The pointer of this machine is hidden while another machine is controlled.  Every way out of
control restores it but one: a new plan forgets the active target and leaves the pointer hidden. -/

namespace Kmsync

open scoped ExactNumbers

variable {φ ψ : Type} [FloatLike φ] [FloatLike ψ] [FloatPair φ ψ]

namespace DesktopCapture

variable {s : DesktopCapture φ ψ} {step : CaptureStep φ ψ}

/-- The flag says that the pointer is hidden exactly while there is an active target. -/
def PointerFollows (s : DesktopCapture φ ψ) : Prop := s.localPointerHidden = s.router.active.isSome

instance : Decidable s.PointerFollows :=
  inferInstanceAs (Decidable (s.localPointerHidden = s.router.active.isSome))

/-- The result of a call carries the action that its change of the active target asks for. -/
theorem applyLocalPointerAction_routed {router router' : DesktopCaptureRouter φ ψ}
    {captured : CapturedInput φ ψ} {result : DesktopCaptureRouteResult φ ψ}
    (h : DesktopCaptureRouter.Routed router captured result router') :
    (applyLocalPointerAction result.route.localPointerAction router.active.isSome).2 =
      router'.active.isSome := by
  cases h with
  | reserved => rfl
  | hotkey router' hReserved hHotkey hAfter =>
    rw [hAfter]
    cases router.active <;> rfl
  | idle router' hBefore hAfter =>
    rw [hBefore, hAfter]
    rfl
  | returned router' position hReserved hAfter =>
    rw [hAfter]
    cases router.active <;> rfl
  | entered router' target entry remoteEvent hBefore hMove hTarget hAfter =>
    rw [hBefore, hAfter]
    rfl
  | remote router' target entry remoteEvent hReserved hHotkey hBefore hAfter =>
    rw [hBefore, hAfter]
    rfl

/-- One step keeps the flag right, unless a plan drops the target. -/
theorem pointerFollows_next_iff (h : s.PointerFollows) :
    (s.next step).PointerFollows ↔ s.dropsTarget step = false := by
  unfold PointerFollows at h ⊢
  cases step with
  | captured input applicationId now =>
    refine iff_of_true ?_ rfl
    dsimp only [next]
    rw [h]
    exact applyLocalPointerAction_routed (s.router.routed input applicationId now)
  | planUpdates pending =>
    dsimp only [next, dropsTarget]
    rw [applyPending_active, h]
    cases s.router.active <;> cases replacesPlan pending s.router.plan s.runtimePlan <;> simp
  | replacePlan plan =>
    dsimp only [next, dropsTarget]
    rw [replacePlan_active, h]
    by_cases hPlan : s.router.plan = plan <;> cases s.router.active <;> simp [hPlan]

/-- The pointer is hidden exactly while another machine is controlled, after every step of a run, if
and only if no step changes the plan while a target is active. -/
theorem pointer_follows_iff (plan : DesktopCapturePlan) (displayLayout : DisplayLayout ψ)
    (steps : List (CaptureStep φ ψ)) :
    (∀ before, before <+: steps → ((start plan displayLayout).after before).PointerFollows) ↔
      ∀ before step, before ++ [step] <+: steps →
        ((start plan displayLayout).after before).dropsTarget step = false := by
  constructor
  · intro hFollows before step hPrefix
    have hBefore := hFollows before ((List.prefix_append before [step]).trans hPrefix)
    have hAfter := hFollows (before ++ [step]) hPrefix
    rw [after_snoc] at hAfter
    exact (pointerFollows_next_iff hBefore).mp hAfter
  · intro hKeeps before
    induction before using List.reverseRecOn with
    | nil => exact fun _ => rfl
    | append_singleton before step ih =>
      intro hPrefix
      have hBefore := ih ((List.prefix_append before [step]).trans hPrefix)
      rw [after_snoc]
      exact (pointerFollows_next_iff hBefore).mpr (hKeeps before step hPrefix)

end DesktopCapture

section Sample

/-- A display of 100 by 100, with a machine behind its right edge. -/
def sampleLayout : DisplayLayout ℚ := .fromPrimary (some ⟨0, 0, 100, 100⟩)

def samplePlan (targetDeviceId : String) : DesktopCapturePlan :=
  ⟨[⟨.right, targetDeviceId, .macToWindows, none⟩]⟩

/-- A move to the right, with the pointer at the edge. -/
def moveOverEdge : CaptureStep ℚ ℚ := .captured ⟨.mouse (.move 1 0), some ⟨100, 50⟩⟩ none 0

/-- The plan that arrives while a machine is controlled names another one. -/
theorem pointer_left_hidden :
    let s := (DesktopCapture.start (samplePlan "old") sampleLayout).after
      [moveOverEdge, .planUpdates [samplePlan "new"]]
    s.localPointerHidden = true ∧ s.router.active = none := by
  decide +kernel

end Sample

end Kmsync
