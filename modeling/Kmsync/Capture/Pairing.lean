import Kmsync.Capture.Pointer
import Kmsync.Core.InputState
import Kmsync.ProofKit.Transition

/-! Keys and buttons across a change of control.  The router keeps no account of what it has sent
down: what is held on a machine when control leaves it stays held there. -/

namespace Kmsync

open ProofKit
open scoped ExactNumbers

section Queues

variable {φ : Type} {queue after : List (TargetedQueuedInputEvent φ)} {target : String} {item : Item}

/-- Every press in the queue is followed by a release of the same item for the same target. -/
def Paired : List (TargetedQueuedInputEvent φ) → Prop
  | [] => True
  | queued :: queue =>
    (∀ item, queued.event.change = some (item, .pressed) →
      ∃ released ∈ queue, released.targetDeviceId = queued.targetDeviceId ∧
        released.event.change = some (item, .released)) ∧
    Paired queue

/-- Whether the item is held on the target after one more event. -/
def holds (target : String) (item : Item) (held : Bool) (queued : TargetedQueuedInputEvent φ) : Bool :=
  match queued.event.change with
  | some (changed, state) =>
    if queued.targetDeviceId = target ∧ changed = item then state = .pressed else held
  | none => held

/-- The item is held on the target once it has got the events of the queue. -/
def heldOn (target : String) (item : Item) (queue : List (TargetedQueuedInputEvent φ)) : Bool :=
  queue.foldl (holds target item) false

theorem heldOn_append : heldOn target item (queue ++ after) =
    after.foldl (holds target item) (heldOn target item queue) :=
  List.foldl_append

/-- Only a release for the target ends what is held there. -/
theorem foldl_holds_eq_true
    (h : ∀ queued ∈ after, queued.targetDeviceId = target →
      queued.event.change ≠ some (item, .released)) :
    after.foldl (holds target item) true = true := by
  induction after with
  | nil => rfl
  | cons queued after ih =>
    have hKeeps : holds target item true queued = true := by
      unfold holds
      split
      next changed state hChange =>
        split
        next hSame =>
          obtain ⟨hTarget, rfl⟩ := hSame
          cases state with
          | pressed => rfl
          | released => exact absurd hChange (h queued List.mem_cons_self hTarget)
        next => rfl
      next => rfl
    rw [List.foldl_cons, hKeeps]
    exact ih fun later hLater => h later (List.mem_cons_of_mem queued hLater)

/-- Where nothing is held in the end, every press has had its release. -/
theorem paired_of_foldl_holds {held : String → Item → Bool}
    (h : ∀ target item, queue.foldl (holds target item) (held target item) = false) :
    Paired queue := by
  induction queue generalizing held with
  | nil => trivial
  | cons queued queue ih =>
    refine ⟨fun item hPressed => ?_, ih h⟩
    by_contra hNone
    have hHeld : holds queued.targetDeviceId item (held queued.targetDeviceId item) queued = true := by
      simp [holds, hPressed]
    have hEnd := h queued.targetDeviceId item
    rw [List.foldl_cons, hHeld, foldl_holds_eq_true] at hEnd
    · cases hEnd
    · exact fun released hMem hTarget hReleased => hNone ⟨released, hMem, hTarget, hReleased⟩

theorem paired_of_heldOn (h : ∀ target item, heldOn target item queue = false) : Paired queue :=
  paired_of_foldl_holds h

theorem heldOn_append_toRemote {ψ : Type} (active : DesktopCaptureTarget)
    (entry : Option (PointerEntryPosition φ)) (action : Option (LocalPointerAction ψ))
    (remoteEvent : Option (InputEvent φ)) :
    heldOn target item (queue ++
        enqueueDesktopCapture (.toRemote active .suppress entry action remoteEvent)) =
      match remoteEvent.bind InputEvent.change with
      | some (changed, state) =>
        if active.targetDeviceId = target ∧ changed = item then decide (state = .pressed)
        else heldOn target item queue
      | none => heldOn target item queue := by
  rw [heldOn_append]
  cases entry <;> cases remoteEvent <;> rfl

theorem InputEvent.change_of_isMove {event : InputEvent φ} (h : event.isMove = true) :
    event.change = none := by
  unfold InputEvent.isMove at h
  split at h
  next => rfl
  next => cases h

end Queues

section Steps

variable {φ ψ : Type}

/-- The item that a captured input presses or releases. -/
def CaptureStep.change : CaptureStep φ ψ → Option (Item × KeyState)
  | .captured input _ _ => input.event.change
  | .planUpdates _ | .replacePlan _ => none

/-- A release of the item is captured. -/
def Releases (item : Item) (steps : List (CaptureStep φ ψ)) : Prop :=
  ∃ step ∈ steps, step.change = some (item, .released)

/-- Every press that is captured is followed by a release of the same item. -/
def AllReleased : List (CaptureStep φ ψ) → Prop
  | [] => True
  | step :: steps =>
    (∀ item, step.change = some (item, .pressed) → Releases item steps) ∧ AllReleased steps

/-- What has been pressed while a target was active, and not released since. -/
def heldAfter (s : DesktopCapture φ ψ) (held : List Item) : CaptureStep φ ψ → List Item
  | .captured input _ _ =>
    match input.event.change with
    | some (item, .pressed) =>
      if s.router.active.isSome ∧ isSystemReservedShortcut input.event = false ∧
          DesktopCaptureRouter.isReleaseHotkey input .defaultRelease = false then
        item :: held
      else
        held
    | some (item, .released) => held.filter (· ≠ item)
    | none => held
  | .planUpdates _ | .replacePlan _ => held

/-- A release of something held that no target gets, because it looks like a reserved shortcut. -/
def swallowsRelease (held : List Item) : CaptureStep φ ψ → Bool
  | .captured input _ _ =>
    match input.event.change with
    | some (item, .released) => item ∈ held ∧ isSystemReservedShortcut input.event = true
    | _ => false
  | .planUpdates _ | .replacePlan _ => false

theorem mem_heldAfter {s : DesktopCapture φ ψ} {held : List Item} {step : CaptureStep φ ψ}
    {item : Item} (h : item ∈ heldAfter s held step) :
    step.change = some (item, .pressed) ∨ item ∈ held ∧ step.change ≠ some (item, .released) := by
  cases step with
  | captured input applicationId now =>
    dsimp only [heldAfter] at h
    dsimp only [CaptureStep.change]
    split at h
    next changed hChange =>
      rw [hChange]
      split at h
      · rcases List.mem_cons.mp h with rfl | h
        · exact Or.inl rfl
        · exact Or.inr ⟨h, by simp⟩
      · exact Or.inr ⟨h, by simp⟩
    next changed hChange =>
      obtain ⟨hMem, hNe⟩ := List.mem_filter.mp h
      rw [hChange]
      refine Or.inr ⟨hMem, fun hSame => ?_⟩
      cases hSame
      exact absurd rfl (of_decide_eq_true hNe)
    next hChange =>
      rw [hChange]
      exact Or.inr ⟨h, by simp⟩
  | planUpdates pending => exact Or.inr ⟨h, by simp [CaptureStep.change]⟩
  | replacePlan plan => exact Or.inr ⟨h, by simp [CaptureStep.change]⟩

/-- What is held waits for a release that is still to come. -/
theorem releases_next {s : DesktopCapture φ ψ} {held : List Item} {step : CaptureStep φ ψ}
    {steps : List (CaptureStep φ ψ)} (hAwaits : ∀ item ∈ held, Releases item (step :: steps))
    (hReleased : AllReleased (step :: steps)) :
    ∀ item ∈ heldAfter s held step, Releases item steps := by
  intro item hMem
  rcases mem_heldAfter hMem with hPressed | ⟨hHeld, hNot⟩
  · exact hReleased.1 item hPressed
  · obtain ⟨later, hLater, hChange⟩ := hAwaits item hHeld
    rcases List.mem_cons.mp hLater with rfl | hLater
    · exact absurd hChange hNot
    · exact ⟨later, hLater, hChange⟩

theorem mem_heldAfter_of_mem {s : DesktopCapture φ ψ} {held : List Item} {step : CaptureStep φ ψ}
    {item : Item} (hMem : item ∈ held) (hNot : step.change ≠ some (item, .released)) :
    item ∈ heldAfter s held step := by
  cases step with
  | captured input applicationId now =>
    dsimp only [CaptureStep.change] at hNot
    dsimp only [heldAfter]
    split
    next changed hChange =>
      split
      · exact List.mem_cons_of_mem changed hMem
      · exact hMem
    next changed hChange =>
      refine List.mem_filter.mpr ⟨hMem, decide_eq_true ?_⟩
      rintro rfl
      exact hNot hChange
    next => exact hMem
  | planUpdates pending => exact hMem
  | replacePlan plan => exact hMem

namespace DesktopCapture

variable {s s' : DesktopCapture φ ψ} {held held' : List Item}

/-- Something held on a target was pressed under it, and control has not left the target since. -/
def KeepsAccount (s : DesktopCapture φ ψ) (held : List Item) : Prop :=
  ∀ target item, heldOn target item s.queue = true →
    item ∈ held ∧ ∃ active, s.router.active = some active ∧ active.targetDeviceId = target

theorem keepsAccount_of_not_heldOn
    (h : ∀ target item, heldOn target item s.queue = false) : s.KeepsAccount held := by
  intro target item hOn
  rw [h] at hOn
  cases hOn

/-- The queue and the active target stay, and what is held there stays held. -/
theorem KeepsAccount.of_eq (h : s.KeepsAccount held) (hQueue : s'.queue = s.queue)
    (hHeld : ∀ item ∈ held, item ∈ held')
    (hActive : s.router.active.isSome = true → held ≠ [] → s'.router.active = s.router.active) :
    s'.KeepsAccount held' := by
  intro target item hOn
  rw [hQueue] at hOn
  obtain ⟨hMem, active, hSome, hTarget⟩ := h target item hOn
  refine ⟨hHeld item hMem, active, ?_, hTarget⟩
  rw [hActive (by rw [hSome]; rfl) (List.ne_nil_of_mem hMem), hSome]

/-- With an active target, what is pressed becomes held on it and what is released is no longer. -/
theorem KeepsAccount.remote (h : s.KeepsAccount held) {target : DesktopCaptureTarget}
    {input : CapturedInput φ ψ} {applicationId : Option String} {now : Instant}
    (hReserved : isSystemReservedShortcut input.event = false)
    (hHotkey : DesktopCaptureRouter.isReleaseHotkey input .defaultRelease = false)
    (hBefore : s.router.active = some target) (hAfter : s'.router.active = some target)
    {entry : Option (PointerEntryPosition φ)} {remoteEvent : Option (InputEvent φ)}
    (hChange : remoteEvent.bind InputEvent.change = input.event.change)
    (hQueue : s'.queue = s.queue ++ enqueueDesktopCapture
      (.toRemote target .suppress entry (none : Option (LocalPointerAction ψ)) remoteEvent)) :
    s'.KeepsAccount (heldAfter s held (.captured input applicationId now)) := by
  intro name item hOn
  rw [hQueue, heldOn_append_toRemote, hChange] at hOn
  have hOld : heldOn name item s.queue = true → input.event.change ≠ some (item, .released) →
      item ∈ heldAfter s held (.captured input applicationId now) ∧
        ∃ active, s'.router.active = some active ∧ active.targetDeviceId = name := by
    intro hOn hNot
    obtain ⟨hMem, active, hActive, hName⟩ := h name item hOn
    exact ⟨mem_heldAfter_of_mem hMem hNot, active, by rw [hAfter, ← hBefore, hActive], hName⟩
  split at hOn
  next changed state hEvent =>
    split at hOn
    next hSame =>
      obtain ⟨hName, rfl⟩ := hSame
      obtain rfl := of_decide_eq_true hOn
      refine ⟨?_, target, hAfter, hName⟩
      simp [heldAfter, hEvent, hBefore, hReserved, hHotkey]
    next hOther =>
      refine hOld hOn fun hReleased => hOther ?_
      -- a release of the item for the active target would have ended what is held
      obtain ⟨-, active, hActive, hName⟩ := h name item hOn
      cases hBefore.symm.trans hActive
      cases hEvent.symm.trans hReleased
      exact ⟨hName, rfl⟩
  next hEvent => exact hOld hOn (by rw [hEvent]; simp)

end DesktopCapture

variable [FloatLike φ] [FloatLike ψ] [FloatPair φ ψ]

/-- The step takes control away from the active target: by the release hotkey, over the return edge
or by a new plan. -/
def DesktopCapture.givesUpControl (s : DesktopCapture φ ψ) (step : CaptureStep φ ψ) : Bool :=
  match step with
  | .captured input _ _ =>
    s.router.active.isSome && !isSystemReservedShortcut input.event &&
      (DesktopCaptureRouter.isReleaseHotkey input .defaultRelease || s.router.crossesReturnEdge input)
  | step => s.dropsTarget step

/-- Control leaves a target only with nothing held, and no release of what is held is swallowed. -/
structure Orderly (s : DesktopCapture φ ψ) (held : List Item) (step : CaptureStep φ ψ) : Prop where
  nothing_held : s.givesUpControl step = true → held = []
  not_swallowed : swallowsRelease held step = false

instance (s : DesktopCapture φ ψ) (held : List Item) (step : CaptureStep φ ψ) :
    Decidable (Orderly s held step) :=
  decidable_of_iff
    ((s.givesUpControl step = true → held = []) ∧ swallowsRelease held step = false)
    ⟨fun h => ⟨h.1, h.2⟩, fun h => ⟨h.nothing_held, h.not_swallowed⟩⟩

namespace DesktopCapture

variable {s : DesktopCapture φ ψ} {held : List Item} {step : CaptureStep φ ψ}

/-- Nothing is held anywhere when control is about to leave, or has left. -/
theorem KeepsAccount.not_heldOn (h : s.KeepsAccount held) (hOrderly : Orderly s held step)
    (hGives : s.router.active.isSome = true → s.givesUpControl step = true) (target : String)
    (item : Item) : heldOn target item s.queue = false := by
  rw [← Bool.not_eq_true]
  intro hOn
  obtain ⟨hMem, active, hActive, -⟩ := h target item hOn
  have hNone := hOrderly.nothing_held (hGives (by rw [hActive]; rfl))
  rw [hNone] at hMem
  cases hMem

/-- A step that sends nothing, without an active target or giving it up. -/
theorem KeepsAccount.of_left {s' : DesktopCapture φ ψ} {held' : List Item} (h : s.KeepsAccount held)
    (hOrderly : Orderly s held step) (hQueue : s'.queue = s.queue)
    (hGives : s.router.active.isSome = true → s.givesUpControl step = true) :
    s'.KeepsAccount held' := by
  apply keepsAccount_of_not_heldOn
  intro target item
  rw [hQueue]
  exact h.not_heldOn hOrderly hGives target item

theorem active_next_of_keeps (hChange : ∀ input applicationId now,
    step ≠ .captured input applicationId now) (hActive : s.router.active.isSome = true)
    (hKeeps : s.givesUpControl step = false) : (s.next step).router.active = s.router.active := by
  cases step with
  | captured input applicationId now => exact absurd rfl (hChange input applicationId now)
  | planUpdates pending =>
    dsimp only [givesUpControl, dropsTarget] at hKeeps
    dsimp only [next]
    rw [hActive, Bool.true_and] at hKeeps
    rw [applyPending_active, hKeeps]
    rfl
  | replacePlan plan =>
    dsimp only [givesUpControl, dropsTarget] at hKeeps
    dsimp only [next]
    rw [hActive, Bool.true_and] at hKeeps
    rw [replacePlan_active, if_pos (by simpa using hKeeps)]

section Routed

variable {input : CapturedInput φ ψ} {applicationId : Option String} {now : Instant}

/-- Nothing held is released by a reserved shortcut, so that it stays held. -/
theorem mem_heldAfter_of_reserved (hOrderly : Orderly s held (.captured input applicationId now))
    (hReserved : isSystemReservedShortcut input.event = true) {item : Item} (hMem : item ∈ held) :
    item ∈ heldAfter s held (.captured input applicationId now) := by
  refine mem_heldAfter_of_mem hMem fun hChange => ?_
  have hSwallowed := hOrderly.not_swallowed
  dsimp only [CaptureStep.change] at hChange
  simp [swallowsRelease, hChange, hMem, hReserved] at hSwallowed

theorem keepsAccount_captured (h : s.KeepsAccount held)
    (hOrderly : Orderly s held (.captured input applicationId now))
    {result : DesktopCaptureRouteResult φ ψ} {s' : DesktopCapture φ ψ}
    (hRouted : DesktopCaptureRouter.Routed s.router input result s'.router)
    (hQueue : s'.queue = s.queue ++ enqueueDesktopCapture result) :
    s'.KeepsAccount (heldAfter s held (.captured input applicationId now)) := by
  generalize hRouter : s'.router = router' at hRouted
  cases hRouted with
  | reserved hReserved =>
    refine h.of_eq (hQueue.trans (List.append_nil _)) ?_ fun _ _ => congrArg _ hRouter
    exact fun item => mem_heldAfter_of_reserved hOrderly hReserved
  | hotkey router' hReserved hHotkey hAfter =>
    refine h.of_left hOrderly (hQueue.trans (List.append_nil _)) fun hActive => ?_
    simp [givesUpControl, hActive, hReserved, hHotkey]
  | idle router' hBefore hAfter =>
    refine h.of_left hOrderly (hQueue.trans (List.append_nil _)) fun hActive => ?_
    exact absurd hActive (by simp [hBefore])
  | returned router' position hReserved hAfter hCrosses =>
    refine h.of_left hOrderly (hQueue.trans (List.append_nil _)) fun hActive => ?_
    simp [givesUpControl, hActive, hReserved, hCrosses hActive]
  | entered router' target entry remoteEvent hBefore hMove hTarget hAfter hEvent =>
    have hNot := h.not_heldOn hOrderly fun hActive => absurd hActive (by simp [hBefore])
    have hChange : remoteEvent.bind InputEvent.change = none := by
      cases remoteEvent with
      | none => rfl
      | some event => exact hEvent event rfl ▸ InputEvent.change_of_isMove hMove
    apply keepsAccount_of_not_heldOn
    intro name item
    rw [hQueue, heldOn_append_toRemote, hChange]
    exact hNot name item
  | remote router' target entry remoteEvent hReserved hHotkey hBefore hAfter hEvent hSent =>
    have hChange : remoteEvent.bind InputEvent.change = input.event.change := by
      cases hMove : input.event.isMove with
      | false => rw [hSent hMove]; rfl
      | true =>
        rw [InputEvent.change_of_isMove hMove]
        cases remoteEvent with
        | none => rfl
        | some event => exact hEvent event rfl ▸ InputEvent.change_of_isMove hMove
    exact h.remote hReserved hHotkey hBefore (hRouter ▸ hAfter) hChange hQueue

end Routed

theorem keepsAccount_next (h : s.KeepsAccount held) (hOrderly : Orderly s held step) :
    (s.next step).KeepsAccount (heldAfter s held step) := by
  have hKeeps : held ≠ [] → s.givesUpControl step = false := fun hNe =>
    Bool.eq_false_iff.mpr fun hGives => hNe (hOrderly.nothing_held hGives)
  cases step with
  | planUpdates pending =>
    exact h.of_eq rfl (fun _ hMem => hMem) fun hActive hNe =>
      active_next_of_keeps (by simp) hActive (hKeeps hNe)
  | replacePlan plan =>
    exact h.of_eq rfl (fun _ hMem => hMem) fun hActive hNe =>
      active_next_of_keeps (by simp) hActive (hKeeps hNe)
  | captured input applicationId now =>
    exact keepsAccount_captured h hOrderly (s.router.routed input applicationId now) rfl

/-- A step of the capture, with what is held after it. -/
def watch (x : DesktopCapture φ ψ × List Item) (step : CaptureStep φ ψ) :
    Option (DesktopCapture φ ψ × List Item) :=
  some (x.1.next step, heldAfter x.1 x.2 step)

theorem exists_run_watch (s : DesktopCapture φ ψ) (held : List Item)
    (steps : List (CaptureStep φ ψ)) :
    ∃ held', run watch (s, held) steps = some (s.after steps, held') := by
  induction steps generalizing s held with
  | nil => exact ⟨held, rfl⟩
  | cons step steps ih => exact ih (s.next step) (heldAfter s held step)

/-- Every step of a run is orderly. -/
def OrderlyThrough (s : DesktopCapture φ ψ) (steps : List (CaptureStep φ ψ)) : Prop :=
  Along (fun x step _ => Orderly x.1 x.2 step) watch (s, []) steps

instance (s : DesktopCapture φ ψ) (steps : List (CaptureStep φ ψ)) :
    Decidable (s.OrderlyThrough steps) :=
  inferInstanceAs (Decidable (Along (fun x step _ => Orderly x.1 x.2 step) watch (s, []) steps))

theorem keepsAccount_after {plan : DesktopCapturePlan} {displayLayout : DisplayLayout ψ}
    {steps : List (CaptureStep φ ψ)} (h : (start plan displayLayout).OrderlyThrough steps) :
    ∃ held, run watch (start plan displayLayout, []) steps =
        some ((start plan displayLayout).after steps, held) ∧
      ((start plan displayLayout).after steps).KeepsAccount held := by
  obtain ⟨held, hRun⟩ := exists_run_watch (start plan displayLayout) [] steps
  refine ⟨held, hRun, ?_⟩
  have hStart : (start plan displayLayout : DesktopCapture φ ψ).KeepsAccount [] :=
    keepsAccount_of_not_heldOn fun _ _ => rfl
  refine run_induction_along (I := fun x _ => x.1.KeepsAccount x.2) ?_ hStart h hRun
  rintro x step - x' hx hOrderly hStep
  obtain rfl := Option.some.inj hStep
  exact keepsAccount_next hx hOrderly

/-- With every captured press released again, nothing is held in the end. -/
theorem held_eq_nil {s s' : DesktopCapture φ ψ} {steps : List (CaptureStep φ ψ)} {held : List Item}
    (h : s.OrderlyThrough steps) (hReleased : AllReleased steps)
    (hRun : run watch (s, []) steps = some (s', held)) : held = [] := by
  have hStart : (∀ item ∈ ([] : List Item), Releases item steps) ∧ AllReleased steps :=
    ⟨fun _ hMem => absurd hMem List.not_mem_nil, hReleased⟩
  have hAwaits := run_induction_along
    (I := fun x rest => (∀ item ∈ x.2, Releases item rest) ∧ AllReleased rest) ?_ hStart h hRun
  · refine List.eq_nil_iff_forall_not_mem.mpr fun item hMem => ?_
    obtain ⟨step, hStep, -⟩ := hAwaits.1 item hMem
    cases hStep
  · rintro x step rest x' ⟨hAwaits, hRest⟩ - hStep
    obtain rfl := Option.some.inj hStep
    exact ⟨releases_next hAwaits hRest, hRest.2⟩

/-- If control leaves a target only with nothing held there, and no release of what is held is taken
for a reserved shortcut, then every press that a target gets is followed by its release, in the end
and whenever no target is active. -/
theorem paired_of_orderly (plan : DesktopCapturePlan) (displayLayout : DisplayLayout ψ)
    (steps : List (CaptureStep φ ψ)) (hOrderly : (start plan displayLayout).OrderlyThrough steps)
    (hReleased : AllReleased steps) :
    Paired ((start plan displayLayout).after steps).queue ∧
      ∀ before, before <+: steps → ((start plan displayLayout).after before).router.active = none →
        Paired ((start plan displayLayout).after before).queue := by
  constructor
  · obtain ⟨held, hRun, hAccount⟩ := keepsAccount_after hOrderly
    apply paired_of_heldOn
    intro target item
    rw [← Bool.not_eq_true]
    intro hOn
    have hMem := (hAccount target item hOn).1
    rw [held_eq_nil hOrderly hReleased hRun] at hMem
    cases hMem
  · rintro before ⟨rest, rfl⟩ hActive
    obtain ⟨held, -, hAccount⟩ := keepsAccount_after hOrderly.of_append
    apply paired_of_heldOn
    intro target item
    rw [← Bool.not_eq_true]
    intro hOn
    obtain ⟨-, active, hSome, -⟩ := hAccount target item hOn
    rw [hActive] at hSome
    cases hSome

end DesktopCapture

end Steps

section Sample

def keyStep (key : Key) (state : KeyState) (modifiers : Modifiers) : CaptureStep ℚ ℚ :=
  .captured ⟨.key ⟨key, state, modifiers⟩, none⟩ none 0

def controlAlt : Modifiers := Modifiers.control.with .alt

/-- Ctrl and Alt are pressed here before the pointer crosses the edge, C there. -/
def orderlySteps : List (CaptureStep ℚ ℚ) :=
  [keyStep .leftControl .pressed .control, keyStep .leftAlt .pressed controlAlt, moveOverEdge,
    keyStep .c .pressed controlAlt, keyStep .c .released controlAlt,
    keyStep .escape .pressed controlAlt, keyStep .escape .released controlAlt,
    keyStep .leftAlt .released .control, keyStep .leftControl .released .none]

theorem paired_of_orderly_keyC :
    Paired ((DesktopCapture.start (samplePlan "right") sampleLayout).after orderlySteps).queue := by
  have hReleased : AllReleased orderlySteps := by
    simp [orderlySteps, AllReleased, Releases, keyStep, moveOverEdge, CaptureStep.change,
      InputEvent.change]
  have hOrderly :
      (DesktopCapture.start (samplePlan "right") sampleLayout).OrderlyThrough orderlySteps := by
    decide +kernel
  exact (DesktopCapture.paired_of_orderly (samplePlan "right") sampleLayout orderlySteps hOrderly
    hReleased).1

/-- Ctrl and Alt of the release hotkey are pressed on the other machine and released on this one. -/
def hotkeySteps : List (CaptureStep ℚ ℚ) :=
  [moveOverEdge, keyStep .leftControl .pressed .control, keyStep .leftAlt .pressed controlAlt,
    keyStep .escape .pressed controlAlt, keyStep .escape .released controlAlt,
    keyStep .leftAlt .released .control, keyStep .leftControl .released .none]

theorem control_left_pressed :
    AllReleased hotkeySteps ∧
      ¬ Paired ((DesktopCapture.start (samplePlan "right") sampleLayout).after hotkeySteps).queue := by
  constructor
  · simp [hotkeySteps, AllReleased, Releases, keyStep, moveOverEdge, CaptureStep.change,
      InputEvent.change]
  · have hQueue : ((DesktopCapture.start (samplePlan "right") sampleLayout).after hotkeySteps).queue =
        ([.mouse (.position 0 (1 / 2)), .mouse (.move 1 0), .key ⟨.leftControl, .pressed, .control⟩,
          .key ⟨.leftAlt, .pressed, controlAlt⟩] : List (InputEvent ℚ)).map
            (TargetedQueuedInputEvent.mk "right" .macToWindows) := by
      decide +kernel
    rw [hQueue]
    simp [Paired, InputEvent.change]

end Sample

end Kmsync
