import Kmsync.Capture.EdgeRouter
import Kmsync.ProofKit.Calls

/-! Who has control is a matter of what has been captured so far: there was a touch of the edge, the
hotkey has not been pressed since, and each press before it was a cooldown earlier.  The router,
which keeps a flag and a deadline, decides by this. -/

namespace Kmsync

open ProofKit

/-- The settings of a capture at an edge. -/
structure EdgeSettings (ψ : Type) where
  displayLayout : DisplayLayout ψ
  applicationExceptions : ApplicationExceptionRules
  edge : Edge
  threshold : ψ
  releaseHotkey : Hotkey
  cooldown : ℕ

namespace EdgeSettings

variable {φ ψ : Type} [FloatLike ψ] (settings : EdgeSettings ψ)

/-- The router looks at the call: it is no shortcut of the system, and the application is none of
the exceptions. -/
def hears (call : CaptureCall φ ψ) : Bool :=
  !isSystemReservedShortcut call.captured.event &&
    !settings.applicationExceptions.matchesApplication call.activeApplicationId

def releases (call : CaptureCall φ ψ) : Bool :=
  settings.hears call && DesktopCaptureRouter.isReleaseHotkey call.captured settings.releaseHotkey

def touches (call : CaptureCall φ ψ) : Bool :=
  settings.hears call && !DesktopCaptureRouter.isReleaseHotkey call.captured settings.releaseHotkey &&
    CaptureRouter.atEdge settings.displayLayout call.captured.pointer settings.edge settings.threshold

/-- Each press of the hotkey is a cooldown ago. -/
def Cooled (calls : List (CaptureCall φ ψ)) (now : Instant) : Prop :=
  ∀ call ∈ calls, settings.releases call → call.now + settings.cooldown ≤ now

/-- Control goes over to the target, or would if it were not already there. -/
def Takes (before : List (CaptureCall φ ψ)) (call : CaptureCall φ ψ) : Prop :=
  settings.touches call ∧ settings.Cooled before call.now

/-- The target has control after the calls. -/
def Controlled : List (CaptureCall φ ψ) → Prop :=
  Since settings.Takes fun _ call => settings.releases call

/-- The touch with which control went over to the target, which still has it. -/
def TakenBy (touch : CaptureCall φ ψ) : List (CaptureCall φ ψ) → Prop :=
  Since (fun before call => call = touch ∧ ¬settings.Controlled before ∧ settings.Takes before call)
    fun _ call => settings.releases call

variable {settings} {calls : List (CaptureCall φ ψ)} {call touch : CaptureCall φ ψ} {now : Instant}

theorem not_releases_of_touches (h : settings.touches call) : ¬settings.releases call := by
  simp only [touches, releases, Bool.and_eq_true, Bool.not_eq_true'] at h ⊢
  rw [h.1.2]
  exact fun hReleases => Bool.false_ne_true hReleases.2

omit [FloatLike ψ] in
theorem Cooled.mono {later : Instant} (h : settings.Cooled calls now) (hLater : now ≤ later) :
    settings.Cooled calls later :=
  fun call hMem hReleases => (h call hMem hReleases).trans hLater

omit [FloatLike ψ] in
theorem cooled_snoc : settings.Cooled (calls ++ [call]) now ↔
    settings.Cooled calls now ∧ (settings.releases call → call.now + settings.cooldown ≤ now) := by
  simp [Cooled, or_imp, forall_and]

theorem controlled_snoc : settings.Controlled (calls ++ [call]) ↔
    ¬settings.releases call ∧ (settings.Takes calls call ∨ settings.Controlled calls) := by
  rw [Controlled, since_snoc]
  have hTakes : settings.Takes calls call → ¬settings.releases call :=
    fun h => not_releases_of_touches h.1
  tauto

theorem controlled_of_takenBy (h : settings.TakenBy touch calls) : settings.Controlled calls := by
  obtain ⟨before, call, since, hCalls, ⟨-, -, hTakes⟩, hSince⟩ := h
  exact ⟨before, call, since, hCalls, hTakes, hSince⟩

theorem takenBy_snoc : settings.TakenBy touch (calls ++ [call]) ↔
    ¬settings.releases call ∧
      (call = touch ∧ ¬settings.Controlled calls ∧ settings.Takes calls call ∨
        settings.TakenBy touch calls) := by
  rw [TakenBy, since_snoc]
  have hTakes : settings.Takes calls call → ¬settings.releases call :=
    fun h => not_releases_of_touches h.1
  tauto

/-- The router works by the settings. -/
structure Of (settings : EdgeSettings ψ) (router : CaptureRouter ψ) : Prop where
  mode : router.mode =
    .edge settings.edge settings.threshold settings.releaseHotkey settings.cooldown
  displayLayout : router.displayLayout = settings.displayLayout
  applicationExceptions : router.applicationExceptions = settings.applicationExceptions

end EdgeSettings

section Routers

variable {ψ : Type}

theorem cooldownActive_eq {router router' : CaptureRouter ψ} {now : Instant} {waits : Bool}
    (h : router.cooldownActive now = (waits, router')) :
    router' = { router with
      cooldownUntil := if waits then router.cooldownUntil else none } := by
  obtain ⟨mode, displayLayout, exceptions, active, deadline, position⟩ := router
  cases deadline with
  | none => cases h; rfl
  | some deadline =>
    rw [CaptureRouter.cooldownActive] at h
    dsimp only at h
    split at h <;> cases h <;> rfl

theorem matchesApplication_of_not_hasApplicationExceptions {router : CaptureRouter ψ}
    (h : router.hasApplicationExceptions = false) (applicationId : Option String) :
    router.applicationExceptions.matchesApplication applicationId = false := by
  rw [CaptureRouter.hasApplicationExceptions, Bool.not_eq_false', List.isEmpty_iff] at h
  cases applicationId with
  | none => rfl
  | some applicationId =>
    rw [ApplicationExceptionRules.matchesApplication, h]
    rfl

theorem cooldownActive_giveBack (router : CaptureRouter ψ) (then' now : Instant) (cooldown : ℕ)
    (hNow : then' ≤ now) :
    ((router.giveBack then' cooldown).cooldownActive now).1 = false ↔ then' + cooldown ≤ now := by
  rw [CaptureRouter.giveBack, cooldownDeadline, CaptureRouter.cooldownActive]
  by_cases hZero : cooldown = 0
  · rw [if_pos hZero]
    simpa [hZero] using hNow
  · rw [if_neg hZero]
    by_cases hWaits : now < then' + cooldown
    · simp [hWaits]
    · simp [hWaits, Nat.not_lt.mp hWaits]

end Routers

section Account

variable {φ ψ : Type} [FloatLike ψ] {settings : EdgeSettings ψ}

/-- What the capture keeps is what the calls so far come to. -/
structure Retains (settings : EdgeSettings ψ) (calls : List (CaptureCall φ ψ))
    (s : CaptureSend φ ψ) : Prop where
  works : settings.Of s.router
  active : s.router.active ↔ settings.Controlled calls
  cooldown : ∀ now, (∀ call ∈ calls, call.now ≤ now) →
    ((s.router.cooldownActive now).1 = false ↔ settings.Cooled calls now)
  restores : ∀ touch, settings.TakenBy touch calls →
    s.router.localRestorePosition = touch.captured.pointer
  hidden : s.localPointerHidden = s.router.active

variable {calls : List (CaptureCall φ ψ)} {call : CaptureCall φ ψ} {s : CaptureSend φ ψ}

omit [FloatLike ψ] in
/-- A deadline that is over may be forgotten. -/
theorem cooled_of_cooled {router : CaptureRouter ψ} (hCooled : settings.Cooled calls call.now)
    (hReleases : ¬settings.releases call) (hDeadline : router.cooldownUntil = none) {now : Instant}
    (hNow : ∀ c ∈ calls ++ [call], c.now ≤ now) :
    (router.cooldownActive now).1 = false ↔ settings.Cooled (calls ++ [call]) now := by
  rw [CaptureRouter.cooldownActive, hDeadline, EdgeSettings.cooled_snoc]
  have hLater := hCooled.mono (hNow call (by simp))
  exact iff_of_true rfl ⟨hLater, fun hRel => absurd hRel hReleases⟩

namespace Retains

theorem cooldown_of_not_releases (h : Retains settings calls s) (hReleases : ¬settings.releases call)
    (now : Instant) (hNow : ∀ c ∈ calls ++ [call], c.now ≤ now) :
    (s.router.cooldownActive now).1 = false ↔ settings.Cooled (calls ++ [call]) now := by
  rw [h.cooldown now fun c hMem => hNow c (List.mem_append_left _ hMem), EdgeSettings.cooled_snoc]
  exact ⟨fun hCooled => ⟨hCooled, fun hRel => absurd hRel hReleases⟩, And.left⟩

/-- A call that neither takes control nor releases it leaves the account as it is. -/
theorem leave (h : Retains settings calls s) (hReleases : ¬settings.releases call)
    (hTakes : settings.Takes calls call → settings.Controlled calls) {s' : CaptureSend φ ψ}
    (hRouter : s'.router = s.router) (hHidden : s'.localPointerHidden = s.localPointerHidden) :
    Retains settings (calls ++ [call]) s' where
  works := hRouter ▸ h.works
  active := by
    rw [hRouter, h.active, EdgeSettings.controlled_snoc]
    tauto
  cooldown := by
    rw [hRouter]
    exact h.cooldown_of_not_releases hReleases
  restores touch hTaken := by
    rw [hRouter]
    refine h.restores touch ?_
    rw [EdgeSettings.takenBy_snoc] at hTaken
    tauto
  hidden := by rw [hRouter, hHidden, h.hidden]

end Retains

end Account

section Steps

variable {φ ψ : Type} [FloatLike φ] [FloatLike ψ] [FloatPair φ ψ] {settings : EdgeSettings ψ}

/-- What the router does with a call: its result, and the router after it. -/
inductive EdgeRouted (settings : EdgeSettings ψ) (router : CaptureRouter ψ) (call : CaptureCall φ ψ) :
    RouteResult φ ψ → CaptureRouter ψ → Prop
  | unheard (hHears : settings.hears call = false) :
    EdgeRouted settings router call (.stayLocal .continueInput) router
  | released (hReleases : settings.releases call) :
    EdgeRouted settings router call
      ((RouteResult.stayLocal .continueInput).withPointerAction
        (if router.active then some (.restore router.localRestorePosition) else none))
      (router.giveBack call.now settings.cooldown)
  | controlled (hHears : settings.hears call) (hReleases : ¬settings.releases call)
      (hActive : router.active) :
    EdgeRouted settings router call ⟨true, .suppress, none, none⟩ router
  | kept (router' : CaptureRouter ψ) (hReleases : ¬settings.releases call)
      (hActive : router.active = false) (hCooldown : router.cooldownActive call.now = (true, router')) :
    EdgeRouted settings router call (.stayLocal .continueInput) router'
  | inside (router' : CaptureRouter ψ) (hTouches : settings.touches call = false)
      (hReleases : ¬settings.releases call) (hActive : router.active = false)
      (hCooldown : router.cooldownActive call.now = (false, router')) :
    EdgeRouted settings router call (.stayLocal .continueInput) router'
  | taken (router' : CaptureRouter ψ) (hTouches : settings.touches call)
      (hActive : router.active = false) (hCooldown : router.cooldownActive call.now = (false, router')) :
    EdgeRouted settings router call
      ⟨true, .suppress,
        entryPosition settings.displayLayout call.captured.pointer settings.edge, some .hide⟩
      { router' with active := true, localRestorePosition := call.captured.pointer }

theorem activate_of_active {router : CaptureRouter ψ} (h : router.active)
    (pointer : Option (PointerPosition ψ)) (edge : Edge) (threshold : ψ) (now : Instant) :
    router.activate (φ := φ) pointer edge threshold now = (none, none, router) := by
  rw [CaptureRouter.activate, if_pos h]

section Idle

variable {router router' : CaptureRouter ψ} {pointer : Option (PointerPosition ψ)} {edge : Edge}
  {threshold : ψ} {now : Instant}

theorem activate_of_waiting (hActive : router.active = false)
    (hCooldown : router.cooldownActive now = (true, router')) :
    router.activate (φ := φ) pointer edge threshold now = (none, none, router') := by
  rw [CaptureRouter.activate, hActive, if_neg Bool.false_ne_true, hCooldown]

theorem activate_of_cooled (hActive : router.active = false)
    (hCooldown : router.cooldownActive now = (false, router')) :
    router.activate pointer edge threshold now =
      if CaptureRouter.atEdge router'.displayLayout pointer edge threshold then
        (entryPosition (φ := φ) router'.displayLayout pointer edge, some .hide,
          { router' with active := true, localRestorePosition := pointer })
      else
        (none, none, router') := by
  rw [CaptureRouter.activate, hActive, if_neg Bool.false_ne_true, hCooldown]

end Idle

theorem edgeRouted {router : CaptureRouter ψ} (h : settings.Of router) (call : CaptureCall φ ψ) :
    EdgeRouted settings router call
      (router.routeAtWithApplication call.captured call.activeApplicationId call.now).1
      (router.routeAtWithApplication call.captured call.activeApplicationId call.now).2 := by
  have hHeard : (isSystemReservedShortcut call.captured.event ||
      router.applicationExceptions.matchesApplication call.activeApplicationId) =
        !settings.hears call := by
    rw [EdgeSettings.hears, h.applicationExceptions, Bool.not_and, Bool.not_not, Bool.not_not]
  rw [CaptureRouter.routeAtWithApplication, hHeard, h.mode]
  cases hHears : settings.hears call with
  | false => exact .unheard hHears
  | true =>
  rw [Bool.not_true, if_neg Bool.false_ne_true]
  dsimp only
  split
  next hHotkey => exact .released (by rw [EdgeSettings.releases, hHears, hHotkey]; rfl)
  next hHotkey =>
  have hHotkey := Bool.eq_false_iff.mpr hHotkey
  have hReleases : ¬settings.releases call := by
    rw [EdgeSettings.releases, hHotkey, Bool.and_false]
    exact Bool.false_ne_true
  have hTouches : settings.touches call = CaptureRouter.atEdge settings.displayLayout
      call.captured.pointer settings.edge settings.threshold := by
    rw [EdgeSettings.touches, hHears, hHotkey]
    rfl
  cases hActive : router.active with
  | true =>
    rw [activate_of_active hActive]
    dsimp only
    rw [if_pos hActive]
    exact .controlled hHears hReleases hActive
  | false =>
  rcases hCooldown : router.cooldownActive call.now with ⟨waits, router'⟩
  have hEq := cooldownActive_eq hCooldown
  have hActive' : router'.active ≠ true := by
    rw [hEq]
    exact Bool.eq_false_iff.mp hActive
  cases waits with
  | true =>
    rw [activate_of_waiting hActive hCooldown]
    dsimp only
    rw [if_neg hActive']
    exact .kept router' hReleases hActive hCooldown
  | false =>
  have hLayout : router'.displayLayout = settings.displayLayout := by
    rw [hEq]
    exact h.displayLayout
  rw [← hLayout] at hTouches
  rw [activate_of_cooled hActive hCooldown]
  cases hTouch : settings.touches call with
  | true =>
    have hTaken := EdgeRouted.taken router' hTouch hActive hCooldown
    rw [← hLayout] at hTaken
    rw [if_pos (hTouches.symm.trans hTouch)]
    exact hTaken
  | false =>
    rw [if_neg (Bool.eq_false_iff.mp (hTouches.symm.trans hTouch))]
    dsimp only
    rw [if_neg hActive']
    exact .inside router' hTouch hReleases hActive hCooldown

/-- What one call does, by what has been captured before it: what is handed over for the target, and
what becomes of the pointer of this machine. -/
structure ByHistory (settings : EdgeSettings ψ) (calls : List (CaptureCall φ ψ))
    (call : CaptureCall φ ψ) (s s' : CaptureSend φ ψ) : Prop where
  stays : (settings.hears call → ¬settings.Controlled (calls ++ [call])) →
    s'.enqueued = s.enqueued ∧ s'.decisions = s.decisions ++ [.continueInput]
  enters : settings.hears call → settings.Controlled (calls ++ [call]) →
    ¬settings.Controlled calls →
    s'.enqueued = s.enqueued ++ ((entryPosition settings.displayLayout call.captured.pointer
        settings.edge).map fun entry =>
          InputEvent.mouse (.position entry.xRatio entry.yRatio)).toList ++ [call.captured.event] ∧
      s'.decisions = s.decisions ++ [.suppress]
  goesOn : settings.hears call → settings.Controlled (calls ++ [call]) → settings.Controlled calls →
    s'.enqueued = s.enqueued ++ [call.captured.event] ∧ s'.decisions = s.decisions ++ [.suppress]
  hidden : s'.localPointerHidden ↔ settings.Controlled (calls ++ [call])
  hides : settings.Controlled (calls ++ [call]) → ¬settings.Controlled calls →
    s'.pointerCalls = s.pointerCalls ++ [.hideLocalPointer]
  leaves : (settings.Controlled (calls ++ [call]) ↔ settings.Controlled calls) →
    s'.pointerCalls = s.pointerCalls
  restores : ∀ touch, settings.TakenBy touch calls → ¬settings.Controlled (calls ++ [call]) →
    s'.pointerCalls = s.pointerCalls ++ [.restoreLocalPointer touch.captured.pointer]

variable {calls : List (CaptureCall φ ψ)} {call : CaptureCall φ ψ} {s : CaptureSend φ ψ}

/-- The application is asked for only where there are exceptions, and matters only there. -/
theorem next_eq (s : CaptureSend φ ψ) (call : CaptureCall φ ψ) :
    s.next call =
      s.answered call.captured.event
        (s.router.routeAtWithApplication call.captured call.activeApplicationId call.now).1
        (s.router.routeAtWithApplication call.captured call.activeApplicationId call.now).2 := by
  rw [CaptureSend.next]
  cases hExceptions : s.router.hasApplicationExceptions with
  | true => rfl
  | false =>
    rw [if_neg Bool.false_ne_true, CaptureRouter.routeAtWithApplication,
      CaptureRouter.routeAtWithApplication,
      matchesApplication_of_not_hasApplicationExceptions hExceptions,
      matchesApplication_of_not_hasApplicationExceptions hExceptions]

/-- A call that the target does not get, with the pointer as it was. -/
theorem Retains.stays (h : Retains settings calls s) {s' : CaptureSend φ ψ}
    (hNext : Retains settings (calls ++ [call]) s')
    (hHears : settings.hears call → ¬settings.Controlled (calls ++ [call]))
    (hRouter : s'.router.active = s.router.active) (hEnqueued : s'.enqueued = s.enqueued)
    (hDecisions : s'.decisions = s.decisions ++ [.continueInput])
    (hPointer : s'.pointerCalls = s.pointerCalls) : ByHistory settings calls call s s' :=
  have hSame : settings.Controlled (calls ++ [call]) ↔ settings.Controlled calls := by
    rw [← hNext.active, hRouter, h.active]
  { stays := fun _ => ⟨hEnqueued, hDecisions⟩
    enters := fun hHeard hControlled => absurd hControlled (hHears hHeard)
    goesOn := fun hHeard hControlled => absurd hControlled (hHears hHeard)
    hidden := by rw [hNext.hidden, hNext.active]
    hides := fun hControlled hIdle => absurd (hSame.mp hControlled) hIdle
    leaves := fun _ => hPointer
    restores := fun _ hTaken hIdle =>
      absurd (hSame.mpr (EdgeSettings.controlled_of_takenBy hTaken)) hIdle }

theorem Retains.answered (h : Retains settings calls s) (hTimes : ∀ c ∈ calls, c.now ≤ call.now)
    {route : RouteResult φ ψ} {router : CaptureRouter ψ}
    (hRouted : EdgeRouted settings s.router call route router) :
    Retains settings (calls ++ [call]) (s.answered call.captured.event route router) := by
  have hCooled := h.cooldown call.now hTimes
  cases hRouted with
  | unheard hHears =>
    have hReleases : ¬settings.releases call := by simp [EdgeSettings.releases, hHears]
    have hTakes : ¬settings.Takes calls call := by
      simp [EdgeSettings.Takes, EdgeSettings.touches, hHears]
    exact h.leave hReleases (fun hTake => absurd hTake hTakes) rfl rfl
  | released hReleases =>
    exact {
      works := ⟨h.works.mode, h.works.displayLayout, h.works.applicationExceptions⟩
      active := by
        rw [EdgeSettings.controlled_snoc]
        exact iff_of_false Bool.false_ne_true fun hControlled => hControlled.1 hReleases
      cooldown := by
        intro now hNow
        have hLast := hNow call (by simp)
        refine (cooldownActive_giveBack _ _ _ _ hLast).trans ?_
        rw [EdgeSettings.cooled_snoc]
        refine ⟨fun hCool => ⟨fun c hMem _ => ?_, fun _ => hCool⟩, fun hCool => hCool.2 hReleases⟩
        exact (Nat.add_le_add_right (hTimes c hMem) settings.cooldown).trans hCool
      restores := by
        intro touch hTaken
        exact absurd hReleases (EdgeSettings.takenBy_snoc.mp hTaken).1
      hidden := by
        have hHidden := h.hidden
        dsimp only [CaptureSend.answered, CaptureRouter.giveBack, RouteResult.withPointerAction]
        cases hActive : s.router.active with
        | true =>
          rw [hHidden.trans hActive]
          rfl
        | false =>
          rw [hHidden.trans hActive]
          rfl }
  | controlled hHears hReleases hActive =>
    exact h.leave hReleases (fun _ => h.active.mp hActive) rfl rfl
  | kept router' hReleases hActive hCooldown =>
    have hSame := cooldownActive_eq hCooldown
    rw [hCooldown] at hCooled
    refine h.leave hReleases (fun hTake => ?_) hSame rfl
    exact absurd (hCooled.mpr hTake.2) Bool.noConfusion
  | inside router' hTouches hReleases hActive hCooldown =>
    have hForgets := cooldownActive_eq hCooldown
    rw [hCooldown] at hCooled
    have hTakes : ¬settings.Takes calls call := by simp [EdgeSettings.Takes, hTouches]
    have hIdle : ¬settings.Controlled calls := by simp [← h.active, hActive]
    exact {
      works := by
        rw [CaptureSend.answered, hForgets]
        exact ⟨h.works.mode, h.works.displayLayout, h.works.applicationExceptions⟩
      active := by
        rw [EdgeSettings.controlled_snoc, CaptureSend.answered, hForgets]
        simp [hActive, hTakes, hIdle]
      cooldown := by
        rw [CaptureSend.answered, hForgets]
        exact fun now => cooled_of_cooled (hCooled.mp rfl) hReleases rfl
      restores := by
        intro touch hTaken
        rw [EdgeSettings.takenBy_snoc] at hTaken
        rcases hTaken.2 with ⟨-, -, hTake⟩ | hTaken
        · exact absurd hTake hTakes
        · exact absurd (EdgeSettings.controlled_of_takenBy hTaken) hIdle
      hidden := by
        rw [CaptureSend.answered, hForgets]
        exact h.hidden }
  | taken router' hTouches hActive hCooldown =>
    have hForgets := cooldownActive_eq hCooldown
    rw [hCooldown] at hCooled
    have hReleases := EdgeSettings.not_releases_of_touches hTouches
    have hTakes : settings.Takes calls call := ⟨hTouches, hCooled.mp rfl⟩
    have hIdle : ¬settings.Controlled calls := by simp [← h.active, hActive]
    exact {
      works := by
        rw [CaptureSend.answered, hForgets]
        exact ⟨h.works.mode, h.works.displayLayout, h.works.applicationExceptions⟩
      active := by
        rw [EdgeSettings.controlled_snoc]
        exact iff_of_true rfl ⟨hReleases, Or.inl hTakes⟩
      cooldown := by
        rw [CaptureSend.answered, hForgets]
        exact fun now => cooled_of_cooled hTakes.2 hReleases rfl
      restores := by
        intro touch hTaken
        rw [EdgeSettings.takenBy_snoc] at hTaken
        rcases hTaken.2 with ⟨rfl, -, -⟩ | hTaken
        · rfl
        · exact absurd (EdgeSettings.controlled_of_takenBy hTaken) hIdle
      hidden := by
        rw [CaptureSend.answered, h.hidden, hActive]
        rfl }

/-- The hotkey brings the pointer back to where it has left, if it has. -/
theorem Retains.released (h : Retains settings calls s) (hReleases : settings.releases call)
    {s' : CaptureSend φ ψ} (hNext : Retains settings (calls ++ [call]) s')
    (hEnqueued : s'.enqueued = s.enqueued) (hDecisions : s'.decisions = s.decisions ++ [.continueInput])
    (hPointer : s'.pointerCalls = s.pointerCalls ++
      (restoreLocalPointerIfHidden s.localPointerHidden s.router.localRestorePosition).1.toList) :
    ByHistory settings calls call s s' :=
  have hIdle : ¬settings.Controlled (calls ++ [call]) := fun hControlled =>
    (EdgeSettings.controlled_snoc.mp hControlled).1 hReleases
  { stays := fun _ => ⟨hEnqueued, hDecisions⟩
    enters := fun _ hControlled => absurd hControlled hIdle
    goesOn := fun _ hControlled => absurd hControlled hIdle
    hidden := by rw [hNext.hidden, hNext.active]
    hides := fun hControlled => absurd hControlled hIdle
    leaves := by
      intro hSame
      have hHidden : s.localPointerHidden = false := by
        rw [h.hidden, ← Bool.not_eq_true, h.active, ← hSame]
        exact hIdle
      rw [hPointer, hHidden]
      exact List.append_nil _
    restores := by
      intro touch hTaken _
      have hHidden : s.localPointerHidden = true := by
        rw [h.hidden, h.active]
        exact EdgeSettings.controlled_of_takenBy hTaken
      rw [hPointer, hHidden, h.restores touch hTaken]
      rfl }

/-- What a call does is what the history says. -/
theorem Retains.byHistory (h : Retains settings calls s) {route : RouteResult φ ψ}
    {router : CaptureRouter ψ} (hRouted : EdgeRouted settings s.router call route router)
    (hNext : Retains settings (calls ++ [call]) (s.answered call.captured.event route router)) :
    ByHistory settings calls call s (s.answered call.captured.event route router) := by
  have hAfter := hNext.active
  cases hRouted with
  | unheard hHears =>
    refine h.stays hNext (fun hHeard => ?_) rfl (List.append_nil _) rfl (List.append_nil _)
    simp [hHears] at hHeard
  | released hReleases =>
    refine h.released hReleases hNext (List.append_nil _) rfl ?_
    dsimp only [CaptureSend.answered, RouteResult.withPointerAction]
    cases hActive : s.router.active with
    | true => rfl
    | false =>
      rw [h.hidden.trans hActive]
      rfl
  | controlled hHears hReleases hActive =>
    have hBefore := h.active.mp hActive
    exact {
      stays := fun hNot => absurd (hAfter.mp hActive) (hNot hHears)
      enters := fun _ _ hIdle => absurd hBefore hIdle
      goesOn := fun _ _ _ => ⟨rfl, rfl⟩
      hidden := by rw [hNext.hidden, hNext.active]
      hides := fun _ hIdle => absurd hBefore hIdle
      leaves := fun _ => List.append_nil _
      restores := fun _ _ hIdle => absurd (hAfter.mp hActive) hIdle }
  | kept router' hReleases hActive hCooldown =>
    have hSame : router.active = s.router.active := by rw [cooldownActive_eq hCooldown]
    refine h.stays hNext (fun _ => ?_) hSame (List.append_nil _) rfl (List.append_nil _)
    rw [← hAfter]
    exact Bool.eq_false_iff.mp (hSame.trans hActive)
  | inside router' hTouches hReleases hActive hCooldown =>
    have hSame : router.active = s.router.active := by rw [cooldownActive_eq hCooldown]
    refine h.stays hNext (fun _ => ?_) hSame (List.append_nil _) rfl (List.append_nil _)
    rw [← hAfter]
    exact Bool.eq_false_iff.mp (hSame.trans hActive)
  | taken router' hTouches hActive hCooldown =>
    have hHears : settings.hears call := by
      simp only [EdgeSettings.touches, Bool.and_eq_true] at hTouches
      exact hTouches.1.1
    have hIdle : ¬settings.Controlled calls := by simp [← h.active, hActive]
    exact {
      stays := fun hNot => absurd (hAfter.mp rfl) (hNot hHears)
      enters := fun _ _ _ => ⟨(List.append_assoc _ _ _).symm, rfl⟩
      goesOn := fun _ _ hBefore => absurd hBefore hIdle
      hidden := by rw [hNext.hidden, hNext.active]
      hides := by
        intro _ _
        rw [CaptureSend.answered, h.hidden, hActive]
        rfl
      leaves := fun hSame => absurd (hSame.mp (hAfter.mp rfl)) hIdle
      restores := fun _ hTaken => absurd (EdgeSettings.controlled_of_takenBy hTaken) hIdle }

/-- The capture at an edge before its first call. -/
def EdgeSettings.start (settings : EdgeSettings ψ) : CaptureSend φ ψ :=
  .start (.edge settings.edge settings.threshold settings.releaseHotkey settings.cooldown)
    settings.displayLayout settings.applicationExceptions

omit [FloatLike φ] [FloatPair φ ψ] in
theorem retains_start (settings : EdgeSettings ψ) :
    Retains settings ([] : List (CaptureCall φ ψ)) settings.start where
  works := ⟨rfl, rfl, rfl⟩
  active := iff_of_false Bool.false_ne_true not_since_nil
  cooldown _ _ := iff_of_true rfl fun _ hMem => absurd hMem List.not_mem_nil
  restores _ hTaken := absurd hTaken not_since_nil
  hidden := rfl

/-- Any number of calls -/
theorem retains_after (settings : EdgeSettings ψ) {calls : List (CaptureCall φ ψ)}
    (hTimes : calls.Pairwise fun c d => c.now ≤ d.now) :
    Retains settings calls (settings.start.after calls) := by
  induction calls using List.reverseRecOn with
  | nil => exact retains_start settings
  | append_singleton calls call ih =>
    obtain ⟨hCalls, -, hLast⟩ := List.pairwise_append.mp hTimes
    rw [CaptureSend.after_snoc, next_eq]
    have hBefore := ih hCalls
    exact hBefore.answered (fun c hMem => hLast c hMem call (by simp)) (edgeRouted hBefore.works call)

/-- In every run with a clock that does not go back, each captured event stays on this machine or is
handed over for the target, by who has control after it, and the pointer of this machine goes and
comes back with it. -/
theorem edge_capture_by_history (settings : EdgeSettings ψ) {calls : List (CaptureCall φ ψ)}
    (hTimes : calls.Pairwise fun c d => c.now ≤ d.now) {before : List (CaptureCall φ ψ)}
    {call : CaptureCall φ ψ} (hPrefix : before ++ [call] <+: calls) :
    ByHistory settings before call (settings.start.after before)
      (settings.start.after (before ++ [call])) := by
  have hNext := retains_after settings (hTimes.sublist hPrefix.sublist)
  have hBefore := retains_after settings
    (hTimes.sublist ((List.prefix_append before [call]).trans hPrefix).sublist)
  rw [CaptureSend.after_snoc, next_eq] at hNext ⊢
  exact hBefore.byHistory (edgeRouted hBefore.works call) hNext

end Steps

section Sample

open scoped ExactNumbers

/-- The right edge of a display of 100 by 100. -/
def sampleSettings : EdgeSettings ℚ :=
  ⟨.fromPrimary (some ⟨0, 0, 100, 100⟩), {}, .right, 4, .defaultRelease, 250_000_000⟩

/-- A move to the edge, a key, and the hotkey. -/
def sampleCalls : List (CaptureCall ℚ ℚ) :=
  [⟨⟨.mouse (.move 1 0), some ⟨99, 50⟩⟩, none, 0⟩,
    ⟨⟨.key ⟨.c, .pressed, .none⟩, some ⟨99, 50⟩⟩, none, 1⟩,
    ⟨⟨.key ⟨.escape, .pressed, Modifiers.control.with .alt⟩, none⟩, none, 2⟩]

theorem edge_capture_by_history_key :
    ByHistory sampleSettings (sampleCalls.take 1)
      ⟨⟨.key ⟨.c, .pressed, .none⟩, some ⟨99, 50⟩⟩, none, 1⟩
      (sampleSettings.start.after (sampleCalls.take 1))
      (sampleSettings.start.after (sampleCalls.take 2)) :=
  have hPrefix : sampleCalls.take 1 ++ [⟨⟨.key ⟨.c, .pressed, .none⟩, some ⟨99, 50⟩⟩, none, 1⟩] <+:
      sampleCalls := ⟨sampleCalls.drop 2, rfl⟩
  edge_capture_by_history sampleSettings (by decide) hPrefix

example : (sampleSettings.start.after sampleCalls).enqueued =
    [.mouse (.position 0 (1 / 2)), .mouse (.move 1 0), .key ⟨.c, .pressed, .none⟩] := by
  decide +kernel

end Sample

end Kmsync
