import Kmsync.Capture.Router
import Kmsync.Keyboard.Keymap
import Kmsync.ProofKit.Postcondition
import Kmsync.ProofKit.Transition

/-! The profile that an event is mapped by on its way to a target.  Each event names its profile,
but a target keeps the profile of the event that its connection was opened for. -/

namespace Kmsync

open ProofKit

def ProfileName.profile {φ : Type} [One φ] [Neg φ] : ProfileName → Profile φ
  | .macToWindows => .macToWindowsDefault
  | .windowsToMac => .windowsToMacosDefault

/-- A `DesktopTargetSender` with its compiled profile; the transport is known by the connection it
stands for. -/
structure ProfiledSender (φ τ : Type) where
  transport : τ
  compiled : CompiledProfile φ
  sourceDeviceId : DeviceId
  targetDeviceId : DeviceId
  sequence : UInt64

/-- What the surroundings answer to one call. -/
structure DesktopAnswers (τ : Type) where
  /-- `format!("{error:?}")` -/
  debugText : MappingError → String
  /-- the configuration, the identity, and the two device ids read from them -/
  deviceIds : Except String (DeviceId × DeviceId)
  /-- `connect_desktop_target_transport` -/
  connect : Except String τ
  /-- `now_micros()` -/
  nowMicros : Except String UInt64
  /-- `send_event` of the transport -/
  sendEvent : Except String Unit

/-- The connect step, the clock or the send ends in an error. -/
def DesktopAnswers.Fails {τ : Type} (answers : DesktopAnswers τ) : Prop :=
  ∃ error, answers.deviceIds = .error error ∨ answers.connect = .error error ∨
    answers.nowMicros = .error error ∨ answers.sendEvent = .error error

/-- The senders, and what was passed to a transport so far: each item with its mapped event. -/
structure DesktopSenders (φ τ : Type) where
  senders : String → Option (ProfiledSender φ τ)
  passed : List (TargetedQueuedInputEvent φ × InputEvent φ)

namespace DesktopSenders

section Programs

variable {φ τ : Type} [One φ] [Neg φ] [Mul φ] (answers : DesktopAnswers τ)
  (queued : TargetedQueuedInputEvent φ)

/-- The first part: a target without a sender gets one. -/
def connectDesktopTarget : EStateM String (DesktopSenders φ τ) Unit := do
  let s ← get
  if (s.senders queued.targetDeviceId).isNone then
    match CompiledProfile.compile queued.profileName.profile, answers.deviceIds,
      answers.connect with
    | .error error, _, _ => throw (answers.debugText error)
    | .ok _, .error error, _ => throw error
    | .ok _, .ok _, .error error => throw error
    | .ok compiled, .ok (sourceDeviceId, targetDeviceId), .ok transport =>
      set { s with
        senders := Function.update s.senders queued.targetDeviceId
          (some ⟨transport, compiled, sourceDeviceId, targetDeviceId, 1⟩) }

def transmitDesktopCaptureEvent : EStateM String (DesktopSenders φ τ) Unit := do
  connectDesktopTarget answers queued
  let s ← get
  match s.senders queued.targetDeviceId with
  | none => throw "desktop capture sender missing after connect"
  | some target =>
    let mapped := target.compiled.transform queued.event
    match answers.nowMicros with
    | .error error => throw error
    | .ok _ =>
      let passed := s.passed ++ [(queued, mapped)]
      match answers.sendEvent with
      | .ok () =>
        let target := { target with sequence := saturatingNext target.sequence }
        set (σ := DesktopSenders φ τ)
          ⟨Function.update s.senders queued.targetDeviceId (some target), passed⟩
      | .error error =>
        set (σ := DesktopSenders φ τ)
          ⟨Function.update s.senders queued.targetDeviceId none, passed⟩
        throw error

end Programs

/-- One call; the loop goes on after an error. -/
def step {φ τ : Type} [One φ] [Neg φ] [Mul φ] (s : DesktopSenders φ τ)
    (call : DesktopAnswers τ × TargetedQueuedInputEvent φ) : Option (DesktopSenders φ τ) :=
  match transmitDesktopCaptureEvent call.1 call.2 s with
  | .ok _ s' | .error _ s' => some s'

section Calls

variable {φ τ : Type} [One φ] [Neg φ] [Mul φ] {answers : DesktopAnswers τ}
  {queued : TargetedQueuedInputEvent φ} {s s' : DesktopSenders φ τ}

/-- What one call does: it passes at most its own item, mapped by the profile of the sender that the
target had or else by the item's own, and every sender keeps its profile. -/
structure Transmits (queued : TargetedQueuedInputEvent φ) (s s' : DesktopSenders φ τ) : Prop where
  passed : s'.passed = s.passed ∨ ∃ sender : ProfiledSender φ τ,
    s'.passed = s.passed ++ [(queued, sender.compiled.transform queued.event)] ∧
      (s.senders queued.targetDeviceId = some sender ∨
        CompiledProfile.compile queued.profileName.profile = .ok sender.compiled)
  senders : ∀ target sender, s'.senders target = some sender →
    (∃ old, s.senders target = some old ∧ old.compiled = sender.compiled) ∨
      (target = queued.targetDeviceId ∧
        CompiledProfile.compile queued.profileName.profile = .ok sender.compiled)

omit [Mul φ] in
theorem connectDesktopTarget_meets :
    Meets (connectDesktopTarget answers queued)
      (fun _ s' => s'.passed = s.passed ∧ ∀ target sender, s'.senders target = some sender →
        s.senders target = some sender ∨ (target = queued.targetDeviceId ∧
          CompiledProfile.compile queued.profileName.profile = .ok sender.compiled))
      (fun _ s' => s' = s) s := by
  simp only [connectDesktopTarget, meets_bind, meets_get]
  split
  next hNone =>
    split
    · rfl
    · rfl
    · rfl
    next compiled sourceDeviceId targetDeviceId transport hCompile _ _ =>
      refine ⟨rfl, fun target sender hSender => ?_⟩
      dsimp only at hSender
      by_cases hTarget : target = queued.targetDeviceId
      · subst hTarget
        rw [Function.update_self] at hSender
        obtain rfl := Option.some.inj hSender
        exact Or.inr ⟨rfl, hCompile⟩
      · rw [Function.update_of_ne hTarget] at hSender
        exact Or.inl hSender
  next => exact ⟨rfl, fun _ _ hSender => Or.inl hSender⟩

theorem transmitDesktopCaptureEvent_meets :
    Meets (transmitDesktopCaptureEvent answers queued) (fun _ s' => Transmits queued s s')
      (fun _ s' => Transmits queued s s') s := by
  rw [transmitDesktopCaptureEvent, meets_bind]
  refine connectDesktopTarget_meets.mono ?_ ?_
  · rintro _ s₁ ⟨hPassed, hSenders⟩
    have hKept : ∀ target sender, s₁.senders target = some sender →
        (∃ old, s.senders target = some old ∧ old.compiled = sender.compiled) ∨
          (target = queued.targetDeviceId ∧
            CompiledProfile.compile queued.profileName.profile = .ok sender.compiled) :=
      fun target sender hSender => (hSenders target sender hSender).imp (⟨sender, ·, rfl⟩) id
    simp only [meets_bind, meets_get]
    split
    next => exact ⟨Or.inl hPassed, hKept⟩
    next sender hGet =>
      have hOwn := (hSenders _ sender hGet).imp_right And.right
      split
      next => exact ⟨Or.inl hPassed, hKept⟩
      next =>
        rw [hPassed]
        split
        next =>
          refine ⟨Or.inr ⟨sender, rfl, hOwn⟩, fun target sender' hSender => ?_⟩
          dsimp only at hSender
          by_cases hTarget : target = queued.targetDeviceId
          · subst hTarget
            rw [Function.update_self] at hSender
            obtain rfl := Option.some.inj hSender
            exact hKept _ sender hGet
          · rw [Function.update_of_ne hTarget] at hSender
            exact hKept target sender' hSender
        next =>
          refine ⟨Or.inr ⟨sender, rfl, hOwn⟩, fun target sender' hSender => ?_⟩
          dsimp only at hSender
          by_cases hTarget : target = queued.targetDeviceId
          · rw [hTarget, Function.update_self] at hSender
            cases hSender
          · rw [Function.update_of_ne hTarget] at hSender
            exact hKept target sender' hSender
  · rintro error _ rfl
    exact ⟨Or.inl rfl, fun target sender hSender => Or.inl ⟨sender, hSender, rfl⟩⟩

omit [Mul φ] in
theorem exists_compile (profileName : ProfileName) :
    ∃ compiled : CompiledProfile φ, CompiledProfile.compile profileName.profile = .ok compiled := by
  cases profileName
  all_goals exact ⟨_, rfl⟩

/-- A call that ends in an error was failed by its surroundings. -/
theorem transmitDesktopCaptureEvent_fails {error : String}
    (h : transmitDesktopCaptureEvent answers queued s = .error error s') : answers.Fails := by
  have hMeets : Meets (transmitDesktopCaptureEvent answers queued) (fun _ _ => True)
      (fun _ _ => answers.Fails) s := by
    have hConnect : Meets (connectDesktopTarget answers queued)
        (fun _ s' => s'.senders queued.targetDeviceId ≠ none) (fun _ _ => answers.Fails) s := by
      simp only [connectDesktopTarget, meets_bind, meets_get]
      split
      next hNone =>
        obtain ⟨compiled, hCompile⟩ := exists_compile (φ := φ) queued.profileName
        rw [hCompile]
        split
        next hError => cases hError
        next error _ hError => exact ⟨error, Or.inl hError⟩
        next error _ _ hError => exact ⟨error, Or.inr (Or.inl hError)⟩
        next =>
          rw [meets_set]
          dsimp only
          rw [Function.update_self]
          exact Option.some_ne_none _
      next hSome =>
        show s.senders queued.targetDeviceId ≠ none
        simpa using hSome
    rw [transmitDesktopCaptureEvent, meets_bind]
    refine hConnect.mono ?_ fun _ _ hFails => hFails
    intro _ s₁ hSender
    simp only [meets_bind, meets_get]
    split
    next hNone => exact absurd hNone hSender
    next =>
      split
      next error hError => exact ⟨error, Or.inr (Or.inr (Or.inl hError))⟩
      next =>
        split
        next => trivial
        next error hError => exact ⟨error, Or.inr (Or.inr (Or.inr hError))⟩
  exact (Meets.of_error h).mp hMeets

theorem transmits_of_step {call : DesktopAnswers τ × TargetedQueuedInputEvent φ}
    (h : step s call = some s') : Transmits call.2 s s' := by
  have hMeets : Meets (transmitDesktopCaptureEvent call.1 call.2) (fun _ s' => Transmits call.2 s s')
      (fun _ s' => Transmits call.2 s s') s := transmitDesktopCaptureEvent_meets
  rw [step] at h
  split at h
  next hCall =>
    obtain rfl := Option.some.inj h
    exact (Meets.of_ok hCall).mp hMeets
  next hCall =>
    obtain rfl := Option.some.inj h
    exact (Meets.of_error hCall).mp hMeets

end Calls

section Runs

variable {φ τ : Type} [One φ] [Neg φ] [Mul φ] {s s' : DesktopSenders φ τ}
  {calls : List (DesktopAnswers τ × TargetedQueuedInputEvent φ)}

def start : DesktopSenders φ τ := ⟨fun _ => none, []⟩

/-- The event is mapped by the profile that its item names. -/
def OwnProfile (entry : TargetedQueuedInputEvent φ × InputEvent φ) : Prop :=
  ∃ compiled, CompiledProfile.compile entry.1.profileName.profile = .ok compiled ∧
    entry.2 = compiled.transform entry.1.event

/-- The sender of the target, if it has one, was compiled from the profile that the item names. -/
def Fits (s : DesktopSenders φ τ) (queued : TargetedQueuedInputEvent φ) : Prop :=
  ∀ sender, s.senders queued.targetDeviceId = some sender →
    CompiledProfile.compile queued.profileName.profile = .ok sender.compiled

theorem ownProfile_step {queued : TargetedQueuedInputEvent φ} (h : Transmits queued s s')
    (hFits : Fits s queued) (hOwn : ∀ entry ∈ s.passed, OwnProfile entry) :
    ∀ entry ∈ s'.passed, OwnProfile entry := by
  rcases h.passed with hPassed | ⟨sender, hPassed, hSender⟩
  · rwa [hPassed]
  · have hCompile := hSender.elim (hFits sender) id
    intro entry hEntry
    rw [hPassed] at hEntry
    rcases List.mem_append.mp hEntry with hOld | hNew
    · exact hOwn entry hOld
    · obtain rfl := List.mem_singleton.mp hNew
      exact ⟨sender.compiled, hCompile, rfl⟩

/-- While the senders fit the items, every event is mapped by its own profile. -/
theorem passed_ownProfile (hFits : Along (fun s call _ => Fits s call.2) step start calls)
    (hRun : run step start calls = some s) : ∀ entry ∈ s.passed, OwnProfile entry := by
  apply run_induction_along (I := fun (s : DesktopSenders φ τ) _ =>
    ∀ entry ∈ s.passed, OwnProfile entry) ?_ (List.forall_mem_nil _) hFits hRun
  intro s call _ s' hOwn hFits hStep
  exact ownProfile_step (transmits_of_step hStep) hFits hOwn

/-- So they do while the items of one target name one profile. -/
theorem along_fits (profileOf : String → ProfileName)
    (h : ∀ call ∈ calls, call.2.profileName = profileOf call.2.targetDeviceId)
    (hSenders : ∀ target sender, s.senders target = some sender →
      CompiledProfile.compile (profileOf target).profile = .ok sender.compiled) :
    Along (fun s call _ => Fits s call.2) step s calls := by
  induction calls generalizing s with
  | nil => trivial
  | cons call calls ih =>
    have hProfile := h call List.mem_cons_self
    refine ⟨fun sender hSender => hProfile ▸ hSenders _ sender hSender, fun s' hStep =>
      ih (fun other hOther => h other (List.mem_cons_of_mem call hOther)) ?_⟩
    intro target sender hSender
    rcases (transmits_of_step hStep).senders target sender hSender with
      ⟨old, hOld, hCompiled⟩ | ⟨rfl, hCompile⟩
    · exact hCompiled ▸ hSenders target old hOld
    · exact hProfile ▸ hCompile

/-- No call stops the loop. -/
theorem exists_run (s : DesktopSenders φ τ)
    (calls : List (DesktopAnswers τ × TargetedQueuedInputEvent φ)) :
    ∃ s', run step s calls = some s' := by
  induction calls generalizing s with
  | nil => exact ⟨s, rfl⟩
  | cons call calls ih =>
    obtain ⟨s₁, hStep⟩ : ∃ s₁, step s call = some s₁ := by
      rw [step]
      split
      all_goals exact ⟨_, rfl⟩
    obtain ⟨s', hRun⟩ := ih s₁
    exact ⟨s', run_cons_eq_some.mpr ⟨s₁, hStep, hRun⟩⟩

section Examples

/-- Every call goes well. -/
def allWell : DesktopAnswers Unit := ⟨fun _ => "", .ok (1, 2), .ok (), .ok 0, .ok ()⟩

def controlPressed (profileName : ProfileName) : TargetedQueuedInputEvent ℤ :=
  ⟨"b", profileName, .key ⟨.leftControl, .pressed, .none⟩⟩

def controlTwice (first second : ProfileName) :
    List (DesktopAnswers Unit × TargetedQueuedInputEvent ℤ) :=
  [(allWell, controlPressed first), (allWell, controlPressed second)]

theorem controlTwice_ownProfile :
    ∃ s, run step start (controlTwice .windowsToMac .windowsToMac) = some s ∧
      ∀ entry ∈ s.passed, OwnProfile entry := by
  have hFits : Along (fun s call _ => Fits s call.2) step start
      (controlTwice .windowsToMac .windowsToMac) := by
    apply along_fits fun _ => .windowsToMac
    · simp [controlTwice, controlPressed]
    · intro _ _ hSender
      exact absurd hSender (Option.some_ne_none _).symm
  obtain ⟨s, hRun⟩ := exists_run start (controlTwice .windowsToMac .windowsToMac)
  exact ⟨s, hRun, passed_ownProfile hFits hRun⟩

/-- The second event goes through the profile of the first. -/
theorem controlTwice_otherProfile :
    ¬ ∀ (calls : List (DesktopAnswers Unit × TargetedQueuedInputEvent ℤ)) s,
      run step start calls = some s → ∀ entry ∈ s.passed, OwnProfile entry := by
  intro hAll
  have hRun : (run step start (controlTwice .macToWindows .windowsToMac)).map (·.passed) =
      some [(controlPressed .macToWindows, (controlPressed .macToWindows).event),
        (controlPressed .windowsToMac, (controlPressed .windowsToMac).event)] := by
    rfl
  obtain ⟨s, hRun, hPassed⟩ := Option.map_eq_some_iff.mp hRun
  obtain ⟨compiled, hCompile, hEvent⟩ := hAll _ s hRun
    (controlPressed .windowsToMac, (controlPressed .windowsToMac).event)
    (by rw [hPassed]; exact List.mem_cons_of_mem _ List.mem_cons_self)
  obtain rfl := Except.ok.inj hCompile
  exact absurd hEvent (by decide)

end Examples

end Runs

end DesktopSenders

end Kmsync
