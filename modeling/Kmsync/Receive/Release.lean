import Kmsync.Receive.Loop

/-! What stays pressed when the receiver returns.  Every exit of the loop releases what is tracked
as pressed, but for one: when the clock cannot be read, the error is returned at once. -/

namespace Kmsync

open ProofKit

/-- The last press of an item that succeeded has no release behind it, be it one that failed. -/
def unreleased (item : Item) : Trace → Bool
  | [] => false
  | .inject _ event ok :: trace =>
    match event.change with
    | some (changed, .pressed) => (changed = item && ok) || unreleased item trace
    | some (changed, .released) => changed ≠ item && unreleased item trace
    | none => unreleased item trace
  | .instant _ :: trace | .pass _ :: trace | .clock _ :: trace => unreleased item trace

/-- The item is in the held set of the operating system: what succeeded last was a press. -/
def held (item : Item) : Trace → Bool
  | [] => false
  | .inject _ event true :: trace =>
    match event.change with
    | some (changed, state) => if changed = item then state = .pressed else held item trace
    | none => held item trace
  | .inject _ _ false :: trace => held item trace
  | .instant _ :: trace | .pass _ :: trace | .clock _ :: trace => held item trace

section Traces

variable {item : Item} {cause : Option ReceivedInputFrame} {event : InputEvent F32} {ok : Bool}
  {trace : Trace}

/-- Only a press that succeeds makes an item unreleased. -/
theorem unreleased_of_inject (h : unreleased item (.inject cause event ok :: trace) = true) :
    unreleased item trace = true ∨ ok = true ∧ event.change = some (item, .pressed) := by
  unfold unreleased at h
  split at h
  next changed hChange =>
    rcases Bool.or_eq_true_iff.mp h with h | h
    · obtain ⟨hItem, hOk⟩ := Bool.and_eq_true_iff.mp h
      rw [hChange, of_decide_eq_true hItem]
      exact Or.inr ⟨hOk, rfl⟩
    · exact Or.inl h
  next => exact Or.inl (Bool.and_eq_true_iff.mp h).2
  next => exact Or.inl h

theorem unreleased_release {changed : Item} (hChange : event.change = some (changed, .released))
    (h : unreleased item (.inject cause event ok :: trace) = true) :
    changed ≠ item ∧ unreleased item trace = true := by
  unfold unreleased at h
  rw [hChange] at h
  exact (Bool.and_eq_true_iff.mp h).imp_left of_decide_eq_true

/-- If every release succeeds, what is held is unreleased. -/
theorem unreleased_of_held
    (hReleases : ∀ cause event, .inject cause event false ∈ trace →
      ∀ item, event.change ≠ some (item, .released))
    (h : held item trace = true) : unreleased item trace = true := by
  induction trace with
  | nil => cases h
  | cons action trace ih =>
    have hTail : held item trace = true → unreleased item trace = true :=
      ih fun cause event hMem => hReleases cause event (List.mem_cons_of_mem _ hMem)
    cases action with
    | inject cause event ok =>
      cases ok with
      | true =>
        unfold held at h
        unfold unreleased
        split at h
        next changed state hChange =>
          rw [hChange]
          by_cases hItem : changed = item
          · rw [if_pos hItem] at h
            obtain rfl := of_decide_eq_true h
            simp [hItem]
          · rw [if_neg hItem] at h
            cases state <;> simp [hItem, hTail h]
        next hChange =>
          rw [hChange]
          exact hTail h
      | false =>
        have hNotRelease := hReleases cause event List.mem_cons_self
        unfold unreleased
        split
        next => simp [hTail h]
        next changed hChange => exact absurd hChange (hNotRelease changed)
        next => exact hTail h
    | instant _ | pass _ | clock _ => exact hTail h

end Traces

/-- What is unreleased is tracked as pressed, and the clock has not failed. -/
structure Tracked (s : LoopState) : Prop where
  pressed : ∀ item, unreleased item s.trace = true → s.remoteInput.isPressed item = true
  clock : .clock false ∉ s.trace

/-- Nothing is unreleased. -/
structure Released (s : LoopState) : Prop where
  released : ∀ item, unreleased item s.trace = false
  clock : .clock false ∉ s.trace

/-- How an error is left: with everything released, or right after the clock has failed. -/
def Left (s : LoopState) : Prop :=
  Released s ∨ ∃ before, s.trace = .clock false :: before ∧ .clock false ∉ before

theorem Released.tracked {s : LoopState} (h : Released s) : Tracked s where
  pressed item hItem := by
    rw [h.released item] at hItem
    cases hItem
  clock := h.clock

/-- A program that keeps track of what it presses. -/
def KeepsTrack {α : Type} (m : LoopM α) : Prop :=
  ∀ s, Tracked s → Meets m (fun _ => Tracked) (fun _ => Left) s

section Programs

variable {w : World} {s : LoopState} {received : ReceivedInputFrame} {event : InputEvent F32}

theorem KeepsTrack.bind {α β : Type} {m : LoopM α} {f : α → LoopM β} (h : KeepsTrack m)
    (hf : ∀ a, KeepsTrack (f a)) : KeepsTrack (m >>= f) := Keeps.bind h hf

theorem keepsTrack_pure {α : Type} (a : α) : KeepsTrack (pure a : LoopM α) := keeps_pure a

/-- A change of the other variables. -/
theorem keepsTrack_modify {g : LoopState → LoopState}
    (hPressed : ∀ s, (g s).remoteInput = s.remoteInput) (hTrace : ∀ s, (g s).trace = s.trace) :
    KeepsTrack (modify g : LoopM PUnit) := by
  intro s hs
  refine ⟨fun item => ?_, ?_⟩
  · rw [hTrace, hPressed]
    exact hs.pressed item
  · rw [hTrace]
    exact hs.clock

/-- An action that injects nothing. -/
theorem Tracked.record {action : Action} (h : Tracked s) (hClock : action ≠ .clock false)
    (hAction : ∀ item, unreleased item (action :: s.trace) = unreleased item s.trace) :
    Tracked (s.record action) where
  pressed item hItem := h.pressed item (hAction item ▸ hItem)
  clock hMem := (List.mem_cons.mp hMem).elim (fun hEq => hClock hEq.symm) h.clock

theorem keepsTrack_instantNow : KeepsTrack (instantNow w) :=
  fun _ hs => hs.record (fun h => by cases h) fun _ => rfl

theorem keepsTrack_nowMicros : KeepsTrack (nowMicros w) := by
  intro s hs
  rw [meets_nowMicros]
  cases w.nowMicros s.trace with
  | ok _ => exact hs.record (fun h => by cases h) fun _ => rfl
  | error _ => exact Or.inr ⟨s.trace, rfl, hs.clock⟩

theorem adapterInject_meets (cause : Option ReceivedInputFrame) :
    Meets (adapterInject w cause event)
      (fun _ s' => s' = s.record (.inject cause event true))
      (fun _ s' => s' = s.record (.inject cause event false)) s := by
  rw [meets_adapterInject]
  cases w.inject s.trace event <;> rfl

theorem not_clock_of_inject {cause : Option ReceivedInputFrame} {ok : Bool}
    (h : .clock false ∉ s.trace) : .clock false ∉ (s.record (.inject cause event ok)).trace :=
  fun hMem => (List.mem_cons.mp hMem).elim (fun hEq => by cases hEq) h

/-- A list of releases is injected to its end, whether they succeed or not. -/
theorem injectReleases_meets {events : List (InputEvent F32)}
    (hEvents : ∀ event ∈ events, ∃ item, event.change = some (item, .released))
    (firstError : Option String) (hClock : .clock false ∉ s.trace) :
    Ends (injectReleases w events firstError)
      (fun _ s' => .clock false ∉ s'.trace ∧ ∀ item, unreleased item s'.trace = true →
        unreleased item s.trace = true ∧
          ∀ event ∈ events, event.change ≠ some (item, .released)) s := by
  induction events generalizing s firstError with
  | nil => exact ⟨hClock, fun item hItem => ⟨hItem, fun event hMem => absurd hMem List.not_mem_nil⟩⟩
  | cons event events ih =>
    obtain ⟨changed, hChange⟩ := hEvents event List.mem_cons_self
    -- Behind the first release the rest goes the same way, whatever that release has answered.
    have hRest : ∀ ok firstError, Ends (injectReleases w events firstError)
        (fun _ s' => .clock false ∉ s'.trace ∧ ∀ item, unreleased item s'.trace = true →
          unreleased item s.trace = true ∧
            ∀ event' ∈ event :: events, event'.change ≠ some (item, .released))
        (s.record (.inject none event ok)) := by
      intro ok firstError
      have hTail := fun event' hMem => hEvents event' (List.mem_cons_of_mem event hMem)
      refine (ih hTail firstError (not_clock_of_inject hClock)).mono fun _ s' h => ?_
      refine ⟨h.1, fun item hItem => ?_⟩
      obtain ⟨hUnreleased, hOthers⟩ := h.2 item hItem
      obtain ⟨hNe, hBefore⟩ := unreleased_release hChange hUnreleased
      refine ⟨hBefore, fun event' hMem => ?_⟩
      rcases List.mem_cons.mp hMem with rfl | hMem
      · intro hEq
        rw [hChange] at hEq
        cases hEq
        exact hNe rfl
      · exact hOthers event' hMem
    rw [Ends, meets_injectReleases_cons]
    refine (adapterInject_meets none).mono ?_ ?_
    · rintro _ _ rfl
      exact hRest true firstError
    · rintro error _ rfl
      exact hRest false (firstError <|> some error)

/-- After a release of all that is tracked nothing is unreleased, also when it reports an error. -/
theorem releaseTrackedInput_meets (h : Tracked s) :
    Meets (releaseTrackedInput w) (fun _ => Released) (fun _ => Released) s := by
  simp only [releaseTrackedInput, meets_bind, meets_get, meets_set]
  have hEvents : ∀ event ∈ s.remoteInput.releaseAll.1,
      ∃ item, event.change = some (item, .released) :=
    fun _ => RemoteInputState.change_of_mem_releaseAll
  refine Meets.mono (injectReleases_meets hEvents none ?_) (fun error s' hs' => ?_)
    fun _ _ => False.elim
  · exact h.clock
  have hReleased : Released s' := by
    refine ⟨fun item => Bool.eq_false_iff.mpr fun hItem => ?_, hs'.1⟩
    obtain ⟨hBefore, hOthers⟩ := hs'.2 item hItem
    obtain ⟨event, hMem, hChange⟩ :=
      RemoteInputState.exists_mem_releaseAll (h.pressed item hBefore)
    exact hOthers event hMem hChange
  cases error with
  | none => exact hReleased
  | some error => exact hReleased

theorem keepsTrack_releaseTrackedInput : KeepsTrack (releaseTrackedInput w) := fun _ hs =>
  (releaseTrackedInput_meets hs).mono (fun _ _ h => h.tracked) fun _ _ => Or.inl

theorem keepsTrack_injectOrReleaseOnError :
    KeepsTrack (injectOrReleaseOnError w received event) := by
  intro s hs
  rw [meets_injectOrReleaseOnError]
  refine (adapterInject_meets (some received)).mono ?_ ?_
  · rintro _ _ rfl
    refine ⟨fun item hItem => ?_, not_clock_of_inject hs.clock⟩
    rw [RemoteInputState.isPressed_apply]
    cases hChange : event.change with
    | none =>
      rcases unreleased_of_inject hItem with hBefore | ⟨-, hPress⟩
      · exact hs.pressed item hBefore
      · rw [hChange] at hPress
        cases hPress
    | some change =>
      obtain ⟨changed, keyState⟩ := change
      rcases unreleased_of_inject hItem with hBefore | ⟨-, hPress⟩
      · cases keyState with
        | pressed =>
          dsimp only
          split
          · rfl
          · exact hs.pressed item hBefore
        | released =>
          have hNe := (unreleased_release hChange hItem).1
          exact (if_neg hNe.symm).trans (hs.pressed item hBefore)
      · rw [hChange] at hPress
        cases hPress
        exact if_pos rfl
  · rintro error _ rfl
    rw [meets_releaseErrorOr]
    -- The event that failed may have been a release, which is not tracked as one.
    have hTracked : Tracked (s.record (.inject (some received) event false)) := by
      refine ⟨fun item hItem => ?_, not_clock_of_inject hs.clock⟩
      rcases unreleased_of_inject hItem with hBefore | ⟨hOk, -⟩
      · exact hs.pressed item hBefore
      · cases hOk
    exact (releaseTrackedInput_meets hTracked).mono (fun _ _ => Or.inl) fun _ _ => Or.inl

theorem keepsTrack_releaseOnTargetChange (nextTargetDeviceId : DeviceId) :
    KeepsTrack (releaseOnTargetChange w nextTargetDeviceId) := by
  have hModify : KeepsTrack (modify fun s : LoopState =>
      { s with currentTargetDeviceId := some nextTargetDeviceId }) :=
    keepsTrack_modify (fun _ => rfl) fun _ => rfl
  intro s hs
  simp only [releaseOnTargetChange, meets_bind, meets_get]
  split
  · exact (keepsTrack_releaseTrackedInput.bind fun _ => hModify) s hs
  · exact hModify s hs

theorem keepsTrack_injectReceivedInputFrame : KeepsTrack (injectReceivedInputFrame w received) := by
  intro s hs
  simp only [injectReceivedInputFrame, meets_bind, meets_modify]
  have hPass : Tracked (s.record (.pass received)) :=
    hs.record (fun h => by cases h) fun _ => rfl
  cases received.frame.payload with
  | input input =>
    exact (keepsTrack_nowMicros.bind fun _ =>
      (keepsTrack_releaseOnTargetChange input.targetDeviceId).bind fun _ =>
        keepsTrack_injectOrReleaseOnError) _ hPass
  | clipboardText _ | clipboardFiles _ | fileChunk _ | control _ => exact hPass

theorem keepsTrack_injectReceivedInputFrameAndRecord :
    KeepsTrack (injectReceivedInputFrameAndRecord w received) := by
  refine keepsTrack_instantNow.bind fun now => ?_
  split
  · exact keepsTrack_pure ()
  · exact keepsTrack_injectReceivedInputFrame

theorem keepsTrack_injectUnreliableInputFrameAndRecord :
    KeepsTrack (injectUnreliableInputFrameAndRecord w received) :=
  keepsTrack_injectReceivedInputFrameAndRecord.bind fun _ =>
    keepsTrack_modify (fun _ => rfl) fun _ => rfl

theorem keepsTrack_injectReadyRounds (fuel : ℕ) : KeepsTrack (injectReadyRounds w fuel) := by
  induction fuel with
  | zero => exact keepsTrack_pure ()
  | succ fuel ih =>
    intro s hs
    simp only [injectReadyRounds, meets_bind, meets_get]
    split
    · rw [meets_bind, meets_set]
      exact (keepsTrack_injectUnreliableInputFrameAndRecord.bind fun _ => ih) _ ⟨hs.pressed, hs.clock⟩
    · split
      · rw [meets_bind, meets_set]
        exact (keepsTrack_injectReceivedInputFrameAndRecord.bind fun _ => ih) _ ⟨hs.pressed, hs.clock⟩
      · exact hs

theorem keepsTrack_injectReadyPendingInputFrames :
    KeepsTrack (injectReadyPendingInputFrames w) :=
  fun s hs => keepsTrack_injectReadyRounds _ s hs

theorem keepsTrack_recoverPendingInputGap : KeepsTrack (recoverPendingInputGap w) := by
  intro s hs
  simp only [recoverPendingInputGap, meets_bind, meets_get]
  split
  · exact hs
  · rw [meets_bind, meets_set]
    exact (keepsTrack_injectReadyPendingInputFrames.bind fun _ => keepsTrack_pure true) _
      ⟨hs.pressed, hs.clock⟩

/-- A frame that passes, and then those that waited for it. -/
theorem keepsTrack_pass : KeepsTrack (injectReceivedInputFrameAndRecord w received >>= fun _ =>
    injectReadyPendingInputFrames w) :=
  keepsTrack_injectReceivedInputFrameAndRecord.bind fun _ => keepsTrack_injectReadyPendingInputFrames

theorem keepsTrack_handleReceived : KeepsTrack (handleReceived w received) := by
  intro s hs
  simp only [handleReceived, meets_bind, meets_get]
  split
  · rw [meets_bind, meets_set]
    have hSet : ∀ reliableInput, Tracked { s with reliableInput := reliableInput } :=
      fun _ => ⟨hs.pressed, hs.clock⟩
    split
    · exact keepsTrack_pass _ (hSet _)
    · exact (keepsTrack_releaseTrackedInput.bind fun _ => keepsTrack_pass) _ (hSet _)
    · exact hSet _
    · exact hSet _
  · split
    · exact hs
    · split
      · exact ⟨hs.pressed, hs.clock⟩
      · exact (keepsTrack_injectUnreliableInputFrameAndRecord.bind fun _ =>
          keepsTrack_injectReadyPendingInputFrames) s hs

theorem keepsTrack_body (t : Turn) : KeepsTrack (t.body w) := by
  intro s hs
  cases t with
  | receive now received => exact keepsTrack_handleReceived s hs
  | timeout now => exact meets_discard.mpr (keepsTrack_recoverPendingInputGap s hs)
  | recover now => exact meets_discard.mpr (keepsTrack_recoverPendingInputGap s hs)

end Programs

/-- The trace of a run that has returned. -/
def finalTrace : EStateM.Result String LoopState Unit → Trace
  | .ok () s | .error _ s => s.trace

section Runs

variable {w : World} {s s' : LoopState} {t : Turn} {turns : List Turn}
  {result : EStateM.Result String LoopState Unit}

/-- A turn keeps track, however it ends. -/
theorem turn_meets (h : turn w s t = some result) (hs : Tracked s) :
    Meets (fun _ => result) (fun _ => Tracked) (fun _ => Left) s := by
  obtain ⟨gapRecovery, rfl⟩ := turn_eq_some h
  exact keepsTrack_body t _ ⟨hs.pressed, hs.clock⟩

theorem tracked_of_turnOk (hs : Tracked s) (h : turnOk w s t = some s') : Tracked s' :=
  turn_meets (turnOk_eq_some h) hs

theorem tracked_start : Tracked .start :=
  ⟨fun _ hItem => absurd hItem Bool.false_ne_true, List.not_mem_nil⟩

theorem tracked_of_reaches (h : Reaches w turns s) : Tracked s :=
  run_induction (fun _ _ _ => tracked_of_turnOk) tracked_start h

/-- What is left when the receiver returns. -/
theorem left_of_returns (h : Returns w turns result) :
    Meets (fun _ => result) (fun _ => Left) (fun _ => Left) .start := by
  cases h with
  | failed hReaches hTurn => exact turn_meets hTurn (tracked_of_reaches hReaches)
  | @closed _ s fuel _ hReaches hFinish =>
    have hLoop : ∀ {result}, closingLoop w fuel s = some result →
        Meets (fun _ => result) (fun _ => Tracked) (fun _ => Left) s :=
      fun hLoop => whileTrue_keeps keepsTrack_recoverPendingInputGap (tracked_of_reaches hReaches) hLoop
    unfold finish at hFinish
    split at hFinish
    next s₁ hEq =>
      obtain rfl := Option.some.inj hFinish
      exact (releaseTrackedInput_meets (hLoop hEq)).mono (fun _ _ => Or.inl) fun _ _ => Or.inl
    next error s₁ hEq =>
      obtain rfl := Option.some.inj hFinish
      exact hLoop hEq
    next => cases hFinish

/-- Whenever the clock has failed, nothing was unreleased. -/
def ClockFailsReleased (trace : Trace) : Prop :=
  ∀ before, .clock false :: before <:+ trace → ∀ item, unreleased item before = false

theorem Left.unreleased_iff (h : Left s) :
    (∀ item, unreleased item s.trace = false) ↔ ClockFailsReleased s.trace := by
  rcases h with h | ⟨before, hTrace, hClock⟩
  · refine ⟨fun _ before hSuffix => ?_, fun _ => h.released⟩
    exact absurd (hSuffix.mem List.mem_cons_self) h.clock
  · rw [hTrace]
    constructor
    · intro hReleased before' hSuffix
      rcases List.suffix_cons_iff.mp hSuffix with hEq | hSuffix
      · obtain rfl := (List.cons.inj hEq).2
        exact hReleased
      · exact absurd (hSuffix.mem List.mem_cons_self) hClock
    · intro hFails
      exact hFails before List.suffix_rfl

/-- When the receiver returns everything has been released, exactly if the clock never failed with
something pressed; and then nothing is held, if no release has failed. -/
theorem released_iff (h : Returns w turns result) :
    ((∀ item, unreleased item (finalTrace result) = false) ↔
      ClockFailsReleased (finalTrace result)) ∧
    (ClockFailsReleased (finalTrace result) →
      (∀ cause event, .inject cause event false ∈ finalTrace result →
        ∀ item, event.change ≠ some (item, .released)) →
      ∀ item, held item (finalTrace result) = false) := by
  have hIff : (∀ item, unreleased item (finalTrace result) = false) ↔
      ClockFailsReleased (finalTrace result) := by
    have hLeft := left_of_returns h
    cases result with
    | ok _ s => exact Left.unreleased_iff hLeft
    | error _ s => exact Left.unreleased_iff hLeft
  refine ⟨hIff, fun hClock hReleases item => Bool.eq_false_iff.mpr fun hHeld => ?_⟩
  have hUnreleased := unreleased_of_held hReleases hHeld
  rw [hIff.mpr hClock item] at hUnreleased
  cases hUnreleased

end Runs

/-- A machine on which the pointer cannot be moved. -/
def World.keysOnly : World where
  instantNow _ := 0
  nowMicros _ := .ok ()
  inject _ event :=
    match event with
    | .key _ => .ok ()
    | .mouse _ | .scroll _ => .error "no pointer"

/-- A machine whose clock can be read once. -/
def World.clockStops : World where
  instantNow _ := 0
  nowMicros trace := if .clock true ∈ trace then .error "no clock" else .ok ()
  inject _ _ := .ok ()

/-- A turn that ends in an error, with something to check about what it leaves. -/
theorem exists_returns {w : World} (turns : List Turn) (t : Turn) {p : Trace → Bool}
    (h : (run (turnOk w) .start turns).any (fun s =>
      match turn w s t with
      | some (.error _ s') => p s'.trace
      | _ => false) = true) :
    ∃ result, Returns w (turns ++ [t]) result ∧ p (finalTrace result) = true := by
  obtain ⟨s, hReaches, hEnd⟩ := exists_reaches turns h
  split at hEnd
  next error s' hTurn => exact ⟨.error error s', .failed hReaches hTurn, hEnd⟩
  next => cases hEnd

/-- The key is released when the move behind it fails. -/
theorem released_iff_keysOnly :
    ∃ result, Returns .keysOnly [.receive 0 (inputFrame 1 (keyC .pressed)),
        .receive 0 (inputFrame 2 mouseMove)] result ∧
      ∀ item, held item (finalTrace result) = false := by
  obtain ⟨result, hReturns, hTrace⟩ := exists_returns (w := .keysOnly)
    [.receive 0 (inputFrame 1 (keyC .pressed))] (.receive 0 (inputFrame 2 mouseMove))
    (p := fun trace => .clock false ∉ trace && trace.all fun
      | .inject _ event false => event = mouseMove
      | _ => true) (by decide)
  obtain ⟨hClock, hFailed⟩ := Bool.and_eq_true_iff.mp hTrace
  refine ⟨result, hReturns, (released_iff hReturns).2 ?_ ?_⟩
  · exact fun before hSuffix => absurd (hSuffix.mem List.mem_cons_self) (of_decide_eq_true hClock)
  · intro cause event hMem item
    have hMove : event = mouseMove := of_decide_eq_true (List.all_eq_true.mp hFailed _ hMem)
    rw [hMove]
    exact fun h => by cases h

/-- The clock cannot be read for the second frame, and the key of the first one stays pressed. -/
theorem key_left_pressed :
    ∃ turns result, Returns .clockStops turns result ∧
      unreleased (.key .c) (finalTrace result) = true ∧
      held (.key .c) (finalTrace result) = true := by
  obtain ⟨result, hReturns, hTrace⟩ := exists_returns (w := .clockStops)
    [.receive 0 (inputFrame 1 (keyC .pressed))] (.receive 0 (inputFrame 2 mouseMove))
    (p := fun trace => unreleased (.key .c) trace && held (.key .c) trace) (by decide)
  exact ⟨_, result, hReturns, Bool.and_eq_true_iff.mp hTrace⟩

end Kmsync
