import Kmsync.Receive.Buffers
import Kmsync.Receive.Loop

/-! The loop moves its frames as `Buffers` says, as long as neither the injector nor the clock
fails, and what leaves the buffers by the reliable lane is injected. -/

namespace Kmsync

open ProofKit

/-- Every injection and every reading of the clock succeeds. -/
structure World.Succeeds (w : World) : Prop where
  nowMicros : ∀ trace, w.nowMicros trace = .ok ()
  inject : ∀ trace event, w.inject trace event = .ok ()

/-- A machine on which nothing fails and the clock stands still. -/
def World.calm : World := ⟨fun _ => 0, fun _ => .ok (), fun _ _ => .ok ()⟩

theorem World.calm_succeeds : World.calm.Succeeds := ⟨fun _ => rfl, fun _ _ => rfl⟩

def LoopState.buffers (s : LoopState) : Buffers :=
  ⟨s.reliableInput.nextSequence, s.reliableInput.pending, s.pendingUnreliableInput⟩

/-- The injector took the event of a frame. -/
def Injected (trace : Trace) (received : ReceivedInputFrame) : Prop :=
  ∃ input, received.frame.payload = .input input ∧
    .inject (some received) input.event true ∈ trace

theorem Injected.mono {trace trace' : Trace} {received : ReceivedInputFrame}
    (h : Injected trace received) (hSuffix : trace <:+ trace') : Injected trace' received := by
  obtain ⟨input, hPayload, hMem⟩ := h
  exact ⟨input, hPayload, hSuffix.mem hMem⟩

/-- A part of the loop that passes some frames on: those of the reliable lane are injected. -/
structure Passes (frames : List ReceivedInputFrame) (s s' : LoopState) : Prop where
  trace : s.trace <:+ s'.trace
  injected : ∀ received ∈ frames, received.isReliable = true → Injected s'.trace received

/-- The frame was passed to `inject_received_input_frame`, and its event was injected. -/
def PassedOn (trace : Trace) (received : ReceivedInputFrame) : Prop :=
  .pass received ∈ trace ∧ ∀ input, received.frame.payload = .input input →
    .inject (some received) input.event true ∈ trace

/-- The frame was found to be a mouse move that has waited too long. -/
def FoundStale (trace : Trace) (received : ReceivedInputFrame) : Prop :=
  ∃ now, .instant now ∈ trace ∧ staleReceivedUnreliableMouseMove received now = true

/-- What becomes of a frame that is handed on. -/
def Handled (trace : Trace) (received : ReceivedInputFrame) : Prop :=
  PassedOn trace received ∨ FoundStale trace received

theorem Handled.mono {trace trace' : Trace} {received : ReceivedInputFrame}
    (h : Handled trace received) (hSubset : trace ⊆ trace') : Handled trace' received := by
  rcases h with ⟨hPass, hInjected⟩ | ⟨now, hNow, hStale⟩
  · exact Or.inl ⟨hSubset hPass, fun input hInput => hSubset (hInjected input hInput)⟩
  · exact Or.inr ⟨now, hSubset hNow, hStale⟩

/-- Only mouse moves of the unreliable lane grow stale. -/
theorem Handled.injected {trace : Trace} {received : ReceivedInputFrame}
    (h : Handled trace received) (hReliable : received.isReliable = true) :
    Injected trace received := by
  obtain ⟨input, hInput, hChannel⟩ := ReceivedInputFrame.payload_of_isReliable hReliable
  rcases h with ⟨-, hInjected⟩ | ⟨now, -, hStale⟩
  · exact ⟨input, hInput, hInjected input hInput⟩
  · simp [staleReceivedUnreliableMouseMove, hInput, hChannel] at hStale

/-- The frame was handled on the way from one state to another. -/
def HandledBetween (s s' : LoopState) (received : ReceivedInputFrame) : Prop :=
  ∃ added, s'.trace = added ++ s.trace ∧ Handled added received

namespace HandledBetween

variable {s s' s'' : LoopState} {received : ReceivedInputFrame}

theorem handled (h : HandledBetween s s' received) : Handled s'.trace received := by
  obtain ⟨added, hTrace, hHandled⟩ := h
  rw [hTrace]
  exact hHandled.mono (List.subset_append_left _ _)

theorem before (h : HandledBetween s s' received) (hTrace : s'.trace <:+ s''.trace) :
    HandledBetween s s'' received := by
  obtain ⟨added, hAdded, hHandled⟩ := h
  obtain ⟨later, hLater⟩ := hTrace
  refine ⟨later ++ added, ?_, hHandled.mono (List.subset_append_right _ _)⟩
  rw [← hLater, hAdded, List.append_assoc]

theorem behind (h : HandledBetween s' s'' received) (hTrace : s.trace <:+ s'.trace) :
    HandledBetween s s'' received := by
  obtain ⟨added, hAdded, hHandled⟩ := h
  obtain ⟨earlier, hEarlier⟩ := hTrace
  refine ⟨added ++ earlier, ?_, hHandled.mono (List.subset_append_left _ _)⟩
  rw [hAdded, ← hEarlier, List.append_assoc]

end HandledBetween

/-- A part of the loop that hands some frames on, of either lane. -/
structure HandsOn (frames : List ReceivedInputFrame) (s s' : LoopState) : Prop
    extends Passes frames s s' where
  handled : ∀ received ∈ frames, HandledBetween s s' received

namespace HandsOn

variable {frames frames' : List ReceivedInputFrame} {received : ReceivedInputFrame}
  {s s' s'' : LoopState}

theorem of_suffix (h : s.trace <:+ s'.trace) : HandsOn [] s s' :=
  ⟨⟨h, fun _ hMem => absurd hMem List.not_mem_nil⟩, fun _ hMem => absurd hMem List.not_mem_nil⟩

theorem of_handled (h : HandledBetween s s' received) : HandsOn [received] s s' := by
  have hTrace : s.trace <:+ s'.trace := by
    obtain ⟨added, hAdded, -⟩ := h
    exact ⟨added, hAdded.symm⟩
  refine ⟨⟨hTrace, fun passed hMem hReliable => ?_⟩, fun passed hMem => ?_⟩
  · obtain rfl := List.mem_singleton.mp hMem
    exact h.handled.injected hReliable
  · obtain rfl := List.mem_singleton.mp hMem
    exact h

theorem append (h : HandsOn frames s s') (h' : HandsOn frames' s' s'') :
    HandsOn (frames ++ frames') s s'' where
  trace := h.trace.trans h'.trace
  injected received hMem hReliable := by
    rcases List.mem_append.mp hMem with hMem | hMem
    · exact (h.injected received hMem hReliable).mono h'.trace
    · exact h'.injected received hMem hReliable
  handled received hMem := by
    rcases List.mem_append.mp hMem with hMem | hMem
    · exact (h.handled received hMem).before h'.trace
    · exact (h'.handled received hMem).behind h.trace

/-- Only the trace of the state that a part starts from matters. -/
theorem of_trace_eq (h : HandsOn frames s s') (hTrace : s.trace = s''.trace) :
    HandsOn frames s'' s' := by
  refine ⟨⟨hTrace ▸ h.trace, h.injected⟩, fun received hMem => ?_⟩
  exact (h.handled received hMem).behind (hTrace ▸ List.suffix_rfl)

end HandsOn

/-- A part of the loop that moves nothing in the buffers and only adds to the trace. -/
structure Quiet (s s' : LoopState) : Prop where
  buffers : s'.buffers = s.buffers
  trace : s.trace <:+ s'.trace

namespace Quiet

variable {s s' s'' : LoopState}

theorem rfl : Quiet s s := ⟨Eq.refl _, List.suffix_rfl⟩

theorem record (action : Action) : Quiet s (s.record action) :=
  ⟨Eq.refl _, List.suffix_cons action s.trace⟩

theorem trans (h : Quiet s s') (h' : Quiet s' s'') : Quiet s s'' :=
  ⟨h'.buffers.trans h.buffers, h.trace.trans h'.trace⟩

end Quiet

section Injection

variable {w : World} (hw : w.Succeeds) {received : ReceivedInputFrame} {s : LoopState}

include hw

theorem nowMicros_ends : Ends (nowMicros w) (fun _ => Quiet s) s := by
  rw [Ends, meets_nowMicros, hw.nowMicros]
  exact .record _

theorem adapterInject_ends (cause : Option ReceivedInputFrame) (event : InputEvent F32) :
    Ends (adapterInject w cause event)
      (fun _ s' => Quiet s s' ∧ s'.trace = .inject cause event true :: s.trace) s := by
  rw [Ends, meets_adapterInject, hw.inject]
  exact ⟨.record _, rfl⟩

theorem injectReleases_ends (events : List (InputEvent F32)) (firstError : Option String) :
    Ends (injectReleases w events firstError)
      (fun error s' => error = firstError ∧ Quiet s s') s := by
  induction events generalizing s with
  | nil => exact ⟨rfl, .rfl⟩
  | cons event events ih =>
    rw [Ends, meets_injectReleases_cons]
    refine Meets.mono (adapterInject_ends hw none event) (fun _ s₁ h₁ => ?_) fun _ _ => False.elim
    exact ih.mono fun error s' h => ⟨h.1, h₁.1.trans h.2⟩

theorem releaseTrackedInput_ends : Ends (releaseTrackedInput w) (fun _ => Quiet s) s := by
  simp only [releaseTrackedInput, meets_bind, meets_get, meets_set]
  refine (injectReleases_ends hw _ none).mono fun error s' h => ?_
  obtain ⟨rfl, hQuiet⟩ := h
  exact ⟨hQuiet.buffers, hQuiet.trace⟩

theorem releaseOnTargetChange_ends (nextTargetDeviceId : DeviceId) :
    Ends (releaseOnTargetChange w nextTargetDeviceId) (fun _ => Quiet s) s := by
  simp only [releaseOnTargetChange, meets_bind, meets_get]
  split
  · refine (releaseTrackedInput_ends hw).andThen fun _ s' h => ?_
    exact ⟨h.buffers, h.trace⟩
  · exact ⟨rfl, List.suffix_rfl⟩

theorem injectOrReleaseOnError_ends (event : InputEvent F32) :
    Ends (injectOrReleaseOnError w received event)
      (fun _ s' => Quiet s s' ∧ s'.trace = .inject (some received) event true :: s.trace) s := by
  rw [Ends, meets_injectOrReleaseOnError]
  refine Meets.mono (adapterInject_ends hw (some received) event) (fun _ s₁ h₁ => ?_)
    fun _ _ => False.elim
  exact ⟨⟨h₁.1.buffers, h₁.1.trace⟩, h₁.2⟩

theorem injectReceivedInputFrame_ends :
    Ends (injectReceivedInputFrame w received)
      (fun _ s' => s'.buffers = s.buffers ∧ HandsOn [received] s s') s := by
  simp only [injectReceivedInputFrame, meets_bind, meets_modify]
  cases hPayload : received.frame.payload with
  | input input =>
    refine (nowMicros_ends hw).andThen fun _ s₁ h₁ => ?_
    refine (releaseOnTargetChange_ends hw input.targetDeviceId).andThen fun _ s₂ h₂ => ?_
    refine (injectOrReleaseOnError_ends hw input.event).mono fun _ s' h => ?_
    have hQuiet := h₁.trans h₂
    obtain ⟨between, hBetween⟩ := hQuiet.trace
    refine ⟨h.1.buffers.trans hQuiet.buffers, .of_handled
      ⟨.inject (some received) input.event true :: between ++ [.pass received], ?_, Or.inl ?_⟩⟩
    · rw [h.2, ← hBetween]
      simp [LoopState.record]
    · refine ⟨by simp, fun input' hInput' => ?_⟩
      obtain rfl := ProtocolPayload.input.inj (hPayload.symm.trans hInput')
      exact List.mem_cons_self
  | clipboardText _ | clipboardFiles _ | fileChunk _ | control _ =>
    refine ⟨rfl, .of_handled ⟨[.pass received], rfl, Or.inl ⟨List.mem_cons_self, ?_⟩⟩⟩
    intro input hInput
    rw [hPayload] at hInput
    cases hInput

theorem injectReceivedInputFrameAndRecord_ends :
    Ends (injectReceivedInputFrameAndRecord w received)
      (fun _ s' => s'.buffers = s.buffers ∧ HandsOn [received] s s') s := by
  rw [injectReceivedInputFrameAndRecord, Ends, meets_bind, meets_instantNow]
  split
  next hStale =>
    refine ⟨rfl, .of_handled ⟨[.instant (w.instantNow s.trace)], rfl, Or.inr ?_⟩⟩
    exact ⟨_, List.mem_cons_self, hStale⟩
  next =>
    refine (injectReceivedInputFrame_ends hw).mono fun _ s' h => ⟨h.1, ?_⟩
    exact (HandsOn.of_suffix (List.suffix_cons _ _)).append h.2

omit hw in
theorem buffers_observeUnreliableSequence (hNext : received.sequence = s.buffers.next) :
    LoopState.buffers
        { s with
          reliableInput := s.reliableInput.observeUnreliableSequence received.sequence } =
      { s.buffers with next := saturatingSucc s.buffers.next } := by
  have hNext' : received.sequence = s.reliableInput.nextSequence := hNext
  rw [LoopState.buffers, ReliableInputSequencer.observeUnreliableSequence, if_pos hNext', hNext]
  rfl

theorem injectUnreliableInputFrameAndRecord_ends (hNext : received.sequence = s.buffers.next) :
    Ends (injectUnreliableInputFrameAndRecord w received)
      (fun _ s' =>
        s'.buffers = { s.buffers with next := saturatingSucc s.buffers.next } ∧
        HandsOn [received] s s') s := by
  refine (injectReceivedInputFrameAndRecord_ends hw).andThen fun _ s' h => ?_
  rw [Ends, meets_modify]
  refine ⟨?_, ⟨⟨h.2.trace, h.2.injected⟩, h.2.handled⟩⟩
  rw [← h.1] at hNext ⊢
  exact buffers_observeUnreliableSequence hNext

end Injection

section Draining

variable {w : World} (hw : w.Succeeds) {received : ReceivedInputFrame} {s : LoopState}

include hw

theorem injectReadyRounds_ends {fuel : ℕ} (hFuel : s.buffers.size ≤ fuel) :
    Ends (injectReadyRounds w fuel)
      (fun _ s' => ∃ frames, s.buffers.Drains frames s'.buffers ∧ HandsOn frames s s') s := by
  induction fuel generalizing s with
  | zero =>
    refine ⟨[], .settled fun hHolds => ?_, .of_suffix List.suffix_rfl⟩
    exact absurd (Buffers.size_pos_of_holds hHolds) (by omega)
  | succ fuel ih =>
    -- The rest of the rounds, behind one that has taken `ready` out.
    have hRest : ∀ {ready b' s'}, s.buffers.Pops ready b' → s'.buffers = b' →
        HandsOn [ready] s s' →
        Ends (injectReadyRounds w fuel)
          (fun _ s'' => ∃ frames, s.buffers.Drains frames s''.buffers ∧ HandsOn frames s s'')
          s' := by
      intro ready b' s' hPop hBuffers hHands
      subst hBuffers
      have hSize := hPop.size_lt
      refine (ih (by omega)).mono fun _ s'' h => ?_
      obtain ⟨frames, hDrains, hHands'⟩ := h
      exact ⟨ready :: frames, .pop hPop hDrains, hHands.append hHands'⟩
    simp only [injectReadyRounds, meets_bind, meets_get]
    split
    next ready hReady =>
      have hPop : s.buffers.Pops ready _ := .unreliable hReady
      rw [meets_bind, meets_set, meets_bind]
      refine (injectUnreliableInputFrameAndRecord_ends hw ?_).mono fun _ s' h => ?_
      · exact hPop.sequence_eq
      · exact hRest hPop h.1 (h.2.of_trace_eq rfl)
    next hUnreliable =>
      have hFree : s.buffers.next ∉ s.buffers.unreliable := KeyedMap.get?_eq_none.mp hUnreliable
      split
      next ready reliableInput hReady =>
        obtain ⟨_, hGet, hEq⟩ := Option.map_eq_some_iff.mp hReady
        obtain ⟨rfl, rfl⟩ := Prod.mk.inj hEq
        rw [meets_bind, meets_set, meets_bind]
        refine (injectReceivedInputFrameAndRecord_ends hw).mono fun _ s' h => ?_
        exact hRest (.reliable hFree hGet) h.1 (h.2.of_trace_eq rfl)
      next hReliable =>
        refine ⟨[], .settled ?_, .of_suffix List.suffix_rfl⟩
        have hFree' := KeyedMap.get?_eq_none.mp (Option.map_eq_none_iff.mp hReliable)
        exact fun hHolds => hHolds.elim hFree hFree'

theorem injectReadyPendingInputFrames_ends :
    Ends (injectReadyPendingInputFrames w)
      (fun _ s' => ∃ frames, s.buffers.Drains frames s'.buffers ∧ HandsOn frames s s') s :=
  injectReadyRounds_ends hw le_rfl

omit hw in
theorem isLeast_nextPendingInputSequence {k : ℕ}
    (h : nextPendingInputSequence s.pendingUnreliableInput s.reliableInput = some k) :
    IsLeast {k | s.buffers.Holds k} k := by
  unfold nextPendingInputSequence ReliableInputSequencer.nextPendingSequence at h
  split at h
  next unreliable reliable hU hR =>
    cases h
    refine ⟨?_, fun j hj => ?_⟩
    · rcases min_choice unreliable reliable with hMin | hMin
      · exact Or.inl (hMin.symm ▸ KeyedMap.mem_of_firstKey? hU)
      · exact Or.inr (hMin.symm ▸ KeyedMap.mem_of_firstKey? hR)
    · rcases hj with hj | hj
      · exact (min_le_left _ _).trans (KeyedMap.le_of_firstKey? hU hj)
      · exact (min_le_right _ _).trans (KeyedMap.le_of_firstKey? hR hj)
  next hU hR =>
    cases h
    refine ⟨Or.inl (KeyedMap.mem_of_firstKey? hU), fun j hj => ?_⟩
    exact hj.elim (KeyedMap.le_of_firstKey? hU)
      fun hj => absurd hj (KeyedMap.firstKey?_eq_none.mp hR j)
  next hU hR =>
    cases h
    refine ⟨Or.inr (KeyedMap.mem_of_firstKey? hR), fun j hj => ?_⟩
    exact hj.elim (fun hj => absurd hj (KeyedMap.firstKey?_eq_none.mp hU j))
      (KeyedMap.le_of_firstKey? hR)
  next => cases h

omit hw in
theorem nextPendingInputSequence_eq_none
    (h : nextPendingInputSequence s.pendingUnreliableInput s.reliableInput = none) (k : ℕ) :
    ¬ s.buffers.Holds k := by
  unfold nextPendingInputSequence ReliableInputSequencer.nextPendingSequence at h
  split at h <;> try cases h
  next hU hR =>
    intro hk
    exact hk.elim (KeyedMap.firstKey?_eq_none.mp hU k) (KeyedMap.firstKey?_eq_none.mp hR k)

omit hw in
theorem nextPendingInputSequence_eq_some {k : ℕ} (h : IsLeast {k | s.buffers.Holds k} k) :
    nextPendingInputSequence s.pendingUnreliableInput s.reliableInput = some k := by
  cases hNext : nextPendingInputSequence s.pendingUnreliableInput s.reliableInput with
  | none => exact absurd h.1 (nextPendingInputSequence_eq_none hNext k)
  | some j => rw [(isLeast_nextPendingInputSequence hNext).unique h]

omit hw in
theorem nextSequence_skipToSequence (sequencer : ReliableInputSequencer) (k : ℕ) :
    sequencer.skipToSequence k = { sequencer with nextSequence := max sequencer.nextSequence k } := by
  unfold ReliableInputSequencer.skipToSequence
  split
  next h => rw [max_eq_right (Nat.le_of_lt h)]
  next h => rw [max_eq_left (Nat.le_of_not_lt h)]

/-- The recovery reports whether there was anything to recover. -/
theorem recoverPendingInputGap_ends :
    Ends (recoverPendingInputGap w)
      (fun more s' => (more = true ↔ ∃ k, s.buffers.Holds k) ∧
        ∃ frames, s.buffers.Recovers frames s'.buffers ∧ HandsOn frames s s') s := by
  simp only [recoverPendingInputGap, meets_bind, meets_get]
  split
  next hNone =>
    have hEmpty := nextPendingInputSequence_eq_none hNone
    refine ⟨⟨fun h => absurd h Bool.false_ne_true, fun h => ?_⟩, ?_⟩
    · obtain ⟨k, hk⟩ := h
      exact absurd hk (hEmpty k)
    exact ⟨[], .empty hEmpty, .of_suffix List.suffix_rfl⟩
  next k hSome =>
    have hLeast := isLeast_nextPendingInputSequence hSome
    rw [meets_bind, meets_set, meets_bind]
    refine (injectReadyPendingInputFrames_ends hw).mono fun _ s' hDrained => ?_
    obtain ⟨frames, hDrains, hHands⟩ := hDrained
    refine ⟨⟨fun _ => ⟨k, hLeast.1⟩, fun _ => rfl⟩, frames, .skip hLeast ?_, hHands.of_trace_eq rfl⟩
    rw [LoopState.buffers, nextSequence_skipToSequence] at hDrains
    exact hDrains

/-- A frame that passes, and then those that waited for it. -/
theorem pass_ends :
    Ends (injectReceivedInputFrameAndRecord w received >>= fun _ => injectReadyPendingInputFrames w)
      (fun _ s' => ∃ frames, s.buffers.Drains frames s'.buffers ∧
        HandsOn (received :: frames) s s') s := by
  refine (injectReceivedInputFrameAndRecord_ends hw).andThen fun _ s' h => ?_
  refine (injectReadyPendingInputFrames_ends hw).mono fun _ s'' ⟨frames, hDrains, hHands⟩ => ?_
  exact ⟨frames, h.1 ▸ hDrains, h.2.append hHands⟩

theorem handleReliable_ends (hReliable : received.isReliable = true) :
    Ends (handleReceived w received)
      (fun _ s' => ∃ frames, s.buffers.Receives received frames s'.buffers ∧ HandsOn frames s s')
      s := by
  simp only [handleReceived, meets_bind, meets_get, hReliable, if_true]
  rcases s.reliableInput.accept_cases received with
    ⟨hOld, hAccept⟩ | ⟨hNext, hAccept⟩ | ⟨hFar, hAccept⟩ | ⟨hAhead, hNear, hAccept⟩ <;>
    simp only [hAccept, meets_set]
  · exact ⟨[], .drop hOld, .of_suffix List.suffix_rfl⟩
  · refine (pass_ends hw).mono fun _ s' hPassed => ?_
    obtain ⟨frames, hDrains, hHands⟩ := hPassed
    exact ⟨received :: frames, .pass hNext hDrains, hHands.of_trace_eq rfl⟩
  · rw [meets_bind]
    refine (releaseTrackedInput_ends hw).mono fun _ s₁ h₁ => ?_
    refine (pass_ends hw).mono fun _ s' hPassed => ?_
    obtain ⟨frames, hDrains, hHands⟩ := hPassed
    rw [h₁.buffers] at hDrains
    refine ⟨received :: frames, .recover hReliable hFar hDrains, ?_⟩
    exact ((HandsOn.of_suffix h₁.trace).append hHands).of_trace_eq rfl
  · exact ⟨[], .bufferReliable hReliable hAhead hNear, .of_suffix List.suffix_rfl⟩

theorem handleReceived_ends :
    Ends (handleReceived w received)
      (fun _ s' => ∃ frames, s.buffers.Receives received frames s'.buffers ∧ HandsOn frames s s')
      s := by
  cases hReliable : received.isReliable with
  | true => exact handleReliable_ends hw hReliable
  | false =>
    simp only [handleReceived, meets_bind, meets_get, hReliable, Bool.false_eq_true, if_false]
    split
    next hOld => exact ⟨[], .drop hOld, .of_suffix List.suffix_rfl⟩
    next hOld =>
      split
      next hAhead =>
        exact ⟨[], .bufferUnreliable hReliable hAhead, .of_suffix List.suffix_rfl⟩
      next hAhead =>
        have hNext : received.sequence = s.buffers.next :=
          le_antisymm (Nat.le_of_not_lt hAhead) (Nat.le_of_not_lt hOld)
        refine (injectUnreliableInputFrameAndRecord_ends hw hNext).andThen fun _ s' h => ?_
        refine (injectReadyPendingInputFrames_ends hw).mono fun _ s'' hDrained => ?_
        obtain ⟨frames, hDrains, hHands⟩ := hDrained
        exact ⟨received :: frames, .pass hNext (h.1 ▸ hDrains), h.2.append hHands⟩

end Draining

/-- What a turn does to the buffers. -/
def Buffers.Moves (b : Buffers) (t : Turn) (frames : List ReceivedInputFrame) (b' : Buffers) : Prop :=
  match t with
  | .receive _ received => b.Receives received frames b'
  | .timeout _ | .recover _ => b.Recovers frames b'

section Turns

variable {w : World} (hw : w.Succeeds) {s s' : LoopState} {t : Turn}

include hw

theorem body_ends (t : Turn) : Ends (t.body w)
    (fun _ s' => ∃ frames, s.buffers.Moves t frames s'.buffers ∧ HandsOn frames s s') s := by
  have hRecovers : Ends (discard (recoverPendingInputGap w))
      (fun _ s' => ∃ frames, s.buffers.Recovers frames s'.buffers ∧ HandsOn frames s s') s :=
    meets_discard.mpr ((recoverPendingInputGap_ends hw).mono fun _ _ h => h.2)
  cases t with
  | receive now received => exact handleReceived_ends hw
  | timeout now => exact hRecovers
  | recover now => exact hRecovers

/-- No turn fails, and each moves the buffers as its frame asks. -/
theorem turn_ends {result : EStateM.Result String LoopState Unit} (h : turn w s t = some result) :
    ∃ s' frames, result = .ok () s' ∧ s.buffers.Moves t frames s'.buffers ∧
      HandsOn frames s s' := by
  obtain ⟨gapRecovery, rfl⟩ := turn_eq_some h
  obtain ⟨_, s', hEq, frames, hMoves, hHands⟩ :=
    (body_ends hw (s := { s with gapRecovery := gapRecovery }) t).exists_ok
  exact ⟨s', frames, hEq, hMoves, hHands.of_trace_eq rfl⟩

theorem moves_of_turnOk (h : turnOk w s t = some s') :
    ∃ frames, s.buffers.Moves t frames s'.buffers ∧ HandsOn frames s s' := by
  obtain ⟨_, frames, hEq, hMoves⟩ := turn_ends hw (turnOk_eq_some h)
  cases hEq
  exact ⟨frames, hMoves⟩

end Turns

end Kmsync
