import Kmsync.Receive.Delivery
import Kmsync.Receive.Release
import Mathlib.Data.List.Pairwise

/-! The order in which frames are passed to the injector.  Whatever the channel delivers and
whatever the machine answers, the number of each is higher than those before it: all that has been
passed is behind `nextSequence`. -/

namespace Kmsync

open ProofKit

/-- The numbers of the frames passed to `inject_received_input_frame`, the latest first. -/
def passedNumbers (trace : Trace) : List ℕ :=
  trace.filterMap fun
    | .pass received => some received.sequence
    | .instant _ | .clock _ | .inject _ _ _ => none

def Ascends (trace : Trace) : Prop := (passedNumbers trace).Pairwise (· > ·)

/-- They are all below `n`, too. -/
def AscendsBelow (n : ℕ) (trace : Trace) : Prop := (n :: passedNumbers trace).Pairwise (· > ·)

section Traces

variable {n m : ℕ} {trace trace' : Trace} {received : ReceivedInputFrame}

theorem AscendsBelow.ascends (h : AscendsBelow n trace) : Ascends trace := h.of_cons

theorem AscendsBelow.mono (h : AscendsBelow n trace) (hLe : n ≤ m) : AscendsBelow m trace :=
  List.pairwise_cons.mpr
    ⟨fun _ hk => (List.rel_of_pairwise_cons h hk).trans_le hLe, h.ascends⟩

theorem AscendsBelow.of_eq (h : AscendsBelow n trace)
    (hEq : passedNumbers trace' = passedNumbers trace) : AscendsBelow n trace' := by
  rw [AscendsBelow, hEq]
  exact h

/-- A frame with a higher number may follow. -/
theorem ascendsBelow_of_eq_cons (h : AscendsBelow received.sequence trace)
    (hEq : passedNumbers trace' = received.sequence :: passedNumbers trace)
    (hLt : received.sequence < n) : AscendsBelow n trace' := by
  rw [AscendsBelow, hEq]
  exact h.cons_cons_of_trans hLt

end Traces

/-- A part of the loop that passes nothing and moves nothing in the buffers. -/
structure Aside (s s' : LoopState) : Prop where
  buffers : s'.buffers = s.buffers
  passed : passedNumbers s'.trace = passedNumbers s.trace

theorem Aside.trans {s s' s'' : LoopState} (h : Aside s s') (h' : Aside s' s'') : Aside s s'' :=
  ⟨h'.buffers.trans h.buffers, h'.passed.trans h.passed⟩

/-- A program is such a part, however it ends. -/
def StaysAside {α : Type} (m : LoopM α) : Prop :=
  ∀ s, Meets m (fun _ => Aside s) (fun _ => Aside s) s

section Asides

variable {w : World} {received : ReceivedInputFrame} {event : InputEvent F32}

/-- Behind another such part. -/
theorem StaysAside.behind {α : Type} {m : LoopM α} {s s₁ : LoopState} (h : StaysAside m)
    (h₁ : Aside s s₁) : Meets m (fun _ => Aside s) (fun _ => Aside s) s₁ :=
  (h s₁).mono (fun _ _ => h₁.trans) fun _ _ => h₁.trans

theorem StaysAside.bind {α β : Type} {m : LoopM α} {f : α → LoopM β} (h : StaysAside m)
    (hf : ∀ a, StaysAside (f a)) : StaysAside (m >>= f) := by
  intro s
  rw [meets_bind]
  exact (h s).mono (fun a _ h₁ => (hf a).behind h₁) fun _ _ h₁ => h₁

theorem staysAside_modify {g : LoopState → LoopState} (h : ∀ s, Aside s (g s)) :
    StaysAside (modify g : LoopM PUnit) := h

theorem staysAside_nowMicros : StaysAside (nowMicros w) := by
  intro s
  rw [meets_nowMicros]
  cases w.nowMicros s.trace <;> exact ⟨rfl, rfl⟩

theorem staysAside_adapterInject (cause : Option ReceivedInputFrame) :
    StaysAside (adapterInject w cause event) := by
  intro s
  rw [meets_adapterInject]
  cases w.inject s.trace event <;> exact ⟨rfl, rfl⟩

theorem staysAside_injectReleases (events : List (InputEvent F32)) (firstError : Option String) :
    StaysAside (injectReleases w events firstError) := by
  induction events generalizing firstError with
  | nil => exact fun s => ⟨rfl, rfl⟩
  | cons event events ih =>
    intro s
    rw [meets_injectReleases_cons]
    exact (staysAside_adapterInject none s).mono (fun _ _ => (ih _).behind)
      fun _ _ => (ih _).behind

theorem staysAside_releaseTrackedInput : StaysAside (releaseTrackedInput w) := by
  intro s
  simp only [releaseTrackedInput, meets_bind, meets_get, meets_set]
  refine (staysAside_injectReleases _ none _).mono (fun error s' h => ?_) fun _ _ h => ?_
  · have hAside : Aside s s' := ⟨h.buffers, h.passed⟩
    cases error with
    | none => exact hAside
    | some error => exact hAside
  · exact ⟨h.buffers, h.passed⟩

theorem staysAside_injectOrReleaseOnError :
    StaysAside (injectOrReleaseOnError w received event) := by
  intro s
  rw [meets_injectOrReleaseOnError]
  refine (staysAside_adapterInject (some received) s).mono (fun _ s₁ h₁ => ?_) fun _ s₁ h₁ => ?_
  · exact ⟨h₁.buffers, h₁.passed⟩
  · rw [meets_releaseErrorOr]
    exact staysAside_releaseTrackedInput.behind h₁

theorem staysAside_releaseOnTargetChange (nextTargetDeviceId : DeviceId) :
    StaysAside (releaseOnTargetChange w nextTargetDeviceId) := by
  have hModify : StaysAside (modify fun s : LoopState =>
      { s with currentTargetDeviceId := some nextTargetDeviceId }) :=
    staysAside_modify fun _ => ⟨rfl, rfl⟩
  intro s
  simp only [releaseOnTargetChange, meets_bind, meets_get]
  split
  · exact (staysAside_releaseTrackedInput.bind fun _ => hModify) s
  · exact hModify s

end Asides

/-- Between two frames: all that was passed is behind `nextSequence`, which still can go up. -/
structure Ordered (s : LoopState) : Prop where
  ascends : AscendsBelow s.buffers.next s.trace
  holds_lt : ∀ k, s.buffers.Holds k → k < u64Max

/-- The frame is next to be passed, with `nextSequence` behind it already. -/
structure ReadyFor (received : ReceivedInputFrame) (s : LoopState) : Prop where
  ascends : AscendsBelow received.sequence s.trace
  lt_next : received.sequence < s.buffers.next
  holds_lt : ∀ k, s.buffers.Holds k → k < u64Max

/-- A program that passes frames in order; an error may come before `nextSequence` has gone up. -/
def KeepsOrder {α : Type} (m : LoopM α) : Prop := Keeps Ordered (fun s => Ascends s.trace) m

section Programs

variable {w : World} {s s' : LoopState} {received : ReceivedInputFrame}

theorem injectReceivedInputFrame_meets :
    Meets (injectReceivedInputFrame w received)
      (fun _ s' => s'.buffers = s.buffers ∧
        passedNumbers s'.trace = received.sequence :: passedNumbers s.trace)
      (fun _ s' => s'.buffers = s.buffers ∧
        passedNumbers s'.trace = received.sequence :: passedNumbers s.trace) s := by
  simp only [injectReceivedInputFrame, meets_bind, meets_modify]
  cases received.frame.payload with
  | input input =>
    have hAside : StaysAside (nowMicros w >>= fun _ =>
        releaseOnTargetChange w input.targetDeviceId >>= fun _ =>
          injectOrReleaseOnError w received input.event) :=
      staysAside_nowMicros.bind fun _ =>
        (staysAside_releaseOnTargetChange input.targetDeviceId).bind fun _ =>
          staysAside_injectOrReleaseOnError
    refine (hAside (s.record (.pass received))).mono (fun _ s' h => ?_) fun _ s' h => ?_
    · exact ⟨h.buffers, h.passed⟩
    · exact ⟨h.buffers, h.passed⟩
  | clipboardText _ | clipboardFiles _ | fileChunk _ | control _ => exact ⟨rfl, rfl⟩

/-- A frame that may follow is passed, unless it is stale. -/
theorem injectReceivedInputFrameAndRecord_meets (h : AscendsBelow received.sequence s.trace) :
    Meets (injectReceivedInputFrameAndRecord w received)
      (fun _ s' => s'.buffers = s.buffers ∧
        ∀ n, received.sequence < n → AscendsBelow n s'.trace)
      (fun _ s' => Ascends s'.trace) s := by
  rw [injectReceivedInputFrameAndRecord, meets_bind, meets_instantNow]
  split
  · exact ⟨rfl, fun n hLt => h.mono hLt.le⟩
  · refine injectReceivedInputFrame_meets.mono (fun _ s' hs' => ?_) fun _ s' hs' => ?_
    · exact ⟨hs'.1, fun n hLt => ascendsBelow_of_eq_cons h hs'.2 hLt⟩
    · exact (ascendsBelow_of_eq_cons h hs'.2 (Nat.lt_succ_self _)).ascends

theorem ReadyFor.meets (h : ReadyFor received s) :
    Meets (injectReceivedInputFrameAndRecord w received) (fun _ => Ordered)
      (fun _ s' => Ascends s'.trace) s := by
  refine (injectReceivedInputFrameAndRecord_meets h.ascends).mono (fun _ s' hs' => ?_)
    fun _ _ hs' => hs'
  obtain ⟨hBuffers, hAscends⟩ := hs'
  exact ⟨hAscends _ (hBuffers ▸ h.lt_next), hBuffers ▸ h.holds_lt⟩

/-- What is taken out of the reliable lane is next to be passed. -/
theorem Ordered.readyFor (hs : Ordered s) (hPop : s.buffers.Pops received s'.buffers)
    (hTrace : s'.trace = s.trace) : ReadyFor received s' := by
  refine ⟨?_, ?_, fun k hk => hs.holds_lt k (hPop.holds_of_holds hk)⟩
  · rw [hTrace, hPop.sequence_eq]
    exact hs.ascends
  · rw [hPop.sequence_eq, hPop.next_eq]
    exact lt_saturatingSucc (hs.holds_lt _ hPop.holds)

/-- A frame of the unreliable lane is passed before `nextSequence` goes up. -/
theorem injectUnreliableInputFrameAndRecord_meets (hs : Ordered s)
    (hNext : received.sequence = s.buffers.next) (hLt : received.sequence < u64Max) :
    Meets (injectUnreliableInputFrameAndRecord w received) (fun _ => Ordered)
      (fun _ s' => Ascends s'.trace) s := by
  rw [injectUnreliableInputFrameAndRecord, meets_bind]
  refine (injectReceivedInputFrameAndRecord_meets (hNext ▸ hs.ascends)).mono (fun _ s' hs' => ?_)
    fun _ _ hs' => hs'
  obtain ⟨hBuffers, hAscends⟩ := hs'
  rw [← hBuffers] at hNext
  rw [meets_modify]
  constructor
  · rw [buffers_observeUnreliableSequence hNext, ← hNext]
    exact hAscends _ (lt_saturatingSucc hLt)
  · rw [buffers_observeUnreliableSequence hNext, hBuffers]
    exact hs.holds_lt

theorem keepsOrder_injectReadyRounds (fuel : ℕ) : KeepsOrder (injectReadyRounds w fuel) := by
  induction fuel with
  | zero => exact keeps_pure ()
  | succ fuel ih =>
    intro s hs
    simp only [injectReadyRounds, meets_bind, meets_get]
    split
    next ready hReady =>
      have hPop : s.buffers.Pops ready _ := .unreliable hReady
      have hErased : Ordered { s with
          pendingUnreliableInput := s.pendingUnreliableInput.erase
            s.reliableInput.nextSequence } :=
        ⟨hs.ascends, fun k hk => hs.holds_lt k (hk.imp_left hPop.unreliable_of_mem)⟩
      have hLt : ready.sequence < u64Max := by
        rw [hPop.sequence_eq]
        exact hs.holds_lt _ hPop.holds
      rw [meets_bind, meets_set]
      exact (injectUnreliableInputFrameAndRecord_meets hErased hPop.sequence_eq hLt).thenKeeps
        fun _ => ih
    next hUnreliable =>
      split
      next _ reliableInput hReady =>
        obtain ⟨ready, hGet, hEq⟩ := Option.map_eq_some_iff.mp hReady
        obtain ⟨rfl, rfl⟩ := Prod.mk.inj hEq
        have hPop : s.buffers.Pops ready _ :=
          .reliable (KeyedMap.get?_eq_none.mp hUnreliable) hGet
        have hReadyFor : ReadyFor ready { s with
            reliableInput := ⟨saturatingSucc s.reliableInput.nextSequence,
              s.reliableInput.pending.erase s.reliableInput.nextSequence⟩ } :=
          hs.readyFor hPop rfl
        rw [meets_bind, meets_set]
        exact hReadyFor.meets.thenKeeps fun _ => ih
      next => exact hs

theorem keepsOrder_injectReadyPendingInputFrames :
    KeepsOrder (injectReadyPendingInputFrames w) :=
  fun s hs => keepsOrder_injectReadyRounds _ s hs

theorem keepsOrder_recoverPendingInputGap : KeepsOrder (recoverPendingInputGap w) := by
  intro s hs
  simp only [recoverPendingInputGap, meets_bind, meets_get]
  split
  next => exact hs
  next k hk =>
    have hSkipped : Ordered { s with reliableInput := s.reliableInput.skipToSequence k } := by
      rw [nextSequence_skipToSequence]
      exact ⟨hs.ascends.mono (le_max_left _ _), hs.holds_lt⟩
    rw [meets_bind, meets_set]
    exact (keepsOrder_injectReadyPendingInputFrames.bind fun _ => keeps_pure true) _ hSkipped

/-- A frame that is next, and then those that waited for it. -/
theorem ReadyFor.pass_meets (h : ReadyFor received s) :
    Meets (injectReceivedInputFrameAndRecord w received >>= fun _ =>
      injectReadyPendingInputFrames w) (fun _ => Ordered) (fun _ s' => Ascends s'.trace) s :=
  h.meets.thenKeeps fun _ => keepsOrder_injectReadyPendingInputFrames

/-- A frame that waits changes nothing in the order. -/
theorem Ordered.insert (hs : Ordered s) (hReceived : received.sequence < u64Max)
    (hTrace : s'.trace = s.trace) (hNext : s'.buffers.next = s.buffers.next)
    (hHolds : ∀ k, s'.buffers.Holds k → k = received.sequence ∨ s.buffers.Holds k) :
    Ordered s' := by
  refine ⟨?_, fun k hk => ?_⟩
  · rw [hTrace, hNext]
    exact hs.ascends
  · rcases hHolds k hk with rfl | hk
    · exact hReceived
    · exact hs.holds_lt k hk

theorem handleReliable_meets (hs : Ordered s) (hReceived : received.sequence < u64Max)
    (hReliable : received.isReliable = true) :
    Meets (handleReceived w received) (fun _ => Ordered) (fun _ s' => Ascends s'.trace) s := by
  have hLt := lt_saturatingSucc hReceived
  simp only [handleReceived, meets_bind, meets_get, hReliable, if_true]
  rcases s.reliableInput.accept_cases received with
    ⟨-, hAccept⟩ | ⟨hNext, hAccept⟩ | ⟨hFar, hAccept⟩ | ⟨-, -, hAccept⟩ <;>
    simp only [hAccept, meets_set]
  · exact hs
  · have hReady : ReadyFor received { s with
        reliableInput := { s.reliableInput with
          nextSequence := saturatingSucc s.reliableInput.nextSequence } } := by
      refine ⟨hs.ascends.mono hNext.ge, ?_, hs.holds_lt⟩
      show received.sequence < saturatingSucc s.reliableInput.nextSequence
      rw [← hNext]
      exact hLt
    exact hReady.pass_meets
  · rw [meets_bind]
    have hAhead : s.buffers.next ≤ received.sequence := (Nat.le_add_right _ _).trans hFar.le
    refine (staysAside_releaseTrackedInput _).mono (fun _ s₁ h₁ => ?_) fun _ s₁ h₁ => ?_
    · refine ReadyFor.pass_meets ⟨(hs.ascends.mono hAhead).of_eq h₁.passed, ?_, fun k hk => ?_⟩
      · rw [h₁.buffers]
        exact hLt
      · rw [h₁.buffers] at hk
        exact hs.holds_lt k (hk.imp_right fun hEmpty => absurd hEmpty KeyedMap.not_mem_empty)
    · exact (hs.ascends.of_eq h₁.passed).ascends
  · exact hs.insert hReceived rfl rfl fun _ =>
      (Buffers.holds_insertReliable (b := s.buffers)).mp

theorem handleReceived_meets (hs : Ordered s) (hReceived : received.sequence < u64Max) :
    Meets (handleReceived w received) (fun _ => Ordered) (fun _ s' => Ascends s'.trace) s := by
  cases hReliable : received.isReliable with
  | true => exact handleReliable_meets hs hReceived hReliable
  | false =>
    simp only [handleReceived, meets_bind, meets_get, hReliable, Bool.false_eq_true, if_false]
    split
    next => exact hs
    next hOld =>
      split
      next =>
        exact hs.insert hReceived rfl rfl fun _ =>
          (Buffers.holds_insertUnreliable (b := s.buffers)).mp
      next hAhead =>
        have hNext : received.sequence = s.buffers.next :=
          le_antisymm (Nat.le_of_not_lt hAhead) (Nat.le_of_not_lt hOld)
        exact (injectUnreliableInputFrameAndRecord_meets hs hNext hReceived).thenKeeps
          fun _ => keepsOrder_injectReadyPendingInputFrames

end Programs

/-- No frame carries the last number, behind which `nextSequence` cannot go. -/
def BelowMax (turns : List Turn) : Prop :=
  ∀ received ∈ receivedFrames turns, received.sequence < u64Max

instance (turns : List Turn) : Decidable (BelowMax turns) :=
  inferInstanceAs (Decidable (∀ received ∈ receivedFrames turns, received.sequence < u64Max))

theorem belowMax_append {turns turns' : List Turn} :
    BelowMax (turns ++ turns') ↔ BelowMax turns ∧ BelowMax turns' := by
  rw [BelowMax, receivedFrames_append]
  exact List.forall_mem_append

section Runs

variable {w : World} {s s' : LoopState} {t : Turn} {turns : List Turn} {trace : Trace}
  {result : EStateM.Result String LoopState Unit}

/-- A turn keeps the order, however it ends. -/
theorem keepsOrder_turn (hBelow : BelowMax [t]) (hs : Ordered s) (h : turn w s t = some result) :
    Meets (fun _ => result) (fun _ => Ordered) (fun _ s' => Ascends s'.trace) s := by
  obtain ⟨gapRecovery, rfl⟩ := turn_eq_some h
  have hHead : Ordered { s with gapRecovery := gapRecovery } := ⟨hs.ascends, hs.holds_lt⟩
  cases t with
  | receive now received =>
    exact handleReceived_meets hHead (hBelow received List.mem_cons_self)
  | timeout now => exact meets_discard.mpr (keepsOrder_recoverPendingInputGap _ hHead)
  | recover now => exact meets_discard.mpr (keepsOrder_recoverPendingInputGap _ hHead)

theorem ordered_start : Ordered .start where
  ascends := List.pairwise_singleton _ _
  holds_lt k hk := absurd hk (not_holds_start k)

theorem ordered_of_reaches (hBelow : BelowMax turns) (h : Reaches w turns s) : Ordered s := by
  have hEach : ∀ t ∈ turns, BelowMax [t] := by
    intro t ht
    obtain ⟨before, after, rfl⟩ := List.append_of_mem ht
    exact (belowMax_append.mp (belowMax_append.mp hBelow).2 : BelowMax [t] ∧ BelowMax after).1
  exact run_induction_along (C := fun _ t _ => BelowMax [t]) (I := fun s _ => Ordered s)
    (fun _ _ _ _ hs hTurn h => keepsOrder_turn hTurn hs (turnOk_eq_some h)) ordered_start
    (along_of_forall hEach) h

/-- A trace that `inject_received_frames` has in a run of some turns: behind a turn or a call of the
closing loop, when it returns, or at a moment before. -/
inductive Occurs (w : World) : List Turn → Trace → Prop where
  | running {turns : List Turn} {s s' : LoopState} {rounds : ℕ} : Reaches w turns s →
      whileRounds (recoverPendingInputGap w) rounds s = some s' → Occurs w turns s'.trace
  | returned {turns : List Turn} {result : EStateM.Result String LoopState Unit} :
      Returns w turns result → Occurs w turns (finalTrace result)
  | earlier {turns : List Turn} {trace trace' : Trace} : Occurs w turns trace' →
      trace <:+ trace' → Occurs w turns trace

theorem ascends_of_finish {fuel : ℕ} (hs : Ordered s) (h : finish w fuel s = some result) :
    Ascends (finalTrace result) := by
  have hLoop : ∀ {result}, closingLoop w fuel s = some result →
      Meets (fun _ => result) (fun _ => Ordered) (fun _ s' => Ascends s'.trace) s :=
    fun hLoop => whileTrue_keeps keepsOrder_recoverPendingInputGap hs hLoop
  unfold finish at h
  split at h
  next s₁ hEq =>
    obtain rfl := Option.some.inj h
    have hs₁ : Ordered s₁ := hLoop hEq
    rcases (staysAside_releaseTrackedInput s₁).ok_or_error with
      ⟨_, s₂, hRelease, hAside⟩ | ⟨error, s₂, hRelease, hAside⟩
    · rw [hRelease]
      exact (hs₁.ascends.of_eq hAside.passed).ascends
    · rw [hRelease]
      exact (hs₁.ascends.of_eq hAside.passed).ascends
  next error s₁ hEq =>
    obtain rfl := Option.some.inj h
    exact hLoop hEq
  next => cases h

/-- The numbers of the frames passed to the injector go up over the whole run, whatever is received
and however the machine answers. -/
theorem passed_ascending (hBelow : BelowMax turns) (h : Occurs w turns trace) :
    (passedNumbers trace).Pairwise (· > ·) := by
  induction h with
  | running hReaches hRounds =>
    have hs := whileRounds_keeps keepsOrder_recoverPendingInputGap
      (ordered_of_reaches hBelow hReaches) hRounds
    exact hs.ascends.ascends
  | returned hReturns =>
    cases hReturns with
    | failed hReaches hTurn =>
      obtain ⟨hBefore, hLast⟩ := belowMax_append.mp hBelow
      exact keepsOrder_turn hLast (ordered_of_reaches hBefore hReaches) hTurn
    | closed hReaches hFinish =>
      exact ascends_of_finish (ordered_of_reaches hBelow hReaches) hFinish
  | earlier _ hSuffix ih => exact ih.sublist (hSuffix.sublist.filterMap _)

end Runs

/-- A key, which comes again, and a move that had come before it. -/
theorem passed_ascending_again : ∃ trace,
    Occurs .calm [.receive 0 (inputFrame 2 mouseMove), .receive 0 (inputFrame 1 (keyC .pressed)),
      .receive 0 (inputFrame 1 (keyC .pressed))] trace ∧
    passedNumbers trace = [2, 1] ∧ (passedNumbers trace).Pairwise (· > ·) := by
  obtain ⟨s, hReaches, hPassed⟩ := exists_reaches (w := .calm)
    (p := fun s => passedNumbers s.trace = [2, 1])
    [.receive 0 (inputFrame 2 mouseMove), .receive 0 (inputFrame 1 (keyC .pressed)),
      .receive 0 (inputFrame 1 (keyC .pressed))] (by decide)
  have hRounds : whileRounds (recoverPendingInputGap .calm) 0 s = some s := rfl
  have hOccurs : Occurs .calm _ s.trace := .running hReaches hRounds
  exact ⟨s.trace, hOccurs, of_decide_eq_true hPassed, passed_ascending (by decide) hOccurs⟩

end Kmsync
