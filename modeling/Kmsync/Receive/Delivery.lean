import Kmsync.Receive.Drain

/-! No frame of the reliable lane is lost, if the recovery of a gap never passes a frame that is
still to come and no frame overtakes one that waits by more than the window. -/

namespace Kmsync

open ProofKit

namespace Buffers

variable {b b' : Buffers} {received : ReceivedInputFrame} {frames : List ReceivedInputFrame}
  {coming coming' : Set ℕ} {k : ℕ}

/-- The numbers that are still to come are neither passed nor taken. -/
def Awaits (b : Buffers) (coming : Set ℕ) : Prop := ∀ n ∈ coming, b.next ≤ n ∧ ¬ b.Holds n

theorem Pops.awaits (h : Pops b received b') (hAwaits : b.Awaits coming) : b'.Awaits coming := by
  intro n hn
  obtain ⟨hLe, hFree⟩ := hAwaits n hn
  refine ⟨?_, fun hHolds => hFree (h.holds_of_holds hHolds)⟩
  rw [h.next_eq]
  refine saturatingSucc_le_of_lt (lt_of_le_of_ne hLe ?_)
  rintro rfl
  exact hFree h.holds

theorem Drains.awaits (h : Drains b frames b') (hAwaits : b.Awaits coming) : b'.Awaits coming :=
  h.induct (fun _ _ _ hPop => hPop.awaits) hAwaits

theorem Recovers.awaits (h : Recovers b frames b') (hAwaits : b.Awaits coming)
    (hLeast : ∀ k, IsLeast {k | b.Holds k} k → ∀ n ∈ coming, k ≤ n) : b'.Awaits coming := by
  cases h with
  | skip hSkip hDrains =>
    refine hDrains.awaits fun n hn => ⟨?_, (hAwaits n hn).2⟩
    exact max_le (hAwaits n hn).1 (hLeast _ hSkip n hn)
  | empty => exact hAwaits

/-- After an arrival its number is not awaited any more. -/
theorem Receives.awaits (h : Receives b received frames b') (hAwaits : b.Awaits coming)
    (hComing : ∀ n ∈ coming', n ∈ coming ∧ n ≠ received.sequence)
    (hFar : received.isReliable = true → b.next + reliableInputReorderWindow < received.sequence →
      ∀ n ∈ coming', received.sequence < n) :
    b'.Awaits coming' := by
  have hAwaits' : b.Awaits coming' := fun n hn => hAwaits n (hComing n hn).1
  cases h with
  | drop => exact hAwaits'
  | pass hNext hDrains =>
    refine hDrains.awaits fun n hn => ⟨?_, (hAwaits' n hn).2⟩
    refine saturatingSucc_le_of_lt (lt_of_le_of_ne (hAwaits' n hn).1 ?_)
    exact fun hEq => (hComing n hn).2 (hEq.symm.trans hNext.symm)
  | bufferUnreliable =>
    refine fun n hn => ⟨(hAwaits' n hn).1, fun hHolds => ?_⟩
    exact (holds_insertUnreliable.mp hHolds).elim (hComing n hn).2 (hAwaits' n hn).2
  | bufferReliable =>
    refine fun n hn => ⟨(hAwaits' n hn).1, fun hHolds => ?_⟩
    exact (holds_insertReliable.mp hHolds).elim (hComing n hn).2 (hAwaits' n hn).2
  | recover hReliable hAhead hDrains =>
    refine hDrains.awaits fun n hn => ⟨saturatingSucc_le_of_lt (hFar hReliable hAhead n hn), ?_⟩
    exact fun hHolds => (hAwaits' n hn).2 (hHolds.imp_right (absurd · KeyedMap.not_mem_empty))

/-- What waits on the reliable lane either goes on waiting or is passed on. -/
theorem Pops.get?_reliable {waiting : ReceivedInputFrame} (h : Pops b received b')
    (hGet : b.reliable.get? k = some waiting) :
    waiting = received ∨ b'.reliable.get? k = some waiting := by
  cases h with
  | unreliable => exact Or.inr hGet
  | reliable _ hNext => exact KeyedMap.get?_erase_of_get? hNext hGet

theorem Drains.get?_reliable {waiting : ReceivedInputFrame} (h : Drains b frames b')
    (hGet : b.reliable.get? k = some waiting) :
    waiting ∈ frames ∨ b'.reliable.get? k = some waiting := by
  induction h with
  | settled => exact Or.inr hGet
  | pop hPop _ ih =>
    rcases hPop.get?_reliable hGet with rfl | hGet
    · exact Or.inl List.mem_cons_self
    · exact (ih hGet).imp_left (List.mem_cons_of_mem _)

theorem Recovers.get?_reliable {waiting : ReceivedInputFrame} (h : Recovers b frames b')
    (hGet : b.reliable.get? k = some waiting) :
    waiting ∈ frames ∨ b'.reliable.get? k = some waiting := by
  cases h with
  | skip _ hDrains => exact hDrains.get?_reliable hGet
  | empty => exact Or.inr hGet

/-- A frame from beyond the window clears the lane, so that nothing may wait there. -/
theorem Receives.get?_reliable {waiting : ReceivedInputFrame} (h : Receives b received frames b')
    (hFar : received.isReliable = true → b.next + reliableInputReorderWindow < received.sequence →
      k ∉ b.reliable)
    (hGet : b.reliable.get? k = some waiting) :
    waiting ∈ frames ∨ b'.reliable.get? k = some waiting := by
  cases h with
  | drop => exact Or.inr hGet
  | pass _ hDrains => exact (hDrains.get?_reliable hGet).imp_left (List.mem_cons_of_mem _)
  | bufferUnreliable => exact Or.inr hGet
  | bufferReliable => exact Or.inr (KeyedMap.get?_insertNew_of_get? hGet)
  | recover hReliable hAhead _ =>
    exact absurd (KeyedMap.mem_of_get? hGet) (hFar hReliable hAhead)

/-- An awaited frame of the reliable lane is passed on or waits. -/
theorem Receives.arrives (h : Receives b received frames b') (hReliable : received.isReliable = true)
    (hAwaits : b.Awaits coming) (hComing : received.sequence ∈ coming) :
    received ∈ frames ∨ b'.reliable.get? received.sequence = some received := by
  obtain ⟨hLe, hFree⟩ := hAwaits _ hComing
  cases h with
  | drop hOld => omega
  | pass => exact Or.inl List.mem_cons_self
  | bufferUnreliable hUnreliable =>
    rw [hReliable] at hUnreliable
    cases hUnreliable
  | bufferReliable => exact Or.inr (KeyedMap.get?_insertNew_self fun hHolds => hFree (Or.inr hHolds))
  | recover => exact Or.inl List.mem_cons_self

/-- A fact about the numbers that wait on the reliable lane. -/
theorem Drains.forall_reliable {p : ℕ → Prop} (h : Drains b frames b')
    (hp : ∀ k ∈ b.reliable, p k) : ∀ k ∈ b'.reliable, p k :=
  h.induct (I := fun b => ∀ k ∈ b.reliable, p k)
    (fun _ _ _ hPop hp k hk => hp k (hPop.reliable_of_mem hk)) hp

theorem Recovers.forall_reliable {p : ℕ → Prop} (h : Recovers b frames b')
    (hp : ∀ k ∈ b.reliable, p k) : ∀ k ∈ b'.reliable, p k := by
  cases h with
  | skip _ hDrains => exact hDrains.forall_reliable hp
  | empty => exact hp

theorem Receives.forall_reliable {p : ℕ → Prop} (h : Receives b received frames b')
    (hp : ∀ k ∈ b.reliable, p k) (hReceived : received.isReliable = true → p received.sequence) :
    ∀ k ∈ b'.reliable, p k := by
  cases h with
  | drop => exact hp
  | pass _ hDrains => exact hDrains.forall_reliable hp
  | bufferUnreliable => exact hp
  | bufferReliable hReliable =>
    intro k hk
    rcases KeyedMap.mem_insertNew.mp hk with rfl | hk
    · exact hReceived hReliable
    · exact hp k hk
  | recover _ _ hDrains => exact hDrains.forall_reliable fun k hk => absurd hk KeyedMap.not_mem_empty

end Buffers

/-- The frames that some turns receive. -/
def receivedFrames (turns : List Turn) : List ReceivedInputFrame :=
  turns.filterMap fun
    | .receive _ received => some received
    | .timeout _ | .recover _ => none

/-- The numbers of the reliable lane among them. -/
def reliableNumbers (turns : List Turn) : Set ℕ :=
  {n | ∃ received ∈ receivedFrames turns, received.isReliable = true ∧ received.sequence = n}

/-- No frame of the reliable lane carries a number that came before, on either lane. -/
structure Fresh (turns : List Turn) : Prop where
  distinct : (receivedFrames turns).Pairwise fun earlier later =>
    later.isReliable = true → earlier.sequence ≠ later.sequence
  positive : ∀ n ∈ reliableNumbers turns, 1 ≤ n

/-- A turn that loses nothing.  A frame from beyond the window leaves nothing behind, neither in the
buffers nor among the frames of the reliable lane that are still to come, and a recovery does not
pass these either; a frame of the unreliable lane does not take a number that waits on the other. -/
def Lossless (s : LoopState) (t : Turn) (rest : List Turn) : Prop :=
  match t with
  | .receive _ received =>
    (received.isReliable = true →
      s.reliableInput.nextSequence + reliableInputReorderWindow < received.sequence →
        (∀ k, k ∉ s.reliableInput.pending) ∧
        (∀ k ∈ s.pendingUnreliableInput, received.sequence < k) ∧
        ∀ n ∈ reliableNumbers rest, received.sequence < n) ∧
    (received.isReliable = false → received.sequence ∉ s.reliableInput.pending)
  | .timeout _ | .recover _ =>
      ∀ k, nextPendingInputSequence s.pendingUnreliableInput s.reliableInput = some k →
        ∀ n ∈ reliableNumbers rest, k ≤ n

/-- How far a run has come after the turns `done`, with `rest` still to come. -/
structure Delivering (done : List Turn) (s : LoopState) (rest : List Turn) : Prop where
  clean : s.buffers.Clean
  settled : ¬ s.buffers.Holds s.buffers.next
  awaits : s.buffers.Awaits (reliableNumbers rest)
  delivered : ∀ received ∈ receivedFrames done, received.isReliable = true →
    Injected s.trace received ∨ s.buffers.reliable.get? received.sequence = some received

section Frames

variable {done rest : List Turn} {now : Instant} {received : ReceivedInputFrame} {n : ℕ}

theorem receivedFrames_append (done rest : List Turn) :
    receivedFrames (done ++ rest) = receivedFrames done ++ receivedFrames rest :=
  List.filterMap_append

theorem mem_reliableNumbers_append (done rest : List Turn) :
    n ∈ reliableNumbers (done ++ rest) ↔ n ∈ reliableNumbers done ∨ n ∈ reliableNumbers rest := by
  simp only [reliableNumbers, receivedFrames_append, Set.mem_ofPred_eq, List.mem_append,
    or_and_right, exists_or]

theorem mem_reliableNumbers_cons {t : Turn} (h : n ∈ reliableNumbers rest) :
    n ∈ reliableNumbers (t :: rest) :=
  (mem_reliableNumbers_append [t] rest).mpr (Or.inr h)

theorem mem_reliableNumbers_receive (now : Instant) (rest : List Turn)
    (hReliable : received.isReliable = true) :
    received.sequence ∈ reliableNumbers (.receive now received :: rest) :=
  ⟨received, List.mem_cons_self, hReliable, rfl⟩

theorem Fresh.ne_of_mem_rest (h : Fresh (done ++ .receive now received :: rest))
    (hn : n ∈ reliableNumbers rest) : n ≠ received.sequence := by
  obtain ⟨later, hLater, hReliable, rfl⟩ := hn
  have hDistinct := h.distinct
  rw [receivedFrames_append, List.pairwise_append] at hDistinct
  exact ((List.pairwise_cons.mp hDistinct.2.1).1 later hLater hReliable).symm

end Frames

section Steps

variable {done rest : List Turn} {s s' : LoopState} {frames : List ReceivedInputFrame}
  {now : Instant} {received : ReceivedInputFrame} {t : Turn}

/-- What is delivered or waits is so after some more frames have left the buffers. -/
theorem delivered_step (hPasses : Passes frames s s') (hReliable : received.isReliable = true)
    (hStep : ∀ k, s.buffers.reliable.get? k = some received →
      received ∈ frames ∨ s'.buffers.reliable.get? k = some received)
    (h : Injected s.trace received ∨
      s.buffers.reliable.get? received.sequence = some received) :
    Injected s'.trace received ∨ s'.buffers.reliable.get? received.sequence = some received := by
  rcases h with h | h
  · exact Or.inl (h.mono hPasses.trace)
  · exact (hStep _ h).imp_left fun hMem => hPasses.injected received hMem hReliable

namespace Delivering

/-- A frame that loses nothing is admitted. -/
theorem admits (h : Delivering done s (.receive now received :: rest))
    (hLossless : Lossless s (.receive now received) rest) : s.buffers.Admits received := by
  unfold Buffers.Admits
  split
  next hReliable =>
    constructor
    · intro hHolds
      have hComing := mem_reliableNumbers_receive now rest hReliable
      exact absurd (Or.inl hHolds) (h.awaits _ hComing).2
    · exact fun hFar k hk => saturatingSucc_le_of_lt ((hLossless.1 hReliable hFar).2.1 k hk)
  next hReliable =>
    exact fun hHolds => absurd hHolds (hLossless.2 (Bool.eq_false_of_not_eq_true hReliable))

theorem receive (h : Delivering done s (.receive now received :: rest))
    (hFresh : Fresh (done ++ .receive now received :: rest))
    (hLossless : Lossless s (.receive now received) rest)
    (hReceives : s.buffers.Receives received frames s'.buffers) (hPasses : Passes frames s s') :
    Delivering (done ++ [.receive now received]) s' rest := by
  have hFar : received.isReliable = true →
      s.buffers.next + reliableInputReorderWindow < received.sequence →
      (∀ k, k ∉ s.buffers.reliable) ∧ ∀ n ∈ reliableNumbers rest, received.sequence < n := by
    intro hReliable hAhead
    obtain ⟨hEmpty, -, hComing⟩ := hLossless.1 hReliable hAhead
    exact ⟨hEmpty, hComing⟩
  constructor
  · exact hReceives.clean h.clean h.settled (h.admits hLossless)
  · exact hReceives.not_holds_next h.settled
  · refine hReceives.awaits h.awaits (fun n hn => ?_) fun hReliable hAhead =>
      (hFar hReliable hAhead).2
    exact ⟨mem_reliableNumbers_cons hn, hFresh.ne_of_mem_rest hn⟩
  · intro passed hMem hReliable
    rw [receivedFrames_append] at hMem
    rcases List.mem_append.mp hMem with hMem | hMem
    · refine delivered_step hPasses hReliable (fun k hGet => ?_) (h.delivered passed hMem hReliable)
      exact hReceives.get?_reliable (fun hNow hAhead => (hFar hNow hAhead).1 k) hGet
    · obtain rfl := List.mem_singleton.mp hMem
      have hComing := mem_reliableNumbers_receive now rest hReliable
      exact (hReceives.arrives hReliable h.awaits hComing).imp_left
        fun hMem => hPasses.injected passed hMem hReliable

theorem recover (h : Delivering done s (t :: rest)) (hFrame : receivedFrames [t] = [])
    (hLeast : ∀ k, IsLeast {k | s.buffers.Holds k} k → ∀ n ∈ reliableNumbers rest, k ≤ n)
    (hRecovers : s.buffers.Recovers frames s'.buffers) (hPasses : Passes frames s s') :
    Delivering (done ++ [t]) s' rest := by
  constructor
  · exact hRecovers.clean_iff.mpr h.clean
  · exact hRecovers.not_holds_next
  · exact hRecovers.awaits (fun n hn => h.awaits n (mem_reliableNumbers_cons hn)) hLeast
  · intro received hMem hReliable
    rw [receivedFrames_append, hFrame, List.append_nil] at hMem
    exact delivered_step hPasses hReliable (fun k hGet => hRecovers.get?_reliable hGet)
      (h.delivered received hMem hReliable)

end Delivering

end Steps

section Runs

variable {w : World} {turns : List Turn} {s : LoopState}

theorem Delivering.turn (hw : w.Succeeds) {done rest : List Turn} {t : Turn} {s' : LoopState}
    (h : Delivering done s (t :: rest)) (hFresh : Fresh (done ++ t :: rest))
    (hLossless : Lossless s t rest) (hTurn : turnOk w s t = some s') :
    Delivering (done ++ [t]) s' rest := by
  obtain ⟨frames, hMoves, hHands⟩ := moves_of_turnOk hw hTurn
  cases t with
  | receive now received => exact h.receive hFresh hLossless hMoves hHands.toPasses
  | timeout now =>
    refine h.recover rfl (fun k hk => hLossless k ?_) hMoves hHands.toPasses
    exact nextPendingInputSequence_eq_some hk
  | recover now =>
    refine h.recover rfl (fun k hk => hLossless k ?_) hMoves hHands.toPasses
    exact nextPendingInputSequence_eq_some hk

theorem delivering_start (h : Fresh turns) : Delivering [] .start turns where
  clean := Buffers.clean_of_empty not_holds_start
  settled := not_holds_start _
  awaits n hn := ⟨h.positive n hn, not_holds_start n⟩
  delivered _ hMem := absurd hMem List.not_mem_nil

/-- If no turn loses a frame, every frame of the reliable lane is injected by the end of the
drain. -/
theorem exists_finish_injected (hw : w.Succeeds) (hFresh : Fresh turns)
    (hReaches : Reaches w turns s) (hLossless : Along Lossless (turnOk w) .start turns) :
    ∃ fuel s', finish w fuel s = some (.ok () s') ∧
      ∀ received ∈ receivedFrames turns, received.isReliable = true →
        Injected s'.trace received := by
  have hDelivering : ∃ done, turns = done ++ [] ∧ Delivering done s [] := by
    refine run_induction_along (I := fun s rest => ∃ done, turns = done ++ rest ∧
      Delivering done s rest) ?_ ⟨[], rfl, delivering_start hFresh⟩ hLossless hReaches
    rintro s t rest s' ⟨done, rfl, hDone⟩ hStep hTurn
    exact ⟨done ++ [t], List.append_cons done t rest, hDone.turn hw hFresh hStep hTurn⟩
  obtain ⟨done, rfl, hDone⟩ := hDelivering
  rw [List.append_nil]
  obtain ⟨fuel, s₁, s₂, hFinish, hTrace, hDelivered, hEmpty⟩ := finish_of_clean hw
    (I := fun s => ∀ received ∈ receivedFrames done, received.isReliable = true →
      Injected s.trace received ∨ s.buffers.reliable.get? received.sequence = some received)
    (fun s s' frames hs hRecovers hPasses received hMem hReliable =>
      delivered_step hPasses hReliable (fun _ => hRecovers.get?_reliable)
        (hs received hMem hReliable))
    hDone.delivered hDone.clean
  refine ⟨fuel, s₂, hFinish, fun received hMem hReliable => ?_⟩
  rcases hDelivered received hMem hReliable with hInjected | hWaits
  · exact hInjected.mono hTrace
  · exact absurd (Or.inr (KeyedMap.mem_of_get? hWaits)) (hEmpty _)

end Runs

end Kmsync
