import Kmsync.Receive.Refinement

/-! The closing loop.  It ends exactly if the buffers are clean when the channel is closed: a frame
that waits behind `next` is never taken out again. -/

namespace Kmsync

open ProofKit

namespace Buffers

variable {b b' : Buffers} {received : ReceivedInputFrame} {frames : List ReceivedInputFrame}

/-- Nothing waits behind `next`, and no number but the last waits on both lanes. -/
structure Clean (b : Buffers) : Prop where
  fresh : ∀ k, b.Holds k → b.next ≤ k
  alone : ∀ k, k ∈ b.unreliable → k ∈ b.reliable → k = u64Max

namespace Pops

theorem clean (h : Pops b received b') (hClean : b.Clean) : b'.Clean where
  fresh k hk := by
    rw [h.next_eq]
    rcases (hClean.fresh k (h.holds_of_holds hk)).lt_or_eq with hLt | rfl
    · exact saturatingSucc_le_of_lt hLt
    · -- The number that was taken from one lane is still on the other.
      have hBoth : b.next ∈ b.unreliable ∧ b.next ∈ b.reliable := by
        cases h with
        | unreliable hGet =>
          refine ⟨KeyedMap.mem_of_get? hGet, hk.resolve_left fun hErased => ?_⟩
          exact (KeyedMap.mem_erase.mp hErased).1 rfl
        | reliable hFree hGet =>
          refine absurd hk (not_or.mpr ⟨hFree, fun hErased => ?_⟩)
          exact (KeyedMap.mem_erase.mp hErased).1 rfl
      rw [hClean.alone _ hBoth.1 hBoth.2]
      exact min_le_right _ _
  alone k hU hR := hClean.alone k (h.unreliable_of_mem hU) (h.reliable_of_mem hR)

/-- What is not clean is never cleaned up. -/
theorem clean_of_clean (h : Pops b received b') (hClean : b'.Clean) : b.Clean where
  fresh k hk := by
    by_contra hStale
    have hNext : k ≠ b.next := by omega
    have := hClean.fresh k ((h.holds_iff hNext).mpr hk)
    have := h.next_le
    omega
  alone k hU hR := by
    have hR' : k ∈ b'.reliable := h.mem_reliable hR (Or.inr hU)
    by_cases hNext : k = b.next
    · have hLe := hClean.fresh k (Or.inr hR')
      have hMax := PendingFrames.le_u64Max hU
      rw [h.next_eq, ← hNext] at hLe
      rcases hMax.lt_or_eq with hLt | hEq
      · rw [saturatingSucc_of_lt hLt] at hLe
        omega
      · exact hEq
    · exact hClean.alone k (h.mem_unreliable hU hNext) hR'

end Pops

theorem Drains.clean_iff (h : Drains b frames b') : b'.Clean ↔ b.Clean := by
  induction h with
  | settled => rfl
  | pop hPop _ ih => exact ih.trans ⟨hPop.clean_of_clean, hPop.clean⟩

theorem clean_skip {k : ℕ} (h : IsLeast {k | b.Holds k} k) :
    Clean { b with next := max b.next k } ↔ b.Clean := by
  constructor
  · intro hClean
    exact ⟨fun j hj => (le_max_left _ _).trans (hClean.fresh j hj), hClean.alone⟩
  · intro hClean
    exact ⟨fun j hj => max_le (hClean.fresh j hj) (h.2 hj), hClean.alone⟩

theorem Recovers.clean_iff (h : Recovers b frames b') : b'.Clean ↔ b.Clean := by
  cases h with
  | skip hLeast hDrains => exact hDrains.clean_iff.trans (clean_skip hLeast)
  | empty => rfl

/-- A recovery of clean buffers takes a frame out. -/
theorem Recovers.size_lt (h : Recovers b frames b') (hClean : b.Clean) (hHolds : ∃ k, b.Holds k) :
    b'.size < b.size := by
  cases h with
  | skip hLeast hDrains =>
    refine hDrains.size_lt ?_
    rw [max_eq_right (hClean.fresh _ hLeast.1)]
    exact hLeast.1
  | empty hEmpty =>
    obtain ⟨k, hk⟩ := hHolds
    exact absurd hk (hEmpty k)

theorem Recovers.eq_of_empty (h : Recovers b frames b') (hEmpty : ∀ k, ¬ b.Holds k) : b' = b := by
  cases h with
  | skip hLeast => exact absurd hLeast.1 (hEmpty _)
  | empty => rfl

theorem Recovers.not_holds_next (h : Recovers b frames b') : ¬ b'.Holds b'.next := by
  cases h with
  | skip _ hDrains => exact hDrains.not_holds_next
  | empty hEmpty => exact hEmpty _

theorem clean_of_empty (h : ∀ k, ¬ b.Holds k) : b.Clean :=
  ⟨fun k hk => absurd hk (h k), fun k hk => absurd (Or.inl hk) (h k)⟩

/-- A frame that leaves nothing behind when it arrives: its number does not wait on the other lane,
and it does not overtake a frame of the unreliable lane by more than the window. -/
def Admits (b : Buffers) (received : ReceivedInputFrame) : Prop :=
  if received.isReliable then
    (received.sequence ∈ b.unreliable → received.sequence = u64Max) ∧
    (b.next + reliableInputReorderWindow < received.sequence →
      ∀ k ∈ b.unreliable, saturatingSucc received.sequence ≤ k)
  else received.sequence ∈ b.reliable → received.sequence = u64Max

theorem Receives.clean (h : Receives b received frames b') (hClean : b.Clean)
    (hNext : ¬ b.Holds b.next) (hAdmits : b.Admits received) : b'.Clean := by
  cases h with
  | drop => exact hClean
  | pass _ hDrains =>
    refine hDrains.clean_iff.mpr ⟨fun k hk => ?_, hClean.alone⟩
    refine saturatingSucc_le_of_lt (lt_of_le_of_ne (hClean.fresh k hk) ?_)
    rintro rfl
    exact hNext hk
  | bufferUnreliable hUnreliable hAhead =>
    rw [Admits, hUnreliable] at hAdmits
    constructor
    · intro k hk
      rcases holds_insertUnreliable.mp hk with rfl | hk
      · exact hAhead.le
      · exact hClean.fresh k hk
    · intro k hU hR
      rcases KeyedMap.mem_insertNew.mp hU with rfl | hU
      · exact hAdmits hR
      · exact hClean.alone k hU hR
  | bufferReliable hReliable hAhead =>
    rw [Admits, if_pos hReliable] at hAdmits
    constructor
    · intro k hk
      rcases holds_insertReliable.mp hk with rfl | hk
      · exact hAhead.le
      · exact hClean.fresh k hk
    · intro k hU hR
      rcases KeyedMap.mem_insertNew.mp hR with rfl | hR
      · exact hAdmits.1 hU
      · exact hClean.alone k hU hR
  | recover hReliable hFar hDrains =>
    rw [Admits, if_pos hReliable] at hAdmits
    refine hDrains.clean_iff.mpr ⟨fun k hk => ?_, fun k _ hk => absurd hk KeyedMap.not_mem_empty⟩
    exact hk.elim (hAdmits.2 hFar k) (absurd · KeyedMap.not_mem_empty)

theorem Receives.not_holds_next (h : Receives b received frames b') (hNext : ¬ b.Holds b.next) :
    ¬ b'.Holds b'.next := by
  cases h with
  | drop => exact hNext
  | pass _ hDrains => exact hDrains.not_holds_next
  | bufferUnreliable _ hAhead =>
    exact fun hk => (holds_insertUnreliable.mp hk).elim hAhead.ne hNext
  | bufferReliable _ hAhead =>
    exact fun hk => (holds_insertReliable.mp hk).elim hAhead.ne hNext
  | recover _ _ hDrains => exact hDrains.not_holds_next

end Buffers

section Closing

variable {w : World} (hw : w.Succeeds) {s : LoopState}

include hw

/-- From clean buffers the closing loop takes everything out, and keeps what recoveries keep. -/
theorem closingLoop_of_clean {I : LoopState → Prop}
    (hRecover : ∀ s s' frames, I s → s.buffers.Recovers frames s'.buffers → Passes frames s s' →
      I s') (hs : I s) (hClean : s.buffers.Clean) :
    ∃ fuel s', closingLoop w fuel s = some (.ok () s') ∧ I s' ∧ ∀ k, ¬ s'.buffers.Holds k := by
  refine exists_whileTrue_eq_ok (I := fun s => I s ∧ s.buffers.Clean)
    (fun s => s.buffers.size) ?_ ⟨hs, hClean⟩
  intro s ⟨hs, hClean⟩
  refine (recoverPendingInputGap_ends hw).mono fun more s' ⟨hMore, frames, hRecovers, hHands⟩ => ?_
  have hs' := hRecover s s' frames hs hRecovers hHands.toPasses
  cases more with
  | true => exact ⟨⟨hs', hRecovers.clean_iff.mpr hClean⟩, hRecovers.size_lt hClean (hMore.mp rfl)⟩
  | false =>
    have hEmpty := not_exists.mp fun hHolds => Bool.false_ne_true (hMore.mpr hHolds)
    rw [hRecovers.eq_of_empty hEmpty]
    exact ⟨hs', hEmpty⟩

theorem closingLoop_of_not_clean (hClean : ¬ s.buffers.Clean) (fuel : ℕ) :
    closingLoop w fuel s = none := by
  refine whileTrue_eq_none (I := fun s => ¬ s.buffers.Clean) ?_ hClean fuel
  intro s hs
  refine (recoverPendingInputGap_ends hw).mono fun more s' ⟨hMore, frames, hRecovers, _⟩ => ?_
  refine ⟨hMore.mpr ?_, fun hClean => hs (hRecovers.clean_iff.mp hClean)⟩
  by_contra hEmpty
  exact hs (Buffers.clean_of_empty (not_exists.mp hEmpty))

end Closing

section Runs

variable {w : World} (hw : w.Succeeds) {turns : List Turn} {s s' : LoopState} {t : Turn}

include hw

/-- Between two turns nothing is ready. -/
theorem not_holds_next_of_turnOk (hTurn : turnOk w s t = some s')
    (hNext : ¬ s.buffers.Holds s.buffers.next) : ¬ s'.buffers.Holds s'.buffers.next := by
  obtain ⟨frames, hMoves, -⟩ := moves_of_turnOk hw hTurn
  cases t with
  | receive now received => exact Buffers.Receives.not_holds_next hMoves hNext
  | timeout now => exact Buffers.Recovers.not_holds_next hMoves
  | recover now => exact Buffers.Recovers.not_holds_next hMoves

omit hw in
/-- Every frame is admitted when it arrives. -/
def Admitted (s : LoopState) (t : Turn) (_ : List Turn) : Prop :=
  match t with
  | .receive _ received => s.buffers.Admits received
  | .timeout _ | .recover _ => True

theorem clean_of_turnOk (hTurn : turnOk w s t = some s') (hClean : s.buffers.Clean)
    (hNext : ¬ s.buffers.Holds s.buffers.next) {rest : List Turn} (hAdmitted : Admitted s t rest) :
    s'.buffers.Clean := by
  obtain ⟨frames, hMoves, -⟩ := moves_of_turnOk hw hTurn
  cases t with
  | receive now received => exact Buffers.Receives.clean hMoves hClean hNext hAdmitted
  | timeout now => exact (Buffers.Recovers.clean_iff hMoves).mpr hClean
  | recover now => exact (Buffers.Recovers.clean_iff hMoves).mpr hClean

omit hw in
theorem not_holds_start (k : ℕ) : ¬ LoopState.start.buffers.Holds k :=
  not_or.mpr ⟨KeyedMap.not_mem_empty, KeyedMap.not_mem_empty⟩

theorem tidy_of_reaches (hReaches : Reaches w turns s)
    (hAlong : Along Admitted (turnOk w) .start turns) :
    s.buffers.Clean ∧ ¬ s.buffers.Holds s.buffers.next :=
  run_induction_along (C := Admitted)
    (I := fun s _ => s.buffers.Clean ∧ ¬ s.buffers.Holds s.buffers.next)
    (fun _ _ _ _ hs hAdmitted hTurn =>
      ⟨clean_of_turnOk hw hTurn hs.1 hs.2 hAdmitted, not_holds_next_of_turnOk hw hTurn hs.2⟩)
    ⟨Buffers.clean_of_empty not_holds_start, not_holds_start _⟩ hAlong hReaches

/-- The drain after the loop, from clean buffers. -/
theorem finish_of_clean {I : LoopState → Prop}
    (hRecover : ∀ s s' frames, I s → s.buffers.Recovers frames s'.buffers → Passes frames s s' →
      I s') (hs : I s) (hClean : s.buffers.Clean) :
    ∃ fuel s₁ s₂, finish w fuel s = some (.ok () s₂) ∧ s₁.trace <:+ s₂.trace ∧ I s₁ ∧
      ∀ k, ¬ s₁.buffers.Holds k := by
  obtain ⟨fuel, s₁, hLoop, hs₁, hEmpty⟩ := closingLoop_of_clean hw hRecover hs hClean
  have hEnds : Ends (releaseTrackedInput w) (fun _ => Quiet s₁) s₁ := releaseTrackedInput_ends hw
  obtain ⟨_, s₂, hRelease, hQuiet⟩ := hEnds.exists_ok
  refine ⟨fuel, s₁, s₂, ?_, hQuiet.trace, hs₁, hEmpty⟩
  rw [finish, hLoop, ← hRelease]

/-- The drain ends exactly if the buffers are clean when the channel is closed, and so they are if
every frame was admitted. -/
theorem finish_terminates_iff :
    (∀ turns s, Reaches w turns s →
      ((∃ fuel s', finish w fuel s = some (.ok () s')) ↔ s.buffers.Clean)) ∧
    ∀ turns s, Reaches w turns s → Along Admitted (turnOk w) .start turns →
      ∃ fuel s', finish w fuel s = some (.ok () s') := by
  have hEnds : ∀ s : LoopState, s.buffers.Clean →
      ∃ fuel s', finish w fuel s = some (.ok () s') := by
    intro s hClean
    obtain ⟨fuel, _, s', hFinish, -⟩ :=
      finish_of_clean hw (I := fun _ => True) (fun _ _ _ _ _ _ => trivial) trivial hClean
    exact ⟨fuel, s', hFinish⟩
  constructor
  · intro turns s _
    refine ⟨fun ⟨fuel, s', hFinish⟩ => ?_, hEnds s⟩
    by_contra hClean
    rw [finish, closingLoop_of_not_clean hw hClean] at hFinish
    cases hFinish
  · intro turns s hReaches hAlong
    exact hEnds s (tidy_of_reaches hw hReaches hAlong).1

end Runs

/-- A key, and a move behind a move that is missing. -/
theorem finish_terminates_iff_move :
    ∃ fuel s', (run (turnOk .calm) .start [.receive 0 (inputFrame 1 (keyC .pressed)),
      .receive 0 (inputFrame 3 mouseMove)]).bind (finish .calm fuel) = some (.ok () s') := by
  obtain ⟨s, hReaches, -⟩ := exists_reaches (w := .calm) (p := fun _ => true)
    [.receive 0 (inputFrame 1 (keyC .pressed)), .receive 0 (inputFrame 3 mouseMove)]
    (by decide)
  obtain ⟨fuel, s', hFinish⟩ := (finish_terminates_iff World.calm_succeeds).2 _ s hReaches (by
    refine ⟨⟨fun h => absurd h (by decide), fun h => absurd h (by decide)⟩, fun s hs => ⟨?_, ?_⟩⟩
    · obtain rfl := Option.some.inj hs
      exact fun h => absurd h (by decide)
    · exact fun _ _ => trivial)
  exact ⟨fuel, s', by rw [hReaches]; exact hFinish⟩

/-- A move waits for the frames in front of it.  Then a key arrives from far ahead, and the numbers
that the move waits for are given up without it. -/
theorem finish_diverges :
    ∃ s, Reaches .calm [.receive 0 (inputFrame 5 mouseMove),
      .receive 0 (inputFrame 100 (keyC .pressed))] s ∧ ∀ fuel, finish .calm fuel s = none := by
  obtain ⟨s, hReaches, hEnd⟩ := exists_reaches (w := .calm)
    (p := fun s => 5 ∈ s.pendingUnreliableInput ∧ s.reliableInput.nextSequence = 101)
    [.receive 0 (inputFrame 5 mouseMove), .receive 0 (inputFrame 100 (keyC .pressed))]
    (by decide)
  obtain ⟨hMem, hNext⟩ := of_decide_eq_true hEnd
  refine ⟨s, hReaches, fun fuel => ?_⟩
  have hStale : ¬ s.buffers.Clean := fun hClean => by
    have hLe : s.reliableInput.nextSequence ≤ 5 := hClean.fresh 5 (Or.inl hMem)
    omega
  rw [finish, closingLoop_of_not_clean World.calm_succeeds hStale]

/-- The drain ends at once, and an event of device 10 was not injected. -/
def endsWithout (sequence : UInt64) (event : InputEvent F32) (s : LoopState) : Bool :=
  match finish .calm 1 s with
  | some (.ok () s') => .inject (some (inputFrame sequence event)) event true ∉ s'.trace
  | _ => false

theorem not_injected_of_endsWithout {sequence : UInt64} {event : InputEvent F32} {s : LoopState}
    (h : endsWithout sequence event s = true) :
    ∃ s', finish .calm 1 s = some (.ok () s') ∧
      ¬ Injected s'.trace (inputFrame sequence event) := by
  unfold endsWithout at h
  split at h
  next s' hFinish =>
    refine ⟨s', hFinish, ?_⟩
    rintro ⟨input, hPayload, hInjected⟩
    cases hPayload
    exact of_decide_eq_true h hInjected
  next => cases h

end Kmsync
