import Kmsync.Receive.InOrder
import Mathlib.Order.Interval.Finset.Nat

/-! Frames that wait while nothing more arrives.  As long as the buffers are clean, the least number
in them is ahead of `nextSequence`, so that a timer runs; and each recovery ends one of the runs of
missing numbers in front of a frame. -/

namespace Kmsync

open ProofKit

namespace Buffers

variable {b b' : Buffers} {received waiting : ReceivedInputFrame}
  {frames : List ReceivedInputFrame} {j k : ℕ}

instance (b : Buffers) (k : ℕ) : Decidable (b.Holds k) :=
  inferInstanceAs (Decidable (k ∈ b.unreliable ∨ k ∈ b.reliable))

/-- The frame waits on one of the lanes. -/
def Waits (b : Buffers) (waiting : ReceivedInputFrame) : Prop :=
  b.unreliable.get? waiting.sequence = some waiting ∨
    b.reliable.get? waiting.sequence = some waiting

instance (b : Buffers) (waiting : ReceivedInputFrame) : Decidable (b.Waits waiting) :=
  inferInstanceAs (Decidable (_ ∨ _))

/-- The numbers up to `k` that end a run of missing ones: a frame carries them, and none carries the
number before. -/
def missingRunEnds (b : Buffers) (k : ℕ) : Finset ℕ :=
  (Finset.Ioc b.next k).filter fun j => b.Holds j ∧ ¬ b.Holds (j - 1)

/-- How many runs of missing numbers there are from `next` up to `k`. -/
def missingRuns (b : Buffers) (k : ℕ) : ℕ := (b.missingRunEnds k).card

theorem mem_missingRunEnds :
    j ∈ b.missingRunEnds k ↔ (b.next < j ∧ j ≤ k) ∧ b.Holds j ∧ ¬ b.Holds (j - 1) := by
  rw [missingRunEnds, Finset.mem_filter, Finset.mem_Ioc]

theorem Waits.holds (h : b.Waits waiting) : b.Holds waiting.sequence :=
  h.imp KeyedMap.mem_of_get? KeyedMap.mem_of_get?

/-- A pop takes one frame, and the others go on waiting. -/
theorem Pops.waits (h : Pops b received b') (hWaits : b.Waits waiting) :
    waiting = received ∨ b'.Waits waiting := by
  cases h with
  | unreliable hNext =>
    rcases hWaits with hGet | hGet
    · exact (KeyedMap.get?_erase_of_get? hNext hGet).imp_right Or.inl
    · exact Or.inr (Or.inr hGet)
  | reliable _ hNext =>
    rcases hWaits with hGet | hGet
    · exact Or.inr (Or.inl hGet)
    · exact (KeyedMap.get?_erase_of_get? hNext hGet).imp_right Or.inr

theorem Drains.waits (h : Drains b frames b') (hWaits : b.Waits waiting) :
    waiting ∈ frames ∨ b'.Waits waiting := by
  induction h with
  | settled => exact Or.inr hWaits
  | pop hPop _ ih =>
    rcases hPop.waits hWaits with rfl | hWaits
    · exact Or.inl List.mem_cons_self
    · exact (ih hWaits).imp_left (List.mem_cons_of_mem _)

theorem Recovers.waits (h : Recovers b frames b') (hWaits : b.Waits waiting) :
    waiting ∈ frames ∨ b'.Waits waiting := by
  cases h with
  | skip _ hDrains => exact hDrains.waits hWaits
  | empty => exact Or.inr hWaits

/-- From `next` on, the numbers that wait are the same when all that was ready has been taken. -/
theorem Drains.holds_iff (h : Drains b frames b') (hBelow : ∀ k, b.Holds k → k < u64Max) :
    b.next ≤ b'.next ∧ ∀ j, b'.next ≤ j → (b'.Holds j ↔ b.Holds j) := by
  induction h with
  | settled => exact ⟨le_rfl, fun _ _ => Iff.rfl⟩
  | @pop b b₁ b' received frames hPop _ ih =>
    have hNext : b₁.next = b.next + 1 := by
      rw [hPop.next_eq, saturatingSucc_of_lt (hBelow _ hPop.holds)]
    obtain ⟨hLe, hIff⟩ := ih fun k hk => hBelow k (hPop.holds_of_holds hk)
    refine ⟨by omega, fun j hj => (hIff j hj).trans (hPop.holds_iff ?_)⟩
    omega

theorem Recovers.holds_of_holds (h : Recovers b frames b') (hk : b'.Holds k) : b.Holds k := by
  cases h with
  | skip _ hDrains => exact hDrains.holds_of_holds hk
  | empty => exact hk

/-- Between two turns every number that waits is ahead. -/
theorem Clean.next_lt (hClean : b.Clean) (hNext : ¬ b.Holds b.next) (hk : b.Holds k) :
    b.next < k := by
  apply lt_of_le_of_ne (hClean.fresh k hk)
  intro hEq
  rw [hEq] at hNext
  exact hNext hk

/-- The first number that waits ends a missing run. -/
theorem Clean.first_mem (hClean : b.Clean) (hNext : ¬ b.Holds b.next)
    (hLeast : IsLeast {k | b.Holds k} j) (hk : b.Holds k) : j ∈ b.missingRunEnds k := by
  have hAhead : b.next < j := hClean.next_lt hNext hLeast.1
  refine mem_missingRunEnds.mpr ⟨⟨hAhead, hLeast.2 hk⟩, hLeast.1, ?_⟩
  intro hBefore
  have hBound : j ≤ j - 1 := hLeast.2 hBefore
  omega

theorem Clean.missingRuns_pos (hClean : b.Clean) (hNext : ¬ b.Holds b.next) (hk : b.Holds k) :
    0 < b.missingRuns k := by
  have hHolds : ∃ k, b.Holds k := ⟨k, hk⟩
  have hLeast : IsLeast {k | b.Holds k} (Nat.find hHolds) :=
    ⟨Nat.find_spec hHolds, fun _ hj => Nat.find_min' hHolds hj⟩
  exact Finset.card_pos.mpr ⟨_, hClean.first_mem hNext hLeast hk⟩

/-- A recovery ends the first of the missing runs. -/
theorem Recovers.missingRuns_lt (h : Recovers b frames b') (hClean : b.Clean)
    (hNext : ¬ b.Holds b.next) (hBelow : ∀ k, b.Holds k → k < u64Max) (hk : b.Holds k) :
    b'.missingRuns k < b.missingRuns k := by
  cases h with
  | @skip first b' frames hLeast hDrains =>
    have hFirst := hClean.first_mem hNext hLeast hk
    have hAhead := (mem_missingRunEnds.mp hFirst).1.1
    rw [max_eq_right hAhead.le] at hDrains
    have hSettled := hDrains.not_holds_next
    obtain ⟨hLe, hIff⟩ : first ≤ b'.next ∧ ∀ j, b'.next ≤ j → (b'.Holds j ↔ b.Holds j) :=
      hDrains.holds_iff hBelow
    have hPast : first < b'.next := by
      apply lt_of_le_of_ne hLe
      intro hEq
      apply hSettled
      rw [← hEq]
      exact (hIff first hEq.ge).mpr hLeast.1
    have hSubset : b'.missingRunEnds k ⊆ b.missingRunEnds k := by
      intro j hj
      obtain ⟨⟨hLt, hUpTo⟩, hHolds, hFree⟩ := mem_missingRunEnds.mp hj
      refine mem_missingRunEnds.mpr ⟨⟨by omega, hUpTo⟩, (hIff j hLt.le).mp hHolds, ?_⟩
      intro hBefore
      exact hFree ((hIff (j - 1) (Nat.le_sub_one_of_lt hLt)).mpr hBefore)
    apply Finset.card_lt_card
    refine (Finset.ssubset_iff_of_subset hSubset).mpr ⟨first, hFirst, ?_⟩
    intro hMem
    have hBehind := (mem_missingRunEnds.mp hMem).1.1
    omega
  | empty hEmpty => exact absurd hk (hEmpty k)

end Buffers

/-- The state of the head of the loop in a run whose frames are all admitted. -/
structure Settled (s : LoopState) : Prop where
  clean : s.buffers.Clean
  not_ready : ¬ s.buffers.Holds s.buffers.next
  holds_lt : ∀ k, s.buffers.Holds k → k < u64Max

/-- The head of the loop does not wait for a further frame: whatever the time is, a timer runs or
has run out, and the recovery that it leads to can be carried out. -/
def GoesOn (w : World) (s : LoopState) : Prop :=
  ∀ now, (s.nextAction now).1 ≠ .block ∧
    ∃ t ∈ [Turn.timeout now, .recover now], ∃ s', turnOk w s t = some s'

section Runs

variable {w : World} (hw : w.Succeeds) {turns recoveries : List Turn} {s s' : LoopState} {t : Turn}
  {waiting : ReceivedInputFrame}

theorem hasPendingInputGap_of_settled (hs : Settled s) (hWaits : s.buffers.Waits waiting) :
    hasPendingInputGap s.pendingUnreliableInput s.reliableInput = true := by
  unfold hasPendingInputGap
  cases hNext : nextPendingInputSequence s.pendingUnreliableInput s.reliableInput with
  | none => exact absurd hWaits.holds (nextPendingInputSequence_eq_none hNext _)
  | some k =>
    have hAhead : s.buffers.next < k :=
      hs.clean.next_lt hs.not_ready (isLeast_nextPendingInputSequence hNext).1
    exact decide_eq_true hAhead

/-- With a gap, the head of the loop waits for some time or recovers at once. -/
theorem nextAction_of_gap
    (hGap : hasPendingInputGap s.pendingUnreliableInput s.reliableInput = true) (now : Instant) :
    (∃ timeout s', s.nextAction now = (.wait timeout, s')) ∨
      ∃ s', s.nextAction now = (.recover, s') := by
  unfold LoopState.nextAction InputGapRecovery.nextAction
  rw [hGap, Bool.not_true, if_neg Bool.false_ne_true]
  dsimp only
  split_ifs
  · exact Or.inr ⟨_, rfl⟩
  · exact Or.inl ⟨_, _, rfl⟩

include hw

theorem goesOn_of_settled (hs : Settled s) (hWaits : s.buffers.Waits waiting) : GoesOn w s := by
  intro now
  have hEnds : ∀ t, (turn w s t).isSome = true → ∃ s', turnOk w s t = some s' := by
    intro t hSome
    obtain ⟨result, hTurn⟩ := Option.isSome_iff_exists.mp hSome
    obtain ⟨s', -, rfl, -⟩ := turn_ends hw hTurn
    exact ⟨s', by rw [turnOk, hTurn]⟩
  rcases nextAction_of_gap (hasPendingInputGap_of_settled hs hWaits) now with
    ⟨timeout, s₁, hWait⟩ | ⟨s₁, hRecover⟩
  · refine ⟨?_, .timeout now, List.mem_cons_self, hEnds _ ?_⟩
    · rw [hWait]
      intro h
      cases h
    · rw [turn, hWait]
      rfl
  · refine ⟨?_, .recover now, by simp, hEnds _ ?_⟩
    · rw [hRecover]
      intro h
      cases h
    · rw [turn, hRecover]
      rfl

/-- A recovery hands on a frame that waits, or leaves one missing run less in front of it. -/
theorem settled_of_recovery (hs : Settled s) (hRecovery : receivedFrames [t] = [])
    (hTurn : turnOk w s t = some s') :
    Settled s' ∧ (s.buffers.Waits waiting → HandledBetween s s' waiting ∨
      s'.buffers.Waits waiting ∧
        s'.buffers.missingRuns waiting.sequence < s.buffers.missingRuns waiting.sequence) := by
  obtain ⟨frames, hMoves, hHands⟩ := moves_of_turnOk hw hTurn
  have hRecovers : s.buffers.Recovers frames s'.buffers := by
    cases t with
    | receive now received => cases hRecovery
    | timeout now => exact hMoves
    | recover now => exact hMoves
  refine ⟨⟨hRecovers.clean_iff.mpr hs.clean, hRecovers.not_holds_next, fun k hk => ?_⟩,
    fun hWaits => ?_⟩
  · exact hs.holds_lt k (hRecovers.holds_of_holds hk)
  · rcases hRecovers.waits hWaits with hMem | hWaits'
    · exact Or.inl (hHands.handled waiting hMem)
    · have hLess := hRecovers.missingRuns_lt hs.clean hs.not_ready hs.holds_lt hWaits.holds
      exact Or.inr ⟨hWaits', hLess⟩

/-- The trace only grows. -/
theorem trace_suffix_of_turnOk (hTurn : turnOk w s t = some s') : s.trace <:+ s'.trace := by
  obtain ⟨_, -, hHands⟩ := moves_of_turnOk hw hTurn
  exact hHands.trace

theorem trace_suffix_of_run (hRun : run (turnOk w) s turns = some s') : s.trace <:+ s'.trace :=
  run_induction (I := fun s' => s.trace <:+ s'.trace)
    (fun _ _ _ hTrace hTurn => hTrace.trans (trace_suffix_of_turnOk hw hTurn)) List.suffix_rfl hRun

/-- Along recoveries a frame waits as long as there are missing runs in front of it. -/
theorem handled_or_waits_of_run (hs : Settled s) (hWaits : s.buffers.Waits waiting)
    (hRecoveries : receivedFrames recoveries = [])
    (hRun : run (turnOk w) s recoveries = some s') :
    HandledBetween s s' waiting ∨ Settled s' ∧ s'.buffers.Waits waiting ∧
      s'.buffers.missingRuns waiting.sequence + recoveries.length ≤
        s.buffers.missingRuns waiting.sequence := by
  induction recoveries generalizing s with
  | nil =>
    cases hRun
    exact Or.inr ⟨hs, hWaits, le_rfl⟩
  | cons t rest ih =>
    obtain ⟨s₁, hTurn, hRest⟩ := run_cons_eq_some.mp hRun
    rw [← List.singleton_append, receivedFrames_append, List.append_eq_nil_iff] at hRecoveries
    obtain ⟨hs₁, hStep⟩ := settled_of_recovery hw hs hRecoveries.1 hTurn
    rcases hStep hWaits with hHandled | ⟨hWaits₁, hLess⟩
    · exact Or.inl (hHandled.before (trace_suffix_of_run hw hRest))
    · rcases ih hs₁ hWaits₁ hRecoveries.2 hRest with hHandled | ⟨hs', hWaits', hLe⟩
      · exact Or.inl (hHandled.behind (trace_suffix_of_turnOk hw hTurn))
      · refine Or.inr ⟨hs', hWaits', ?_⟩
        rw [List.length_cons]
        omega

/-- If every frame is admitted, a frame that waits has a timer; and when no further frame arrives,
it is handed on by as many recoveries as there are missing runs in front of it. -/
theorem waiting_recovered (hBelow : BelowMax turns) (hReaches : Reaches w turns s)
    (hAdmitted : Along Admitted (turnOk w) .start turns) (hWaits : s.buffers.Waits waiting) :
    hasPendingInputGap s.pendingUnreliableInput s.reliableInput = true ∧ GoesOn w s ∧
    ∀ recoveries s', receivedFrames recoveries = [] → run (turnOk w) s recoveries = some s' →
      HandledBetween s s' waiting ∨ s'.buffers.Waits waiting ∧ GoesOn w s' ∧
        recoveries.length < s.buffers.missingRuns waiting.sequence := by
  obtain ⟨hClean, hReady⟩ := tidy_of_reaches hw hReaches hAdmitted
  have hs : Settled s := ⟨hClean, hReady, (ordered_of_reaches hBelow hReaches).holds_lt⟩
  refine ⟨hasPendingInputGap_of_settled hs hWaits, goesOn_of_settled hw hs hWaits, ?_⟩
  intro recoveries s' hRecoveries hRun
  refine (handled_or_waits_of_run hw hs hWaits hRecoveries hRun).imp_right ?_
  rintro ⟨hs', hWaits', hLe⟩
  have hPos := hs'.clean.missingRuns_pos hs'.not_ready hWaits'.holds
  exact ⟨hWaits', goesOn_of_settled hw hs' hWaits', by omega⟩

end Runs

/-- A move behind a missing number is handed on by one recovery. -/
theorem waiting_recovered_move : ∃ s s', Reaches .calm [.receive 0 (inputFrame 2 mouseMove)] s ∧
    run (turnOk .calm) s [.timeout 0] = some s' ∧
    HandledBetween s s' (inputFrame 2 mouseMove) := by
  obtain ⟨s, hReaches, hEnd⟩ := exists_reaches (w := .calm)
    (p := fun s => s.buffers.Waits (inputFrame 2 mouseMove) && s.buffers.missingRuns 2 = 1 &&
      (run (turnOk .calm) s [.timeout 0]).isSome)
    [.receive 0 (inputFrame 2 mouseMove)] (by decide)
  simp only [Bool.and_eq_true, decide_eq_true_eq] at hEnd
  obtain ⟨⟨hWaits, hRuns⟩, hSome⟩ := hEnd
  obtain ⟨s', hRun⟩ := Option.isSome_iff_exists.mp hSome
  have hAdmitted : Along Admitted (turnOk .calm) .start [.receive 0 (inputFrame 2 mouseMove)] :=
    ⟨fun hMem => absurd hMem (by decide), fun _ _ => trivial⟩
  refine ⟨s, s', hReaches, hRun, ?_⟩
  rcases (waiting_recovered World.calm_succeeds (by decide) hReaches hAdmitted hWaits).2.2
    [.timeout 0] s' rfl hRun with hHandled | ⟨-, -, hLess⟩
  · exact hHandled
  · have hLess' : 1 < s.buffers.missingRuns 2 := hLess
    omega

/-- A move is left behind when a key arrives from far ahead; the release of the key, in front of
which one number is missing, then waits without a timer. -/
theorem release_waits_without_timer : ∃ turns s, BelowMax turns ∧ Reaches .calm turns s ∧
    s.buffers.Waits (inputFrame 102 (keyC .released)) ∧ s.buffers.next < 102 ∧
    hasPendingInputGap s.pendingUnreliableInput s.reliableInput = false ∧
    ∀ now, (s.nextAction now).1 = .block := by
  obtain ⟨s, hReaches, hEnd⟩ := exists_reaches (w := .calm)
    (p := fun s => s.buffers.Waits (inputFrame 102 (keyC .released)) && s.buffers.next < 102 &&
      !hasPendingInputGap s.pendingUnreliableInput s.reliableInput)
    [.receive 0 (inputFrame 5 mouseMove), .receive 0 (inputFrame 100 (keyC .pressed)),
      .receive 0 (inputFrame 102 (keyC .released))] (by decide)
  simp only [Bool.and_eq_true, decide_eq_true_eq, Bool.not_eq_true'] at hEnd
  obtain ⟨⟨hWaits, hNext⟩, hGap⟩ := hEnd
  refine ⟨_, s, by decide, hReaches, hWaits, hNext, hGap, fun now => ?_⟩
  rw [LoopState.nextAction, InputGapRecovery.nextAction, hGap]
  rfl

end Kmsync
