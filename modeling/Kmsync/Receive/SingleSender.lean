import Kmsync.Receive.Delivery
import Kmsync.Transmit.Counting

/-! A single sender, whose two lanes share one counter. -/

namespace Kmsync

open ProofKit

/-- The frames of the reliable lane. -/
def reliableFrames (sent : List ProtocolFrame) : List ProtocolFrame :=
  sent.filter fun frame => frame.payload.transportLane = .inputReliable

/-- The reliable lane delivers its frames once each and in order; the other one may lose, delay and
repeat its own. -/
structure Carries (sent : List ProtocolFrame) (turns : List Turn) : Prop where
  reliable : ((receivedFrames turns).filter (·.isReliable)).map (·.frame) <+: reliableFrames sent
  unreliable : ∀ received ∈ receivedFrames turns, received.isReliable = false →
    received.frame ∈ sent

/-- What a single sender and its lanes promise: the numbers of the reliable lane increase, and no
frame of the other lane carries one of them. -/
structure InOrder (turns : List Turn) : Prop where
  increasing : (receivedFrames turns).Pairwise fun earlier later =>
    earlier.isReliable = true → later.isReliable = true → earlier.sequence < later.sequence
  positive : ∀ n ∈ reliableNumbers turns, 1 ≤ n
  apart : ∀ received ∈ receivedFrames turns, received.isReliable = false →
    received.sequence ∉ reliableNumbers turns

/-- A turn that keeps what the gaps hide: a recovery does not pass a frame of the reliable lane that
is still to come, and a frame from beyond the window leaves nothing behind. -/
def KeepsGaps (s : LoopState) (t : Turn) (rest : List Turn) : Prop :=
  match t with
  | .receive _ received => received.isReliable = true →
      s.reliableInput.nextSequence + reliableInputReorderWindow < received.sequence →
        (∀ k, k ∉ s.reliableInput.pending) ∧ ∀ k ∈ s.pendingUnreliableInput, received.sequence < k
  | .timeout _ | .recover _ =>
      ∀ k, nextPendingInputSequence s.pendingUnreliableInput s.reliableInput = some k →
        ∀ n ∈ reliableNumbers rest, k ≤ n

section Sender

variable {sent : List ProtocolFrame} {turns : List Turn}

theorem Carries.mem_sent (h : Carries sent turns) {received : ReceivedInputFrame}
    (hMem : received ∈ receivedFrames turns) : received.frame ∈ sent := by
  cases hReliable : received.isReliable with
  | true =>
    have hMap := List.mem_map_of_mem (f := (·.frame)) (List.mem_filter.mpr ⟨hMem, hReliable⟩)
    exact (List.mem_filter.mp (h.reliable.mem hMap)).1
  | false => exact h.unreliable received hMem hReliable

theorem Carries.inOrder (h : Carries sent turns) (hNumbered : Numbered sent) : InOrder turns where
  increasing := by
    rw [← List.pairwise_filter]
    have hSent := hNumbered.pairwise.sublist
      (h.reliable.sublist.trans (List.filter_sublist (l := sent)))
    have hFrames := List.pairwise_map.mp hSent
    exact hFrames
  positive := by
    rintro n ⟨received, hMem, -, rfl⟩
    exact hNumbered.one_le (h.mem_sent hMem)
  apart := by
    rintro received hMem hUnreliable ⟨other, hOther, hReliable, hEq⟩
    have hSame := hNumbered.eq_of_sequence_eq (h.mem_sent hOther) (h.mem_sent hMem) hEq
    rw [ReceivedInputFrame.isReliable, hSame] at hReliable
    exact absurd hReliable (Bool.eq_false_iff.mp hUnreliable)

end Sender

section Order

variable {turns done rest : List Turn} {now : Instant} {received : ReceivedInputFrame} {n : ℕ}
  {s : LoopState}

theorem InOrder.fresh (h : InOrder turns) : Fresh turns where
  distinct := by
    refine h.increasing.imp_of_mem fun {earlier later} hEarlier hLater hLt hReliable => ?_
    cases hEarlierReliable : earlier.isReliable with
    | true => exact (hLt hEarlierReliable hReliable).ne
    | false =>
      intro hEq
      exact h.apart earlier hEarlier hEarlierReliable ⟨later, hLater, hReliable, hEq.symm⟩
  positive := h.positive

/-- What comes later on the reliable lane has a greater number. -/
theorem InOrder.lt_of_mem_rest (h : InOrder (done ++ .receive now received :: rest))
    (hReliable : received.isReliable = true) (hn : n ∈ reliableNumbers rest) :
    received.sequence < n := by
  obtain ⟨later, hLater, hLaterReliable, rfl⟩ := hn
  have hIncreasing := h.increasing
  rw [receivedFrames_append, List.pairwise_append] at hIncreasing
  exact (List.pairwise_cons.mp hIncreasing.2.1).1 later hLater hReliable hLaterReliable

/-- A frame of the unreliable lane carries no number that came on the other one. -/
theorem InOrder.not_mem_done (h : InOrder (done ++ .receive now received :: rest))
    (hUnreliable : received.isReliable = false) : received.sequence ∉ reliableNumbers done := by
  have hMem : received ∈ receivedFrames (done ++ .receive now received :: rest) := by
    rw [receivedFrames_append]
    exact List.mem_append_right _ List.mem_cons_self
  have hApart := h.apart received hMem hUnreliable
  rw [mem_reliableNumbers_append] at hApart
  exact fun hn => hApart (Or.inl hn)

/-- In order, a turn that keeps the gaps loses nothing. -/
theorem KeepsGaps.lossless {t : Turn} (hInOrder : InOrder (done ++ t :: rest))
    (hWaiting : ∀ k ∈ s.reliableInput.pending, k ∈ reliableNumbers done)
    (h : KeepsGaps s t rest) : Lossless s t rest := by
  cases t with
  | receive now received =>
    refine ⟨fun hReliable hFar => ?_, fun hUnreliable hHolds => ?_⟩
    · obtain ⟨hEmpty, hBeyond⟩ := h hReliable hFar
      exact ⟨hEmpty, hBeyond, fun n hn => hInOrder.lt_of_mem_rest hReliable hn⟩
    · exact hInOrder.not_mem_done hUnreliable (hWaiting _ hHolds)
  | timeout now => exact h
  | recover now => exact h

/-- Only numbers that came on the reliable lane wait there. -/
theorem waiting_of_turnOk {w : World} (hw : w.Succeeds) {s' : LoopState} {t : Turn}
    (hTurn : turnOk w s t = some s')
    (hWaiting : ∀ k ∈ s.reliableInput.pending, k ∈ reliableNumbers done) :
    ∀ k ∈ s'.reliableInput.pending, k ∈ reliableNumbers (done ++ [t]) := by
  obtain ⟨frames, hMoves, -⟩ := moves_of_turnOk hw hTurn
  have hDone : ∀ k ∈ s.buffers.reliable, k ∈ reliableNumbers (done ++ [t]) :=
    fun k hk => (mem_reliableNumbers_append done [t]).mpr (Or.inl (hWaiting k hk))
  cases t with
  | receive now received =>
    refine Buffers.Receives.forall_reliable hMoves hDone fun hReliable => ?_
    exact (mem_reliableNumbers_append done _).mpr
      (Or.inr (mem_reliableNumbers_receive now [] hReliable))
  | timeout now => exact Buffers.Recovers.forall_reliable hMoves hDone
  | recover now => exact Buffers.Recovers.forall_reliable hMoves hDone

theorem lossless_of_keepsGaps {w : World} (hw : w.Succeeds) (hInOrder : InOrder (done ++ rest))
    (hWaiting : ∀ k ∈ s.reliableInput.pending, k ∈ reliableNumbers done)
    (h : Along KeepsGaps (turnOk w) s rest) : Along Lossless (turnOk w) s rest := by
  induction rest generalizing done s with
  | nil => trivial
  | cons t rest ih =>
    refine ⟨h.1.lossless hInOrder hWaiting, fun s' hTurn => ?_⟩
    rw [List.append_cons] at hInOrder
    exact ih hInOrder (waiting_of_turnOk hw hTurn hWaiting) (h.2 s' hTurn)

end Order

/-- Every frame of the reliable lane is injected by the end of the drain, if the gaps are kept. -/
theorem reliable_delivered {w : World} (hw : w.Succeeds) (sent : List ProtocolFrame)
    (hNumbered : Numbered sent) {turns : List Turn} (hCarries : Carries sent turns) {s : LoopState}
    (hReaches : Reaches w turns s) (hGaps : Along KeepsGaps (turnOk w) .start turns) :
    ∃ fuel s', finish w fuel s = some (.ok () s') ∧
      ∀ received ∈ receivedFrames turns, received.isReliable = true →
        Injected s'.trace received := by
  have hInOrder := hCarries.inOrder hNumbered
  refine exists_finish_injected hw hInOrder.fresh hReaches ?_
  exact lossless_of_keepsGaps hw (show InOrder ([] ++ turns) from hInOrder)
    (fun k hk => absurd hk KeyedMap.not_mem_empty) hGaps

/-- The move between a press and a release is lost, and the gap it leaves is given up after
20 ms. -/
theorem reliable_delivered_lostMove :
    ∃ fuel s', (run (turnOk .calm) .start [.receive 0 (inputFrame 1 (keyC .pressed)),
        .receive 0 (inputFrame 3 (keyC .released)), .timeout 0]).bind (finish .calm fuel) =
          some (.ok () s') ∧
      Injected s'.trace (inputFrame 3 (keyC .released)) := by
  obtain ⟨s, hReaches, -⟩ := exists_reaches (w := .calm) (p := fun _ => true)
    [.receive 0 (inputFrame 1 (keyC .pressed)), .receive 0 (inputFrame 3 (keyC .released)),
      .timeout 0] (by decide +kernel)
  obtain ⟨fuel, s', hFinish, hInjected⟩ := reliable_delivered World.calm_succeeds
    [(inputFrame 1 (keyC .pressed)).frame, (inputFrame 2 mouseMove).frame,
      (inputFrame 3 (keyC .released)).frame] (by decide)
    ⟨by decide, by decide⟩ hReaches (by
      refine ⟨fun _ h => absurd h (by decide), fun s hs => ⟨?_, fun _ _ => ⟨?_, fun _ _ => trivial⟩⟩⟩
      · obtain rfl := Option.some.inj hs
        exact fun _ h => absurd h (by decide)
      · rintro _ _ _ ⟨_, hMem, _⟩
        cases hMem)
  exact ⟨fuel, s', by rw [hReaches]; exact hFinish, hInjected _ (by decide) (by decide)⟩

/-- A move overtakes the release of a key.  The gap in front of it is given up after 20 ms, and when
the release arrives its number has been passed. -/
theorem release_dropped :
    ∃ sent turns s s', Numbered sent ∧ Carries sent turns ∧ Reaches .calm turns s ∧
      finish .calm 1 s = some (.ok () s') ∧
      inputFrame 2 (keyC .released) ∈ receivedFrames turns ∧
      ¬ Injected s'.trace (inputFrame 2 (keyC .released)) := by
  obtain ⟨s, hReaches, hEnd⟩ := exists_reaches (w := .calm) (p := endsWithout 2 (keyC .released))
    [.receive 0 (inputFrame 1 (keyC .pressed)), .receive 0 (inputFrame 3 mouseMove),
      .timeout 0, .receive 0 (inputFrame 2 (keyC .released))] (by decide +kernel)
  obtain ⟨s', hFinish, hMissed⟩ := not_injected_of_endsWithout hEnd
  exact ⟨[(inputFrame 1 (keyC .pressed)).frame, (inputFrame 2 (keyC .released)).frame,
    (inputFrame 3 mouseMove).frame], _, s, s', by decide, ⟨by decide, by decide⟩, hReaches,
    hFinish, by decide, hMissed⟩

end Kmsync
