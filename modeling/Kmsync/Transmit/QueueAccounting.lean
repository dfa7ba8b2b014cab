import Kmsync.Transmit.QueueStats

/-! The depth of the capture queue under every interleaving of the two threads.  A place is counted
from its reservation until its event is counted out, wherever the event is meanwhile. -/

namespace Kmsync.QueueStats

open ProofKit

section Counting

variable {φ : Type}

/-- The calls that have reserved, and have neither put their event in the channel nor undone it. -/
def SendPhase.reservations : SendPhase φ → ℕ
  | .reserved _ | .sending _ _ | .refused _ _ | .failed _ => 1
  | .idle | .sent | .canceled _ => 0

/-- The calls that are in progress. -/
def SendPhase.calling : SendPhase φ → ℕ
  | .idle => 0
  | _ => 1

/-- The events that are taken from the channel and not yet counted out. -/
def ReceivePhase.uncounted : ReceivePhase φ → ℕ
  | .received _ | .receivedNext _ _ => 1
  | .idle | .looking | .taken _ | .merging _ | .gone => 0

/-- What holds between any two steps.  What a disconnection drops stays counted; that is what is
lost. -/
structure Sound (lost : ℕ) (s : QueueState φ) : Prop where
  depth : s.stats.currentDepth =
    s.channel.items.length + s.sender.reservations + s.receiver.uncounted + lost
  lost_eq_zero : s.channel.receiving = true → lost = 0
  total : s.stats.enqueued + s.stats.droppedFull + s.stats.droppedDisconnected + s.sender.calling =
    s.calls
  depth_le : s.stats.currentDepth ≤ s.calls

variable {capacity lost : ℕ} {s s' : QueueState φ}

theorem sound_start : Sound 0 (.start capacity : QueueState φ) where
  depth := rfl
  lost_eq_zero _ := rfl
  total := rfl
  depth_le := le_rfl

/-- The capturing thread goes on, and its call counts as before. -/
theorem Sound.withSender (h : Sound lost s) {sender : SendPhase φ}
    (hReservations : sender.reservations = s.sender.reservations)
    (hCalling : sender.calling = s.sender.calling) : Sound lost { s with sender } where
  depth := by rw [h.depth, hReservations]
  lost_eq_zero := h.lost_eq_zero
  total := by rw [← h.total, hCalling]
  depth_le := h.depth_le

/-- The sending thread goes on, and has as many events that are not counted out. -/
theorem Sound.withReceiver (h : Sound lost s) {receiver : ReceivePhase φ}
    (hUncounted : receiver.uncounted = s.receiver.uncounted)
    (pending : Option (QueuedCapture φ)) : Sound lost { s with receiver, pending } where
  depth := by rw [h.depth, hUncounted]
  lost_eq_zero := h.lost_eq_zero
  total := h.total
  depth_le := h.depth_le

theorem sound_send {label : SendLabel φ} (h : Sound lost s)
    (hStep : sendStep s label = some s') : Sound lost s' := by
  have hDepth := h.depth
  have hTotal := h.total
  have hLe := h.depth_le
  unfold sendStep at hStep
  split at hStep
  next hSender =>
    obtain rfl := Option.some.inj hStep
    simp only [hSender, SendPhase.reservations, SendPhase.calling] at hDepth hTotal
    refine ⟨?_, h.lost_eq_zero, ?_, Nat.add_le_add_right hLe 1⟩
    · show s.stats.currentDepth + 1 = s.channel.items.length + 1 + s.receiver.uncounted + lost
      omega
    · show s.stats.enqueued + s.stats.droppedFull + s.stats.droppedDisconnected + 1 = s.calls + 1
      omega
  next hSender =>
    obtain rfl := Option.some.inj hStep
    exact h.withSender (by rw [hSender]; rfl) (by rw [hSender]; rfl)
  next event deadline hSender =>
    split at hStep
    next channel hSend =>
      obtain rfl := Option.some.inj hStep
      obtain ⟨rfl, -, -⟩ := BoundedChannel.trySend_eq_ok hSend
      simp only [hSender, SendPhase.reservations, SendPhase.calling] at hDepth hTotal
      refine ⟨?_, h.lost_eq_zero, hTotal, hLe⟩
      show s.stats.currentDepth =
        (s.channel.items ++ [event]).length + 0 + s.receiver.uncounted + lost
      rw [List.length_append, List.length_singleton]
      omega
    all_goals
      obtain rfl := Option.some.inj hStep
      exact h.withSender (by rw [hSender]; rfl) (by rw [hSender]; rfl)
  next hSender =>
    split at hStep
    all_goals
      obtain rfl := Option.some.inj hStep
      exact h.withSender (by rw [hSender]; rfl) (by rw [hSender]; rfl)
  next hSender =>
    obtain rfl := Option.some.inj hStep
    simp only [hSender, SendPhase.reservations, SendPhase.calling] at hDepth hTotal
    refine ⟨hDepth, h.lost_eq_zero, ?_, hLe⟩
    show s.stats.enqueued + 1 + s.stats.droppedFull + s.stats.droppedDisconnected + 0 = s.calls
    omega
  next hSender =>
    obtain rfl := Option.some.inj hStep
    simp only [hSender, SendPhase.reservations, SendPhase.calling] at hDepth hTotal
    refine ⟨?_, h.lost_eq_zero, hTotal, (Nat.sub_le _ 1).trans hLe⟩
    show s.stats.currentDepth - 1 = s.channel.items.length + 0 + s.receiver.uncounted + lost
    omega
  next error hSender =>
    obtain rfl := Option.some.inj hStep
    simp only [hSender, SendPhase.reservations, SendPhase.calling] at hDepth hTotal
    cases error with
    | full =>
      refine ⟨hDepth, h.lost_eq_zero, ?_, hLe⟩
      show s.stats.enqueued + (s.stats.droppedFull + 1) + s.stats.droppedDisconnected + 0 = s.calls
      omega
    | disconnected =>
      refine ⟨hDepth, h.lost_eq_zero, ?_, hLe⟩
      show s.stats.enqueued + s.stats.droppedFull + (s.stats.droppedDisconnected + 1) + 0 = s.calls
      omega
  next => cases hStep

variable [Add φ]

/-- Only a disconnection loses anything. -/
theorem sound_receive {label : ReceiveLabel} (h : Sound lost s)
    (hStep : receiveStep s label = some s') : ∃ lost', Sound lost' s' := by
  have hDepth := h.depth
  have hLe := h.depth_le
  unfold receiveStep at hStep
  split at hStep
  next => cases hStep
  next =>
    obtain rfl := Option.some.inj hStep
    refine ⟨s.channel.items.length + s.receiver.uncounted + lost, ?_, nofun, h.total, hLe⟩
    show s.stats.currentDepth =
      0 + s.sender.reservations + 0 + (s.channel.items.length + s.receiver.uncounted + lost)
    omega
  all_goals refine ⟨lost, ?_⟩
  next hReceiver =>
    obtain rfl := Option.some.inj hStep
    exact h.withReceiver (by rw [hReceiver]; rfl) _
  next hReceiver =>
    split at hStep
    next =>
      obtain rfl := Option.some.inj hStep
      exact h.withReceiver (by rw [hReceiver]; rfl) _
    next event items hPending hItems =>
      obtain rfl := Option.some.inj hStep
      simp only [hReceiver, hItems, List.length_cons, ReceivePhase.uncounted] at hDepth
      refine ⟨?_, h.lost_eq_zero, h.total, hLe⟩
      show s.stats.currentDepth = items.length + s.sender.reservations + 1 + lost
      omega
    next => cases hStep
  next hReceiver =>
    obtain rfl := Option.some.inj hStep
    simp only [hReceiver, ReceivePhase.uncounted] at hDepth
    refine ⟨?_, h.lost_eq_zero, h.total, (Nat.sub_le _ 1).trans hLe⟩
    show s.stats.currentDepth - 1 = s.channel.items.length + s.sender.reservations + 0 + lost
    omega
  next hReceiver =>
    split at hStep
    next =>
      obtain rfl := Option.some.inj hStep
      exact h.withReceiver (by rw [hReceiver]; rfl) _
    next =>
      split at hStep
      all_goals
        obtain rfl := Option.some.inj hStep
        exact h.withReceiver (by rw [hReceiver]; rfl) _
  next hReceiver =>
    split at hStep
    next next items hItems =>
      obtain rfl := Option.some.inj hStep
      simp only [hReceiver, hItems, List.length_cons, ReceivePhase.uncounted] at hDepth
      refine ⟨?_, h.lost_eq_zero, h.total, hLe⟩
      show s.stats.currentDepth = items.length + s.sender.reservations + 1 + lost
      omega
    next =>
      obtain rfl := Option.some.inj hStep
      exact h.withReceiver (by rw [hReceiver]; rfl) _
  next hReceiver =>
    simp only [hReceiver, ReceivePhase.uncounted] at hDepth
    split at hStep
    all_goals
      obtain rfl := Option.some.inj hStep
      refine ⟨?_, h.lost_eq_zero, h.total, (Nat.sub_le _ 1).trans hLe⟩
      show s.stats.currentDepth - 1 = s.channel.items.length + s.sender.reservations + 0 + lost
      omega
  next => cases hStep

theorem sound_step {label : QueueLabel φ} (h : Sound lost s)
    (hStep : step s label = some s') : ∃ lost', Sound lost' s' := by
  cases label with
  | send label => exact ⟨lost, sound_send h hStep⟩
  | receive label => exact sound_receive h hStep

/-- The step records that an event left the queue: after a failure, or after it was taken. -/
def QueueLabel.Dequeues (label : QueueLabel φ) : Prop :=
  label = .send .cancel ∨ label = .receive .countOut

theorem pos_of_dequeues {label : QueueLabel φ} (h : Sound lost s) (hLabel : label.Dequeues)
    (hStep : step s label = some s') : 0 < s.stats.currentDepth := by
  have hDepth := h.depth
  rcases hLabel with rfl | rfl
  · cases hSender : s.sender with
    | failed error =>
      rw [hSender, SendPhase.reservations] at hDepth
      omega
    | _ => simp [step, sendStep, hSender] at hStep
  · cases hReceiver : s.receiver with
    | received | receivedNext =>
      rw [hReceiver, ReceivePhase.uncounted] at hDepth
      omega
    | _ => simp [step, receiveStep, hReceiver] at hStep

/-- What is asked of every state.  The counters stay below the number of calls. -/
structure Accounted (s : QueueState φ) : Prop where
  depth : s.channel.receiving = true →
    s.stats.currentDepth = s.channel.items.length + s.sender.reservations + s.receiver.uncounted
  dequeued : ∀ label s', step s label = some s' → label.Dequeues →
    s.stats.currentDepth ≠ 0
  total : s.sender = .idle →
    s.stats.enqueued + s.stats.droppedFull + s.stats.droppedDisconnected = s.calls
  fits : s.stats.currentDepth ≤ s.calls ∧
    s.stats.enqueued + s.stats.droppedFull + s.stats.droppedDisconnected ≤ s.calls

/-- However the steps of the two threads fall, and whenever the receiver is dropped, the counters
are right between any two steps. -/
theorem queue_accounted {labels : List (QueueLabel φ)}
    (hRun : run step (.start capacity) labels = some s) : Accounted s := by
  obtain ⟨lost, hSound⟩ : ∃ lost, Sound lost s :=
    run_induction (I := fun s => ∃ lost, Sound lost s)
      (fun _ _ _ ⟨_, hSound⟩ hStep => sound_step hSound hStep) ⟨0, sound_start⟩ hRun
  refine ⟨fun hConnected => ?_, fun label s' hStep hLabel => ?_, fun hIdle => ?_, hSound.depth_le, ?_⟩
  · rw [hSound.depth, hSound.lost_eq_zero hConnected, Nat.add_zero]
  · exact (pos_of_dequeues hSound hLabel hStep).ne'
  · have hTotal := hSound.total
    rwa [hIdle] at hTotal
  · rw [← hSound.total]
    exact Nat.le_add_right _ _

/-- A queue with one place: the event is taken before it is committed, one is refused after its
grace, and after the receiver is dropped one more is lost. -/
def interleaved : List (QueueLabel ℤ) :=
  let key : TargetedQueuedInputEvent ℤ := ⟨"b", .macToWindows, .key ⟨.a, .pressed, .none⟩⟩
  let offer : List (QueueLabel ℤ) := [.send (.reserve key), .send (.prepare 0 0), .send .trySend]
  offer ++ [.receive .call, .receive .recv, .send .commit, .receive .countOut] ++
    offer ++ [.send .commit] ++
    offer ++ [.send (.lookAtDeadline 25_000_000), .receive (.judge 0), .send .cancel,
      .send .countDrop] ++
    [.receive .disconnect] ++ offer ++ [.send .cancel, .send .countDrop]

theorem queue_accounted_interleaved :
    ∃ s, run step (.start 1) interleaved = some s ∧ s.stats = ⟨1, 2, 1, 1⟩ ∧ Accounted s := by
  have hStats : (run step (.start 1) interleaved).map (·.stats) = some ⟨1, 2, 1, 1⟩ := by
    decide +kernel
  obtain ⟨s, hRun, hEq⟩ := Option.map_eq_some_iff.mp hStats
  exact ⟨s, hRun, hEq, queue_accounted hRun⟩

end Counting

end Kmsync.QueueStats
