import Kmsync.Receive.Supervision

/-! What is left of the listener when its direct loop is over: the relay, and the threads that the
main thread goes on to wait for. -/

namespace Kmsync

open ProofKit

namespace Listener

variable {w : World} {s s' : Listener}

/-- Nothing comes from the direct loop any more. -/
structure KeepsStopped (s s' : Listener) : Prop where
  isStopped : s'.loops .direct = .stopped
  received : fromOrigin .direct s'.received = fromOrigin .direct s.received
  queued : fromOrigin .direct s'.queued = fromOrigin .direct s.queued

namespace KeepsStopped

theorem refl (h : s.loops .direct = .stopped) : KeepsStopped s s := ⟨h, rfl, rfl⟩

theorem trans {s'' : Listener} (h : KeepsStopped s s') (h' : KeepsStopped s' s'') :
    KeepsStopped s s'' :=
  ⟨h'.isStopped, h'.received.trans h.received, h'.queued.trans h.queued⟩

theorem failLoop (h : s.loops .direct = .stopped) (error : String) :
    KeepsStopped s (s.failLoop .relay error) :=
  ⟨(setLoop_ne s (by decide) _).trans h, rfl, rfl⟩

theorem sendInput (h : s.loops .direct = .stopped) (received : ReceivedInputFrame) :
    KeepsStopped s (s.sendInput .relay received) := by
  have hOther (loop : ReceiveLoop) : (s.setLoop .relay loop).loops .direct = .stopped :=
    (setLoop_ne s (by decide) loop).trans h
  unfold Listener.sendInput
  split
  next => exact ⟨hOther .receiving, rfl, fromOrigin_snoc_ne (by decide) _ _⟩
  next => exact failLoop h _
  next => split <;> exact ⟨hOther _, rfl, rfl⟩

theorem receiveRemoteFrame (h : s.loops .direct = .stopped) (frame : ProtocolFrame)
    (receivedAt : Instant) (nowMicros : Except String UInt64) :
    KeepsStopped s (s.receiveRemoteFrame .relay frame receivedAt nowMicros) := by
  unfold Listener.receiveRemoteFrame
  split
  next =>
    split
    next => exact failLoop h _
    next =>
      have hReceived : KeepsStopped s
          { s with received := s.received ++ [(.relay, ⟨frame, receivedAt⟩)] } :=
        ⟨h, fromOrigin_snoc_ne (by decide) _ _, rfl⟩
      exact hReceived.trans (sendInput hReceived.isStopped _)
  next =>
    split
    next => exact ⟨h, rfl, rfl⟩
    next => exact refl h
    next => exact failLoop h _
  next => exact refl h
  next => exact refl h
  next =>
    split
    next => exact ⟨h, rfl, rfl⟩
    next => exact refl h
    next => exact failLoop h _

/-- A loop that takes a step is not over, so that it is the relay loop. -/
theorem origin_eq {origin : Origin} (h : s.loops .direct = .stopped)
    (hLoop : s.loops origin ≠ .stopped) : origin = .relay := by
  cases origin with
  | direct => exact absurd h hLoop
  | relay => rfl

theorem step (h : s.loops .direct = .stopped) {event : ListenerStep}
    (hStep : Listener.step w s event = some s') : KeepsStopped s s' := by
  cases event with
  | receive origin answer receivedAt nowMicros =>
    simp only [Listener.step] at hStep
    split at hStep
    next frame hLoop =>
      obtain rfl := origin_eq h (by rw [hLoop]; simp)
      cases hStep
      exact receiveRemoteFrame h frame receivedAt nowMicros
    next error hLoop =>
      obtain rfl := origin_eq h (by rw [hLoop]; simp)
      cases hStep
      exact failLoop h error
    next => cases hStep
    next => cases hStep
  | send origin =>
    rw [Listener.step] at hStep
    split at hStep
    next received hLoop =>
      obtain rfl := origin_eq h (by rw [hLoop]; simp)
      cases hStep
      exact sendInput h received
    next => cases hStep
    next => cases hStep
  | connectRelay =>
    rw [Listener.step] at hStep
    split at hStep
    next =>
      split at hStep
      next =>
        cases hStep
        exact ⟨(setLoop_ne s (by decide) _).trans h, rfl, rfl⟩
      next => cases hStep
    next => cases hStep
    next => cases hStep
  | inject t =>
    rw [Listener.step] at hStep
    split at hStep
    next loop hRunning =>
      obtain ⟨taken, hTake, hInjected⟩ := Option.bind_eq_some_iff.mp hStep
      obtain ⟨result, -, rfl⟩ := Option.map_eq_some_iff.mp hInjected
      have hTaken : KeepsStopped s taken := by
        rcases takeInput_eq_some hTake with ⟨now, first, items, -, -, rfl⟩ | ⟨-, rfl⟩
        · exact ⟨h, rfl, rfl⟩
        · exact refl h
      cases result <;> exact hTaken.trans ⟨hTaken.isStopped, rfl, rfl⟩
    next => cases hStep
  | closeInjection fuel =>
    rw [Listener.step] at hStep
    split at hStep
    next =>
      split at hStep
      next => cases hStep
      next =>
        obtain ⟨result, -, rfl⟩ := Option.map_eq_some_iff.mp hStep
        cases result <;> exact ⟨h, rfl, rfl⟩
    next => cases hStep
  | applyClipboard result =>
    rw [Listener.step] at hStep
    split at hStep
    next => cases result <;> cases hStep <;> exact ⟨h, rfl, rfl⟩
    next => cases hStep
  | closeClipboard | closeControl =>
    rw [Listener.step] at hStep
    split at hStep
    next =>
      split at hStep
      next => cases hStep
      next =>
        cases hStep
        exact ⟨h, rfl, rfl⟩
    next => cases hStep
  | handleControl | wait =>
    rw [Listener.step] at hStep
    split at hStep
    next =>
      cases hStep
      exact ⟨h, rfl, rfl⟩
    next => cases hStep

theorem of_run (h : s.loops .direct = .stopped) {more : List ListenerStep} {t : Listener}
    (hMore : run (Listener.step w) s more = some t) : KeepsStopped s t :=
  run_induction (fun _ _ _ h hStep => h.trans (step h.isStopped hStep)) (refl h) hMore

end KeepsStopped

end Listener

/-- What the main thread and the threads it waits for come to in a run, and what is received when
the direct loop is over. -/
structure Outlives (w : World) (s : Listener) : Prop where
  injection : s.returned = none → ∀ result, s.injection = .ended result →
    ∃ turns loop turn' loop' error, Reaches w turns loop ∧
      turn w loop turn' = some (.error error loop') ∧ result = .error error
  returned : ∀ result, s.returned = some result → ∃ error, result = .error error ∧
    (s.injection = .ended (.error error) ∨ s.clipboard = .ended (.error error))
  receiving : s.loops .direct = .stopped → ∀ more t, run (Listener.step w) s more = some t →
    s.KeepsStopped t

/-- In every run the listener returns only an error of the injecting thread or of the clipboard
thread.  Until then, the injecting thread does not end behind its loop, where it would release the
keys, but only by an error in a turn.  So the listener does not return when the direct loop is over,
which it is after whatever error of one connection; but then nothing that is sent directly is
received any more. -/
theorem listener_outlives_receiving (w : World) {hasRelay : Bool} {events : List ListenerStep}
    {s : Listener} (hRun : run (Listener.step w) (.start hasRelay) events = some s) :
    Outlives w s := by
  have hSupervised : s.Supervised w :=
    run_induction (fun _ _ _ h hStep => Listener.Supervised.step h hStep)
      (Listener.Supervised.start w hasRelay) hRun
  exact ⟨hSupervised.injection, hSupervised.returned, fun hStopped _ _ hMore =>
    Listener.KeepsStopped.of_run hStopped hMore⟩

/-- One connection sends bytes that no frame begins with; the stroke over the relay comes through.
-/
theorem listener_outlives_receiving_relay :
    ∃ s t, run (Listener.step .calm) (.start true)
        [.receive .direct (.error "invalid message kind") 0 (.ok 0), .wait] = some s ∧
      run (Listener.step .calm) s
        [.connectRelay, .receive .relay (.ok (inputFrame 0 (keyC .pressed)).frame) 0 (.ok 0),
          .inject (.receive 0 (inputFrame 0 (keyC .pressed)))] = some t ∧
      t.taken.length = 1 ∧ t.returned = none ∧ Outlives .calm s ∧ s.KeepsStopped t := by
  have hRuns : (run (Listener.step .calm) (.start true)
      [.receive .direct (.error "invalid message kind") 0 (.ok 0), .wait]).any (fun s =>
        (s.loops .direct).isStopped &&
          (run (Listener.step .calm) s
            [.connectRelay, .receive .relay (.ok (inputFrame 0 (keyC .pressed)).frame) 0 (.ok 0),
              .inject (.receive 0 (inputFrame 0 (keyC .pressed)))]).any fun t =>
            t.taken.length == 1 && t.returned.isNone) = true := by
    decide +kernel
  obtain ⟨s, hRun, hState⟩ := (Option.any_eq_true _ _).mp hRuns
  obtain ⟨hStopped, hState⟩ := (Bool.and_eq_true _ _).mp hState
  obtain ⟨t, hMore, hState⟩ := (Option.any_eq_true _ _).mp hState
  simp only [Bool.and_eq_true, beq_iff_eq, Option.isNone_iff_eq_none] at hState
  have hLoop : s.loops .direct = .stopped := by
    cases hDirect : s.loops .direct with
    | stopped => rfl
    | receiving | sending received =>
      rw [hDirect] at hStopped
      cases hStopped
  have hOutlives := listener_outlives_receiving .calm hRun
  exact ⟨s, t, hRun, hMore, hState.1, hState.2, hOutlives, hOutlives.receiving hLoop _ t hMore⟩

end Kmsync
