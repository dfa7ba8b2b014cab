import Kmsync.Receive.Feeding

/-! What the main thread of the listener gets from its threads, in any order of their steps.  While
it waits no working thread ends but by an error, since it holds a sender of each of their channels.
-/

namespace Kmsync

open ProofKit

/-- A result that a thread sends while the main thread waits. -/
def Listener.Sends (s : Listener) : ListenerThreadResult → Prop
  | .receive _ => True
  | .injection result => ∃ error, result = .error error ∧ s.injection = .ended (.error error)
  | .clipboard result => ∃ error, result = .error error ∧ s.clipboard = .ended (.error error)
  | .control _ => False

/-- The main thread has no result of a working thread, and those that are on the way are errors;
what it returns is one of them. -/
structure Listener.Supervised (w : World) (s : Listener) : Prop where
  fed : s.Fed w
  results : s.returned = none →
    s.results.injection = none ∧ s.results.clipboard = none ∧ s.results.control = none
  sent : s.returned = none → ∀ result ∈ s.resultRx, s.Sends result
  injection : s.returned = none → ∀ result, s.injection = .ended result →
    ∃ turns loop t loop' error, Reaches w turns loop ∧ turn w loop t = some (.error error loop') ∧
      result = .error error
  returned : ∀ result, s.returned = some result → ∃ error, result = .error error ∧
    (s.injection = .ended (.error error) ∨ s.clipboard = .ended (.error error))

namespace Listener

variable {w : World} {s s' : Listener}

theorem hasSenders_of_waiting (h : s.returned = none) : s.hasSenders = true := by
  rw [hasSenders, h]
  rfl

/-- What a step of a receiving loop leaves alone. -/
structure KeepsWorkers (s s' : Listener) : Prop where
  injection : s'.injection = s.injection
  clipboard : s'.clipboard = s.clipboard
  results : s'.results = s.results
  returned : s'.returned = s.returned
  resultRx : s'.resultRx = s.resultRx ∨ ∃ result, s'.resultRx = s.resultRx ++ [.receive result]

theorem KeepsWorkers.refl (s : Listener) : KeepsWorkers s s := ⟨rfl, rfl, rfl, rfl, Or.inl rfl⟩

theorem keepsWorkers_failLoop (s : Listener) (origin : Origin) (error : String) :
    KeepsWorkers s (s.failLoop origin error) := by
  cases origin with
  | direct => exact ⟨rfl, rfl, rfl, rfl, Or.inr ⟨_, rfl⟩⟩
  | relay => exact ⟨rfl, rfl, rfl, rfl, Or.inl rfl⟩

theorem keepsWorkers_sendInput (s : Listener) (origin : Origin) (received : ReceivedInputFrame) :
    KeepsWorkers s (s.sendInput origin received) := by
  unfold sendInput
  split
  next => exact ⟨rfl, rfl, rfl, rfl, Or.inl rfl⟩
  next => exact keepsWorkers_failLoop s origin _
  next => split <;> exact ⟨rfl, rfl, rfl, rfl, Or.inl rfl⟩

theorem keepsWorkers_receiveRemoteFrame (s : Listener) (origin : Origin) (frame : ProtocolFrame)
    (receivedAt : Instant) (nowMicros : Except String UInt64) :
    KeepsWorkers s (s.receiveRemoteFrame origin frame receivedAt nowMicros) := by
  unfold receiveRemoteFrame
  split
  next =>
    split
    next => exact keepsWorkers_failLoop s origin _
    next =>
      have h := keepsWorkers_sendInput
        { s with received := s.received ++ [(origin, ⟨frame, receivedAt⟩)] } origin
        ⟨frame, receivedAt⟩
      exact ⟨h.injection, h.clipboard, h.results, h.returned, h.resultRx⟩
  next =>
    split
    next => exact ⟨rfl, rfl, rfl, rfl, Or.inl rfl⟩
    next => exact .refl s
    next => exact keepsWorkers_failLoop s origin _
  next => exact .refl s
  next => exact .refl s
  next =>
    split
    next => exact ⟨rfl, rfl, rfl, rfl, Or.inl rfl⟩
    next => exact .refl s
    next => exact keepsWorkers_failLoop s origin _

theorem keepsWorkers_takeInput {t : Turn} (h : s.takeInput t = some s') :
    s'.clipboard = s.clipboard ∧ s'.results = s.results ∧ s'.returned = s.returned ∧
      s'.resultRx = s.resultRx := by
  rcases takeInput_eq_some h with ⟨now, first, items, -, -, rfl⟩ | ⟨-, rfl⟩
  · exact ⟨rfl, rfl, rfl, rfl⟩
  · exact ⟨rfl, rfl, rfl, rfl⟩

namespace Supervised

theorem keepsWorkers (h : Supervised w s) (hFed : Fed w s') (hKeeps : KeepsWorkers s s') :
    Supervised w s' where
  fed := hFed
  results := by
    rw [hKeeps.returned, hKeeps.results]
    exact h.results
  sent := by
    rw [hKeeps.returned]
    intro hWaits result hMem
    have hSends : s.Sends result → s'.Sends result := by
      cases result <;> simp [Sends, hKeeps.injection, hKeeps.clipboard]
    rcases hKeeps.resultRx with hSame | ⟨result', hMore⟩
    · exact hSends (h.sent hWaits result (hSame ▸ hMem))
    · rw [hMore] at hMem
      rcases List.mem_append.mp hMem with hMem | hMem
      · exact hSends (h.sent hWaits result hMem)
      · rw [List.mem_singleton.mp hMem]
        trivial
  injection := by
    rw [hKeeps.returned, hKeeps.injection]
    exact h.injection
  returned := by
    rw [hKeeps.returned, hKeeps.injection, hKeeps.clipboard]
    exact h.returned

/-- The injecting thread goes on, or ends in an error, also behind the end of the listener. -/
theorem setInjection (h : Supervised w s) {loop : LoopState} (hRunning : s.injection = .running loop)
    (hFed : Fed w s') (hClipboard : s'.clipboard = s.clipboard) (hResults : s'.results = s.results)
    (hReturned : s'.returned = s.returned)
    (hEnds : s.returned = none → (∃ loop', s'.injection = .running loop' ∧ s'.resultRx = s.resultRx) ∨
      ∃ error, s'.injection = .ended (.error error) ∧
        s'.resultRx = s.resultRx ++ [.injection (.error error)] ∧
        ∃ turns t loop', Reaches w turns loop ∧ turn w loop t = some (.error error loop')) :
    Supervised w s' where
  fed := hFed
  results := by
    rw [hReturned, hResults]
    exact h.results
  sent := by
    rw [hReturned]
    intro hWaits result hMem
    -- No result of the thread was on the way while it was running.
    have hOld : result ∈ s.resultRx → s'.Sends result := by
      intro hMem
      have hSends := h.sent hWaits result hMem
      cases result with
      | receive result => trivial
      | injection result =>
        obtain ⟨error, -, hEnded⟩ := hSends
        rw [hRunning] at hEnded
        cases hEnded
      | clipboard result =>
        rw [Sends, hClipboard]
        exact hSends
      | control result => exact hSends
    rcases hEnds hWaits with ⟨loop', -, hSame⟩ | ⟨error, hEnded, hMore, -⟩
    · exact hOld (hSame ▸ hMem)
    · rw [hMore] at hMem
      rcases List.mem_append.mp hMem with hMem | hMem
      · exact hOld hMem
      · rw [List.mem_singleton.mp hMem]
        exact ⟨error, rfl, hEnded⟩
  injection := by
    rw [hReturned]
    intro hWaits result hResult
    rcases hEnds hWaits with ⟨loop', hGoesOn, -⟩ | ⟨error, hEnded, -, turns, t, loop', hReaches, hTurn⟩
    · rw [hGoesOn] at hResult
      cases hResult
    · rw [hEnded] at hResult
      cases hResult
      exact ⟨turns, loop, t, loop', error, hReaches, hTurn, rfl⟩
  returned := by
    rw [hReturned, hClipboard]
    intro result hResult
    obtain ⟨error, hError, hInjection | hClipboard'⟩ := h.returned result hResult
    · rw [hRunning] at hInjection
      cases hInjection
    · exact ⟨error, hError, Or.inr hClipboard'⟩

/-- The clipboard thread ends in an error, or behind the end of the listener. -/
theorem endClipboard (h : Supervised w s) (hRunning : s.clipboard = .running ())
    {result : Except String Unit} (hResult : s.returned = none → ∃ error, result = .error error) :
    Supervised w (s.endClipboard result) where
  fed := ⟨h.fed.capacity, h.fed.room, h.fed.running, h.fed.fifo, h.fed.order, h.fed.complete⟩
  results := h.results
  sent := by
    intro hWaits result' hMem
    rcases List.mem_append.mp hMem with hMem | hMem
    · have hSends := h.sent hWaits result' hMem
      cases result' with
      | receive result' => trivial
      | injection result' => exact hSends
      | clipboard result' =>
        obtain ⟨error, -, hEnded⟩ := hSends
        rw [hRunning] at hEnded
        cases hEnded
      | control result' => exact hSends
    · obtain ⟨error, rfl⟩ := hResult hWaits
      rw [List.mem_singleton.mp hMem]
      exact ⟨error, rfl, rfl⟩
  injection := h.injection
  returned := by
    intro result' hReturned
    obtain ⟨error, hError, hInjection | hClipboard⟩ := h.returned result' hReturned
    · exact ⟨error, hError, Or.inl hInjection⟩
    · rw [hRunning] at hClipboard
      cases hClipboard

/-- The main thread returns the error of a working thread. -/
theorem returns (h : Fed w s) {error : String}
    (hEnded : s.injection = .ended (.error error) ∨ s.clipboard = .ended (.error error))
    (resultRx : List ListenerThreadResult) (results : ListenerResults) :
    Supervised w { s with resultRx, results, returned := some (.error error) } where
  fed := ⟨h.capacity, h.room, h.running, h.fifo, h.order, h.complete⟩
  results hNone := by cases hNone
  sent hNone := by cases hNone
  injection hNone := by cases hNone
  returned result hResult := by
    cases hResult
    exact ⟨error, rfl, hEnded⟩

/-- The main thread takes a result, and returns it unless it comes from the receiving. -/
theorem wait (h : Supervised w s) (hWaits : s.returned = none) {result : ListenerThreadResult}
    {resultRx : List ListenerThreadResult} (hRx : s.resultRx = result :: resultRx) :
    Supervised w { s with
      resultRx, results := (s.results.wait result).1, returned := (s.results.wait result).2 } := by
  have hFed := h.fed
  have hSends := h.sent hWaits result (by rw [hRx]; exact List.mem_cons_self)
  cases result with
  | receive result =>
    obtain ⟨hInjection, hClipboard, hControl⟩ := h.results hWaits
    have hCombined : (s.results.wait (.receive result)).2 = none := by
      simp [ListenerResults.wait, ListenerResults.combined, hInjection]
    rw [hCombined]
    exact {
      fed := ⟨hFed.capacity, hFed.room, hFed.running, hFed.fifo, hFed.order, hFed.complete⟩
      results := fun _ => ⟨hInjection, hClipboard, hControl⟩
      sent := fun _ result' hMem => h.sent hWaits result' (hRx ▸ List.mem_cons_of_mem _ hMem)
      injection := fun _ => h.injection hWaits
      returned := fun _ hNone => by cases hNone }
  | injection result =>
    obtain ⟨error, rfl, hEnded⟩ := hSends
    exact returns hFed (Or.inl hEnded) _ _
  | clipboard result =>
    obtain ⟨error, rfl, hEnded⟩ := hSends
    exact returns hFed (Or.inr hEnded) _ _
  | control result => exact absurd hSends id

theorem step (h : Supervised w s) {event : ListenerStep}
    (hStep : Listener.step w s event = some s') : Supervised w s' := by
  have hFed := h.fed.step hStep
  cases event with
  | receive origin answer receivedAt nowMicros =>
    simp only [Listener.step] at hStep
    split at hStep
    next frame hLoop =>
      cases hStep
      exact h.keepsWorkers hFed (keepsWorkers_receiveRemoteFrame s origin frame receivedAt nowMicros)
    next error hLoop =>
      cases hStep
      exact h.keepsWorkers hFed (keepsWorkers_failLoop s origin error)
    next => cases hStep
    next => cases hStep
  | send origin =>
    rw [Listener.step] at hStep
    split at hStep
    next received hLoop =>
      cases hStep
      exact h.keepsWorkers hFed (keepsWorkers_sendInput s origin received)
    next => cases hStep
    next => cases hStep
  | connectRelay =>
    rw [Listener.step] at hStep
    split at hStep
    next =>
      split at hStep
      next =>
        cases hStep
        exact h.keepsWorkers hFed ⟨rfl, rfl, rfl, rfl, Or.inl rfl⟩
      next => cases hStep
    next => cases hStep
    next => cases hStep
  | inject t =>
    rw [Listener.step] at hStep
    split at hStep
    next loop hRunning =>
      obtain ⟨taken, hTake, hInjected⟩ := Option.bind_eq_some_iff.mp hStep
      obtain ⟨result, hTurn, rfl⟩ := Option.map_eq_some_iff.mp hInjected
      obtain ⟨-, turns, hReaches, -⟩ := h.fed.running loop hRunning
      obtain ⟨hClipboard, hResults, hReturned, hRx⟩ := keepsWorkers_takeInput hTake
      cases result with
      | ok _ loop' =>
        exact h.setInjection hRunning hFed hClipboard hResults hReturned
          fun _ => Or.inl ⟨loop', rfl, hRx⟩
      | error error loop' =>
        refine h.setInjection hRunning hFed hClipboard hResults hReturned
          fun _ => Or.inr ⟨error, rfl, ?_, turns, t, loop', hReaches, hTurn⟩
        show taken.resultRx ++ [.injection (.error error)] = _
        rw [hRx]
    next => cases hStep
  | closeInjection fuel =>
    rw [Listener.step] at hStep
    split at hStep
    next loop hRunning hItems =>
      split at hStep
      next => cases hStep
      next hSenders =>
        obtain ⟨result, -, rfl⟩ := Option.map_eq_some_iff.mp hStep
        have hReturned : s.returned ≠ none := fun hWaits =>
          hSenders (hasSenders_of_waiting hWaits)
        cases result
        · exact h.setInjection hRunning hFed rfl rfl rfl fun hWaits => absurd hWaits hReturned
        · exact h.setInjection hRunning hFed rfl rfl rfl fun hWaits => absurd hWaits hReturned
    next => cases hStep
  | applyClipboard result =>
    rw [Listener.step] at hStep
    split at hStep
    next item items hRunning hItems =>
      have hKeeps : Supervised w { s with clipboards := { s.clipboards with items } } :=
        h.keepsWorkers ⟨h.fed.capacity, h.fed.room, h.fed.running, h.fed.fifo, h.fed.order,
          h.fed.complete⟩ ⟨rfl, rfl, rfl, rfl, Or.inl rfl⟩
      cases result with
      | ok _ =>
        cases hStep
        exact hKeeps
      | error error =>
        cases hStep
        exact hKeeps.endClipboard hRunning fun _ => ⟨error, rfl⟩
    next => cases hStep
  | closeClipboard =>
    rw [Listener.step] at hStep
    split at hStep
    next hRunning hItems =>
      split at hStep
      next => cases hStep
      next hSenders =>
        cases hStep
        exact h.endClipboard hRunning fun hWaits =>
          absurd (hasSenders_of_waiting hWaits) hSenders
    next => cases hStep
  | handleControl =>
    rw [Listener.step] at hStep
    split at hStep
    next =>
      cases hStep
      exact h.keepsWorkers hFed ⟨rfl, rfl, rfl, rfl, Or.inl rfl⟩
    next => cases hStep
  | closeControl =>
    rw [Listener.step] at hStep
    split at hStep
    next hRunning hItems =>
      split at hStep
      next => cases hStep
      next hSenders =>
        cases hStep
        have hReturned : s.returned ≠ none := fun hWaits =>
          hSenders (hasSenders_of_waiting hWaits)
        exact ⟨hFed, fun hWaits => absurd hWaits hReturned, fun hWaits => absurd hWaits hReturned,
          fun hWaits => absurd hWaits hReturned, h.returned⟩
    next => cases hStep
  | wait =>
    rw [Listener.step] at hStep
    split at hStep
    next result resultRx hWaits hRx =>
      cases hStep
      exact h.wait hWaits hRx
    next => cases hStep

theorem start (w : World) (hasRelay : Bool) : Supervised w (.start hasRelay) where
  fed := .start w hasRelay
  results _ := ⟨rfl, rfl, rfl⟩
  sent _ _ hMem := by cases hMem
  injection _ _ hEnded := by cases hEnded
  returned _ hReturned := by cases hReturned

end Supervised

end Listener

end Kmsync
