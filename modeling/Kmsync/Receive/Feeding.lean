import Kmsync.Receive.Delivery
import Kmsync.Receive.Listener

/-! How the listener feeds its injecting thread, in any order of the steps of its threads.  The
input frames reach the thread in the order in which each loop receives them, and only moves are left
out. -/

namespace Kmsync

open ProofKit

/-- The frame that a loop waits to send. -/
def ReceiveLoop.waiting : ReceiveLoop → List ReceivedInputFrame
  | .stopped | .receiving => []
  | .sending received => [received]

/-- The frames from one of the loops. -/
def fromOrigin (origin : Origin) (frames : List (Origin × ReceivedInputFrame)) :
    List ReceivedInputFrame :=
  (frames.filter fun frame => frame.1 = origin).map Prod.snd

theorem fromOrigin_snoc_self (origin : Origin) (frames : List (Origin × ReceivedInputFrame))
    (received : ReceivedInputFrame) :
    fromOrigin origin (frames ++ [(origin, received)]) = fromOrigin origin frames ++ [received] := by
  simp [fromOrigin]

theorem fromOrigin_snoc_ne {origin other : Origin} (h : other ≠ origin)
    (frames : List (Origin × ReceivedInputFrame)) (received : ReceivedInputFrame) :
    fromOrigin other (frames ++ [(origin, received)]) = fromOrigin other frames := by
  simp [fromOrigin, Ne.symm h]

/-- The frames of the loops come into the channel in order, and all but the moves do; the injecting
thread takes them in that order. -/
structure Listener.Fed (w : World) (s : Listener) : Prop where
  capacity : s.inputs.capacity = 1024
  room : s.inputs.items.length ≤ 1024
  running : ∀ loop, s.injection = .running loop → s.inputs.receiving ∧
    ∃ turns, Reaches w turns loop ∧ receivedFrames turns = s.taken.map Prod.snd
  fifo : s.inputs.receiving → s.queued = s.taken ++ s.inputs.items
  order : ∀ origin, (fromOrigin origin s.queued ++ (s.loops origin).waiting).Sublist
    (fromOrigin origin s.received)
  complete : s.inputs.receiving → ∀ origin,
    ((fromOrigin origin s.received).filter fun received => !received.isUnreliableMouseMove) =
      (fromOrigin origin s.queued ++ (s.loops origin).waiting).filter fun received =>
        !received.isUnreliableMouseMove

namespace Listener

variable {w : World} {s s' : Listener} {origin : Origin} {received : ReceivedInputFrame}

@[simp] theorem setLoop_self (s : Listener) (origin : Origin) (loop : ReceiveLoop) :
    (s.setLoop origin loop).loops origin = loop :=
  Function.update_self _ _ _

theorem setLoop_ne (s : Listener) {origin other : Origin} (h : other ≠ origin)
    (loop : ReceiveLoop) : (s.setLoop origin loop).loops other = s.loops other :=
  Function.update_of_ne h _ _

/-- A turn takes the first frame of the channel, or none. -/
theorem takeInput_eq_some {t : Turn} (h : s.takeInput t = some s') :
    (∃ now first items, t = .receive now first.2 ∧ s.inputs.items = first :: items ∧
      s' = { s with inputs := { s.inputs with items }, taken := s.taken ++ [first] }) ∨
    (receivedFrames [t] = [] ∧ s' = s) := by
  cases t with
  | receive now received =>
    rw [takeInput] at h
    split at h
    next first items hItems =>
      split at h
      next hFirst =>
        cases h
        exact Or.inl ⟨now, first, items, by rw [hFirst], hItems, rfl⟩
      next => cases h
    next => cases h
  | timeout now | recover now =>
    cases h
    exact Or.inr ⟨rfl, rfl⟩

namespace Fed

/-- A loop stops waiting with a frame, which is a move or has nowhere to go. -/
theorem setLoop (h : Fed w (s.setLoop origin (.sending received))) {loop : ReceiveLoop}
    (hLoop : loop.waiting = []) (hLost : s.inputs.receiving → received.isUnreliableMouseMove) :
    Fed w (s.setLoop origin loop) := by
  refine ⟨h.capacity, h.room, h.running, h.fifo, fun other => ?_, fun hReceiving other => ?_⟩
  · by_cases hOther : other = origin
    · subst hOther
      rw [setLoop_self, hLoop, List.append_nil]
      have hOrder := h.order other
      exact (List.sublist_append_left _ _).trans hOrder
    · rw [setLoop_ne s hOther]
      have hOrder := h.order other
      rwa [setLoop_ne s hOther] at hOrder
  · by_cases hOther : other = origin
    · subst hOther
      rw [setLoop_self, hLoop, List.append_nil]
      refine (h.complete hReceiving other).trans ?_
      rw [setLoop_self, List.filter_append]
      simp [ReceiveLoop.waiting, hLost hReceiving, Listener.setLoop]
    · rw [setLoop_ne s hOther]
      have hComplete := h.complete hReceiving other
      rwa [setLoop_ne s hOther] at hComplete

/-- A loop that waits with no frame goes on or is over. -/
theorem setLoop_of_idle (h : Fed w s) (hIdle : (s.loops origin).waiting = []) {loop : ReceiveLoop}
    (hLoop : loop.waiting = []) : Fed w (s.setLoop origin loop) := by
  have hWaiting : ∀ other, ((s.setLoop origin loop).loops other).waiting =
      (s.loops other).waiting := by
    intro other
    by_cases hOther : other = origin
    · rw [hOther, setLoop_self, hLoop, hIdle]
    · rw [setLoop_ne s hOther]
  refine ⟨h.capacity, h.room, h.running, h.fifo, fun other => ?_, fun hReceiving other => ?_⟩
  · rw [hWaiting]
    exact h.order other
  · rw [hWaiting]
    exact h.complete hReceiving other

theorem failLoop (h : Fed w (s.setLoop origin .stopped)) (error : String) :
    Fed w (s.failLoop origin error) := by
  cases origin with
  | direct => exact ⟨h.capacity, h.room, h.running, h.fifo, h.order, h.complete⟩
  | relay => exact h

/-- The frame goes into the channel, or the loop waits, unless it is a move and may be left out. -/
theorem sendInput (h : Fed w (s.setLoop origin (.sending received))) :
    Fed w (s.sendInput origin received) := by
  rw [Listener.sendInput]
  split
  next inputs hSend =>
    obtain ⟨rfl, -, hRoom⟩ := BoundedChannel.trySend_eq_ok hSend
    have hCapacity := h.capacity
    refine ⟨hCapacity, ?_, h.running, fun hReceiving => ?_, fun other => ?_,
      fun hReceiving other => ?_⟩
    · have hLt : s.inputs.items.length < 1024 := hRoom.trans_eq hCapacity
      show (s.inputs.items ++ [(origin, received)]).length ≤ 1024
      rw [List.length_append]
      exact hLt
    · have hFifo : s.queued = s.taken ++ s.inputs.items := h.fifo hReceiving
      show s.queued ++ [(origin, received)] = s.taken ++ (s.inputs.items ++ [(origin, received)])
      rw [hFifo, List.append_assoc]
    · have hOrder := h.order other
      by_cases hOther : other = origin
      · subst hOther
        rw [setLoop_self] at hOrder
        simp only [fromOrigin_snoc_self, setLoop_self]
        rw [ReceiveLoop.waiting, List.append_nil]
        exact hOrder
      · rw [setLoop_ne s hOther] at hOrder
        simp only [fromOrigin_snoc_ne hOther, setLoop_ne s hOther]
        exact hOrder
    · have hComplete := h.complete hReceiving other
      by_cases hOther : other = origin
      · subst hOther
        rw [setLoop_self] at hComplete
        simp only [fromOrigin_snoc_self, setLoop_self]
        rw [ReceiveLoop.waiting, List.append_nil]
        exact hComplete
      · rw [setLoop_ne s hOther] at hComplete
        simp only [fromOrigin_snoc_ne hOther, setLoop_ne s hOther]
        exact hComplete
  next hSend =>
    have hClosed := BoundedChannel.trySend_eq_disconnected hSend
    exact (h.setLoop rfl fun hReceiving => by rw [hClosed] at hReceiving; cases hReceiving).failLoop _
  next hSend =>
    split
    next hMove => exact h.setLoop rfl fun _ => hMove
    next => exact h

theorem receiveRemoteFrame (h : Fed w s) (hLoop : s.loops origin = .receiving)
    (frame : ProtocolFrame) (receivedAt : Instant) (nowMicros : Except String UInt64) :
    Fed w (s.receiveRemoteFrame origin frame receivedAt nowMicros) := by
  have hIdle : (s.loops origin).waiting = [] := by rw [hLoop]; rfl
  have hStopped : Fed w (s.setLoop origin .stopped) := h.setLoop_of_idle hIdle rfl
  unfold Listener.receiveRemoteFrame
  split
  next input hPayload =>
    split
    next error => exact hStopped.failLoop error
    next =>
      -- The frame is received while the loop waits to send it.
      refine sendInput ⟨h.capacity, h.room, h.running, h.fifo, fun other => ?_,
        fun hReceiving other => ?_⟩
      · have hOrder := h.order other
        by_cases hOther : other = origin
        · subst hOther
          rw [hIdle, List.append_nil] at hOrder
          rw [setLoop_self]
          simp only [Listener.setLoop, fromOrigin_snoc_self]
          exact hOrder.append_right _
        · rw [setLoop_ne _ hOther]
          simp only [Listener.setLoop, fromOrigin_snoc_ne hOther]
          exact hOrder
      · have hComplete := h.complete hReceiving other
        by_cases hOther : other = origin
        · subst hOther
          rw [hIdle, List.append_nil] at hComplete
          rw [setLoop_self]
          simp only [Listener.setLoop, fromOrigin_snoc_self, List.filter_append, hComplete]
          rfl
        · rw [setLoop_ne _ hOther]
          simp only [Listener.setLoop, fromOrigin_snoc_ne hOther]
          exact hComplete
  next clipboard hPayload =>
    split
    next => exact ⟨h.capacity, h.room, h.running, h.fifo, h.order, h.complete⟩
    next => exact h
    next => exact hStopped.failLoop _
  next => exact h
  next => exact h
  next message hPayload =>
    split
    next => exact ⟨h.capacity, h.room, h.running, h.fifo, h.order, h.complete⟩
    next => exact h
    next => exact hStopped.failLoop _

/-- When the thread is over, only the order remains. -/
theorem endInjection (hCapacity : s.inputs.capacity = 1024)
    (hOrder : ∀ origin, (fromOrigin origin s.queued ++ (s.loops origin).waiting).Sublist
      (fromOrigin origin s.received)) (result : Except String Unit) :
    Fed w (s.endInjection result) where
  capacity := hCapacity
  room := Nat.zero_le _
  running _ hRunning := by cases hRunning
  fifo hReceiving := by cases hReceiving
  order := hOrder
  complete hReceiving := by cases hReceiving

/-- What the turn takes was the first in the channel. -/
theorem takeInput (h : Fed w s) {t : Turn} (hTake : s.takeInput t = some s') :
    s'.taken.map Prod.snd = s.taken.map Prod.snd ++ receivedFrames [t] ∧ s'.injection = s.injection ∧
      s'.inputs.receiving = s.inputs.receiving ∧
      (s'.inputs.receiving → s'.queued = s'.taken ++ s'.inputs.items) ∧
      s'.inputs.capacity = 1024 ∧ s'.inputs.items.length ≤ 1024 ∧ s'.loops = s.loops ∧
      s'.queued = s.queued ∧ s'.received = s.received := by
  rcases takeInput_eq_some hTake with ⟨now, first, items, rfl, hItems, rfl⟩ | ⟨hNone, rfl⟩
  · refine ⟨?_, rfl, rfl, fun hReceiving => ?_, h.capacity, ?_, rfl, rfl, rfl⟩
    · simp [receivedFrames]
    · have hFifo := h.fifo hReceiving
      show s.queued = s.taken ++ [first] ++ items
      rw [hFifo, hItems, List.append_assoc, List.singleton_append]
    · have hRoom := h.room
      rw [hItems, List.length_cons] at hRoom
      exact Nat.le_of_succ_le hRoom
  · rw [hNone, List.append_nil]
    exact ⟨rfl, rfl, rfl, h.fifo, h.capacity, h.room, rfl, rfl, rfl⟩

/-- A turn goes on from a state that the loop has reached. -/
theorem inject (h : Fed w s) {loop : LoopState} (hRunning : s.injection = .running loop) {t : Turn}
    (hTake : s.takeInput t = some s') {result : EStateM.Result String LoopState Unit}
    (hTurn : turn w loop t = some result) : Fed w (s'.injected result) := by
  obtain ⟨hTaken, hInjection, hReceiving, hFifo, hCapacity, hRoom, hLoops, hQueued, hReceived⟩ :=
    h.takeInput hTake
  have hOrder : ∀ origin, (fromOrigin origin s'.queued ++ (s'.loops origin).waiting).Sublist
      (fromOrigin origin s'.received) := by
    rw [hLoops, hQueued, hReceived]
    exact h.order
  obtain ⟨hOpen, turns, hReaches, hTurns⟩ := h.running loop hRunning
  cases result with
  | ok _ loop' =>
    refine ⟨hCapacity, hRoom, fun _ hLoop => ?_, hFifo, hOrder, fun hOpen' => ?_⟩
    · cases hLoop
      have hOk : turnOk w loop t = some loop' := by rw [turnOk, hTurn]
      refine ⟨hReceiving.trans hOpen, turns ++ [t], ?_, ?_⟩
      · rw [Reaches, run_append, hReaches]
        exact run_cons_eq_some.mpr ⟨loop', hOk, rfl⟩
      · rw [receivedFrames, List.filterMap_append, ← receivedFrames, hTurns]
        exact hTaken.symm
    · show ∀ origin, _ = List.filter _ (fromOrigin origin s'.queued ++ (s'.loops origin).waiting)
      rw [hLoops, hQueued]
      exact hReceived ▸ h.complete (hReceiving ▸ hOpen')
  | error error loop' =>
    exact endInjection hCapacity hOrder (.error error)

theorem step (h : Fed w s) {event : ListenerStep} (hStep : Listener.step w s event = some s') :
    Fed w s' := by
  cases event with
  | receive origin answer receivedAt nowMicros =>
    simp only [Listener.step] at hStep
    split at hStep
    next frame hLoop =>
      cases hStep
      exact h.receiveRemoteFrame hLoop frame receivedAt nowMicros
    next error hLoop =>
      cases hStep
      exact (h.setLoop_of_idle (by rw [hLoop]; rfl) rfl).failLoop error
    next => cases hStep
    next => cases hStep
  | send origin =>
    rw [Listener.step] at hStep
    split at hStep
    next received hLoop =>
      cases hStep
      have hSame : s.setLoop origin (.sending received) = s := by
        rw [Listener.setLoop, ← hLoop, Function.update_eq_self]
      exact sendInput (by rw [hSame]; exact h)
    next => cases hStep
    next => cases hStep
  | connectRelay =>
    rw [Listener.step] at hStep
    split at hStep
    next hLoop =>
      split at hStep
      next =>
        cases hStep
        exact h.setLoop_of_idle (by rw [hLoop]; rfl) rfl
      next => cases hStep
    next => cases hStep
    next => cases hStep
  | inject t =>
    rw [Listener.step] at hStep
    split at hStep
    next loop hRunning =>
      obtain ⟨taken, hTake, hInjected⟩ := Option.bind_eq_some_iff.mp hStep
      obtain ⟨result, hTurn, rfl⟩ := Option.map_eq_some_iff.mp hInjected
      exact h.inject hRunning hTake hTurn
    next => cases hStep
  | closeInjection fuel =>
    rw [Listener.step] at hStep
    split at hStep
    next =>
      split at hStep
      next => cases hStep
      next =>
        obtain ⟨result, -, rfl⟩ := Option.map_eq_some_iff.mp hStep
        cases result
        · exact endInjection h.capacity h.order _
        · exact endInjection h.capacity h.order _
    next => cases hStep
  | applyClipboard result =>
    rw [Listener.step] at hStep
    split at hStep
    next =>
      cases result <;> cases hStep <;>
        exact ⟨h.capacity, h.room, h.running, h.fifo, h.order, h.complete⟩
    next => cases hStep
  | closeClipboard | closeControl =>
    rw [Listener.step] at hStep
    split at hStep
    next =>
      split at hStep
      next => cases hStep
      next =>
        cases hStep
        exact ⟨h.capacity, h.room, h.running, h.fifo, h.order, h.complete⟩
    next => cases hStep
  | handleControl =>
    rw [Listener.step] at hStep
    split at hStep
    next =>
      cases hStep
      exact ⟨h.capacity, h.room, h.running, h.fifo, h.order, h.complete⟩
    next => cases hStep
  | wait =>
    rw [Listener.step] at hStep
    split at hStep
    next =>
      cases hStep
      exact ⟨h.capacity, h.room, h.running, h.fifo, h.order, h.complete⟩
    next => cases hStep

theorem start (w : World) (hasRelay : Bool) : Fed w (.start hasRelay) where
  capacity := rfl
  room := Nat.zero_le _
  running _ hRunning := by
    cases hRunning
    exact ⟨rfl, [], rfl, rfl⟩
  fifo _ := rfl
  order origin := by cases origin <;> exact .slnil
  complete _ origin := by cases origin <;> rfl

end Fed

end Listener

/-- How the injecting thread is fed while it runs. -/
structure InjectionFed (w : World) (s : Listener) (loop : LoopState) : Prop where
  reaches : ∃ turns, Reaches w turns loop ∧ receivedFrames turns = s.taken.map Prod.snd
  fifo : s.queued = s.taken ++ s.inputs.items
  room : s.inputs.items.length ≤ 1024
  order : ∀ origin, (fromOrigin origin s.queued ++ (s.loops origin).waiting).Sublist
    (fromOrigin origin s.received)
  complete : ∀ origin,
    ((fromOrigin origin s.received).filter fun received => !received.isUnreliableMouseMove) =
      (fromOrigin origin s.queued ++ (s.loops origin).waiting).filter fun received =>
        !received.isUnreliableMouseMove

/-- In every run of the listener, its injecting thread is where the loop gets by the frames that it
has taken.  These are the first that came into the channel; the frames of each receiving loop have
come in in order, each once, and only unreliable moves are left out, and the one that the loop now
waits to send. -/
theorem listener_feeds_injection (w : World) {hasRelay : Bool} {events : List ListenerStep}
    {s : Listener} (hRun : run (Listener.step w) (.start hasRelay) events = some s)
    {loop : LoopState} (hRunning : s.injection = .running loop) : InjectionFed w s loop := by
  have h := run_induction (fun _ _ _ h hStep => Listener.Fed.step h hStep)
    (Listener.Fed.start w hasRelay) hRun
  obtain ⟨hReceiving, hReaches⟩ := h.running loop hRunning
  exact ⟨hReaches, h.fifo hReceiving, h.room, h.order, h.complete hReceiving⟩

/-- A stroke over a direct connection and a move over the relay, of which the stroke is injected. -/
def strokeAndMove : List ListenerStep :=
  [.connectRelay, .receive .direct (.ok (inputFrame 0 (keyC .pressed)).frame) 0 (.ok 0),
    .receive .relay (.ok (inputFrame 1 mouseMove).frame) 0 (.ok 0),
    .inject (.receive 0 (inputFrame 0 (keyC .pressed)))]

theorem listener_feeds_injection_stroke :
    ∃ s loop, run (Listener.step .calm) (.start true) strokeAndMove = some s ∧
      s.injection = .running loop ∧ s.taken.length = 1 ∧ s.queued.length = 2 ∧
      InjectionFed .calm s loop := by
  have hRuns : (run (Listener.step .calm) (.start true) strokeAndMove).any (fun s =>
      s.injection.isRunning && s.taken.length == 1 && s.queued.length == 2) = true := by
    decide +kernel
  obtain ⟨s, hRun, hState⟩ := (Option.any_eq_true _ _).mp hRuns
  simp only [Bool.and_eq_true, beq_iff_eq] at hState
  obtain ⟨⟨hRunning, hTaken⟩, hQueued⟩ := hState
  cases hInjection : s.injection with
  | running loop =>
    exact ⟨s, loop, hRun, hInjection, hTaken, hQueued,
      listener_feeds_injection .calm hRun hInjection⟩
  | ended result =>
    rw [hInjection] at hRunning
    cases hRunning

end Kmsync
