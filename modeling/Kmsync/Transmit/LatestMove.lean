import Kmsync.Capture.Router
import Kmsync.ProofKit.Arrivals

/-! The sending thread of the capture for one target.  Of the moves that have piled up it sends the
latest one only, and everything else as it is; it counts what it sends from 1 on. -/

namespace Kmsync

open ProofKit

section Program

structure QueuedInputEvent where
  event : InputEvent F32
  capturedAt : Instant
  deriving DecidableEq

def QueuedInputEvent.isMouseMove (queued : QueuedInputEvent) : Bool :=
  match queued.event with
  | .mouse (.move _ _) => true
  | _ => false

/-- What the loop keeps of the queue: the event that has ended a burst, and the channel. -/
structure InputReceiver where
  pending : Option QueuedInputEvent
  rx : Arrivals QueuedInputEvent

/-- What the surroundings answer in one turn of the loop. -/
structure SendAnswers where
  nowMicros : Except String UInt64
  /-- `send_event` of the sender -/
  sendEvent : Except String Unit

namespace InputReceiver

/-- All that is not yet taken. -/
def waiting (s : InputReceiver) : List QueuedInputEvent := s.pending.toList ++ s.rx.all

/-- The loop of `coalesce_mouse_move_burst` -/
def latestMove (latest : QueuedInputEvent) (rx : Arrivals QueuedInputEvent) :
    QueuedInputEvent × InputReceiver :=
  match _h : rx.tryRecv with
  | (some next, rx') =>
    if next.isMouseMove then latestMove next rx' else (latest, ⟨some next, rx'⟩)
  | (none, rx') => (latest, ⟨none, rx'⟩)
termination_by rx.all.length
decreasing_by
  have hAll := rx.all_tryRecv
  rw [_h] at hAll
  simp [hAll]

def coalesceMouseMoveBurst (event : QueuedInputEvent) (rx : Arrivals QueuedInputEvent) :
    QueuedInputEvent × InputReceiver :=
  if event.isMouseMove then latestMove event rx else (event, ⟨none, rx⟩)

def nextTransmitEvent (s : InputReceiver) : Option (QueuedInputEvent × InputReceiver) :=
  match s.pending with
  | some event => some (coalesceMouseMoveBurst event s.rx)
  | none =>
    match Arrivals.recv s.rx.queue s.rx.later with
    | some (event, rx) => some (coalesceMouseMoveBurst event rx)
    | none => none

end InputReceiver

end Program

section Conflation

namespace InputReceiver

variable {event next : QueuedInputEvent} {s s' : InputReceiver} {kept : List QueuedInputEvent}

theorem latestMove_conflates (event : QueuedInputEvent) (rx : Arrivals QueuedInputEvent)
    (hMove : event.isMouseMove)
    (h : Conflates QueuedInputEvent.isMouseMove (latestMove event rx).2.waiting kept) :
    Conflates QueuedInputEvent.isMouseMove (event :: rx.all) ((latestMove event rx).1 :: kept) := by
  fun_induction latestMove event rx with
  | case1 event rx next rx' hTry hNext ih =>
    have hAll := rx.all_tryRecv
    rw [hTry] at hAll
    rw [hAll]
    exact .pass hMove hNext (ih hNext h)
  | case2 event rx next rx' hTry hNext =>
    have hAll := rx.all_tryRecv
    rw [hTry] at hAll
    rw [hAll]
    exact .keep event h
  | case3 event rx rx' hTry =>
    have hAll := rx.all_tryRecv
    rw [hTry] at hAll
    rw [hAll]
    exact .keep event h

theorem coalesce_conflates (event : QueuedInputEvent) (rx : Arrivals QueuedInputEvent)
    (h : Conflates QueuedInputEvent.isMouseMove (coalesceMouseMoveBurst event rx).2.waiting kept) :
    Conflates QueuedInputEvent.isMouseMove (event :: rx.all)
      ((coalesceMouseMoveBurst event rx).1 :: kept) := by
  unfold coalesceMouseMoveBurst at h ⊢
  split at h
  next hMove =>
    rw [if_pos hMove]
    exact latestMove_conflates event rx hMove h
  next hMove =>
    rw [if_neg hMove]
    exact .keep event h

/-- A call returns one event of those that wait, and passes over moves with a later move behind. -/
theorem nextTransmitEvent_conflates (hNext : s.nextTransmitEvent = some (next, s'))
    (h : Conflates QueuedInputEvent.isMouseMove s'.waiting kept) :
    Conflates QueuedInputEvent.isMouseMove s.waiting (next :: kept) := by
  unfold nextTransmitEvent at hNext
  split at hNext
  next event hPending =>
    have hCoalesce := Option.some.inj hNext
    rw [waiting, hPending]
    have hConflates := coalesce_conflates event s.rx (by rw [hCoalesce]; exact h)
    rwa [hCoalesce] at hConflates
  next hPending =>
    split at hNext
    next event rx hRecv =>
      have hCoalesce := Option.some.inj hNext
      have hConflates := coalesce_conflates event rx (by rw [hCoalesce]; exact h)
      rw [waiting, hPending, Arrivals.all, Arrivals.recv_eq_some hRecv]
      rwa [hCoalesce] at hConflates
    next => cases hNext

theorem waiting_of_none (hNext : s.nextTransmitEvent = none) : s.waiting = [] := by
  unfold nextTransmitEvent at hNext
  split at hNext
  next => cases hNext
  next hPending =>
    split at hNext
    next => cases hNext
    next hRecv =>
      rw [waiting, hPending]
      exact Arrivals.recv_eq_none hRecv

/-- What waits does not include the event that a call returns. -/
theorem waiting_lt (hNext : s.nextTransmitEvent = some (next, s')) :
    s'.waiting.length < s.waiting.length :=
  (nextTransmitEvent_conflates hNext (.refl _ _)).length_le

end InputReceiver

end Conflation

section Transmission

/-- `transmit_captured_events`: the events that the sender has taken, and how the loop ends. -/
def transmitCapturedEvents (transform : InputEvent F32 → InputEvent F32) (answers : ℕ → SendAnswers)
    (sequence : UInt64) (s : InputReceiver) : List ProtocolEvent × Except String Unit :=
  match _h : s.nextTransmitEvent with
  | none => ([], .ok ())
  | some (queued, s') =>
    match (answers 0).nowMicros, (answers 0).sendEvent with
    | .error error, _ => ([], .error error)
    | .ok _, .error error => ([], .error error)
    | .ok timestampMicros, .ok () =>
      let (sent, result) := transmitCapturedEvents transform (fun turn => answers (turn + 1))
        (saturatingNext sequence) s'
      (⟨sequence, timestampMicros, transform queued.event⟩ :: sent, result)
termination_by s.waiting.length
decreasing_by exact InputReceiver.waiting_lt _h

/-- The frames are the mapped events from the front of the list, with numbers that count on. -/
structure SentInOrder (transform : InputEvent F32 → InputEvent F32) (sequence : UInt64)
    (kept : List QueuedInputEvent) (sent : List ProtocolEvent) (result : Except String Unit) :
    Prop where
  events : sent.map (·.event) <+: kept.map fun queued => transform queued.event
  numbers : ∀ i event, sent[i]? = some event →
    event.sequence.toNat = min (sequence.toNat + i) (2 ^ 64 - 1)
  complete : result = .ok () → sent.length = kept.length

variable {transform : InputEvent F32 → InputEvent F32} {sequence : UInt64}

theorem sentInOrder_nil (kept : List QueuedInputEvent) {result : Except String Unit}
    (h : result = .ok () → kept = []) : SentInOrder transform sequence kept [] result where
  events := List.nil_prefix
  numbers _ _ hEvent := by cases hEvent
  complete hOk := by rw [h hOk]; rfl

theorem SentInOrder.cons {kept : List QueuedInputEvent} {sent : List ProtocolEvent}
    {result : Except String Unit} (queued : QueuedInputEvent) (timestampMicros : UInt64)
    (h : SentInOrder transform (saturatingNext sequence) kept sent result) :
    SentInOrder transform sequence (queued :: kept)
      (⟨sequence, timestampMicros, transform queued.event⟩ :: sent) result where
  events := List.cons_prefix_cons.mpr ⟨rfl, h.events⟩
  numbers i event hEvent := by
    have hBound := sequence.toNat_lt
    cases i with
    | zero =>
      obtain rfl := Option.some.inj hEvent
      exact (Nat.min_eq_left (by simp; omega)).symm
    | succ i =>
      rw [h.numbers i event hEvent, toNat_saturatingNext_eq]
      omega
  complete hOk := by rw [List.length_cons, List.length_cons, h.complete hOk]

/-- However the events arrive, and whatever the clock and the network answer, the loop sends from
the front of the queue each event once and in its place, but for moves with another move right
behind them, and with numbers without a gap.  It leaves something out only by failing. -/
theorem transmit_latest_moves (transform : InputEvent F32 → InputEvent F32)
    (answers : ℕ → SendAnswers) (sequence : UInt64) (s : InputReceiver) :
    ∃ kept, Conflates QueuedInputEvent.isMouseMove s.waiting kept ∧
      ((kept.filter fun queued => !queued.isMouseMove) =
        s.waiting.filter fun queued => !queued.isMouseMove) ∧
      SentInOrder transform sequence kept
        (transmitCapturedEvents transform answers sequence s).1
        (transmitCapturedEvents transform answers sequence s).2 := by
  suffices h : ∃ kept, Conflates QueuedInputEvent.isMouseMove s.waiting kept ∧
      SentInOrder transform sequence kept
        (transmitCapturedEvents transform answers sequence s).1
        (transmitCapturedEvents transform answers sequence s).2 by
    obtain ⟨kept, hConflates, hSent⟩ := h
    exact ⟨kept, hConflates, hConflates.filter_not, hSent⟩
  fun_induction transmitCapturedEvents transform answers sequence s with
  | case1 answers sequence s hNext =>
    exact ⟨s.waiting, .refl _ _, sentInOrder_nil _ fun _ => InputReceiver.waiting_of_none hNext⟩
  | case2 answers sequence s queued s' hNext error hClock =>
    exact ⟨_, InputReceiver.nextTransmitEvent_conflates hNext (.refl _ _),
      sentInOrder_nil _ fun hOk => by cases hOk⟩
  | case3 answers sequence s queued s' hNext _ _ error hSend =>
    exact ⟨_, InputReceiver.nextTransmitEvent_conflates hNext (.refl _ _),
      sentInOrder_nil _ fun hOk => by cases hOk⟩
  | case4 answers sequence s queued s' hNext timestampMicros hClock hSend sent result hRest ih =>
    obtain ⟨kept, hConflates, hSent⟩ := ih
    rw [hRest] at hSent
    exact ⟨queued :: kept, InputReceiver.nextTransmitEvent_conflates hNext hConflates,
      hSent.cons queued timestampMicros⟩

/-- Two moves that have piled up in front of a click, and a move behind it. -/
example :
    let move (dx : F32) : QueuedInputEvent := ⟨.mouse (.move dx 0), 0⟩
    let click : QueuedInputEvent := ⟨.mouse (.button .left .pressed), 0⟩
    (transmitCapturedEvents id (fun _ => ⟨.ok 0, .ok ()⟩) 1
      ⟨none, ⟨[], [[move 1, move 2, click], [move 3]]⟩⟩).1.map (·.event) =
        [(move 2).event, click.event, (move 3).event] := by
  decide +kernel

end Transmission

end Kmsync
