import Kmsync.Transmit.Delivery
import Kmsync.ProofKit.BoundedChannel

/-! The counters of the capture queue.  The capturing thread reserves a place before it tries to
send, and undoes that after a failure; the sending thread counts an event out after it took it.  One
step is what a thread does at once, and between two steps the other thread may go on. -/

namespace Kmsync.QueueStats

open ProofKit

section Counters

/-- `CaptureQueueStats`, without the latencies.  No counter is above the number of calls, so that
the words of the source do not wrap before there have been 2^64. -/
structure CaptureQueueStats where
  currentDepth : ℕ := 0
  enqueued : ℕ := 0
  droppedFull : ℕ := 0
  droppedDisconnected : ℕ := 0
  deriving DecidableEq

namespace CaptureQueueStats

variable (stats : CaptureQueueStats)

def recordEnqueueReserved : CaptureQueueStats :=
  { stats with currentDepth := stats.currentDepth + 1 }

def recordEnqueueCommitted : CaptureQueueStats := { stats with enqueued := stats.enqueued + 1 }

/-- `checked_sub`: a depth of zero stays. -/
def recordDequeued : CaptureQueueStats := { stats with currentDepth := stats.currentDepth - 1 }

def recordEnqueueCanceled : CaptureQueueStats := stats.recordDequeued

def recordDropped : TrySendError → CaptureQueueStats
  | .full => { stats with droppedFull := stats.droppedFull + 1 }
  | .disconnected => { stats with droppedDisconnected := stats.droppedDisconnected + 1 }

end CaptureQueueStats

end Counters

section Threads

variable {φ : Type}

/-- Where the capturing thread is in `enqueue_targeted_input_event`. -/
inductive SendPhase (φ : Type) where
  | idle
  /-- the place is reserved -/
  | reserved (event : TargetedQueuedInputEvent φ)
  /-- before `try_send`; with a deadline, if the event waits for a slot -/
  | sending (event : QueuedCapture φ) (deadline : Option Instant)
  /-- the channel was full, and the clock is not yet looked at -/
  | refused (event : QueuedCapture φ) (deadline : Instant)
  /-- the event is in the channel -/
  | sent
  | failed (error : TrySendError)
  /-- the reservation is undone, and the drop is not yet counted -/
  | canceled (error : TrySendError)

/-- Where the sending thread is in `next_targeted_transmit_event`. -/
inductive ReceivePhase (φ : Type) where
  /-- the thread is busy with the event that was returned -/
  | idle
  | looking
  /-- `recv` gave an event, which is not yet counted out -/
  | received (event : QueuedCapture φ)
  | taken (event : QueuedCapture φ)
  | merging (latest : QueuedCapture φ)
  /-- `try_recv` gave an event, which is not yet counted out -/
  | receivedNext (latest next : QueuedCapture φ)
  /-- the receiver is dropped -/
  | gone

/-- The two threads, with the channel between them. -/
structure QueueState (φ : Type) where
  channel : BoundedChannel (QueuedCapture φ)
  stats : CaptureQueueStats := {}
  sender : SendPhase φ := .idle
  receiver : ReceivePhase φ := .idle
  pending : Option (QueuedCapture φ) := none
  /-- how often `enqueue_targeted_input_event` was called -/
  calls : ℕ := 0

def QueueState.start (capacity : ℕ) : QueueState φ := { channel := .empty capacity }

inductive SendLabel (φ : Type) where
  | reserve (event : TargetedQueuedInputEvent φ)
  /-- the event gets its time, and its deadline is computed -/
  | prepare (capturedAt start : Instant)
  | trySend
  | lookAtDeadline (now : Instant)
  | commit
  | cancel
  | countDrop

inductive ReceiveLabel where
  | call
  | recv
  | countOut
  | judge (now : Instant)
  | tryRecv
  /-- at any time, as when the thread ends -/
  | disconnect

inductive QueueLabel (φ : Type) where
  | send (label : SendLabel φ)
  | receive (label : ReceiveLabel)

/-- A step of the capturing thread. -/
def sendStep (s : QueueState φ) (label : SendLabel φ) : Option (QueueState φ) :=
  match s.sender, label with
  | .idle, .reserve event =>
    some { s with
      stats := s.stats.recordEnqueueReserved, sender := .reserved event, calls := s.calls + 1 }
  | .reserved event, .prepare capturedAt start =>
    let deadline :=
      if inputEventWaitsForQueueSlot event.event then some (start + desktopReliableQueueSendGrace)
      else none
    some { s with sender := .sending ⟨event, capturedAt⟩ deadline }
  | .sending event deadline, .trySend =>
    match s.channel.trySend event, deadline with
    | .ok channel, _ => some { s with channel, sender := .sent }
    | .error .full, some deadline => some { s with sender := .refused event deadline }
    | .error error, _ => some { s with sender := .failed error }
  | .refused event deadline, .lookAtDeadline now =>
    if deadline ≤ now then some { s with sender := .failed .full }
    else some { s with sender := .sending event (some deadline) }
  | .sent, .commit => some { s with stats := s.stats.recordEnqueueCommitted, sender := .idle }
  | .failed error, .cancel =>
    some { s with stats := s.stats.recordEnqueueCanceled, sender := .canceled error }
  | .canceled error, .countDrop =>
    some { s with stats := s.stats.recordDropped error, sender := .idle }
  | _, _ => none

variable [Add φ]

/-- A step of the sending thread.  `recv` waits while the channel is empty. -/
def receiveStep (s : QueueState φ) (label : ReceiveLabel) : Option (QueueState φ) :=
  match s.receiver, label with
  | .gone, _ => none
  | _, .disconnect =>
    some { s with channel := s.channel.close, pending := none, receiver := .gone }
  | .idle, .call => some { s with receiver := .looking }
  | .looking, .recv =>
    match s.pending, s.channel.items with
    | some event, _ => some { s with pending := none, receiver := .taken event }
    | none, event :: items =>
      some { s with channel := { s.channel with items }, receiver := .received event }
    | none, [] => none
  | .received event, .countOut =>
    some { s with stats := s.stats.recordDequeued, receiver := .taken event }
  | .taken event, .judge now =>
    if staleDesktopMouseMove event now then some { s with receiver := .looking }
    else if isTargetedPointerMotion event then some { s with receiver := .merging event }
    else some { s with receiver := .idle }
  | .merging latest, .tryRecv =>
    match s.channel.items with
    | next :: items =>
      some { s with channel := { s.channel with items }, receiver := .receivedNext latest next }
    | [] => some { s with receiver := .idle }
  | .receivedNext latest next, .countOut =>
    let s := { s with stats := s.stats.recordDequeued }
    if canCoalesceTargetedPointerMotion latest next then
      some { s with receiver := .merging (coalesceTargetedPointerMotion latest next) }
    else some { s with pending := some next, receiver := .idle }
  | _, _ => none

def step (s : QueueState φ) : QueueLabel φ → Option (QueueState φ)
  | .send label => sendStep s label
  | .receive label => receiveStep s label

end Threads

end Kmsync.QueueStats
