import Kmsync.ProofKit.Postcondition
import Kmsync.Receive.Sequencer

/-! Injecting a received frame.  The machine that the receiver runs on is a `World`: it answers each
reading of a clock and each call of the injector, knowing all that happened before.  The trace keeps
these answers, the latest first. -/

namespace Kmsync

open ProofKit

/-- What the receive loop does, and how its surroundings answer. -/
inductive Action where
  /-- `Instant::now()` -/
  | instant (now : Instant)
  /-- a call of `inject_received_input_frame` -/
  | pass (received : ReceivedInputFrame)
  /-- `now_micros()`; its value only goes to the statistics -/
  | clock (ok : Bool)
  /-- `adapter.inject(event)`, for the event of a received frame or for a release -/
  | inject (cause : Option ReceivedInputFrame) (event : InputEvent F32) (ok : Bool)
  deriving DecidableEq

abbrev Trace := List Action

structure World where
  instantNow : Trace → Instant
  nowMicros : Trace → Except String Unit
  inject : Trace → InputEvent F32 → Except String Unit

/-- The variables of `inject_received_frames`, without those of its progress reports. -/
structure LoopState where
  remoteInput : RemoteInputState
  currentTargetDeviceId : Option DeviceId
  reliableInput : ReliableInputSequencer
  pendingUnreliableInput : PendingFrames
  gapRecovery : InputGapRecovery
  trace : Trace

/-- A program over the variables that may end in an error text. -/
abbrev LoopM (α : Type) := EStateM String LoopState α

def LoopState.record (s : LoopState) (action : Action) : LoopState :=
  { s with trace := action :: s.trace }

section Programs

variable (w : World) {s : LoopState} {E : String → LoopState → Prop}

def instantNow : LoopM Instant := fun s =>
  .ok (w.instantNow s.trace) (s.record (.instant (w.instantNow s.trace)))

@[simp] theorem meets_instantNow {Q : Instant → LoopState → Prop} :
    Meets (instantNow w) Q E s ↔
      Q (w.instantNow s.trace) (s.record (.instant (w.instantNow s.trace))) :=
  Iff.rfl

def nowMicros : LoopM Unit := fun s =>
  match w.nowMicros s.trace with
  | .ok () => .ok () (s.record (.clock true))
  | .error error => .error error (s.record (.clock false))

theorem meets_nowMicros {Q : Unit → LoopState → Prop} :
    Meets (nowMicros w) Q E s ↔
      match w.nowMicros s.trace with
      | .ok () => Q () (s.record (.clock true))
      | .error error => E error (s.record (.clock false)) := by
  simp only [Meets, nowMicros]
  cases w.nowMicros s.trace <;> rfl

/-- `adapter.inject(event)` -/
def adapterInject (cause : Option ReceivedInputFrame) (event : InputEvent F32) : LoopM Unit :=
  fun s =>
    match w.inject s.trace event with
    | .ok () => .ok () (s.record (.inject cause event true))
    | .error error => .error error (s.record (.inject cause event false))

theorem meets_adapterInject {cause : Option ReceivedInputFrame} {event : InputEvent F32}
    {Q : Unit → LoopState → Prop} :
    Meets (adapterInject w cause event) Q E s ↔
      match w.inject s.trace event with
      | .ok () => Q () (s.record (.inject cause event true))
      | .error error => E error (s.record (.inject cause event false)) := by
  simp only [Meets, adapterInject]
  cases w.inject s.trace event <;> rfl

/-- The loop of `release_tracked_input`: every event is injected, and the first error is kept. -/
def injectReleases : List (InputEvent F32) → Option String → LoopM (Option String)
  | [], firstError => pure firstError
  | event :: events, firstError => fun s =>
    match adapterInject w none event s with
    | .ok () s => injectReleases events firstError s
    | .error error s => injectReleases events (firstError <|> some error) s

theorem meets_injectReleases_cons {event : InputEvent F32} {events : List (InputEvent F32)}
    {firstError : Option String} {Q : Option String → LoopState → Prop} :
    Meets (injectReleases w (event :: events) firstError) Q E s ↔
      Meets (adapterInject w none event)
        (fun _ s' => Meets (injectReleases w events firstError) Q E s')
        (fun error s' => Meets (injectReleases w events (firstError <|> some error)) Q E s') s := by
  simp only [Meets, injectReleases]
  cases adapterInject w none event s <;> rfl

def releaseTrackedInput : LoopM Unit := do
  let s ← get
  set { s with remoteInput := s.remoteInput.releaseAll.2 }
  match ← injectReleases w s.remoteInput.releaseAll.1 none with
  | none => pure ()
  | some error => throw error

def releaseErrorOr (error : String) : LoopM Unit := fun s =>
  match releaseTrackedInput w s with
  | .ok () s => .error error s
  | .error releaseError s =>
    .error (error ++ "; failed to release remote input: " ++ releaseError) s

theorem meets_releaseErrorOr {error : String} {Q : Unit → LoopState → Prop} :
    Meets (releaseErrorOr w error) Q E s ↔
      Meets (releaseTrackedInput w) (fun _ s' => E error s')
        (fun releaseError s' =>
          E (error ++ "; failed to release remote input: " ++ releaseError) s') s := by
  simp only [Meets, releaseErrorOr]
  cases releaseTrackedInput w s <;> rfl

def injectOrReleaseOnError (received : ReceivedInputFrame) (event : InputEvent F32) : LoopM Unit :=
  fun s =>
    match adapterInject w (some received) event s with
    | .ok () s => .ok () { s with remoteInput := s.remoteInput.apply event }
    | .error error s => releaseErrorOr w error s

theorem meets_injectOrReleaseOnError {received : ReceivedInputFrame} {event : InputEvent F32}
    {Q : Unit → LoopState → Prop} :
    Meets (injectOrReleaseOnError w received event) Q E s ↔
      Meets (adapterInject w (some received) event)
        (fun _ s' => Q () { s' with remoteInput := s'.remoteInput.apply event })
        (fun error s' => Meets (releaseErrorOr w error) Q E s') s := by
  simp only [Meets, injectOrReleaseOnError]
  cases adapterInject w (some received) event s <;> rfl

def releaseOnTargetChange (nextTargetDeviceId : DeviceId) : LoopM Unit := do
  let s ← get
  if s.currentTargetDeviceId.any (· ≠ nextTargetDeviceId) then
    releaseTrackedInput w
  modify fun s => { s with currentTargetDeviceId := some nextTargetDeviceId }

def injectReceivedInputFrame (received : ReceivedInputFrame) : LoopM Unit := do
  modify (·.record (.pass received))
  match received.frame.payload with
  | .input input =>
    nowMicros w
    releaseOnTargetChange w input.targetDeviceId
    injectOrReleaseOnError w received input.event
  | .clipboardText _ | .clipboardFiles _ | .fileChunk _ | .control _ => pure ()

def staleReceivedUnreliableMouseMove (received : ReceivedInputFrame) (now : Instant) : Bool :=
  match received.frame.payload with
  | .input input =>
    input.channel = .inputUnreliable &&
      (match input.event with
        | .mouse (.move _ _) => true
        | _ => false) &&
      now - received.receivedAt ≥ desktopStaleMouseMoveDropAfter
  | _ => false

def injectReceivedInputFrameAndRecord (received : ReceivedInputFrame) : LoopM Unit := do
  let now ← instantNow w
  if staleReceivedUnreliableMouseMove received now then
    pure ()
  else
    injectReceivedInputFrame w received

def injectUnreliableInputFrameAndRecord (received : ReceivedInputFrame) : LoopM Unit := do
  injectReceivedInputFrameAndRecord w received
  modify fun s =>
    { s with reliableInput := s.reliableInput.observeUnreliableSequence received.sequence }

end Programs

end Kmsync
