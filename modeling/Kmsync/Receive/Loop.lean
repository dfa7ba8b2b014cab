import Kmsync.Receive.Inject
import Kmsync.ProofKit.Transition
import Kmsync.ProofKit.WhileLoop

/-! The loop of `inject_received_frames`.  A `Turn` is one round of it: the channel delivers a
frame, a wait for one times out, or the gap is recovered at once.  When the channel is closed the
loop ends, and the closing loop and the last release follow. -/

namespace Kmsync

open ProofKit

section Programs

variable (w : World)

/-- The loop of `inject_ready_pending_input_frames`.  Every round takes a frame out of the buffers,
so that as many rounds as there are frames are enough. -/
def injectReadyRounds : ℕ → LoopM Unit
  | 0 => pure ()
  | fuel + 1 => do
    let s ← get
    match s.pendingUnreliableInput.get? s.reliableInput.nextSequence with
    | some ready =>
      set { s with
        pendingUnreliableInput := s.pendingUnreliableInput.erase s.reliableInput.nextSequence }
      injectUnreliableInputFrameAndRecord w ready
      injectReadyRounds fuel
    | none =>
      match s.reliableInput.popReady with
      | some (ready, reliableInput) =>
        set { s with reliableInput := reliableInput }
        injectReceivedInputFrameAndRecord w ready
        injectReadyRounds fuel
      | none => pure ()

def injectReadyPendingInputFrames : LoopM Unit := do
  let s ← get
  injectReadyRounds w (s.pendingUnreliableInput.size + s.reliableInput.pending.size)

def recoverPendingInputGap : LoopM Bool := do
  let s ← get
  match nextPendingInputSequence s.pendingUnreliableInput s.reliableInput with
  | none => return false
  | some sequence =>
    set { s with reliableInput := s.reliableInput.skipToSequence sequence }
    injectReadyPendingInputFrames w
    return true

/-- What the loop does with a frame from the channel. -/
def handleReceived (received : ReceivedInputFrame) : LoopM Unit := do
  let s ← get
  if received.isReliable then
    let (decision, reliableInput) := s.reliableInput.accept received
    set { s with reliableInput := reliableInput }
    match decision with
    | .inject ready =>
      injectReceivedInputFrameAndRecord w ready
      injectReadyPendingInputFrames w
    | .recover ready =>
      releaseTrackedInput w
      injectReceivedInputFrameAndRecord w ready
      injectReadyPendingInputFrames w
    | .buffer | .drop => pure ()
  else if received.sequence < s.reliableInput.nextSequence then
    pure ()
  else if received.sequence > s.reliableInput.nextSequence then
    set { s with pendingUnreliableInput := s.pendingUnreliableInput.insertNew received }
  else
    injectUnreliableInputFrameAndRecord w received
    injectReadyPendingInputFrames w

end Programs

/-- One round of the loop, with the instant that its head reads. -/
inductive Turn where
  | receive (now : Instant) (received : ReceivedInputFrame)
  | timeout (now : Instant)
  | recover (now : Instant)

namespace LoopState

def start : LoopState where
  remoteInput := .default
  currentTargetDeviceId := none
  reliableInput := .new
  pendingUnreliableInput := .empty
  gapRecovery := .default
  trace := []

/-- The head of the loop: what to do next. -/
def nextAction (s : LoopState) (now : Instant) : InputGapRecoveryAction × LoopState :=
  let (action, gapRecovery) :=
    s.gapRecovery.nextAction (hasPendingInputGap s.pendingUnreliableInput s.reliableInput) now
  (action, { s with gapRecovery := gapRecovery })

end LoopState

section Runs

variable (w : World)

/-- How a turn ends, if the head of the loop lets it happen. -/
def turn (s : LoopState) : Turn → Option (EStateM.Result String LoopState Unit)
  | .receive now received =>
    match s.nextAction now with
    | (.block, s) | (.wait _, s) => some (handleReceived w received s)
    | (.recover, _) => none
  | .timeout now =>
    match s.nextAction now with
    | (.wait _, s) =>
      some ((discard (recoverPendingInputGap w)) { s with gapRecovery := .default })
    | (.block, _) | (.recover, _) => none
  | .recover now =>
    match s.nextAction now with
    | (.recover, s) => some ((discard (recoverPendingInputGap w)) s)
    | (.block, _) | (.wait _, _) => none

/-- What a turn does behind the head of the loop. -/
def Turn.body : Turn → LoopM Unit
  | .receive _ received => handleReceived w received
  | .timeout _ | .recover _ => discard (recoverPendingInputGap w)

/-- The head of the loop changes nothing but the gap recovery. -/
theorem turn_eq_some {w : World} {s : LoopState} {t : Turn}
    {result : EStateM.Result String LoopState Unit} (h : turn w s t = some result) :
    ∃ gapRecovery, t.body w { s with gapRecovery := gapRecovery } = result := by
  cases t with
  | receive now received =>
    simp only [turn] at h
    split at h
    next s' hBlock =>
      obtain rfl : (s.nextAction now).2 = s' := congrArg Prod.snd hBlock
      exact ⟨_, Option.some.inj h⟩
    next s' hWait =>
      obtain rfl : (s.nextAction now).2 = s' := congrArg Prod.snd hWait
      exact ⟨_, Option.some.inj h⟩
    next => cases h
  | timeout now =>
    simp only [turn] at h
    split at h
    next s' hWait =>
      obtain rfl : (s.nextAction now).2 = s' := congrArg Prod.snd hWait
      exact ⟨_, Option.some.inj h⟩
    next => cases h
    next => cases h
  | recover now =>
    simp only [turn] at h
    split at h
    next s' hRecover =>
      obtain rfl : (s.nextAction now).2 = s' := congrArg Prod.snd hRecover
      exact ⟨_, Option.some.inj h⟩
    next => cases h
    next => cases h

/-- The state after a turn that ends without an error. -/
def turnOk (s : LoopState) (t : Turn) : Option LoopState :=
  match turn w s t with
  | some (.ok () s') => some s'
  | _ => none

theorem turnOk_eq_some {w : World} {s s' : LoopState} {t : Turn} (h : turnOk w s t = some s') :
    turn w s t = some (.ok () s') := by
  unfold turnOk at h
  split at h
  next hTurn =>
    cases h
    exact hTurn
  next => cases h

/-- The state at the head of the loop after some turns, none of which ended in an error. -/
def Reaches (turns : List Turn) (s : LoopState) : Prop :=
  run (turnOk w) .start turns = some s

/-- `while recover_pending_input_gap(..)? {}`, cut off after `fuel` calls. -/
def closingLoop (fuel : ℕ) (s : LoopState) : Option (EStateM.Result String LoopState Unit) :=
  whileTrue (recoverPendingInputGap w) fuel s

/-- What follows the loop once the channel is closed: `none` when `fuel` calls are not enough. -/
def finish (fuel : ℕ) (s : LoopState) : Option (EStateM.Result String LoopState Unit) :=
  match closingLoop w fuel s with
  | some (.ok () s) => some (releaseTrackedInput w s)
  | some (.error error s) => some (.error error s)
  | none => none

/-- How `inject_received_frames` returns after some turns: in an error of the last one, or behind
the closing loop. -/
inductive Returns : List Turn → EStateM.Result String LoopState Unit → Prop where
  | failed {turns : List Turn} {s s' : LoopState} {t : Turn} {error : String} :
      Reaches w turns s → turn w s t = some (.error error s') →
      Returns (turns ++ [t]) (.error error s')
  | closed {turns : List Turn} {s : LoopState} {fuel : ℕ}
      {result : EStateM.Result String LoopState Unit} :
      Reaches w turns s → finish w fuel s = some result → Returns turns result

variable {w}

/-- A run that can be carried out, with something to check at its end. -/
theorem exists_reaches (turns : List Turn) {p : LoopState → Bool}
    (h : (run (turnOk w) .start turns).any p = true) : ∃ s, Reaches w turns s ∧ p s = true :=
  (Option.any_eq_true _ _).mp h

end Runs

/-- The input that device 10 sends to device 20, on the lane that is chosen for it. -/
def inputFrame (sequence : UInt64) (event : InputEvent F32) : ReceivedInputFrame :=
  ⟨⟨sequence, 0, .input (.current 10 20 event)⟩, 0⟩

def keyC (state : KeyState) : InputEvent F32 := .key ⟨.c, state, Modifiers.none⟩

def mouseMove : InputEvent F32 := .mouse (.move 0 0)

end Kmsync
