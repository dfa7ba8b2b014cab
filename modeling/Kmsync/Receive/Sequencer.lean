import Kmsync.Core.InputState
import Kmsync.ProofKit.KeyedMap

/-! How received input frames are put in order.  Frames of the reliable lane are buffered in the
sequencer and the others beside it; both wait for the number `nextSequence`, until the gap in front
of them is given up. -/

namespace Kmsync

open ProofKit

structure ReceivedInputFrame where
  frame : ProtocolFrame
  receivedAt : Instant
  deriving DecidableEq

namespace ReceivedInputFrame

def sequence (received : ReceivedInputFrame) : ℕ := received.frame.sequence.toNat

/-- `is_reliable_input_frame` -/
def isReliable (received : ReceivedInputFrame) : Bool :=
  received.frame.payload.transportLane = .inputReliable

theorem payload_of_isReliable {received : ReceivedInputFrame} (h : received.isReliable = true) :
    ∃ input, received.frame.payload = .input input ∧ input.channel = .inputReliable := by
  have hLane := of_decide_eq_true h
  cases hPayload : received.frame.payload with
  | input input =>
    rw [hPayload] at hLane
    refine ⟨input, rfl, ?_⟩
    cases hChannel : input.channel with
    | inputReliable => rfl
    | inputUnreliable =>
      rw [ProtocolPayload.transportLane, hChannel] at hLane
      cases hLane
  | clipboardText _ | clipboardFiles _ | fileChunk _ | control _ =>
    rw [hPayload] at hLane
    cases hLane

end ReceivedInputFrame

/-- `u64::MAX` -/
def u64Max : ℕ := 2 ^ 64 - 1

/-- `u64::saturating_add` of one -/
def saturatingSucc (n : ℕ) : ℕ := min (n + 1) u64Max

def reliableInputReorderWindow : ℕ := 64

/-- `RELIABLE_INPUT_GAP_RECOVERY_TIMEOUT`: 20 ms -/
def reliableInputGapRecoveryTimeout : ℕ := 20_000_000

/-- A `BTreeMap` from sequence numbers to the frames that carry them. -/
abbrev PendingFrames := KeyedMap ReceivedInputFrame ReceivedInputFrame.sequence

structure ReliableInputSequencer where
  nextSequence : ℕ
  pending : PendingFrames

inductive ReliableInputDecision where
  | inject (received : ReceivedInputFrame)
  | buffer
  | drop
  | recover (received : ReceivedInputFrame)

namespace ReliableInputSequencer

def new : ReliableInputSequencer := ⟨1, .empty⟩

def accept (sequencer : ReliableInputSequencer) (received : ReceivedInputFrame) :
    ReliableInputDecision × ReliableInputSequencer :=
  let sequence := received.sequence
  if sequence < sequencer.nextSequence then
    (.drop, sequencer)
  else if sequence = sequencer.nextSequence then
    (.inject received, { sequencer with nextSequence := saturatingSucc sequencer.nextSequence })
  else if sequence - sequencer.nextSequence > reliableInputReorderWindow then
    (.recover received, ⟨saturatingSucc sequence, .empty⟩)
  else
    (.buffer, { sequencer with pending := sequencer.pending.insertNew received })

/-- The four things that happen to a frame of the reliable lane. -/
theorem accept_cases (sequencer : ReliableInputSequencer) (received : ReceivedInputFrame) :
    (received.sequence < sequencer.nextSequence ∧
      sequencer.accept received = (.drop, sequencer)) ∨
    (received.sequence = sequencer.nextSequence ∧
      sequencer.accept received = (.inject received,
        { sequencer with nextSequence := saturatingSucc sequencer.nextSequence })) ∨
    (sequencer.nextSequence + reliableInputReorderWindow < received.sequence ∧
      sequencer.accept received =
        (.recover received, ⟨saturatingSucc received.sequence, .empty⟩)) ∨
    (sequencer.nextSequence < received.sequence ∧
      received.sequence ≤ sequencer.nextSequence + reliableInputReorderWindow ∧
      sequencer.accept received =
        (.buffer, { sequencer with pending := sequencer.pending.insertNew received })) := by
  unfold accept
  dsimp only
  split_ifs with hOld hNext hFar
  · exact Or.inl ⟨hOld, rfl⟩
  · exact Or.inr (Or.inl ⟨hNext, rfl⟩)
  · exact Or.inr (Or.inr (Or.inl ⟨Nat.add_lt_of_lt_sub' hFar, rfl⟩))
  · have hAhead := lt_of_le_of_ne (Nat.le_of_not_lt hOld) (Ne.symm hNext)
    have hNear := Nat.sub_le_iff_le_add'.mp (Nat.le_of_not_lt hFar)
    exact Or.inr (Or.inr (Or.inr ⟨hAhead, hNear, rfl⟩))

def popReady (sequencer : ReliableInputSequencer) :
    Option (ReceivedInputFrame × ReliableInputSequencer) :=
  (sequencer.pending.get? sequencer.nextSequence).map fun ready =>
    (ready, ⟨saturatingSucc sequencer.nextSequence,
      sequencer.pending.erase sequencer.nextSequence⟩)

def skipToSequence (sequencer : ReliableInputSequencer) (sequence : ℕ) : ReliableInputSequencer :=
  if sequence > sequencer.nextSequence then { sequencer with nextSequence := sequence }
  else sequencer

def nextPendingSequence (sequencer : ReliableInputSequencer) : Option ℕ :=
  sequencer.pending.firstKey?

def observeUnreliableSequence (sequencer : ReliableInputSequencer) (sequence : ℕ) :
    ReliableInputSequencer :=
  if sequence = sequencer.nextSequence then
    { sequencer with nextSequence := saturatingSucc sequence }
  else sequencer

end ReliableInputSequencer

def nextPendingInputSequence (pendingUnreliableInput : PendingFrames)
    (reliableInput : ReliableInputSequencer) : Option ℕ :=
  match pendingUnreliableInput.firstKey?, reliableInput.nextPendingSequence with
  | some unreliable, some reliable => some (min unreliable reliable)
  | some unreliable, none => some unreliable
  | none, some reliable => some reliable
  | none, none => none

def hasPendingInputGap (pendingUnreliableInput : PendingFrames)
    (reliableInput : ReliableInputSequencer) : Bool :=
  (nextPendingInputSequence pendingUnreliableInput reliableInput).any
    fun sequence => sequence > reliableInput.nextSequence

inductive InputGapRecoveryAction where
  | block
  | wait (timeout : ℕ)
  | recover
  deriving DecidableEq

structure InputGapRecovery where
  deadline : Option Instant

namespace InputGapRecovery

def default : InputGapRecovery := ⟨none⟩

def nextAction (recovery : InputGapRecovery) (hasGap : Bool) (now : Instant) :
    InputGapRecoveryAction × InputGapRecovery :=
  if !hasGap then
    (.block, ⟨none⟩)
  else
    let deadline := recovery.deadline.getD (now + reliableInputGapRecoveryTimeout)
    if now ≥ deadline then (.recover, ⟨none⟩)
    else (.wait (deadline - now), ⟨some deadline⟩)

end InputGapRecovery

end Kmsync
