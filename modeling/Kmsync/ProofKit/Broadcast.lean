import Mathlib.Data.List.Basic
import Mathlib.Data.Nat.Notation

/-! A broadcast channel.  A receiver reads what is sent after it has subscribed.  The channel holds
a number of values; a receiver that is further behind skips to the oldest of them. -/

namespace ProofKit

variable {α : Type}

/-- A receiver: where it has subscribed, what it reads next, how many values it has skipped, and
those that it has read. -/
structure BroadcastReceiver (α : Type) where
  start : ℕ
  next : ℕ
  skipped : ℕ
  read : List α
  deriving DecidableEq

namespace BroadcastReceiver

def subscribe (sent : List α) : BroadcastReceiver α := ⟨sent.length, sent.length, 0, []⟩

/-- The next value, unless there is none or some are skipped first. -/
def recv (capacity : ℕ) (sent : List α) (receiver : BroadcastReceiver α) :
    Option (Option α × BroadcastReceiver α) :=
  let oldest := sent.length - capacity
  if receiver.next < oldest then
    some (none, { receiver with
      next := oldest, skipped := receiver.skipped + (oldest - receiver.next) })
  else
    sent[receiver.next]?.map fun value =>
      (some value, { receiver with next := receiver.next + 1, read := receiver.read ++ [value] })

/-- What has been sent to a receiver up to where it is. -/
def passed (sent : List α) (receiver : BroadcastReceiver α) : List α :=
  (sent.take receiver.next).drop receiver.start

/-- A receiver has read what was sent to it in order, but for what it has skipped. -/
structure Receives (sent : List α) (receiver : BroadcastReceiver α) : Prop where
  start_le : receiver.start ≤ receiver.next
  next_le : receiver.next ≤ sent.length
  sublist : receiver.read.Sublist (receiver.passed sent)
  count : receiver.read.length + receiver.skipped = receiver.next - receiver.start

variable {capacity : ℕ} {sent : List α} {receiver receiver' : BroadcastReceiver α}

theorem passed_append (h : receiver.next ≤ sent.length) (more : List α) :
    receiver.passed (sent ++ more) = receiver.passed sent := by
  rw [passed, passed, List.take_append_of_le_length h]

theorem start_recv {value : Option α}
    (h : receiver.recv capacity sent = some (value, receiver')) :
    receiver'.start = receiver.start := by
  rw [BroadcastReceiver.recv] at h
  split at h
  next =>
    cases h
    rfl
  next =>
    obtain ⟨_, _, hEq⟩ := Option.map_eq_some_iff.mp h
    cases hEq
    rfl

theorem read_recv {value : Option α}
    (h : receiver.recv capacity sent = some (value, receiver')) :
    receiver'.read = receiver.read ++ value.toList := by
  rw [BroadcastReceiver.recv] at h
  split at h
  next =>
    cases h
    exact (List.append_nil _).symm
  next =>
    obtain ⟨_, _, hEq⟩ := Option.map_eq_some_iff.mp h
    cases hEq
    rfl

/-- What is passed grows. -/
theorem passed_sublist (sent : List α) {receiver receiver' : BroadcastReceiver α}
    (hStart : receiver'.start = receiver.start) (hNext : receiver.next ≤ receiver'.next) :
    (receiver.passed sent).Sublist (receiver'.passed sent) := by
  rw [passed, passed, hStart]
  exact (List.take_prefix_take_left hNext).sublist.drop receiver.start

namespace Receives

theorem subscribe (sent : List α) : Receives sent (.subscribe sent) :=
  ⟨Nat.le_refl _, Nat.le_refl _, List.nil_sublist _, (Nat.sub_self _).symm⟩

theorem send (h : Receives sent receiver) (more : List α) : Receives (sent ++ more) receiver where
  start_le := h.start_le
  next_le := by
    rw [List.length_append]
    exact Nat.le_add_right_of_le h.next_le
  sublist := by
    rw [passed_append h.next_le]
    exact h.sublist
  count := h.count

theorem recv {value : Option α} (h : Receives sent receiver)
    (hRecv : receiver.recv capacity sent = some (value, receiver')) : Receives sent receiver' := by
  obtain ⟨hStart, hNext, hSublist, hCount⟩ := h
  rw [BroadcastReceiver.recv] at hRecv
  split at hRecv
  next hBehind =>
    cases hRecv
    have hNext := Nat.le_of_lt hBehind
    refine ⟨Nat.le_trans hStart hNext, Nat.sub_le _ _, ?_, ?_⟩
    · exact hSublist.trans (passed_sublist sent rfl hNext)
    · show receiver.read.length + (receiver.skipped + (sent.length - capacity - receiver.next)) =
        sent.length - capacity - receiver.start
      omega
  next =>
    obtain ⟨value, hValue, hEq⟩ := Option.map_eq_some_iff.mp hRecv
    cases hEq
    obtain ⟨hLt, rfl⟩ := List.getElem?_eq_some_iff.mp hValue
    refine ⟨Nat.le_succ_of_le hStart, hLt, ?_, ?_⟩
    · show (receiver.read ++ [sent[receiver.next]]).Sublist
        ((sent.take (receiver.next + 1)).drop receiver.start)
      rw [List.take_add_one, hValue, List.drop_append_of_le_length (by simp; omega)]
      exact hSublist.append_right _
    · show (receiver.read ++ [sent[receiver.next]]).length + receiver.skipped = _
      rw [List.length_append, List.length_singleton]
      show _ = receiver.next + 1 - receiver.start
      omega

/-- A receiver that has skipped nothing has read everything up to where it is. -/
theorem read_eq (h : Receives sent receiver) (hSkipped : receiver.skipped = 0) :
    receiver.read = receiver.passed sent := by
  obtain ⟨hStart, hNext, hSublist, hCount⟩ := h
  refine hSublist.eq_of_length ?_
  rw [passed, List.length_drop, List.length_take, Nat.min_eq_left hNext]
  omega

end Receives

end BroadcastReceiver

end ProofKit
