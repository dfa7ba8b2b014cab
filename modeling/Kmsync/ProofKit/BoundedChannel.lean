import Mathlib.Data.List.Basic

/-! A bounded channel, in which things wait for the one thread that receives them. -/

namespace ProofKit

/-- A channel is receiving until its receiver is dropped. -/
structure BoundedChannel (α : Type) where
  capacity : ℕ
  items : List α
  receiving : Bool

inductive TrySendError where
  | full | disconnected
  deriving DecidableEq

namespace BoundedChannel

variable {α : Type}

def empty (capacity : ℕ) : BoundedChannel α := ⟨capacity, [], true⟩

def trySend (channel : BoundedChannel α) (x : α) : Except TrySendError (BoundedChannel α) :=
  if !channel.receiving then .error .disconnected
  else if channel.items.length < channel.capacity then
    .ok { channel with items := channel.items ++ [x] }
  else .error .full

/-- The receiver is dropped, with all that was waiting. -/
def close (channel : BoundedChannel α) : BoundedChannel α :=
  { channel with items := [], receiving := false }

variable {channel channel' : BoundedChannel α} {x : α}

theorem trySend_eq_ok (h : channel.trySend x = .ok channel') :
    channel' = { channel with items := channel.items ++ [x] } ∧ channel.receiving ∧
      channel.items.length < channel.capacity := by
  unfold trySend at h
  split at h
  next => cases h
  next hReceiving =>
    split at h
    next hRoom =>
      cases h
      exact ⟨rfl, by simpa using hReceiving, hRoom⟩
    next => cases h

theorem trySend_eq_disconnected (h : channel.trySend x = .error .disconnected) :
    channel.receiving = false := by
  unfold trySend at h
  split at h
  next hReceiving => simpa using hReceiving
  next => split at h <;> cases h

end BoundedChannel

end ProofKit
