import Mathlib.Data.List.Basic

/-! The receiving end of a channel, together with what is still to arrive, and the lists that come
of a list when entries are passed over in favour of the next one of their kind. -/

namespace ProofKit

variable {α : Type}

/-- What is in the channel, and the batches that arrive later: one before each further look at the
channel, and after the last one the senders are gone. -/
structure Arrivals (α : Type) where
  queue : List α
  later : List (List α)

namespace Arrivals

def all (rx : Arrivals α) : List α := rx.queue ++ rx.later.flatten

/-- `rx.recv()`, which waits until something arrives -/
def recv : List α → List (List α) → Option (α × Arrivals α)
  | x :: queue, later => some (x, ⟨queue ++ later.headD [], later.tail⟩)
  | [], batch :: later => recv batch later
  | [], [] => none

/-- `rx.try_recv()` -/
def tryRecv (rx : Arrivals α) : Option α × Arrivals α :=
  match rx.queue ++ rx.later.headD [] with
  | x :: queue => (some x, ⟨queue, rx.later.tail⟩)
  | [] => (none, ⟨[], rx.later.tail⟩)

theorem headD_append_flatten_tail (later : List (List α)) :
    later.headD [] ++ later.tail.flatten = later.flatten := by
  cases later <;> rfl

theorem recv_eq_some {queue : List α} {later : List (List α)} {x : α} {rx : Arrivals α}
    (h : recv queue later = some (x, rx)) : queue ++ later.flatten = x :: rx.all := by
  induction later generalizing queue with
  | nil =>
    cases queue with
    | nil => cases h
    | cons y queue =>
      cases h
      simp [all]
  | cons batch later ih =>
    cases queue with
    | nil => exact ih h
    | cons y queue =>
      cases h
      simp [all]

theorem recv_eq_none {queue : List α} {later : List (List α)} (h : recv queue later = none) :
    queue ++ later.flatten = [] := by
  induction later generalizing queue with
  | nil =>
    cases queue with
    | nil => rfl
    | cons y queue => cases h
  | cons batch later ih =>
    cases queue with
    | nil => exact ih h
    | cons y queue => cases h

theorem all_tryRecv (rx : Arrivals α) : rx.all = rx.tryRecv.1.toList ++ rx.tryRecv.2.all := by
  have hLater := headD_append_flatten_tail rx.later
  rw [all, ← hLater, ← List.append_assoc, tryRecv]
  cases rx.queue ++ rx.later.headD [] with
  | nil => rfl
  | cons x queue => rfl

end Arrivals

/-- Some entries are left out, each of the kind `p` and with another of that kind right behind it.
-/
inductive Conflates (p : α → Bool) : List α → List α → Prop
  | nil : Conflates p [] []
  | keep (x : α) {l k : List α} (h : Conflates p l k) : Conflates p (x :: l) (x :: k)
  | pass {x y : α} {l k : List α} (hx : p x) (hy : p y) (h : Conflates p (y :: l) k) :
    Conflates p (x :: y :: l) k

namespace Conflates

variable {p : α → Bool} {l k : List α}

theorem refl (p : α → Bool) (l : List α) : Conflates p l l := by
  induction l with
  | nil => exact .nil
  | cons x l ih => exact .keep x ih

theorem length_le (h : Conflates p l k) : k.length ≤ l.length := by
  induction h with
  | nil => exact Nat.le_refl 0
  | keep x h ih => exact Nat.succ_le_succ ih
  | pass hx hy h ih => exact Nat.le_succ_of_le ih

/-- The entries of other kinds are all there. -/
theorem filter_not (h : Conflates p l k) : (k.filter fun x => !p x) = l.filter fun x => !p x := by
  induction h with
  | nil => rfl
  | keep x h ih => rw [List.filter_cons, List.filter_cons, ih]
  | pass hx hy h ih =>
    rw [ih]
    exact (List.filter_cons_of_neg (by rw [hx]; exact Bool.false_ne_true)).symm

end Conflates

end ProofKit
