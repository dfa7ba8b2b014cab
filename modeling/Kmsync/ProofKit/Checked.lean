import Kmsync.ProofKit.Bytes

/-! Computations that may panic.  A read out of bounds ends in `Fault.panic`, told apart from the
errors a function reports on purpose. -/

namespace ProofKit

/-- How a computation that yields no value ends. -/
inductive Fault (ε : Type) where
  | error (e : ε)
  | panic
  deriving DecidableEq

/-- A computation that yields an `α`, reports an `ε` or panics. -/
abbrev Checked (ε α : Type) := Except (Fault ε) α

variable {ε α β : Type}

/-- An expected value; to find none is a panic. -/
def orPanic : Option α → Checked ε α
  | some x => .ok x
  | none => .error .panic

@[simp] theorem orPanic_some (x : α) : (orPanic (some x) : Checked ε α) = .ok x := rfl

def readSlice (bytes : List UInt8) (start stop : Nat) : Checked ε (List UInt8) :=
  orPanic (slice? bytes start stop)

def readFrom (bytes : List UInt8) (start : Nat) : Checked ε (List UInt8) :=
  orPanic (sliceFrom? bytes start)

def readLe (β : Type) [LeInt β] (bytes : List UInt8) (start stop : Nat) : Checked ε β :=
  orPanic (leAt? β bytes start stop)

def readByte (bytes : List UInt8) (index : Nat) : Checked ε UInt8 :=
  orPanic bytes[index]?

@[simp] theorem ok_bind (x : α) (f : α → Checked ε β) :
    ((.ok x : Checked ε α) >>= f) = f x := rfl

@[simp] theorem error_bind (e : Fault ε) (f : α → Checked ε β) :
    ((.error e : Checked ε α) >>= f) = .error e := rfl

@[simp] theorem map_ok (f : α → β) (x : α) : (f <$> (.ok x : Checked ε α)) = .ok (f x) := rfl

@[simp] theorem pure_eq_ok (x : α) : (pure x : Checked ε α) = .ok x := rfl

theorem bind_eq_ok {m : Checked ε α} {f : α → Checked ε β} {y : β} :
    (m >>= f) = .ok y ↔ ∃ x, m = .ok x ∧ f x = .ok y := by
  cases m <;> simp

theorem orPanic_eq_ok {x : Option α} {y : α} : (orPanic x : Checked ε α) = .ok y ↔ x = some y := by
  cases x <;> simp [orPanic]

/-- The computation ends in a value or a reported error. -/
def NoPanic (m : Checked ε α) : Prop := m ≠ .error .panic

namespace NoPanic

variable {m : Checked ε α}

theorem ok (x : α) : NoPanic (.ok x : Checked ε α) := nofun

theorem error (e : ε) : NoPanic (.error (.error e) : Checked ε α) := nofun

theorem bind {f : α → Checked ε β} (h : NoPanic m) (hf : ∀ x, NoPanic (f x)) :
    NoPanic (m >>= f) := by
  cases m with
  | ok x => exact hf x
  | error e => exact fun hPanic => h (by cases hPanic; rfl)

/-- What follows may rely on the value that came out. -/
theorem bind_of_ok {f : α → Checked ε β} (h : NoPanic m) (hf : ∀ x, m = .ok x → NoPanic (f x)) :
    NoPanic (m >>= f) := by
  cases m with
  | ok x => exact hf x rfl
  | error e => exact fun hPanic => h (by cases hPanic; rfl)

theorem map (f : α → β) (h : NoPanic m) : NoPanic (f <$> m) := by
  cases m with
  | ok x => exact ok (f x)
  | error e => exact fun hPanic => h (by cases hPanic; rfl)

theorem ite {p : Prop} [Decidable p] {m' : Checked ε α} (h : p → NoPanic m)
    (h' : ¬ p → NoPanic m') : NoPanic (if p then m else m') := by
  split
  next hp => exact h hp
  next hp => exact h' hp

/-- A read within the bounds does not panic. -/
theorem readLe [LeInt β] {bytes : List UInt8} {start stop : Nat} (h : start ≤ stop)
    (hStop : stop ≤ bytes.length) (hWidth : stop - start = LeInt.width β) :
    NoPanic (readLe β bytes start stop : Checked ε β) := by
  obtain ⟨x, hx⟩ := leAt?_isSome (β := β) h hStop hWidth
  rw [ProofKit.readLe, hx]
  exact ok x

theorem readSlice {bytes : List UInt8} {start stop : Nat} (h : start ≤ stop)
    (hStop : stop ≤ bytes.length) : NoPanic (readSlice bytes start stop : Checked ε (List UInt8)) := by
  rw [ProofKit.readSlice, slice?_eq_some h hStop]
  exact ok _

theorem readFrom {bytes : List UInt8} {start : Nat} (h : start ≤ bytes.length) :
    NoPanic (readFrom bytes start : Checked ε (List UInt8)) := by
  rw [ProofKit.readFrom, sliceFrom?, if_pos h]
  exact ok _

theorem readByte {bytes : List UInt8} {index : Nat} (h : index < bytes.length) :
    NoPanic (readByte bytes index : Checked ε UInt8) := by
  rw [ProofKit.readByte, List.getElem?_eq_getElem h]
  exact ok _

/-- A computation that does not panic yields a value or reports an error. -/
theorem ok_or_error (h : NoPanic m) : (∃ x, m = .ok x) ∨ ∃ e, m = .error (.error e) := by
  cases m with
  | ok x => exact .inl ⟨x, rfl⟩
  | error e =>
    cases e with
    | error e => exact .inr ⟨e, rfl⟩
    | panic => exact absurd rfl h

/-- Without a panic, what is not a value is a reported error. -/
theorem map_isError_iff {f : α → β} (h : NoPanic m) :
    (∃ e, f <$> m = .error (.error e)) ↔ ¬ ∃ x, m = .ok x := by
  cases m with
  | ok x => exact iff_of_false (by rintro ⟨e, ⟨⟩⟩) (fun hNone => hNone ⟨x, rfl⟩)
  | error e =>
    cases e with
    | error e => exact iff_of_true ⟨e, rfl⟩ (by rintro ⟨x, ⟨⟩⟩)
    | panic => exact absurd rfl h

end NoPanic

end ProofKit
