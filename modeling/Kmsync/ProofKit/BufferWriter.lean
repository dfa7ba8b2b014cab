import Kmsync.ProofKit.Checked

/-! Programs that write a message into a given buffer from its start on.  `Fills` is the triple of
such a program: from a buffer that starts with `before` it returns a value and leaves one that
starts with `after`.  `Refuses` says that it reports an error instead. -/

namespace ProofKit

/-- A computation over a buffer, which may end in an error or a panic. -/
abbrev BufferM (ε α : Type) := EStateM (Fault ε) (List UInt8) α

namespace BufferM

variable {ε α β : Type}

/-- The size of the buffer. -/
def size : BufferM ε Nat := fun out => .ok out.length out

/-- Writing out of bounds is a panic. -/
def write (offset : Nat) (bytes : List UInt8) : BufferM ε Unit := fun out =>
  if offset + bytes.length ≤ out.length then .ok () (overwrite out offset bytes)
  else .error .panic out

def report (e : ε) : BufferM ε α := fun out => .error (.error e) out

/-- A value that may be missing, which is the error `e`. -/
def orThrow (e : ε) : Option α → BufferM ε α
  | some x => pure x
  | none => report e

def Fills (n : Nat) (m : BufferM ε α) (before after : List UInt8) (x : α) : Prop :=
  ∀ out, Filled n out before → ∃ out', m out = .ok x out' ∧ Filled n out' after

def Refuses (n : Nat) (m : BufferM ε α) (before : List UInt8) (e : ε) : Prop :=
  ∀ out, Filled n out before → ∃ out', m out = .error (.error e) out'

variable {n : Nat} {before middle after : List UInt8} {m : BufferM ε α} {f : α → BufferM ε β}
  {x : α} {y : β} {e : ε}

namespace Fills

theorem pure : Fills n (Pure.pure x : BufferM ε α) before before x := fun out h => ⟨out, rfl, h⟩

theorem bind (h : Fills n m before middle x) (hf : Fills n (f x) middle after y) :
    Fills n (m >>= f) before after y := fun out hOut => by
  obtain ⟨out', hm, hOut'⟩ := h out hOut
  obtain ⟨out'', hfx, hOut''⟩ := hf out' hOut'
  exact ⟨out'', by simp only [Bind.bind, EStateM.bind, hm, hfx], hOut''⟩

theorem size : Fills n (size : BufferM ε Nat) before before n :=
  fun out h => ⟨out, by rw [BufferM.size, h.size_eq], h⟩

theorem write {offset : Nat} {bytes : List UInt8} (hOffset : offset = before.length)
    (hFits : before.length + bytes.length ≤ n) :
    Fills n (write offset bytes : BufferM ε Unit) before (before ++ bytes) () := fun out h =>
  ⟨_, if_pos (by rw [hOffset, h.size_eq]; exact hFits), h.write hOffset hFits⟩

/-- A write right behind what is written, and then the rest of the program. -/
theorem write_bind {offset : Nat} {bytes : List UInt8} {f : Unit → BufferM ε β}
    (hOffset : offset = before.length) (hFits : before.length + bytes.length ≤ n)
    (hf : Fills n (f ()) (before ++ bytes) after y) :
    Fills n (BufferM.write offset bytes >>= f) before after y :=
  bind (write hOffset hFits) hf

theorem orThrow_bind {v : Option α} (h : v = some x) (hf : Fills n (f x) before after y) :
    Fills n (orThrow e v >>= f) before after y := by
  rw [h]
  exact bind pure hf

theorem size_bind {f : Nat → BufferM ε β} (hf : Fills n (f n) before after y) :
    Fills n (BufferM.size >>= f) before after y :=
  bind size hf

/-- A check that passes. -/
theorem check {p : Prop} [Decidable p] (hp : ¬ p) (h : Fills n m before after x) :
    Fills n (if p then report e else m) before after x := by
  rwa [if_neg hp]

end Fills

namespace Refuses

theorem report : Refuses n (report e : BufferM ε α) before e := fun out _ => ⟨out, rfl⟩

theorem bind (h : Refuses n m before e) : Refuses n (m >>= f) before e := fun out hOut => by
  obtain ⟨out', hm⟩ := h out hOut
  exact ⟨out', by simp only [Bind.bind, EStateM.bind, hm]⟩

theorem bind_right (h : Fills n m before middle x) (hf : Refuses n (f x) middle e) :
    Refuses n (m >>= f) before e := fun out hOut => by
  obtain ⟨out', hm, hOut'⟩ := h out hOut
  obtain ⟨out'', hfx⟩ := hf out' hOut'
  exact ⟨out'', by simp only [Bind.bind, EStateM.bind, hm, hfx]⟩

theorem write_bind {offset : Nat} {bytes : List UInt8} {f : Unit → BufferM ε β}
    (hOffset : offset = before.length) (hFits : before.length + bytes.length ≤ n)
    (hf : Refuses n (f ()) (before ++ bytes) e) :
    Refuses n (BufferM.write offset bytes >>= f) before e :=
  bind_right (.write hOffset hFits) hf

theorem size_bind {f : Nat → BufferM ε β} (hf : Refuses n (f n) before e) :
    Refuses n (BufferM.size >>= f) before e :=
  bind_right .size hf

/-- A value is missing, or the rest of the program refuses. -/
theorem orThrow_bind {v : Option α} (hf : ∀ x, v = some x → Refuses n (f x) before e) :
    Refuses n (orThrow e v >>= f) before e := by
  cases v with
  | none => exact bind report
  | some x => exact bind_right .pure (hf x rfl)

/-- A check that passes. -/
theorem check {p : Prop} [Decidable p] {e' : ε} (hp : ¬ p) (h : Refuses n m before e) :
    Refuses n (if p then BufferM.report e' else m) before e := by
  rwa [if_neg hp]

end Refuses

end BufferM

end ProofKit
