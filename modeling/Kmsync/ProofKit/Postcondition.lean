import Mathlib.Control.Monad.Basic

/-! Postconditions of programs over a state that may end in an error.  `Meets m Q E s` says how `m`
ends from `s`: with a result that meets `Q`, or with an error that meets `E`. -/

namespace ProofKit

universe u

variable {ε σ α β : Type u}

def Meets (m : EStateM ε σ α) (Q : α → σ → Prop) (E : ε → σ → Prop) (s : σ) : Prop :=
  match m s with
  | .ok a s => Q a s
  | .error e s => E e s

/-- The program ends in a result that meets `Q`. -/
abbrev Ends (m : EStateM ε σ α) (Q : α → σ → Prop) (s : σ) : Prop := Meets m Q (fun _ _ => False) s

variable {m : EStateM ε σ α} {f : α → EStateM ε σ β} {Q Q' : α → σ → Prop} {R : β → σ → Prop}
  {E E' : ε → σ → Prop} {s s' : σ}

theorem bind_of_ok {a : α} (h : m s = .ok a s') : (m >>= f) s = f a s' := by
  simp only [Bind.bind, EStateM.bind, h]

theorem bind_of_error {e : ε} (h : m s = .error e s') : (m >>= f) s = .error e s' := by
  simp only [Bind.bind, EStateM.bind, h]

@[simp] theorem meets_bind :
    Meets (m >>= f) R E s ↔ Meets m (fun a s' => Meets (f a) R E s') E s := by
  simp only [Meets, Bind.bind, EStateM.bind]
  cases m s <;> rfl

@[simp] theorem meets_discard {Q : PUnit → σ → Prop} :
    Meets (discard m) Q E s ↔ Meets m (fun _ s' => Q ⟨⟩ s') E s := by
  change Meets (EStateM.map (Function.const α PUnit.unit) m) Q E s ↔ _
  simp only [Meets, EStateM.map]
  cases m s <;> rfl

@[simp] theorem meets_get {Q : σ → σ → Prop} : Meets (get : EStateM ε σ σ) Q E s ↔ Q s s := Iff.rfl

@[simp] theorem meets_set {Q : PUnit → σ → Prop} :
    Meets (set s' : EStateM ε σ PUnit) Q E s ↔ Q ⟨⟩ s' :=
  Iff.rfl

@[simp] theorem meets_modify {g : σ → σ} {Q : PUnit → σ → Prop} :
    Meets (modify g : EStateM ε σ PUnit) Q E s ↔ Q ⟨⟩ (g s) :=
  Iff.rfl

@[simp] theorem meets_throw {e : ε} : Meets (throw e : EStateM ε σ α) Q E s ↔ E e s := Iff.rfl

@[simp] theorem meets_ofExcept_ok {a : α} :
    Meets (MonadExcept.ofExcept (Except.ok a : Except ε α) : EStateM ε σ α) Q E s ↔ Q a s :=
  Iff.rfl

@[simp] theorem meets_ofExcept_error {e : ε} :
    Meets (MonadExcept.ofExcept (Except.error e : Except ε α) : EStateM ε σ α) Q E s ↔ E e s :=
  Iff.rfl

theorem meets_ofExcept {x : Except ε α} :
    Meets (MonadExcept.ofExcept x : EStateM ε σ α) Q E s ↔
      (∀ a, x = .ok a → Q a s) ∧ ∀ e, x = .error e → E e s := by
  cases x with
  | ok a => simp
  | error e => simp

/-- A program on a part of the state; `put` writes the part back, also after an error. -/
def onPart {τ : Type u} (part : σ → τ) (put : τ → σ → σ) (m : EStateM ε τ α) : EStateM ε σ α :=
  fun s =>
    match m (part s) with
    | .ok a t => .ok a (put t s)
    | .error e t => .error e (put t s)

theorem onPart_of_ok {τ : Type u} {part : σ → τ} {put : τ → σ → σ} {m : EStateM ε τ α} {a : α}
    {t : τ} (h : m (part s) = .ok a t) : onPart part put m s = .ok a (put t s) := by
  rw [onPart, h]

theorem onPart_of_error {τ : Type u} {part : σ → τ} {put : τ → σ → σ} {m : EStateM ε τ α} {e : ε}
    {t : τ} (h : m (part s) = .error e t) : onPart part put m s = .error e (put t s) := by
  rw [onPart, h]

@[simp] theorem meets_onPart {τ : Type u} {part : σ → τ} {put : τ → σ → σ} {m : EStateM ε τ α} :
    Meets (onPart part put m) Q E s ↔
      Meets m (fun a t => Q a (put t s)) (fun e t => E e (put t s)) (part s) := by
  simp only [Meets, onPart]
  cases m (part s) <;> rfl

namespace Meets

theorem of_ok {a : α} (h : m s = .ok a s') : Meets m Q E s ↔ Q a s' := by
  rw [Meets, h]

theorem of_error {e : ε} (h : m s = .error e s') : Meets m Q E s ↔ E e s' := by
  rw [Meets, h]

instance [∀ a s, Decidable (Q a s)] [∀ e s, Decidable (E e s)] : Decidable (Meets m Q E s) :=
  match hm : m s with
  | .ok a s' => decidable_of_iff (Q a s') (of_ok hm).symm
  | .error e s' => decidable_of_iff (E e s') (of_error hm).symm

/-- How the program ends. -/
theorem ok_or_error (h : Meets m Q E s) :
    (∃ a s', m s = .ok a s' ∧ Q a s') ∨ ∃ e s', m s = .error e s' ∧ E e s' := by
  cases hm : m s with
  | ok a s' => exact Or.inl ⟨a, s', rfl, (of_ok hm).mp h⟩
  | error e s' => exact Or.inr ⟨e, s', rfl, (of_error hm).mp h⟩

theorem exists_error (h : Meets m (fun _ _ => False) E s) : ∃ e s', m s = .error e s' ∧ E e s' := by
  rcases h.ok_or_error with ⟨a, s', -, hFalse⟩ | hError
  · exact hFalse.elim
  · exact hError

theorem mono (h : Meets m Q E s) (hQ : ∀ a s', Q a s' → Q' a s')
    (hE : ∀ e s', E e s' → E' e s') : Meets m Q' E' s := by
  rcases h.ok_or_error with ⟨a, s', hm, hPost⟩ | ⟨e, s', hm, hPost⟩
  · exact (of_ok hm).mpr (hQ a s' hPost)
  · exact (of_error hm).mpr (hE e s' hPost)

end Meets

namespace Ends

theorem mono (h : Ends m Q s) (hQ : ∀ a s', Q a s' → Q' a s') : Ends m Q' s :=
  Meets.mono h hQ fun _ _ => id

/-- One part of a program after the other, by the spec of the first. -/
theorem andThen (h : Ends m Q s) (hf : ∀ a s', Q a s' → Ends (f a) R s') : Ends (m >>= f) R s :=
  meets_bind.mpr (h.mono hf)

theorem exists_ok (h : Ends m Q s) : ∃ a s', m s = .ok a s' ∧ Q a s' := by
  rcases Meets.ok_or_error h with hOk | ⟨e, s', -, hFalse⟩
  · exact hOk
  · exact hFalse.elim

end Ends

/-- The program keeps `I`, or ends in an error and leaves `L`. -/
def Keeps (I L : σ → Prop) (m : EStateM ε σ α) : Prop :=
  ∀ s, I s → Meets m (fun _ => I) (fun _ => L) s

variable {I L : σ → Prop}

/-- One part of a program after another that has established what the second keeps. -/
theorem Meets.thenKeeps (h : Meets m (fun _ => I) (fun _ => L) s) (hf : ∀ a, Keeps I L (f a)) :
    Meets (m >>= f) (fun _ => I) (fun _ => L) s := by
  rw [meets_bind]
  apply h.mono
  · intro a s' hs'
    exact hf a s' hs'
  · intro _ _ hs'
    exact hs'

theorem Keeps.bind (h : Keeps I L m) (hf : ∀ a, Keeps I L (f a)) : Keeps I L (m >>= f) :=
  fun s hs => (h s hs).thenKeeps hf

theorem keeps_pure (a : α) : Keeps I L (pure a : EStateM ε σ α) := fun _ hs => hs

end ProofKit
