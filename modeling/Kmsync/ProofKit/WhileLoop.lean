import Kmsync.ProofKit.Postcondition

/-! Loops that repeat a program until it returns `false`.  They may run forever, so that the number
of rounds is bounded by a fuel: `none` says that it was not enough. -/

namespace ProofKit

variable {ε σ : Type}

/-- `while body? {}`, cut off after `fuel` rounds. -/
def whileTrue (body : EStateM ε σ Bool) : Nat → σ → Option (EStateM.Result ε σ Unit)
  | 0, _ => none
  | fuel + 1, s =>
    match body s with
    | .ok true s => whileTrue body fuel s
    | .ok false s => some (.ok () s)
    | .error error s => some (.error error s)

/-- The state after some rounds that have all asked for another. -/
def whileRounds (body : EStateM ε σ Bool) : Nat → σ → Option σ
  | 0, s => some s
  | rounds + 1, s =>
    match body s with
    | .ok true s => whileRounds body rounds s
    | .ok false _ | .error _ _ => none

variable {body : EStateM ε σ Bool} {I : σ → Prop} {s : σ}

/-- A loop ends if a measure decreases in every round but the last. -/
theorem exists_whileTrue_eq_ok {Q : σ → Prop} (measure : σ → Nat)
    (hBody : ∀ s, I s → Ends body
      (fun more s' => if more then I s' ∧ measure s' < measure s else Q s') s) (hs : I s) :
    ∃ fuel s', whileTrue body fuel s = some (.ok () s') ∧ Q s' := by
  induction hMeasure : measure s using Nat.strongRecOn generalizing s with
  | ind n ih =>
    subst hMeasure
    obtain ⟨more, s₁, hEq, h⟩ := (hBody s hs).exists_ok
    cases more with
    | true =>
      obtain ⟨fuel, s', hLoop, hQ⟩ := ih (measure s₁) h.2 h.1 rfl
      exact ⟨fuel + 1, s', by rw [whileTrue, hEq]; exact hLoop, hQ⟩
    | false => exact ⟨1, s₁, by rw [whileTrue, hEq], h⟩

/-- A loop runs forever if every round keeps an invariant and asks for one more. -/
theorem whileTrue_eq_none (hBody : ∀ s, I s → Ends body (fun more s' => more = true ∧ I s') s)
    (hs : I s) (fuel : Nat) : whileTrue body fuel s = none := by
  induction fuel generalizing s with
  | zero => rfl
  | succ fuel ih =>
    obtain ⟨more, s', hEq, rfl, hs'⟩ := (hBody s hs).exists_ok
    rw [whileTrue, hEq]
    exact ih hs'

/-- What every round keeps, the loop keeps. -/
theorem whileTrue_keeps {E : ε → σ → Prop} {fuel : Nat} {result : EStateM.Result ε σ Unit}
    (hBody : ∀ s, I s → Meets body (fun _ => I) E s) (hs : I s)
    (h : whileTrue body fuel s = some result) : Meets (fun _ => result) (fun _ => I) E s := by
  induction fuel generalizing s with
  | zero => cases h
  | succ fuel ih =>
    rw [whileTrue] at h
    split at h
    next s' hEq =>
      have hRest := ih (s := s') ((Meets.of_ok hEq).mp (hBody s hs)) h
      exact hRest
    next s' hEq =>
      obtain rfl := Option.some.inj h
      exact (Meets.of_ok hEq).mp (hBody s hs)
    next error s' hEq =>
      obtain rfl := Option.some.inj h
      exact (Meets.of_error hEq).mp (hBody s hs)

/-- Also in the middle of the loop. -/
theorem whileRounds_keeps {E : ε → σ → Prop} {rounds : Nat} {s' : σ}
    (hBody : ∀ s, I s → Meets body (fun _ => I) E s) (hs : I s)
    (h : whileRounds body rounds s = some s') : I s' := by
  induction rounds generalizing s with
  | zero => exact Option.some.inj h ▸ hs
  | succ rounds ih =>
    rw [whileRounds] at h
    split at h
    next s₁ hEq => exact ih ((Meets.of_ok hEq).mp (hBody s hs)) h
    next => cases h
    next => cases h

end ProofKit
