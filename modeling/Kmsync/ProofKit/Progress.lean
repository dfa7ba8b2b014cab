import Mathlib.Algebra.BigOperators.Group.List.Basic
import Mathlib.Algebra.Order.Group.Basic

/-! Runs that have some way to go.  An input that does not end the run shortens the way by what the
input is worth, and leaves some of it; so a run ends within inputs that are worth the whole way. -/

namespace ProofKit

section Progress

variable {σ ι κ : Type} [AddCommGroup κ] [LinearOrder κ] [IsOrderedAddMonoid κ]

/-- What an allowed input does to a state inside: it ends the stay there, or brings its end
nearer. -/
structure Progresses (next : σ → ι → σ) (Inside : σ → Prop) (Ends : σ → ι → Prop)
    (Allowed : ι → Prop) (way : σ → κ) (worth : ι → κ) : Prop where
  step : ∀ s i, Inside s → Allowed i →
    Ends s i ∨ Inside (next s i) ∧ 0 < way (next s i) ∧ way (next s i) + worth i ≤ way s

variable {next : σ → ι → σ} {Inside : σ → Prop} {Ends : σ → ι → Prop} {Allowed : ι → Prop}
  {way : σ → κ} {worth : ι → κ}

theorem Progresses.exists_end (h : Progresses next Inside Ends Allowed way worth) {s : σ}
    (hInside : Inside s) {inputs : List ι} (hNonempty : inputs ≠ [])
    (hAllowed : ∀ i ∈ inputs, Allowed i) (hWorth : way s ≤ (inputs.map worth).sum) :
    ∃ before i, before ++ [i] <+: inputs ∧ Inside (before.foldl next s) ∧
      Ends (before.foldl next s) i := by
  induction inputs generalizing s with
  | nil => exact absurd rfl hNonempty
  | cons i inputs ih =>
    rcases h.step s i hInside (hAllowed i List.mem_cons_self) with
      hEnds | ⟨hInside', hLeft, hWay⟩
    · exact ⟨[], i, List.prefix_append [i] inputs, hInside, hEnds⟩
    rw [List.map_cons, List.sum_cons] at hWorth
    have hRest : way (next s i) ≤ (inputs.map worth).sum := by
      have := hWay.trans hWorth
      rw [add_comm (worth i)] at this
      exact le_of_add_le_add_right this
    have hMore : inputs ≠ [] := by
      rintro rfl
      exact absurd hRest (not_le_of_gt hLeft)
    obtain ⟨before, j, hPrefix, hStays, hEnds⟩ :=
      ih hInside' hMore (fun j hj => hAllowed j (List.mem_cons_of_mem i hj)) hRest
    exact ⟨i :: before, j, (List.prefix_cons_inj i).mpr hPrefix, hStays, hEnds⟩

end Progress

end ProofKit
