import Mathlib.Data.List.Basic

/-! Calls and answers along a list: an element that calls for an answer has one behind it. -/

namespace ProofKit

variable {α β : Type}

/-- Each element that calls is answered by one behind it. -/
def Answered (calls : α → Prop) (answers : α → α → Prop) : List α → Prop
  | [] => True
  | x :: xs => (calls x → ∃ y ∈ xs, answers x y) ∧ Answered calls answers xs

namespace Answered

variable {calls : α → Prop} {answers answers' : α → α → Prop} {xs : List α}

instance decidable [DecidablePred calls] [∀ x y, Decidable (answers x y)] :
    (xs : List α) → Decidable (Answered calls answers xs)
  | [] => .isTrue trivial
  | _ :: xs => @instDecidableAnd _ _ inferInstance (decidable xs)

/-- Calls that one relation answers are answered by another that follows from it. -/
theorem imp (h : Answered calls answers xs)
    (hAnswers : ∀ x y, calls x → answers x y → answers' x y) : Answered calls answers' xs := by
  induction xs with
  | nil => trivial
  | cons x xs ih =>
    refine ⟨fun hCall => ?_, ih h.2⟩
    obtain ⟨y, hy, hAnswer⟩ := h.1 hCall
    exact ⟨y, hy, hAnswers x y hCall hAnswer⟩

/-- Calls and answers among the images of elements. -/
theorem map_iff (f : β → α) (ys : List β) :
    Answered calls answers (ys.map f) ↔
      Answered (fun y => calls (f y)) (fun y z => answers (f y) (f z)) ys := by
  induction ys with
  | nil => exact Iff.rfl
  | cons y ys ih => simp only [List.map_cons, Answered, ih, List.mem_map, exists_exists_and_eq_and]

end Answered

end ProofKit
