import Mathlib.Data.List.Basic
import Mathlib.Algebra.BigOperators.Group.List.Basic
import Mathlib.Tactic.Ring

/-! Lists cut into chunks of one size, the last of which may be shorter, and loops that push one
result for each element of a list. -/

namespace ProofKit

variable {α : Type} {size : ℕ} {l : List α}

def chunks (size : ℕ) (l : List α) : List (List α) :=
  if size = 0 ∨ l = [] then [] else l.take size :: chunks size (l.drop size)
termination_by l.length
decreasing_by
  have := List.length_pos_iff.mpr fun h : l = [] => absurd (Or.inr h) ‹_›
  simp only [List.length_drop]
  omega

@[simp] theorem chunks_nil (size : ℕ) : chunks size ([] : List α) = [] := by
  rw [chunks, if_pos (Or.inr rfl)]

theorem chunks_of_ne_nil (hSize : 0 < size) (hl : l ≠ []) :
    chunks size l = l.take size :: chunks size (l.drop size) := by
  rw [chunks, if_neg (by simp [hl]; omega)]

theorem flatten_chunks (hSize : 0 < size) (l : List α) : (chunks size l).flatten = l := by
  induction hLength : l.length using Nat.strongRecOn generalizing l with
  | ind n ih =>
    by_cases hl : l = []
    · rw [hl, chunks_nil, List.flatten_nil]
    · have hPos := List.length_pos_iff.mpr hl
      rw [chunks_of_ne_nil hSize hl, List.flatten_cons,
        ih (l.drop size).length (by rw [List.length_drop]; omega) _ rfl, List.take_append_drop]

theorem getElem?_chunks (hSize : 0 < size) (l : List α) (i : ℕ) :
    (chunks size l)[i]? =
      if i * size < l.length then some ((l.drop (i * size)).take size) else none := by
  induction i generalizing l with
  | zero =>
    by_cases hl : l = []
    · simp [hl]
    · simp [chunks_of_ne_nil hSize hl, List.length_pos_iff.mpr hl]
  | succ i ih =>
    have hMul : (i + 1) * size = i * size + size := Nat.succ_mul i size
    by_cases hl : l = []
    · simp [hl]
    · rw [chunks_of_ne_nil hSize hl, List.getElem?_cons_succ, ih, List.length_drop, List.drop_drop,
        hMul, Nat.add_comm size]
      have hPos := List.length_pos_iff.mpr hl
      exact if_congr (by omega) rfl rfl

theorem lt_length_chunks (hSize : 0 < size) (i : ℕ) :
    i < (chunks size l).length ↔ i * size < l.length := by
  rw [← not_iff_not, not_lt, ← List.getElem?_eq_none_iff, getElem?_chunks hSize]
  split <;> simp_all

section Pieces

variable {i : ℕ} {piece : List α}

/-- The chunk with index `i` holds the elements from `i * size` on. -/
theorem length_of_getElem?_chunks (hSize : 0 < size) (h : (chunks size l)[i]? = some piece) :
    i * size < l.length ∧ piece.length = min size (l.length - i * size) := by
  rw [getElem?_chunks hSize] at h
  split at h
  next hLt =>
    obtain rfl := Option.some.inj h
    exact ⟨hLt, by rw [List.length_take, List.length_drop]⟩
  next => cases h

/-- The last chunk is the one that reaches the end. -/
theorem le_iff_last (hSize : 0 < size) (h : (chunks size l)[i]? = some piece) :
    l.length ≤ i * size + piece.length ↔ i + 1 = (chunks size l).length := by
  have hIndex : i < (chunks size l).length := (List.getElem?_eq_some_iff.mp h).1
  have hNext := lt_length_chunks (l := l) hSize (i + 1)
  obtain ⟨hLt, hLength⟩ := length_of_getElem?_chunks hSize h
  rw [Nat.succ_mul] at hNext
  omega

theorem length_of_not_last (hSize : 0 < size) (h : (chunks size l)[i]? = some piece)
    (hNext : i + 1 < (chunks size l).length) : piece.length = size := by
  have hMore := (lt_length_chunks hSize (i + 1)).mp hNext
  obtain ⟨-, hLength⟩ := length_of_getElem?_chunks hSize h
  rw [Nat.succ_mul] at hMore
  omega

/-- A chunk begins where the chunks before it end. -/
theorem sum_length_take_chunks (hSize : 0 < size) (hIndex : i < (chunks size l).length) :
    (((chunks size l).take i).map List.length).sum = i * size := by
  induction i with
  | zero => simp
  | succ i ih =>
    have hPiece := List.getElem?_eq_getElem (Nat.lt_of_succ_lt hIndex)
    rw [List.take_add_one, hPiece, Option.toList_some, List.map_append, List.sum_append,
      ih (Nat.lt_of_succ_lt hIndex), Nat.succ_mul, List.map_singleton, List.sum_singleton,
      length_of_not_last hSize hPiece hIndex]

end Pieces

section Pushing

variable {ε β : Type} {f : ℕ → α → Except ε β} {pushed result : List β}

theorem except_bind_eq_ok {γ : Type} {x : Except ε β} {g : β → Except ε γ} {c : γ} :
    (x >>= g) = .ok c ↔ ∃ b, x = .ok b ∧ g b = .ok c := by
  cases x <;> simp [bind, Except.bind]

/-- `for x in l { pushed.push(f(pushed.len(), x)?) }` -/
def pushAll (f : ℕ → α → Except ε β) (l : List α) (pushed : List β) : Except ε (List β) :=
  l.foldlM (fun pushed x => do return pushed ++ [← f pushed.length x]) pushed

/-- A loop that comes to its end has pushed one result for each element. -/
theorem pushAll_eq_ok (h : pushAll f l pushed = .ok result) :
    ∃ out, result = pushed ++ out ∧ out.length = l.length ∧
      ∀ i x y, l[i]? = some x → out[i]? = some y → f (pushed.length + i) x = .ok y := by
  induction l generalizing pushed with
  | nil =>
    obtain rfl : pushed = result := Except.ok.inj h
    exact ⟨[], (List.append_nil _).symm, rfl, by simp⟩
  | cons x l ih =>
    rw [pushAll, List.foldlM_cons, except_bind_eq_ok] at h
    obtain ⟨_, hRound, hRest⟩ := h
    obtain ⟨y, hf, hPushed⟩ := except_bind_eq_ok.mp hRound
    obtain rfl := Except.ok.inj hPushed
    obtain ⟨out, hResult, hLength, hOut⟩ := ih hRest
    refine ⟨y :: out, by rw [hResult, List.append_assoc]; rfl, congrArg (· + 1) hLength, ?_⟩
    intro i x' y' hx hy
    cases i with
    | zero =>
      obtain rfl := Option.some.inj hx
      obtain rfl := Option.some.inj hy
      exact hf
    | succ i =>
      have hStep := hOut i x' y' hx hy
      rwa [List.length_append, List.length_singleton, Nat.add_assoc, Nat.add_comm 1] at hStep

end Pushing

end ProofKit
