import Mathlib.Data.Set.Insert

/-! Replay windows.  A receiver that refuses numbers it has seen keeps the highest of them, and a
bit for each of the numbers just below it; anything older it refuses unseen.  `Admits` is the rule
that such a window carries out, `Remembers` says which set a highest number and a bit vector stand
for. -/

namespace ProofKit

/-- A number is taken if it is new and no number taken before is `window` or more ahead of it. -/
def Admits (window : Nat) (seen : Set Nat) (n : Nat) : Prop :=
  n ∉ seen ∧ ∀ m ∈ seen, m < n + window

/-- Bit `offset` of `bits` tells whether `highest - offset` is among the numbers seen; none of them
is higher than `highest`, which is one of them as soon as it is not zero. -/
structure Remembers {width : Nat} (highest : Nat) (bits : BitVec width) (seen : Set Nat) : Prop where
  le_highest : ∀ n ∈ seen, n ≤ highest
  attained : highest = 0 ∨ highest ∈ seen
  bit_iff : ∀ n ≤ highest, highest - n < width → (bits.getLsbD (highest - n) = true ↔ n ∈ seen)

namespace Remembers

variable {width window highest n : Nat} {bits : BitVec width} {seen : Set Nat}

theorem empty : Remembers 0 (BitVec.ofNat width 0) ∅ where
  le_highest _ h := h.elim
  attained := Or.inl rfl
  bit_iff _ _ _ := by simp

/-- A number ahead of the window moves the window up to it. -/
theorem advance (h : Remembers highest bits seen) (hWidth : 0 < width) (hn : highest < n) :
    Remembers n (bits <<< (n - highest) ||| BitVec.ofNat width 1) (insert n seen) where
  le_highest m hm := by
    rcases hm with rfl | hm
    · exact le_refl m
    · exact (h.le_highest m hm).trans hn.le
  attained := Or.inr (Set.mem_insert n seen)
  bit_iff m hm hOffset := by
    rw [BitVec.getLsbD_or, BitVec.getLsbD_shiftLeft, BitVec.getLsbD_one]
    by_cases hNew : m = n
    · subst hNew
      simp [hWidth]
    have hPos : n - m ≠ 0 := by omega
    rw [Set.mem_insert_iff, or_iff_right hNew]
    by_cases hOld : m ≤ highest
    · -- the bit of an old number has moved up as far as the window has
      have hBit : n - m - (n - highest) = highest - m := by omega
      rw [hBit, ← h.bit_iff m hOld (by omega)]
      simp only [hOffset, decide_true, show ¬ n - m < n - highest by omega, decide_false,
        Bool.not_false, Bool.true_and, hPos, Bool.and_false, Bool.or_false]
    · -- the numbers between the old and the new highest one have not been seen
      have hUnseen : m ∉ seen := fun hm => hOld (h.le_highest m hm)
      simp [hUnseen, hPos, show n - m < n - highest by omega]

/-- A number inside the window sets its bit. -/
theorem mark (h : Remembers highest bits seen) (hn : n ≤ highest) (hOffset : highest - n < width) :
    Remembers highest (bits ||| BitVec.ofNat width 1 <<< (highest - n)) (insert n seen) where
  le_highest m hm := by
    rcases hm with rfl | hm
    · exact hn
    · exact h.le_highest m hm
  attained := h.attained.imp_right (Set.mem_insert_of_mem n)
  bit_iff m hm hOffset' := by
    have hSame : highest - m = highest - n ↔ m = n := by omega
    rw [BitVec.getLsbD_or, ← BitVec.twoPow_eq, BitVec.getLsbD_twoPow, Bool.or_eq_true,
      h.bit_iff m hm hOffset', Set.mem_insert_iff, or_comm]
    simp [hOffset, eq_comm (a := highest - n), hSame]

/-- The test of a bit, as programs carry it out. -/
theorem and_eq_zero_iff (h : Remembers highest bits seen) (hn : n ≤ highest)
    (hOffset : highest - n < width) :
    bits &&& BitVec.ofNat width 1 <<< (highest - n) = 0 ↔ n ∉ seen := by
  rw [← h.bit_iff n hn hOffset, ← BitVec.twoPow_eq, BitVec.and_twoPow]
  by_cases hBit : bits.getLsbD (highest - n) = true
  · simp only [hBit, if_true, not_true, iff_false]
    intro hZero
    have hSet : (BitVec.twoPow width (highest - n)).getLsbD (highest - n) = true := by
      simp [hOffset]
    rw [hZero] at hSet
    simp at hSet
  · simp [hBit]

/-- A number ahead of the window is admitted. -/
theorem admits_of_gt (h : Remembers highest bits seen) (hn : highest < n) :
    Admits window seen n := by
  refine ⟨fun hSeen => ?_, fun m hm => ?_⟩
  · exact absurd (h.le_highest n hSeen) (by omega)
  · have := h.le_highest m hm
    omega

/-- Below the highest number the window decides by distance, and then by the bit. -/
theorem admits_iff_of_le (h : Remembers highest bits seen) (hn : n ≤ highest) (hWindow : 0 < window) :
    Admits window seen n ↔ highest - n < window ∧ n ∉ seen := by
  constructor
  · rintro ⟨hNew, hAhead⟩
    refine ⟨?_, hNew⟩
    rcases h.attained with hZero | hSeen
    · omega
    · have := hAhead highest hSeen
      omega
  · rintro ⟨hNear, hNew⟩
    refine ⟨hNew, fun m hm => ?_⟩
    have := h.le_highest m hm
    omega

end Remembers

end ProofKit
