import Kmsync.DataPlane.Security
import Kmsync.ProofKit.SlidingWindow

/-! The replay guard carries out the replay window of every epoch by itself: it takes a number if it
is new there and the window has not moved past it. -/

namespace Kmsync

open ProofKit

/-- The window stands for the numbers that it has taken. -/
def DataPlaneReplayWindow.Shows (self : DataPlaneReplayWindow) (taken : Set ℕ) : Prop :=
  Remembers self.highest.toNat self.seen taken

/-- The bits after a move, as the source computes them: a shift of the full width or more leaves
nothing of them. -/
theorem shiftLeft_seen (seen : BitVec 128) (shift : UInt64) :
    (if shift ≥ 128 then 1#128 else seen <<< shift.toNat ||| 1#128) =
      seen <<< shift.toNat ||| 1#128 := by
  split
  next hShift =>
    have hShift : 128 ≤ shift.toNat := UInt64.le_iff_toNat_le.mp hShift
    rw [BitVec.shiftLeft_eq_zero hShift, BitVec.zero_or]
  next => rfl

theorem DataPlaneReplayWindow.accept_meets {self : DataPlaneReplayWindow} {taken : Set ℕ}
    {sequence window : UInt64} (h : self.Shows taken) (hPos : 0 < window.toNat)
    (hWindow : window.toNat ≤ 128) :
    Meets (DataPlaneReplayWindow.accept sequence window)
      (fun _ self' => Admits window.toNat taken sequence.toNat ∧
        self'.Shows (insert sequence.toNat taken))
      (fun _ self' => ¬ Admits window.toNat taken sequence.toNat ∧ self' = self) self := by
  rw [accept, meets_bind, meets_get]
  by_cases hAhead : self.highest < sequence
  · have hLt : self.highest.toNat < sequence.toNat := UInt64.lt_iff_toNat_lt.mp hAhead
    have hShift : (sequence - self.highest).toNat = sequence.toNat - self.highest.toNat :=
      UInt64.toNat_sub_of_le _ _ (UInt64.le_of_lt hAhead)
    rw [if_pos hAhead]
    dsimp only
    rw [shiftLeft_seen, hShift, meets_set]
    exact ⟨Remembers.admits_of_gt h hLt, Remembers.advance h (by decide) hLt⟩
  have hLe : sequence.toNat ≤ self.highest.toNat := by
    rw [← UInt64.le_iff_toNat_le]
    exact UInt64.not_lt.mp hAhead
  have hOffset : (self.highest - sequence).toNat = self.highest.toNat - sequence.toNat :=
    UInt64.toNat_sub_of_le _ _ (UInt64.le_iff_toNat_le.mpr hLe)
  have hAdmits := Remembers.admits_iff_of_le h hLe hPos
  rw [if_neg hAhead]
  by_cases hOld : self.highest - sequence ≥ window
  · have hFar : window.toNat ≤ self.highest.toNat - sequence.toNat :=
      hOffset ▸ UInt64.le_iff_toNat_le.mp hOld
    rw [if_pos hOld, meets_throw, hAdmits]
    exact ⟨fun hNear => absurd hNear.1 (by omega), rfl⟩
  have hNear : self.highest.toNat - sequence.toNat < window.toNat := by
    rw [← hOffset, ← UInt64.lt_iff_toNat_lt]
    exact UInt64.not_le.mp hOld
  have hBit := Remembers.and_eq_zero_iff h hLe (by omega)
  rw [if_neg hOld, hOffset]
  by_cases hSeen : sequence.toNat ∈ taken
  · rw [if_pos fun hZero => hBit.mp hZero hSeen, meets_throw, hAdmits]
    exact ⟨fun hNew => hNew.2 hSeen, rfl⟩
  · rw [if_neg (not_not.mpr (hBit.mpr hSeen)), meets_set, hAdmits]
    exact ⟨⟨hNear, hSeen⟩, Remembers.mark h hLe (hNear.trans_le hWindow)⟩

namespace DataPlaneReplayGuard

/-- The guard stands for the numbers that it has taken in each epoch. -/
structure Shows (replayGuard : DataPlaneReplayGuard) (taken : UInt64 → Set ℕ) : Prop where
  window_pos : 0 < replayGuard.window.toNat
  window_le : replayGuard.window.toNat ≤ 128
  entries : ∀ epoch, (replayGuard.entry epoch).Shows (taken epoch)

theorem toNat_new_window (window : UInt64) :
    (new window).window.toNat = min (max window.toNat 1) 128 := by
  have hMax : (max window 1).toNat = max window.toNat 1 := by
    simp only [Max.max, UInt64.le_iff_toNat_le]
    split <;> simp_all
  have hMin : (min (max window 1) 128).toNat = min (max window 1).toNat 128 := by
    simp only [Min.min, UInt64.le_iff_toNat_le]
    split <;> simp_all
  rw [new, hMin, hMax]

theorem new_shows (window : UInt64) : (new window).Shows fun _ => ∅ where
  window_pos := by
    rw [toNat_new_window]
    omega
  window_le := by
    rw [toNat_new_window]
    omega
  entries _ := Remembers.empty

theorem entry_setEntry (self : DataPlaneReplayGuard) (epoch other : UInt64)
    (window : DataPlaneReplayWindow) :
    (self.setEntry epoch window).entry other = if other = epoch then window else self.entry other := by
  rw [entry, DataPlaneReplayGuard.setEntry]
  by_cases hOther : other = epoch
  · rw [if_pos hOther, hOther]
    dsimp only
    rw [Function.update_self, Option.getD_some]
  · rw [if_neg hOther]
    dsimp only
    rw [Function.update_of_ne hOther, entry]

/-- A window that is written back stands for what it stood for; the other epochs keep theirs. -/
theorem Shows.setEntry {self : DataPlaneReplayGuard} {taken : UInt64 → Set ℕ} (h : self.Shows taken)
    (epoch : UInt64) {window : DataPlaneReplayWindow} {numbers : Set ℕ}
    (hWindow : window.Shows numbers) :
    (self.setEntry epoch window).Shows (Function.update taken epoch numbers) where
  window_pos := h.window_pos
  window_le := h.window_le
  entries other := by
    rw [entry_setEntry]
    by_cases hOther : other = epoch
    · subst hOther
      rwa [if_pos rfl, Function.update_self]
    · rw [if_neg hOther, Function.update_of_ne hOther]
      exact h.entries other

theorem accept_meets {self : DataPlaneReplayGuard} {taken : UInt64 → Set ℕ} (h : self.Shows taken)
    (epoch sequence : UInt64) :
    Meets (accept epoch sequence)
      (fun _ self' => Admits self.window.toNat (taken epoch) sequence.toNat ∧
        self'.window = self.window ∧
        self'.Shows (Function.update taken epoch (insert sequence.toNat (taken epoch))))
      (fun _ self' => ¬ Admits self.window.toNat (taken epoch) sequence.toNat ∧
        self'.window = self.window ∧ self'.Shows taken) self := by
  rw [accept, meets_bind, meets_get, meets_onPart]
  refine (DataPlaneReplayWindow.accept_meets (h.entries epoch) h.window_pos h.window_le).mono ?_ ?_
  · rintro - window ⟨hAdmits, hShows⟩
    exact ⟨hAdmits, rfl, h.setEntry epoch hShows⟩
  · rintro - window ⟨hRefused, rfl⟩
    refine ⟨hRefused, rfl, ?_⟩
    have hShows := h.setEntry epoch (h.entries epoch)
    rwa [Function.update_eq_self] at hShows

end DataPlaneReplayGuard

end Kmsync
