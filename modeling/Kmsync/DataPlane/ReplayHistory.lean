import Kmsync.DataPlane.Replay
import Kmsync.ProofKit.Calls
import Mathlib.Data.List.Nodup

/-! What the replay guard is for: it keeps the set of the pairs it has accepted, and takes a pair
that is new and not too far behind the highest number of its epoch.  The guard, with one number and
128 bits for each epoch, answers every history of calls as that set would. -/

namespace Kmsync

open ProofKit

section History

variable {ε : Type} [DecidableEq ε]

/-- The highest number accepted in an epoch; zero when there is none. -/
def highestAccepted (pairs : List (ε × UInt64)) (epoch : ε) : Nat :=
  ((pairs.filter (·.1 = epoch)).map fun pair => pair.2.toNat).foldr max 0

/-- A pair is acceptable that is new and not `window` or more behind the highest number of its
epoch. -/
def Acceptable (window : Nat) (pairs : List (ε × UInt64)) (pair : ε × UInt64) : Prop :=
  pair ∉ pairs ∧ highestAccepted pairs pair.1 < pair.2.toNat + window

instance (window : Nat) (pairs : List (ε × UInt64)) (pair : ε × UInt64) :
    Decidable (Acceptable window pairs pair) :=
  inferInstanceAs (Decidable (_ ∧ _))

/-- The pairs accepted, after one more has been offered. -/
def offer (window : Nat) (pairs : List (ε × UInt64)) (pair : ε × UInt64) : List (ε × UInt64) :=
  if Acceptable window pairs pair then pairs ++ [pair] else pairs

variable {window : Nat} {pairs : List (ε × UInt64)} {pair : ε × UInt64}

/-- Only the pairs of its own epoch decide about a pair. -/
theorem acceptable_filter_iff :
    Acceptable window (pairs.filter (·.1 = pair.1)) pair ↔ Acceptable window pairs pair := by
  simp only [Acceptable, highestAccepted, List.mem_filter, decide_true, and_true,
    List.filter_filter, Bool.and_self]

/-- The pairs of an epoch are accepted as if no others were offered. -/
theorem filter_foldl_offer (epoch : ε) (offered : List (ε × UInt64)) :
    (offered.foldl (offer window) []).filter (·.1 = epoch) =
      (offered.filter (·.1 = epoch)).foldl (offer window) [] := by
  induction offered using List.reverseRecOn with
  | nil => rfl
  | append_singleton offered pair ih =>
    rw [List.foldl_append, List.filter_append, List.foldl_append, ← ih]
    by_cases hEpoch : pair.1 = epoch
    · subst hEpoch
      rw [List.filter_cons_of_pos (by simp), List.filter_nil]
      simp only [List.foldl_cons, List.foldl_nil, offer, acceptable_filter_iff]
      split
      next => rw [List.filter_append, List.filter_cons_of_pos (by simp), List.filter_nil]
      next => rfl
    · have hOther : [pair].filter (·.1 = epoch) = [] :=
        List.filter_cons_of_neg (by simpa using hEpoch)
      rw [hOther]
      simp only [List.foldl_cons, List.foldl_nil, offer]
      split
      next => rw [List.filter_append, hOther, List.append_nil]
      next => rfl

theorem nodup_foldl_offer (offered : List (ε × UInt64)) :
    (offered.foldl (offer window) []).Nodup := by
  induction offered using List.reverseRecOn with
  | nil => exact List.nodup_nil
  | append_singleton offered pair ih =>
    simp only [List.foldl_append, List.foldl_cons, List.foldl_nil, offer]
    split
    next hTaken =>
      rw [← List.concat_eq_append]
      exact ih.concat hTaken.1
    next => exact ih

end History

/-- The highest number of an epoch is below a bound when all of its numbers are. -/
theorem highestAccepted_lt_iff {ε : Type} [DecidableEq ε] (pairs : List (ε × UInt64)) (epoch : ε)
    {bound : Nat} (hBound : 0 < bound) :
    highestAccepted pairs epoch < bound ↔
      ∀ pair ∈ pairs, pair.1 = epoch → pair.2.toNat < bound := by
  induction pairs with
  | nil => exact iff_of_true hBound nofun
  | cons pair pairs ih =>
    rw [List.forall_mem_cons, ← ih]
    by_cases hEpoch : pair.1 = epoch
    · rw [highestAccepted, List.filter_cons_of_pos (by simpa using hEpoch), List.map_cons,
        List.foldr_cons, ← highestAccepted, max_lt_iff]
      simp only [hEpoch, forall_const]
    · rw [highestAccepted, List.filter_cons_of_neg (by simpa using hEpoch), ← highestAccepted]
      simp only [hEpoch, false_imp_iff, true_and]

section Guard

open DataPlaneReplayGuard

/-- A call of `accept` with its arguments. -/
def acceptCall (pair : UInt64 × UInt64) : EStateM (Fault String) DataPlaneReplayGuard Unit :=
  accept pair.1 pair.2

/-- The numbers of an epoch among accepted pairs. -/
def takenIn (pairs : List (UInt64 × UInt64)) (epoch : UInt64) : Set ℕ :=
  {n | ∃ sequence : UInt64, (epoch, sequence) ∈ pairs ∧ sequence.toNat = n}

variable {pairs : List (UInt64 × UInt64)} {window : Nat}

theorem acceptable_iff_admits (hWindow : 0 < window) (epoch sequence : UInt64) :
    Acceptable window pairs (epoch, sequence) ↔
      Admits window (takenIn pairs epoch) sequence.toNat := by
  have hNew : sequence.toNat ∈ takenIn pairs epoch ↔ (epoch, sequence) ∈ pairs := by
    refine ⟨fun ⟨other, hMem, hSame⟩ => ?_, fun hMem => ⟨sequence, hMem, rfl⟩⟩
    rwa [UInt64.toNat_inj.mp hSame] at hMem
  rw [Acceptable, Admits, hNew, highestAccepted_lt_iff _ _ (by omega)]
  refine and_congr_right fun _ => ⟨?_, ?_⟩
  · rintro h _ ⟨other, hMem, rfl⟩
    exact h _ hMem rfl
  · rintro h ⟨_, other⟩ hMem rfl
    exact h _ ⟨other, hMem, rfl⟩

theorem takenIn_append (epoch sequence : UInt64) :
    takenIn (pairs ++ [(epoch, sequence)]) =
      Function.update (takenIn pairs) epoch (insert sequence.toNat (takenIn pairs epoch)) := by
  funext other
  by_cases hEpoch : other = epoch
  · subst hEpoch
    rw [Function.update_self]
    ext n
    simp only [takenIn, Set.mem_ofPred_eq, List.mem_append, List.mem_singleton, Prod.mk.injEq,
      true_and, Set.mem_insert_iff, or_and_right, exists_or, exists_eq_left]
    rw [or_comm, eq_comm]
  · rw [Function.update_of_ne hEpoch]
    ext n
    simp only [takenIn, Set.mem_ofPred_eq, List.mem_append, List.mem_singleton, Prod.mk.injEq,
      hEpoch, false_and, or_false]

variable {self : DataPlaneReplayGuard}

/-- What one call does to a guard that stands for the accepted pairs. -/
theorem acceptCall_meets (h : self.Shows (takenIn pairs)) (pair : UInt64 × UInt64) :
    Meets (acceptCall pair)
      (fun _ self' => Acceptable self.window.toNat pairs pair ∧ self'.window = self.window ∧
        self'.Shows (takenIn (pairs ++ [pair])))
      (fun _ self' => ¬ Acceptable self.window.toNat pairs pair ∧ self'.window = self.window ∧
        self'.Shows (takenIn pairs)) self := by
  rw [takenIn_append, acceptable_iff_admits h.window_pos]
  exact accept_meets h pair.1 pair.2

/-- The guard takes a pair. -/
def Accepts (self : DataPlaneReplayGuard) (pair : UInt64 × UInt64) : Prop :=
  ∃ self', acceptCall pair self = .ok () self'

theorem accepts_iff (h : self.Shows (takenIn pairs)) (pair : UInt64 × UInt64) :
    Accepts self pair ↔ Acceptable self.window.toNat pairs pair := by
  rcases (acceptCall_meets h pair).ok_or_error with
    ⟨_, self', hOk, hTaken, -⟩ | ⟨e, self', hError, hRefused, -⟩
  · exact iff_of_true ⟨self', hOk⟩ hTaken
  · refine iff_of_false ?_ hRefused
    rintro ⟨other, hOk⟩
    rw [hError] at hOk
    cases hOk

/-- The pairs that a guard takes, in the order of the calls. -/
def acceptedPairs (self : DataPlaneReplayGuard) (calls : List (UInt64 × UInt64)) :
    List (UInt64 × UInt64) :=
  (succeeded acceptCall self calls).map Prod.fst

/-- Over a history the guard takes the pairs that the set takes. -/
theorem shows_after (h : self.Shows (takenIn pairs)) (calls : List (UInt64 × UInt64)) :
    (after acceptCall self calls).Shows (takenIn (calls.foldl (offer self.window.toNat) pairs)) ∧
      (after acceptCall self calls).window = self.window ∧
      pairs ++ acceptedPairs self calls = calls.foldl (offer self.window.toNat) pairs := by
  induction calls generalizing self pairs with
  | nil => exact ⟨h, rfl, List.append_nil pairs⟩
  | cons pair calls ih =>
    rw [after_cons, List.foldl_cons, offer]
    rcases (acceptCall_meets h pair).ok_or_error with
      ⟨_, self', hOk, hTaken, hWindow, hShows⟩ | ⟨e, self', hError, hRefused, hWindow, hShows⟩
    · obtain ⟨hAfter, hKept, hPairs⟩ := ih hShows
      rw [stateAfter_of_ok hOk, if_pos hTaken, acceptedPairs, succeeded_cons_of_ok hOk, ← hWindow]
      refine ⟨hAfter, hKept, ?_⟩
      rw [← hPairs, List.append_assoc]
      rfl
    · obtain ⟨hAfter, hKept, hPairs⟩ := ih hShows
      rw [stateAfter_of_error hError, if_neg hRefused, acceptedPairs,
        succeeded_cons_of_error hError, ← hWindow]
      exact ⟨hAfter, hKept, hPairs⟩

theorem takenIn_nil : takenIn [] = fun _ => ∅ := by
  funext epoch
  ext n
  simp [takenIn]

/-- A fresh guard and the set of pairs. -/
theorem shows_after_new (window : UInt64) (calls : List (UInt64 × UInt64)) :
    (after acceptCall (new window) calls).Shows (takenIn (acceptedPairs (new window) calls)) ∧
      (after acceptCall (new window) calls).window = (new window).window ∧
      acceptedPairs (new window) calls = calls.foldl (offer (new window).window.toNat) [] := by
  have hNew : (new window).Shows (takenIn []) := by
    rw [takenIn_nil]
    exact new_shows window
  obtain ⟨hShows, hWindow, hPairs⟩ := shows_after hNew calls
  rw [List.nil_append] at hPairs
  rw [← hPairs] at hShows
  exact ⟨hShows, hWindow, hPairs⟩

theorem accepts_after_iff (window : UInt64) (calls : List (UInt64 × UInt64))
    (pair : UInt64 × UInt64) :
    Accepts (after acceptCall (new window) calls) pair ↔
      Acceptable (min (max window.toNat 1) 128) (acceptedPairs (new window) calls) pair := by
  obtain ⟨hShows, hWindow, -⟩ := shows_after_new window calls
  rw [accepts_iff hShows, hWindow, toNat_new_window]

/-- After every history a fresh guard takes exactly the pairs that are new to it and inside the
window of their epoch.  It never takes a pair twice, the calls for one epoch do not matter to
another, and a call that it refused does not matter at all. -/
theorem accept_refines (window : UInt64) (calls : List (UInt64 × UInt64)) :
    (∀ pair, Accepts (after acceptCall (new window) calls) pair ↔
        pair ∉ acceptedPairs (new window) calls ∧
          highestAccepted (acceptedPairs (new window) calls) pair.1 <
            pair.2.toNat + min (max window.toNat 1) 128) ∧
      (acceptedPairs (new window) calls).Nodup ∧
      (∀ pair, Accepts (after acceptCall (new window) calls) pair ↔
        Accepts (after acceptCall (new window) (calls.filter (·.1 = pair.1))) pair) ∧
      ∀ pair, ¬ Accepts (after acceptCall (new window) calls) pair → ∀ later other,
        Accepts (after acceptCall (new window) (calls ++ pair :: later)) other ↔
          Accepts (after acceptCall (new window) (calls ++ later)) other := by
  have hPairs := fun calls => (shows_after_new window calls).2.2
  refine ⟨accepts_after_iff window calls, ?_, fun pair => ?_, fun pair hRefused later other => ?_⟩
  · rw [hPairs]
    exact nodup_foldl_offer calls
  · rw [accepts_after_iff, accepts_after_iff, ← acceptable_filter_iff, hPairs, hPairs,
      filter_foldl_offer]
  · rw [accepts_after_iff, hPairs, ← toNat_new_window] at hRefused
    rw [accepts_after_iff, accepts_after_iff, hPairs, hPairs, List.foldl_append, List.foldl_append,
      List.foldl_cons, offer, if_neg hRefused]

end Guard

end Kmsync
