import Kmsync.ProofKit.Transition
import Mathlib.Data.Finset.Basic

/-! Keys that are pressed and let go in turn, and flags that several of them share.  A flag is shown
while one of its keys is held, and then it does not tell which. -/

namespace ProofKit

variable {κ γ : Type} [DecidableEq κ]

section Strokes

/-- A key that is pressed or let go. -/
structure Stroke (κ : Type) where
  key : κ
  down : Bool
  deriving DecidableEq

variable {held after : Finset κ} {stroke : Stroke κ} {strokes : List (Stroke κ)} {key : κ}

/-- A key goes down only when it is up, and up only when it is held. -/
def press (held : Finset κ) (stroke : Stroke κ) : Option (Finset κ) :=
  if stroke.key ∈ held then
    if stroke.down then none else some (held.erase stroke.key)
  else
    if stroke.down then some (insert stroke.key held) else none

theorem press_turn (h : press held stroke = some after) :
    stroke.key ∈ held ↔ stroke.down = false := by
  unfold press at h
  split at h <;> split at h <;> simp_all

theorem mem_press (h : press held stroke = some after) (key : κ) :
    key ∈ after ↔ if key = stroke.key then stroke.down = true else key ∈ held := by
  unfold press at h
  split at h <;> split at h
  next => cases h
  next hMem hUp =>
    obtain rfl := Option.some.inj h
    rw [Finset.mem_erase]
    split <;> simp_all
  next hMem hDown =>
    obtain rfl := Option.some.inj h
    rw [Finset.mem_insert]
    split <;> simp_all
  next => cases h

/-- What a key does in a run. -/
def strokesOf (key : κ) (strokes : List (Stroke κ)) : List Bool :=
  (strokes.filter fun stroke => stroke.key = key).map (·.down)

theorem strokesOf_cons : strokesOf key (stroke :: strokes) =
    if key = stroke.key then stroke.down :: strokesOf key strokes else strokesOf key strokes := by
  unfold strokesOf
  split
  next hKey => rw [List.filter_cons_of_pos (by simpa using hKey.symm), List.map_cons]
  next hKey => rw [List.filter_cons_of_neg (by simpa using Ne.symm hKey)]

/-- Each differs from the one before, the first from what was at the start. -/
def Alternate : Bool → List Bool → Prop
  | _, [] => True
  | last, down :: downs => down = !last ∧ Alternate down downs

theorem alternate_of_run (hRun : run press held strokes = some after) (key : κ) :
    Alternate (key ∈ held) (strokesOf key strokes) := by
  induction strokes generalizing held with
  | nil => trivial
  | cons stroke strokes ih =>
    obtain ⟨next, hStep, hRest⟩ := run_cons_eq_some.mp hRun
    have hNext := mem_press hStep key
    have hTail := ih hRest
    rw [strokesOf_cons]
    split
    next hKey =>
      rw [if_pos hKey] at hNext
      subst hKey
      refine ⟨?_, by simpa [hNext] using hTail⟩
      cases hDown : stroke.down <;> simp [press_turn hStep, hDown]
    next hKey =>
      rw [if_neg hKey] at hNext
      simpa [hNext] using hTail

/-- The last that a key did tells whether it is held. -/
theorem getLastD_strokesOf (hRun : run press held strokes = some after) (key : κ) :
    (strokesOf key strokes).getLastD (key ∈ held) = decide (key ∈ after) := by
  induction strokes generalizing held with
  | nil =>
    cases hRun
    rfl
  | cons stroke strokes ih =>
    obtain ⟨next, hStep, hRest⟩ := run_cons_eq_some.mp hRun
    have hNext := mem_press hStep key
    rw [← ih hRest, strokesOf_cons]
    split
    next hKey =>
      rw [if_pos hKey] at hNext
      rw [List.getLastD_cons]
      simp [hNext]
    next hKey =>
      rw [if_neg hKey] at hNext
      simp [hNext]

end Strokes

section Flags

variable (flag : κ → Option γ) {held after : Finset κ} {stroke : Stroke κ} {shared : γ}

/-- One of the flag's keys is held. -/
def Shown (held : Finset κ) (shared : γ) : Prop := ∃ key ∈ held, flag key = some shared

instance [DecidableEq γ] (held : Finset κ) (shared : γ) : Decidable (Shown flag held shared) :=
  inferInstanceAs (Decidable (∃ key ∈ held, flag key = some shared))

/-- A key is let go only while no other of its flag is held. -/
def Alone (held : Finset κ) (stroke : Stroke κ) : Prop :=
  stroke.down = false → ∀ key ∈ held, key ≠ stroke.key → flag key = flag stroke.key →
    flag key = none

instance [DecidableEq γ] (held : Finset κ) (stroke : Stroke κ) :
    Decidable (Alone flag held stroke) :=
  inferInstanceAs (Decidable (stroke.down = false → ∀ key ∈ held, key ≠ stroke.key →
    flag key = flag stroke.key → flag key = none))

variable {flag}

theorem shown_press_of_ne (h : press held stroke = some after)
    (hOther : flag stroke.key ≠ some shared) :
    Shown flag after shared ↔ Shown flag held shared := by
  refine exists_congr fun key => and_congr_left fun hFlag => ?_
  have hKey : key ≠ stroke.key := by
    rintro rfl
    exact hOther hFlag
  rw [mem_press h, if_neg hKey]

/-- The flag tells what its key did, if and only if no other key stands in for it. -/
theorem shown_press_iff (h : press held stroke = some after)
    (hFlag : flag stroke.key = some shared) :
    (Shown flag after shared ↔ stroke.down = true) ↔ Alone flag held stroke := by
  unfold Alone
  cases hDown : stroke.down with
  | true =>
    refine iff_of_true (iff_of_true ⟨stroke.key, ?_, hFlag⟩ rfl) nofun
    rw [mem_press h, if_pos rfl, hDown]
  | false =>
    constructor
    · intro hShown _ key hMem hKey hSame
      refine absurd (hShown.mp ⟨key, ?_, hSame.trans hFlag⟩) Bool.false_ne_true
      rwa [mem_press h, if_neg hKey]
    · intro hAlone
      refine iff_of_false ?_ Bool.false_ne_true
      rintro ⟨key, hMem, hSame⟩
      rw [mem_press h] at hMem
      split at hMem
      next => exact Bool.false_ne_true (hDown.symm.trans hMem)
      next hKey =>
        have hNone := hAlone rfl key hMem hKey (hSame.trans hFlag.symm)
        exact nomatch hSame.symm.trans hNone

/-- Flags that are set by a press and cleared by a release, whatever else is held: they go on being
those that are shown if and only if no other key stands in for the one that is let go. -/
theorem latched_iff {flags : List γ} {isSet isSet' : γ → Prop}
    (h : press held stroke = some after) (hFlags : ∀ shared ∈ flag stroke.key, shared ∈ flags)
    (hSet : ∀ shared ∈ flags, isSet shared ↔ Shown flag held shared)
    (hLatch : ∀ shared ∈ flags, isSet' shared ↔
      (flag stroke.key = some shared ∧ stroke.down = true) ∨
        (flag stroke.key ≠ some shared ∧ isSet shared)) :
    (∀ shared ∈ flags, isSet' shared ↔ Shown flag after shared) ↔ Alone flag held stroke := by
  have hOthers : ∀ shared ∈ flags, flag stroke.key ≠ some shared →
      (isSet' shared ↔ Shown flag after shared) := by
    intro shared hMem hOther
    rw [hLatch shared hMem, shown_press_of_ne h hOther, hSet shared hMem]
    simp [hOther]
  have hOwn : ∀ shared ∈ flags, flag stroke.key = some shared →
      ((isSet' shared ↔ Shown flag after shared) ↔ Alone flag held stroke) := by
    intro shared hMem hFlag
    rw [← shown_press_iff h hFlag, hLatch shared hMem]
    simp [hFlag, iff_comm]
  constructor
  · intro hExact
    cases hFlag : flag stroke.key with
    | none => exact fun _ _ _ _ hSame => hSame.trans hFlag
    | some shared =>
      have hMem := hFlags shared hFlag
      exact (hOwn shared hMem hFlag).mp (hExact shared hMem)
  · intro hAlone shared hMem
    by_cases hFlag : flag stroke.key = some shared
    · exact (hOwn shared hMem hFlag).mpr hAlone
    · exact hOthers shared hMem hFlag

end Flags

end ProofKit
