import Mathlib.Data.Finmap
import Mathlib.Data.Finset.Max

/-! Finite maps that store each value under its own key.  A `KeyedMap` is built by `insertNew`,
which keeps the value that is there, and taken apart by `erase` and `firstKey?`. -/

namespace ProofKit

/-- A finite map from numbers in which every value is stored under its key. -/
structure KeyedMap (α : Type) (key : α → ℕ) where
  entries : Finmap fun _ : ℕ => α
  keyed : ∀ k x, entries.lookup k = some x → key x = k

namespace KeyedMap

variable {α : Type} {key : α → ℕ}

instance : Membership ℕ (KeyedMap α key) := ⟨fun m k => k ∈ m.entries⟩

instance (k : ℕ) (m : KeyedMap α key) : Decidable (k ∈ m) :=
  inferInstanceAs (Decidable (k ∈ m.entries))

def empty : KeyedMap α key := ⟨∅, fun k x h => by rw [Finmap.lookup_empty] at h; cases h⟩

def get? (m : KeyedMap α key) (k : ℕ) : Option α := m.entries.lookup k

def erase (m : KeyedMap α key) (k : ℕ) : KeyedMap α key where
  entries := m.entries.erase k
  keyed j x h := by
    by_cases hj : j = k
    · rw [hj, Finmap.lookup_erase] at h
      cases h
    · rw [Finmap.lookup_erase_ne hj] at h
      exact m.keyed j x h

/-- The map with `x` under its key, unless there is a value already. -/
def insertNew (m : KeyedMap α key) (x : α) : KeyedMap α key :=
  if key x ∈ m then m
  else
    { entries := m.entries.insert (key x) x
      keyed := fun j y h => by
        by_cases hj : j = key x
        · rw [hj, Finmap.lookup_insert] at h
          cases h
          exact hj.symm
        · rw [Finmap.lookup_insert_of_ne _ hj] at h
          exact m.keyed j y h }

/-- The least key. -/
def firstKey? (m : KeyedMap α key) : Option ℕ := m.entries.keys.min

def size (m : KeyedMap α key) : ℕ := m.entries.keys.card

variable {m : KeyedMap α key} {j k : ℕ} {x : α}

theorem key_of_get? (h : m.get? k = some x) : key x = k := m.keyed k x h

theorem mem_iff : k ∈ m ↔ ∃ x, m.get? k = some x := Finmap.mem_iff

theorem mem_of_get? (h : m.get? k = some x) : k ∈ m := mem_iff.mpr ⟨x, h⟩

theorem get?_eq_none : m.get? k = none ↔ k ∉ m := Finmap.lookup_eq_none

@[simp] theorem not_mem_empty : k ∉ (empty : KeyedMap α key) := Finmap.notMem_empty

theorem get?_erase_ne (h : j ≠ k) : (m.erase k).get? j = m.get? j := Finmap.lookup_erase_ne h

/-- A value that is there is the one that is erased, or stays. -/
theorem get?_erase_of_get? {y : α} (hErased : m.get? k = some x) (h : m.get? j = some y) :
    y = x ∨ (m.erase k).get? j = some y := by
  by_cases hj : j = k
  · rw [hj, hErased] at h
    exact Or.inl (Option.some.inj h).symm
  · exact Or.inr ((get?_erase_ne hj).trans h)

@[simp] theorem mem_erase : j ∈ m.erase k ↔ j ≠ k ∧ j ∈ m := Finmap.mem_erase

@[simp] theorem mem_insertNew : j ∈ m.insertNew x ↔ j = key x ∨ j ∈ m := by
  unfold insertNew
  split
  next h => exact ⟨Or.inr, fun hj => hj.elim (fun hj => hj ▸ h) id⟩
  next => exact Finmap.mem_insert

theorem get?_insertNew_self (h : key x ∉ m) : (m.insertNew x).get? (key x) = some x := by
  rw [insertNew, if_neg h]
  exact Finmap.lookup_insert _

theorem get?_insertNew_ne (h : j ≠ key x) : (m.insertNew x).get? j = m.get? j := by
  unfold insertNew
  split
  next => rfl
  next => exact Finmap.lookup_insert_of_ne _ h

theorem get?_insertNew_of_get? {y : α} (h : m.get? j = some y) :
    (m.insertNew x).get? j = some y := by
  by_cases hj : j = key x
  · rw [insertNew, if_pos (hj ▸ mem_of_get? h)]
    exact h
  · rwa [get?_insertNew_ne hj]

theorem firstKey?_eq_none : m.firstKey? = none ↔ ∀ k, k ∉ m := by
  refine Finset.min_eq_top.trans (Finset.eq_empty_iff_forall_notMem.trans ?_)
  exact forall_congr' fun k => not_congr Finmap.mem_keys

theorem mem_of_firstKey? (h : m.firstKey? = some k) : k ∈ m :=
  Finmap.mem_keys.mp (Finset.mem_of_min h)

theorem le_of_firstKey? (h : m.firstKey? = some k) (hj : j ∈ m) : k ≤ j :=
  Finset.min_le_of_eq (Finmap.mem_keys.mpr hj) h

theorem size_erase (h : k ∈ m) : (m.erase k).size + 1 = m.size := by
  rw [size, erase, Finmap.keys_erase]
  exact Finset.card_erase_add_one (Finmap.mem_keys.mpr h)

end KeyedMap

end ProofKit
