import Mathlib.Data.List.Basic
import Mathlib.Data.Set.Insert

/-! A cell whose value is counted by a version, and the versions that are announced.  The count is
kept with the value: when the cell is emptied it is lost, so that versions name values only as long
as no value is put into a cell that has been emptied. -/

namespace ProofKit

variable {α : Type}

/-- What can happen to a cell, with the versions that are announced.  It is filled only if `first`
holds, and its absence is announced only if `unseen` holds. -/
inductive CellStep (first unseen : Prop) : Option (ℕ × α) → Option (ℕ × α) → List ℕ → Prop where
  | same (cell : Option (ℕ × α)) : CellStep first unseen cell cell []
  | filled (a : α) {news : List ℕ} (hFirst : first) (hNews : news = [] ∨ news = [1]) :
    CellStep first unseen none (some (1, a)) news
  | changed (v : ℕ) (a b : α) {news : List ℕ} (hNews : news = [] ∨ news = [v + 1]) :
    CellStep first unseen (some (v, a)) (some (v + 1, b)) news
  | emptied (v : ℕ) (a : α) {news : List ℕ} (hNews : news = [] ∨ news = [v + 1]) :
    CellStep first unseen (some (v, a)) none news
  | absent (hUnseen : unseen) : CellStep first unseen none none [1]

/-- The versions of a cell name its values, past and present, and those announced are increasing. -/
structure Faithful (past : Set (ℕ × α)) (cell : Option (ℕ × α)) (news : List ℕ) : Prop where
  present : ∀ x, cell = some x → x ∈ past
  bound : ∀ x ∈ past, ∀ y, cell = some y → x.1 ≤ y.1
  agree : ∀ x ∈ past, ∀ y ∈ past, x.1 = y.1 → x.2 = y.2
  newsBound : ∀ v ∈ news, ∀ y, cell = some y → v ≤ y.1
  increasing : news.Pairwise (· < ·)

variable {past : Set (ℕ × α)} {cell cell' : Option (ℕ × α)} {news new : List ℕ}

theorem faithful_empty : Faithful (∅ : Set (ℕ × α)) none [] :=
  ⟨nofun, nofun, nofun, nofun, .nil⟩

/-- One more version, larger than those before it, or none. -/
theorem increasing_append {v : ℕ} (h : news.Pairwise (· < ·)) (hBound : ∀ w ∈ news, w < v)
    (hNew : new = [] ∨ new = [v]) : (news ++ new).Pairwise (· < ·) := by
  rcases hNew with rfl | rfl
  · rw [List.append_nil]
    exact h
  · refine List.pairwise_append.mpr ⟨h, List.pairwise_singleton _ v, fun w hW u hU => ?_⟩
    rw [List.mem_singleton.mp hU]
    exact hBound w hW

theorem setOf_mem_or_none : {x | x ∈ past ∨ (none : Option (ℕ × α)) = some x} = past :=
  Set.ext fun _ => or_iff_left nofun

/-- The versions keep naming the values, if a cell is filled only when nothing was before. -/
theorem Faithful.step (h : Faithful past cell news)
    (hStep : CellStep (past = ∅ ∧ news = []) (news = []) cell cell' new) :
    Faithful {x | x ∈ past ∨ cell' = some x} cell' (news ++ new) := by
  cases hStep with
  | same =>
    have hPast : {x | x ∈ past ∨ cell = some x} = past :=
      Set.ext fun x => or_iff_left_of_imp (h.present x)
    rw [hPast, List.append_nil]
    exact h
  | filled a hFirst hNews =>
    obtain ⟨rfl, rfl⟩ := hFirst
    have hOnly : ∀ x ∈ {x : ℕ × α | x ∈ (∅ : Set (ℕ × α)) ∨ some (1, a) = some x}, x = (1, a) := by
      rintro x (hNone | hEq)
      · exact hNone.elim
      · exact (Option.some.inj hEq).symm
    constructor
    · exact fun x hEq => .inr hEq
    · rintro x hX y hEq
      rw [hOnly x hX, ← Option.some.inj hEq]
    · intro x hX y hY _
      rw [hOnly x hX, hOnly y hY]
    · intro w hW y hEq
      rw [List.nil_append] at hW
      rcases hNews with rfl | rfl
      · exact nomatch hW
      · rw [List.mem_singleton.mp hW, ← Option.some.inj hEq]
    · exact increasing_append .nil nofun hNews
  | changed v a b hNews =>
    have hBound : ∀ x ∈ past, x.1 ≤ v := fun x hX => h.bound x hX (v, a) rfl
    constructor
    · exact fun x hEq => .inr hEq
    · rintro x (hX | hEq) y hEq'
      · rw [← Option.some.inj hEq']
        exact (hBound x hX).trans (Nat.le_succ v)
      · rw [← Option.some.inj hEq, ← Option.some.inj hEq']
    · rintro x (hX | hEq) y (hY | hEq') hVersion
      · exact h.agree x hX y hY hVersion
      · have hLe := hBound x hX
        rw [hVersion, ← Option.some.inj hEq'] at hLe
        exact absurd hLe (Nat.not_succ_le_self v)
      · have hLe := hBound y hY
        rw [← hVersion, ← Option.some.inj hEq] at hLe
        exact absurd hLe (Nat.not_succ_le_self v)
      · rw [← Option.some.inj hEq, ← Option.some.inj hEq']
    · intro w hW y hEq
      rw [← Option.some.inj hEq]
      rcases List.mem_append.mp hW with hOld | hNew
      · exact (h.newsBound w hOld (v, a) rfl).trans (Nat.le_succ v)
      · rcases hNews with rfl | rfl
        · exact nomatch hNew
        · rw [List.mem_singleton.mp hNew]
    · refine increasing_append h.increasing (fun w hW => ?_) hNews
      exact Nat.lt_succ_of_le (h.newsBound w hW (v, a) rfl)
  | emptied v a hNews =>
    rw [setOf_mem_or_none]
    refine ⟨nofun, nofun, h.agree, nofun, ?_⟩
    refine increasing_append h.increasing (fun w hW => ?_) hNews
    exact Nat.lt_succ_of_le (h.newsBound w hW (v, a) rfl)
  | absent hUnseen =>
    subst hUnseen
    rw [setOf_mem_or_none]
    exact ⟨nofun, nofun, h.agree, nofun, List.pairwise_singleton _ 1⟩

end ProofKit
