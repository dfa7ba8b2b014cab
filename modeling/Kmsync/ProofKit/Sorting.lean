import Kmsync.ProofKit.BestOfClass
import Mathlib.Data.List.Destutter
import Mathlib.Data.List.Sort
import Mathlib.Data.Prod.Lex

/-! Sorting by a comparison, and the removal of duplicates: of equal neighbours, or of all elements
that have the key of one before them. -/

namespace ProofKit

open OrderDual (toDual)

variable {α β κ ρ : Type}

section Comparisons

variable [LinearOrder α] [LinearOrder β]

/-- A comparison that goes on to the next only if the first finds no difference. -/
theorem compare_toLex {a a' : α} {b b' : β} {rest : Ordering} (hRest : rest = .gt ↔ b' < b) :
    (compare a a').then rest = .gt ↔ toLex (a', b') < toLex (a, b) := by
  rw [Prod.Lex.toLex_lt_toLex]
  rcases lt_trichotomy a a' with hLt | rfl | hGt
  · rw [compare_lt_iff_lt.mpr hLt]
    exact iff_of_false nofun fun h => h.elim hLt.not_gt fun h => hLt.ne' h.1
  · rw [compare_eq_iff_eq.mpr rfl]
    simpa using hRest
  · rw [compare_gt_iff_gt.mpr hGt]
    exact iff_of_true rfl (.inl hGt)

/-- The larger one comes first. -/
theorem compare_toLex_toDual {a a' : α} {b b' : β} {rest : Ordering} (hRest : rest = .gt ↔ b' < b) :
    (compare a' a).then rest = .gt ↔ toLex (toDual a', b') < toLex (toDual a, b) :=
  @compare_toLex αᵒᵈ β _ _ (toDual a) (toDual a') b b' rest hRest

end Comparisons

section SortBy

variable [LinearOrder ρ] {cmp : α → α → Ordering} {rank : α → ρ} {l : List α} {a : α}

/-- `slice::sort_by`, which leaves what compares equal in its order. -/
def sortBy (cmp : α → α → Ordering) (l : List α) : List α :=
  l.insertionSort fun a b => cmp a b ≠ .gt

theorem perm_sortBy : (sortBy cmp l).Perm l := List.perm_insertionSort _ l

@[simp] theorem mem_sortBy : a ∈ sortBy cmp l ↔ a ∈ l := perm_sortBy.mem_iff

theorem pairwise_sortBy (h : ∀ a b, cmp a b = .gt ↔ rank b < rank a) :
    (sortBy cmp l).Pairwise fun a b => rank a ≤ rank b := by
  have hLe : ∀ {a b}, cmp a b ≠ .gt ↔ rank a ≤ rank b := fun {a b} => (h a b).not.trans not_lt
  have hTotal : Std.Total fun a b => cmp a b ≠ .gt :=
    ⟨fun a b => (le_total (rank a) (rank b)).imp hLe.mpr hLe.mpr⟩
  have hTrans : IsTrans α fun a b => cmp a b ≠ .gt :=
    ⟨fun _ _ _ hAb hBc => hLe.mpr ((hLe.mp hAb).trans (hLe.mp hBc))⟩
  exact (List.pairwise_insertionSort _ l).imp hLe.mp

end SortBy

section DedupBy

variable [DecidableEq κ] [LinearOrder ρ] {key : α → κ} {rank : α → ρ} {seen : List κ} {l : List α}
  {a : α}

/-- The elements whose key was not seen before. -/
def dedupBy (key : α → κ) (seen : List κ) : List α → List α
  | [] => []
  | a :: l => if key a ∈ seen then dedupBy key seen l else a :: dedupBy key (key a :: seen) l

theorem dedupBy_sublist : (dedupBy key seen l).Sublist l := by
  induction l generalizing seen with
  | nil => exact .slnil
  | cons a l ih =>
    rw [dedupBy]
    split
    next => exact ih.cons a
    next => exact ih.cons_cons a

theorem not_mem_of_mem_dedupBy (h : a ∈ dedupBy key seen l) : key a ∉ seen := by
  induction l generalizing seen with
  | nil => cases h
  | cons b l ih =>
    rw [dedupBy] at h
    split at h
    next => exact ih h
    next hNew =>
      rcases List.mem_cons.mp h with rfl | hRest
      · exact hNew
      · exact fun hSeen => ih hRest (List.mem_cons_of_mem _ hSeen)

theorem nodup_dedupBy : ((dedupBy key seen l).map key).Nodup := by
  induction l generalizing seen with
  | nil => exact List.nodup_nil
  | cons a l ih =>
    rw [dedupBy]
    split
    next => exact ih
    next =>
      refine List.nodup_cons.mpr ⟨fun hMem => ?_, ih⟩
      obtain ⟨b, hB, hKey⟩ := List.mem_map.mp hMem
      exact not_mem_of_mem_dedupBy hB (hKey ▸ List.mem_cons_self)

theorem exists_mem_dedupBy (hNew : key a ∉ seen) (h : a ∈ l) :
    ∃ b ∈ dedupBy key seen l, key b = key a := by
  induction l generalizing seen with
  | nil => cases h
  | cons b l ih =>
    rw [dedupBy]
    by_cases hSame : key b = key a
    · rw [if_neg (hSame ▸ hNew)]
      exact ⟨b, List.mem_cons_self, hSame⟩
    have hRest : a ∈ l := (List.mem_cons.mp h).resolve_left fun hEq => hSame (hEq ▸ rfl)
    split
    next => exact ih hNew hRest
    next =>
      have hNew' : key a ∉ key b :: seen :=
        List.not_mem_cons_of_ne_of_not_mem (Ne.symm hSame) hNew
      obtain ⟨c, hC, hKey⟩ := ih hNew' hRest
      exact ⟨c, List.mem_cons_of_mem _ hC, hKey⟩

/-- Of elements with one key the first is kept, which has the highest rank in an ordered list. -/
theorem rank_le_of_mem_dedupBy (hOrdered : l.Pairwise fun a b => rank b ≤ rank a)
    (h : a ∈ dedupBy key seen l) {b : α} (hB : b ∈ l) (hKey : key b = key a) : rank b ≤ rank a := by
  induction l generalizing seen with
  | nil => cases hB
  | cons c l ih =>
    obtain ⟨hFirst, hRest⟩ := List.pairwise_cons.mp hOrdered
    rw [dedupBy] at h
    split at h
    next hSeen =>
      rcases List.mem_cons.mp hB with rfl | hLater
      · exact absurd (hKey ▸ hSeen) (not_mem_of_mem_dedupBy h)
      · exact ih hRest h hLater
    next =>
      rcases List.mem_cons.mp h with rfl | hKept
      · rcases List.mem_cons.mp hB with rfl | hLater
        · exact le_refl _
        · exact hFirst b hLater
      · rcases List.mem_cons.mp hB with rfl | hLater
        · exact absurd (hKey ▸ List.mem_cons_self) (not_mem_of_mem_dedupBy hKept)
        · exact ih hRest hKept hLater

theorem selects_dedupBy (hOrdered : l.Pairwise fun a b => rank b ≤ rank a) :
    Selects key rank l (dedupBy key [] l) where
  nodup := nodup_dedupBy
  best _ ha := ⟨dedupBy_sublist.mem ha, fun _ hB hKey =>
    rank_le_of_mem_dedupBy hOrdered ha hB hKey⟩
  covers _ ha := exists_mem_dedupBy List.not_mem_nil ha

end DedupBy

section SortDedup

variable {l l' : List α} {a b : α}

section Members

variable [DecidableEq α]

theorem mem_destutter'_ne (h : a ∈ b :: l) : a ∈ List.destutter' (· ≠ ·) b l := by
  induction l generalizing b with
  | nil => exact h
  | cons c l ih =>
    rw [List.destutter'_cons]
    split
    next =>
      rcases List.mem_cons.mp h with rfl | hRest
      · exact List.mem_cons_self
      · exact List.mem_cons_of_mem b (ih hRest)
    next hSame =>
      obtain rfl := not_not.mp hSame
      rcases List.mem_cons.mp h with rfl | hRest
      · exact ih List.mem_cons_self
      · exact ih hRest

/-- Only repetitions are removed. -/
theorem mem_destutter_ne : a ∈ l.destutter (· ≠ ·) ↔ a ∈ l := by
  refine ⟨fun h => (List.destutter_sublist _ l).mem h, fun h => ?_⟩
  cases l with
  | nil => cases h
  | cons b l => exact mem_destutter'_ne h

end Members

variable [LinearOrder α]

theorem pairwise_lt_of_isChain_ne (hLe : l.Pairwise (· ≤ ·)) (hNe : l.IsChain (· ≠ ·)) :
    l.Pairwise (· < ·) := by
  induction l with
  | nil => exact .nil
  | cons a l ih =>
    obtain ⟨hFirst, hRest⟩ := List.pairwise_cons.mp hLe
    cases l with
    | nil => exact List.pairwise_singleton _ a
    | cons b l =>
      obtain ⟨hApart, hChain⟩ := List.isChain_cons_cons.mp hNe
      have hLt : a < b := lt_of_le_of_ne (hFirst b List.mem_cons_self) hApart
      refine List.pairwise_cons.mpr ⟨fun c hC => ?_, ih hRest hChain⟩
      rcases List.mem_cons.mp hC with rfl | hLater
      · exact hLt
      · exact hLt.trans_le ((List.pairwise_cons.mp hRest).1 c hLater)

variable [DecidableEq α]

theorem pairwise_lt_destutter (h : l.Pairwise (· ≤ ·)) :
    (l.destutter (· ≠ ·)).Pairwise (· < ·) :=
  pairwise_lt_of_isChain_ne (h.sublist (List.destutter_sublist _ l)) (List.isChain_destutter _ l)

/-- A sorted list without repetitions tells no more than its members. -/
theorem destutter_insertionSort_congr (h : ∀ a, a ∈ l ↔ a ∈ l') :
    (l.insertionSort (· ≤ ·)).destutter (· ≠ ·) =
      (l'.insertionSort (· ≤ ·)).destutter (· ≠ ·) := by
  refine (pairwise_lt_destutter (List.pairwise_insertionSort _ l)).eq_of_mem_iff
    (pairwise_lt_destutter (List.pairwise_insertionSort _ l')) fun a => ?_
  rw [mem_destutter_ne, mem_destutter_ne, List.mem_insertionSort, List.mem_insertionSort, h]

end SortDedup

end ProofKit
