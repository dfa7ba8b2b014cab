import Mathlib.Data.List.Sort

/-! Lists that are kept in order by a stable sort after each addition: the largest key stands first,
and elements with one key stand in the order in which they were added. -/

namespace ProofKit

variable {α κ : Type} [LinearOrder κ] {key : α → κ} {added sorted : List α}

/-- The order among the elements of which any two are in order already. -/
theorem filter_insertionSort {r : α → α → Prop} [DecidableRel r] {p : α → Bool} {l : List α}
    (h : (l.filter p).Pairwise r) : (l.insertionSort r).filter p = l.filter p := by
  have hSublist : (l.filter p).Sublist ((l.insertionSort r).filter p) := by
    have hKept := (List.sublist_insertionSort h List.filter_sublist).filter p
    rwa [List.filter_filter, List.filter_congr fun _ _ => Bool.and_self _] at hKept
  have hPerm : ((l.insertionSort r).filter p).Perm (l.filter p) :=
    (List.perm_insertionSort r l).filter p
  exact (hSublist.eq_of_length hPerm.length_eq.symm).symm

/-- The first list has the elements that were added, as a stable sort puts them. -/
structure StablySorted (key : α → κ) (sorted added : List α) : Prop where
  perm : sorted.Perm added
  ordered : sorted.Pairwise fun a b => key b ≤ key a
  stable : ∀ k, sorted.filter (key · = k) = added.filter (key · = k)

theorem StablySorted.nil : StablySorted key ([] : List α) [] :=
  ⟨.nil, .nil, fun _ => rfl⟩

/-- One more element is put at the end, and the list is sorted again. -/
theorem StablySorted.snoc (h : StablySorted key sorted added) (a : α) :
    StablySorted key ((sorted ++ [a]).insertionSort fun a b => key b ≤ key a) (added ++ [a]) := by
  constructor
  · exact (List.perm_insertionSort _ _).trans (h.perm.append_right [a])
  · have hTotal : Std.Total fun a b : α => key b ≤ key a := ⟨fun a b => le_total (key b) (key a)⟩
    have hTrans : IsTrans α fun a b => key b ≤ key a := ⟨fun _ _ _ hAb hBc => hBc.trans hAb⟩
    exact List.pairwise_insertionSort _ _
  · intro k
    have hEqual : ((sorted ++ [a]).filter (key · = k)).Pairwise fun a b => key b ≤ key a := by
      refine List.pairwise_of_forall_mem_list fun b hB c hC => ?_
      have hKeyB := of_decide_eq_true (List.mem_filter.mp hB).2
      have hKeyC := of_decide_eq_true (List.mem_filter.mp hC).2
      exact (hKeyC.trans hKeyB.symm).le
    rw [filter_insertionSort hEqual, List.filter_append, List.filter_append, h.stable]

end ProofKit
