import Mathlib.Data.List.DropRight
import Mathlib.Data.List.TakeWhile

/-! Texts split at a separator: what is before it and what is behind it, at its first or its last
place. -/

namespace ProofKit

variable {α : Type} [DecidableEq α]

/-- At the first place of the separator. -/
def splitOnce (separator : List α) : List α → Option (List α × List α)
  | [] => if separator = [] then some ([], []) else none
  | c :: text =>
    match (c :: text).dropPrefix? separator with
    | some behind => some ([], behind)
    | none => (splitOnce separator text).map fun parts => (c :: parts.1, parts.2)

/-- At the last place of the separator. -/
def rsplitOnce (separator : α) (text : List α) : Option (List α × List α) :=
  (splitOnce [separator] text.reverse).map fun parts => (parts.2.reverse, parts.1.reverse)

variable {c : α} {separator text left right before behind : List α}

/-- A separator is found at the first place of its first character. -/
theorem splitOnce_append (h : c ∉ left) (right : List α) :
    splitOnce (c :: separator) (left ++ (c :: separator ++ right)) = some (left, right) := by
  induction left with
  | nil =>
    rw [List.nil_append, List.cons_append, splitOnce, ← List.cons_append,
      List.dropPrefix?_append_of_beq right BEq.rfl]
  | cons d left ih =>
    have hNe : (d == c) = false := beq_eq_false_iff_ne.mpr (Ne.symm (List.ne_of_not_mem_cons h))
    have hRest := ih (List.not_mem_of_not_mem_cons h)
    rw [List.cons_append, splitOnce, List.dropPrefix?, hNe]
    simp only [Bool.false_eq_true, if_false, hRest, Option.map_some]

/-- What is split is the text. -/
theorem text_of_splitOnce (h : splitOnce separator text = some (before, behind)) :
    text = before ++ (separator ++ behind) := by
  induction text generalizing before with
  | nil =>
    rw [splitOnce] at h
    split at h
    next hNil =>
      cases h
      rw [hNil]
      rfl
    next => cases h
  | cons d text ih =>
    rw [splitOnce] at h
    split at h
    next rest hDrop =>
      cases h
      obtain ⟨front, hText, hFront⟩ := List.dropPrefix?_eq_some_iff.mp hDrop
      rw [hText, beq_iff_eq.mp hFront]
      rfl
    next =>
      obtain ⟨⟨before', behind'⟩, hSplit, hParts⟩ := Option.map_eq_some_iff.mp h
      cases hParts
      rw [ih hSplit, List.cons_append]

theorem splitOnce_eq_none (h : c ∈ separator) (hText : c ∉ text) :
    splitOnce separator text = none := by
  cases hSplit : splitOnce separator text with
  | none => rfl
  | some parts =>
    refine absurd ?_ hText
    rw [text_of_splitOnce hSplit]
    exact List.mem_append_right _ (List.mem_append_left _ h)

/-- The parts before and behind the first separator. -/
theorem splitOnce_eq_some :
    splitOnce [c] text = some (before, behind) ↔ text = before ++ c :: behind ∧ c ∉ before := by
  constructor
  · intro h
    by_cases hMem : c ∈ text
    · obtain ⟨left, right, rfl, hNotMem⟩ := List.eq_append_cons_of_mem hMem
      obtain ⟨rfl, rfl⟩ := Prod.mk.inj (Option.some.inj ((splitOnce_append hNotMem right).symm.trans h))
      exact ⟨rfl, hNotMem⟩
    · rw [splitOnce_eq_none List.mem_cons_self hMem] at h
      cases h
  · rintro ⟨rfl, hNotMem⟩
    exact splitOnce_append hNotMem behind

/-- The parts before and behind the last separator. -/
theorem rsplitOnce_eq_some :
    rsplitOnce c text = some (before, behind) ↔ text = before ++ c :: behind ∧ c ∉ behind := by
  rw [rsplitOnce, Option.map_eq_some_iff]
  constructor
  · rintro ⟨⟨left, right⟩, hSplit, hParts⟩
    obtain ⟨hText, hNotMem⟩ := splitOnce_eq_some.mp hSplit
    obtain ⟨rfl, rfl⟩ := Prod.mk.inj hParts
    refine ⟨?_, mt List.mem_reverse.mp hNotMem⟩
    rw [List.reverse_eq_iff.mp hText]
    simp
  · rintro ⟨rfl, hNotMem⟩
    refine ⟨(behind.reverse, before.reverse), splitOnce_eq_some.mpr ⟨by simp, ?_⟩, by simp⟩
    exact mt List.mem_reverse.mp hNotMem

end ProofKit
