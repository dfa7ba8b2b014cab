import Kmsync.Core.RoundTrip

/-! File lists on the wire.  The decoder sanitises the names again, so a list comes back exactly
when its names are unchanged by that, which fails for a name with a blank behind its last
separator. -/

namespace Kmsync

open ProofKit

section Sanitizing

theorem trim_ne_blank_cons {name : List Char} {c : Char} {rest : List Char}
    (h : trim name = c :: rest) : ¬ isWhitespace c := by
  have hPrefix : trim name <+: name.dropWhile isWhitespace := List.rdropWhile_prefix isWhitespace _
  obtain ⟨tail, hTail⟩ := h ▸ hPrefix
  have hNe : name.dropWhile isWhitespace ≠ [] := by rw [← hTail]; exact List.cons_ne_nil _ _
  have hHead := List.head_dropWhile_not isWhitespace hNe
  simp only [← hTail, List.cons_append, List.head_cons] at hHead
  rw [hHead]
  exact Bool.false_ne_true

/-- Trimming what does not end in a blank only drops the blanks in front. -/
theorem trim_eq_dropWhile {name : List Char}
    (h : ∀ hName : name ≠ [], ¬ isWhitespace (name.getLast hName)) :
    trim name = name.dropWhile isWhitespace := by
  refine List.rdropWhile_eq_self_iff.mpr fun hDrop => ?_
  have hSuffix := List.dropWhile_suffix isWhitespace (l := name)
  rw [hSuffix.getLast hDrop]
  exact h _

theorem isWhitespace_not_separator {c : Char} (h : isWhitespace c) : ¬ isSeparator c := by
  intro hSep
  simp only [isSeparator, Bool.or_eq_true, beq_iff_eq] at hSep
  rcases hSep with rfl | rfl <;> revert h <;> decide

theorem lastPart_append_cons {before part : List Char} {separator : Char}
    (hSep : isSeparator separator) (hPart : ∀ c ∈ part, ¬ isSeparator c) :
    lastPart (before ++ separator :: part) = part := by
  induction part using List.reverseRecOn with
  | nil => exact List.rtakeWhile_concat_neg _ _ _ (by simp [hSep])
  | append_singleton part c ih =>
    have hc : ¬ isSeparator c := hPart c (by simp)
    rw [lastPart, ← List.cons_append, ← List.append_assoc,
      List.rtakeWhile_concat_pos _ _ _ (by simp [hc])]
    exact congrArg (· ++ [c]) (ih fun d hd => hPart d (by simp [hd]))

theorem mem_lastPart {name : List Char} {c : Char} (h : c ∈ lastPart name) : ¬ isSeparator c := by
  simpa using List.mem_rtakeWhile_imp h

/-- A blank right behind the last separator of the trimmed name. -/
def BlankAfterSeparator (name : String) : Prop :=
  ∃ before separator blank after, trim name.toList = before ++ separator :: blank :: after ∧
    isSeparator separator ∧ isWhitespace blank ∧ ∀ c ∈ after, ¬ isSeparator c

theorem blankAfterSeparator_iff (name : String) :
    BlankAfterSeparator name ↔
      ∃ blank after, lastPart (trim name.toList) = blank :: after ∧ isWhitespace blank := by
  constructor
  · rintro ⟨before, separator, blank, after, hName, hSep, hBlank, hAfter⟩
    refine ⟨blank, after, ?_, hBlank⟩
    rw [hName]
    refine lastPart_append_cons hSep fun c hc => ?_
    rcases List.mem_cons.mp hc with rfl | hc
    · exact isWhitespace_not_separator hBlank
    · exact hAfter c hc
  · rintro ⟨blank, after, hLast, hBlank⟩
    obtain ⟨front, hFront⟩ : ∃ front, front = (trim name.toList).rdropWhile (!isSeparator ·) :=
      ⟨_, rfl⟩
    have hSplit : front ++ blank :: after = trim name.toList := by
      rw [hFront, ← hLast]
      exact List.rdropWhile_append_rtakeWhile
    -- The front is not empty, for a trimmed name does not begin with a blank.
    have hNe : front ≠ [] := by
      rintro rfl
      exact trim_ne_blank_cons hSplit.symm hBlank
    refine ⟨front.dropLast, front.getLast hNe, blank, after, ?_, ?_, hBlank, ?_⟩
    · conv_lhs => rw [← hSplit, ← List.dropLast_append_getLast hNe]
      rw [List.append_assoc]
      rfl
    · subst hFront
      simpa using List.rdropWhile_last_not _ _ hNe
    · exact fun c hc => mem_lastPart (by rw [hLast]; exact List.mem_cons_of_mem _ hc)

theorem dropWhile_eq_self_iff_head {name : List Char} :
    name.dropWhile isWhitespace = name ↔
      ¬ ∃ blank after, name = blank :: after ∧ isWhitespace blank := by
  cases name with
  | nil => simp
  | cons c rest => 
    simp [List.dropWhile_eq_self_iff]

/-- Sanitising twice changes the names with a blank behind their last separator, and no others. -/
theorem sanitize_idem_iff (name : String) :
    sanitizeClipboardFileName (sanitizeClipboardFileName name) = sanitizeClipboardFileName name ↔
      ¬ BlankAfterSeparator name := by
  rw [blankAfterSeparator_iff, ← dropWhile_eq_self_iff_head]
  by_cases hBase : lastPart (trim name.toList) = []
  · have hName : sanitizeClipboardFileName name = "unnamed" := by
      simp [sanitizeClipboardFileName, hBase]
    rw [hName, hBase]
    exact iff_of_true (by decide) rfl
  · have hName : sanitizeClipboardFileName name = String.ofList (lastPart (trim name.toList)) := by
      simp [sanitizeClipboardFileName, hBase]
    have hSuffix : lastPart (trim name.toList) <:+ trim name.toList := List.rtakeWhile_suffix _ _
    have hTrimNe : trim name.toList ≠ [] := hSuffix.ne_nil hBase
    have hLastChar : ¬ isWhitespace ((lastPart (trim name.toList)).getLast hBase) := by
      rw [hSuffix.getLast hBase]
      exact List.rdropWhile_last_not isWhitespace _ hTrimNe
    have hTrim : trim (lastPart (trim name.toList)) =
        (lastPart (trim name.toList)).dropWhile isWhitespace := trim_eq_dropWhile fun _ => hLastChar
    have hPart : lastPart ((lastPart (trim name.toList)).dropWhile isWhitespace) =
        (lastPart (trim name.toList)).dropWhile isWhitespace :=
      List.rtakeWhile_eq_self_iff.mpr fun c hc => by
        simpa using mem_lastPart ((List.dropWhile_suffix _).subset hc)
    have hNe : (lastPart (trim name.toList)).dropWhile isWhitespace ≠ [] := fun hNil =>
      hLastChar (List.dropWhile_eq_nil_iff.mp hNil _ (List.getLast_mem hBase))
    rw [hName, sanitizeClipboardFileName, String.toList_ofList, hTrim, hPart]
    simp [hNe, String.ofList_inj]

end Sanitizing

end Kmsync
