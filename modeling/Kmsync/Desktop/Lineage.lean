import Kmsync.Desktop.ConfigFiles
import Kmsync.Server.UuidText

/-! The files that have been the config, and the edits that each of them was made of.  An edit is
lost if another replaces the file that it has not read. -/

namespace Kmsync.Desktop

section Lineages

/-- The edits that a file was made of. -/
def lineage : List Replacement → ℕ → List ConfigEdit
  | [], _ => []
  | replacement :: older, file =>
    if replacement.file = file then lineage older replacement.source ++ [replacement.edit]
    else lineage older file

/-- All edits that have replaced the config, in order. -/
def completed (replacements : List Replacement) : List ConfigEdit :=
  (replacements.map Replacement.edit).reverse

/-- A file that is or was the config. -/
def Known (first : ℕ) (replacements : List Replacement) (file : ℕ) : Prop :=
  file = first ∨ ∃ replacement ∈ replacements, replacement.file = file

/-- The file that has become the config last. -/
def newest (first : ℕ) : List Replacement → ℕ
  | [] => first
  | replacement :: _ => replacement.file

/-- Each edit has read the file that it replaced. -/
def Chained (first : ℕ) : List Replacement → Prop
  | [] => True
  | replacement :: older => replacement.source = newest first older ∧ Chained first older

/-- Each replacement is a new file, made of one that was there. -/
def Grounded (first : ℕ) : List Replacement → Prop
  | [] => True
  | replacement :: older =>
    Known first older replacement.source ∧ ¬ Known first older replacement.file ∧
      Grounded first older

variable {first file : ℕ} {replacement : Replacement} {older replacements : List Replacement}

theorem completed_cons (replacement : Replacement) (older : List Replacement) :
    completed (replacement :: older) = completed older ++ [replacement.edit] := by
  rw [completed, List.map_cons, List.reverse_cons, completed]

theorem known_cons :
    Known first (replacement :: older) file ↔ Known first older file ∨ replacement.file = file := by
  simp only [Known, List.exists_mem_cons_iff]
  rw [or_left_comm, or_comm]

theorem Known.mono {replacements' : List Replacement} (h : Known first replacements file)
    (hMono : ∀ replacement ∈ replacements, replacement ∈ replacements') :
    Known first replacements' file :=
  h.imp_right fun ⟨replacement, hMem, hFile⟩ => ⟨replacement, hMono replacement hMem, hFile⟩

theorem lineage_cons_self (replacement : Replacement) (older : List Replacement) :
    lineage (replacement :: older) replacement.file =
      lineage older replacement.source ++ [replacement.edit] :=
  if_pos rfl

theorem lineage_cons_ne (h : replacement.file ≠ file) :
    lineage (replacement :: older) file = lineage older file :=
  if_neg h

theorem lineage_sublist (replacements : List Replacement) (file : ℕ) :
    (lineage replacements file).Sublist (completed replacements) := by
  induction replacements generalizing file with
  | nil => exact .slnil
  | cons replacement older ih =>
    rw [completed_cons, lineage]
    split
    · exact (ih replacement.source).append_right _
    · exact (ih file).trans (List.sublist_append_left _ _)

end Lineages

section Names

variable {fileName : String} {pid pid' counter counter' : ℕ}

theorem tempPathFor_toList (fileName : String) (pid counter : ℕ) :
    (tempPathFor fileName pid counter).toList =
      ('.' :: fileName.toList ++ ".tmp.".toList ++ Nat.toDigits 10 pid) ++
        '.' :: Nat.toDigits 10 counter := by
  simp [tempPathFor, String.toList_append, Nat.toString_eq_repr, Nat.toList_repr]

theorem dot_notMem_toDigits (n : ℕ) : '.' ∉ (Nat.toDigits 10 n).reverse := by
  intro hMem
  have hDigit := Nat.isDigit_of_mem_toDigits (by decide) le_rfl (List.mem_reverse.mp hMem)
  exact absurd hDigit (by decide)

theorem toDigits_inj {n m : ℕ} (h : Nat.toDigits 10 n = Nat.toDigits 10 m) : n = m := by
  have hValue := congrArg (fun digits => Nat.ofDigitChars 10 digits 0) h
  simpa only [Nat.ofDigitChars_ten_toDigits] using hValue

/-- The process and its counter are read off the name. -/
theorem tempPathFor_inj (h : tempPathFor fileName pid counter = tempPathFor fileName pid' counter') :
    pid = pid' ∧ counter = counter' := by
  have hText := congrArg (fun text => text.toList.reverse) h
  simp only [tempPathFor_toList, List.reverse_append, List.reverse_cons, List.append_assoc,
    List.singleton_append] at hText
  obtain ⟨hCounter, hRest⟩ :=
    Server.append_sep_inj (dot_notMem_toDigits counter) (dot_notMem_toDigits counter') hText
  have hPid := List.append_cancel_right hRest
  exact ⟨toDigits_inj (List.reverse_inj.mp hPid), toDigits_inj (List.reverse_inj.mp hCounter)⟩

theorem tempPathFor_ne (fileName : String) (pid counter : ℕ) :
    tempPathFor fileName pid counter ≠ fileName := by
  intro h
  have hLength := congrArg (fun text => text.toList.length) h
  simp only [tempPathFor_toList, List.length_append, List.length_cons] at hLength
  omega

end Names

end Kmsync.Desktop
