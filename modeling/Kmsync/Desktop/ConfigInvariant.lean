import Kmsync.Desktop.Lineage

/-! What holds of the directory of a config at any time.  An edit owns the name and the file that it
has made, and the files that are or were the config no longer change. -/

namespace Kmsync.Desktop

open ProofKit

section Stages

namespace EditStage

/-- The file that has been read, or will be. -/
def source? : EditStage → Option ℕ
  | reading source | preparing source _ => some source
  | creating write | writing write _ _ | replacing write _ => some write.source
  | opening | removing _ _ | returned _ => none

/-- The text that has been made. -/
def updated? : EditStage → Option String
  | preparing _ updated => some updated
  | creating write | writing write _ _ | replacing write _ => some write.updated
  | opening | reading _ | removing _ _ | returned _ => none

/-- The name of the file of its own, which may be there. -/
def temp? : EditStage → Option String
  | creating write | writing write _ _ | replacing write _ | removing write _ => some write.temp
  | opening | reading _ | preparing _ _ | returned _ => none

/-- The file of its own. -/
def file? : EditStage → Option ℕ
  | writing _ file _ | replacing _ file => some file
  | opening | reading _ | preparing _ _ | creating _ | removing _ _ | returned _ => none

/-- What an edit gives the name of the config when the system answers so. -/
def replaces : EditStage → Except String ℕ → Option (PlannedWrite × ℕ)
  | replacing write file, .ok _ => some (write, file)
  | replacing _ _, .error _ | opening, _ | reading _, _ | preparing _ _, _ | creating _, _
  | writing _ _ _, _ | removing _ _, _ | returned _, _ => none

/-- The bytes that the file of its own lacks. -/
def rest : EditStage → List UInt8
  | writing _ _ rest => rest
  | opening | reading _ | preparing _ _ | creating _ | replacing _ _ | removing _ _
  | returned _ => []

end EditStage

/-- Two edits have no file and no name in common. -/
structure Apart (stage stage' : EditStage) : Prop where
  temp : ∀ temp, stage.temp? = some temp → stage'.temp? ≠ some temp
  file : ∀ file, stage.file? = some file → stage'.file? ≠ some file

theorem Apart.of_none {stage stage' : EditStage} (hTemp : stage.temp? = none)
    (hFile : stage.file? = none) : Apart stage stage' := by
  refine ⟨fun temp h => ?_, fun file h => ?_⟩
  · rw [hTemp] at h
    cases h
  · rw [hFile] at h
    cases h

theorem Apart.symm {stage stage' : EditStage} (h : Apart stage stage') : Apart stage' stage :=
  ⟨fun temp hTemp hOther => h.temp temp hOther hTemp,
    fun file hFile hOther => h.file file hOther hFile⟩

/-- The counter of a process only goes up. -/
theorem counters_update {counters : ℕ → Option ℕ} {pid limit : ℕ}
    (hOld : ∀ old, counters pid = some old → old ≤ limit) (pid' old : ℕ)
    (h : counters pid' = some old) :
    ∃ limit', Function.update counters pid (some limit) pid' = some limit' ∧ old ≤ limit' := by
  by_cases hPid : pid' = pid
  · subst hPid
    exact ⟨limit, Function.update_self _ _ _, hOld old h⟩
  · exact ⟨old, (Function.update_of_ne hPid _ _).trans h, le_rfl⟩

/-- What the call of an edit changes: one name, or the config with it, and one file. -/
structure Changes (path : ConfigPath) (temp : String) (file : ℕ)
    (files files' : FileSystem String UInt8) : Prop where
  names : ∀ name, name ≠ temp → name ≠ path.fileName → files'.names name = files.names name
  contents : ∀ other, other ≠ file → files'.contents other = files.contents other
  synced : ∀ other, other ≠ file → files'.synced other = files.synced other
  next : files.next ≤ files'.next

theorem Changes.refl (path : ConfigPath) (temp : String) (file : ℕ)
    (files : FileSystem String UInt8) : Changes path temp file files files :=
  ⟨fun _ _ _ => rfl, fun _ _ => rfl, fun _ _ => rfl, le_rfl⟩

/-- An edit has replaced the config with its file, if with any. -/
structure Grows (id file : ℕ) (older replacements : List Replacement) : Prop where
  kept : ∀ replacement ∈ older, replacement ∈ replacements
  newer : ∀ replacement ∈ replacements, replacement ∈ older ∨
    replacement.task = id ∧ replacement.file = file

theorem Grows.of_eq {id file : ℕ} {older replacements : List Replacement}
    (h : replacements = older) : Grows id file older replacements :=
  ⟨fun _ hMem => h ▸ hMem, fun _ hMem => Or.inl (h ▸ hMem)⟩

theorem Grows.cons (replacement : Replacement) (older : List Replacement) :
    Grows replacement.task replacement.file older (replacement :: older) where
  kept _ hMem := List.mem_cons_of_mem _ hMem
  newer other hMem := by
    rcases List.mem_cons.mp hMem with rfl | hOld
    · exact Or.inr ⟨rfl, rfl⟩
    · exact Or.inl hOld

/-- What an edit relies on. -/
structure KeptFor (first : ℕ) (s s' : ConfigDisk) (id : ℕ) (task : EditTask) : Prop where
  counters : ∀ limit, s.counters task.pid = some limit →
    ∃ limit', s'.counters task.pid = some limit' ∧ limit ≤ limit'
  next : s.files.next ≤ s'.files.next
  replacements : ∀ replacement ∈ s.replacements, replacement ∈ s'.replacements
  contents : ∀ file, Known first s.replacements file ∨ task.stage.file? = some file →
    s'.files.contents file = s.files.contents file
  synced : ∀ file, task.stage.file? = some file → s'.files.synced file = s.files.synced file
  names : ∀ temp, task.stage.temp? = some temp → s'.files.names temp = s.files.names temp
  file : ∀ file, task.stage.file? = some file → Known first s'.replacements file →
    Known first s.replacements file
  own : ∀ replacement ∈ s'.replacements, replacement.task = id → replacement ∈ s.replacements

theorem KeptFor.of_same {first id : ℕ} {s s' : ConfigDisk} {task : EditTask}
    (hFiles : s'.files = s.files) (hReplacements : s'.replacements = s.replacements)
    (hCounters : ∀ limit, s.counters task.pid = some limit →
      ∃ limit', s'.counters task.pid = some limit' ∧ limit ≤ limit') :
    KeptFor first s s' id task where
  counters := hCounters
  next := hFiles ▸ le_rfl
  replacements _ hMem := hReplacements ▸ hMem
  contents _ _ := by rw [hFiles]
  synced _ _ := by rw [hFiles]
  names _ _ := by rw [hFiles]
  file _ _ hKnown := hReplacements ▸ hKnown
  own _ hMem _ := hReplacements ▸ hMem

variable [ConfigJson] [LayoutJson] {path : ConfigPath} {first id : ℕ} {text : String}
  {s s' : ConfigDisk}

/-- An edit has read a file that is or was the config, and it alone has a file and the name of it.
-/
structure TaskSound (path : ConfigPath) (first : ℕ) (s : ConfigDisk) (id : ℕ) (task : EditTask) :
    Prop where
  alive : ∃ limit, s.counters task.pid = some limit
  source : ∀ source, task.stage.source? = some source → Known first s.replacements source
  made : ∀ source updated, task.stage.source? = some source →
    task.stage.updated? = some updated →
    ∃ text, s.files.contents source = asBytes text ∧ task.edit.apply text = .ok updated
  numbered : ∀ temp, task.stage.temp? = some temp → ∃ counter limit,
    temp = tempPathFor path.fileName task.pid counter ∧
      s.counters task.pid = some limit ∧ counter < limit
  file : ∀ file, task.stage.file? = some file →
    file < s.files.next ∧ ¬ Known first s.replacements file
  named : ∀ file temp, task.stage.file? = some file → task.stage.temp? = some temp →
    s.files.names temp = some file
  written : ∀ file updated, task.stage.file? = some file → task.stage.updated? = some updated →
    s.files.contents file ++ task.stage.rest = asBytes updated
  synced : ∀ write file, task.stage = .replacing write file → s.files.synced file = true
  returned : task.stage = .returned (.ok ()) → ∃ replacement ∈ s.replacements,
    replacement.task = id ∧ replacement.edit = task.edit
  unreturned : task.stage ≠ .returned (.ok ()) → ∀ replacement ∈ s.replacements,
    replacement.task ≠ id

/-- Every file that is or was the config is on the disk, with what its edits come to. -/
structure FileSound (first : ℕ) (text : String) (s : ConfigDisk) (file : ℕ) : Prop where
  exists_before : file < s.files.next
  synced : s.files.synced file = true
  text : ∃ text', s.files.contents file = asBytes text' ∧
    ConfigEdit.applyAll text (lineage s.replacements file) = .ok text'

structure DiskSound (path : ConfigPath) (first : ℕ) (text : String) (s : ConfigDisk) : Prop where
  grounded : Grounded first s.replacements
  known : ∀ file, Known first s.replacements file → FileSound first text s file
  stands : ∀ file ∈ s.files.stands path.fileName, ∃ f, file = some f ∧
    Known first s.replacements f
  tasks : ∀ id task, s.tasks id = some task → TaskSound path first s id task
  apart : ∀ id other task task', s.tasks id = some task → s.tasks other = some task' →
    id ≠ other → Apart task.stage task'.stage

theorem TaskSound.kept {task : EditTask} (h : TaskSound path first s id task)
    (hKept : KeptFor first s s' id task) : TaskSound path first s' id task where
  alive := by
    obtain ⟨limit, hLimit⟩ := h.alive
    obtain ⟨limit', hLimit', -⟩ := hKept.counters limit hLimit
    exact ⟨limit', hLimit'⟩
  source source hSource := (h.source source hSource).mono hKept.replacements
  made source updated hSource hUpdated := by
    rw [hKept.contents source (Or.inl (h.source source hSource))]
    exact h.made source updated hSource hUpdated
  numbered temp hTemp := by
    obtain ⟨counter, limit, rfl, hLimit, hLt⟩ := h.numbered temp hTemp
    obtain ⟨limit', hLimit', hLe⟩ := hKept.counters limit hLimit
    exact ⟨counter, limit', rfl, hLimit', hLt.trans_le hLe⟩
  file file hFile :=
    ⟨(h.file file hFile).1.trans_le hKept.next,
      fun hKnown => (h.file file hFile).2 (hKept.file file hFile hKnown)⟩
  named file temp hFile hTemp := (hKept.names temp hTemp).trans (h.named file temp hFile hTemp)
  written file updated hFile hUpdated := by
    rw [hKept.contents file (Or.inr hFile)]
    exact h.written file updated hFile hUpdated
  synced write file hStage :=
    (hKept.synced file (by rw [hStage]; rfl)).trans (h.synced write file hStage)
  returned hStage := by
    obtain ⟨replacement, hMem, hOwn⟩ := h.returned hStage
    exact ⟨replacement, hKept.replacements replacement hMem, hOwn⟩
  unreturned hStage replacement hMem hOwn :=
    h.unreturned hStage replacement (hKept.own replacement hMem hOwn) hOwn

/-- An edit that has no file of its own and has replaced nothing. -/
theorem TaskSound.of_noFile {task : EditTask}
    (hAlive : ∃ limit, s.counters task.pid = some limit)
    (hSource : ∀ source, task.stage.source? = some source → Known first s.replacements source)
    (hMade : ∀ source updated, task.stage.source? = some source →
      task.stage.updated? = some updated →
      ∃ text, s.files.contents source = asBytes text ∧ task.edit.apply text = .ok updated)
    (hNumbered : ∀ temp, task.stage.temp? = some temp → ∃ counter limit,
      temp = tempPathFor path.fileName task.pid counter ∧
        s.counters task.pid = some limit ∧ counter < limit)
    (hFile : task.stage.file? = none) (hStage : task.stage ≠ .returned (.ok ()))
    (hNone : ∀ replacement ∈ s.replacements, replacement.task ≠ id) :
    TaskSound path first s id task where
  alive := hAlive
  source := hSource
  made := hMade
  numbered := hNumbered
  file file hFile' := by
    rw [hFile] at hFile'
    cases hFile'
  named file temp hFile' := by
    rw [hFile] at hFile'
    cases hFile'
  written file updated hFile' := by
    rw [hFile] at hFile'
    cases hFile'
  synced write file hStage := by
    rw [hStage] at hFile
    cases hFile
  returned hReturned := absurd hReturned hStage
  unreturned _ := hNone

/-- An edit that has read nothing yet, or has failed. -/
theorem TaskSound.of_bare {task : EditTask} (hAlive : ∃ limit, s.counters task.pid = some limit)
    (hSource : task.stage.source? = none) (hTemp : task.stage.temp? = none)
    (hFile : task.stage.file? = none) (hStage : task.stage ≠ .returned (.ok ()))
    (hNone : ∀ replacement ∈ s.replacements, replacement.task ≠ id) :
    TaskSound path first s id task := by
  refine .of_noFile hAlive (fun source h => ?_) (fun source updated h => ?_) (fun temp h => ?_)
    hFile hStage hNone
  · rw [hSource] at h
    cases h
  · rw [hSource] at h
    cases h
  · rw [hTemp] at h
    cases h

/-- An edit that has replaced the config, and is done. -/
theorem TaskSound.of_returned {pid : ℕ} {edit : ConfigEdit} {replacement : Replacement}
    (hAlive : ∃ limit, s.counters pid = some limit) (hMem : replacement ∈ s.replacements)
    (hOwn : replacement.task = id) (hEdit : replacement.edit = edit) :
    TaskSound path first s id ⟨pid, edit, .returned (.ok ())⟩ where
  alive := hAlive
  source _ hSource := by cases hSource
  made _ _ hSource := by cases hSource
  numbered _ hTemp := by cases hTemp
  file _ hFile := by cases hFile
  named _ _ hFile := by cases hFile
  written _ _ hFile := by cases hFile
  synced _ _ hStage := by cases hStage
  returned _ := ⟨replacement, hMem, hOwn, hEdit⟩
  unreturned hStage := absurd rfl hStage

theorem TaskSound.temp_ne {task : EditTask} {temp : String} (h : TaskSound path first s id task)
    (hTemp : task.stage.temp? = some temp) : temp ≠ path.fileName := by
  obtain ⟨counter, limit, rfl, -, -⟩ := h.numbered temp hTemp
  exact tempPathFor_ne _ _ _

theorem FileSound.of_same {file : ℕ} (h : FileSound first text s file)
    (hFiles : s'.files = s.files) (hReplacements : s'.replacements = s.replacements) :
    FileSound first text s' file := by
  refine ⟨hFiles ▸ h.exists_before, hFiles ▸ h.synced, ?_⟩
  rw [hFiles, hReplacements]
  exact h.text

theorem KeptFor.of_changes {task : EditTask} {other file : ℕ} {temp : String}
    (hTask : TaskSound path first s id task) (hChanges : Changes path temp file s.files s'.files)
    (hTemp : task.stage.temp? ≠ some temp) (hFile : task.stage.file? ≠ some file)
    (hNew : ¬ Known first s.replacements file) (hNe : id ≠ other)
    (hCounters : ∀ pid limit, s.counters pid = some limit →
      ∃ limit', s'.counters pid = some limit' ∧ limit ≤ limit')
    (hGrows : Grows other file s.replacements s'.replacements) : KeptFor first s s' id task where
  counters := hCounters task.pid
  next := hChanges.next
  replacements := hGrows.kept
  contents other hOther := by
    refine hChanges.contents other fun hEq => ?_
    subst hEq
    exact hOther.elim hNew hFile
  synced other hOther := by
    refine hChanges.synced other fun hEq => ?_
    subst hEq
    exact hFile hOther
  names other hOther := by
    refine hChanges.names other (fun hEq => ?_) (hTask.temp_ne hOther)
    subst hEq
    exact hTemp hOther
  file other hOther hKnown := by
    rcases hKnown with hFirst | ⟨replacement, hMem, hEq⟩
    · exact Or.inl hFirst
    · rcases hGrows.newer replacement hMem with hMem | ⟨-, hEq'⟩
      · exact Or.inr ⟨replacement, hMem, hEq⟩
      · exact absurd (hEq.symm.trans hEq' ▸ hOther) hFile
  own replacement hMem hOwn :=
    (hGrows.newer replacement hMem).resolve_right fun hNewer => hNe (hOwn.symm.trans hNewer.1)

end Stages

end Kmsync.Desktop
