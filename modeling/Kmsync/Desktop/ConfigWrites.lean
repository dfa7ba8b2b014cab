import Kmsync.Desktop.ConfigInvariant
import Kmsync.Core.FileList

/-! The calls of one edit, each of which keeps what holds of the directory. -/

namespace Kmsync.Desktop

open ProofKit

theorem asBytes_inj {text text' : String} (h : asBytes text = asBytes text') : text = text' := by
  have hText := congrArg fromUtf8 h
  rw [fromUtf8_asBytes, fromUtf8_asBytes] at hText
  exact Except.ok.inj hText

variable [ConfigJson] [LayoutJson] {path : ConfigPath} {first id : ℕ} {text : String}
  {s s' : ConfigDisk}

namespace DiskSound

/-- The file that an edit changes is new, or its own. -/
theorem not_known (h : DiskSound path first text s) {file : ℕ} {task : EditTask}
    (hTask : s.tasks id = some task)
    (hFile : file = s.files.next ∨ task.stage.file? = some file) :
    ¬ Known first s.replacements file := by
  rcases hFile with rfl | hFile
  · exact fun hKnown => Nat.lt_irrefl _ (h.known _ hKnown).exists_before
  · exact ((h.tasks id task hTask).file file hFile).2

/-- What an edit changes keeps the others. -/
theorem keptFor (h : DiskSound path first text s) {other file : ℕ} {task task' : EditTask}
    {temp : String} (hTask : s.tasks id = some task) (hOther : s.tasks other = some task')
    (hNe : other ≠ id) (hChanges : Changes path temp file s.files s'.files)
    (hTemp : temp = path.fileName ∨ task.stage.temp? = some temp)
    (hFile : file = s.files.next ∨ task.stage.file? = some file)
    (hCounters : ∀ pid limit, s.counters pid = some limit →
      ∃ limit', s'.counters pid = some limit' ∧ limit ≤ limit')
    (hGrows : Grows id file s.replacements s'.replacements) : KeptFor first s s' other task' := by
  have hSound := h.tasks other task' hOther
  have hApart := h.apart id other task task' hTask hOther hNe.symm
  refine .of_changes hSound hChanges (fun hEq => ?_) (fun hEq => ?_) (h.not_known hTask hFile) hNe
    hCounters hGrows
  · rcases hTemp with rfl | hTemp
    · exact hSound.temp_ne hEq rfl
    · exact hApart.temp temp hTemp hEq
  · rcases hFile with rfl | hFile
    · exact Nat.lt_irrefl _ (hSound.file _ hEq).1
    · exact hApart.file file hFile hEq

/-- An edit goes on, and replaces nothing. -/
theorem update (h : DiskSound path first text s) {task : EditTask} {stage : EditStage}
    (temp : String) (file : ℕ) (hTask : s.tasks id = some task)
    (hTasks : s'.tasks = Function.update s.tasks id (some { task with stage }))
    (hReplacements : s'.replacements = s.replacements)
    (hChanges : Changes path temp file s.files s'.files)
    (hStands : s'.files.stands path.fileName = s.files.stands path.fileName)
    (hTemp : temp = path.fileName ∨ task.stage.temp? = some temp)
    (hFile : file = s.files.next ∨ task.stage.file? = some file)
    (hCounters : ∀ pid limit, s.counters pid = some limit →
      ∃ limit', s'.counters pid = some limit' ∧ limit ≤ limit')
    (hApart : ∀ other task', other ≠ id → s.tasks other = some task' → Apart stage task'.stage)
    (hOwn : TaskSound path first s' id { task with stage }) : DiskSound path first text s' where
  grounded := hReplacements ▸ h.grounded
  known other hKnown := by
    rw [hReplacements] at hKnown
    have hNe : other ≠ file := fun hEq => h.not_known hTask hFile (hEq ▸ hKnown)
    have hOld := h.known other hKnown
    refine ⟨hOld.exists_before.trans_le hChanges.next, ?_, ?_⟩
    · rw [hChanges.synced other hNe, hOld.synced]
    · rw [hChanges.contents other hNe, hReplacements]
      exact hOld.text
  stands other hOther := by
    rw [hStands] at hOther
    rw [hReplacements]
    exact h.stands other hOther
  tasks other task' hOther := by
    rw [hTasks] at hOther
    by_cases hNe : other = id
    · subst hNe
      rw [Function.update_self] at hOther
      exact Option.some.inj hOther ▸ hOwn
    · rw [Function.update_of_ne hNe] at hOther
      exact (h.tasks other task' hOther).kept
        (h.keptFor hTask hOther hNe hChanges hTemp hFile hCounters (.of_eq hReplacements))
  apart other other' task₁ task₂ hOther hOther' hNe := by
    rw [hTasks] at hOther hOther'
    by_cases hSame : other = id
    · subst hSame
      rw [Function.update_self] at hOther
      rw [Function.update_of_ne hNe.symm] at hOther'
      exact Option.some.inj hOther ▸ hApart other' task₂ hNe.symm hOther'
    · rw [Function.update_of_ne hSame] at hOther
      by_cases hSame' : other' = id
      · subst hSame'
        rw [Function.update_self] at hOther'
        exact Option.some.inj hOther' ▸ (hApart other task₁ hSame hOther).symm
      · rw [Function.update_of_ne hSame'] at hOther'
        exact h.apart other other' task₁ task₂ hOther hOther' hNe

/-- The names and files of an edit that goes on are among those it had. -/
theorem apart_of_le (h : DiskSound path first text s) {task : EditTask}
    {stage : EditStage} (hTask : s.tasks id = some task)
    (hTemp : ∀ temp, stage.temp? = some temp → task.stage.temp? = some temp)
    (hFile : ∀ file, stage.file? = some file → task.stage.file? = some file) (other : ℕ)
    (task' : EditTask) (hNe : other ≠ id) (hOther : s.tasks other = some task') :
    Apart stage task'.stage := by
  have hApart := h.apart id other task task' hTask hOther hNe.symm
  exact ⟨fun temp hTemp' => hApart.temp temp (hTemp temp hTemp'),
    fun file hFile' => hApart.file file (hFile file hFile')⟩

/-- An edit goes on, and changes no file. -/
theorem setStage (h : DiskSound path first text s) {task : EditTask} {stage : EditStage}
    (hTask : s.tasks id = some task)
    (hTemp : ∀ temp, stage.temp? = some temp → task.stage.temp? = some temp)
    (hFile : ∀ file, stage.file? = some file → task.stage.file? = some file)
    (hOwn : TaskSound path first (s.setStage id task stage) id { task with stage }) :
    DiskSound path first text (s.setStage id task stage) :=
  h.update path.fileName s.files.next hTask rfl rfl (.refl _ _ _ _) rfl (Or.inl rfl)
    (Or.inl rfl) (fun _ limit hLimit => ⟨limit, hLimit, le_rfl⟩) (h.apart_of_le hTask hTemp hFile)
    hOwn

theorem fail (h : DiskSound path first text s) {task : EditTask} (hTask : s.tasks id = some task)
    (hStage : task.stage ≠ .returned (.ok ())) (error : String) :
    DiskSound path first text (s.fail id task error) := by
  have hSound := h.tasks id task hTask
  refine h.setStage hTask (fun _ hTemp => ?_) (fun _ hFile => ?_)
    (.of_bare hSound.alive rfl rfl rfl (fun hReturned => ?_) (hSound.unreturned hStage))
  · cases hTemp
  · cases hFile
  · cases hReturned

/-- An edit fails, and its file has to be removed. -/
theorem setRemoving (h : DiskSound path first text s) {task : EditTask}
    (hTask : s.tasks id = some task) {write : PlannedWrite}
    (hTemp : task.stage.temp? = some write.temp) (error : String) :
    DiskSound path first text (s.setStage id task (.removing write error)) := by
  have hSound := h.tasks id task hTask
  have hStage : task.stage ≠ .returned (.ok ()) := fun hReturned => by
    rw [hReturned] at hTemp
    cases hTemp
  refine h.setStage hTask (fun temp hTemp' => ?_) (fun _ hFile => ?_)
    (.of_noFile hSound.alive (fun _ hSource => ?_) (fun _ _ hSource => ?_) (fun temp hTemp' => ?_)
      rfl (fun hReturned => ?_) (hSound.unreturned hStage))
  · exact Option.some.inj hTemp' ▸ hTemp
  · cases hFile
  · cases hSource
  · cases hSource
  · exact hSound.numbered temp (Option.some.inj hTemp' ▸ hTemp)
  · cases hReturned

/-- An edit opens the file that is the config now. -/
theorem setReading (h : DiskSound path first text s) {source : ℕ} {task : EditTask}
    (hTask : s.tasks id = some task) (hStage : task.stage = .opening)
    (hNames : s.files.names path.fileName = some source) :
    DiskSound path first text (s.setStage id task (.reading source)) := by
  have hKnown : Known first s.replacements source := by
    obtain ⟨file, hEq, hKnown⟩ := h.stands (some source) (hNames ▸ List.mem_cons_self)
    exact Option.some.inj hEq ▸ hKnown
  have hSound := h.tasks id task hTask
  have hNone := hSound.unreturned (by rw [hStage]; exact EditStage.noConfusion)
  refine h.setStage hTask (fun _ hTemp => ?_) (fun _ hFile => ?_)
    (.of_noFile hSound.alive (fun source' hSource => ?_) (fun _ _ _ hUpdated => ?_)
      (fun _ hTemp => ?_) rfl (fun hReturned => ?_) hNone)
  · cases hTemp
  · cases hFile
  · exact Option.some.inj hSource ▸ hKnown
  · cases hUpdated
  · cases hTemp
  · cases hReturned

/-- An edit makes its text of the one that it has read. -/
theorem editText (h : DiskSound path first text s) {source : ℕ} {task : EditTask} {read : String}
    (hTask : s.tasks id = some task) (hStage : task.stage = .reading source)
    (hRead : s.files.contents source = asBytes read) :
    DiskSound path first text (s.editText id task source read) := by
  have hSound := h.tasks id task hTask
  have hKnown : Known first s.replacements source := hSound.source source (by rw [hStage]; rfl)
  have hRunning : task.stage ≠ .returned (.ok ()) := by
    rw [hStage]
    exact EditStage.noConfusion
  rw [ConfigDisk.editText]
  split
  next updated hApply =>
    refine h.setStage hTask (fun _ hTemp => ?_) (fun _ hFile => ?_)
      (.of_noFile hSound.alive (fun source' hSource => ?_) (fun source' updated' hSource hUpdated => ?_)
        (fun _ hTemp => ?_) rfl (fun hReturned => ?_) (hSound.unreturned hRunning))
    · cases hTemp
    · cases hFile
    · exact Option.some.inj hSource ▸ hKnown
    · cases hSource
      cases hUpdated
      exact ⟨read, hRead, hApply⟩
    · cases hTemp
    · cases hReturned
  next => exact h.fail hTask hRunning _

/-- An edit gets a name that no other has. -/
theorem setCreating (h : DiskSound path first text s) {source counter : ℕ} {task : EditTask}
    {updated : String} (hTask : s.tasks id = some task)
    (hStage : task.stage = .preparing source updated) (hCounter : s.counters task.pid = some counter) :
    DiskSound path first text
      { s.setStage id task
          (.creating ⟨source, updated, tempPathFor path.fileName task.pid counter⟩) with
        counters := Function.update s.counters task.pid (some (counter + 1)) } := by
  have hSound := h.tasks id task hTask
  have hNone := hSound.unreturned (by rw [hStage]; exact EditStage.noConfusion)
  refine h.update path.fileName s.files.next hTask rfl rfl (.refl _ _ _ _) rfl (Or.inl rfl)
    (Or.inl rfl) (counters_update fun old hOld =>
      (Option.some.inj (hCounter.symm.trans hOld)).ge.trans (Nat.le_succ counter))
    (fun other task' hNe hOther => ⟨fun temp hTemp hOther' => ?_, fun _ hFile => ?_⟩)
    (.of_noFile ⟨counter + 1, Function.update_self _ _ _⟩ (fun source' hSource => ?_)
      (fun source' updated' hSource hUpdated => ?_) (fun temp hTemp => ?_) rfl
      (fun hReturned => ?_) hNone)
  · -- The name of another edit has another process or a smaller number in it.
    cases hTemp
    obtain ⟨counter', limit, hName, hLimit, hLt⟩ :=
      (h.tasks other task' hOther).numbered _ hOther'
    obtain ⟨hPid, rfl⟩ := tempPathFor_inj hName
    rw [← hPid, hCounter] at hLimit
    exact Nat.lt_irrefl _ (Option.some.inj hLimit ▸ hLt)
  · cases hFile
  · cases hSource
    exact hSound.source source (by rw [hStage]; rfl)
  · cases hSource
    cases hUpdated
    exact hSound.made source updated (by rw [hStage]; rfl) (by rw [hStage]; rfl)
  · cases hTemp
    exact ⟨counter, counter + 1, rfl, Function.update_self _ _ _, Nat.lt_succ_self _⟩
  · cases hReturned

/-- An edit creates its file, which is new. -/
theorem create (h : DiskSound path first text s) {task : EditTask} {write : PlannedWrite}
    {files : FileSystem String UInt8} (hTask : s.tasks id = some task)
    (hStage : task.stage = .creating write) (hCreate : s.files.createNew write.temp = some files) :
    DiskSound path first text
      { s.setStage id task (.writing write s.files.next (asBytes write.updated)) with files } := by
  obtain ⟨-, rfl⟩ := FileSystem.createNew_eq_some hCreate
  have hSound := h.tasks id task hTask
  have hTemp : task.stage.temp? = some write.temp := by rw [hStage]; rfl
  have hSource : task.stage.source? = some write.source := by rw [hStage]; rfl
  have hNew := h.not_known hTask (Or.inl rfl)
  have hKnown := hSound.source _ hSource
  refine h.update write.temp s.files.next hTask rfl rfl ?_
    (FileSystem.stands_setName_ne _ (hSound.temp_ne hTemp).symm _) (Or.inr hTemp) (Or.inl rfl)
    (fun _ limit hLimit => ⟨limit, hLimit, le_rfl⟩) ?_ ?_
  · exact ⟨fun name hNe _ => FileSystem.names_setName_ne _ hNe _,
      fun other hNe => Function.update_of_ne hNe _ _, fun other hNe => Function.update_of_ne hNe _ _,
      Nat.le_succ _⟩
  · intro other task' hNe hOther
    refine ⟨fun temp hTemp' => ?_, fun file hFile hOther' => ?_⟩
    · exact (h.apart id other task task' hTask hOther hNe.symm).temp temp
        (Option.some.inj hTemp' ▸ hTemp)
    · cases hFile
      exact Nat.lt_irrefl _ ((h.tasks other task' hOther).file _ hOther').1
  · exact {
      alive := hSound.alive
      source := fun source hSource' => Option.some.inj hSource' ▸ hKnown
      made := by
        intro source updated hSource' hUpdated
        cases hSource'
        have hNe : write.source ≠ s.files.next := fun hEq => hNew (hEq ▸ hKnown)
        show ∃ text, Function.update s.files.contents s.files.next [] write.source = _ ∧ _
        rw [Function.update_of_ne hNe]
        exact hSound.made _ updated hSource (by rw [hStage]; exact hUpdated)
      numbered := fun temp hTemp' => hSound.numbered temp (Option.some.inj hTemp' ▸ hTemp)
      file := by
        intro file hFile
        cases hFile
        exact ⟨Nat.lt_succ_self _, hNew⟩
      named := by
        intro file temp hFile hTemp'
        cases hFile
        cases hTemp'
        exact Function.update_self _ _ _
      written := by
        intro file updated hFile hUpdated
        cases hFile
        cases hUpdated
        show Function.update s.files.contents s.files.next [] s.files.next ++ _ = _
        rw [Function.update_self]
        rfl
      synced := by
        intro write' file hReplacing
        cases hReplacing
      returned := by
        intro hReturned
        cases hReturned
      unreturned := fun _ => hSound.unreturned (by rw [hStage]; exact EditStage.noConfusion) }

/-- What an edit has planned, and the file of its own. -/
structure OwnFile (stage : EditStage) (write : PlannedWrite) (file : ℕ) : Prop where
  source : stage.source? = some write.source
  updated : stage.updated? = some write.updated
  temp : stage.temp? = some write.temp
  file : stage.file? = some file

/-- An edit writes to its file, or syncs it. -/
theorem withFile (h : DiskSound path first text s) {file : ℕ} {task : EditTask}
    {write : PlannedWrite} {stage : EditStage} {files : FileSystem String UInt8}
    (hTask : s.tasks id = some task) (hOwn : OwnFile task.stage write file)
    (hOwn' : OwnFile stage write file) (hNames : files.names = s.files.names)
    (hPast : files.past = s.files.past) (hNext : files.next = s.files.next)
    (hContents : ∀ other, other ≠ file → files.contents other = s.files.contents other)
    (hSynced : ∀ other, other ≠ file → files.synced other = s.files.synced other)
    (hWritten : files.contents file ++ stage.rest =
      s.files.contents file ++ task.stage.rest)
    (hReplacing : ∀ write' file', stage = .replacing write' file' → files.synced file = true) :
    DiskSound path first text { s.setStage id task stage with files } := by
  have hSound := h.tasks id task hTask
  have hNew := h.not_known hTask (Or.inr hOwn.file)
  have hKnown := hSound.source _ hOwn.source
  refine h.update write.temp file hTask rfl rfl
    ⟨fun name _ _ => congrFun hNames name, hContents, hSynced, hNext.ge⟩ ?_ (Or.inr hOwn.temp)
    (Or.inr hOwn.file) (fun _ limit hLimit => ⟨limit, hLimit, le_rfl⟩) (h.apart_of_le hTask ?_ ?_) ?_
  · show files.names _ :: files.past _ = s.files.names _ :: s.files.past _
    rw [hNames, hPast]
  · intro temp hTemp
    rw [hOwn.temp, ← hOwn'.temp, hTemp]
  · intro file' hFile
    rw [hOwn.file, ← hOwn'.file, hFile]
  · exact {
      alive := hSound.alive
      source := by
        intro source hSource
        exact Option.some.inj (hOwn'.source.symm.trans hSource) ▸ hKnown
      made := by
        intro source updated hSource hUpdated
        obtain rfl := Option.some.inj (hOwn'.source.symm.trans hSource)
        obtain rfl := Option.some.inj (hOwn'.updated.symm.trans hUpdated)
        show ∃ text, files.contents write.source = _ ∧ _
        rw [hContents _ fun hEq => hNew (hEq ▸ hKnown)]
        exact hSound.made _ _ hOwn.source hOwn.updated
      numbered := by
        intro temp hTemp
        exact hSound.numbered temp (hOwn.temp.trans (hOwn'.temp.symm.trans hTemp))
      file := by
        intro file' hFile
        obtain rfl := Option.some.inj (hOwn'.file.symm.trans hFile)
        exact ⟨(hSound.file _ hOwn.file).1.trans_le hNext.ge, hNew⟩
      named := by
        intro file' temp hFile hTemp
        show files.names temp = some file'
        rw [hNames]
        exact hSound.named file' temp (hOwn.file.trans (hOwn'.file.symm.trans hFile))
          (hOwn.temp.trans (hOwn'.temp.symm.trans hTemp))
      written := by
        intro file' updated hFile hUpdated
        obtain rfl := Option.some.inj (hOwn'.file.symm.trans hFile)
        exact hWritten.trans (hSound.written _ updated hOwn.file
          (hOwn.updated.trans (hOwn'.updated.symm.trans hUpdated)))
      synced := by
        intro write' file' hStage
        have hFile := hOwn'.file
        obtain rfl : stage = _ := hStage
        cases hFile
        exact hReplacing _ _ rfl
      returned := by
        intro hStage
        have hFile := hOwn'.file
        obtain rfl : stage = _ := hStage
        cases hFile
      unreturned := fun _ => hSound.unreturned fun hReturned => by
        have hFile := hOwn.file
        rw [hReturned] at hFile
        cases hFile }

/-- An edit removes its name. -/
theorem remove (h : DiskSound path first text s) {task : EditTask} {temp : String}
    (hTask : s.tasks id = some task) (hTemp : task.stage.temp? = some temp) (error : String) :
    DiskSound path first text { s.fail id task error with files := s.files.remove temp } := by
  have hSound := h.tasks id task hTask
  have hStage : task.stage ≠ .returned (.ok ()) := fun hReturned => by
    rw [hReturned] at hTemp
    cases hTemp
  refine h.update temp s.files.next hTask rfl rfl
    ⟨fun name hNe _ => FileSystem.names_setName_ne _ hNe _, fun _ _ => rfl, fun _ _ => rfl, le_rfl⟩
    (FileSystem.stands_setName_ne _ (hSound.temp_ne hTemp).symm _) (Or.inr hTemp) (Or.inl rfl)
    (fun _ limit hLimit => ⟨limit, hLimit, le_rfl⟩)
    (h.apart_of_le hTask (fun _ hTemp => ?_) fun _ hFile => ?_)
    (.of_bare hSound.alive rfl rfl rfl (fun hReturned => ?_) (hSound.unreturned hStage))
  · cases hTemp
  · cases hFile
  · cases hReturned

/-- An edit gives its file the name of the config. -/
theorem replace (h : DiskSound path first text s) {file : ℕ} {task : EditTask}
    {write : PlannedWrite} {files : FileSystem String UInt8} (hTask : s.tasks id = some task)
    (hStage : task.stage = .replacing write file)
    (hRename : s.files.rename write.temp path.fileName = some files) :
    DiskSound path first text { s.setStage id task (.returned (.ok ())) with
      files, replacements := ⟨id, file, write.source, task.edit⟩ :: s.replacements } := by
  have hSound := h.tasks id task hTask
  have hOwn : OwnFile task.stage write file := by rw [hStage]; exact ⟨rfl, rfl, rfl, rfl⟩
  have hNew := h.not_known hTask (Or.inr hOwn.file)
  have hKnown := hSound.source _ hOwn.source
  have hNe := hSound.temp_ne hOwn.temp
  obtain ⟨file', hTemp, rfl⟩ := FileSystem.rename_eq_some hRename
  obtain rfl : file = file' :=
    Option.some.inj ((hSound.named _ _ hOwn.file hOwn.temp).symm.trans hTemp)
  refine {
    grounded := ⟨hKnown, hNew, h.grounded⟩
    known := fun other hOther => ?_
    stands := fun other hOther => ?_
    tasks := fun other task' hOther => ?_
    apart := fun other other' task₁ task₂ hOther hOther' hDiffer => ?_ }
  · rcases known_cons.mp hOther with hOld | rfl
    · have hOld' := h.known other hOld
      refine ⟨hOld'.exists_before, hOld'.synced, ?_⟩
      show ∃ text', _ ∧ ConfigEdit.applyAll text (lineage (_ :: s.replacements) other) = _
      rw [lineage_cons_ne fun hEq : file = other => hNew (hEq ▸ hOld)]
      exact hOld'.text
    · refine ⟨(hSound.file _ hOwn.file).1, hSound.synced _ _ hStage, write.updated, ?_, ?_⟩
      · have hWritten := hSound.written _ _ hOwn.file hOwn.updated
        rw [hStage] at hWritten
        exact (List.append_nil _).symm.trans hWritten
      · -- The text was made of the one that the source still holds.
        obtain ⟨read, hRead, hApply⟩ := hSound.made _ _ hOwn.source hOwn.updated
        obtain ⟨text', hText, hAll⟩ := (h.known _ hKnown).text
        obtain rfl := asBytes_inj (hRead.symm.trans hText)
        show ConfigEdit.applyAll text (lineage (_ :: s.replacements) _) = _
        rw [lineage_cons_self, ConfigEdit.applyAll_snoc, hAll]
        exact hApply
  · have hStands : ((s.files.setName path.fileName (some file)).setName write.temp none).stands
        path.fileName = some file :: s.files.stands path.fileName := by
      rw [FileSystem.stands_setName_ne _ hNe.symm, FileSystem.stands_setName_self]
    rw [hStands] at hOther
    rcases List.mem_cons.mp hOther with rfl | hOld
    · exact ⟨file, rfl, known_cons.mpr (Or.inr rfl)⟩
    · obtain ⟨f, rfl, hOldKnown⟩ := h.stands other hOld
      exact ⟨f, rfl, known_cons.mpr (Or.inl hOldKnown)⟩
  · change Function.update s.tasks id _ other = some task' at hOther
    by_cases hSame : other = id
    · subst hSame
      rw [Function.update_self] at hOther
      cases hOther
      have hMem : (⟨other, file, write.source, task.edit⟩ : Replacement) ∈
          ⟨other, file, write.source, task.edit⟩ :: s.replacements := List.mem_cons_self
      exact .of_returned hSound.alive hMem rfl rfl
    · rw [Function.update_of_ne hSame] at hOther
      refine (h.tasks other task' hOther).kept (h.keptFor hTask hOther hSame ?_ (Or.inr hOwn.temp)
        (Or.inr hOwn.file) (fun _ limit hLimit => ⟨limit, hLimit, le_rfl⟩)
        (Grows.cons ⟨id, file, write.source, task.edit⟩ s.replacements))
      refine ⟨fun name hName hConfig => ?_, fun _ _ => rfl, fun _ _ => rfl, le_rfl⟩
      exact (FileSystem.names_setName_ne _ hName _).trans
        (FileSystem.names_setName_ne _ hConfig _)
  · change Function.update s.tasks id _ other = some task₁ at hOther
    change Function.update s.tasks id _ other' = some task₂ at hOther'
    by_cases hSame : other = id
    · subst hSame
      rw [Function.update_self] at hOther
      cases hOther
      exact .of_none rfl rfl
    · rw [Function.update_of_ne hSame] at hOther
      by_cases hSame' : other' = id
      · subst hSame'
        rw [Function.update_self] at hOther'
        cases hOther'
        exact (Apart.of_none rfl rfl).symm
      · rw [Function.update_of_ne hSame'] at hOther'
        exact h.apart other other' task₁ task₂ hOther hOther' hDiffer

end DiskSound

end Kmsync.Desktop
