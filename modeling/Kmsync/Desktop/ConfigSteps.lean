import Kmsync.Desktop.ConfigWrites
import Kmsync.ProofKit.Transition

/-! The steps of the processes that edit a config, each of which keeps what holds of the directory.
-/

namespace Kmsync.Desktop

open ProofKit

variable [ConfigJson] [LayoutJson] {path : ConfigPath} {first id : ℕ} {text : String}
  {s s' : ConfigDisk}

/-- An edit that has returned makes no more calls. -/
theorem ConfigDisk.running_of_advance {task : EditTask} {result : Except String ℕ}
    (hAdvance : s.advance path id task result = some s') : task.stage ≠ .returned (.ok ()) := by
  intro hStage
  unfold ConfigDisk.advance at hAdvance
  rw [hStage] at hAdvance
  cases hAdvance

namespace DiskSound

theorem advance (h : DiskSound path first text s) {task : EditTask}
    {result : Except String ℕ} (hTask : s.tasks id = some task)
    (hAdvance : s.advance path id task result = some s') : DiskSound path first text s' := by
  have hRunning := ConfigDisk.running_of_advance hAdvance
  unfold ConfigDisk.advance at hAdvance
  split at hAdvance
  next hStage =>
    obtain ⟨source, hNames, rfl⟩ := Option.map_eq_some_iff.mp hAdvance
    exact h.setReading hTask hStage hNames
  next source _ hStage =>
    split at hAdvance
    next read hRead =>
      cases hAdvance
      exact h.editText hTask hStage (asBytes_of_fromUtf8 hRead).symm
    next =>
      cases hAdvance
      exact h.fail hTask hRunning _
  next =>
    cases hAdvance
    exact h.fail hTask hRunning _
  next =>
    cases hAdvance
    exact h.fail hTask hRunning _
  next source updated _ hStage =>
    obtain ⟨counter, hCounter, rfl⟩ := Option.map_eq_some_iff.mp hAdvance
    exact h.setCreating hTask hStage hCounter
  next =>
    cases hAdvance
    exact h.fail hTask hRunning _
  next write _ hStage =>
    obtain ⟨files, hCreate, rfl⟩ := Option.map_eq_some_iff.mp hAdvance
    exact h.create hTask hStage hCreate
  next write error hStage =>
    cases hAdvance
    exact h.setRemoving hTask (by rw [hStage]; rfl) _
  next write file byte rest count hStage =>
    cases hAdvance
    refine h.withFile hTask (by rw [hStage]; exact ⟨rfl, rfl, rfl, rfl⟩) ⟨rfl, rfl, rfl, rfl⟩ rfl rfl
      rfl (fun _ hNe => Function.update_of_ne hNe _ _) (fun _ hNe => Function.update_of_ne hNe _ _)
      ?_ fun _ _ hReplacing => ?_
    · show Function.update s.files.contents file _ file ++ (byte :: rest).drop count = _
      rw [Function.update_self, hStage, List.append_assoc, List.take_append_drop]
      rfl
    · cases hReplacing
  next write file byte rest error hStage =>
    cases hAdvance
    exact h.setRemoving hTask (by rw [hStage]; rfl) _
  next write file _ hStage =>
    cases hAdvance
    refine h.withFile hTask (by rw [hStage]; exact ⟨rfl, rfl, rfl, rfl⟩) ⟨rfl, rfl, rfl, rfl⟩ rfl rfl
      rfl (fun _ _ => rfl) (fun _ hNe => Function.update_of_ne hNe _ _) (by rw [hStage]; rfl)
      fun _ _ _ => Function.update_self _ _ _
  next write file error hStage =>
    cases hAdvance
    exact h.setRemoving hTask (by rw [hStage]; rfl) _
  next write file _ hStage =>
    obtain ⟨files, hRename, rfl⟩ := Option.map_eq_some_iff.mp hAdvance
    exact h.replace hTask hStage hRename
  next write file error hStage =>
    cases hAdvance
    exact h.setRemoving hTask (by rw [hStage]; rfl) _
  next write error _ hStage =>
    cases hAdvance
    exact h.remove hTask (by rw [hStage]; rfl) error
  next write error _ hStage =>
    cases hAdvance
    exact h.fail hTask hRunning error
  next => cases hAdvance

theorem setCounter (h : DiskSound path first text s) {pid limit : ℕ}
    (hOld : ∀ old, s.counters pid = some old → old ≤ limit) : DiskSound path first text
      { s with counters := Function.update s.counters pid (some limit) } where
  grounded := h.grounded
  known file hKnown := (h.known file hKnown).of_same rfl rfl
  stands := h.stands
  tasks id task hTask :=
    (h.tasks id task hTask).kept (.of_same rfl rfl (counters_update hOld task.pid))
  apart := h.apart

theorem startEdit (h : DiskSound path first text s) {pid counter : ℕ} {edit : ConfigEdit}
    (hCounter : s.counters pid = some counter)
    (hNew : id ∉ s.replacements.map Replacement.task) : DiskSound path first text
      { s with tasks := Function.update s.tasks id (some ⟨pid, edit, .opening⟩) } where
  grounded := h.grounded
  known file hKnown := (h.known file hKnown).of_same rfl rfl
  stands := h.stands
  tasks other task hOther := by
    change Function.update s.tasks id _ other = some task at hOther
    by_cases hSame : other = id
    · subst hSame
      rw [Function.update_self] at hOther
      cases hOther
      exact .of_bare ⟨counter, hCounter⟩ rfl rfl rfl EditStage.noConfusion fun _ hMem hOwn =>
        hNew (List.mem_map.mpr ⟨_, hMem, hOwn⟩)
    · rw [Function.update_of_ne hSame] at hOther
      exact (h.tasks other task hOther).kept
        (.of_same rfl rfl fun limit hLimit => ⟨limit, hLimit, le_rfl⟩)
  apart other other' task₁ task₂ hOther hOther' hDiffer := by
    change Function.update s.tasks id _ other = some task₁ at hOther
    change Function.update s.tasks id _ other' = some task₂ at hOther'
    by_cases hSame : other = id
    · subst hSame
      rw [Function.update_self] at hOther
      cases hOther
      exact .of_none rfl rfl
    · rw [Function.update_of_ne hSame] at hOther
      by_cases hSame' : other' = id
      · subst hSame'
        rw [Function.update_self] at hOther'
        cases hOther'
        exact (Apart.of_none rfl rfl).symm
      · rw [Function.update_of_ne hSame'] at hOther'
        exact h.apart other other' task₁ task₂ hOther hOther' hDiffer

theorem endProcess (h : DiskSound path first text s) (pid : ℕ) :
    DiskSound path first text (s.endProcess pid) where
  grounded := h.grounded
  known file hKnown := (h.known file hKnown).of_same rfl rfl
  stands := h.stands
  tasks id task hTask := by
    obtain ⟨hTask, hPid⟩ := Option.filter_eq_some_iff.mp hTask
    have hNe : task.pid ≠ pid := of_decide_eq_true hPid
    exact (h.tasks id task hTask).kept (.of_same rfl rfl fun limit hLimit =>
      ⟨limit, (Function.update_of_ne hNe _ _).trans hLimit, le_rfl⟩)
  apart id other task task' hTask hOther :=
    h.apart id other task task' (Option.filter_eq_some_iff.mp hTask).1
      (Option.filter_eq_some_iff.mp hOther).1

/-- What was renamed had been synced before. -/
theorem losePower (h : DiskSound path first text s) (pick : String → ℕ) (junk : ℕ → List UInt8) :
    DiskSound path first text
      { s with
        files := s.files.losePower pick junk, counters := fun _ => none, tasks := fun _ => none } where
  grounded := h.grounded
  known file hKnown := by
    have hOld := h.known file hKnown
    refine ⟨hOld.exists_before, rfl, ?_⟩
    show ∃ text', (s.files.losePower pick junk).contents file = _ ∧ _
    rw [FileSystem.contents_losePower hOld.synced]
    exact hOld.text
  stands file hFile := h.stands file (FileSystem.mem_stands_losePower hFile)
  tasks _ _ hTask := by cases hTask
  apart _ _ _ _ hTask := by cases hTask

theorem step (h : DiskSound path first text s) {event : DiskStep}
    (hStep : s.step path event = some s') : DiskSound path first text s' := by
  cases event with
  | startProcess pid =>
    rw [ConfigDisk.step] at hStep
    split at hStep
    next hNone =>
      cases hStep
      refine h.setCounter fun old hOld => ?_
      rw [hNone] at hOld
      cases hOld
    next => cases hStep
  | startEdit id pid edit =>
    rw [ConfigDisk.step] at hStep
    split at hStep
    next hNone hCounter =>
      split at hStep
      next => cases hStep
      next hNew =>
        cases hStep
        exact h.startEdit hCounter hNew
    next => cases hStep
  | answer id result =>
    obtain ⟨task, hTask, hAdvance⟩ := Option.bind_eq_some_iff.mp hStep
    exact h.advance hTask hAdvance
  | writeOther pid =>
    obtain ⟨counter, hCounter, rfl⟩ := Option.map_eq_some_iff.mp hStep
    exact h.setCounter fun old hOld =>
      (Option.some.inj (hCounter.symm.trans hOld)).ge.trans (Nat.le_succ counter)
  | endProcess pid =>
    cases hStep
    exact h.endProcess pid
  | losePower pick junk =>
    cases hStep
    exact h.losePower pick junk

theorem begins {file : ℕ} (h : s.Begins path text file) : DiskSound path file text s where
  grounded := by rw [h.noReplacements]; trivial
  known other hKnown := by
    rw [h.noReplacements] at hKnown
    rcases hKnown with rfl | ⟨replacement, hMem, -⟩
    · refine ⟨h.exists_before, h.synced, text, h.contents, ?_⟩
      rw [h.noReplacements]
      rfl
    · cases hMem
  stands other hOther := by
    rw [FileSystem.stands, h.names, h.past] at hOther
    exact ⟨file, List.mem_singleton.mp hOther, Or.inl rfl⟩
  tasks id task hTask := by
    rw [h.noTasks] at hTask
    cases hTask
  apart id other task task' hTask := by
    rw [h.noTasks] at hTask
    cases hTask

end DiskSound

section Counters

variable {n : ℕ} {t : ConfigDisk} {steps : List DiskStep}

/-- No process has made more names than that. -/
def ConfigDisk.CountsTo (s : ConfigDisk) (n : ℕ) : Prop :=
  ∀ pid counter, s.counters pid = some counter → counter ≤ n

omit [ConfigJson] [LayoutJson] in
theorem ConfigDisk.CountsTo.of_same (h : s.CountsTo n) (hCounters : s'.counters = s.counters) :
    s'.CountsTo (n + 1) := fun pid counter hCounter =>
  (h pid counter (hCounters ▸ hCounter)).trans (Nat.le_succ n)

omit [ConfigJson] [LayoutJson] in
theorem ConfigDisk.CountsTo.update {pid counter : ℕ} (h : s.CountsTo n) (hNew : counter ≤ n + 1)
    (hCounters : s'.counters = Function.update s.counters pid (some counter)) :
    s'.CountsTo (n + 1) := by
  intro pid' counter' hCounter
  rw [hCounters] at hCounter
  by_cases hPid : pid' = pid
  · subst hPid
    rw [Function.update_self] at hCounter
    exact Option.some.inj hCounter ▸ hNew
  · rw [Function.update_of_ne hPid] at hCounter
    exact (h pid' counter' hCounter).trans (Nat.le_succ n)

/-- A call takes no number of its process, or the next. -/
theorem ConfigDisk.counters_advance {task : EditTask} {result : Except String ℕ}
    (hAdvance : s.advance path id task result = some s') :
    s'.counters = s.counters ∨ ∃ counter, s.counters task.pid = some counter ∧
      s'.counters = Function.update s.counters task.pid (some (counter + 1)) := by
  unfold ConfigDisk.advance at hAdvance
  split at hAdvance
  case h_2 =>
    left
    split at hAdvance
    · cases hAdvance
      rw [ConfigDisk.editText]
      split <;> rfl
    · cases hAdvance
      rfl
  case h_5 =>
    obtain ⟨counter, hCounter, rfl⟩ := Option.map_eq_some_iff.mp hAdvance
    exact Or.inr ⟨counter, hCounter, rfl⟩
  case h_17 => cases hAdvance
  all_goals
    left
    first
    | cases hAdvance
      rfl
    | obtain ⟨_, -, rfl⟩ := Option.map_eq_some_iff.mp hAdvance
      rfl

theorem ConfigDisk.CountsTo.step (h : s.CountsTo n) {event : DiskStep}
    (hStep : s.step path event = some s') : s'.CountsTo (n + 1) := by
  cases event with
  | startProcess pid =>
    rw [ConfigDisk.step] at hStep
    split at hStep
    next =>
      cases hStep
      exact h.update (Nat.zero_le _) rfl
    next => cases hStep
  | startEdit id pid edit =>
    rw [ConfigDisk.step] at hStep
    split at hStep
    next =>
      split at hStep
      next => cases hStep
      next =>
        cases hStep
        exact h.of_same rfl
    next => cases hStep
  | answer id result =>
    obtain ⟨task, -, hAdvance⟩ := Option.bind_eq_some_iff.mp hStep
    rcases ConfigDisk.counters_advance hAdvance with hSame | ⟨counter, hCounter, hNext⟩
    · exact h.of_same hSame
    · exact h.update (Nat.succ_le_succ (h task.pid counter hCounter)) hNext
  | writeOther pid =>
    obtain ⟨counter, hCounter, rfl⟩ := Option.map_eq_some_iff.mp hStep
    exact h.update (Nat.succ_le_succ (h pid counter hCounter)) rfl
  | endProcess pid =>
    cases hStep
    intro pid' counter hCounter
    change Function.update s.counters pid none pid' = some counter at hCounter
    by_cases hPid : pid' = pid
    · rw [hPid, Function.update_self] at hCounter
      cases hCounter
    · rw [Function.update_of_ne hPid] at hCounter
      exact (h pid' counter hCounter).trans (Nat.le_succ n)
  | losePower pick junk =>
    cases hStep
    intro _ _ hCounter
    cases hCounter

/-- In a run of fewer than 2 ^ 64 steps no counter would have wrapped. -/
theorem ConfigDisk.countsTo_of_run (h : s.CountsTo n)
    (hRun : run (ConfigDisk.step path) s steps = some t) : t.CountsTo (n + steps.length) := by
  induction steps generalizing s n with
  | nil =>
    cases hRun
    exact h
  | cons event steps ih =>
    obtain ⟨s', hStep, hRest⟩ := run_cons_eq_some.mp hRun
    rw [List.length_cons, Nat.add_comm steps.length, ← Nat.add_assoc]
    exact ih (h.step hStep) hRest

end Counters

end Kmsync.Desktop
