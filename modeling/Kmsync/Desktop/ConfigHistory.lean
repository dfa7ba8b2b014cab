import Kmsync.Desktop.ConfigSteps
import Kmsync.Desktop.EndpointSurvival
import Kmsync.ProofKit.Transition

/-! What the config holds, whatever processes edit it, end, or lose their power.  Its text is always
whole, and it is what comes of some of the edits that have replaced it: those that the file was made
of, one after the other. -/

namespace Kmsync.Desktop

open ProofKit

section Runs

variable [ConfigJson] [LayoutJson] {path : ConfigPath} {first : ℕ} {text : String}
  {s s' t : ConfigDisk} {steps : List DiskStep}

/-- What the config holds, and what is known of the edits. -/
structure HoldsEdits (path : ConfigPath) (text : String) (t : ConfigDisk) : Prop where
  config : ∃ file text', t.files.names path.fileName = some file ∧
    t.files.contents file = asBytes text' ∧
    ConfigEdit.applyAll text (lineage t.replacements file) = .ok text' ∧
    (lineage t.replacements file).Sublist (completed t.replacements)
  reading : ∀ id task source, t.tasks id = some task → task.stage = .reading source →
    ∃ text', t.files.contents source = asBytes text' ∧
      ConfigEdit.applyAll text (lineage t.replacements source) = .ok text'
  returned : ∀ id task, t.tasks id = some task → (task.stage = .returned (.ok ()) ↔
    ∃ replacement ∈ t.replacements, replacement.task = id ∧ replacement.edit = task.edit)

theorem diskSound_of_run (hBegins : s.Begins path text first)
    (hRun : run (ConfigDisk.step path) s steps = some t) : DiskSound path first text t :=
  run_induction (fun _ _ _ h hStep => h.step hStep) (DiskSound.begins hBegins) hRun

/-- Whatever edits run at once, fail, or end with their process or with the power, the config is a
whole text.  It is the first one with some of the edits that have replaced it, one after the other,
in the order of the replacements: those that the file was made of.  Edits also read only such texts,
and they return without an error when they have replaced the config themselves, and only then. -/
theorem config_holds_edits (hBegins : s.Begins path text first)
    (hRun : run (ConfigDisk.step path) s steps = some t) : HoldsEdits path text t := by
  have h := diskSound_of_run hBegins hRun
  refine ⟨?_, fun id task source hTask hStage => ?_, fun id task hTask => ?_⟩
  · obtain ⟨file, hNames, hKnown⟩ := h.stands _ List.mem_cons_self
    obtain ⟨text', hText, hAll⟩ := (h.known file hKnown).text
    exact ⟨file, text', hNames, hText, hAll, lineage_sublist _ _⟩
  · exact (h.known source ((h.tasks id task hTask).source source (by rw [hStage]; rfl))).text
  · refine ⟨(h.tasks id task hTask).returned, fun ⟨replacement, hMem, hOwn, _⟩ => ?_⟩
    by_contra hStage
    exact (h.tasks id task hTask).unreturned hStage replacement hMem hOwn

/-- A text in the config is what it was at first, if no edit that has replaced the config names its
member. -/
theorem config_keeps_texts [LawfulConfigJson] {key value : String}
    (hBegins : s.Begins path text first) (hRun : run (ConfigDisk.step path) s steps = some t)
    (hKey : ∀ edit ∈ completed t.replacements, key ∉ edit.members)
    (hText : storedText text key = some value) :
    ∃ file text', t.files.names path.fileName = some file ∧
      t.files.contents file = asBytes text' ∧ storedText text' key = some value := by
  have h := diskSound_of_run hBegins hRun
  obtain ⟨file, hNames, hKnown⟩ := h.stands _ List.mem_cons_self
  obtain ⟨text', hContents, hAll⟩ := (h.known file hKnown).text
  have hMembers : ∀ edit ∈ lineage t.replacements file, key ∉ edit.members :=
    fun edit hMem => hKey edit ((lineage_sublist _ _).mem hMem)
  exact ⟨file, text', hNames, hContents, ConfigEdit.storedText_applyAll hAll hMembers hText⟩

/-- The power stays on. -/
def DiskStep.keepsPower : DiskStep → Prop
  | losePower _ _ => False
  | startProcess _ | startEdit _ _ _ | answer _ _ | writeOther _ | endProcess _ => True

/-- If an edit replaces the config in a step, then it replaces the file that it has read. -/
def ConfigDisk.ReplacesSource (path : ConfigPath) (s : ConfigDisk) : DiskStep → Prop
  | .answer id result =>
    ((s.tasks id).bind fun task => task.stage.replaces result).all fun replaced =>
      s.files.names path.fileName = some replaced.1.source
  | .startProcess _ | .startEdit _ _ _ | .writeOther _ | .endProcess _ | .losePower _ _ => True

instance : (event : DiskStep) → Decidable event.keepsPower
  | .losePower _ _ => isFalse id
  | .startProcess _ | .startEdit _ _ _ | .answer _ _ | .writeOther _ | .endProcess _ =>
    isTrue trivial

instance : (event : DiskStep) → Decidable (s.ReplacesSource path event)
  | .answer _ _ => inferInstanceAs (Decidable (_ = true))
  | .startProcess _ | .startEdit _ _ _ | .writeOther _ | .endProcess _ | .losePower _ _ =>
    isTrue trivial

/-- An answer by which the config is replaced, and any other. -/
theorem TaskSound.advance_cases {id : ℕ} {task : EditTask} {result : Except String ℕ}
    (h : TaskSound path first s id task) (hAdvance : s.advance path id task result = some s') :
    (∃ write file, task.stage.replaces result = some (write, file) ∧
      s'.files.names path.fileName = some file ∧
      s'.replacements = ⟨id, file, write.source, task.edit⟩ :: s.replacements) ∨
    (task.stage.replaces result = none ∧
      s'.files.names path.fileName = s.files.names path.fileName ∧
      s'.replacements = s.replacements) := by
  unfold ConfigDisk.advance at hAdvance
  split at hAdvance
  next hStage =>
    obtain ⟨source, -, rfl⟩ := Option.map_eq_some_iff.mp hAdvance
    exact Or.inr ⟨by rw [hStage]; rfl, rfl, rfl⟩
  next source _ hStage =>
    split at hAdvance
    next read =>
      cases hAdvance
      rw [ConfigDisk.editText]
      split <;> exact Or.inr ⟨by rw [hStage]; rfl, rfl, rfl⟩
    next =>
      cases hAdvance
      exact Or.inr ⟨by rw [hStage]; rfl, rfl, rfl⟩
  next hStage =>
    cases hAdvance
    exact Or.inr ⟨by rw [hStage]; rfl, rfl, rfl⟩
  next hStage =>
    cases hAdvance
    exact Or.inr ⟨by rw [hStage]; rfl, rfl, rfl⟩
  next hStage =>
    obtain ⟨counter, -, rfl⟩ := Option.map_eq_some_iff.mp hAdvance
    exact Or.inr ⟨by rw [hStage]; rfl, rfl, rfl⟩
  next hStage =>
    cases hAdvance
    exact Or.inr ⟨by rw [hStage]; rfl, rfl, rfl⟩
  next write _ hStage =>
    obtain ⟨files, hCreate, rfl⟩ := Option.map_eq_some_iff.mp hAdvance
    obtain ⟨-, rfl⟩ := FileSystem.createNew_eq_some hCreate
    have hNe : write.temp ≠ path.fileName := h.temp_ne (by rw [hStage]; rfl)
    exact Or.inr ⟨by rw [hStage]; rfl, FileSystem.names_setName_ne _ hNe.symm _, rfl⟩
  next hStage =>
    cases hAdvance
    exact Or.inr ⟨by rw [hStage]; rfl, rfl, rfl⟩
  next hStage =>
    cases hAdvance
    exact Or.inr ⟨by rw [hStage]; rfl, rfl, rfl⟩
  next hStage =>
    cases hAdvance
    exact Or.inr ⟨by rw [hStage]; rfl, rfl, rfl⟩
  next hStage =>
    cases hAdvance
    exact Or.inr ⟨by rw [hStage]; rfl, rfl, rfl⟩
  next hStage =>
    cases hAdvance
    exact Or.inr ⟨by rw [hStage]; rfl, rfl, rfl⟩
  next write file _ hStage =>
    obtain ⟨files, hRename, rfl⟩ := Option.map_eq_some_iff.mp hAdvance
    obtain ⟨file', hTemp, rfl⟩ := FileSystem.rename_eq_some hRename
    have hNe : write.temp ≠ path.fileName := h.temp_ne (by rw [hStage]; rfl)
    obtain rfl : file = file' := Option.some.inj
      ((h.named file write.temp (by rw [hStage]; rfl) (by rw [hStage]; rfl)).symm.trans hTemp)
    refine Or.inl ⟨write, file, by rw [hStage]; rfl, ?_, rfl⟩
    rw [FileSystem.names_setName_ne _ hNe.symm]
    exact Function.update_self _ _ _
  next hStage =>
    cases hAdvance
    exact Or.inr ⟨by rw [hStage]; rfl, rfl, rfl⟩
  next write error _ hStage =>
    cases hAdvance
    have hNe : write.temp ≠ path.fileName := h.temp_ne (by rw [hStage]; rfl)
    exact Or.inr ⟨by rw [hStage]; rfl, FileSystem.names_setName_ne _ hNe.symm _, rfl⟩
  next hStage =>
    cases hAdvance
    exact Or.inr ⟨by rw [hStage]; rfl, rfl, rfl⟩
  next => cases hAdvance

/-- In a run without a loss of power, the config is the newest file. -/
structure KeepsNewest (path : ConfigPath) (first : ℕ) (text : String) (s : ConfigDisk) : Prop where
  sound : DiskSound path first text s
  names : s.files.names path.fileName = some (newest first s.replacements)

theorem KeepsNewest.step (h : KeepsNewest path first text s) {event : DiskStep}
    (hStep : s.step path event = some s') (hPower : event.keepsPower) :
    KeepsNewest path first text s' ∧ (Chained first s'.replacements ↔
      s.ReplacesSource path event ∧ Chained first s.replacements) := by
  have hSound := h.sound.step hStep
  have hSame (hNames : s'.files.names path.fileName = s.files.names path.fileName)
      (hReplacements : s'.replacements = s.replacements) : KeepsNewest path first text s' :=
    ⟨hSound, by rw [hNames, hReplacements, h.names]⟩
  cases event with
  | answer id result =>
    obtain ⟨task, hTask, hAdvance⟩ := Option.bind_eq_some_iff.mp hStep
    rw [ConfigDisk.ReplacesSource, hTask, Option.bind_some]
    rcases (h.sound.tasks id task hTask).advance_cases hAdvance with
      ⟨write, file, hReplaces, hNames, hReplacements⟩ | ⟨hReplaces, hNames, hReplacements⟩
    · refine ⟨⟨hSound, by rw [hNames, hReplacements, newest]⟩, ?_⟩
      rw [hReplacements, hReplaces, Chained, h.names, Option.all_some, decide_eq_true_iff,
        Option.some_inj]
      exact and_congr_left fun _ => eq_comm
    · refine ⟨hSame hNames hReplacements, ?_⟩
      rw [hReplacements, hReplaces]
      exact (and_iff_right rfl).symm
  | losePower pick junk => exact absurd hPower id
  | startProcess pid =>
    rw [ConfigDisk.step] at hStep
    split at hStep
    next =>
      cases hStep
      exact ⟨hSame rfl rfl, (and_iff_right trivial).symm⟩
    next => cases hStep
  | startEdit id pid edit =>
    rw [ConfigDisk.step] at hStep
    split at hStep
    next =>
      split at hStep
      next => cases hStep
      next =>
        cases hStep
        exact ⟨hSame rfl rfl, (and_iff_right trivial).symm⟩
    next => cases hStep
  | writeOther pid =>
    obtain ⟨counter, -, rfl⟩ := Option.map_eq_some_iff.mp hStep
    exact ⟨hSame rfl rfl, (and_iff_right trivial).symm⟩
  | endProcess pid =>
    cases hStep
    exact ⟨hSame rfl rfl, (and_iff_right trivial).symm⟩

end Runs

section Homes

instance : LayoutJson where
  toValue layout :=
    let members := [("left", layout.left), ("right", layout.right), ("top", layout.top),
      ("bottom", layout.bottom)].filterMap fun member =>
        member.2.map fun id => String.ofList (quote ("\"" ++ member.1 ++ "\":\"") id [])
    .ok (.other ("\x7b" ++ ",".intercalate members ++ "\x7d"))

def homePath : ConfigPath := ⟨"/home/desk", "client.json"⟩

/-- A directory with the config of a server on the machine itself. -/
def homeDisk : ConfigDisk where
  files := {
    names := fun name => if name = "client.json" then some 0 else none
    contents := fun _ => asBytes homeConfig
    synced := fun _ => true
    past := fun _ => []
    next := 1 }
  counters _ := none
  tasks _ := none
  replacements := []

theorem homeDisk_begins : homeDisk.Begins homePath homeConfig 0 :=
  ⟨rfl, rfl, rfl, rfl, Nat.zero_lt_one, fun _ => rfl, rfl⟩

/-- The calls of an edit, none of which fails, from some stage on. -/
def calls (id count : ℕ) : List DiskStep := .replicate count (.answer id (.ok 4096))

/-- The service sets the role while the window sets the address. -/
def twoEdits : List DiskStep :=
  [.startProcess 1, .startProcess 2, .startEdit 0 1 (.setRole .client (some "m")),
    .startEdit 1 2 (.setServerEndpoint "example.org" 443)]

/-- The edit of the window is lost, and then the power. -/
theorem config_holds_edits_lost :
    ∃ t, run (ConfigDisk.step homePath) homeDisk
        (twoEdits ++ calls 1 2 ++ calls 0 2 ++ calls 1 5 ++ calls 0 5 ++
          [.losePower (fun _ => 0) fun _ => [0]]) = some t ∧
      (completed t.replacements).length = 2 ∧ HoldsEdits homePath homeConfig t := by
  have hRuns : (run (ConfigDisk.step homePath) homeDisk
      (twoEdits ++ calls 1 2 ++ calls 0 2 ++ calls 1 5 ++ calls 0 5 ++
        [.losePower (fun _ => 0) fun _ => [0]])).any (fun t =>
          (completed t.replacements).length == 2) = true := by
    decide +kernel
  obtain ⟨t, hRun, hLength⟩ := (Option.any_eq_true _ _).mp hRuns
  exact ⟨t, hRun, eq_of_beq hLength, config_holds_edits homeDisk_begins hRun⟩

/-- The service sets the role, and its process ends before the next edit would write. -/
theorem config_keeps_texts_role :
    ∃ t file text', run (ConfigDisk.step homePath) homeDisk
        (twoEdits ++ calls 0 7 ++ calls 1 4 ++ [.endProcess 2]) = some t ∧
      t.files.names homePath.fileName = some file ∧ t.files.contents file = asBytes text' ∧
      storedText text' "server_url" = some "http://127.0.0.1:24888" := by
  have hRuns : (run (ConfigDisk.step homePath) homeDisk
      (twoEdits ++ calls 0 7 ++ calls 1 4 ++ [.endProcess 2])).any (fun t =>
        decide (completed t.replacements = [.setRole .client (some "m")])) = true := by
    decide +kernel
  obtain ⟨t, hRun, hCompleted⟩ := (Option.any_eq_true _ _).mp hRuns
  have hText : storedText homeConfig "server_url" = some "http://127.0.0.1:24888" := by
    decide +kernel
  have hKey : ∀ edit ∈ completed t.replacements, "server_url" ∉ edit.members := by
    rw [of_decide_eq_true hCompleted]
    decide
  obtain ⟨file, text', hKept⟩ := config_keeps_texts homeDisk_begins hRun hKey hText
  exact ⟨t, file, text', hRun, hKept⟩

end Homes

end Kmsync.Desktop
