import Kmsync.Desktop.ConfigEdits
import Kmsync.ProofKit.FileSystem
import Kmsync.Core.RoundTrip

/-! The file of a config, which several processes edit at once.  An edit reads the file, writes the
new text to a file of its own, and renames that.  Between any two calls of the system other edits go
on, processes end, and the power may be lost. -/

namespace Kmsync.Desktop

open ProofKit

section Paths

/-- The path of a config: the directory as it is shown, and the name of the file. -/
structure ConfigPath where
  parent : String
  fileName : String

def ConfigPath.display (path : ConfigPath) (name : String) : String := s!"{path.parent}/{name}"

/-- The name of `temp_path_for`, in the process `pid`. -/
def tempPathFor (fileName : String) (pid counter : ℕ) : String :=
  "." ++ fileName ++ ".tmp." ++ toString pid ++ "." ++ toString counter

end Paths

section States

/-- What an edit has come to when it writes: the file that it has read, the text that it has made,
and the name of its own file. -/
structure PlannedWrite where
  source : ℕ
  updated : String
  temp : String

/-- What an edit does next. -/
inductive EditStage where
  /-- `fs::read_to_string` opens the file, then it reads it. -/
  | opening
  | reading (source : ℕ)
  /-- `fs::create_dir_all` -/
  | preparing (source : ℕ) (updated : String)
  | creating (write : PlannedWrite)
  /-- `write_all` with the bytes that are left, and `sync_all` when none are. -/
  | writing (write : PlannedWrite) (file : ℕ) (rest : List UInt8)
  | replacing (write : PlannedWrite) (file : ℕ)
  /-- `fs::remove_file` after an error -/
  | removing (write : PlannedWrite) (error : String)
  | returned (result : Except String Unit)

structure EditTask where
  pid : ℕ
  edit : ConfigEdit
  stage : EditStage

/-- A file that has been renamed to the config, by which edit, and what it was made of. -/
structure Replacement where
  task : ℕ
  file : ℕ
  source : ℕ
  edit : ConfigEdit

/-- The directory, the counters of the processes that run, the edits, and the replacements so far,
with the last one first.  The counters do not wrap here; `TEMP_FILE_COUNTER` does so behind 2 ^ 64
writes of one process. -/
structure ConfigDisk where
  files : FileSystem String UInt8
  counters : ℕ → Option ℕ
  tasks : ℕ → Option EditTask
  replacements : List Replacement

inductive DiskStep where
  | startProcess (pid : ℕ)
  /-- A process edits the config.  The edit gets a number that no edit has, and none had that has
  replaced the config. -/
  | startEdit (task pid : ℕ) (edit : ConfigEdit)
  /-- The system answers the next call of an edit, which in a write takes so many bytes. -/
  | answer (task : ℕ) (result : Except String ℕ)
  /-- A process writes another file than the config. -/
  | writeOther (pid : ℕ)
  | endProcess (pid : ℕ)
  | losePower (pick : String → ℕ) (junk : ℕ → List UInt8)

end States

namespace ConfigDisk

section Steps

variable [ConfigJson] [LayoutJson] (path : ConfigPath)

def setStage (s : ConfigDisk) (id : ℕ) (task : EditTask) (stage : EditStage) : ConfigDisk :=
  { s with tasks := Function.update s.tasks id (some { task with stage }) }

/-- An edit returns an error, and has no file of its own. -/
def fail (s : ConfigDisk) (id : ℕ) (task : EditTask) (error : String) : ConfigDisk :=
  s.setStage id task (.returned (.error error))

/-- `text` is what the config holds, read whole. -/
def editText (s : ConfigDisk) (id : ℕ) (task : EditTask) (source : ℕ) (text : String) :
    ConfigDisk :=
  match task.edit.apply text with
  | .ok updated => s.setStage id task (.preparing source updated)
  | .error error => s.fail id task error

/-- The next call of an edit, which the system answers. -/
def advance (s : ConfigDisk) (id : ℕ) (task : EditTask) (result : Except String ℕ) :
    Option ConfigDisk :=
  match task.stage, result with
  | .opening, .ok _ =>
    (s.files.names path.fileName).map fun source => s.setStage id task (.reading source)
  | .reading source, .ok _ =>
    match fromUtf8 (s.files.contents source) with
    | .ok text => some (s.editText id task source text)
    | .error _ =>
      some (s.fail id task
        s!"failed to read {path.display path.fileName}: stream did not contain valid UTF-8")
  | .opening, .error error | .reading _, .error error =>
    some (s.fail id task s!"failed to read {path.display path.fileName}: {error}")
  | .preparing source updated, .ok _ =>
    (s.counters task.pid).map fun counter =>
      { s.setStage id task
          (.creating ⟨source, updated, tempPathFor path.fileName task.pid counter⟩) with
        counters := Function.update s.counters task.pid (some (counter + 1)) }
  | .preparing _ _, .error error =>
    some (s.fail id task s!"failed to create {path.parent}: {error}")
  | .creating write, .ok _ =>
    (s.files.createNew write.temp).map fun files =>
      { s.setStage id task (.writing write s.files.next (asBytes write.updated)) with files }
  | .creating write, .error error =>
    some (s.setStage id task
      (.removing write s!"failed to create temp config {path.display write.temp}: {error}"))
  | .writing write file (byte :: rest), .ok count =>
    some { s.setStage id task (.writing write file ((byte :: rest).drop count)) with
      files := s.files.write file ((byte :: rest).take count) }
  | .writing write _ (_ :: _), .error error =>
    some (s.setStage id task
      (.removing write s!"failed to write temp config {path.display write.temp}: {error}"))
  | .writing write file [], .ok _ =>
    some { s.setStage id task (.replacing write file) with files := s.files.sync file }
  | .writing write _ [], .error error =>
    some (s.setStage id task
      (.removing write s!"failed to sync temp config {path.display write.temp}: {error}"))
  | .replacing write file, .ok _ =>
    (s.files.rename write.temp path.fileName).map fun files =>
      { s.setStage id task (.returned (.ok ())) with
        files, replacements := ⟨id, file, write.source, task.edit⟩ :: s.replacements }
  | .replacing write _, .error error =>
    some (s.setStage id task
      (.removing write s!"failed to replace {path.display path.fileName}: {error}"))
  | .removing write error, .ok _ =>
    some { s.fail id task error with files := s.files.remove write.temp }
  | .removing _ error, .error _ => some (s.fail id task error)
  | .returned _, _ => none

/-- The edits of a process end with it. -/
def endProcess (s : ConfigDisk) (pid : ℕ) : ConfigDisk :=
  { s with
    counters := Function.update s.counters pid none
    tasks := fun id => (s.tasks id).filter fun task => task.pid ≠ pid }

def step (s : ConfigDisk) : DiskStep → Option ConfigDisk
  | .startProcess pid =>
    match s.counters pid with
    | none => some { s with counters := Function.update s.counters pid (some 0) }
    | some _ => none
  | .startEdit id pid edit =>
    match s.tasks id, s.counters pid with
    | none, some _ =>
      if id ∈ s.replacements.map Replacement.task then none
      else some { s with tasks := Function.update s.tasks id (some ⟨pid, edit, .opening⟩) }
    | _, _ => none
  | .answer id result => (s.tasks id).bind fun task => s.advance path id task result
  | .writeOther pid =>
    (s.counters pid).map fun counter =>
      { s with counters := Function.update s.counters pid (some (counter + 1)) }
  | .endProcess pid => some (s.endProcess pid)
  | .losePower pick junk =>
    some { s with
      files := s.files.losePower pick junk, counters := fun _ => none, tasks := fun _ => none }

end Steps

/-- The config is a file on the disk, and nothing edits it. -/
structure Begins (path : ConfigPath) (text : String) (file : ℕ) (s : ConfigDisk) : Prop where
  names : s.files.names path.fileName = some file
  past : s.files.past path.fileName = []
  contents : s.files.contents file = asBytes text
  synced : s.files.synced file = true
  exists_before : file < s.files.next
  noTasks : ∀ id, s.tasks id = none
  noReplacements : s.replacements = []

end ConfigDisk

end Kmsync.Desktop
