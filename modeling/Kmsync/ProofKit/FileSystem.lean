import Mathlib.Data.Nat.Notation
import Mathlib.Logic.Function.Basic

/-! A directory of files.  The files are numbered, and a name stands for one or none.  The machine
may lose its power; then a file holds what has been synced, or anything, and a name stands for what
it stood for at some time since the last loss. -/

namespace ProofKit

structure FileSystem (ν β : Type) where
  names : ν → Option ℕ
  contents : ℕ → List β
  /-- The bytes of a file are on the disk. -/
  synced : ℕ → Bool
  /-- What a name stood for before, since the last loss of power. -/
  past : ν → List (Option ℕ)
  next : ℕ

namespace FileSystem

section Operations

variable {ν β : Type} [DecidableEq ν] (fs : FileSystem ν β)

def setName (name : ν) (file : Option ℕ) : FileSystem ν β :=
  { fs with
    names := Function.update fs.names name file
    past := Function.update fs.past name (fs.names name :: fs.past name) }

/-- A new file, if the name is free. -/
def createNew (name : ν) : Option (FileSystem ν β) :=
  match fs.names name with
  | some _ => none
  | none =>
    some { fs.setName name (some fs.next) with
      contents := Function.update fs.contents fs.next []
      synced := Function.update fs.synced fs.next false
      next := fs.next + 1 }

def write (file : ℕ) (bytes : List β) : FileSystem ν β :=
  { fs with
    contents := Function.update fs.contents file (fs.contents file ++ bytes)
    synced := Function.update fs.synced file false }

def sync (file : ℕ) : FileSystem ν β :=
  { fs with synced := Function.update fs.synced file true }

/-- The file gets another name, which stood for another file before. -/
def rename (source target : ν) : Option (FileSystem ν β) :=
  match fs.names source with
  | some file => some ((fs.setName target (some file)).setName source none)
  | none => none

def remove (name : ν) : FileSystem ν β := fs.setName name none

/-- `pick` tells how far back a name goes, and `junk` what a file holds that has not been synced. -/
def losePower (pick : ν → ℕ) (junk : ℕ → List β) : FileSystem ν β where
  names name := (fs.past name)[pick name]?.getD (fs.names name)
  contents file := if fs.synced file then fs.contents file else junk file
  synced _ := true
  past _ := []
  next := fs.next

/-- What the name stands for, and may stand for when the power is lost. -/
def stands (name : ν) : List (Option ℕ) := fs.names name :: fs.past name

end Operations

section Lemmas

variable {ν β : Type} {fs fs' : FileSystem ν β} {name other source target : ν}

/-- A power loss leaves a name with what it may stand for. -/
theorem mem_stands_losePower {pick : ν → ℕ} {junk : ℕ → List β} {file : Option ℕ}
    (h : file ∈ (fs.losePower pick junk).stands name) : file ∈ fs.stands name := by
  obtain rfl := List.mem_singleton.mp h
  show (fs.past name)[pick name]?.getD (fs.names name) ∈ fs.stands name
  cases hPick : (fs.past name)[pick name]? with
  | none => exact List.mem_cons_self
  | some file => exact List.mem_cons_of_mem _ (List.mem_of_getElem? hPick)

theorem contents_losePower {file : ℕ} (h : fs.synced file = true) (pick : ν → ℕ)
    (junk : ℕ → List β) : (fs.losePower pick junk).contents file = fs.contents file :=
  if_pos h

variable [DecidableEq ν]

theorem stands_setName_self (fs : FileSystem ν β) (name : ν) (file : Option ℕ) :
    (fs.setName name file).stands name = file :: fs.stands name := by
  simp [stands, setName]

theorem stands_setName_ne (fs : FileSystem ν β) (h : other ≠ name) (file : Option ℕ) :
    (fs.setName name file).stands other = fs.stands other := by
  simp [stands, setName, Function.update_of_ne h]

theorem names_setName_ne (fs : FileSystem ν β) (h : other ≠ name) (file : Option ℕ) :
    (fs.setName name file).names other = fs.names other :=
  Function.update_of_ne h _ _

theorem createNew_eq_some (h : fs.createNew name = some fs') :
    fs.names name = none ∧ fs' = { fs.setName name (some fs.next) with
      contents := Function.update fs.contents fs.next []
      synced := Function.update fs.synced fs.next false
      next := fs.next + 1 } := by
  rw [createNew] at h
  split at h
  next => cases h
  next hFree =>
    cases h
    exact ⟨hFree, rfl⟩

theorem rename_eq_some (h : fs.rename source target = some fs') :
    ∃ file, fs.names source = some file ∧
      fs' = (fs.setName target (some file)).setName source none := by
  rw [rename] at h
  split at h
  next file hSource =>
    cases h
    exact ⟨file, hSource, rfl⟩
  next => cases h

end Lemmas

end FileSystem

end ProofKit
