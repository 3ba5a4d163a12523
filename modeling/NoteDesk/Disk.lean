import NoteDesk.Directory

/-!
# Writing to a disk

A file is written in three steps: a missing directory is made, the file is opened, which makes or
empties it, and the content is brought to it. Each of them can fail, and what the steps before it
did stays done.

* `Disk` says which writes fail, at which step and for which cause. Where no disk is given, no write
  fails (`Disk.sound`).
* `Directory.write` is what a write comes to, and `Directory.spoiled` what it leaves when it fails.
* `Directory.find?_write`, `Directory.find?_spoiled` and `Directory.find?_spoiled_of_cutShort`
  describe them by what stands under a name.
-/

namespace NoteDesk

/-- The step at which a write fails. -/
inductive Disk.Stage where
  /-- The directory is missing and cannot be made. -/
  | unmade
  /-- The file can neither be opened nor made. -/
  | unopened
  /-- Only the first bytes of the content are brought to the file, so many of them. -/
  | cut (count : Nat)
  deriving DecidableEq, Repr

/-- How a write fails. -/
structure Disk.Fault where
  stage : Disk.Stage
  cause : IoError
  deriving DecidableEq, Repr

/-- A disk: how it fails to write a content to a file of a directory, if it does. -/
class Disk where
  fault : Directory Bytes → String → Bytes → Option Disk.Fault

/-- The disk on which no write fails. -/
instance Disk.sound : Disk where
  fault _ _ _ := none

namespace Directory

/-- The directory, made if it is missing. -/
def made {α : Type} : Directory α → Directory α
  | missing => holding []
  | d => d

theorem find?_made {α : Type} (d : Directory α) (name : String) :
    d.made.find? name = d.find? name := by
  cases d <;> rfl

section

variable [Disk]

/-- Writes a file. -/
def write (d : Directory Bytes) (name : String) (content : Bytes) :
    Except IoError (Directory Bytes) :=
  match Disk.fault d name content with
  | some fault => .error fault.cause
  | none => d.putFile name content

/-- What the writing of a file leaves if it fails. -/
def spoiled (d : Directory Bytes) (name : String) (content : Bytes) : Directory Bytes :=
  match Disk.fault d name content with
  | some ⟨.unopened, _⟩ => d.made
  | some ⟨.cut count, _⟩ => (d.putFile name (content.take count)).toOption.getD d
  | _ => d

/-- The writing of a file is cut short: the file is opened, and only so many bytes of the content
are brought to it. -/
def CutShort (d : Directory Bytes) (name : String) (content : Bytes) (count : Nat) : Prop :=
  ∃ cause d', Disk.fault d name content = some ⟨.cut count, cause⟩ ∧
    d.putFile name (content.take count) = .ok d'

variable {d d' : Directory Bytes} {name : String} {content : Bytes}

theorem putFile_of_write (h : d.write name content = .ok d') : d.putFile name content = .ok d' := by
  rw [write] at h
  split at h
  · cases h
  · exact h

theorem find?_write (h : d.write name content = .ok d') (other : String) :
    d'.find? other = if other = name then some (.file content) else d.find? other :=
  find?_putFile (putFile_of_write h) other

/-- **A write that fails leaves everything as it was**, unless it is cut short. -/
theorem find?_spoiled (whole : ∀ count, ¬d.CutShort name content count) (other : String) :
    (d.spoiled name content).find? other = d.find? other := by
  rw [spoiled]
  split
  · exact find?_made d other
  next count cause fault =>
    cases put : d.putFile name (content.take count) with
    | error flaw => rfl
    | ok d' => exact absurd ⟨cause, d', fault, put⟩ (whole count)
  · rfl

/-- A write that is cut short leaves the beginning of the content in the place of the file. -/
theorem find?_spoiled_of_cutShort {count : Nat} (cut : d.CutShort name content count)
    (other : String) : (d.spoiled name content).find? other =
      if other = name then some (.file (content.take count)) else d.find? other := by
  obtain ⟨cause, d', fault, put⟩ := cut
  rw [spoiled, fault]
  dsimp only
  rw [put]
  exact find?_putFile put other

theorem find?_spoiled_ne {other : String} (apart : other ≠ name) :
    (d.spoiled name content).find? other = d.find? other := by
  by_cases whole : ∀ count, ¬d.CutShort name content count
  · exact find?_spoiled whole other
  · obtain ⟨count, cut⟩ := Classical.not_forall_not.1 whole
    rw [find?_spoiled_of_cutShort cut, if_neg apart]

end

theorem write_eq_putFile (d : Directory Bytes) (name : String) (content : Bytes) :
    d.write name content = d.putFile name content := rfl

end Directory
end NoteDesk
