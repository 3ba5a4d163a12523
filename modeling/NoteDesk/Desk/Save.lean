import NoteDesk.Desk
import NoteDesk.Envelope

/-!
# Saving notes

A note is sent to the service as a copy whose body is wire content; the note itself keeps what the
user wrote.

* `Work.saveChanges` updates a note. If that fails, the note becomes the recovery point.
* `Work.saveNew` creates a note.
* `Work.saveMetadata` updates title and notebook alone.
-/

namespace NoteDesk.Work

/-- The wire content of a note, from its body or from its markdown. -/
def wireContent (n : Note) (raw : Bool) : Work String := do
  if raw then return Envelope.wrap n.body
  else return Envelope.wrap (← toWire n.md)

variable [Disk]

/-- Makes the note the recovery point after it could not be saved. Fails either way. -/
def keepForRecovery (n : Note) (cause : Failure) : Work Unit :=
  ExceptT.mk fun d =>
    match d.store.saveRecovery n with
    | .ok store => (.error cause, { d with store })
    | .error recovery =>
      (.error (.recoveryPointFailed cause recovery), { d with store := d.store.spoilRecovery n })

/-- Updates title, notebook and content of a note. -/
def saveChanges (n : Note) (m : EditMode) : Work Unit := do
  let body ← wireContent n m.raw
  tryCatch (changeService (·.update { n with body })) (keepForRecovery n)

/-- The wire content of a note that is created. A note without markdown starts with nothing. -/
def newContent (n : Note) (raw : Bool) : Work String :=
  if raw || n.md != "" then wireContent n raw else return Envelope.empty

/-- Creates a note and returns it as the service has it. -/
def saveNew (n : Note) (raw : Bool) : Work Note := do
  let body ← newContent n raw
  changeService (·.create { n with body })

/-- Updates title and notebook of a note and leaves its content as it is. -/
def saveMetadata (n : Note) : Work Unit :=
  changeService (·.update { n with body := "" })

end NoteDesk.Work
