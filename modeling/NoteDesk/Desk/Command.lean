import NoteDesk.Desk.Edit

/-!
# Commands

What a user can ask for. A note is named by its title, or by its number in the last listing.
-/

namespace NoteDesk.Work

variable [Disk] [Connection]

/-- Reopens the note whose last save failed. -/
def editRecovery (m : EditMode) : Work Report :=
  editNote "" none { m with recovery := true }

/-- Title of a note that was given none. -/
def defaultTitle : String := "Untitled note"

/-- Creates a note, empty or with what comes of editing it. -/
def createNote (title notebook : Option String) (edited : Bool) (m : EditMode) : Work Report := do
  let title := (title.filter fun t => !Text.allBlank t.toList).getD defaultTitle
  let n : Note ← match nonEmpty notebook with
    | none => pure { title }
    | some name => pure { title, notebook := some (.resolved (← findNotebook name)) }
  if edited || m.stdin then editNew n m
  else
    let created ← saveNew n m.raw
    return { messages := [.created created.title], affected := [created] }

/-- The notebooks last seen, or those of the service if none were. -/
def knownNotebooks : Work (List Notebook) := do
  let known ← askStore LocalStore.notebooks
  if known.isEmpty then
    let notebooks ← askNotebooks
    changeStore (LocalStore.saveNotebooks notebooks) (LocalStore.spoilNotebooks notebooks)
    return notebooks
  else return known

/-- Lists notes, last updated first, and remembers the listing. -/
def listNotes (words notebook : Option String) (count : Option Nat) : Work Report := do
  let guid ← notebookGuid? notebook
  let count := count.getD (← get).config.searchCount.toNat
  let listed ← search { notebook := guid, words := nonEmpty words } count
  changeStore (LocalStore.saveSearch listed) (LocalStore.spoilSearch listed)
  return { listed, notebooks := ← knownNotebooks }

/-- Gives a note another title. -/
def renameNote (old new : String) : Work Report := do
  let n := { (← findNote old none) with title := new }
  saveMetadata n
  return { messages := [.renamed old new], affected := [n] }

/-- Puts a note into another notebook. -/
def moveNote (title notebook : String) : Work Report := do
  let n ← findNote title none
  let nb ← findNotebook notebook
  if n.notebookGuid? = some nb.guid then
    return { messages := [.alreadyIn n.title nb.name] }
  else
    let n := { n with notebook := some (.resolved nb) }
    saveMetadata n
    return { messages := [.moved n.title notebook], affected := [n] }

/-- Marks a note as deleted. -/
def deleteNote (title : String) (notebook : Option String) : Work Report := do
  let n ← findNote title notebook
  changeService (·.delete n.guid)
  return { messages := [.deleted n.title], affected := [n] }

end NoteDesk.Work
