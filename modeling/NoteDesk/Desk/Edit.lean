import NoteDesk.Desk.Lookup
import NoteDesk.Desk.Report
import NoteDesk.Desk.Save
import NoteDesk.Document
import NoteDesk.Document.Fingerprint

/-!
# Edit sessions

A note goes out as a document of the cache, through the editor, and back.

* `Work.editNote` edits a note that the service has. It is saved only if its title, its content or
  the name of its notebook changed.
* `Work.editNew` edits a note that is then created.

However a session ends, its document is gone from the cache afterwards.
-/

namespace NoteDesk.Work

variable {α : Type} [Disk] [Connection]

/-- Beginning of the names of documents of new notes. -/
def draftName : String := "new_note_"

/-- A name for the document of a note: its identifier, or a name never given before. A counter
stands for the random part of such a name, which has to differ from all others and no more. -/
def documentName (n : Note) (m : EditMode) : Work String :=
  ExceptT.mk fun d =>
    if n.isNew then
      (.ok (draftName ++ Guid.ofNumber (d.drafts + 1) ++ m.extension),
        { d with drafts := d.drafts + 1 })
    else (.ok (n.guid ++ m.extension), d)

/-- Works with a new document and discards it afterwards. -/
def withDocument (name : String) (use : Cache.Document → Work α) : Work α :=
  ExceptT.mk fun d =>
    match d.cache.create name with
    | .error cause => (.error cause, d)
    | .ok (document, cache) =>
      let (result, d) := (use document).perform { d with cache }
      (result, { d with cache := d.cache.discard name })

/-- The note with the content that the mode says, so what its document is written from. -/
def prepared (n : Note) (m : EditMode) : Work Note := do
  if m.stdin then
    let text ← takeInput
    return { n with md := text, body := text }
  else return n

/-- The content of a document, read from its start. -/
def reread (document : Cache.Document) : Work Bytes :=
  changeCache fun c => do
    let document ← document.reopen c
    let (content, _) ← document.read c
    return (content, c)

/-- Writes the note to the document, has it edited and reads it back. -/
def editIn (n : Note) (m : EditMode) (document : Cache.Document) : Work Note := do
  let n ← prepared n m
  let document ← changeCache (document.write (Utf8.encode (Document.render n m)))
  let document := document.close
  unless m.stdin do edit document.name
  let parsed := Document.parse (← reread document) n m
  parsed.result
  return parsed.note

/-- The note with its notebook looked up again, if that has another name now. -/
def refreshNotebook (n : Note) (before : String) : Work Note := do
  if n.notebookName = "" ∨ n.notebookName = before then return n
  else return { n with notebook := some (.resolved (← findNotebook n.notebookName)) }

/-- The recovery point, if it is a note that the service has. -/
def recoveryNote : Work Note := do
  match ← askStore LocalStore.recovery with
  | some n => if n.isNew then throw .noteNotFound else return n
  | none => throw .noteNotFound

/-- The note that a session works on. -/
def noteToEdit (title : String) (notebook : Option String) (m : EditMode) : Work Note :=
  if m.recovery then recoveryNote else openNote title notebook

/-- The note with its notebook as the service has it now. -/
def withNotebook (n : Note) : Work Note := do
  match n.notebook with
  | none => return n
  | some r => return { n with notebook := some (← resolve r) }

/-- Edits a note and saves it if it changed. What counts as a change is told from the note as its
own document reads back. -/
def editNote (title : String) (notebook : Option String) (m : EditMode) : Work Report := do
  let fetched ← noteToEdit title notebook m
  let before := Fingerprint.of (← Document.roundTrip fetched m) m.raw
  let n ← withNotebook fetched
  let name ← documentName n m
  withDocument name fun document => do
    let edited ← refreshNotebook (← editIn n m document) n.notebookName
    let after := Fingerprint.of edited m.raw
    if !before.changed after && edited.notebookName == n.notebookName then
      return { messages := [.unchanged edited.title] }
    else
      saveChanges edited m
      return { messages := [.saved edited.title], affected := [edited] }

/-- Edits a note that the service does not have and creates it. -/
def editNew (n : Note) (m : EditMode) : Work Report := do
  let name ← documentName n m
  withDocument name fun document => do
    let edited ← refreshNotebook (← editIn n m document) n.notebookName
    let created ← saveNew edited m.raw
    return { messages := [.created created.title], affected := [created] }

end NoteDesk.Work
