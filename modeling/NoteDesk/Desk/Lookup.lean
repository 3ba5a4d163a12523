import NoteDesk.Desk
import NoteDesk.Envelope
import NoteDesk.Listing.Number

/-!
# Looking up notes and notebooks

* `Work.findNotebook` finds a notebook by name, among those last seen before it asks the service.
* `Work.resolve` is the notebook that a reference means.
* `Work.findNote` finds a note by its number in the last listing or by its title, and
  `Work.openNote` fetches its content as well.
-/

namespace NoteDesk.Work

variable [Disk] [Connection]

/-- The first notebook of a name. -/
def named (name : String) (notebooks : List Notebook) : Option Notebook :=
  notebooks.find? (·.name == name)

/-- Finds a notebook by name. If it is not among those last seen, the service is asked for all of
them, which are then the last seen. -/
def findNotebook (name : String) : Work Notebook := do
  match named name (← askStore LocalStore.notebooks) with
  | some nb => return nb
  | none =>
    let notebooks ← askNotebooks
    changeStore (LocalStore.saveNotebooks notebooks) (LocalStore.spoilNotebooks notebooks)
    match named name notebooks with
    | some nb => return nb
    | none => throw (.notebookNotFound name)

/-- The notebook that a reference means, as the service has it now. -/
def resolve (r : NotebookRef) : Work NotebookRef := do
  match r.guid? with
  | some guid => return .resolved (← askService (·.notebook guid))
  | none => return .resolved (← findNotebook r.name)

/-- The text if it says anything. -/
def nonEmpty (s : Option String) : Option String :=
  s.filter (· != "")

/-- The identifier of the notebook of a name, if one is given. -/
def notebookGuid? (notebook : Option String) : Work (Option Guid) := do
  match nonEmpty notebook with
  | none => return none
  | some name => return some (← findNotebook name).guid

/-- The note with a number in the last listing, if the text is such a number. -/
def numberedNote? (title : String) : Work (Option Note) := do
  match Listing.number? title.toList with
  | none => return none
  | some 0 => return none
  | some (i + 1) => return (← askStore LocalStore.search)[i]?

/-- The note of exactly this title, among the first that a search for it finds. -/
def titledNote (title : String) (notebook : Option String) : Work Note := do
  let guid ← notebookGuid? notebook
  let found ← search { notebook := guid, words := some title } (← get).config.searchCount.toNat
  match found.find? (·.title == title) with
  | some n => return n
  | none => throw .noteNotFound

/-- Finds a note, without its content. -/
def findNote (title : String) (notebook : Option String) : Work Note := do
  match ← numberedNote? title with
  | some n => return n
  | none => titledNote title notebook

/-- Finds a note and fetches its content, as markup and as markdown. -/
def openNote (title : String) (notebook : Option String) : Work Note := do
  let n ← findNote title notebook
  let content ← askService (·.content n.guid)
  let body := Envelope.unwrap content
  return { n with body, md := ← toMarkdown body }

end NoteDesk.Work
