/-!
# Notes and notebooks

* `Notebook` is a notebook as the service knows it.
* `NotebookRef` is the notebook of a note: one the service knows, or only a name read from an
  edited document, to be looked up.
* `Note` carries its content twice, as wire markup (`body`) and as markdown (`md`).
* `EditMode` says which of the two an edit session works on and where the new content comes from.
-/

namespace NoteDesk

/-- Identifier that the service gives to a note or a notebook. -/
abbrev Guid := String

/-- A notebook of the service. -/
structure Notebook where
  guid : Guid
  name : String
  stack : String := ""
  isDefault : Bool := false
  deriving DecidableEq, Repr, Inhabited

/-- The notebook of a note. -/
inductive NotebookRef where
  | named (name : String)
  | resolved (notebook : Notebook)
  deriving DecidableEq, Repr, Inhabited

namespace NotebookRef

/-- The name, whether the notebook is known or not. -/
def name : NotebookRef → String
  | named name => name
  | resolved notebook => notebook.name

/-- The identifier, which only a notebook known by the service has. -/
def guid? : NotebookRef → Option Guid
  | named _ => none
  | resolved notebook => if notebook.guid = "" then none else some notebook.guid

end NotebookRef

/-- A note, with as much of its content as was fetched. -/
structure Note where
  /-- Empty until the service has created the note. -/
  guid : Guid := ""
  title : String := ""
  /-- Wire markup, without its envelope. -/
  body : String := ""
  md : String := ""
  deleted : Bool := false
  notebook : Option NotebookRef := none
  /-- Milliseconds since the epoch. -/
  created : Int := 0
  updated : Int := 0
  deriving DecidableEq, Repr, Inhabited

namespace Note

/-- The service has not created the note yet. -/
def isNew (n : Note) : Bool :=
  n.guid == ""

/-- Name of the notebook, empty if there is none. -/
def notebookName (n : Note) : String :=
  (n.notebook.map NotebookRef.name).getD ""

/-- Identifier of the notebook, if it has one. -/
def notebookGuid? (n : Note) : Option Guid :=
  n.notebook.bind NotebookRef.guid?

/-- The content that an edit session in raw or markdown mode works on. -/
def content (n : Note) (raw : Bool) : String :=
  if raw then n.body else n.md

/-- The note with another content of the mode. -/
def withContent (n : Note) (raw : Bool) (text : String) : Note :=
  if raw then { n with body := text } else { n with md := text }

end Note

/-- How a session edits a note. -/
structure EditMode where
  /-- Edit the wire markup as it is instead of the markdown. -/
  raw : Bool := false
  /-- Reopen the note whose last save failed. -/
  recovery : Bool := false
  /-- Take the content from the input stream instead of an editor. -/
  stdin : Bool := false
  deriving DecidableEq, Repr, Inhabited

namespace EditMode

/-- Ending of the document's file name. -/
def extension (m : EditMode) : String :=
  if m.raw then ".xml" else ".md"

end EditMode
end NoteDesk
