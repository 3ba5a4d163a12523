import NoteDesk.Cache
import NoteDesk.Editor.Command
import NoteDesk.LocalStore
import NoteDesk.Markdown.Html
import NoteDesk.Markup
import NoteDesk.Service.Search

/-!
# The desk

A `Desk` is everything that work on notes needs: the service, the local store, the cache, an editor,
a converter between markdown and wire markup, the input stream and the configuration. It also keeps
a log of what its collaborators were asked to do.

* `Work α` is work at a desk that gives an `α` or fails. What it did before it failed stays done.
  Work is for any `Disk` under the local store and any `Connection` to the service.
* The steps all work is made of are here: `Work.askStore`, `Work.changeStore`, `Work.askService`,
  `Work.changeService`, `Work.search`, `Work.askNotebooks`, `Work.toWire`, `Work.toMarkdown`,
  `Work.takeInput`.
* `Desk.ofSystem` is the desk set up as the configuration says.
-/

namespace NoteDesk

/-- Converts the content of notes. -/
structure Converter where
  /-- From markdown to wire markup, without its envelope. -/
  toWire : String → String
  /-- From wire markup to markdown. -/
  toMarkdown : String → Except Failure String

/-- The converter that the program comes with. -/
def Converter.markdown : Converter where
  toWire := Markdown.toHtml
  toMarkdown := Markup.toMarkdown

/-- All that work on notes needs. What is not told of a desk is empty, idle, or as the program
comes. -/
structure Desk where
  service : Service := {}
  store : LocalStore := .memory {}
  cache : Cache := .empty
  editor : Editor := Editor.idle
  converter : Converter := Converter.markdown
  /-- What is left of the input stream. -/
  input : Bytes := []
  config : Config := {}
  /-- How often the converter was asked for wire markup. -/
  wireConversions : Nat := 0
  /-- How often the converter was asked for markdown. -/
  markdownConversions : Nat := 0
  /-- The documents handed to the editor, by name and content. -/
  handed : List (String × Bytes) := []
  /-- How many documents were named for notes that are new. -/
  drafts : Nat := 0

/-- Work at a desk. -/
abbrev Work (α : Type) := ExceptT Failure (StateM Desk) α

namespace Work

variable {α : Type}

/-- What comes of the work, and the desk afterwards. -/
def perform (work : Work α) (d : Desk) : Except Failure α × Desk :=
  StateT.run (ExceptT.run work) d

/-! ## The local store -/

/-- Asks the local store something. -/
def askStore (question : LocalStore → Except Failure α) : Work α :=
  ExceptT.mk fun d => (question d.store, d)

/-- Does something with the local store that may change it; `spoil` gives what is left of the store
if that fails. -/
def changeStore (change : LocalStore → Except Failure LocalStore)
    (spoil : LocalStore → LocalStore := id) : Work Unit :=
  ExceptT.mk fun d =>
    match change d.store with
    | .error cause => (.error cause, { d with store := spoil d.store })
    | .ok store => (.ok (), { d with store })

/-! ## The service -/

/-- Asks the service something. -/
def askService (question : Service → Except RemoteError α) : Work α :=
  ExceptT.mk fun d => ((question d.service).mapError .remote, d)

/-- Has the service do something; what it did before it refused stays done. -/
def changeService (change : Service → Except RemoteError α × Service) : Work α :=
  ExceptT.mk fun d =>
    let (result, service) := change d.service
    (result.mapError .remote, { d with service })

section

variable [Connection]

/-- The first notes that a query asks for, at most `count`. -/
def search (q : Service.Query) (count : Nat) : Work (List Note) :=
  changeService fun s =>
    match Connection.outage s (.notes q) with
    | some cause => (.error cause, s)
    | none =>
      let (found, s) := s.find q 0 count
      (.ok found, s)

/-- All notebooks of the service. -/
def askNotebooks : Work (List Notebook) :=
  askService fun s =>
    match Connection.outage s .notebooks with
    | some cause => .error cause
    | none => .ok s.notebooks

end

/-! ## The converter -/

/-- The wire markup of a markdown text. -/
def toWire (markdown : String) : Work String :=
  ExceptT.mk fun d =>
    (.ok (d.converter.toWire markdown), { d with wireConversions := d.wireConversions + 1 })

/-- The markdown of wire markup, unless that cannot be read. -/
def toMarkdown (markup : String) : Work String :=
  ExceptT.mk fun d =>
    (d.converter.toMarkdown markup, { d with markdownConversions := d.markdownConversions + 1 })

/-! ## The cache, the editor and the input stream -/

/-- Does something with the cache that may change it. -/
def changeCache (change : Cache → Except IoError (α × Cache)) : Work α :=
  ExceptT.mk fun d =>
    match change d.cache with
    | .error flaw => (.error (.io flaw), d)
    | .ok (x, cache) => (.ok x, { d with cache })

/-- Takes the text from the input stream. What is no text is left there. -/
def takeInput : Work String :=
  ExceptT.mk fun d =>
    match Utf8.toString? d.input with
    | none => (.error (.io .undecodable), d)
    | some text => (.ok text, { d with input := [] })

/-- Has the editor edit the file of a document. Without a file it starts with nothing. -/
def edit (name : String) : Work Unit :=
  ExceptT.mk fun d =>
    let content := (d.cache.content? name).getD []
    let edited := d.editor content
    (edited.result.mapError .editor,
      { d with
        cache := d.cache.replace name edited.document
        handed := d.handed ++ [(name, content)] })

end Work

/-- The desk of a system, given its data directory. -/
def Desk.ofSystem (programs : String → Option Program) (env : Environment)
    (data : Directory Bytes) : Except Failure Desk := do
  let _ ← Places.ofEnvironment env
  let config ← Config.load data
  return { store := .files data, config, editor := Editor.system programs env config.editor }

end NoteDesk
