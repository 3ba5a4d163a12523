import NoteDesk.Error
import NoteDesk.Note

/-!
# The note service

The service keeps the records of notes and a list of notebooks. It gives every note an identifier of
its own and the time of its last change, from a clock that moves with each change, and notes down
what it was asked to write.

Identifiers are drawn at random where the program runs. Here they are numbered instead
(`Guid.ofNumber`). What is made use of is that no two of them are the same, that none is empty, and
that none has a separator of paths in it.

* `Service.add`, `Service.create`, `Service.update` and `Service.delete` change the records.
  Nothing ever removes one: a deleted note is marked.
* `Service.content` and `Service.notebook` look things up.
-/

namespace NoteDesk

namespace Guid

/-- Digits of a number in base sixteen, at least twelve. -/
def digits (n : Nat) : List Char :=
  let digits := Nat.toDigits 16 n
  List.replicate (12 - digits.length) '0' ++ digits

/-- The identifier with a number, in the form of one that is drawn at random. -/
def ofNumber (n : Nat) : Guid :=
  String.ofList ("00000000-0000-4000-8000-".toList ++ digits n)

end Guid

/-- What the service knows of a note. -/
structure Record where
  /-- Without content. -/
  note : Note
  /-- Wire content, in its envelope. -/
  content : String
  deriving DecidableEq, Repr, Inhabited

/-- The service, with what it was asked to write. -/
structure Service where
  /-- In the order in which they were added. -/
  records : List Record := []
  notebooks : List Notebook := []
  clock : Int := 0
  /-- How many searches were made. -/
  finds : Nat := 0
  /-- Notes that were to be created, as they were received. -/
  created : List Note := []
  /-- Notes that were to be updated, as they were received. -/
  updated : List Note := []
  /-- Identifiers of the notes that were deleted. -/
  deleted : List Guid := []
  /-- Why no note is created, if none is. -/
  createRefusal : Option String := none
  /-- Why no note is updated, if none is. -/
  updateRefusal : Option String := none
  deriving DecidableEq, Repr, Inhabited

namespace Service

/-! ## Looking things up -/

/-- The record of a note. -/
def record? (s : Service) (guid : Guid) : Option Record :=
  s.records.find? (·.note.guid == guid)

/-- The notebook with an identifier, if it is one of the service's. -/
def notebook? (s : Service) (guid : Guid) : Option Notebook :=
  s.notebooks.find? (·.guid == guid)

/-- The wire content of a note. -/
def content (s : Service) (guid : Guid) : Except RemoteError String :=
  match s.record? guid with
  | none => .error (.unknownNote guid)
  | some r => .ok r.content

/-- The notebook with an identifier, as the service answers when it is asked for it. -/
def notebook (s : Service) (guid : Guid) : Except RemoteError Notebook :=
  match s.notebook? guid with
  | none => .error (.unknownNotebook guid)
  | some nb => .ok nb

/-- The notebook that a reference means. One that is only a name is kept as it is. -/
def resolve (s : Service) : Option NotebookRef → Option NotebookRef
  | none => none
  | some r =>
    match r.guid? with
    | none => some r
    | some guid => (s.notebook? guid).map .resolved

/-! ## Changes -/

/-- The time of the next change. -/
def nextTime (s : Service) : Int :=
  s.clock + 1000

/-- The identifier of the next note: one that no other note has. -/
def nextGuid (s : Service) : Guid :=
  .ofNumber (s.records.length + 1)

/-- The service with one more notebook, after the others. -/
def addNotebook (s : Service) (nb : Notebook) : Service :=
  { s with notebooks := s.notebooks ++ [nb] }

/-- Adds a record under the next identifier, at the next time. -/
def addRecord (s : Service) (title : String) (notebook : Option NotebookRef) (deleted : Bool)
    (content : String) : Note × Service :=
  let note : Note :=
    { guid := s.nextGuid, title, notebook, deleted, created := s.nextTime, updated := s.nextTime }
  (note, { s with records := s.records ++ [⟨note, content⟩], clock := s.nextTime })

/-- Adds a note with the given wire content to a notebook. -/
def add (s : Service) (title : String) (notebook : Option Guid) (content : String) :
    Guid × Service :=
  let (note, s) := s.addRecord title ((notebook.bind s.notebook?).map .resolved) false content
  (note.guid, s)

/-- Creates a note from one whose body is wire content. Returns it as stored. -/
def create (s : Service) (n : Note) : Except RemoteError Note × Service :=
  match s.createRefusal with
  | some reason => (.error (.refused reason), s)
  | none =>
    let (note, s) := s.addRecord n.title (s.resolve n.notebook) n.deleted n.body
    (.ok note, { s with created := s.created ++ [n] })

/-- Changes the record of a note. -/
def change (s : Service) (guid : Guid) (f : Record → Record) : Service :=
  { s with records := s.records.map fun r => if r.note.guid = guid then f r else r }

/-- The record after an update at a time. The notebook stays if there is none to take its place,
and so does the content. -/
def Record.updated (r : Record) (n : Note) (notebook : Option NotebookRef) (time : Int) : Record :=
  { note :=
      { r.note with
        title := n.title
        notebook := notebook.or r.note.notebook
        updated := time }
    content := if n.body = "" then r.content else n.body }

/-- Updates a note from one whose body is wire content, or empty. An update of an unknown note is
noted down and takes its time all the same. -/
def update (s : Service) (n : Note) : Except RemoteError Unit × Service :=
  match s.updateRefusal with
  | some reason => (.error (.refused reason), s)
  | none =>
    let time := s.nextTime
    let noted := { s with updated := s.updated ++ [n], clock := time }
    match s.record? n.guid with
    | none => (.error (.unknownNote n.guid), noted)
    | some _ => (.ok (), noted.change n.guid (Record.updated · n (s.resolve n.notebook) time))

/-- Marks a note as deleted. -/
def delete (s : Service) (guid : Guid) : Except RemoteError Unit × Service :=
  match s.record? guid with
  | none => (.error (.unknownNote guid), s)
  | some _ =>
    let marked := s.change guid fun r => { r with note := { r.note with deleted := true } }
    (.ok (), { marked with deleted := marked.deleted ++ [guid] })

end Service
end NoteDesk
