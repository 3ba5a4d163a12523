import NoteDesk.Disk
import NoteDesk.Stored

/-!
# The local store

What is remembered between commands: the notes last listed, the note whose last save failed (the
recovery point), and the notebooks as last seen. It is kept in memory, or in three files of the
data directory.

* `LocalStore.saveSearch`, `LocalStore.saveRecovery` and `LocalStore.saveNotebooks` are the store
  with something else in it, if it can be kept.
* `LocalStore.spoilSearch` and its like are what is left of the store if it cannot: a file may hold
  the beginning of what was to be kept.
-/

namespace NoteDesk

namespace LocalStore

/-- A store kept in memory. -/
structure Memory where
  /-- The notes last listed. -/
  search : List Note := []
  /-- The note whose last save failed. -/
  recovery : Option Note := none
  /-- The notebooks last seen. -/
  notebooks : List Notebook := []
  /-- Why no recovery point is stored, if none is. -/
  refusal : Option String := none
  deriving DecidableEq, Repr, Inhabited

/-! ## Files -/

/-- The file of the notes last listed. -/
def searchFile : String := "search.json"

/-- The file of the note whose last save failed. -/
def recoveryFile : String := "recovery.json"

/-- The file of the notebooks last seen. -/
def notebooksFile : String := "notebooks.json"

/-- Reads what is kept in a file, if there is one. -/
def load {α : Type} (decoder : Json.Decoder α) (name : String) (data : Directory Bytes) :
    Except Failure (Option α) := do
  match ← (data.readText? name).mapError .io with
  | none => return none
  | some s => return some (← (Json.decode decoder s).mapError .stored)

/-- Keeps a value in a file. -/
def keep [Disk] (name : String) (j : Json) (data : Directory Bytes) :
    Except Failure (Directory Bytes) :=
  (data.write name (Utf8.encode j.render)).mapError .io

end LocalStore

/-- A local store, in memory or in files of a directory. -/
inductive LocalStore where
  | memory (m : LocalStore.Memory)
  | files (data : Directory Bytes)
  deriving DecidableEq, Repr

namespace LocalStore

variable [Disk]

/-- Keeps a value in a file of the store's directory. -/
def keepIn (name : String) (j : Json) (data : Directory Bytes) : Except Failure LocalStore :=
  (keep name j data).map files

/-- What is left of the store if a value could not be kept in a file of its directory. -/
def spoil (name : String) (j : Json) : LocalStore → LocalStore
  | memory m => memory m
  | files data => files (data.spoiled name (Utf8.encode j.render))

/-! ## The last listing -/

/-- What is kept of a listing. -/
def searchJson (notes : List Note) : Json :=
  .list (notes.map Note.toJson) none

/-- The notes last listed. -/
def search : LocalStore → Except Failure (List Note)
  | memory m => .ok m.search
  | files data => (load (Json.asList Note.ofJson) searchFile data).map (·.getD [])

/-- The store with these notes as the last listing. -/
def saveSearch (notes : List Note) : LocalStore → Except Failure LocalStore
  | memory m => .ok (memory { m with search := notes })
  | files data => keepIn searchFile (searchJson notes) data

/-- What is left of the store if a listing could not be kept. -/
def spoilSearch (notes : List Note) : LocalStore → LocalStore :=
  spoil searchFile (searchJson notes)

/-! ## The recovery point -/

/-- The note whose last save failed. -/
def recovery : LocalStore → Except Failure (Option Note)
  | memory m => .ok m.recovery
  | files data => load Note.ofJson recoveryFile data

/-- The store with this note as the recovery point. -/
def saveRecovery (n : Note) : LocalStore → Except Failure LocalStore
  | memory m =>
    match m.refusal with
    | some reason => .error (.store (.refused reason))
    | none => .ok (memory { m with recovery := some n })
  | files data => keepIn recoveryFile n.toJson data

/-- What is left of the store if a recovery point could not be kept. -/
def spoilRecovery (n : Note) : LocalStore → LocalStore :=
  spoil recoveryFile n.toJson

/-! ## The notebooks -/

/-- What is kept of notebooks. -/
def notebooksJson (notebooks : List Notebook) : Json :=
  .list (notebooks.map Notebook.toJson) none

/-- The notebooks last seen. -/
def notebooks : LocalStore → Except Failure (List Notebook)
  | memory m => .ok m.notebooks
  | files data => (load (Json.asList Notebook.ofJson) notebooksFile data).map (·.getD [])

/-- The store with these notebooks as the last seen. -/
def saveNotebooks (notebooks : List Notebook) : LocalStore → Except Failure LocalStore
  | memory m => .ok (memory { m with notebooks })
  | files data => keepIn notebooksFile (notebooksJson notebooks) data

/-- What is left of the store if notebooks could not be kept. -/
def spoilNotebooks (notebooks : List Notebook) : LocalStore → LocalStore :=
  spoil notebooksFile (notebooksJson notebooks)

end LocalStore
end NoteDesk
