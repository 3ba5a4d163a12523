import NoteDesk.Service
import NoteDesk.Text.Lowercase
import NoteDesk.Text.Search

/-!
# Searching the service

`Service.find` gives a page of the notes that match a query, deleted ones apart. Words are looked for
in titles and in wire content, whatever the case of their letters.

The service has an answer to every search, and so it has when it is asked for its notebooks. A
`Connection` says which of these answers do not come. Where none is given, they all come
(`Connection.sound`).
-/

namespace NoteDesk

namespace Service

/-- What the notes found are sorted by. -/
inductive Order where
  | created
  | updated
  | relevance
  | sequenceNumber
  | title
  deriving DecidableEq, Repr

/-- What to search for. -/
structure Query where
  /-- Only notes of this notebook. -/
  notebook : Option Guid := none
  /-- Only notes with this in their title or content. -/
  words : Option String := none
  order : Order := .updated
  deriving DecidableEq, Repr

namespace Query

/-- The text has the words in it, in any case of their letters. -/
def mentions (words text : String) : Bool :=
  Text.hasInside (Text.lower words.toList) (Text.lower text.toList)

/-- The note of a record is one that the query asks for. -/
def accepts (q : Query) (r : Record) : Bool :=
  !r.note.deleted &&
    (match q.notebook with
    | none => true
    | some guid => r.note.notebookGuid? == some guid) &&
    (match q.words with
    | none => true
    | some words => mentions words r.note.title || mentions words r.content)

end Query

/-- The first note may stand before the second: newest first, or by title. -/
def Order.before (order : Order) (a b : Note) : Bool :=
  match order with
  | .created => b.created ≤ a.created
  | .title => a.title ≤ b.title
  | _ => b.updated ≤ a.updated

/-- All notes that a query asks for, in order. -/
def matching (s : Service) (q : Query) : List Note :=
  ((s.records.filter q.accepts).map (·.note)).mergeSort q.order.before

/-- At most `count` of the notes that a query asks for, after the first `offset`. -/
def find (s : Service) (q : Query) (offset count : Nat) : List Note × Service :=
  (((s.matching q).drop offset).take count, { s with finds := s.finds + 1 })

/-- What the service always has an answer to. -/
inductive Question where
  /-- Which notes match a query? -/
  | notes (q : Query)
  /-- Which notebooks are there? -/
  | notebooks
  deriving DecidableEq, Repr

end Service

/-- A connection to the service: why an answer does not come, if it does not. -/
class Connection where
  outage : Service → Service.Question → Option RemoteError

/-- The connection through which every answer comes. -/
instance Connection.sound : Connection where
  outage _ _ := none

end NoteDesk
