import NoteDesk.Json.Decode
import NoteDesk.Json.Render
import NoteDesk.Note

/-!
# Notes and notebooks in files

How notes and notebooks are written as JSON (`Note.toJson`, `Notebook.toJson`) and read back
(`Note.ofJson`, `Notebook.ofJson`). Times are whole numbers of 64 bits with a sign. What may be
missing from a file: `deleted`, `created`, `updated` and `notebook` of a note, `stack` and
`default_notebook` of a notebook.
-/

namespace NoteDesk

/-- A field of an object. -/
def Json.field (name : String) (j : Json) : Json × Json :=
  (.text name.toList, j)

/-- A string as JSON. -/
def Json.ofString (s : String) : Json :=
  .text s.toList

/-- The earliest time that fits. -/
def Json.minTime : Int := -0x8000000000000000

/-- The latest time that fits. -/
def Json.maxTime : Int := 0x7FFFFFFFFFFFFFFF

/-! ## Notebooks -/

namespace Notebook

/-- The notebook as it is kept in a file. -/
def toJson (nb : Notebook) : Json :=
  .object
    [Json.field "guid" (.ofString nb.guid), Json.field "name" (.ofString nb.name),
      Json.field "stack" (.ofString nb.stack), Json.field "default_notebook" (.bool nb.isDefault)]
    none

/-- The fields of a notebook read so far. -/
structure Part where
  guid : Option String := none
  name : Option String := none
  stack : Option String := none
  isDefault : Option Bool := none
  deriving DecidableEq, Repr

namespace Part

/-- The field was read already. -/
def given (field : String) (p : Part) : Bool :=
  match field with
  | "guid" => p.guid.isSome
  | "name" => p.name.isSome
  | "stack" => p.stack.isSome
  | "default_notebook" => p.isDefault.isSome
  | _ => false

/-- Takes a field over. One that is unknown changes nothing. -/
def set (field : String) (j : Json) (p : Part) : Except Json.Flaw Part :=
  match field with
  | "guid" => return { p with guid := some (← j.asText) }
  | "name" => return { p with name := some (← j.asText) }
  | "stack" => return { p with stack := some (← j.asText) }
  | "default_notebook" => return { p with isDefault := some (← j.asBool) }
  | _ => .ok p

/-- The notebook of the fields that were read. It has an identifier and a name. -/
def finish (p : Part) : Except Json.Flaw Notebook :=
  match p.guid, p.name with
  | some guid, some name =>
    .ok { guid, name, stack := p.stack.getD "", isDefault := p.isDefault.getD false }
  | _, _ => .error .mismatch

end Part

/-- The fields, in the order of a list of them, and which of them may be missing there. -/
def shape : Json.Shape Notebook Part where
  names := [("guid", false), ("name", false), ("stack", true), ("default_notebook", true)]
  none := {}
  given := Part.given
  set := Part.set
  finish := Part.finish

/-- Reads a notebook. -/
def ofJson : Json.Decoder Notebook :=
  Json.asRecord shape

end Notebook

/-! ## References to notebooks -/

namespace NotebookRef

/-- The reference as an object of one field, whose name tells which kind it is. -/
def toJson : NotebookRef → Json
  | named name => .object [Json.field "Named" (.ofString name)] none
  | resolved nb => .object [Json.field "Resolved" nb.toJson] none

/-- What stands in an object under one of the two names of a reference. -/
def ofField (key j : Json) : Except Json.Flaw NotebookRef := do
  match ← key.asText with
  | "Named" => return .named (← j.asText)
  | "Resolved" => return .resolved (← Notebook.ofJson j)
  | _ => .error .mismatch

/-- An object with one field. -/
def ofJson : Json.Decoder NotebookRef
  | .object [] ending => .error (ending.getD .malformed)
  | .object ((key, j) :: rest) ending => do
    let r ← ofField key j
    if rest.isEmpty then
      Json.closed ending
      return r
    else .error .malformed
  | .text _ => .error .mismatch
  | .broken (some '"') reading _ => .error reading
  | .broken none reading _ => .error reading
  | _ => .error .malformed

end NotebookRef

/-! ## Notes -/

namespace Note

/-- The note as it is kept in a file. -/
def toJson (n : Note) : Json :=
  .object
    [Json.field "guid" (.ofString n.guid), Json.field "title" (.ofString n.title),
      Json.field "body" (.ofString n.body), Json.field "md" (.ofString n.md),
      Json.field "deleted" (.bool n.deleted),
      Json.field "notebook" ((n.notebook.map NotebookRef.toJson).getD .null),
      Json.field "created" (.integer n.created), Json.field "updated" (.integer n.updated)]
    none

/-- The fields of a note read so far. -/
structure Part where
  guid : Option String := none
  title : Option String := none
  body : Option String := none
  md : Option String := none
  deleted : Option Bool := none
  notebook : Option (Option NotebookRef) := none
  created : Option Int := none
  updated : Option Int := none
  deriving DecidableEq, Repr

namespace Part

/-- The field was read already. -/
def given (field : String) (p : Part) : Bool :=
  match field with
  | "guid" => p.guid.isSome
  | "title" => p.title.isSome
  | "body" => p.body.isSome
  | "md" => p.md.isSome
  | "deleted" => p.deleted.isSome
  | "notebook" => p.notebook.isSome
  | "created" => p.created.isSome
  | "updated" => p.updated.isSome
  | _ => false

/-- Takes a field over. One that is unknown changes nothing. -/
def set (field : String) (j : Json) (p : Part) : Except Json.Flaw Part :=
  match field with
  | "guid" => return { p with guid := some (← j.asText) }
  | "title" => return { p with title := some (← j.asText) }
  | "body" => return { p with body := some (← j.asText) }
  | "md" => return { p with md := some (← j.asText) }
  | "deleted" => return { p with deleted := some (← j.asBool) }
  | "notebook" => return { p with notebook := some (← j.asOption NotebookRef.ofJson) }
  | "created" => return { p with created := some (← j.asInteger Json.minTime Json.maxTime) }
  | "updated" => return { p with updated := some (← j.asInteger Json.minTime Json.maxTime) }
  | _ => .ok p

/-- The note of the fields that were read. It has an identifier, a title, and both contents. -/
def finish (p : Part) : Except Json.Flaw Note :=
  match p.guid, p.title, p.body, p.md with
  | some guid, some title, some body, some md =>
    .ok
      { guid, title, body, md
        deleted := p.deleted.getD false
        notebook := p.notebook.getD none
        created := p.created.getD 0
        updated := p.updated.getD 0 }
  | _, _, _, _ => .error .mismatch

end Part

/-- The fields, in the order of a list of them, and which of them may be missing there. -/
def shape : Json.Shape Note Part where
  names :=
    [("guid", false), ("title", false), ("body", false), ("md", false), ("deleted", true),
      ("notebook", false), ("created", true), ("updated", true)]
  none := {}
  given := Part.given
  set := Part.set
  finish := Part.finish

/-- Reads a note. -/
def ofJson : Json.Decoder Note :=
  Json.asRecord shape

end Note
end NoteDesk
