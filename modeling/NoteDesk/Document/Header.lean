import NoteDesk.Note
import NoteDesk.Text.Blank
import NoteDesk.Text.Line

/-!
# The header of a document

```text
---
title: Groceries
notebook: Home
---
```

* `Header.render` writes the header of a note.
* `Header.read` reads one: lines before the first delimiter and unknown fields are passed over,
  and a header that is never closed keeps what was read of it.
-/

namespace NoteDesk.Header

/-- The line before and after the fields. -/
def delimiter : List Char := "---".toList

/-- What the line of the title begins with. -/
def titleField : List Char := "title:".toList

/-- What the line of the notebook begins with. -/
def notebookField : List Char := "notebook:".toList

/-- The header of a note, with its closing line feed. -/
def render (n : Note) : List Char :=
  let notebook := n.notebookName.toList
  delimiter ++ '\n' :: titleField ++ ' ' :: n.title.toList ++ '\n' ::
    (if notebook.isEmpty then [] else notebookField ++ ' ' :: notebook ++ ['\n']) ++
    delimiter ++ ['\n']

/-- The note after its notebook was given the name read. The same name keeps the notebook; a new
one is only a name until it is looked up. -/
def rename (n : Note) (name : List Char) : Note :=
  if name.isEmpty ∨ name = n.notebookName.toList then n
  else { n with notebook := some (.named (String.ofList name)) }

/-- The note after one line of the header. -/
def field (n : Note) (line : List Char) : Note :=
  match titleField.isPrefixOf? line with
  | some value => { n with title := String.ofList (Text.trim value) }
  | none =>
    match notebookField.isPrefixOf? line with
    | some value => rename n (Text.trim value)
    | none => n

/-- A note read from lines: the note so far, the lines left, and whether a line that is no text
ended the reading. -/
structure Reading where
  note : Note
  rest : List Line
  spoilt : Bool := false
  deriving DecidableEq, Repr

/-- Reads fields up to the closing delimiter. -/
def readFields (n : Note) : List Line → Reading
  | [] => ⟨n, [], false⟩
  | none :: rest => ⟨n, rest, true⟩
  | some line :: rest =>
    let line := Line.trimReturn line
    if line = delimiter then ⟨n, rest, false⟩ else readFields (field n line) rest

/-- Reads a header into `n`: looks for the opening delimiter, then for the fields. -/
def read (n : Note) : List Line → Reading
  | [] => ⟨n, [], false⟩
  | none :: rest => ⟨n, rest, true⟩
  | some line :: rest =>
    if Line.trimReturn line = delimiter then readFields n rest else read n rest

end NoteDesk.Header
