import NoteDesk.Document.Header
import NoteDesk.Error

/-!
# Documents

A note goes to the editor as a document, its header followed by its content.

* `Document.render` writes the document of a note.
* `Document.parse` reads a document back into a note; a document that is no text is refused,
  after the fields before the first bad line were taken over.
* `Document.roundTrip` is the note as it reads back from its own document, so what an edit that
  changes nothing leaves.
-/

namespace NoteDesk.Document

/-- The document of a note. It always ends with a line feed. -/
def render (n : Note) (m : EditMode) : List Char :=
  let content := (n.content m.raw).toList
  Header.render n ++ content ++ (if content.getLast? = some '\n' then [] else ['\n'])

/-- The lines of the content joined, or `none` if one is no text. -/
def content? : List Line → Option (List Char)
  | [] => some []
  | none :: _ => none
  | some line :: rest => (content? rest).map fun s => Line.trimReturn line ++ '\n' :: s

/-- The content without the line feeds around it. -/
def trimFeeds (s : List Char) : List Char :=
  Text.strip (· == '\n') s

/-- The result of reading a document: the note, as far as it was read. -/
structure Parsed where
  note : Note
  result : Except Failure Unit

/-- Reads the lines of a document into `n`. -/
def parseLines (lines : List Line) (n : Note) (m : EditMode) : Parsed :=
  let header := Header.read n lines
  if header.spoilt then ⟨header.note, .error (.io .undecodable)⟩
  else
    match content? header.rest with
    | none => ⟨header.note, .error (.io .undecodable)⟩
    | some text => ⟨header.note.withContent m.raw (String.ofList (trimFeeds text)), .ok ()⟩

/-- Reads a document, given as the content of its file, into `n`. -/
def parse (document : Bytes) (n : Note) (m : EditMode) : Parsed :=
  parseLines (Line.ofBytes document) n m

/-- The note as it reads back from its own document. -/
def roundTrip (n : Note) (m : EditMode) : Except Failure Note :=
  let parsed := parse (Utf8.encode (render n m)) n m
  parsed.result.map fun _ => parsed.note

end NoteDesk.Document
