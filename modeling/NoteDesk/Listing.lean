import NoteDesk.Listing.Age
import NoteDesk.Note
import NoteDesk.Text.Width

/-!
# The table of notes shown after a search

`Listing.render` writes a line of headings and a line per note. A note's number in the table is
the number that it can be looked up by. Titles and notebooks are cut (`Listing.cutTo`) and padded
(`Listing.padTo`) to the display width of their columns, as the ruler at hand has it.
-/

namespace NoteDesk.Listing

variable [Text.Ruler]

/-- Columns for a title. -/
def titleWidth : Nat := 40

/-- Columns for the name of a notebook. -/
def notebookWidth : Nat := 20

/-- Columns for the age of a note. -/
def timeWidth : Nat := 16

/-- The text with spaces after it up to a display width. -/
def padTo (columns : Nat) (s : List Char) : List Char :=
  s ++ List.replicate (columns - Text.width s) ' '

/-- The longest beginning whose characters together take at most `columns`. -/
def fitting : Nat → List Char → List Char
  | _, [] => []
  | columns, c :: s =>
    if Text.charWidth c ≤ columns then c :: fitting (columns - Text.charWidth c) s else []

/-- The text if it is no wider than `columns`, otherwise a beginning of it and an ellipsis. -/
def cutTo (columns : Nat) (s : List Char) : List Char :=
  if Text.width s ≤ columns then s else fitting (columns - 1) s ++ ['…']

/-- The text with spaces before it up to a number of characters. -/
def alignRight (n : Nat) (s : List Char) : List Char :=
  List.replicate (n - s.length) ' ' ++ s

/-- Columns of a line, two spaces between them, and its line feed. -/
def line (number title notebook age : List Char) : List Char :=
  alignRight 4 number ++ ' ' :: ' ' :: padTo titleWidth title ++ ' ' :: ' ' ::
    padTo notebookWidth notebook ++ ' ' :: ' ' :: alignRight timeWidth age ++ ['\n']

/-- The name of the note's notebook, as the notebooks have it now if it is among them. -/
def notebookName (notebooks : List Notebook) (n : Note) : String :=
  match n.notebookGuid?.bind fun guid => notebooks.find? fun nb => nb.guid == guid with
  | some nb => nb.name
  | none => n.notebookName

/-- The line of a note. -/
def row (notebooks : List Notebook) (now : Int) (number : Nat) (n : Note) : List Char :=
  line (toString number ++ ".").toList (cutTo titleWidth n.title.toList)
    (cutTo notebookWidth (notebookName notebooks n).toList) (Age.words n.updated now).toList

/-- The lines of notes, numbered from `number` on. -/
def rows (notebooks : List Notebook) (now : Int) : Nat → List Note → List Char
  | _, [] => []
  | number, n :: rest => row notebooks now number n ++ rows notebooks now (number + 1) rest

/-- The line of headings. -/
def headings : List Char :=
  line "#".toList "Title".toList "Notebook".toList "Updated".toList

/-- The table of the notes at a time given in milliseconds since the epoch. -/
def render (notes : List Note) (notebooks : List Notebook) (now : Int) : List Char :=
  headings ++ rows notebooks now 1 notes

end NoteDesk.Listing
