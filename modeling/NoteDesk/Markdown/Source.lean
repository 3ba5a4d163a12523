/-!
# Lines of markdown

* `SourceLine.all` cuts a text into lines, each kept with the line end it is written with.
* `Cursor` is a place in a line. Blocks nest by indentation, and a tab reaches to the next multiple
  of four columns, so a cursor also knows its column and what is left of a tab used in part.
-/

namespace NoteDesk.Markdown

/-- A line of the text. -/
structure SourceLine where
  text : List Char
  /-- A line feed, also where a carriage return stands before it, a lone carriage return, or
  nothing at the end of the text. -/
  ending : List Char
  deriving DecidableEq, Repr

namespace SourceLine

/-- The lines of a text, where `line` holds the characters of the current one, last first. -/
def allFrom (line : List Char) : List Char → List SourceLine
  | [] => if line.isEmpty then [] else [⟨line.reverse, []⟩]
  | '\n' :: s => ⟨line.reverse, ['\n']⟩ :: allFrom [] s
  | ['\r'] => [⟨line.reverse, ['\r']⟩]
  | '\r' :: '\n' :: s => ⟨line.reverse, ['\n']⟩ :: allFrom [] s
  | '\r' :: c :: s => ⟨line.reverse, ['\r']⟩ :: allFrom [] (c :: s)
  | c :: s => allFrom (c :: line) s

/-- The lines of a text. -/
def all (s : List Char) : List SourceLine :=
  allFrom [] s

/-- The line as it is written. -/
def full (l : SourceLine) : List Char :=
  l.text ++ l.ending

end SourceLine

/-- A blank within a line. -/
def isLineBlank (c : Char) : Bool :=
  c == ' ' || c == '\t' || c == '\x0B' || c == '\x0C'

/-- Nothing but blanks is left of the line. -/
def isBlankLine (s : List Char) : Bool :=
  s.all isLineBlank

/-- A place in a line. -/
structure Cursor where
  rest : List Char
  /-- Columns since the last tab stop, counted from the beginning of the line. -/
  column : Nat := 0
  /-- Columns of the last tab that are still to be used. -/
  owed : Nat := 0
  deriving DecidableEq, Repr

namespace Cursor

/-- Passes over spaces and tabs until `n` columns are used; gives the columns that were missing. -/
def useColumns : Nat → Nat → List Char → Nat × Cursor
  | 0, column, s => (0, ⟨s, column, 0⟩)
  | n + 1, column, ' ' :: s => useColumns n (column + 1) s
  | n + 1, column, '\t' :: s =>
    let width := 4 - column % 4
    if width ≤ n + 1 then useColumns (n + 1 - width) 0 s
    else (0, ⟨s, 0, width - (n + 1)⟩)
  | n + 1, column, s => (n + 1, ⟨s, column, 0⟩)
termination_by _ _ s => s.length

/-- Uses up to `n` columns of indentation; gives how many there were. -/
def indent (c : Cursor) (n : Nat) : Nat × Cursor :=
  if n ≤ c.owed then (n, { c with owed := c.owed - n })
  else
    let (missing, c') := useColumns (n - c.owed) c.column c.rest
    (n - missing, c')

/-- Uses exactly `n` columns of indentation, if there are as many. What was used stays used. -/
def indentBy (c : Cursor) (n : Nat) : Bool × Cursor :=
  let (used, c') := c.indent n
  (used == n, c')

/-- Uses all spaces and tabs. -/
def indentAll (c : Cursor) : Cursor :=
  { c with rest := c.rest.dropWhile fun x => x == ' ' || x == '\t', owed := 0 }

/-- The place after the next `n` characters. -/
def advance (c : Cursor) (n : Nat) : Cursor :=
  ⟨c.rest.drop n, c.column + n, c.owed⟩

/-- Nothing of the line is left. -/
def atEnd (c : Cursor) : Bool :=
  c.rest.isEmpty

/-- What is left of the line, the rest of a tab written as spaces. -/
def remaining (c : Cursor) : List Char :=
  List.replicate c.owed ' ' ++ c.rest

end Cursor
end NoteDesk.Markdown
