import NoteDesk.Markdown.Source

/-!
# Tables

A table is a line of cells, a line of dashes with as many columns, and any number of further lines
of cells.

* `Table.delimiters?` reads the line of dashes.
* `Table.begins?` compares it with the line before.
* `Table.cells` cuts a line into cells, `Table.fit` brings a row to the table's width.
-/

namespace NoteDesk.Markdown

/-- How the cells of a column are aligned. -/
inductive Alignment where
  | none
  | left
  | center
  | right
  deriving DecidableEq, Repr

namespace Table

/-- A column of the line of dashes being read. -/
structure Column where
  alignment : Alignment := .none
  started : Bool := false
  dashed : Bool := false
  deriving DecidableEq, Repr

/-- The column after one more character that is no pipe. -/
def Column.next? (c : Column) (x : Char) : Option Column :=
  if x = ' ' then some c
  else if x = '-' then some { c with started := true, dashed := true }
  else if x = ':' then
    let alignment :=
      match c.started, c.alignment with
      | false, .none => .left
      | true, .left => .center
      | true, .none => .right
      | _, a => a
    some { c with alignment, started := true }
  else none

/-- The columns of the line of dashes, where `column` is being read. A pipe ends a column, which
must have a dash. -/
def columns? (column : Column) : List Char → Option (List Alignment)
  | [] => some (if column.started then [column.alignment] else [])
  | '|' :: s => if column.dashed then (columns? {} s).map (column.alignment :: ·) else none
  | x :: s => (column.next? x).bind fun c => columns? c s

/-- The alignments that a line of dashes gives; it has a dash and a pipe. -/
def delimiters? (c : Cursor) : Option (List Alignment) :=
  let (indented, c) := c.indentBy 4
  if indented || !c.rest.contains '-' || !c.rest.contains '|' then none
  else columns? {} (match c.rest with | '|' :: s => s | s => s)

/-- The number of pipes that no backslash precedes, and what follows the last of them. -/
def pipes : List Char → Nat × List Char
  | [] => (0, [])
  | '\\' :: _ :: s => pipes s
  | '|' :: s =>
    match pipes s with
    | (0, _) => (1, s)
    | (n + 1, rest) => (n + 2, rest)
  | _ :: s => pipes s

/-- The number of cells in a line that may be the first of a table. The first and the last pipe
may stand at the ends of the line; a line without pipes is one cell. -/
def columnCount (s : List Char) : Nat :=
  match pipes s with
  | (0, _) => if isBlankLine (s.drop 1) then 0 else 1
  | (n + 1, after) =>
    let inner := if (s.dropWhile isLineBlank).head? = some '|' then n else n + 1
    if isBlankLine after then inner else inner + 1

/-- The alignments of the table that the two lines begin, the second given from the cursor on. -/
def begins? (first : List Char) (second : Cursor) : Option (List Alignment) :=
  match delimiters? second with
  | some alignments => if alignments.length = columnCount first then some alignments else none
  | none => none

/-- The line has a pipe, without which it begins no table. -/
def hasPipe (s : List Char) : Bool :=
  (pipes s).1 != 0

/-- The text of a cell, and what follows the pipe or the end that closes it. A pipe after a
backslash belongs to the cell. -/
def cell : List Char → List Char × List Char
  | [] => ([], [])
  | '\\' :: '\\' :: '|' :: s =>
    let (t, rest) := cell s
    ('\\' :: '|' :: t, rest)
  | '\\' :: '|' :: s =>
    let (t, rest) := cell s
    ('|' :: t, rest)
  | '\\' :: c :: s =>
    let (t, rest) := cell s
    ('\\' :: c :: t, rest)
  | '|' :: s => ([], s)
  | c :: s =>
    let (t, rest) := cell s
    (c :: t, rest)

/-- The cells of a line, its first pipe dropped; `fuel` is at least the length of the line. -/
def cellsFor : Nat → List Char → List (List Char)
  | 0, _ => []
  | fuel + 1, s =>
    match s.dropWhile isLineBlank with
    | [] => []
    | s =>
      let (t, rest) := cell s
      (t.reverse.dropWhile isLineBlank).reverse :: cellsFor fuel rest

/-- The cells of a line. -/
def cells (s : List Char) : List (List Char) :=
  cellsFor (s.length + 1) (match s.dropWhile isLineBlank with | '|' :: s => s | s => s)

/-- The row with empty cells added, or cells dropped, so that it has `width` cells. -/
def fit (width : Nat) (row : List (List Char)) : List (List Char) :=
  row.take width ++ List.replicate (width - row.length) []

end Table
end NoteDesk.Markdown
