import NoteDesk.Text.Utf8

/-!
# Lines

A line ends at a line feed. One carriage return directly before the line feed belongs to the
line's end; a last line without a line feed keeps it. Bytes are decoded line by line, so a line
that is no text spoils only itself.

* `Line.ofText` and `Line.ofBytes` are the lines of a text and of a file's content.
* `Line.trimReturn` drops one more carriage return, which every reader of a document does.
-/

namespace NoteDesk

/-- A line of a document; `none` is a line whose bytes are no text. -/
abbrev Line := Option (List Char)

namespace Line

section Cutting
variable {α : Type} [BEq α]

/-- The list without one last element equal to `x`. -/
def dropOneEnd (x : α) (s : List α) : List α :=
  if s.getLast? == some x then s.dropLast else s

/-- The lines among the pieces between line feeds: all but the last piece were ended by one, and
the last is a line only if it holds something. -/
def ended (ret : α) : List (List α) → List (List α)
  | [] => []
  | [last] => if last.isEmpty then [] else [last]
  | piece :: rest => dropOneEnd ret piece :: ended ret rest

/-- The lines of `s`, where `feed` ends a line and `ret` may stand before it. -/
def cut (feed ret : α) (s : List α) : List (List α) :=
  ended ret (s.splitOn feed)

end Cutting

/-- The lines of a text. -/
def ofText (s : List Char) : List Line :=
  (cut '\n' '\r' s).map some

/-- The lines of a file's content. -/
def ofBytes (b : Bytes) : List Line :=
  (cut 10 13 b).map Utf8.decode?

/-- The line without one carriage return at its end. -/
def trimReturn (s : List Char) : List Char :=
  dropOneEnd '\r' s

end Line
end NoteDesk
