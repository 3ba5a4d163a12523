import NoteDesk.Text.Range

/-!
# Rulers

How wide a text is when it is displayed depends on which characters are marks on others, which join
with those beside them, and which are drawn as pictures. A `Ruler` knows this. A text need not be as
wide as its characters are together (`charWidth`, `width`).
-/

namespace NoteDesk.Text

/-- A control character. -/
def isControl (c : Char) : Bool :=
  c.toNat < 0x20 || between 0x7F 0x9F c

/-- One half of a flag: a letter of the code of a country. -/
def isFlagHalf (c : Char) : Bool :=
  between 0x1F1E6 0x1F1FF c

/-- Tells how many columns characters and texts take when they are displayed. -/
class Ruler where
  /-- The columns of a character on its own. A control character has none. -/
  char : Char → Option Nat
  /-- The columns of a text. -/
  text : List Char → Nat

variable [Ruler]

/-- The columns that a character takes on its own; control characters take none. -/
def charWidth (c : Char) : Nat :=
  (Ruler.char c).getD 0

/-- The columns that a text takes. -/
def width (s : List Char) : Nat :=
  Ruler.text s

end NoteDesk.Text
