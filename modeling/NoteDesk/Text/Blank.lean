/-!
# Blank characters

* `isBlank` is the `White_Space` property.
* `trim` drops blanks at both ends of a text, `strip` whatever satisfies a given property.
* `words` are the pieces of a text between blanks.
-/

namespace NoteDesk.Text

/-- The character counts as white space. -/
def isBlank (c : Char) : Bool :=
  let n := c.toNat
  (9 ≤ n && n ≤ 13) || n == 0x20 || n == 0x85 || n == 0xA0 || n == 0x1680 ||
    (0x2000 ≤ n && n ≤ 0x200A) || n == 0x2028 || n == 0x2029 || n == 0x202F || n == 0x205F ||
    n == 0x3000

/-- The list without its longest ending all of whose elements satisfy `p`. -/
def dropEndWhile {α : Type} (p : α → Bool) (s : List α) : List α :=
  (s.reverse.dropWhile p).reverse

/-- The list without its longest beginning and ending all of whose elements satisfy `p`. -/
def strip {α : Type} (p : α → Bool) (s : List α) : List α :=
  dropEndWhile p (s.dropWhile p)

/-- The text without the blanks around it. -/
def trim (s : List Char) : List Char :=
  strip isBlank s

/-- The text holds nothing but blanks. -/
def allBlank (s : List Char) : Bool :=
  s.all isBlank

/-- `String` form of `trim`. -/
def trimmed (s : String) : String :=
  String.ofList (trim s.toList)

/-- The pieces of a text between blanks. -/
def words (s : List Char) : List (List Char) :=
  (s.splitOnP isBlank).filter (!·.isEmpty)

end NoteDesk.Text
