import NoteDesk.Text.Ruler
import NoteDesk.Text.Width.Table

/-!
# A ruler by tables

`Width.ruler` is the `Ruler` that is used where no other is given. It follows the rules of Unicode
for the width of characters. What a character adds to the width of a text depends on what follows it
(`Width.Following`), so a text is measured from its end:

* a selector makes the character before it a picture, which takes two columns, or a letter;
* pictures that are joined, and the two halves of a flag, are one picture;
* letters of some scripts join (`Width.Letter`), and marks between them do not keep them from it.

A text is measured step by step (`Width.step`, `Width.measure`).
-/

namespace NoteDesk.Text.Width

/-- The width of a character in the tables. -/
def inTable (c : Char) : Nat :=
  if c.toNat = 0x17D8 then 3
  else if zero.has c then 0
  else if wide.has c then 2
  else 1

/-! ## Kinds of characters -/

/-- The joiner, which makes one picture of two. -/
def isJoiner (c : Char) : Bool :=
  c.toNat == 0x200D

/-- The colour of the skin in the picture before. -/
def isSkinTone (c : Char) : Bool :=
  between 0x1F3FB 0x1F3FF c

/-- A letter or a digit of the code of a region, hidden behind a flag. -/
def isTag (c : Char) : Bool :=
  between 0xE0030 0xE0039 c || between 0xE0061 0xE007A c

/-- An alef that joins with a lam before it. -/
def isAlef (c : Char) : Bool :=
  let n := c.toNat
  n == 0x622 || n == 0x623 || n == 0x625 || n == 0x627 || between 0x671 0x673 c || n == 0x675 ||
    n == 0x773 || n == 0x774 || between 0x870 0x882 c

/-- A lam that joins with an alef after it. -/
def isLam (c : Char) : Bool :=
  let n := c.toNat
  n == 0x644 || between 0x6B5 0x6B8 c || n == 0x76A || n == 0x8A6 || n == 0x8C7

/-- A letter of Tifinagh that takes a joining mark. -/
def isTifinagh (c : Char) : Bool :=
  between 0x2D31 0x2D65 c || c.toNat == 0x2D6F

/-- A letter of Khmer that a sign before it puts below the line. -/
def isKhmerLetter (c : Char) : Bool :=
  between 0x1780 0x1782 c || between 0x1784 0x1787 c || between 0x1789 0x178C c ||
    between 0x178E 0x1793 c || between 0x1795 0x1798 c || between 0x179B 0x179D c ||
    c.toNat == 0x17A0 || c.toNat == 0x17A2 || c.toNat == 0x17A7 || between 0x17AB 0x17AC c ||
    c.toNat == 0x17AF

/-- A character that may be a picture before the selector for pictures. -/
def mayBePicture (c : Char) : Bool :=
  emojiBySelector.has c || emoji.has c

/-- A mark without a width of its own, that does not keep Arabic letters from joining. -/
def isTransparent (c : Char) : Bool :=
  zero.has c && c.toNat != 0x200C && !isJoiner c && !between 0x1160 0x11FF c &&
    !between 0xD7B0 0xD7FF c

/-- A mark that is not drawn, and keeps no letters from joining. -/
def isUndrawnMark (c : Char) : Bool :=
  c.toNat == 0x34F || between 0x17B4 0x17B5 c || between 0x180B 0x180D c || c.toNat == 0x180F ||
    between 0xFE00 0xFE0F c || between 0xE0100 0xE01EF c

/-! ## What follows a character -/

/-- A letter that may join with one before it, or letters that have joined and may join with
another. -/
inductive Letter where
  | alef
  | lamed
  | khmer
  | ya
  /-- The Buginese vowel I, joined to a ya. -/
  | vowelYa
  | tifinagh
  /-- The Tifinagh joining mark before a letter. -/
  | joinedTifinagh
  | lisuTone
  | orkhonI
  | kiratRaiE
  | kiratRaiAi
  deriving DecidableEq, Repr

/-- A character that tells how the one before it is drawn. -/
inductive Selector where
  | emoji
  | text
  deriving DecidableEq, Repr

/-- What stands after a character, as far as it matters for the character's width. -/
inductive Following where
  | other
  | lineFeed
  | selector (x : Selector)
  | picture
  /-- A joiner before a picture. -/
  | joinedPicture
  /-- The selector for pictures before a joiner and a picture. -/
  | joinedSelector
  | skinTone
  /-- One half of a flag. -/
  | flagHalf
  /-- Two halves of flags or more. -/
  | flags
  /-- One half of a flag before a joiner and a picture. -/
  | joinedHalf
  /-- Two halves of flags or more before a joiner and a picture. -/
  | joinedHalves (even : Bool)
  /-- A keycap mark before a joiner and a picture. -/
  | joinedKeycap
  /-- The selector for pictures before a keycap mark, a joiner and a picture. -/
  | joinedKeycapSelector
  /-- So many tags and their end before a joiner and a picture. -/
  | joinedTags (count : Nat)
  /-- A letter. Marks that keep it from nothing may stand before it, a joiner among them if it is
  `joined`, and a selector as the first of them. -/
  | letter (l : Letter) (joined : Bool) (selector : Option Selector)
  deriving DecidableEq, Repr

/-- What a character is to the one before it, if nothing special follows the character. -/
def asFollowing (c : Char) : Following :=
  let n := c.toNat
  let letter (l : Letter) : Following := .letter l false none
  if n ≤ 0xA0 then if c = '\n' then .lineFeed else .other
  else if n = 0xFE0F then .selector .emoji
  else if n = 0xFE0E then .selector .text
  else if isSkinTone c then .skinTone
  else if isFlagHalf c then .flagHalf
  else if isAlef c then letter .alef
  else if n = 0x5DC then letter .lamed
  else if isKhmerLetter c then letter .khmer
  else if n = 0x1A10 then letter .ya
  else if isTifinagh c then letter .tifinagh
  else if n = 0xA4FC ∨ n = 0xA4FD then letter .lisuTone
  else if n = 0x10C03 then letter .orkhonI
  else if n = 0x16D67 then letter .kiratRaiE
  else if n = 0x16D68 then letter .kiratRaiAi
  else if emoji.has c then .picture
  else .other

/-! ## Joining -/

/-- What a character adds to the width if it joins with the letter after it, and the letter that the
two are to others, if any. -/
def Letter.join? (l : Letter) (joined : Bool) (c : Char) : Option (Int × Option Letter) :=
  let n := c.toNat
  match l with
  | .alef => if isLam c then some (0, none) else none
  | .lamed => if joined ∧ n = 0x5D0 then some (0, none) else none
  | .khmer => if n = 0x17D2 then some (-1, none) else none
  | .ya => if joined ∧ n = 0x1A17 then some (0, some .vowelYa) else none
  | .vowelYa => if n = 0x1A15 then some (0, none) else none
  | .tifinagh =>
    if n = 0x2D7F then some (1, some .joinedTifinagh)
    else if joined ∧ isTifinagh c then some (0, none)
    else none
  | .joinedTifinagh => if isTifinagh c then some (-1, none) else none
  | .lisuTone => if between 0xA4F8 0xA4FB c then some (0, none) else none
  | .orkhonI => if joined ∧ n = 0x10C32 then some (0, none) else none
  | .kiratRaiE =>
    if n = 0x16D63 ∨ n = 0x16D69 then some (0, none)
    else if n = 0x16D67 then some (0, some .kiratRaiAi)
    else none
  | .kiratRaiAi => if n = 0x16D63 then some (0, none) else none

/-- What a character adds to the width before a letter, and what the two are to the character
before; none if they have nothing to do with each other. -/
def beforeLetter? (l : Letter) (joined : Bool) (c : Char) : Option (Int × Following) :=
  match l.join? joined c with
  | some (w, some l) => some (w, .letter l false none)
  | some (w, none) => some (w, .other)
  | none =>
    if c.toNat = 0xFE0F then some (0, .letter l joined (some .emoji))
    else if c.toNat = 0xFE0E then some (0, .letter l joined (some .text))
    else if isJoiner c ∧ l ≠ .alef then some (0, .letter l true none)
    else if isUndrawnMark c ∨ (l = .alef ∧ isTransparent c) then some (0, .letter l joined none)
    else none

/-- What a character adds to the width before its selector, and what the two are to the character
before; none if the selector is not for it. -/
def selected? (x : Selector) (c : Char) : Option (Int × Following) :=
  match x with
  | .emoji => if mayBePicture c then some (2, .picture) else none
  | .text => if textBySelector.has c then some (1, .other) else none

/-- What a character adds to the width before something special, and what the two are to the
character before; none if it adds what it adds on its own. -/
def special? (c : Char) (f : Following) : Option (Int × Following) :=
  let n := c.toNat
  match f with
  | .other => none
  | .lineFeed => if c = '\r' then some (0, .other) else none
  | .selector x => selected? x c
  | .picture => if isJoiner c then some (0, .joinedPicture) else none
  | .joinedPicture =>
    if n = 0xFE0F then some (0, .joinedSelector)
    else if isSkinTone c then some (0, .skinTone)
    else if isFlagHalf c then some (1, .joinedHalf)
    else if n = 0x20E3 then some (0, .joinedKeycap)
    else if n = 0xE007F then some (0, .joinedTags 0)
    else if emoji.has c then some (0, .picture)
    else none
  | .joinedSelector => if mayBePicture c then some (0, .picture) else none
  | .skinTone =>
    if modified.has c then some (0, .picture)
    else if isJoiner c then some (0, .joinedPicture)
    else none
  | .flagHalf => if isFlagHalf c then some (1, .flags) else none
  | .flags =>
    if isFlagHalf c then some (1, .flags)
    else if isJoiner c then some (0, .joinedPicture)
    else none
  | .joinedHalf => if isFlagHalf c then some (-1, .joinedHalves true) else none
  | .joinedHalves even =>
    if isFlagHalf c then some (if even then 3 else -1, .joinedHalves !even)
    else if isJoiner c then some (0, .joinedPicture)
    else none
  | .joinedKeycap => if n = 0xFE0F then some (0, .joinedKeycapSelector) else none
  | .joinedKeycapSelector =>
    if c.isDigit || c = '#' || c = '*' then some (0, .picture) else none
  | .joinedTags count =>
    if isTag c ∧ count < 6 then some (0, .joinedTags (count + 1))
    else if n = 0x1F3F4 ∧ 3 ≤ count then some (0, .picture)
    else none
  | .letter l joined selector => (selector.bind (selected? · c)).or (beforeLetter? l joined c)

/-! ## Measuring -/

/-- The width of a character on its own; one column if it is a control character. -/
def plainWidth (c : Char) : Nat :=
  if c.toNat ≤ 0xA0 then 1 else inTable c

/-- What a character adds to the width, and what it is to the character before. -/
def step (c : Char) (f : Following) : Int × Following :=
  (special? c f).getD (plainWidth c, asFollowing c)

/-- The width of a text and what its beginning is to a character before it. -/
def measure : List Char → Int × Following
  | [] => (0, .other)
  | c :: s =>
    let (sum, f) := measure s
    let (w, f) := step c f
    (sum + w, f)

/-- The ruler by the tables. -/
instance ruler : Ruler where
  char c := if isControl c then none else some (plainWidth c)
  text s := (measure s).1.toNat

end NoteDesk.Text.Width
