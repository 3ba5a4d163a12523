import NoteDesk.Text.Lowercase.Table

/-!
# Lower case

* `lowerChar` is the lower case of a character on its own, one character or two.
* `lower` is the lower case of a text: a capital sigma at the end of a word becomes the final
  sigma.
* `fold` makes texts that differ only in case equal.
-/

namespace NoteDesk.Text

namespace Lowercase

/-- The number of the lower case of the character numbered `n`. -/
def shifted : List Shift → Nat → Nat
  | [], n => n
  | s :: rest, n =>
    if n < s.first then n
    else if n ≤ s.last ∧ (n - s.first) % s.step = 0 then (n + s.by_).toNat
    else shifted rest n

end Lowercase

/-- The lower case of a character on its own. -/
def lowerChar (c : Char) : List Char :=
  if c.toNat < 0x80 then [c.toLower]
  else if c.toNat = 0x130 then ['i', '\u0307']
  else [Char.ofNat (Lowercase.shifted Lowercase.shifts c.toNat)]

/-- A letter comes first, characters ignored in matters of case apart. -/
def beginsCased (s : List Char) : Bool :=
  match s.dropWhile Lowercase.ignorable.has with
  | [] => false
  | c :: _ => Lowercase.cased.has c

/-- The lower case of a text, where `before` is what stands before it, last first. -/
def lowerFrom (before : List Char) : List Char → List Char
  | [] => []
  | c :: s =>
    let lowered :=
      if c = 'Σ' then [if beginsCased before && !beginsCased s then 'ς' else 'σ'] else lowerChar c
    lowered ++ lowerFrom (c :: before) s

/-- The lower case of a text. -/
def lower (s : List Char) : List Char :=
  lowerFrom [] s

/-- Equal for texts that differ only in case. -/
def fold (s : List Char) : List Char :=
  s.flatMap fun c => if c = 'ß' ∨ c = 'ẞ' then ['s', 's'] else if c = 'ς' then ['σ'] else lowerChar c

end NoteDesk.Text
