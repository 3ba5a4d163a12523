import NoteDesk.Text.Quoted.Table

/-!
# Quoted text

`Text.quoted` shows a text in double quotes, on one line and without characters that do not show:
a name given in a message can be told from any other.
-/

namespace NoteDesk.Text

namespace Quoted

/-- A character by its number. -/
def numbered (c : Char) : List Char :=
  "\\u\x7b".toList ++ Nat.toDigits 16 c.toNat ++ ['\x7d']

/-- A character within double quotes. -/
def char (c : Char) : List Char :=
  if c = '\x00' then ['\\', '0']
  else if c = '\t' then ['\\', 't']
  else if c = '\r' then ['\\', 'r']
  else if c = '\n' then ['\\', 'n']
  else if c = '"' ∨ c = '\\' then ['\\', c]
  else if hidden.has c then numbered c
  else [c]

end Quoted

/-- The text in double quotes. -/
def quoted (s : List Char) : List Char :=
  '"' :: s.flatMap Quoted.char ++ ['"']

end NoteDesk.Text
