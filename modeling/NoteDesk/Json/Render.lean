import NoteDesk.Json

/-!
# Writing JSON

`Json.render` writes a value on indented lines, two spaces a level, an empty list or object as a
pair of brackets.
-/

namespace NoteDesk.Json

/-- A digit below sixteen. -/
def hexDigit (n : Nat) : Char :=
  Nat.digitChar n

/-- A character within quotes. -/
def escapeChar (c : Char) : List Char :=
  if c = '"' then ['\\', '"']
  else if c = '\\' then ['\\', '\\']
  else if c = '\n' then ['\\', 'n']
  else if c = '\r' then ['\\', 'r']
  else if c = '\t' then ['\\', 't']
  else if c = '\x08' then ['\\', 'b']
  else if c = '\x0C' then ['\\', 'f']
  else if c.toNat < 0x20 then
    ['\\', 'u', '0', '0', hexDigit (c.toNat / 16), hexDigit (c.toNat % 16)]
  else [c]

/-- A text in quotes. -/
def quote (s : List Char) : List Char :=
  '"' :: s.flatMap escapeChar ++ ['"']

/-- The beginning of a line. -/
def newLine (level : Nat) : List Char :=
  '\n' :: List.replicate (2 * level) ' '

mutual

/-- A value on a line of the given level. A broken value has no text. -/
def renderAt (level : Nat) : Json → List Char
  | null => "null".toList
  | bool b => (if b then "true" else "false").toList
  | integer n => (toString n).toList
  | real => []
  | text s => quote s
  | list [] _ => ['[', ']']
  | list (x :: rest) _ =>
    '[' :: newLine (level + 1) ++ renderAt (level + 1) x ++ renderItems (level + 1) rest ++
      newLine level ++ [']']
  | object [] _ => ['\x7b', '\x7d']
  | object ((k, v) :: rest) _ =>
    '\x7b' :: newLine (level + 1) ++ renderAt (level + 1) k ++ ':' :: ' ' ::
      renderAt (level + 1) v ++ renderFields (level + 1) rest ++ newLine level ++ ['\x7d']
  | broken .. => []

/-- Items after the first. -/
def renderItems (level : Nat) : List Json → List Char
  | [] => []
  | x :: rest => ',' :: newLine level ++ renderAt level x ++ renderItems level rest

/-- Fields after the first. -/
def renderFields (level : Nat) : List (Json × Json) → List Char
  | [] => []
  | (k, v) :: rest =>
    ',' :: newLine level ++ renderAt level k ++ ':' :: ' ' :: renderAt level v ++
      renderFields level rest

end

/-- The value as text. -/
def render (j : Json) : List Char :=
  renderAt 0 j

end NoteDesk.Json
