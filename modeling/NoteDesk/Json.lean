/-!
# JSON

* `Json` is a value as it is read, up to where the text stops being JSON. What is wrong with a text
  is part of the value, at the place where it goes wrong, so that whoever makes sense of the value
  from the front meets what is wrong in the order of the text.
* `Json.Flaw` is what can be wrong with a text.
-/

namespace NoteDesk

/-- How a stored text fails to be what is read from it: it is no JSON, it is JSON of another
shape, or it stops too early. -/
inductive Json.Flaw where
  | malformed
  | mismatch
  | truncated
  deriving DecidableEq, Repr

/-- The wording of the flaw. -/
def Json.Flaw.message : Json.Flaw → String
  | malformed => "malformed text"
  | mismatch => "unexpected value"
  | truncated => "text ended too early"

/-- A JSON value, as far as its text is one. -/
inductive Json where
  | null
  | bool (b : Bool)
  /-- A whole number of 64 bits, with a sign or without. -/
  | integer (n : Int)
  /-- Any other number. -/
  | real
  | text (s : List Char)
  /-- The ending says what is wrong after the last item, if the list is not closed there. -/
  | list (items : List Json) (ending : Option Json.Flaw)
  /-- What stands before a colon need not be a text. -/
  | object (fields : List (Json × Json)) (ending : Option Json.Flaw)
  /-- No value: what is wrong for who reads it, and for who only passes over it, and its first
  character. -/
  | broken (first : Option Char) (reading : Json.Flaw) (passing : Option Json.Flaw)
  deriving Repr, Inhabited

end NoteDesk
