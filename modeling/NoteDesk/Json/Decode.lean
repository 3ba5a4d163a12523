import NoteDesk.Json.Parse

/-!
# Making sense of JSON

A `Decoder` makes something of a value, or says what is wrong first.

* `Json.asText`, `Json.asBool`, `Json.asInteger`, `Json.asOption` and `Json.asList` decode plain
  values.
* `Json.Shape` describes a record, and `Json.asRecord` decodes it from an object or from a list of
  its fields in order. Unknown fields are passed over, a field given twice is refused.
* `Json.decode` decodes a whole text.
-/

namespace NoteDesk.Json

/-- Makes something of a value. -/
abbrev Decoder (α : Type) := Json → Except Flaw α

/-- The value is not of the expected kind. -/
def unexpected : Json → Flaw
  | broken _ reading _ => reading
  | _ => .mismatch

/-- Nothing is wrong after the last part of a list or an object. -/
def closed : Option Flaw → Except Flaw Unit
  | none => .ok ()
  | some f => .error f

mutual

/-- Passes over a value; what it holds need not make sense. -/
def pass : Json → Except Flaw Unit
  | broken _ _ passing => closed passing
  | list items ending => do
    passItems items
    closed ending
  | object fields ending => do
    passFields fields
    closed ending
  | _ => .ok ()

/-- Passes over the items of a list. -/
def passItems : List Json → Except Flaw Unit
  | [] => .ok ()
  | j :: rest => do
    pass j
    passItems rest

/-- Passes over the fields of an object. Their names have to be texts. -/
def passFields : List (Json × Json) → Except Flaw Unit
  | [] => .ok ()
  | (key, j) :: rest => do
    match key with
    | text _ => .ok ()
    | broken (some '"') _ passing => closed passing
    | broken none _ _ => .error .truncated
    | _ => .error .malformed
    pass j
    passFields rest

end

/-- A text. -/
def asText : Decoder String
  | text s => .ok (String.ofList s)
  | j => .error (unexpected j)

/-- True or false. -/
def asBool : Decoder Bool
  | bool b => .ok b
  | j => .error (unexpected j)

/-- A whole number within bounds. -/
def asInteger (least greatest : Int) : Decoder Int
  | integer n => if least ≤ n ∧ n ≤ greatest then .ok n else .error .mismatch
  | j => .error (unexpected j)

/-- Null, or a value. -/
def asOption {α : Type} (d : Decoder α) : Decoder (Option α)
  | null => .ok none
  | broken (some 'n') reading _ => .error reading
  | j => (d j).map some

/-- A list, read item by item; what is wrong after the last of them comes last. -/
def asList {α : Type} (d : Decoder α) : Decoder (List α)
  | list items ending => do
    let xs ← items.mapM d
    closed ending
    return xs
  | j => .error (unexpected j)

/-! ## Records -/

/-- How a record of type `α` is decoded field by field, the fields read so far being a `β`. -/
structure Shape (α β : Type) where
  /-- The fields in order; those after the first that is marked may be missing from a list. -/
  names : List (String × Bool)
  none : β
  /-- The field was given already. -/
  given : String → β → Bool
  /-- Decodes a field. -/
  set : String → Json → β → Except Flaw β
  /-- The record, if no field is missing that has to be given. -/
  finish : β → Except Flaw α

/-- Decodes the fields of an object. -/
def readFields {α β : Type} (shape : Shape α β) (read : β) : List (Json × Json) → Except Flaw β
  | [] => .ok read
  | (key, j) :: rest =>
    match key with
    | text s =>
      let name := String.ofList s
      if shape.names.any (·.1 == name) then
        if shape.given name read then .error .mismatch
        else do readFields shape (← shape.set name j read) rest
      else do
        pass j
        readFields shape read rest
    | broken (some '"') reading _ => .error reading
    | broken none reading _ => .error reading
    | _ => .error .malformed

/-- Decodes the fields given as a list, in the order of their names. -/
def readItems {α β : Type} (shape : Shape α β) (ending : Option Flaw) (read : β) :
    List (String × Bool) → List Json → Except Flaw β
  | [], [] => do
    closed ending
    return read
  | [], _ :: _ => .error .malformed
  | (name, _) :: names, j :: items => do
    readItems shape ending (← shape.set name j read) names items
  | (_, optional) :: names, [] =>
    match ending with
    | some f => .error f
    | none => if optional then readItems shape ending read names [] else .error .mismatch

/-- Decodes a record. -/
def asRecord {α β : Type} (shape : Shape α β) : Decoder α
  | object fields ending => do
    let read ← readFields shape shape.none fields
    closed ending
    shape.finish read
  | list items ending => do
    shape.finish (← readItems shape ending shape.none shape.names items)
  | j => .error (unexpected j)

/-- Decodes a text that holds a value and nothing else. -/
def decode {α : Type} (d : Decoder α) (s : List Char) : Except Flaw α :=
  let (j, rest) := value s
  match d j, rest with
  | .error f, _ => .error f
  | .ok _, none => .error .malformed
  | .ok x, some rest => if (skipSpace rest).isEmpty then .ok x else .error .malformed

end NoteDesk.Json
