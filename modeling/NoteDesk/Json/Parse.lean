import NoteDesk.Json
import NoteDesk.Markup.Entity
import NoteDesk.Text.Utf8

/-!
# Reading JSON

`Json.value` reads the value that begins a text and gives the rest, unless the text stops being
JSON inside the value.
-/

namespace NoteDesk.Json

/-- A blank between the parts of a value. -/
def isSpace (c : Char) : Bool :=
  c == ' ' || c == '\n' || c == '\t' || c == '\r'

/-- The text from its first character that is no blank. -/
def skipSpace (s : List Char) : List Char :=
  s.dropWhile isSpace

/-- A value, and the rest of the text unless it stops being JSON before the value's end. -/
abbrev Read := Json × Option (List Char)

/-- No value, whoever looks at it. -/
def flawed (first : Option Char) (f : Flaw) : Read :=
  (broken first f (some f), none)

/-! ## Words and numbers -/

/-- Reads the rest of a word that stands for a value. -/
def word (first : Char) (j : Json) : List Char → List Char → Read
  | [], s => (j, some s)
  | _ :: _, [] => flawed (some first) .truncated
  | x :: w, c :: s => if c = x then word first j w s else flawed (some first) .malformed

/-- The number is as large as the numbers that are too large to be rounded to 64 bits:
`digits` times a power of ten, whose exponent is `exponent`. -/
def overflows (digits : Nat) (exponent : Int) : Bool :=
  let length := (Nat.toDigits 10 digits).length
  let least : Nat := (1 <<< 1024) - (1 <<< 970)
  if digits = 0 || exponent + length < 300 then false
  else if exponent + length > 320 then true
  else if 0 ≤ exponent then least ≤ digits * Nat.pow 10 exponent.toNat
  else least * Nat.pow 10 (-exponent).toNat ≤ digits

/-- A number that is not written as a whole number. -/
def realNumber (first : Char) (digits : Nat) (exponent : Int) : Json :=
  if overflows digits exponent then broken (some first) .malformed none else real

/-- A whole number. Minus zero is none, and neither is what needs more than 64 bits. -/
def wholeNumber (first : Char) (negative : Bool) (n : Nat) : Json :=
  if negative then if n = 0 || 0x8000000000000000 < n then realNumber first n 0 else integer (-n)
  else if n < 0x10000000000000000 then integer n
  else realNumber first n 0

/-- The digits that begin the text, and the rest. -/
def digits (s : List Char) : List Char × List Char :=
  (s.takeWhile Char.isDigit, s.dropWhile Char.isDigit)

/-- The number that digits write. -/
def number (s : List Char) : Nat :=
  (Entity.digits? 10 0 s).getD 0

/-- Digits are missing. At the end of the text only who reads the number sees it end early. -/
def noDigits (first : Char) (s : List Char) : Read :=
  if s.isEmpty then (broken (some first) .truncated (some .malformed), none)
  else flawed (some first) .malformed

/-- Reads the exponent of a number, after its letter. -/
def exponent (first : Char) (mantissa : Nat) (scale : Int) (s : List Char) : Read :=
  let (negative, s) :=
    match s with
    | '-' :: s => (true, s)
    | '+' :: s => (false, s)
    | s => (false, s)
  let (ds, rest) := digits s
  if ds.isEmpty then noDigits first s
  else
    let e : Int := if negative then -(number ds : Int) else number ds
    (realNumber first mantissa (e + scale), some rest)

/-- Reads what follows the whole part of a number. -/
def afterWhole (first : Char) (negative : Bool) (whole s : List Char) : Read :=
  match s with
  | '.' :: s =>
    let (ds, rest) := digits s
    if ds.isEmpty then noDigits first s
    else
      let mantissa := number (whole ++ ds)
      let scale : Int := -(ds.length : Int)
      match rest with
      | c :: rest' =>
        if c = 'e' ∨ c = 'E' then exponent first mantissa scale rest'
        else (realNumber first mantissa scale, some rest)
      | [] => (realNumber first mantissa scale, some rest)
  | c :: s' =>
    if c = 'e' ∨ c = 'E' then exponent first (number whole) 0 s'
    else (wholeNumber first negative (number whole), some s)
  | [] => (wholeNumber first negative (number whole), some s)

/-- Reads a number after its sign. A zero at the front stands alone. -/
def numeral (first : Char) (negative : Bool) (s : List Char) : Read :=
  let (ds, rest) := digits s
  match ds with
  | [] => noDigits first s
  | '0' :: _ :: _ => flawed (some first) .malformed
  | ds => afterWhole first negative ds rest

/-! ## Texts -/

/-- A text read after its opening quote: its characters, and the rest after its closing quote. A
text may have no characters and still an end. -/
structure Scan where
  text : Except Flaw (List Char)
  rest : Except Flaw (List Char)

namespace Scan

/-- The text stops being JSON before its closing quote. -/
def stopped (f : Flaw) : Scan :=
  ⟨.error f, .error f⟩

/-- A character before those that were read. -/
def push (c : Char) (s : Scan) : Scan :=
  { s with text := s.text.map (c :: ·) }

/-- The text has no characters, for the given reason. -/
def fail (f : Flaw) (s : Scan) : Scan :=
  { s with text := .error f }

end Scan

/-- The number that four hexadecimal digits write. -/
def unit? (a b c d : Char) : Option Nat :=
  Entity.digits? 16 0 [a, b, c, d]

/-- The character that a letter after a backslash stands for. -/
def escaped? (c : Char) : Option Char :=
  if c = '"' ∨ c = '\\' ∨ c = '/' then some c
  else if c = 'b' then some '\x08'
  else if c = 'f' then some '\x0C'
  else if c = 'n' then some '\n'
  else if c = 'r' then some '\r'
  else if c = 't' then some '\t'
  else none

/-- The first half of a pair of units is followed by `s`: the second half, or what is wrong. -/
def secondHalf (s : List Char) : Except Flaw Nat :=
  match s with
  | [] => .error .truncated
  | ['\\'] => .error .truncated
  | '\\' :: 'u' :: t =>
    match t with
    | a :: b :: c :: d :: _ =>
      match unit? a b c d with
      | some n => if 0xDC00 ≤ n ∧ n ≤ 0xDFFF then .ok n else .error .malformed
      | none => .error .malformed
    | t => .error (if Utf8.size t < 4 then .truncated else .malformed)
  | _ => .error .malformed

/-- Reads a text after its opening quote. -/
def scan (s : List Char) : Scan :=
  match s with
  | [] => .stopped .truncated
  | '"' :: s => ⟨.ok [], .ok s⟩
  | ['\\'] => .stopped .truncated
  | '\\' :: 'u' :: a :: b :: c :: d :: s =>
    match unit? a b c d with
    | none => .stopped .malformed
    | some n =>
      if 0xDC00 ≤ n ∧ n ≤ 0xDFFF then (scan s).fail .malformed
      else if 0xD800 ≤ n ∧ n ≤ 0xDBFF then
        match secondHalf s with
        | .ok m => (scan (s.drop 6)).push (Char.ofNat ((n - 0xD800) * 0x400 + (m - 0xDC00) + 0x10000))
        | .error f => (scan s).fail f
      else (scan s).push (Char.ofNat n)
  | '\\' :: 'u' :: s => .stopped (if Utf8.size s < 4 then .truncated else .malformed)
  | '\\' :: c :: s =>
    match escaped? c with
    | some x => (scan s).push x
    | none => .stopped .malformed
  | c :: s => if c.toNat < 0x20 then .stopped .malformed else (scan s).push c
termination_by s.length

/-- Reads a text after its opening quote, as a value. -/
def quoted (s : List Char) : Read :=
  let r := scan s
  match r.text, r.rest with
  | .ok t, .ok rest => (text t, some rest)
  | .error f, .ok rest => (broken (some '"') f none, some rest)
  | .error f, .error g => (broken (some '"') f (some g), none)
  | .ok _, .error g => flawed (some '"') g

/-! ## Values -/

mutual

/-- Reads a value; `fuel` is more than twice the length of the text. -/
def valueFor : Nat → List Char → Read
  | 0, _ => flawed none .truncated
  | fuel + 1, s =>
    match skipSpace s with
    | [] => flawed none .truncated
    | c :: s =>
      if c = '"' then quoted s
      else if c = '[' then
        match skipSpace s with
        | ']' :: rest => (list [] none, some rest)
        | [] => (list [] (some .truncated), none)
        | s =>
          let (items, ending, rest) := itemsFor fuel s
          (list items ending, rest)
      else if c = '\x7b' then
        match skipSpace s with
        | '\x7d' :: rest => (object [] none, some rest)
        | [] => (object [] (some .truncated), none)
        | s =>
          let (fields, ending, rest) := fieldsFor fuel s
          (object fields ending, rest)
      else if c = '-' then numeral c true s
      else if c.isDigit then numeral c false (c :: s)
      else if c = 'n' then word c null "ull".toList s
      else if c = 't' then word c (bool true) "rue".toList s
      else if c = 'f' then word c (bool false) "alse".toList s
      else flawed (some c) .malformed

/-- Reads the items of a list from one on. -/
def itemsFor : Nat → List Char → List Json × Option Flaw × Option (List Char)
  | 0, _ => ([], some .truncated, none)
  | fuel + 1, s =>
    let (j, rest) := valueFor fuel s
    match rest with
    | none => ([j], none, none)
    | some s =>
      match skipSpace s with
      | ',' :: s =>
        let (items, ending, rest) := itemsFor fuel s
        (j :: items, ending, rest)
      | ']' :: s => ([j], none, some s)
      | [] => ([j], some .truncated, none)
      | _ => ([j], some .malformed, none)

/-- Reads the fields of an object from one on. -/
def fieldsFor : Nat → List Char → List (Json × Json) × Option Flaw × Option (List Char)
  | 0, _ => ([], some .truncated, none)
  | fuel + 1, s =>
    let (key, rest) := valueFor fuel s
    match rest with
    | none => ([(key, key)], none, none)
    | some s =>
      match skipSpace s with
      | [] => ([(key, (flawed none .truncated).1)], none, none)
      | c :: s =>
        if c = ':' then
          let (j, rest) := valueFor fuel s
          match rest with
          | none => ([(key, j)], none, none)
          | some s =>
            match skipSpace s with
            | ',' :: s =>
              let (fields, ending, rest) := fieldsFor fuel s
              ((key, j) :: fields, ending, rest)
            | '\x7d' :: s => ([(key, j)], none, some s)
            | [] => ([(key, j)], some .truncated, none)
            | _ => ([(key, j)], some .malformed, none)
        else ([(key, (flawed (some c) .malformed).1)], none, none)

end

/-- Reads the value that begins a text. -/
def value (s : List Char) : Read :=
  valueFor (2 * s.length + 1) s

end NoteDesk.Json
