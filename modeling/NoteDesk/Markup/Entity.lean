import NoteDesk.Text.Search

/-!
# Character references in markup

`Entity.decodeAll` replaces the references it knows, `&amp;`, `&lt;`, `&gt;`, `&quot;`, `&apos;`,
`&nbsp;` (an ordinary space) and numeric ones, and keeps every other `&` as it is. What a
reference stands for is not decoded again.
-/

namespace NoteDesk.Entity

/-- The value of a digit in bases up to sixteen. -/
def digit? (base : Nat) (c : Char) : Option Nat :=
  let n := c.toNat
  let value :=
    if 0x30 ≤ n ∧ n ≤ 0x39 then some (n - 0x30)
    else if 0x41 ≤ n ∧ n ≤ 0x46 then some (n - 0x37)
    else if 0x61 ≤ n ∧ n ≤ 0x66 then some (n - 0x57)
    else none
  value.filter (· < base)

/-- The number that the digits write, continuing from `n`. -/
def digits? (base : Nat) (n : Nat) : List Char → Option Nat
  | [] => some n
  | c :: s => (digit? base c).bind fun d => digits? base (n * base + d) s

/-- The number written in the given base, at least one digit, a plus sign before it allowed. -/
def number? (base : Nat) (s : List Char) : Option Nat :=
  let s := if s.head? = some '+' then s.tail else s
  if s.isEmpty then none else digits? base 0 s

/-- The character numbered `n`. -/
def scalar? (n : Nat) : Option Char :=
  if h : n.isValidChar then some (Char.ofNatAux n h) else none

/-- The character that the text between `&` and `;` stands for. -/
def decode? (name : List Char) : Option Char :=
  if name = "amp".toList then some '&'
  else if name = "lt".toList then some '<'
  else if name = "gt".toList then some '>'
  else if name = "quot".toList then some '"'
  else if name = "apos".toList then some '\''
  else if name = "nbsp".toList then some ' '
  else
    match name with
    | '#' :: 'x' :: s => (number? 16 s).bind scalar?
    | '#' :: 'X' :: s => (number? 16 s).bind scalar?
    | '#' :: s => (number? 10 s).bind scalar?
    | _ => none

/-- The longest name of a reference. -/
def maxName : Nat := 9

/-- The character of the reference whose text, after its `&`, begins `s`, and the length of its
name. -/
def at? (s : List Char) : Option (Char × Nat) := do
  let (name, _) ← Text.breakAtChar ';' s
  if name.length ≤ maxName then
    return (← decode? name, name.length)
  else none

/-- Decodes references, where `skip` characters still belong to the last one. -/
def decodeFrom : Nat → List Char → List Char
  | _, [] => []
  | skip + 1, _ :: s => decodeFrom skip s
  | 0, c :: s =>
    if c = '&' then
      match at? s with
      | some (x, length) => x :: decodeFrom (length + 1) s
      | none => c :: decodeFrom 0 s
    else c :: decodeFrom 0 s

/-- The text with every known reference replaced by its character. -/
def decodeAll (s : List Char) : List Char :=
  decodeFrom 0 s

end NoteDesk.Entity
