/-!
# Bytes and characters

Files and input streams hold bytes; notes hold text.

* `encode` writes each character in one to four bytes.
* `decode?` reads them back and refuses anything `encode` does not write: a stray or missing
  continuation byte, a longer form than needed, a surrogate, a number beyond the last character.
-/

namespace NoteDesk

/-- The content of a file. -/
abbrev Bytes := List UInt8

namespace Utf8

/-- The bytes of a text. -/
def encode (s : List Char) : Bytes :=
  s.flatMap String.utf8EncodeChar

/-- How many bytes the text takes. -/
def size : List Char → Nat
  | [] => 0
  | c :: s => c.utf8Size + size s

/-- The payload of a continuation byte. -/
def payload? (b : UInt8) : Option Nat :=
  if 0x80 ≤ b ∧ b < 0xC0 then some (b.toNat - 0x80) else none

/-- The character numbered `n`, if there is one and it needs a form as long as the one used,
whose smallest number is `least`. -/
def scalar? (least n : Nat) : Option Char :=
  if h : least ≤ n ∧ n.isValidChar then some (Char.ofNatAux n h.2) else none

/-- The character in a form of two bytes. -/
def two? (a b : UInt8) : Option Char := do
  scalar? 0x80 ((a.toNat - 0xC0) * 0x40 + (← payload? b))

/-- The character in a form of three bytes. -/
def three? (a b c : UInt8) : Option Char := do
  scalar? 0x800 (((a.toNat - 0xE0) * 0x40 + (← payload? b)) * 0x40 + (← payload? c))

/-- The character in a form of four bytes. -/
def four? (a b c d : UInt8) : Option Char := do
  scalar? 0x10000
    ((((a.toNat - 0xF0) * 0x40 + (← payload? b)) * 0x40 + (← payload? c)) * 0x40 + (← payload? d))

/-- The text that the bytes encode, if they encode one. -/
def decode? : Bytes → Option (List Char)
  | [] => some []
  | a :: s =>
    if a < 0x80 then do
      let x ← scalar? 0 a.toNat
      return x :: (← decode? s)
    else if a < 0xC0 then none
    else if a < 0xE0 then
      match s with
      | b :: s => do
        let x ← two? a b
        return x :: (← decode? s)
      | _ => none
    else if a < 0xF0 then
      match s with
      | b :: c :: s => do
        let x ← three? a b c
        return x :: (← decode? s)
      | _ => none
    else
      match s with
      | b :: c :: d :: s => do
        let x ← four? a b c d
        return x :: (← decode? s)
      | _ => none

/-- The bytes of a string. -/
def ofString (s : String) : Bytes :=
  encode s.toList

/-- The string that the bytes encode, if they encode one. -/
def toString? (b : Bytes) : Option String :=
  (decode? b).map String.ofList

theorem encode_append (s t : List Char) : encode (s ++ t) = encode s ++ encode t :=
  List.flatMap_append

end Utf8
end NoteDesk
