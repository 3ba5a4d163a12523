/-!
# Numbers of listed notes

`Listing.number?` reads the number of a note in a listing: digits, with leading zeros and a plus sign
if one likes, and no number of more than 64 bits.
-/

namespace NoteDesk.Listing

/-- The number that digits stand for. -/
def digits? : Nat → List Char → Option Nat
  | n, [] => some n
  | n, c :: s => if c.isDigit then digits? (10 * n + (c.toNat - 48)) s else none

/-- What a text is as a number. -/
def number? (s : List Char) : Option Nat :=
  let digits := match s with
    | '+' :: rest => rest
    | s => s
  if digits.isEmpty then none else (digits? 0 digits).filter (· < 0x10000000000000000)

end NoteDesk.Listing
