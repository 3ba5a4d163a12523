/-!
# Ranges of characters

A property of characters is given by the ranges of numbers that have it, in increasing order.
-/

namespace NoteDesk.Text

/-- Ranges of character numbers, both ends included. -/
abbrev Ranges := List (Nat × Nat)

/-- The number lies in one of the ranges. The search ends at the first range beyond it. -/
def Ranges.hasNumber : Ranges → Nat → Bool
  | [], _ => false
  | (lo, hi) :: rest, n => if n < lo then false else n ≤ hi || Ranges.hasNumber rest n

/-- The character lies in one of the ranges. -/
def Ranges.has (r : Ranges) (c : Char) : Bool :=
  r.hasNumber c.toNat

/-- The character lies in one range, both ends included. -/
def between (lo hi : Nat) (c : Char) : Bool :=
  lo ≤ c.toNat && c.toNat ≤ hi

end NoteDesk.Text
