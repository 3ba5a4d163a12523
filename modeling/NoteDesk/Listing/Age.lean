/-!
# Ages in words

`Age.words` tells how long ago a note was updated, in the largest unit that fits.
-/

namespace NoteDesk.Age

/-- Units of time and their lengths in seconds, longest first. -/
def units : List (String × Nat) :=
  [("year", 31536036), ("month", 2628003), ("week", 604800), ("day", 86400), ("hour", 3600),
    ("minute", 60), ("second", 1)]

/-- The age in words, given in seconds. -/
def ofSeconds (s : Nat) : String :=
  match units.find? fun u => u.2 ≤ s with
  | none => "now"
  | some (name, size) =>
    let n := s / size
    toString n ++ " " ++ name ++ (if n = 1 then "" else "s") ++ " ago"

/-- Milliseconds since the epoch that are a time in the calendar. -/
def isTime (ms : Int) : Bool :=
  -8334601228800000 ≤ ms && ms ≤ 8210266876799999

/-- The time since `updated`, both in milliseconds since the epoch. A note that was never updated
has no age; one updated in the future is new. -/
def words (updated now : Int) : String :=
  if updated = 0 || !isTime updated then "" else ofSeconds ((now - updated).toNat / 1000)

end NoteDesk.Age
