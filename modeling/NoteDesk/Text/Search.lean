/-!
# Finding text in text

* `breakAt` and `breakAtLast` split a text around the first and the last occurrence of another.
* `replaceAll` replaces occurrences from the left, none overlapping another.
-/

namespace NoteDesk.Text

/-- What stands before and after the first occurrence of `needle`. -/
def breakAt (needle : List Char) : List Char → Option (List Char × List Char)
  | [] => if needle.isEmpty then some ([], []) else none
  | c :: s =>
    match needle.isPrefixOf? (c :: s) with
    | some rest => some ([], rest)
    | none => (breakAt needle s).map fun (before, after) => (c :: before, after)

/-- What stands before and after the last occurrence of `needle`. -/
def breakAtLast (needle s : List Char) : Option (List Char × List Char) :=
  (breakAt needle.reverse s.reverse).map fun (after, before) => (before.reverse, after.reverse)

/-- The text has `needle` in it. -/
def hasInside (needle s : List Char) : Bool :=
  (breakAt needle s).isSome

/-- The text up to the first `c`, and what follows that `c`. -/
def breakAtChar (c : Char) (s : List Char) : Option (List Char × List Char) :=
  match s.dropWhile (· != c) with
  | [] => none
  | _ :: rest => some (s.takeWhile (· != c), rest)

/-- Every occurrence of `needle` replaced, where `skip` characters are still part of the last
occurrence found. -/
def replaceFrom (needle by_ : List Char) : Nat → List Char → List Char
  | _, [] => []
  | skip + 1, _ :: s => replaceFrom needle by_ skip s
  | 0, c :: s =>
    if needle.isPrefixOf (c :: s) then by_ ++ replaceFrom needle by_ (needle.length - 1) s
    else c :: replaceFrom needle by_ 0 s

/-- Every occurrence of `needle` replaced by `by_`. An empty `needle` occurs before every
character and at the end. -/
def replaceAll (needle by_ s : List Char) : List Char :=
  if needle.isEmpty then by_ ++ s.flatMap fun c => c :: by_ else replaceFrom needle by_ 0 s

end NoteDesk.Text
