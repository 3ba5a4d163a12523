/-!
# Inline content and emphasis

* `Inline` is a piece of a paragraph.
* `Token` is such a piece, or a run of marks that may turn out to be emphasis.
* `Emphasis.resolve` pairs the runs. A run that may close is paired with the nearest run before it
  that may open, has the same mark and fits (`Emphasis.Opener.fits`); runs between the two stay
  text.
-/

namespace NoteDesk.Markdown

/-- A piece of a paragraph. -/
inductive Inline where
  | text (s : List Char)
  | code (s : List Char)
  | html (s : List Char)
  | softBreak
  | hardBreak
  | emphasis (inside : List Inline)
  | strong (inside : List Inline)
  | strike (inside : List Inline)
  | link (destination title : List Char) (inside : List Inline)
  | image (destination title : List Char) (inside : List Inline)
  deriving Repr

/-- A run of emphasis marks. -/
structure Run where
  mark : Char
  length : Nat
  canOpen : Bool
  canClose : Bool
  deriving DecidableEq, Repr

namespace Run

/-- The run may open emphasis as well as close it. -/
def both (r : Run) : Bool :=
  r.canOpen && r.canClose

/-- `length` marks of the run as text. -/
def literal (r : Run) (length : Nat) : Inline :=
  .text (List.replicate length r.mark)

end Run

/-- A piece of a text, or a run of marks that may turn out to be emphasis. -/
inductive Token where
  | piece (i : Inline)
  | run (r : Run)
  deriving Repr

namespace Emphasis

/-- A run that may open emphasis, how many of its marks are left, and what stands after it, last
piece first. -/
structure Opener where
  run : Run
  left : Nat
  inside : List Inline := []
  deriving Repr

/-- Runs still open, innermost first, and the pieces before them, last first. -/
structure State where
  openers : List Opener := []
  before : List Inline := []
  deriving Repr

/-- The closing run may be paired with the opener. Where one of the two could both open and close,
their lengths must not add up to a multiple of three, unless both are multiples of three; runs of
tildes must be equally long. -/
def Opener.fits (o : Opener) (r : Run) : Bool :=
  o.run.mark == r.mark && (r.mark != '~' || o.run.length == r.length) &&
    ((!r.both && !o.run.both) || (r.length + o.run.length) % 3 != 0 || r.length % 3 == 0)

namespace State

/-- Adds a piece inside the innermost run that is open. -/
def add (s : State) (i : Inline) : State :=
  match s.openers with
  | [] => { s with before := i :: s.before }
  | o :: rest => { s with openers := { o with inside := i :: o.inside } :: rest }

/-- Adds pieces given last first. -/
def addAll (s : State) (pieces : List Inline) : State :=
  match s.openers with
  | [] => { s with before := pieces ++ s.before }
  | o :: rest => { s with openers := { o with inside := pieces ++ o.inside } :: rest }

/-- The innermost opener becomes text. -/
def dropOpener (s : State) : State :=
  match s.openers with
  | [] => s
  | o :: rest => addAll { s with openers := rest } (o.inside ++ [o.run.literal o.left])

/-- The `n` innermost openers become text. -/
def dropOpeners : Nat → State → State
  | 0, s => s
  | n + 1, s => dropOpeners n s.dropOpener

end State

/-- The pieces wrapped by `n` pairs of marks: strong emphasis inside, at most one plain emphasis
around it. -/
def wrap (mark : Char) : Nat → List Inline → Inline
  | 0, inside => .emphasis inside
  | 1, inside => if mark == '~' then .strike inside else .emphasis inside
  | 2, inside => if mark == '~' then .strike inside else .strong inside
  | n + 2, inside => wrap mark n [.strong inside]

/-- Closes openers with the run, `left` of whose marks are unused; gives how many stay unused.
Each pair uses at least one mark, so `fuel` marks are enough. -/
def close (r : Run) : Nat → Nat → State → Nat × State
  | 0, left, s => (left, s)
  | fuel + 1, left, s =>
    if left = 0 then (left, s)
    else
      match s.openers.findIdx? (·.fits r) with
      | none => (left, s)
      | some i =>
        let s := s.dropOpeners i
        match s.openers with
        | [] => (left, s)
        | o :: rest =>
          let used := min left o.left
          let wrapped := wrap r.mark used o.inside.reverse
          let s :=
            if used < o.left then
              { s with openers := { o with left := o.left - used, inside := [wrapped] } :: rest }
            else State.add { s with openers := rest } wrapped
          close r fuel (left - used) s

/-- The state after one more token. -/
def step (s : State) : Token → State
  | .piece i => s.add i
  | .run r =>
    let (left, s) := if r.canClose then close r r.length r.length s else (r.length, s)
    if left = 0 then s
    else if r.canOpen then { s with openers := ⟨r, left, []⟩ :: s.openers }
    else s.add (r.literal left)

/-- The pieces that the tokens make, their runs paired or turned into text. -/
def resolve (tokens : List Token) : List Inline :=
  let s := tokens.foldl step {}
  (s.dropOpeners s.openers.length).before.reverse

end Emphasis
end NoteDesk.Markdown
