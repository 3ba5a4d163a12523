import NoteDesk.Markdown.Emphasis
import NoteDesk.Markdown.Link
import NoteDesk.Markdown.RawHtml

/-!
# The content of a paragraph

`Inline.parse` reads the text of a paragraph, a heading or a cell. The text is read once from the
left into tokens; brackets are kept open until they turn out to be a link, an image or text, and
runs of emphasis marks are paired afterwards, inside each link apart from outside.
-/

namespace NoteDesk.Markdown

/-- The run of `length` marks between two characters, none at the ends of the text. -/
def Run.between (mark : Char) (length : Nat) (previous next : Option Char) : Run :=
  let canOpen :=
    match next, previous with
    | none, _ => false
    | some n, none => !Text.isBlank n
    | some n, some p =>
      !Text.isBlank n && ((mark == '*' && !Text.isPunctuation n) || (mark == '~' && 1 < length) ||
        (mark == '~' && p == '~' && !Text.isPunctuation n) || Text.isBlank p ||
        Text.isPunctuation p)
  let canClose :=
    match previous, next with
    | none, _ => false
    | some p, none => !Text.isBlank p
    | some p, some n =>
      !Text.isBlank p &&
        (((mark == '*' || (mark == '~' && 1 < length)) && !Text.isPunctuation p) ||
          (mark == '~' && p == '~') || Text.isBlank n || Text.isPunctuation n)
  ⟨mark, length, canOpen, canClose⟩

/-- What stands before the next run of exactly `n` backquotes, and the rest. -/
def codeBefore? (n : Nat) : Nat → List Char → Option (List Char × List Char)
  | 0, _ => none
  | _ + 1, [] => none
  | fuel + 1, c :: s =>
    if c = '`' then
      let k := runLength '`' (c :: s)
      let rest := (c :: s).drop k
      if k = n then some ([], rest)
      else (codeBefore? n fuel rest).map fun (t, rest) => (List.replicate k '`' ++ t, rest)
    else (codeBefore? n fuel s).map fun (t, rest) => (c :: t, rest)

/-- The content of a code span: line feeds are spaces, and one space is dropped at each end if
both have one and the span holds something else. -/
def codeContent (s : List Char) : List Char :=
  let s := s.map fun c => if c = '\n' then ' ' else c
  if s.head? = some ' ' && s.getLast? = some ' ' && !s.all (· == ' ') then s.tail.dropLast else s

namespace Inline

/-- The deepest nesting of parentheses in the destination of a link. -/
def maxParentheses : Nat := 5

/-- The destination and title after a link's closing bracket, and the rest. -/
def target? (s : List Char) : Option (List Char × List Char × List Char) := do
  let '(' :: s := s | none
  let (written, s) ← destination? maxParentheses (Definition.gap s).2
  let s := (Definition.gap s).2
  let (title, s) :=
    match title? s with
    | some (title, rest) => (title, (Definition.gap rest).2)
    | none => ([], s)
  let ')' :: rest := s | none
  return (unescape written, title, rest)

/-- An opening bracket. -/
structure Bracket where
  isImage : Bool
  /-- Not inside a link's text, where no other link may be. -/
  live : Bool := true
  /-- The text after the bracket. -/
  source : List Char
  /-- Tokens before the bracket, last first. -/
  before : List Token

namespace Bracket

/-- The bracket as text. -/
def literal (b : Bracket) : Token :=
  .piece (.text (if b.isImage then ['!', '['] else ['[']))

/-- What the bracket links to, if its closing bracket is followed by `after`, and the rest: a
destination in parentheses, a label in brackets, or its own text as a label. -/
def link? (definitions : List Definition) (b : Bracket) (after : List Char) :
    Option (List Char × List Char × List Char) :=
  match target? after with
  | some found => some found
  | none =>
    let own (rest : List Char) : Option (List Char × List Char × List Char) := do
      let (key, end_) ← label? b.source
      if end_.length = after.length then
        let d ← Definition.find? definitions key
        return (d.destination, d.title, rest)
      else none
    match after with
    | '[' :: ']' :: rest => own rest
    | '[' :: s =>
      match label? s with
      | some (key, rest) =>
        (Definition.find? definitions key).map fun d => (d.destination, d.title, rest)
      | none => own after
    | _ => own after

end Bracket

/-- Tokens of the innermost open bracket, last first, and the open brackets. -/
structure Reading where
  tokens : List Token := []
  brackets : List Bracket := []

namespace Reading

/-- Adds a piece to the innermost bracket. -/
def add (r : Reading) (i : Inline) : Reading :=
  { r with tokens := .piece i :: r.tokens }

/-- Adds text. -/
def addText (r : Reading) (s : List Char) : Reading :=
  r.add (.text s)

/-- Adds a run of marks. One that can neither open nor close emphasis is text, and so are more than
two tildes. -/
def addRun (r : Reading) (run : Run) : Reading :=
  if (run.canOpen || run.canClose) && (run.mark != '~' || run.length ≤ 2) then
    { r with tokens := .run run :: r.tokens }
  else r.add (run.literal run.length)

/-- Opens a bracket, before which the tokens so far stand. -/
def openBracket (r : Reading) (isImage : Bool) (source : List Char) : Reading :=
  { tokens := []
    brackets := { isImage, source, before := r.tokens } :: r.brackets }

/-- The tokens with a bracket that turned out to be text. -/
def flatten (tokens : List Token) (b : Bracket) : List Token :=
  tokens ++ b.literal :: b.before

/-- Closes a bracket before `after`; gives what is left to read. -/
def closeBracket (definitions : List Definition) (r : Reading) (after : List Char) :
    Reading × List Char :=
  match r.brackets with
  | [] => (r.addText [']'], after)
  | b :: brackets =>
    match if b.live then b.link? definitions after else none with
    | some (destination, title, rest) =>
      let inside := Emphasis.resolve r.tokens.reverse
      if b.isImage then
        ({ tokens := .piece (.image destination title inside) :: b.before, brackets }, rest)
      else
        ({ tokens := .piece (.link destination title inside) :: b.before
           brackets := brackets.map fun o => if o.isImage then o else { o with live := false } },
          rest)
    | none =>
      (Reading.addText { tokens := flatten r.tokens b, brackets } [']'], after)

/-- All tokens in order; brackets still open are text. -/
def finish (r : Reading) : List Token :=
  (r.brackets.foldl flatten r.tokens).reverse

end Reading

/-- The link that an address between angle brackets makes. -/
def ofAutolink (a : Autolink) : Inline :=
  .link (if a.isMail then "mailto:".toList ++ a.address else a.address) [] [.text a.address]

/-- Blanks at the beginning of a continued line do not count. -/
def dropIndent (s : List Char) : List Char :=
  s.dropWhile fun c => c == ' ' || c == '\t'

/-- Reads on after `previous`, where `fuel` is at least the length of what is left. -/
def read (definitions : List Definition) : Nat → Option Char → Reading → List Char → Reading
  | 0, _, r, _ => r
  | _ + 1, _, r, [] => r
  | fuel + 1, previous, r, c :: s =>
    let next := read definitions fuel
    let plain := next (some c) (r.addText [c]) s
    match c with
    | '\n' => next (some c) (r.add .softBreak) (dropIndent s)
    | '\\' =>
      match s with
      | d :: rest =>
        if d = '\n' then next (some d) (r.add .hardBreak) (dropIndent rest)
        else if Text.isAsciiPunctuation d then next (some d) (r.addText [d]) rest
        else plain
      | [] => plain
    | '`' =>
      let n := runLength '`' (c :: s)
      let rest := (c :: s).drop n
      match codeBefore? n (rest.length + 1) rest with
      | some (inside, rest) => next (some c) (r.add (.code (codeContent inside))) rest
      | none => next (some c) (r.addText (List.replicate n c)) rest
    | '<' =>
      if s.head? = some '\\' then plain
      else
        match Autolink.read? s with
        | some (a, rest) => next (some '>') (r.add (ofAutolink a)) rest
        | none =>
          match RawHtml.inline? s with
          | some rest =>
            next (some '>') (r.add (.html (c :: s.take (s.length - rest.length)))) rest
          | none => plain
    | '&' =>
      match reference? s with
      | some (value, rest) => next (some ';') (r.addText value) rest
      | none => plain
    | '!' =>
      match s with
      | '[' :: rest => next (some '[') (r.openBracket true rest) rest
      | _ => plain
    | '[' => next (some c) (r.openBracket false s) s
    | ']' =>
      let (r, rest) := r.closeBracket definitions s
      next (some (if rest.length = s.length then ']' else ')')) r rest
    | c =>
      if c = '*' ∨ c = '_' ∨ c = '~' then
        let n := runLength c (c :: s)
        let rest := (c :: s).drop n
        next (some c) (r.addRun (Run.between c n previous rest.head?)) rest
      else if isLineBlank c then
        match s.dropWhile isLineBlank with
        | '\n' :: rest =>
          if s.head? = some '\n' then plain
          else next (some '\n') (r.add .hardBreak) (dropIndent rest)
        | _ => plain
      else plain

/-- The content of a text. -/
def parse (definitions : List Definition) (s : List Char) : List Inline :=
  Emphasis.resolve (read definitions s.length none {} s).finish

end Inline
end NoteDesk.Markdown
