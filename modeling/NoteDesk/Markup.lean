import NoteDesk.Error
import NoteDesk.Markup.Tag
import NoteDesk.Text.Utf8

/-!
# Wire markup as markdown

`Markup.toMarkdown` turns the markup of a note into the markdown it is edited as. Markup is cut
into text and tags (`pieces`), which are written one after the other onto a draft (`Draft`).
Unknown tags, declarations and comments leave nothing behind; a tag that is opened and never
closed is refused.
-/

namespace NoteDesk.Markup

/-- A part of a markup: text between two tags, with its entities as they are written, or a tag. -/
inductive Piece where
  | text (s : List Char)
  | tag (t : Tag)
  deriving DecidableEq, Repr

/-- The tag is a declaration, a comment or a processing instruction. -/
def isDeclaration (s : List Char) : Bool :=
  s.head? = some '!' || s.head? = some '?'

theorem length_breakAtChar {c : Char} {s before after : List Char}
    (h : Text.breakAtChar c s = some (before, after)) : after.length < s.length := by
  unfold Text.breakAtChar at h
  split at h
  · simp at h
  · rename_i rest hd
    have : (s.dropWhile (· != c)).length ≤ s.length := (List.dropWhile_sublist _).length_le
    simp only [Option.some.injEq, Prod.mk.injEq] at h
    rw [hd, List.length_cons] at this
    obtain ⟨-, rfl⟩ := h
    omega

/-- The text and tags of markup, of which `left` bytes of `total` are left to read. -/
def piecesOf (total : Nat) (s : List Char) : Except Failure (List Piece) :=
  match _h : Text.breakAtChar '<' s with
  | none => .ok [.text s]
  | some (before, inner) =>
    match _h' : Text.breakAtChar '>' inner with
    | none => .error (.unterminatedTag (total - Utf8.size ('<' :: inner)))
    | some (tag, rest) => do
      let tags := if isDeclaration tag then [] else [Piece.tag (Tag.ofText tag)]
      return .text before :: tags ++ (← piecesOf total rest)
termination_by s.length
decreasing_by
  have := length_breakAtChar _h
  have := length_breakAtChar _h'
  omega

/-- The text and tags of markup. -/
def pieces (s : List Char) : Except Failure (List Piece) :=
  piecesOf (Utf8.size s) s

/-- Markdown being written, and the targets of the links still open, innermost first. -/
structure Draft where
  out : List Char := []
  links : List (List Char) := []
  deriving DecidableEq, Repr

namespace Draft

/-- Writes characters as they are. -/
def write (d : Draft) (s : List Char) : Draft :=
  { d with out := d.out ++ s }

/-- What was written ends like this. -/
def endsWith (d : Draft) (s : List Char) : Bool :=
  s.isSuffixOf d.out

/-- Ends the line, unless nothing was written on it. -/
def lineBreak (d : Draft) : Draft :=
  if d.out.isEmpty || d.endsWith ['\n'] then d else d.write ['\n']

/-- Ends the block: a blank line stands between what was written and what follows. -/
def blockBreak (d : Draft) : Draft :=
  if d.out.isEmpty || d.endsWith ['\n', '\n'] then d
  else if d.endsWith ['\n'] then d.write ['\n']
  else d.write ['\n', '\n']

/-- Writes text. Blanks with a line feed among them are layout between blocks. -/
def text (d : Draft) (s : List Char) : Draft :=
  if Text.allBlank s && s.contains '\n' then d else d.write (Entity.decodeAll s)

/-- Writes what a tag stands for. -/
def tag (d : Draft) (t : Tag) : Draft :=
  match t.element, t.closing with
  | .paragraph, _ => d.blockBreak
  | .line, _ => d.lineBreak
  | .feed, _ => d.write ['\n']
  | .rule, _ => (d.blockBreak.write "***".toList).blockBreak
  | .heading level, false => d.blockBreak.write (List.replicate level '#' ++ [' '])
  | .heading _, true => d.blockBreak
  | .list, false => d.lineBreak
  | .list, true => d.blockBreak
  | .item, false => d.lineBreak.write "- ".toList
  | .strong, _ => d.write "**".toList
  | .emphasis, _ => d.write "*".toList
  | .strike, _ => d.write "~~".toList
  | .code, _ => d.write "`".toList
  | .preformatted, false => d.blockBreak.write "```\n".toList
  | .preformatted, true => (d.lineBreak.write "```".toList).blockBreak
  | .cell, true => d.write " ".toList
  | .link, false =>
    { d.write "[".toList with links := (t.attribute? "href").getD [] :: d.links }
  | .link, true =>
    { d.write ("](".toList ++ d.links.headD [] ++ ")".toList) with links := d.links.tail }
  | .todo, false =>
    d.write (if t.attribute? "checked" = some "true".toList then "[x] ".toList else "[ ] ".toList)
  | _, _ => d

/-- Writes what a part of the markup stands for. -/
def piece (d : Draft) : Piece → Draft
  | .text s => d.text s
  | .tag t => d.tag t

end Draft

/-- The text without the line feeds that follow two others, where `feeds` were just seen. -/
def limitFeeds : Nat → List Char → List Char
  | _, [] => []
  | feeds, c :: s =>
    if c = '\n' then
      if feeds < 2 then c :: limitFeeds (feeds + 1) s else limitFeeds feeds s
    else c :: limitFeeds 0 s

/-- At most one blank line in a row, and no blanks around the text. -/
def tidy (s : List Char) : List Char :=
  Text.trim (limitFeeds 0 s)

/-- The markdown that markup is edited as. -/
def toMarkdownText (s : List Char) : Except Failure (List Char) := do
  let draft := (← pieces s).foldl Draft.piece {}
  return tidy draft.out

/-- The markdown that markup is edited as. -/
def toMarkdown (markup : String) : Except Failure String :=
  (toMarkdownText markup.toList).map String.ofList

end NoteDesk.Markup
