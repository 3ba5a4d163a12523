import NoteDesk.Markdown.Link
import NoteDesk.Markdown.Marker
import NoteDesk.Markdown.RawHtml
import NoteDesk.Markdown.Table

/-!
# Blocks

`Block.parse` reads the block structure of a text: containers (quotes, lists, items), and leaves
(paragraphs, headings, code, raw markup, tables, thematic breaks), whose text is left as it is
written. Definitions of links are collected on the way.

Every line is first matched against the containers still open (`Frame.enter`). A leaf reads its
first line and the lines after it that belong to it; each such line is matched in the same way.
-/

namespace NoteDesk.Markdown

/-- A block of a markdown text. Where it holds running text, that is not yet read. -/
inductive Block where
  | paragraph (text : List Char)
  | heading (level : Nat) (text : List Char)
  | rule
  | code (info : List Char) (text : List Char)
  | html (text : List Char)
  | table (alignments : List Alignment) (header : List (List Char)) (rows : List (List (List Char)))
  | quote (inside : List Block)
  | list (tight : Bool) (mark : Char) (start : Nat) (items : List (List Block))
  deriving Repr

/-- A container still open, and what it holds so far, last first. -/
inductive Frame where
  | quote (inside : List Block)
  | list (tight : Bool) (mark : Char) (start : Nat) (items : List (List Block))
  | item (indent : Nat) (inside : List Block)
  deriving Repr

namespace Frame

/-- The line, from the cursor on, continues the container: a quote by its mark, an item by its
indentation or by being empty. -/
def enter? (c : Cursor) : Frame → Option Cursor
  | quote _ =>
    let (_, c) := c.indentBy 3
    match c.rest with
    | '>' :: _ => some ((c.advance 1).indent 1).2
    | _ => none
  | list .. => some c
  | item indent _ =>
    let (all, c) := c.indentBy indent
    if all || c.atEnd then some c else none

/-- How many of the containers, outermost first, the line continues, and where its rest begins. -/
def enter : List Frame → Cursor → Nat × Cursor
  | [], c => (0, c)
  | f :: rest, c =>
    match f.enter? c with
    | none => (0, c)
    | some c =>
      let (n, c) := enter rest c
      (n + 1, c)

end Frame

/-- A text read in part. -/
structure Outline where
  /-- Containers still open, innermost first. -/
  frames : List Frame := []
  /-- Blocks outside of all containers, last first. -/
  blocks : List Block := []
  definitions : List Definition := []
  /-- The line before was blank. -/
  afterBlank : Bool := false
  /-- The innermost item began with an empty line. -/
  emptyItem : Bool := false
  deriving Repr

namespace Outline

/-- Adds a block to the innermost container. -/
def add (o : Outline) (b : Block) : Outline :=
  match o.frames with
  | .quote inside :: rest => { o with frames := .quote (b :: inside) :: rest }
  | .item indent inside :: rest => { o with frames := .item indent (b :: inside) :: rest }
  | .list .. :: _ => o
  | [] => { o with blocks := b :: o.blocks }

/-- Closes the innermost container. -/
def close (o : Outline) : Outline :=
  match o.frames with
  | [] => o
  | .quote inside :: rest => add { o with frames := rest } (.quote inside.reverse)
  | .item _ inside :: .list tight mark start items :: rest =>
    { o with frames := .list tight mark start (inside.reverse :: items) :: rest }
  | .item _ _ :: rest => { o with frames := rest }
  | .list tight mark start items :: rest =>
    add { o with frames := rest, emptyItem := o.emptyItem && !tight }
      (.list tight mark start items.reverse)

/-- Closes containers until `n` are open. -/
def closeTo (n : Nat) (o : Outline) : Outline :=
  (o.frames.length - n).repeat close o

/-- Where the line's rest begins, and whether it continues all open containers. -/
def enter (o : Outline) (line : List Char) : Bool × Cursor :=
  let (n, c) := Frame.enter o.frames.reverse ⟨line, 0, 0⟩
  (n == o.frames.length, c)

/-- An item that began with an empty line and went on with another is over. -/
def finishEmptyItem (o : Outline) : Outline :=
  let o :=
    match o.frames with
    | .item .. :: _ => if o.emptyItem && o.afterBlank then o.close else o
    | _ => o
  { o with emptyItem := false }

/-- Marks the list around the innermost item as loose. -/
def loosen (o : Outline) : Outline :=
  match o.frames with
  | f :: .list _ mark start items :: rest => { o with frames := f :: .list false mark start items :: rest }
  | _ => o

/-- Before any block but an item: a list whose items are over is closed, and a blank line before
the block makes the list around it loose. -/
def finishList (o : Outline) : Outline :=
  let o := o.finishEmptyItem
  let o :=
    match o.frames with
    | .list .. :: _ => o.close
    | _ => o
  if o.afterBlank then { o.loosen with afterBlank := false } else o

/-- Before an item: the list goes on if the mark is the same, otherwise a new one begins. -/
def continueList (o : Outline) (m : ListMarker) : Outline :=
  let o := o.finishEmptyItem
  let new (o : Outline) : Outline :=
    { o with frames := .list true m.mark m.start [] :: o.frames, afterBlank := false }
  match o.frames with
  | .list tight mark start items :: rest =>
    if mark = m.mark then
      { o with frames := .list (tight && !o.afterBlank) mark start items :: rest, afterBlank := false }
    else new o.finishList
  | _ => new o

/-- Begins an item: the indentation after its marker, up to four columns, belongs to it. -/
def beginItem (o : Outline) (indented : Nat) (m : ListMarker) (c : Cursor) : Outline × Cursor :=
  let o := o.continueList m
  let c := c.advance m.width
  let width := indented + m.width + 1
  let (_, c) := c.indentBy 1
  let (more, c') := c.indent 4
  let (width, c) := if isBlankLine c.remaining || 4 ≤ more then (width, c) else (width + more, c')
  ({ o with frames := .item width [] :: o.frames }, c)

/-- Begins the containers that the rest of a line opens, of which `fuel` is more than there can
be. The result says whether an item was begun by a line with nothing else on it. -/
def beginContainers : Nat → Outline → Cursor → Bool × Outline × Cursor
  | 0, o, c => (false, o, c)
  | fuel + 1, o, c =>
    let (indented, c') := c.indent 4
    if 4 ≤ indented then (false, o, c)
    else
      match ListMarker.read? c'.rest with
      | some m =>
        let (o, c) := o.beginItem indented m c'
        if isBlankLine c.rest then (true, { o with emptyItem := true }, c)
        else beginContainers fuel o c
      | none =>
        match c'.rest with
        | '>' :: _ =>
          let o := o.finishList
          beginContainers fuel { o with frames := .quote [] :: o.frames } ((c'.advance 1).indent 1).2
        | _ => (false, o, c)

/-- After a blank line. It makes no difference inside a quote; an item that began with an empty
line cannot go on. -/
def blank (o : Outline) : Outline :=
  match o.frames with
  | [] => o
  | .quote _ :: _ => o
  | .item indent inside :: rest =>
    { o with
      frames := .item (if o.emptyItem then 0 else indent) inside :: rest
      afterBlank := true }
  | .list .. :: _ => { o with afterBlank := true }

/-! ## Leaves

A leaf gives its block and the lines after it. -/

/-- The text of a paragraph whose last line, ended by a line feed or not, may have blanks at its
end: a single one stays before a line feed. -/
def trimEnd (feed : Bool) (s : List Char) : List Char :=
  let trimmed := (s.reverse.dropWhile isLineBlank).reverse
  if feed && s.length = trimmed.length + 1 then s else trimmed

/-- How a paragraph ends: by a line that belongs to something else, or by the line under a
heading. -/
structure ParagraphEnd where
  lines : List (List Char)
  /-- The last line ends with a line feed. -/
  feed : Bool
  level : Option Nat
  rest : List SourceLine

/-- The line looks like the first of a table, by the line after it. -/
def beginsTable (o : Outline) (first : List Char) : List SourceLine → Bool
  | [] => false
  | l :: _ =>
    let (current, c) := o.enter l.text
    current && (Table.begins? first c).isSome

/-- The lines that continue a paragraph. A line may leave out the marks of its containers, unless
it could begin another block. -/
def paragraphLines (o : Outline) (feed : Bool) : List SourceLine → ParagraphEnd
  | [] => ⟨[], feed, none, []⟩
  | l :: rest =>
    let (current, c) := o.enter l.text
    let (four, c') := c.indentBy 4
    let level := if !four && current then underline? c'.rest else none
    if level.isSome then ⟨[], feed, level, rest⟩
    else if !four && (interrupts c'.rest current false || (current && o.beginsTable c'.rest rest)) then
      ⟨[], feed, none, l :: rest⟩
    else if (c'.indentAll).atEnd then ⟨[], feed, none, l :: rest⟩
    else
      let e := paragraphLines o (!l.ending.isEmpty) rest
      { e with lines := c.rest :: e.lines }

/-- Drops as many lines as hold the text read from their beginning. -/
def afterText (lines : List (List Char)) (unread : List Char) : Nat :=
  let all := [ '\n' ].intercalate lines
  ((all.take (all.length - unread.length)).count '\n') +
    if unread.isEmpty && !all.isEmpty then 1 else 0

/-- The rows of a table of the given width. -/
def tableRows (o : Outline) (width : Nat) : List SourceLine → List (List (List Char)) × List SourceLine
  | [] => ([], [])
  | l :: rest =>
    let (current, c) := o.enter l.text
    let c := c.indentAll
    let row := Table.cells c.rest
    if !current || interrupts c.rest true true || row.isEmpty then ([], l :: rest)
    else
      let (rows, rest) := tableRows o width rest
      (Table.fit width row :: rows, rest)

/-- The table that the line `first` begins. -/
def table? (o : Outline) (first : List Char) : List SourceLine → Option (Block × List SourceLine)
  | [] => none
  | l :: rest => do
    let (current, c) := o.enter l.text
    let alignments ← if current && Table.hasPipe first then Table.begins? first c else none
    let width := alignments.length
    let (rows, rest) := tableRows o width rest
    return (.table alignments (Table.fit width (Table.cells first)) rows, rest)

/-- The lines of indented code after its first, up to the last that is not blank, and the rest.
Blank lines between lines of code belong to it. -/
def indentedCode (o : Outline) : List SourceLine → List Char × List SourceLine
  | [] => ([], [])
  | l :: rest =>
    let (current, c) := o.enter l.text
    let (four, c') := c.indentBy 4
    if current && (four || c'.atEnd) then
      let (text, after) := indentedCode o rest
      if isBlankLine c'.rest && text.isEmpty then ([], l :: rest)
      else (c'.remaining ++ l.ending ++ text, after)
    else ([], l :: rest)

/-- The lines of fenced code and the lines after it; `indented` columns are dropped from each. -/
def fencedCode (o : Outline) (f : Fence) (indented : Nat) : List SourceLine → List Char × List SourceLine
  | [] => ([], [])
  | l :: rest =>
    let (current, c) := o.enter l.text
    if !current then ([], l :: rest)
    else
      let c := (c.indentBy indented).2
      let (deep, closing) := c.indentBy (4 - indented)
      if !deep && closesFence f closing.rest then ([], rest)
      else
        let (text, rest) := fencedCode o f indented rest
        (c.remaining ++ l.ending ++ text, rest)

/-- The text has `needle` in it. -/
def holds (needle s : List Char) : Bool :=
  Text.hasInside needle s

/-- The lines of raw markup after its first, and the lines after it. `ended` says that the line
before was the last. -/
def htmlLines (o : Outline) (e : HtmlEnd) : Bool → List SourceLine → List Char × List SourceLine
  | _, [] => ([], [])
  | ended, l :: rest =>
    let (current, c) := o.enter l.text
    let past :=
      match e with
      | .withText _ => ended
      | .atBlank => isBlankLine c.rest
    if !current || past then ([], l :: rest)
    else
      let last := match e with | .withText s => holds s l.text | .atBlank => false
      let (text, rest) := htmlLines o e last rest
      (c.remaining ++ l.ending ++ text, rest)

/-- How the raw markup that begins with the text ends, if it begins a block. -/
def html? (s : List Char) : Option HtmlEnd :=
  match s with
  | '<' :: rest =>
    match HtmlStart.special? rest with
    | some e => some e
    | none =>
      if HtmlStart.isBlockElement rest || RawHtml.isTagLine rest then some .atBlank else none
  | _ => none

/-- Reads a paragraph, a table, an underlined heading or a definition that begins with `text` on
the line `l`. -/
def paragraph (o : Outline) (text : List Char) (l : SourceLine) (rest : List SourceLine) :
    Outline × List SourceLine :=
  let e := o.paragraphLines (!l.ending.isEmpty) rest
  let lines := text :: e.lines
  match Definition.read? (['\n'].intercalate lines) with
  | some (d, unread) =>
    ({ o with definitions := o.definitions ++ [d] }, rest.drop (afterText lines unread - 1))
  | none =>
    match o.table? text rest with
    | some (b, rest) => (o.add b, rest)
    | none =>
      let all := ['\n'].intercalate lines
      match e.level with
      | some level => (o.add (.heading level (trimEnd false all)), e.rest)
      | none => (o.add (.paragraph (trimEnd e.feed all)), e.rest)

/-- Reads the leaf that begins at the cursor on the line `l`. -/
def leaf (o : Outline) (c : Cursor) (l : SourceLine) (rest : List SourceLine) :
    Outline × List SourceLine :=
  let o := o.finishList
  let (indented, c') := c.indent 4
  if 4 ≤ indented then
    let (more, rest) := o.indentedCode rest
    (o.add (.code [] (c'.remaining ++ l.ending ++ more)), rest)
  else
    let text := c'.rest
    match html? text with
    | some e =>
      let ended := match e with | .withText s => holds s text | .atBlank => false
      let (more, rest) := o.htmlLines e ended rest
      (o.add (.html (List.replicate (max c.owed indented) ' ' ++ text ++ l.ending ++ more)), rest)
    | none =>
      if isRule text then (o.add .rule, rest)
      else
        match heading? text with
        | some level => (o.add (.heading level (headingText level text)), rest)
        | none =>
          match fence? text with
          | some f =>
            let (inside, rest) := o.fencedCode f indented rest
            let info := Text.strip isAsciiSpace (text.drop f.length)
            (o.add (.code (unescape info) inside), rest)
          | none => o.paragraph text l rest

/-- Reads the block that begins on the line `l`. -/
def block (o : Outline) (l : SourceLine) (rest : List SourceLine) : Outline × List SourceLine :=
  let (n, c) := Frame.enter o.frames.reverse ⟨l.text, 0, 0⟩
  let o := o.closeTo n
  let (emptyItem, o, c) := beginContainers (l.text.length + 1) o c
  if emptyItem then (o, rest)
  else if isBlankLine c.rest then (o.blank, rest)
  else o.leaf c l rest

/-- Reads lines; each block takes at least one, so `fuel` lines are enough. -/
def readLines : Nat → Outline → List SourceLine → Outline
  | 0, o, _ => o
  | _ + 1, o, [] => o
  | fuel + 1, o, l :: rest =>
    let (o, rest) := o.block l rest
    readLines fuel o rest

end Outline

/-- The blocks of a text and the definitions in it. -/
def Block.parse (s : List Char) : List Block × List Definition :=
  let lines := SourceLine.all s
  let o := ((({} : Outline).readLines lines.length lines)).closeTo 0
  (o.blocks.reverse, o.definitions)

end NoteDesk.Markdown
