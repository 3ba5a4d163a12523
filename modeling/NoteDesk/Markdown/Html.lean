import NoteDesk.Markdown.Block
import NoteDesk.Markdown.Inline
import NoteDesk.Text.Utf8

/-!
# Markdown as markup

`toHtml` writes the blocks of a text as markup. Every block begins on a line of its own; the
paragraphs of a tight list's items are written without tags.
-/

namespace NoteDesk.Markdown

/-- Markup written so far, last character first. -/
abbrev Written := List Char

namespace Written

/-- Writes a string. -/
def put (w : Written) (s : String) : Written :=
  s.toList.reverseAux w

/-- Writes characters. -/
def putAll (w : Written) (s : List Char) : Written :=
  s.reverseAux w

/-- A new line is begun unless the last one is ended. -/
def fresh (w : Written) : Written :=
  match w with
  | [] => []
  | c :: _ => if c = '\n' then w else '\n' :: w

end Written

/-- Text between tags. -/
def escapeText (s : List Char) : List Char :=
  s.flatMap fun c =>
    if c = '&' then "&amp;".toList
    else if c = '<' then "&lt;".toList
    else if c = '>' then "&gt;".toList
    else [c]

/-- The value of an attribute. -/
def escapeAttribute (s : List Char) : List Char :=
  s.flatMap fun c => if c = '"' then "&quot;".toList else escapeText [c]

/-- The character stands for itself in an address. -/
def isAddressChar (c : Char) : Bool :=
  c.isAlphanum || "!#$%()*+,-./:;=?@_~".toList.contains c

/-- A byte in two hexadecimal digits after a percent sign. -/
def percent (b : UInt8) : List Char :=
  let digit (n : Nat) : Char := (Nat.digitChar n).toUpper
  ['%', digit (b.toNat / 16), digit (b.toNat % 16)]

/-- An address as the value of an attribute. -/
def escapeAddress (s : List Char) : List Char :=
  s.flatMap fun c =>
    if isAddressChar c then [c]
    else if c = '&' then "&amp;".toList
    else if c = '\'' then "&#x27;".toList
    else (String.utf8EncodeChar c).flatMap percent

namespace Inline

mutual

/-- The text of a piece without its tags, as the value of an attribute. -/
def plain : Inline → List Char
  | .text s => escapeAttribute s
  | .code s => escapeAttribute s
  | .html s => escapeAttribute s
  | .softBreak => [' ']
  | .hardBreak => [' ']
  | .emphasis inside => plainAll inside
  | .strong inside => plainAll inside
  | .strike inside => plainAll inside
  | .link _ _ inside => plainAll inside
  | .image _ _ inside => plainAll inside

/-- The plain text of pieces in turn. -/
def plainAll : List Inline → List Char
  | [] => []
  | i :: rest => plain i ++ plainAll rest

end

/-- The attribute that holds a title, if there is one. -/
def titleAttribute (title : List Char) : List Char :=
  if title.isEmpty then [] else " title=\"".toList ++ escapeAttribute title ++ ['"']

mutual

/-- Writes a piece of a text. -/
def write (w : Written) : Inline → Written
  | .text s => w.putAll (escapeText s)
  | .code s => ((w.put "<code>").putAll (escapeText s)).put "</code>"
  | .html s => w.putAll s
  | .softBreak => w.put "\n"
  | .hardBreak => w.put "<br />\n"
  | .emphasis inside => (writeAll (w.put "<em>") inside).put "</em>"
  | .strong inside => (writeAll (w.put "<strong>") inside).put "</strong>"
  | .strike inside => (writeAll (w.put "<del>") inside).put "</del>"
  | .link destination title inside =>
    let opened :=
      (((w.put "<a href=\"").putAll (escapeAddress destination)).put "\"").putAll
        (titleAttribute title)
    (writeAll (opened.put ">") inside).put "</a>"
  | .image destination title inside =>
    let opened := ((w.put "<img src=\"").putAll (escapeAddress destination)).put "\" alt=\""
    (((opened.putAll (plainAll inside)).put "\"").putAll (titleAttribute title)).put " />"

/-- Writes pieces in turn. -/
def writeAll (w : Written) : List Inline → Written
  | [] => w
  | i :: rest => writeAll (write w i) rest

end

end Inline

namespace Alignment

/-- The attribute of a cell in a column. -/
def style : Alignment → String
  | none => ""
  | left => " style=\"text-align: left\""
  | center => " style=\"text-align: center\""
  | right => " style=\"text-align: right\""

end Alignment

namespace Block

variable (definitions : List Definition)

/-- Writes the content of a text. -/
def inlines (w : Written) (s : List Char) : Written :=
  Inline.writeAll w (Inline.parse definitions s)

/-- The cells of a row, each in the element `name`. -/
def cells (name : String) : List Alignment → Written → List (List Char) → Written
  | _, w, [] => w
  | alignments, w, s :: rest =>
    let style := (alignments.headD .none).style
    let w := inlines definitions (w.put ("<" ++ name ++ style ++ ">")) s
    cells name alignments.tail (w.put ("</" ++ name ++ ">")) rest

/-- Writes a row of the table, below its header. -/
def row (alignments : List Alignment) (w : Written) (cells_ : List (List Char)) : Written :=
  (cells definitions "td" alignments (w.put "<tr>") cells_).put "</tr>\n"

/-- The language that an information string names. -/
def language (info : List Char) : List Char :=
  info.takeWhile (· != ' ')

mutual

/-- Writes a block; `tight` holds inside the items of a tight list. -/
def write (tight : Bool) (w : Written) : Block → Written
  | .paragraph text =>
    if tight then inlines definitions w text
    else (inlines definitions (w.fresh.put "<p>") text).put "</p>\n"
  | .heading level text =>
    let name := "h" ++ toString level ++ ">"
    (inlines definitions (w.fresh.put ("<" ++ name)) text).put ("</" ++ name ++ "\n")
  | .rule => w.fresh.put "<hr />\n"
  | .code info text =>
    let name := language info
    let w := w.fresh.put "<pre><code"
    let w :=
      if name.isEmpty then w
      else ((w.put " class=\"language-").putAll (escapeAttribute name)).put "\""
    ((w.put ">").putAll (escapeText text)).put "</code></pre>\n"
  | .html text => w.putAll text
  | .table alignments header rows =>
    let w := cells definitions "th" alignments (w.put "<table><thead><tr>") header
    (rows.foldl (row definitions alignments) (w.put "</tr></thead><tbody>\n")).put
      "</tbody></table>\n"
  | .quote inside => (writeAll false (w.fresh.put "<blockquote>\n") inside).put "</blockquote>\n"
  | .list tight mark start items =>
    if mark = '.' ∨ mark = ')' then
      let opening :=
        if start = 1 then "<ol>\n" else "<ol start=\"" ++ toString start ++ "\">\n"
      (writeItems tight (w.fresh.put opening) items).put "</ol>\n"
    else (writeItems tight (w.fresh.put "<ul>\n") items).put "</ul>\n"

/-- Writes blocks in turn. -/
def writeAll (tight : Bool) (w : Written) : List Block → Written
  | [] => w
  | b :: rest => writeAll tight (write tight w b) rest

/-- Writes the items of a list. -/
def writeItems (tight : Bool) (w : Written) : List (List Block) → Written
  | [] => w
  | item :: rest =>
    writeItems tight ((writeAll tight (w.fresh.put "<li>") item).put "</li>\n") rest

end

end Block

/-- The markup that a markdown text stands for. -/
def toHtmlText (s : List Char) : List Char :=
  let (blocks, definitions) := Block.parse s
  (Block.writeAll definitions false [] blocks).reverse

/-- The markup that a markdown text stands for. -/
def toHtml (markdown : String) : String :=
  String.ofList (toHtmlText markdown.toList)

end NoteDesk.Markdown
