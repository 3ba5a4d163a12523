import NoteDesk.Markdown.Source
import NoteDesk.Text.Search

/-!
# How blocks begin

Tests on the rest of a line, after the indentation of the containers it is in.

* `isRule`, `heading?`, `underline?`, `fence?` and `closesFence` recognise thematic breaks,
  headings in both forms and the fences of code.
* `ListMarker.read?` recognises the marker of a list item.
* `HtmlStart.read?` says whether raw markup begins, and how it ends.
* `interrupts` says which of these may follow a paragraph without a blank line.
-/

namespace NoteDesk.Markdown

/-- The line is a thematic break: at least three of one mark, and blanks. -/
def isRule (s : List Char) : Bool :=
  match s with
  | c :: _ =>
    (c == '*' || c == '-' || c == '_') && s.all (fun x => x == c || x == ' ' || x == '\t') &&
      3 ≤ s.count c
  | [] => false

/-- The white space of ASCII. -/
def isAsciiSpace (c : Char) : Bool :=
  c == ' ' || (9 ≤ c.toNat && c.toNat ≤ 13)

/-- The length of the run of `c` that begins the text. -/
def runLength (c : Char) (s : List Char) : Nat :=
  (s.takeWhile (· == c)).length

/-- The level of a heading that the line opens with number signs. -/
def heading? (s : List Char) : Option Nat :=
  let level := runLength '#' s
  if 1 ≤ level && level ≤ 6 && ((s.drop level).head?.map isAsciiSpace).getD true then some level
  else none

/-- The text of a heading opened with number signs: the signs that close it, if a space stands
before them, and the spaces at the end are dropped. -/
def headingText (level : Nat) (s : List Char) : List Char :=
  let text := (s.drop level).dropWhile isLineBlank
  let reversed := text.reverse.dropWhile (· == ' ')
  match reversed.dropWhile (· == '#') with
  | [] => []
  | c :: rest => if c == ' ' then (rest.dropWhile (· == ' ')).reverse else reversed.reverse

/-- The level of the heading that the line underlines. -/
def underline? (s : List Char) : Option Nat :=
  match s with
  | c :: _ =>
    if (c == '=' || c == '-') && isBlankLine (s.dropWhile (· == c)) then
      some (if c == '=' then 1 else 2)
    else none
  | [] => none

/-- The fence of a block of code. -/
structure Fence where
  mark : Char
  length : Nat
  deriving DecidableEq, Repr

/-- The fence that begins the line. An information string after backquotes holds none. -/
def fence? (s : List Char) : Option Fence :=
  match s with
  | c :: _ =>
    let n := runLength c s
    if (c == '`' || c == '~') && 3 ≤ n && !(c == '`' && (s.drop n).contains '`') then some ⟨c, n⟩
    else none
  | [] => none

/-- The line closes the code that the fence opened. -/
def closesFence (f : Fence) (s : List Char) : Bool :=
  f.length ≤ runLength f.mark s && (s.drop (runLength f.mark s)).all (· == ' ')

/-! ## List items -/

/-- The marker of a list item. -/
structure ListMarker where
  /-- A bullet, or what stands after the number. -/
  mark : Char
  start : Nat
  /-- Columns that the marker takes, without the indentation after it. -/
  width : Nat
  deriving DecidableEq, Repr

namespace ListMarker

/-- Bullets belong to unordered lists. -/
def isBullet (c : Char) : Bool :=
  c == '-' || c == '+' || c == '*'

/-- The marker that begins the line, without regard to what follows it. -/
def plain? (s : List Char) : Option ListMarker :=
  match s with
  | c :: _ =>
    if isBullet c then some ⟨c, 0, 1⟩
    else
      let digits := s.takeWhile Char.isDigit
      match s.drop digits.length with
      | d :: _ =>
        if 1 ≤ digits.length && digits.length ≤ 9 && (d == '.' || d == ')') then
          some ⟨d, digits.foldl (fun n x => 10 * n + (x.toNat - 48)) 0, digits.length + 1⟩
        else none
      | [] => none
  | [] => none

/-- The marker that begins the line: a blank or nothing follows it, and the line is no thematic
break. -/
def read? (s : List Char) : Option ListMarker := do
  let m ← plain? s
  if isBullet m.mark && isRule s then none
  else
    match s.drop m.width with
    | [] => some m
    | c :: _ => if c == ' ' || c == '\t' then some m else none

/-- The item may follow a paragraph without a blank line: it holds something, and if it is
numbered, its number is one. -/
def mayInterrupt (m : ListMarker) (s : List Char) : Bool :=
  (isBullet m.mark || m.start == 1) && !isBlankLine (s.drop m.width)

end ListMarker

/-! ## Raw markup -/

/-- How a block of raw markup ends: with the line that has a given text in it, or before a blank
line. -/
inductive HtmlEnd where
  | withText (s : List Char)
  | atBlank
  deriving DecidableEq, Repr

namespace HtmlStart

/-- Elements whose content is raw up to their closing tag. -/
def rawElements : List String := ["pre", "style", "script", "textarea"]

/-- Elements that open a block of markup. -/
def blockElements : List String :=
  ["address", "article", "aside", "base", "basefont", "blockquote", "body", "caption", "center",
    "col", "colgroup", "dd", "details", "dialog", "dir", "div", "dl", "dt", "fieldset",
    "figcaption", "figure", "footer", "form", "frame", "frameset", "h1", "h2", "h3", "h4", "h5",
    "h6", "head", "header", "hr", "html", "iframe", "legend", "li", "link", "main", "menu",
    "menuitem", "nav", "noframes", "ol", "optgroup", "option", "p", "param", "search", "section",
    "summary", "table", "tbody", "td", "tfoot", "th", "thead", "title", "tr", "track", "ul"]

/-- The text in lower case, as far as ASCII goes. -/
def lower (s : List Char) : List Char :=
  s.map Char.toLower

/-- The rest of `s` after `word`, in any case. -/
def afterWord? (word s : List Char) : Option (List Char) :=
  if lower (s.take word.length) = word then some (s.drop word.length) else none

/-- Text after `<` that opens a raw element. -/
def rawElement? (s : List Char) : Option String :=
  rawElements.find? fun name =>
    match afterWord? name.toList s with
    | some [] => true
    | some (c :: _) => isAsciiSpace c || c == '>'
    | none => false

/-- How the markup that begins with `<` and `s` ends, if it is an element with raw content, a
comment, a processing instruction, a declaration or a section of character data. -/
def special? (s : List Char) : Option HtmlEnd :=
  match rawElement? s with
  | some name => some (.withText ("</" ++ name ++ ">").toList)
  | none =>
    if "!--".toList.isPrefixOf s then some (.withText "-->".toList)
    else if "?".toList.isPrefixOf s then some (.withText "?>".toList)
    else if "![CDATA[".toList.isPrefixOf s then some (.withText "]]>".toList)
    else
      match s with
      | '!' :: c :: _ => if c.isAlpha then some (.withText ">".toList) else none
      | _ => none

/-- The text after `<` opens or closes an element that stands for a block. -/
def isBlockElement (s : List Char) : Bool :=
  let s := if s.head? = some '/' then s.tail else s
  let name := s.takeWhile Char.isAlphanum
  blockElements.contains (String.ofList (lower name)) &&
    match s.drop name.length with
    | [] => true
    | c :: rest => c == ' ' || c == '\t' || c == '>' || (c == '/' && rest.head? == some '>')

end HtmlStart

/-- The line may follow a line of a paragraph without belonging to it. Of list items, only some
may interrupt a paragraph in the container that both are in. -/
def interrupts (s : List Char) (sameContainer inTable : Bool) : Bool :=
  s.isEmpty || isRule s || (heading? s).isSome || (fence? s).isSome || s.head? == some '>' ||
    (match ListMarker.read? s with
      | some m => !sameContainer || inTable || m.mayInterrupt s
      | none => false) ||
    (match s with
      | '<' :: rest => (HtmlStart.special? rest).isSome || HtmlStart.isBlockElement rest
      | _ => false)

end NoteDesk.Markdown
