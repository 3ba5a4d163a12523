import NoteDesk.Markdown.Source
import NoteDesk.Text.Search

/-!
# Raw markup and links between angle brackets

All functions read the text after an opening angle bracket and give the rest after the closing
one.

* `RawHtml.tag?` reads an opening or closing tag, `RawHtml.inline?` any markup within a paragraph.
* `Autolink.read?` reads an address, of a page or of mail.
-/

namespace NoteDesk.Markdown

namespace RawHtml

/-- What follows blanks and, where tags may span `lines`, line feeds; none at the end of the
text or at a line feed that is not allowed. -/
def afterSpace? (lines : Bool) (s : List Char) : Option (List Char) :=
  match s.dropWhile fun c => isLineBlank c || (lines && c == '\n') with
  | [] => none
  | c :: rest => if c == '\n' then none else some (c :: rest)

/-- A character that the name of an attribute may begin with. -/
def isNameStart (c : Char) : Bool :=
  c.isAlpha || c == '_' || c == ':'

/-- A character that the name of an attribute may go on with. -/
def isNameChar (c : Char) : Bool :=
  c.isAlphanum || c == '_' || c == '.' || c == ':' || c == '-'

/-- A character of a value without quotes. -/
def isBareValue (c : Char) : Bool :=
  !("'\" =><`\n\r".toList.contains c)

/-- What follows the value of an attribute. -/
def afterValue? (lines : Bool) (s : List Char) : Option (List Char) :=
  match s with
  | [] => none
  | q :: rest =>
    if q == '"' || q == '\'' then do
      let (value, rest) ← Text.breakAtChar q rest
      if !lines && value.contains '\n' then none else some rest
    else if isBareValue q then some (rest.dropWhile isBareValue)
    else none

/-- What follows an attribute. -/
def afterAttribute? (lines : Bool) (s : List Char) : Option (List Char) :=
  match s with
  | [] => none
  | c :: rest =>
    if isNameStart c then do
      let named := rest.dropWhile isNameChar
      match ← afterSpace? lines named with
      | '=' :: rest => afterValue? lines (← afterSpace? lines rest)
      | _ => some named
    else none

/-- What follows the attributes of an opening tag, and the tag's end. -/
def afterAttributes? (lines : Bool) : Nat → List Char → Option (List Char)
  | 0, _ => none
  | fuel + 1, s => do
    match ← afterSpace? lines s with
    | '>' :: rest => some rest
    | '/' :: rest =>
      match rest with
      | '>' :: rest => some rest
      | _ => none
    | t => if t.length = s.length then none else afterAttributes? lines fuel (← afterAttribute? lines t)

/-- What follows a tag, which may span `lines`. -/
def tag? (lines : Bool) (s : List Char) : Option (List Char) :=
  let isName (c : Char) : Bool := c.isAlphanum || c == '-'
  match s with
  | '/' :: c :: rest =>
    if c.isAlpha then
      match (rest.dropWhile isName).dropWhile isLineBlank with
      | '>' :: rest => some rest
      | _ => none
    else none
  | c :: rest =>
    if c.isAlpha then afterAttributes? lines (s.length + 1) (rest.dropWhile isName) else none
  | [] => none

/-- The line is a complete tag, apart from blanks. -/
def isTagLine (s : List Char) : Bool :=
  ((tag? false s).map isBlankLine).getD false

/-- What follows a comment, after its exclamation mark and first dash. -/
def afterComment? (s : List Char) : Option (List Char) :=
  match s with
  | '-' :: rest =>
    match rest.dropWhile (· == '-') with
    | '>' :: rest => some rest
    | rest => (Text.breakAt "-->".toList rest).map (·.2)
  | _ => none

/-- What follows a section of character data, after its opening. -/
def afterData? (s : List Char) : Option (List Char) :=
  match s.dropWhile (· != ']') with
  | [] => none
  | s =>
    match s.dropWhile (· == ']') with
    | '>' :: rest => some rest
    | _ => none

/-- What follows markup within a paragraph: a tag, a comment, a processing instruction, a
declaration or a section of character data. -/
def inline? (s : List Char) : Option (List Char) :=
  match s with
  | '?' :: rest => (Text.breakAt "?>".toList rest).map (·.2)
  | '!' :: '-' :: rest => afterComment? rest
  | '!' :: '[' :: rest => ("CDATA[".toList.isPrefixOf? rest).bind afterData?
  | '!' :: c :: rest => if c.isAlpha then (Text.breakAtChar '>' rest).map (·.2) else none
  | s => tag? true s

end RawHtml

/-- An address between angle brackets. -/
structure Autolink where
  address : List Char
  isMail : Bool
  deriving DecidableEq, Repr

namespace Autolink

/-- The address of a page: a scheme, a colon, and no blanks or controls. -/
def page? (s : List Char) : Option (List Char × List Char) := do
  let (scheme, after) ← Text.breakAtChar ':' s
  let isScheme (c : Char) : Bool := c.isAlphanum || c == '.' || c == '-' || c == '+'
  if (scheme.head?.map Char.isAlpha).getD false && scheme.all isScheme && 2 ≤ scheme.length &&
      scheme.length ≤ 32 then
    let (path, rest) ← Text.breakAtChar '>' after
    if path.any fun c => c.toNat ≤ 0x20 || c == '<' then none
    else some (scheme ++ ':' :: path, rest)
  else none

/-- A character that may stand before the at sign of a mail address. -/
def isMailbox (c : Char) : Bool :=
  c.isAlphanum || ".!#$%&'*+/=?^_`\x7b|\x7d~-".toList.contains c

/-- A name between the dots of a mail address. -/
def isHostLabel (s : List Char) : Bool :=
  1 ≤ s.length && s.length ≤ 63 && s.head? != some '-' && s.getLast? != some '-' &&
    s.all fun c => c.isAlphanum || c == '-'

/-- The address of a mailbox. -/
def mail? (s : List Char) : Option (List Char × List Char) := do
  let (box, after) ← Text.breakAtChar '@' s
  if box.isEmpty || !box.all isMailbox then none
  else
    let (host, rest) ← Text.breakAtChar '>' after
    if (host.splitOn '.').all isHostLabel then some (box ++ '@' :: host, rest) else none

/-- The address that begins the text after an opening angle bracket, and the rest after the
closing one. -/
def read? (s : List Char) : Option (Autolink × List Char) :=
  match page? s with
  | some (address, rest) => some (⟨address, false⟩, rest)
  | none => (mail? s).map fun (address, rest) => (⟨address, true⟩, rest)

end Autolink
end NoteDesk.Markdown
