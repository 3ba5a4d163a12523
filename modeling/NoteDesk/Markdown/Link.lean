import NoteDesk.Markdown.Marker
import NoteDesk.Text.Blank
import NoteDesk.Text.CharacterName
import NoteDesk.Text.Lowercase
import NoteDesk.Text.Punctuation

/-!
# The parts of links

* `reference?` reads a character reference.
* `label?`, `destination?` and `title?` read the parts that links and their definitions share;
  each gives what it read and the rest.
* `Definition.read?` reads a definition, `[label]: destination "title"`.
-/

namespace NoteDesk.Markdown

/-! ## Character references and escapes -/

/-- The character numbered `n`, or the replacement character if there is none. -/
def numbered (n : Nat) : Char :=
  if n = 0 then '\uFFFD' else (Entity.scalar? n).getD '\uFFFD'

/-- Up to `limit` digits that begin the text, their value and the rest, if a semicolon ends
them. -/
def numberedReference? (base limit : Nat) (s : List Char) : Option (List Char × List Char) :=
  let digits := (s.takeWhile fun c => (Entity.digit? base c).isSome).take limit
  match s.drop digits.length with
  | ';' :: rest =>
    if digits.isEmpty then none
    else (Entity.digits? base 0 digits).map fun n => ([numbered n], rest)
  | _ => none

/-- The characters that a reference stands for, whose text after `&` begins `s`, and the rest. -/
def reference? (s : List Char) : Option (List Char × List Char) :=
  match s with
  | '#' :: 'x' :: s => numberedReference? 16 6 s
  | '#' :: 'X' :: s => numberedReference? 16 6 s
  | '#' :: s => numberedReference? 10 7 s
  | s =>
    let name := s.takeWhile Char.isAlphanum
    match s.drop name.length with
    | ';' :: rest => (CharacterName.find? name).map fun value => (value, rest)
    | _ => none

/-- The text with escapes and references replaced and without carriage returns, where `fuel` is at
least its length. -/
def unescapeFor : Nat → List Char → List Char
  | 0, _ => []
  | _ + 1, [] => []
  | fuel + 1, '\\' :: c :: s =>
    if Text.isAsciiPunctuation c then c :: unescapeFor fuel s
    else '\\' :: unescapeFor fuel (c :: s)
  | fuel + 1, '&' :: s =>
    match reference? s with
    | some (value, rest) => value ++ unescapeFor fuel rest
    | none => '&' :: unescapeFor fuel s
  | fuel + 1, '\r' :: s => unescapeFor fuel s
  | fuel + 1, c :: s => c :: unescapeFor fuel s

/-- The text with escapes and references replaced. -/
def unescape (s : List Char) : List Char :=
  unescapeFor s.length s

/-! ## Labels -/

/-- The longest label. -/
def maxLabel : Nat := 1000

/-- What stands before the next bracket that closes a label, none being opened, and the rest. -/
def labelText? : Nat → List Char → Option (List Char × List Char)
  | 0, _ => none
  | _ + 1, [] => none
  | _ + 1, ']' :: s => some ([], s)
  | _ + 1, '[' :: _ => none
  | fuel + 1, '\\' :: c :: s =>
    if c = '\n' then (labelText? fuel (c :: s)).map fun (t, rest) => ('\\' :: t, rest)
    else (labelText? fuel s).map fun (t, rest) => ('\\' :: c :: t, rest)
  | fuel + 1, c :: s => (labelText? fuel s).map fun (t, rest) => (c :: t, rest)

/-- The words of a text between white space. -/
def words (s : List Char) : List (List Char) :=
  ((s.map fun c => if isAsciiSpace c then ' ' else c).splitOn ' ').filter (!·.isEmpty)

/-- What makes labels equal: white space is one space, and case does not matter. -/
def labelKey (s : List Char) : List Char :=
  Text.fold ([' '].intercalate (words s))

/-- The key of the label whose text after its opening bracket begins `s`, and the rest. A label
holds more than white space. -/
def label? (s : List Char) : Option (List Char × List Char) := do
  let (text, rest) ← labelText? maxLabel s
  let key := labelKey text
  if key.isEmpty then none else return (key, rest)

/-! ## Destinations -/

/-- A destination between angle brackets, as it is written, after the first of them. -/
def pointed? : List Char → Option (List Char × List Char)
  | [] => none
  | '>' :: s => some ([], s)
  | '\\' :: c :: s =>
    if Text.isAsciiPunctuation c then (pointed? s).map fun (t, rest) => ('\\' :: c :: t, rest)
    else (pointed? (c :: s)).map fun (t, rest) => ('\\' :: t, rest)
  | c :: s =>
    if c = '\n' ∨ c = '\r' ∨ c = '<' then none
    else (pointed? s).map fun (t, rest) => (c :: t, rest)
termination_by s => s.length

/-- A destination without angle brackets, as it is written, inside `depth` parentheses of at most
`limit + 1`. -/
def bare? (limit : Nat) : Nat → List Char → Option (List Char × List Char)
  | depth, [] => if depth = 0 then some ([], []) else none
  | depth, '\\' :: c :: s =>
    if Text.isAsciiPunctuation c then
      (bare? limit depth s).map fun (t, rest) => ('\\' :: c :: t, rest)
    else (bare? limit depth (c :: s)).map fun (t, rest) => ('\\' :: t, rest)
  | depth, c :: s =>
    if c.toNat ≤ 0x20 then if depth = 0 then some ([], c :: s) else none
    else if c = '(' then
      if limit < depth then none
      else (bare? limit (depth + 1) s).map fun (t, rest) => (c :: t, rest)
    else if c = ')' then
      match depth with
      | 0 => some ([], c :: s)
      | depth + 1 => (bare? limit depth s).map fun (t, rest) => (c :: t, rest)
    else (bare? limit depth s).map fun (t, rest) => (c :: t, rest)
termination_by _ s => s.length

/-- A destination as it is written. -/
def destination? (limit : Nat) (s : List Char) : Option (List Char × List Char) :=
  match s with
  | '<' :: s => pointed? s
  | s => bare? limit 0 s

/-! ## Titles -/

/-- The title that `close` ends, its escapes replaced. A title in parentheses holds no other
opening parenthesis. -/
def titleFor (opening close : Char) : Nat → List Char → Option (List Char × List Char)
  | 0, _ => none
  | _ + 1, [] => none
  | fuel + 1, c :: s =>
    let with_ (t : List Char) (rest : List Char) :=
      (titleFor opening close fuel rest).map fun (t', rest) => (t ++ t', rest)
    if c = close then some ([], s)
    else if c = opening then none
    else if c = '\n' then with_ [c] (s.dropWhile isLineBlank)
    else if c = '&' then
      match reference? s with
      | some (value, rest) => with_ value rest
      | none => with_ [c] s
    else if c = '\\' then
      match s with
      | d :: s => if Text.isAsciiPunctuation d then with_ [d] s else with_ [c] (d :: s)
      | [] => none
    else with_ [c] s

/-- The title that begins the text in one of three kinds of quotes. -/
def title? (s : List Char) : Option (List Char × List Char) :=
  match s with
  | '"' :: s => titleFor '"' '"' (s.length + 1) s
  | '\'' :: s => titleFor '\'' '\'' (s.length + 1) s
  | '(' :: s => titleFor '(' ')' (s.length + 1) s
  | _ => none

/-! ## Definitions -/

/-- What a reference by label stands for. -/
structure Definition where
  key : List Char
  destination : List Char
  title : List Char := []
  deriving DecidableEq, Repr

namespace Definition

/-- Passes over blanks and at most one line feed; gives the number of line feeds. -/
def gap (s : List Char) : Nat × List Char :=
  match s.dropWhile isLineBlank with
  | '\n' :: s => (1, s.dropWhile isLineBlank)
  | s => (0, s)

/-- The rest of the text after the end of the line, if only blanks stand before it. -/
def lineEnd? (s : List Char) : Option (List Char) :=
  match s.dropWhile isLineBlank with
  | [] => some []
  | '\n' :: s => some s
  | _ => none

/-- The definition that begins a paragraph, and the rest of the paragraph after the line that the
definition ends with. A title that is not followed by the end of its line is none; the definition
then ends with its destination, if that ends a line. -/
def read? (paragraph : List Char) : Option (Definition × List Char) := do
  let '[' :: s := paragraph | none
  let (key, s) ← label? s
  let ':' :: s := s | none
  let (written, s) ← destination? 1 (gap s).2
  if written.isEmpty then none
  let plain : Definition := { key, destination := unescape written }
  let untitled := (lineEnd? s).map fun rest => (plain, rest)
  let (feeds, t) := gap s
  if feeds = 0 && t.length = s.length then untitled
  else
    match title? t with
    | some (title, t) =>
      match lineEnd? t with
      | some rest => some ({ plain with title }, rest)
      | none => untitled
    | none => untitled

/-- The first definition with the given key. -/
def find? (definitions : List Definition) (key : List Char) : Option Definition :=
  definitions.find? fun d => d.key == key

end Definition
end NoteDesk.Markdown
