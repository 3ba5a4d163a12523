import NoteDesk.Markup.Entity
import NoteDesk.Text.Blank

/-!
# Tags

* `Element` is what the name of a tag means for the text it is turned into.
* `Tag.ofText` reads what stands between `<` and `>`.
* `Tag.attribute?` finds a quoted attribute.
-/

namespace NoteDesk.Markup

/-- The elements that leave something behind, by what that is. -/
inductive Element where
  | paragraph
  | line
  | feed
  | rule
  | heading (level : Nat)
  | list
  | item
  | strong
  | emphasis
  | strike
  | code
  | preformatted
  | cell
  | link
  | todo
  | other
  deriving DecidableEq, Repr

/-- The element of a tag with the given name in lower case. -/
def Element.ofName (name : String) : Element :=
  match name with
  | "p" | "blockquote" | "table" => paragraph
  | "div" | "tr" => line
  | "br" => feed
  | "hr" => rule
  | "h1" => heading 1
  | "h2" => heading 2
  | "h3" => heading 3
  | "h4" => heading 4
  | "h5" => heading 5
  | "h6" => heading 6
  | "ul" | "ol" => list
  | "li" => item
  | "strong" | "b" => strong
  | "em" | "i" => emphasis
  | "del" | "s" => strike
  | "code" => code
  | "pre" => preformatted
  | "td" | "th" => cell
  | "a" => link
  | "en-todo" => todo
  | _ => other

/-- A tag, opening or closing an element. -/
structure Tag where
  element : Element
  closing : Bool
  /-- All between the angle brackets. -/
  source : List Char
  deriving DecidableEq, Repr

namespace Tag

/-- The tag written between angle brackets: slashes, a name, and anything after it. -/
def ofText (s : List Char) : Tag :=
  let name := (s.dropWhile (· == '/')).takeWhile fun c => !(Text.isBlank c || c == '/')
  { element := Element.ofName (String.ofList (name.map Char.toLower))
    closing := s.head? = some '/'
    source := s }

/-- The value after `name=` in either kind of quotes. Double quotes are looked for first; if they
are opened and never closed, there is no value. -/
def attribute? (t : Tag) (name : String) : Option (List Char) :=
  match Text.breakAt (name.toList ++ ['=', '"']) t.source with
  | some (_, value) => (Text.breakAtChar '"' value).map fun (v, _) => Entity.decodeAll v
  | none =>
    match Text.breakAt (name.toList ++ ['=', '\'']) t.source with
    | some (_, value) => (Text.breakAtChar '\'' value).map fun (v, _) => Entity.decodeAll v
    | none => none

end Tag
end NoteDesk.Markup
