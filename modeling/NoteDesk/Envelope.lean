import NoteDesk.Text.Blank
import NoteDesk.Text.Search

/-!
# The envelope of wire content

The service keeps the markup of a note inside a declaration, a document type and a root element.

* `Envelope.wrap` puts markup into the envelope.
* `Envelope.unwrap` takes it out again. Content without a root element is markup already.
-/

namespace NoteDesk.Envelope

/-- Declaration and document type. -/
def prologue : String :=
  "<?xml version=\"1.0\" encoding=\"UTF-8\"?><!DOCTYPE en-note SYSTEM \"http://xml.evernote.com/pub/enml2.dtd\">"

/-- The document that holds the markup. -/
def wrap (inner : String) : String :=
  prologue ++ "<en-note>" ++ inner ++ "</en-note>"

/-- A document that holds nothing. -/
def empty : String :=
  wrap ""

/-- The markup in a document: all between the first opening of a root element and the last close
of one. A root element that closes itself, or whose opening tag never ends, holds nothing. -/
def unwrapText (s : List Char) : List Char :=
  match Text.breakAt "<en-note".toList s with
  | none => Text.trim s
  | some (_, rest) =>
    match Text.breakAtChar '>' rest with
    | none => []
    | some (attributes, inner) =>
      if attributes.getLast? = some '/' then []
      else
        match Text.breakAtLast "</en-note>".toList inner with
        | none => inner
        | some (markup, _) => markup

/-- The markup in a document. -/
def unwrap (content : String) : String :=
  String.ofList (unwrapText content.toList)

end NoteDesk.Envelope
