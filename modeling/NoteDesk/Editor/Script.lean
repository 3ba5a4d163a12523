import NoteDesk.Editor
import NoteDesk.Text.Search

/-!
# Scripted editing

A script is a list of changes, made to a document one after the other. It ends early when it puts
something else in the document's place or gives up.
-/

namespace NoteDesk.Editor

/-- A change made by a script. -/
inductive Change where
  /-- Replace every occurrence of a text; a document that is no text stays as it is. -/
  | replace (pattern replacement : List Char)
  | set (content : Bytes)
  | append (content : Bytes)
  | prepend (content : Bytes)
  /-- Delete the document and end. -/
  | remove
  /-- Put an empty folder in the document's place and end. -/
  | makeFolder
  /-- End without success. -/
  | fail (reason : String)
  deriving DecidableEq, Repr

/-- Every occurrence of a text in a document replaced. -/
def replaceText (pattern replacement : List Char) (document : Bytes) : Bytes :=
  match Utf8.decode? document with
  | none => document
  | some s => Utf8.encode (Text.replaceAll pattern replacement s)

/-- The editor that makes the given changes in order. -/
def script : List Change → Editor
  | [], document => .untouched document (.ok ())
  | .replace pattern replacement :: rest, document =>
    script rest (replaceText pattern replacement document)
  | .set content :: rest, _ => script rest content
  | .append content :: rest, document => script rest (document ++ content)
  | .prepend content :: rest, document => script rest (content ++ document)
  | .remove :: _, _ => ⟨none, .ok ()⟩
  | .makeFolder :: _, _ => ⟨some .folder, .ok ()⟩
  | .fail reason :: _, document => .untouched document (.error (.gaveUp reason))

end NoteDesk.Editor
