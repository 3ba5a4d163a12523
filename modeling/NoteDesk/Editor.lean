import NoteDesk.Directory

/-!
# Editors

An editor is handed a document, given by its content, and leaves something where the document was.
All that a session knows of an editor is this, so an `Editor` is a function.
-/

namespace NoteDesk

/-- What an editor leaves. -/
structure Edited where
  /-- What stands where the document was; nothing if it is gone. -/
  document : Option (Directory.Entry Bytes)
  result : Except EditorError Unit

/-- From the content of a document to what is left of it. -/
abbrev Editor := Bytes → Edited

namespace Edited

/-- The document is as it was. -/
def untouched (document : Bytes) (result : Except EditorError Unit) : Edited :=
  ⟨some (.file document), result⟩

end Edited

namespace Editor

/-- An editor that changes nothing. -/
def idle : Editor :=
  fun document => .untouched document (.ok ())

end Editor
end NoteDesk
