import NoteDesk.Proofs.Cache
import NoteDesk.Proofs.Document
import NoteDesk.Proofs.Lookup

/-!
# What an editor is handed, and what is read back

An edit session writes a note to a document (`Work.written`), has the document edited, and reads
the note back from whatever stands under its name then (`Work.readBack`).

* `Work.perform_write`: a new document can be written, and then it is all there.
* `Work.perform_editIn`: nothing can go wrong before the editor is handed the document.
* `Work.perform_readBack`: what is read back from a file.
-/

namespace NoteDesk

/-- The desk after a document was handed to the editor. -/
def Desk.afterEdit (d : Desk) (name : String) (content : Bytes) : Desk :=
  { d with
    cache := d.cache.replace name (d.editor content).document
    handed := d.handed ++ [(name, content)] }

/-- The desk with a file in the place of a document. -/
def Desk.replaced (d : Desk) (name : String) (content : Bytes) : Desk :=
  { d with cache := d.cache.replace name (some (.file content)) }

namespace Work

variable {α : Type} {d : Desk}

/-! ## Documents -/

theorem perform_documentName (n : Note) (m : EditMode) (d : Desk) :
    ∃ name d', (documentName n m).perform d = (.ok name, d') ∧
      d' = { d with drafts := d'.drafts } := by
  rw [documentName, perform_mk]
  split
  · exact ⟨_, _, rfl, rfl⟩
  · exact ⟨_, d, rfl, rfl⟩

theorem perform_withDocument_of_error {name : String} {cause : Failure}
    (h : d.cache.create name = .error cause) (use : Cache.Document → Work α) :
    (withDocument name use).perform d = (.error cause, d) := by
  rw [withDocument, perform_mk, h]

theorem perform_withDocument_of_ok {name : String} {document : Cache.Document} {cache : Cache}
    (h : d.cache.create name = .ok (document, cache)) (use : Cache.Document → Work α) :
    (withDocument name use).perform d =
      (((use document).perform { d with cache }).1,
        { ((use document).perform { d with cache }).2 with
          cache := ((use document).perform { d with cache }).2.cache.discard name }) := by
  rw [withDocument, perform_mk, h]

theorem perform_reread {document : Cache.Document} {content : Bytes}
    (h : d.cache.find? document.name = some (.file content)) :
    (reread document).perform d = (.ok content, d) := by
  obtain ⟨opened, read, hopened, hread⟩ := Cache.read_reopen h
  rw [reread, changeCache, perform_mk]
  simp only [hopened, hread, bind, Except.bind, pure, Except.pure]

/-- The editor is handed what stands in the file. -/
theorem perform_edit {name : String} {content : Bytes}
    (h : d.cache.find? name = some (.file content)) :
    (edit name).perform d =
      ((d.editor content).result.mapError .editor, d.afterEdit name content) := by
  have found : d.cache.content? name = some content := by rw [Cache.content?, h]
  rw [edit, perform_mk, found]
  rfl

end Work

/-- The note read, if the document was read to its end. -/
def Document.Parsed.value (p : Parsed) : Except Failure Note :=
  p.result.map fun _ => p.note

theorem Document.Parsed.eq_of_value {p : Parsed} {n : Note} (h : p.value = .ok n) :
    p = ⟨n, .ok ()⟩ := by
  rcases p with ⟨note, result⟩
  cases result with
  | ok _ => rw [← Except.ok.inj h]
  | error cause => cases h

namespace Work

variable {α : Type} {d : Desk}

/-! ## Writing and reading a note -/

/-- The document of a note, as the bytes of its file. -/
def written (n : Note) (m : EditMode) : Bytes :=
  Utf8.encode (Document.render n m)

/-- The note as it is read from what stands under the name of a document. -/
def readBack (n : Note) (m : EditMode) (name : String) : Work Note := do
  let parsed := Document.parse (← reread ⟨name, none⟩) n m
  parsed.result
  return parsed.note

theorem editIn_eq (n : Note) (m : EditMode) (document : Cache.Document) :
    editIn n m document = (do
      let n ← prepared n m
      let document ← changeCache (document.write (written n m))
      if m.stdin then readBack n m document.name
      else
        edit document.name
        readBack n m document.name) := rfl

theorem perform_readBack {n : Note} {m : EditMode} {name : String} {content : Bytes}
    (h : d.cache.find? name = some (.file content)) :
    (readBack n m name).perform d = ((Document.parse content n m).value, d) := by
  have again : (reread ⟨name, none⟩).perform d = (.ok content, d) := perform_reread h
  rw [readBack, perform_bind_of_ok again, perform_bind, perform_liftM, Document.Parsed.value]
  cases (Document.parse content n m).result with
  | ok _ => rfl
  | error cause => rfl

section

variable {document : Cache.Document} (start : document.AtStart d.cache)
include start

/-- A new document can be written, and then it is all there. -/
theorem perform_write (content : Bytes) :
    ∃ document', document'.name = document.name ∧
      (changeCache (document.write content)).perform d =
        (.ok document', d.replaced document.name content) := by
  obtain ⟨document', hname, hwrite⟩ := Cache.write_atStart start content
  refine ⟨document', hname, ?_⟩
  rw [changeCache, perform_mk, hwrite]
  rfl

theorem find?_replaced (content : Bytes) :
    (d.replaced document.name content).cache.find? document.name = some (.file content) :=
  (Cache.find?_replace_file start.find?_eq content _).trans (if_pos rfl)

/-- The editor is handed the note as it was written. -/
theorem perform_edit_replaced (content : Bytes) :
    (edit document.name).perform (d.replaced document.name content) =
      ((d.editor content).result.mapError .editor,
        (d.replaced document.name content).afterEdit document.name content) :=
  perform_edit (find?_replaced start content)

/-- **Nothing can go wrong before the editor is handed the document.** -/
theorem perform_editIn {n : Note} {m : EditMode} (hm : m.stdin = false) :
    (editIn n m document).perform d = (do
      edit document.name
      readBack n m document.name : Work Note).perform
        (d.replaced document.name (written n m)) := by
  obtain ⟨document', hname, wrote⟩ := perform_write start (written n m)
  have prepared : (prepared n m).perform d = (.ok n, d) := by
    rw [Work.prepared, hm]
    rfl
  rw [editIn_eq, perform_bind_of_ok prepared, perform_bind_of_ok wrote, hname, hm]
  rfl

end

end Work
end NoteDesk
