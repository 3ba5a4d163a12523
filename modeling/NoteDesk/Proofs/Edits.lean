import NoteDesk.Proofs.Session
import NoteDesk.Proofs.Stored

/-!
# What an edit can change

A document holds the title of a note, the name of its notebook and one of its contents. Whatever is
read from it, the note keeps its identifier, its times and its mark of deletion (`Note.EditedTo`).

* `Document.parse_editedTo` and `Document.otherContent_parse`: any document, read into any note.
* `Work.session_editedTo`: any session.
-/

namespace NoteDesk

/-- Only what a document holds may differ. -/
def Note.EditedTo (a b : Note) : Prop :=
  ∃ title notebook body md, b = { a with title, notebook, body, md }

namespace Note.EditedTo

variable {a b c : Note}

theorem refl (a : Note) : a.EditedTo a :=
  ⟨a.title, a.notebook, a.body, a.md, rfl⟩

theorem trans (h : a.EditedTo b) (h' : b.EditedTo c) : a.EditedTo c := by
  obtain ⟨_, _, _, _, rfl⟩ := h
  obtain ⟨title, notebook, body, md, rfl⟩ := h'
  exact ⟨title, notebook, body, md, rfl⟩

theorem guid (h : a.EditedTo b) : b.guid = a.guid := by
  obtain ⟨_, _, _, _, rfl⟩ := h
  rfl

theorem timesFit (h : a.EditedTo b) (fits : a.TimesFit) : b.TimesFit := by
  obtain ⟨_, _, _, _, rfl⟩ := h
  exact ⟨fits.created, fits.updated⟩

theorem withContent (n : Note) (raw : Bool) (text : String) :
    n.EditedTo (n.withContent raw text) := by
  cases raw with
  | true => exact ⟨n.title, n.notebook, text, n.md, rfl⟩
  | false => exact ⟨n.title, n.notebook, n.body, text, rfl⟩

theorem withNotebook (n : Note) (notebook : Option NotebookRef) : n.EditedTo { n with notebook } :=
  ⟨n.title, notebook, n.body, n.md, rfl⟩

end Note.EditedTo

/-- Only what a header holds may differ. -/
def Note.HeadedTo (a b : Note) : Prop :=
  ∃ title notebook, b = { a with title, notebook }

namespace Note.HeadedTo

variable {a b c : Note}

theorem refl (a : Note) : a.HeadedTo a :=
  ⟨a.title, a.notebook, rfl⟩

theorem trans (h : a.HeadedTo b) (h' : b.HeadedTo c) : a.HeadedTo c := by
  obtain ⟨_, _, rfl⟩ := h
  obtain ⟨title, notebook, rfl⟩ := h'
  exact ⟨title, notebook, rfl⟩

theorem editedTo (h : a.HeadedTo b) : a.EditedTo b := by
  obtain ⟨title, notebook, rfl⟩ := h
  exact ⟨title, notebook, a.body, a.md, rfl⟩

theorem content (h : a.HeadedTo b) (raw : Bool) : b.content raw = a.content raw := by
  obtain ⟨title, notebook, rfl⟩ := h
  rfl

end Note.HeadedTo

/-! ## Documents -/

open Note (EditedTo HeadedTo)

namespace Header

theorem rename_headedTo (n : Note) (name : List Char) : n.HeadedTo (rename n name) := by
  unfold rename
  split
  · exact .refl n
  · exact ⟨n.title, _, rfl⟩

theorem field_headedTo (n : Note) (line : List Char) : n.HeadedTo (field n line) := by
  unfold field
  split
  · exact ⟨_, n.notebook, rfl⟩
  · split
    · exact rename_headedTo n _
    · exact .refl n

theorem readFields_headedTo (n : Note) (lines : List Line) :
    n.HeadedTo (readFields n lines).note := by
  induction lines generalizing n with
  | nil => exact .refl n
  | cons line rest ih =>
    cases line with
    | none => exact .refl n
    | some line =>
      rw [readFields]
      split
      · exact .refl n
      · exact (field_headedTo n _).trans (ih _)

theorem read_headedTo (n : Note) (lines : List Line) : n.HeadedTo (read n lines).note := by
  induction lines with
  | nil => exact .refl n
  | cons line rest ih =>
    cases line with
    | none => exact .refl n
    | some line =>
      rw [read]
      split
      · exact readFields_headedTo n rest
      · exact ih

end Header

/-- Whatever stands in a document, a header is read first, and then perhaps a content. -/
theorem Document.parse_cases (document : Bytes) (n : Note) (m : EditMode) :
    ∃ headed, n.HeadedTo headed ∧ ((parse document n m).note = headed ∨
      ∃ text, (parse document n m).note = headed.withContent m.raw text) := by
  refine ⟨_, Header.read_headedTo n (Line.ofBytes document), ?_⟩
  rw [parse, parseLines]
  split
  · exact .inl rfl
  · split
    · exact .inl rfl
    · exact .inr ⟨_, rfl⟩

/-- Reading a document is an edit. -/
theorem Document.parse_editedTo (document : Bytes) (n : Note) (m : EditMode) :
    n.EditedTo (parse document n m).note := by
  obtain ⟨headed, header, read | ⟨text, read⟩⟩ := parse_cases document n m
  · rw [read]
    exact header.editedTo
  · rw [read]
    exact header.editedTo.trans (.withContent _ m.raw _)

/-- The content that the mode does not work on is not read. -/
theorem Document.otherContent_parse (document : Bytes) (n : Note) (m : EditMode) :
    (parse document n m).note.content (!m.raw) = n.content (!m.raw) := by
  obtain ⟨headed, header, read | ⟨text, read⟩⟩ := parse_cases document n m
  · rw [read, header.content]
  · rw [read, Note.content_not_withContent, header.content]

/-! ## Sessions -/

namespace Work

theorem prepared_editedTo (n : Note) (m : EditMode) : Gives n.EditedTo (prepared n m) := by
  unfold prepared
  split
  · exact .bind (.any _) fun text _ => .pure ⟨n.title, n.notebook, text, text, rfl⟩
  · exact .pure (.refl n)

theorem readBack_editedTo (n : Note) (m : EditMode) (name : String) :
    Gives n.EditedTo (readBack n m name) := by
  refine .bind (.any _) fun content _ => ?_
  refine .bind (.any _) fun _ _ => ?_
  exact .pure (Document.parse_editedTo content n m)

theorem withDocument_gives {α : Type} {P : α → Prop} (name : String) {use : Cache.Document → Work α}
    (h : ∀ document, Gives P (use document)) : Gives P (withDocument name use) := by
  intro d d' a ha
  cases hcreate : d.cache.create name with
  | error cause =>
    rw [perform_withDocument_of_error hcreate] at ha
    cases ha
  | ok created =>
    obtain ⟨document, cache⟩ := created
    rw [perform_withDocument_of_ok hcreate] at ha
    exact h document _ _ a (Prod.ext (Prod.mk.inj ha).1 rfl)

theorem editIn_editedTo (n : Note) (m : EditMode) (document : Cache.Document) :
    Gives n.EditedTo (editIn n m document) := by
  rw [editIn_eq]
  refine .bind (prepared_editedTo n m) fun p hp => ?_
  refine .bind (.any _) fun document _ => ?_
  have back : Gives n.EditedTo (readBack p m document.name) :=
    (readBack_editedTo p m _).mono fun _ h => hp.trans h
  split
  · exact back
  · exact .bind (.any _) fun _ _ => back

variable [Disk] [Connection]

theorem refreshNotebook_editedTo (n : Note) (before : String) :
    Gives n.EditedTo (refreshNotebook n before) := by
  unfold refreshNotebook
  split
  · exact .pure (.refl n)
  · exact .bind (.any _) fun nb _ => .pure (.withNotebook n _)

theorem editDocument_editedTo (n : Note) (m : EditMode) :
    Gives n.EditedTo (editDocument n m) := by
  refine .bind (.any _) fun name _ => withDocument_gives name ?_
  intro document
  exact .bind (editIn_editedTo n m document) fun edited h =>
    (refreshNotebook_editedTo edited _).mono fun _ h' => h.trans h'

/-- **A session gives an edit of the note that it opened.** -/
theorem session_editedTo (title : String) (notebook : Option String) (m : EditMode) :
    Gives (fun s => s.opened.EditedTo s.edited) (session title notebook m) := by
  refine .bind (.any _) fun fetched _ => ?_
  refine .bind (.any _) fun echoed _ => ?_
  refine .bind (.any _) fun opened _ => ?_
  exact .bind (editDocument_editedTo opened m) fun edited h => .pure h

end Work
end NoteDesk
