import NoteDesk.Proofs.Left

/-!
# Edits that change nothing

An editor that leaves its document as it was leaves nothing to save: the note reads back with its
title trimmed and its content in normal form (`Work.asRead`), and so did the note that the session
compares it with.

* `Work.perform_editDocument_untouched` follows the document to the editor and back.
* `Work.editNote_untouched`: the session says that nothing changed, and nothing was saved.
-/

namespace NoteDesk

namespace Work

variable {n : Note} {m : EditMode} {d : Desk}

/-- A note as its own document reads back, apart from the notebook. -/
def asRead (n : Note) (m : EditMode) : Note :=
  ({ n with title := Text.trimmed n.title } : Note).withContent m.raw
    (String.ofList (Document.normal (n.content m.raw).toList))

theorem parse_written (ht : '\n' ∉ n.title.toList) (hn : '\n' ∉ n.notebookName.toList)
    (trimmed : Text.trim n.notebookName.toList = n.notebookName.toList) :
    Document.parse (written n m) n m = ⟨asRead n m, .ok ()⟩ := by
  have same : Header.rename { n with title := Text.trimmed n.title } n.notebookName.toList =
      { n with title := Text.trimmed n.title } :=
    Header.rename_notebookName { n with title := Text.trimmed n.title }
  rw [written, Document.parse_render ht hn, trimmed, same]
  rfl

theorem fingerprint_asRead (n : Note) (m : EditMode) :
    Fingerprint.of (asRead n m) m.raw = ⟨Text.trimmed n.title ++
      String.ofList (Document.normal (n.content m.raw).toList)⟩ := by
  rw [Fingerprint.of, asRead, Note.title_withContent, Note.content_withContent]

/-- The fingerprint that a session compares with, taken before the notebook was looked up. -/
theorem fingerprint_roundTrip (ht : '\n' ∉ n.title.toList) (hn : '\n' ∉ n.notebookName.toList) :
    ∃ echoed, Document.roundTrip n m = .ok echoed ∧
      Fingerprint.of echoed m.raw = Fingerprint.of (asRead n m) m.raw := by
  refine ⟨_, Document.roundTrip_eq ht hn m, ?_⟩
  rw [fingerprint_asRead, Fingerprint.of, Note.title_withContent, Note.content_withContent,
    Header.title_rename]

/-! ## Sessions -/

variable (hm : m.stdin = false) (ht : '\n' ∉ n.title.toList) (hn : '\n' ∉ n.notebookName.toList)
  (trimmed : Text.trim n.notebookName.toList = n.notebookName.toList)
  (untouched : (d.editor (written n m)).document = some (.file (written n m)))
include hm ht hn trimmed untouched

/-- A document that the editor leaves untouched reads back as `asRead`, unless the editor reports a
failure. -/
theorem perform_editDocument_untouched
    (reached : ((editDocument n m).perform d).2.handed ≠ d.handed) :
    ((editDocument n m).perform d).1 =
        ((d.editor (written n m)).result.mapError Failure.editor).map (fun _ => asRead n m) ∧
      ∃ name, ((editDocument n m).perform d).2.handed = d.handed ++ [(name, written n m)] := by
  have named : (asRead n m).notebookName = n.notebookName := Note.notebookName_withContent ..
  rcases perform_editDocument_left hm untouched (parse_written ht hn trimmed) with
    ⟨name, cause, d₁, -, same, -, ended⟩ | ⟨name, d₁, result, d₂, -, handed, after, ended⟩
  · rw [ended] at reached
    exact absurd same reached
  · rw [refreshNotebook_of_eq named, perform_bind, perform_liftM] at after
    rw [ended]
    cases hresult : (d.editor (written n m)).result with
    | error cause =>
      rw [hresult] at after
      obtain ⟨rfl, rfl⟩ := Prod.mk.inj after
      exact ⟨rfl, name, handed⟩
    | ok _ =>
      rw [hresult] at after
      obtain ⟨rfl, rfl⟩ := Prod.mk.inj after
      exact ⟨rfl, name, handed⟩

omit hm ht hn trimmed untouched

theorem unchanged_asRead {echoed : Note}
    (same : Fingerprint.of echoed m.raw = Fingerprint.of (asRead n m) m.raw) :
    Session.unchanged ⟨echoed, n, asRead n m⟩ m.raw = true := by
  have named : (asRead n m).notebookName = n.notebookName := Note.notebookName_withContent ..
  simp [Session.unchanged, Fingerprint.changed, same, named]

/-- **An edit that leaves its document untouched is no edit.** Whatever note the session works on,
if the editor leaves every byte of the document it was handed, the session says that nothing changed
(or passes the editor's failure on), and nothing was saved. -/
theorem editNote_untouched {title : String} {notebook : Option String} {m : EditMode}
    {d d₁ d₂ : Desk} {fetched n : Note}
    (found : (noteToEdit title notebook m).perform d = (.ok fetched, d₁))
    (resolved : (withNotebook fetched).perform d₁ = (.ok n, d₂))
    (hm : m.stdin = false)
    (reached : ((editNote title notebook m).perform d).2.handed ≠ d.handed)
    (ht : '\n' ∉ fetched.title.toList)
    (hf : '\n' ∉ fetched.notebookName.toList)
    (hn : '\n' ∉ n.notebookName.toList)
    (trimmed : Text.trim n.notebookName.toList = n.notebookName.toList)
    (untouched : (d.editor (written n m)).document = some (.file (written n m))) :
    ((editNote title notebook m).perform d).1 =
        ((d.editor (written n m)).result.mapError Failure.editor).map
          (fun _ => { messages := [.unchanged (Text.trimmed fetched.title)] }) ∧
      (∃ name, ((editNote title notebook m).perform d).2.handed =
        d.handed ++ [(name, written n m)]) ∧
      Desk.Unsaved d ((editNote title notebook m).perform d).2 := by
  obtain ⟨echoed, echo, same⟩ := fingerprint_roundTrip (m := m) ht hf
  have whole := perform_editNote found echo resolved
  obtain ⟨nb, hnb⟩ := perform_withNotebook_ok resolved
  have titled : n.title = fetched.title := by rw [hnb]
  have content : n.content m.raw = fetched.content m.raw := by rw [hnb, Note.content, Note.content]
  have same : Fingerprint.of echoed m.raw = Fingerprint.of (asRead n m) m.raw := by
    rw [same, fingerprint_asRead, fingerprint_asRead, titled, content]
  have looked : Desk.LooksUp d d₂ :=
    ((noteToEdit_looksUp title notebook m).of_eq found).trans
      ((withNotebook_looksUp fetched).of_eq resolved)
  have unsaved : Desk.Unsaved d ((editDocument n m).perform d₂).2 :=
    (Desk.Unsaved.ofLooksUp looked).trans (editDocument_unsaved n m d₂)
  rw [handed_editNote_eq found echo resolved, ← looked.handed] at reached
  rw [← looked.editor] at untouched ⊢
  rw [whole, perform_bind, ← looked.handed]
  obtain ⟨result, name, handed⟩ :=
    perform_editDocument_untouched hm (titled ▸ ht) hn trimmed untouched reached
  rcases he : (editDocument n m).perform d₂ with ⟨r, d₃⟩
  rw [he] at result handed unsaved
  obtain rfl := result
  cases (d₂.editor (written n m)).result with
  | error cause => exact ⟨rfl, ⟨name, handed⟩, unsaved⟩
  | ok _ =>
    have settled : settle ⟨echoed, n, asRead n m⟩ m =
        pure { messages := [.unchanged (Text.trimmed fetched.title)] } := by
      rw [settle, if_pos (unchanged_asRead same), asRead, Note.title_withContent, titled]
    dsimp only [Except.mapError, Except.map]
    rw [settled]
    exact ⟨rfl, ⟨name, handed⟩, unsaved⟩

/-- A note with padding around its title, delimiters and carriage returns in its content, and a
notebook that was given another name since. -/
def renamedAway : Note where
  guid := "n"
  title := " Groceries "
  md := "\n---\r\n---\r\r\n"
  notebook := some (.resolved { guid := "b", name := "Home" })

def renamedDesk : Desk where
  service := { notebooks := [{ guid := "b", name := "House" }] }
  store := .memory { recovery := some renamedAway }

theorem editNote_untouched_renamedDesk :
    ((editNote "" none { recovery := true }).perform renamedDesk).1 =
        .ok { messages := [.unchanged "Groceries"] } ∧
      Desk.Unsaved renamedDesk ((editNote "" none { recovery := true }).perform renamedDesk).2 := by
  have found : (noteToEdit "" none { recovery := true }).perform renamedDesk =
      (.ok renamedAway, renamedDesk) := rfl
  have resolved : (withNotebook renamedAway).perform renamedDesk =
      (.ok { renamedAway with notebook := some (.resolved { guid := "b", name := "House" }) },
        renamedDesk) := rfl
  obtain ⟨result, -, unsaved⟩ := editNote_untouched found resolved rfl (by decide +kernel)
    (by decide) (by decide) (by decide) (by decide) rfl
  exact ⟨result, unsaved⟩

end Work
end NoteDesk
